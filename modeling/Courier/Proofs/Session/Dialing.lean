import Courier.Proofs.Redaction
import Courier.Proofs.Session.Coherence
import Courier.Proofs.Session.Endpoint

/-! What a session logs of the access token when it dials. The token ends the address as the value of a
parameter, whose name is sensitive if the base URL has no query. A query in the base URL swallows the
path and that name: the token then counts to the last parameter of the base URL, and is logged unless
that one is sensitive. -/

namespace Courier.Session

open Redaction (EndsInSecret IsSecret Queried)
open Text.Percent (encode)

/-- Whether a base URL has no query, or one whose last parameter is sensitive. -/
def ShieldsToken (base : String) : Prop := '?' ∉ base.toList ∨ EndsInSecret base.toList

def Surroundings.withToken (env : Surroundings) (token : String) : Surroundings :=
  { env with token := some token }

def Effect.line? : Effect → Option LogLine
  | log line => some line
  | _ => none

def Turn.lines (t : Turn) : List LogLine := t.effects.filterMap Effect.line?

variable {base : String}

theorem append_ofList (before middle after : String) (host : List Char) :
    before ++ String.ofList host ++ middle ++ after =
      String.ofList (before.toList ++ (host ++ middle.toList) ++ after.toList) := by
  rw [String.ofList_append, String.ofList_append, String.ofList_append, String.ofList_toList,
    String.ofList_toList, String.ofList_toList, ← String.append_assoc]

/-- A base URL that is accepted is accepted for every token, which ends the address. -/
theorem endpoint_accepts {token url : String} (h : endpoint base token = .ok url) :
    ∃ scheme upgraded host slashes, base.toList = scheme ++ (host ++ slashes) ∧ '?' ∉ scheme ∧
      '?' ∉ upgraded ∧ (∀ c ∈ slashes, c = '/') ∧
      ∀ token, endpoint base token =
        .ok (String.ofList (upgraded ++ (host ++ tokenParameter.toList) ++ (encode token).toList)) := by
  obtain ⟨upgraded, host, hreaches, -⟩ := reaches_of_endpoint h
  obtain ⟨scheme, slashes, hscheme, hbase, hslashes⟩ := hreaches.parts
  have hplain : ∀ p ∈ upgrades, '?' ∉ p.1.toList ∧ '?' ∉ p.2.toList := by decide
  obtain ⟨hscheme', hupgraded⟩ := hplain _ hscheme
  refine ⟨scheme.toList, upgraded.toList, host, slashes, hbase, hscheme', hupgraded, hslashes, fun token => ?_⟩
  rw [hreaches.address, append_ofList]

/-- What follows a slash is of no account for the name of a parameter. -/
theorem isSecret_append_iff {p tail : List Char} (htail : ∀ c ∈ tail.head?, c = '/') :
    IsSecret (p ++ tail) ↔ IsSecret p := by
  constructor
  · rintro ⟨name, value, heq, hname⟩
    have hslash : '/' ∉ name := Redaction.not_mem_of_isSensitive hname (by decide)
    rcases List.append_eq_append_iff.mp heq with ⟨as, hname', htail'⟩ | ⟨as, hp, htail'⟩
    · -- the name would begin in `p` and end in `tail`
      cases as with
      | nil => exact absurd (htail '=' (by simp [htail'])) (by decide)
      | cons c as =>
        have hc : c = '/' := htail c (by simp [htail'])
        simp [hname', hc] at hslash
    · cases as with
      | nil => exact absurd (htail '=' (by rw [← List.nil_append tail, ← htail']; rfl)) (by decide)
      | cons c as =>
        obtain ⟨rfl, -⟩ := List.cons.inj htail'
        exact ⟨name, as, hp, hname⟩
  · rintro ⟨name, value, rfl, hname⟩
    exact ⟨name, value ++ tail, by simp, hname⟩

theorem head_tokenParameter : ∀ c ∈ tokenParameter.toList.head?, c = '/' := by
  have hhead : tokenParameter.toList.head? = some '/' := by decide
  intro c hc
  rw [hhead] at hc
  exact (Option.some.inj hc).symm

/-- How an address stands to its base URL: the token is covered in it and the base URL shields it, or
neither is the case. -/
theorem address_cases {scheme upgraded host slashes : List Char} (hbase : base.toList = scheme ++ (host ++ slashes))
    (hscheme : '?' ∉ scheme) (hupgraded : '?' ∉ upgraded) (hslashes : ∀ c ∈ slashes, c = '/') :
    let address := upgraded ++ (host ++ tokenParameter.toList)
    EndsInSecret address ∧ ShieldsToken base ∨
      (∃ front params last, Queried address front params last ∧ '=' ∈ last ∧ ¬ IsSecret last) ∧
        ¬ ShieldsToken base := by
  intro address
  have hno {c : Char} (hc : c ≠ '/') : c ∉ slashes := fun hmem => hc (hslashes c hmem)
  by_cases hquery : '?' ∈ host
  · obtain ⟨front, params, last, hhost⟩ := Redaction.exists_queried hquery
    have hb := (hhost.append (hno (by decide : '&' ≠ '/'))).prepend hscheme
    have ha := (hhost.append (by decide : '&' ∉ tokenParameter.toList)).prepend hupgraded
    have hsecret : EndsInSecret address ↔ IsSecret last := by
      rw [ha.endsInSecret_iff, isSecret_append_iff head_tokenParameter]
    have hshields : ShieldsToken base ↔ IsSecret last := by
      have hin : '?' ∈ base.toList := by simp [hbase, hquery]
      rw [ShieldsToken, or_iff_right (not_not.mpr hin), hbase, hb.endsInSecret_iff, isSecret_append_iff]
      intro c hc
      exact hslashes c (List.mem_of_mem_head? hc)
    by_cases hlast : IsSecret last
    · exact .inl ⟨hsecret.mpr hlast, hshields.mpr hlast⟩
    · refine .inr ⟨⟨_, _, _, ha, ?_, ?_⟩, fun h => hlast (hshields.mp h)⟩
      · exact List.mem_append_right _ (by decide)
      · rw [isSecret_append_iff head_tokenParameter]
        exact hlast
  · -- the parameter `token` is the only one
    refine .inl ⟨⟨upgraded ++ host ++ "/v1/ws".toList, [], "token=".toList, ⟨?_, ?_, ?_⟩, ?_⟩, .inl ?_⟩
    · simp only [address, List.append_assoc]
      rfl
    · simp [hupgraded, hquery]
    · decide
    · exact ⟨"token".toList, [], rfl, by decide⟩
    · simp [hbase, hscheme, hquery, hno (by decide : '?' ≠ '/')]

theorem amp_not_mem_encode (token : String) : '&' ∉ (encode token).toList :=
  Text.Percent.not_mem_encode rfl (by decide)

theorem lines_mk (s : State) (t : Turn) : Turn.lines ⟨s, t.effects⟩ = t.lines := rfl

theorem lines_act (t : Turn) (e : Effect) : (t.act e).lines = t.lines ++ e.line?.toList := by
  cases h : e.line? <;> simp [Turn.lines, Turn.act, h]

def phaseLine (old new : Phase) : List LogLine :=
  if old = new then [] else [.debug ("Session state " ++ old.text ++ " -> " ++ new.text)]

theorem lines_enter (t : Turn) (p : Phase) : (t.enter p).lines = t.lines ++ phaseLine t.state.phase p := by
  unfold Turn.enter phaseLine
  by_cases hp : t.state.phase = p
  · simp [hp, Turn.publish, Turn.lines, Turn.act, Effect.line?]
  · simp [hp, Turn.publish, Turn.log, Turn.lines, Turn.act, Effect.line?]

theorem lines_begin {cfg : Config} {env : Surroundings} {url : String} (haddress : Turn.address cfg env = .ok url)
    (t : Turn) :
    (t.begin cfg env).1.lines = t.lines ++ [.info ("Connecting to " ++ Redaction.url url)] ++
      phaseLine t.state.phase .connecting := by
  unfold Turn.begin
  rw [haddress]
  simp [Turn.emit, Turn.log, lines_act, lines_mk, lines_enter, Effect.line?]

/-- What is logged when an attempt begins is the same for all tokens if and only if the base URL shields
the token. -/
theorem dialing_hides_token_iff (cfg : Config) (env : Surroundings) (t : Turn)
    (haccepted : ∃ token url, endpoint cfg.baseUrl token = .ok url) :
    (∀ a b, (t.begin cfg (env.withToken a)).1.lines = (t.begin cfg (env.withToken b)).1.lines) ↔
      ShieldsToken cfg.baseUrl := by
  obtain ⟨token, url, haccepted⟩ := haccepted
  obtain ⟨scheme, upgraded, host, slashes, hbase, hscheme, hupgraded, hslashes, haddress⟩ :=
    endpoint_accepts haccepted
  have hlines (a b : String) :
      (t.begin cfg (env.withToken a)).1.lines = (t.begin cfg (env.withToken b)).1.lines ↔
        Redaction.url (String.ofList (upgraded ++ (host ++ tokenParameter.toList) ++ (encode a).toList)) =
          Redaction.url (String.ofList (upgraded ++ (host ++ tokenParameter.toList) ++ (encode b).toList)) := by
    have hbegins (a : String) : Turn.address cfg (env.withToken a) = .ok _ := haddress a
    rw [lines_begin (hbegins a), lines_begin (hbegins b)]
    simp [LogLine.info]
  simp only [hlines]
  rcases address_cases hbase hscheme hupgraded hslashes with ⟨hsecret, hshields⟩ | ⟨⟨_, _, _, hq, heq, hplain⟩, hno⟩
  · refine ⟨fun _ => hshields, fun _ a b => ?_⟩
    rw [Redaction.url_append_of_endsInSecret hsecret (amp_not_mem_encode a),
      Redaction.url_append_of_endsInSecret hsecret (amp_not_mem_encode b)]
  · refine ⟨fun hsame => ?_, fun hshields => absurd hshields hno⟩
    have htold := hsame "a" "b"
    rw [Redaction.url_append_of_not hq hplain heq (amp_not_mem_encode "a"),
      Redaction.url_append_of_not hq hplain heq (amp_not_mem_encode "b"), String.append_right_inj] at htold
    exact absurd htold (by decide +kernel)

def guarded : Config := { baseUrl := "https://h:81/p?page=1&Code=7/" }

theorem dialing_hides_token_guarded :
    ShieldsToken guarded.baseUrl ∧ (∃ token url, endpoint guarded.baseUrl token = .ok url) ∧
    ∀ a b, (Turn.begin guarded ((calmAt 0).withToken a) { state := .initial }).1.lines =
      (Turn.begin guarded ((calmAt 0).withToken b) { state := .initial }).1.lines := by
  have hshields : ShieldsToken guarded.baseUrl := by
    have hcode : IsSecret "Code=7/".toList := ⟨"Code".toList, "7/".toList, by decide, by decide⟩
    exact .inr ⟨"https://h:81/p".toList, ["page=1".toList], _, ⟨by decide, by decide, by decide⟩, hcode⟩
  have haccepted : ∃ token url, endpoint guarded.baseUrl token = .ok url := ⟨"", _, rfl⟩
  exact ⟨hshields, haccepted, (dialing_hides_token_iff guarded (calmAt 0) _ haccepted).mpr hshields⟩

/-- A query in the base URL puts the token into the log. -/
theorem token_is_logged :
    let queried : Config := { baseUrl := "http://h?x=1" }
    (∃ token url, endpoint queried.baseUrl token = .ok url) ∧
    (Turn.begin queried ((calmAt 0).withToken "a") { state := .initial }).1.lines ≠
      (Turn.begin queried ((calmAt 0).withToken "b") { state := .initial }).1.lines :=
  ⟨⟨"", _, rfl⟩, by decide +kernel⟩

end Courier.Session

import Courier.Proofs.Text.Cut
import Courier.Proofs.Text.Percent
import Courier.Session.Endpoint

/-! The address of the real-time channel. A base URL has one if something other than slashes follows a
known scheme. The token stands at the end of the address, encoded in letters, digits and percent triples; so
it can be read off the address, and leaves the parameters in front of it as they are. -/

namespace Courier

open Text (cutFirst cutAll dropEnd)
open Text.Percent (IsEncoded decode? encode)

theorem Http.afterScheme?_eq_some_iff {scheme url : String} {rest : List Char} :
    afterScheme? scheme url = some rest ↔ url.toList = scheme.toList ++ rest := by
  rw [afterScheme?, List.isPrefixOf?_eq_some_iff_append_eq, eq_comm]

namespace Session

def upgrades : List (String × String) :=
  [("https://", "wss://"), ("http://", "ws://"), ("wss://", "wss://"), ("ws://", "ws://")]

/-- Whether a base URL has none of the schemes, or nothing but slashes behind it. -/
def IsHostless (base : String) : Prop :=
  ∀ p ∈ upgrades, ∀ rest, base.toList = p.1.toList ++ rest → ∀ c ∈ rest, c = '/'

/-- Whether a base URL is `host`, with a path perhaps, behind a scheme that becomes `upgraded`. Slashes at
its end do not count. -/
structure Reaches (base upgraded : String) (host : List Char) : Prop where
  parts : ∃ scheme slashes, (scheme, upgraded) ∈ upgrades ∧
    base.toList = scheme.toList ++ (host ++ slashes) ∧ ∀ c ∈ slashes, c = '/'
  nonempty : host ≠ []
  trimmed : host.getLast? ≠ some '/'

def tokenParameter : String := "/v1/ws?token="

variable {base base' token token' url url' upgraded : String} {rest host : List Char}

theorem splitScheme?_eq_some_iff :
    splitScheme? base = some (upgraded, rest) ↔
      ∃ scheme, (scheme, upgraded) ∈ upgrades ∧ base.toList = scheme.toList ++ rest := by
  constructor
  · intro h
    unfold splitScheme? at h
    split at h
    case h_1 hscheme =>
      cases h
      exact ⟨"https://", by decide, Http.afterScheme?_eq_some_iff.mp hscheme⟩
    split at h
    case h_1 hscheme =>
      cases h
      exact ⟨"http://", by decide, Http.afterScheme?_eq_some_iff.mp hscheme⟩
    split at h
    case h_1 hscheme =>
      cases h
      exact ⟨"wss://", by decide, Http.afterScheme?_eq_some_iff.mp hscheme⟩
    obtain ⟨rest', hscheme, heq⟩ := Option.map_eq_some_iff.mp h
    cases heq
    exact ⟨"ws://", by decide, Http.afterScheme?_eq_some_iff.mp hscheme⟩
  · rintro ⟨scheme, hmem, hbase⟩
    -- no scheme is the beginning of another one
    simp only [upgrades, List.mem_cons, Prod.mk.injEq, List.not_mem_nil, or_false] at hmem
    unfold splitScheme? Http.afterScheme?
    rw [hbase]
    rcases hmem with ⟨rfl, rfl⟩ | ⟨rfl, rfl⟩ | ⟨rfl, rfl⟩ | ⟨rfl, rfl⟩ <;> rfl

theorem endpoint_eq (hsplit : splitScheme? base = some (upgraded, rest)) (token : String) :
    endpoint base token = if dropEnd '/' rest = [] then .error (.config "base_url has no host") else
      .ok (upgraded ++ String.ofList (dropEnd '/' rest) ++ tokenParameter ++ encode token) := by
  unfold endpoint
  rw [hsplit]
  dsimp only
  cases dropEnd '/' rest with
  | nil => rw [if_pos rfl]
  | cons c cs => rw [if_neg (List.cons_ne_nil c cs), tokenParameter]

theorem Reaches.address (h : Reaches base upgraded host) (token : String) :
    endpoint base token = .ok (upgraded ++ String.ofList host ++ tokenParameter ++ encode token) := by
  obtain ⟨scheme, slashes, hscheme, hbase, hslashes⟩ := h.parts
  have hhost : dropEnd '/' (host ++ slashes) = host := by
    rw [Text.dropEnd_append_of_forall hslashes, Text.dropEnd_of_getLast? h.trimmed]
  rw [endpoint_eq (splitScheme?_eq_some_iff.mpr ⟨scheme, hscheme, hbase⟩), hhost, if_neg h.nonempty]

/-- Every base URL that is not hostless reaches a host. -/
theorem exists_reaches (h : ¬ IsHostless base) : ∃ upgraded host, Reaches base upgraded host := by
  unfold IsHostless at h
  push Not at h
  obtain ⟨⟨scheme, upgraded⟩, hscheme, rest, hbase, c, hc, hslash⟩ := h
  obtain ⟨slashes, hrest, hslashes⟩ := Text.dropEnd_append '/' rest
  refine ⟨upgraded, dropEnd '/' rest, ⟨scheme, slashes, hscheme, ?_, hslashes⟩, ?_, ?_⟩
  · rw [hrest, hbase]
  · intro hnil
    exact hslash (Text.dropEnd_eq_nil_iff.mp hnil c hc)
  · exact Text.getLast?_dropEnd '/' rest

theorem isHostless_iff (hsplit : splitScheme? base = some (upgraded, rest)) :
    IsHostless base ↔ dropEnd '/' rest = [] := by
  rw [Text.dropEnd_eq_nil_iff]
  constructor
  · intro h
    obtain ⟨scheme, hscheme, hbase⟩ := splitScheme?_eq_some_iff.mp hsplit
    exact h _ hscheme rest hbase
  · intro h p hp rest' hbase
    have hsplit' := splitScheme?_eq_some_iff.mpr ⟨p.1, hp, hbase⟩
    rw [hsplit, Option.some.injEq, Prod.mk.injEq] at hsplit'
    rwa [← hsplit'.2]

theorem endpoint_of_isHostless (h : IsHostless base) (token : String) :
    ∃ detail, endpoint base token = .error (.config detail) := by
  cases hsplit : splitScheme? base with
  | none =>
    unfold endpoint
    rw [hsplit]
    exact ⟨_, rfl⟩
  | some parts =>
    obtain ⟨upgraded, rest⟩ := parts
    rw [endpoint_eq hsplit, if_pos ((isHostless_iff hsplit).mp h)]
    exact ⟨_, rfl⟩

theorem reaches_of_endpoint (h : endpoint base token = .ok url) :
    ∃ upgraded host, Reaches base upgraded host ∧
      url = upgraded ++ String.ofList host ++ tokenParameter ++ encode token := by
  have hhost : ¬ IsHostless base := by
    intro hnone
    obtain ⟨detail, herror⟩ := endpoint_of_isHostless hnone token
    rw [herror] at h
    cases h
  obtain ⟨upgraded, host, hreaches⟩ := exists_reaches hhost
  rw [hreaches.address] at h
  exact ⟨upgraded, host, hreaches, (Except.ok.inj h).symm⟩

/-- The parameters of an address as they are written, between the first question mark and the fragment. -/
def parameters (url : List Char) : List (List Char) :=
  match cutFirst '?' (url.takeWhile (· != '#')) with
  | none => []
  | some (_, query) => cutAll '&' query

def parameterName (p : List Char) : List Char := p.takeWhile (· != '=')

theorem parameters_of_fragment {front : List Char} (h : '#' ∈ front) (tail : List Char) :
    parameters (front ++ tail) = parameters front := by
  rw [parameters, Text.takeWhile_append_of_mem h, parameters]

theorem toList_tokenParameter :
    tokenParameter.toList = "/v1/ws".toList ++ '?' :: "token=".toList := by decide

/-- The encoded token goes to the last parameter. -/
theorem exists_parameters {front : List Char} (h : '#' ∉ front) :
    ∃ others last, ('?' ∉ front → others = [] ∧ last = []) ∧
      ∀ token, parameters (front ++ tokenParameter.toList ++ (encode token).toList) =
        others ++ [last ++ "token=".toList ++ (encode token).toList] := by
  have hwhole (token : String) : (front ++ tokenParameter.toList ++ (encode token).toList).takeWhile (· != '#') =
      front ++ tokenParameter.toList ++ (encode token).toList := by
    apply Text.takeWhile_of_not_mem
    simp only [List.mem_append, not_or]
    exact ⟨⟨h, by decide⟩, Text.Percent.not_mem_encode rfl (by decide)⟩
  have hamp (token : String) : '&' ∉ (encode token).toList := Text.Percent.not_mem_encode rfl (by decide)
  simp only [parameters, hwhole]
  cases hcut : cutFirst '?' front with
  | none =>
    have hfront := Text.cutFirst_eq_none.mp hcut
    refine ⟨[], [], fun _ => ⟨rfl, rfl⟩, fun token => ?_⟩
    have hpath : '?' ∉ front ++ "/v1/ws".toList := by
      rw [List.mem_append, not_or]
      exact ⟨hfront, by decide⟩
    have haddress : front ++ tokenParameter.toList ++ (encode token).toList =
        (front ++ "/v1/ws".toList) ++ '?' :: ("token=".toList ++ (encode token).toList) := by
      simp only [toList_tokenParameter, List.append_assoc, List.cons_append]
    have hone : '&' ∉ "token=".toList ++ (encode token).toList := by
      rw [List.mem_append, not_or]
      exact ⟨by decide, hamp token⟩
    rw [haddress, Text.cutFirst_append hpath]
    exact Text.cutAll_of_not_mem hone
  | some parts =>
    -- the base URL has a query, which goes on to the end
    obtain ⟨before, query⟩ := parts
    obtain ⟨rfl, hbefore⟩ := Text.cutFirst_eq_some.mp hcut
    obtain ⟨others, last, hquery⟩ := Text.exists_cutAll_append '&' query
    refine ⟨others, last ++ "/v1/ws".toList ++ ['?'], fun hno => absurd (by simp) hno, fun token => ?_⟩
    have htail : '&' ∉ tokenParameter.toList ++ (encode token).toList := by
      rw [List.mem_append, not_or]
      exact ⟨by decide, hamp token⟩
    rw [List.append_assoc, List.append_assoc, List.cons_append, Text.cutFirst_append hbefore]
    dsimp only
    rw [hquery _ htail]
    simp only [toList_tokenParameter, List.append_assoc, List.cons_append, List.nil_append]

/-- Whether two addresses have the same parameters but for the value of the last. -/
def SameParameters (url url' : String) : Prop :=
  (parameters url.toList).map parameterName = (parameters url'.toList).map parameterName ∧
    (parameters url.toList).dropLast = (parameters url'.toList).dropLast

theorem Reaches.toList (h : Reaches base upgraded host) (hurl : endpoint base token = .ok url) :
    url.toList = upgraded.toList ++ host ++ tokenParameter.toList ++ (encode token).toList := by
  rw [h.address] at hurl
  rw [← Except.ok.inj hurl]
  simp only [String.toList_append, String.toList_ofList]

theorem sameParameters (h : endpoint base token = .ok url) (h' : endpoint base token' = .ok url') :
    SameParameters url url' := by
  obtain ⟨upgraded, host, hreaches, -⟩ := reaches_of_endpoint h
  unfold SameParameters
  rw [hreaches.toList h, hreaches.toList h']
  by_cases hfragment : '#' ∈ upgraded.toList ++ host
  · rw [List.append_assoc, parameters_of_fragment hfragment, List.append_assoc,
      parameters_of_fragment hfragment]
    exact ⟨rfl, rfl⟩
  · obtain ⟨others, last, -, hparameters⟩ := exists_parameters hfragment
    rw [hparameters, hparameters]
    have hname (token : String) : parameterName (last ++ "token=".toList ++ (encode token).toList) =
        parameterName (last ++ "token=".toList) :=
      Text.takeWhile_append_of_mem (List.mem_append_right _ (by decide)) _
    simp only [List.map_append, List.map_cons, List.map_nil, hname, List.dropLast_concat, and_self]

theorem parameters_of_plain (h : endpoint base token = .ok url) (hquery : '?' ∉ base.toList)
    (hfragment : '#' ∉ base.toList) : parameters url.toList = ["token=".toList ++ (encode token).toList] := by
  obtain ⟨upgraded, host, hreaches, -⟩ := reaches_of_endpoint h
  obtain ⟨scheme, slashes, hscheme, hbase, -⟩ := hreaches.parts
  have hplain : ∀ p ∈ upgrades, '?' ∉ p.2.toList ∧ '#' ∉ p.2.toList := by decide
  obtain ⟨hquery', hfragment'⟩ := hplain _ hscheme
  simp only [hbase, List.mem_append, not_or] at hquery hfragment
  have hfront : '#' ∉ upgraded.toList ++ host := by simp [hfragment', hfragment]
  obtain ⟨others, last, hnone, hparameters⟩ := exists_parameters hfront
  obtain ⟨rfl, rfl⟩ := hnone (by simp [hquery', hquery])
  rw [hreaches.toList h, hparameters]
  rfl

/-- The token follows the last equals sign. -/
theorem token_unique (h : endpoint base token = .ok url) (h' : endpoint base' token' = .ok url) :
    token = token' := by
  have hlast (front : List Char) (token : String) :
      (cutFirst '=' (front ++ tokenParameter.toList ++ (encode token).toList).reverse).map (·.1) =
        some (encode token).toList.reverse := by
    have hreverse : tokenParameter.toList.reverse = '=' :: "nekot?sw/1v/".toList := by decide
    have hno : '=' ∉ (encode token).toList.reverse := by
      rw [List.mem_reverse]
      exact Text.Percent.not_mem_encode rfl (by decide)
    rw [List.reverse_append, List.reverse_append, hreverse, List.cons_append, Text.cutFirst_append hno,
      Option.map_some]
  obtain ⟨upgraded, host, hreaches, -⟩ := reaches_of_endpoint h
  obtain ⟨_, _, hreaches', -⟩ := reaches_of_endpoint h'
  have hsame := hlast (upgraded.toList ++ host) token
  rw [← hreaches.toList h, hreaches'.toList h', hlast _ token', Option.some.injEq, List.reverse_inj,
    String.toList_inj] at hsame
  exact (Text.Percent.encode_injective hsame).symm

theorem reaches_append_iff {slashes : String} (hslashes : ∀ c ∈ slashes.toList, c = '/') :
    Reaches (base ++ slashes) upgraded host ↔ Reaches base upgraded host := by
  constructor
  · rintro ⟨⟨scheme, others, hscheme, hbase, hothers⟩, hnonempty, htrimmed⟩
    refine ⟨?_, hnonempty, htrimmed⟩
    obtain ⟨tail, htail, hall⟩ := Text.dropEnd_append '/' base.toList
    have hlast : (scheme.toList ++ host).getLast? ≠ some '/' := by
      rwa [List.getLast?_append_of_ne_nil _ hnonempty]
    have hdrop : dropEnd '/' base.toList = scheme.toList ++ host := by
      rw [← Text.dropEnd_append_of_forall hslashes, ← String.toList_append, hbase, ← List.append_assoc,
        Text.dropEnd_append_of_forall hothers, Text.dropEnd_of_getLast? hlast]
    refine ⟨scheme, tail, hscheme, ?_, hall⟩
    rw [← List.append_assoc, ← hdrop, htail]
  · rintro ⟨⟨scheme, others, hscheme, hbase, hothers⟩, hnonempty, htrimmed⟩
    refine ⟨⟨scheme, others ++ slashes.toList, hscheme, ?_, ?_⟩, hnonempty, htrimmed⟩
    · rw [String.toList_append, hbase]
      simp only [List.append_assoc]
    · intro c hc
      exact (List.mem_append.mp hc).elim (hothers c) (hslashes c)

theorem endpoint_eq_ok_iff :
    endpoint base token = .ok url ↔ ∃ upgraded host, Reaches base upgraded host ∧
      url = upgraded ++ String.ofList host ++ tokenParameter ++ encode token := by
  constructor
  · exact reaches_of_endpoint
  · rintro ⟨upgraded, host, hreaches, rfl⟩
    exact hreaches.address token

/-- A base URL has an address exactly if it names a host behind a known scheme. The address is this host with
the upgraded scheme, whatever slashes follow it, and the encoded token at its end, from which the token can
be read; no token changes another parameter. -/
theorem endpoint_encodes (base token : String) :
    ((∃ detail, endpoint base token = .error (.config detail)) ↔ IsHostless base) ∧
    (¬ IsHostless base → ∃ upgraded host encoded, Reaches base upgraded host ∧
      endpoint base token = .ok (upgraded ++ String.ofList host ++ "/v1/ws?token=" ++ encoded) ∧
      IsEncoded encoded.toList ∧ decode? encoded = some token) ∧
    (∀ url, endpoint base token = .ok url →
      (∀ base' token', endpoint base' token' = .ok url → token' = token) ∧
      (∀ token' url', endpoint base token' = .ok url' → SameParameters url url') ∧
      ('?' ∉ base.toList → '#' ∉ base.toList → ∃ encoded : String,
        parameters url.toList = ["token=".toList ++ encoded.toList] ∧ decode? encoded = some token)) ∧
    (∀ slashes : String, (∀ c ∈ slashes.toList, c = '/') →
      ∀ url, endpoint (base ++ slashes) token = .ok url ↔ endpoint base token = .ok url) := by
  have haddress (hhost : ¬ IsHostless base) : ∃ upgraded host, Reaches base upgraded host ∧
      endpoint base token = .ok (upgraded ++ String.ofList host ++ tokenParameter ++ encode token) := by
    obtain ⟨upgraded, host, hreaches⟩ := exists_reaches hhost
    exact ⟨upgraded, host, hreaches, hreaches.address token⟩
  refine ⟨⟨?_, fun hnone => endpoint_of_isHostless hnone token⟩, fun hhost => ?_, fun url h => ⟨?_, ?_, ?_⟩, ?_⟩
  · rintro ⟨detail, herror⟩
    by_contra hhost
    obtain ⟨upgraded, host, -, hok⟩ := haddress hhost
    rw [hok] at herror
    cases herror
  · obtain ⟨upgraded, host, hreaches, hok⟩ := haddress hhost
    exact ⟨upgraded, host, encode token, hreaches, hok, Text.Percent.isEncoded_encode token,
      Text.Percent.decode?_encode token⟩
  · intro base' token' h'
    exact token_unique h' h
  · intro token' url' h'
    exact sameParameters h h'
  · intro hquery hfragment
    exact ⟨encode token, parameters_of_plain h hquery hfragment, Text.Percent.decode?_encode token⟩
  · intro slashes hslashes url
    rw [endpoint_eq_ok_iff, endpoint_eq_ok_iff]
    simp only [reaches_append_iff hslashes]

end Session
end Courier

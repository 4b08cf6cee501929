import Courier.Client.Builder
import Courier.Proofs.Session.Endpoint

/-! The base URL of a client serves requests and the session alike, if anything but slashes follows its
scheme. If nothing does, it is accepted all the same: with the slashes at its end goes a part of the scheme,
and the session has no address. -/

namespace Courier

open Session (endpoint upgrades IsHostless Reaches)
open Text (dropEnd)

/-- Whether a base URL is one for requests, without slashes at its end, and the session dials the same host
and path whatever the token is. -/
def Agrees (base : String) : Prop :=
  ∃ scheme upgraded host : String, (scheme, upgraded) ∈ [("https://", "wss://"), ("http://", "ws://")] ∧
    base = scheme ++ host ∧ base.toList.getLast? ≠ some '/' ∧
    ∀ token, endpoint base token = .ok (upgraded ++ host ++ "/v1/ws?token=" ++ Text.Percent.encode token)

variable {url base : String} {c : ApiClient}

theorem Http.checkBase_eq_ok (h : checkBase url = .ok base) :
    base = String.ofList (dropEnd '/' url.toList) ∧
      ∃ scheme upgraded rest, (scheme, upgraded) ∈ [("https://", "wss://"), ("http://", "ws://")] ∧
        url.toList = scheme.toList ++ rest := by
  unfold checkBase at h
  split at h
  case isFalse => cases h
  case isTrue haccepted =>
    refine ⟨(Except.ok.inj h).symm, ?_⟩
    rcases Bool.or_eq_true_iff.mp haccepted with hsome | hsome
    · obtain ⟨rest, hrest⟩ := Option.isSome_iff_exists.mp hsome
      exact ⟨"http://", "ws://", rest, by decide, afterScheme?_eq_some_iff.mp hrest⟩
    · obtain ⟨rest, hrest⟩ := Option.isSome_iff_exists.mp hsome
      exact ⟨"https://", "wss://", rest, by decide, afterScheme?_eq_some_iff.mp hrest⟩

theorem ApiClient.build_eq_ok (h : build (some url) = .ok c) : Http.checkBase url = .ok c.baseUrl := by
  unfold build at h
  cases hbase : Http.checkBase url with
  | error e =>
    rw [Http.requireBase] at h
    simp [bind, Except.bind, hbase] at h
  | ok base =>
    simp [bind, Except.bind, pure, Except.pure, Http.requireBase, hbase] at h
    rw [← h]

/-- If anything but slashes follows the scheme, the client keeps the scheme and what follows it. -/
theorem agrees_of_host {scheme upgraded : String} {rest : List Char}
    (hscheme : (scheme, upgraded) ∈ [("https://", "wss://"), ("http://", "ws://")])
    (hurl : url.toList = scheme.toList ++ rest) (hrest : dropEnd '/' rest ≠ []) :
    Agrees (String.ofList (dropEnd '/' url.toList)) := by
  have hkept : String.ofList (dropEnd '/' url.toList) = scheme ++ String.ofList (dropEnd '/' rest) := by
    rw [hurl, Text.dropEnd_append_of_ne_nil hrest, String.ofList_append, String.ofList_toList]
  have hknown : (scheme, upgraded) ∈ upgrades := List.mem_append_left _ hscheme
  have hreaches : Reaches (String.ofList (dropEnd '/' url.toList)) upgraded (dropEnd '/' rest) := by
    refine ⟨⟨scheme, [], hknown, ?_, by simp⟩, hrest, Text.getLast?_dropEnd '/' rest⟩
    rw [hkept, String.toList_append, String.toList_ofList, List.append_nil]
  refine ⟨scheme, upgraded, String.ofList (dropEnd '/' rest), hscheme, hkept, ?_, hreaches.address⟩
  rw [String.toList_ofList]
  exact Text.getLast?_dropEnd '/' url.toList

/-- If only slashes follow it, those of the scheme go too. -/
theorem cut_of_slashes {scheme upgraded : String} {rest : List Char}
    (hscheme : (scheme, upgraded) ∈ [("https://", "wss://"), ("http://", "ws://")])
    (hurl : url.toList = scheme.toList ++ rest) (hrest : dropEnd '/' rest = []) :
    String.ofList (dropEnd '/' url.toList) ∈ ["https:", "http:"] := by
  rw [hurl, Text.dropEnd_append_of_forall (Text.dropEnd_eq_nil_iff.mp hrest)]
  have hhttps : dropEnd '/' "https://".toList = "https:".toList := by decide
  have hhttp : dropEnd '/' "http://".toList = "http:".toList := by decide
  simp only [List.mem_cons, Prod.mk.injEq, List.not_mem_nil, or_false] at hscheme
  rcases hscheme with ⟨rfl, -⟩ | ⟨rfl, -⟩
  · rw [hhttps, String.ofList_toList]
    exact List.mem_cons_self
  · rw [hhttp, String.ofList_toList]
    exact List.mem_cons_of_mem _ List.mem_cons_self

theorem endpoint_of_cut (h : base ∈ ["https:", "http:"]) (token : String) :
    endpoint base token = .error (Http.wrongScheme base) := by
  simp only [List.mem_cons, List.not_mem_nil, or_false] at h
  rcases h with rfl | rfl <;> rfl

theorem Client.Builder.exists_build {b : Builder} (hurl : b.baseUrl = some url) (hlogin : b.hasLogin = true)
    (hbuilt : ApiClient.build (some url) = .ok c) :
    ∃ m, b.build = .ok m ∧ m.api = c ∧ m.session.config.baseUrl = c.baseUrl := by
  unfold build
  rw [hurl, Http.requireBase, requireLogin, if_pos hlogin]
  simp only [bind, Except.bind, hbuilt, pure, Except.pure]
  exact ⟨_, rfl, rfl, rfl⟩

/-- A base URL that is accepted serves requests and session alike exactly if it names a host behind its
scheme. If not, the session fails whatever the token is. The client of everything has the base URL of the
API for both. -/
theorem bases_agree_iff (h : ApiClient.build (some url) = .ok c) :
    (Agrees c.baseUrl ↔ ¬ IsHostless url) ∧
    (IsHostless url → ∀ token, endpoint c.baseUrl token = .error (Http.wrongScheme c.baseUrl)) ∧
    (∀ b : Client.Builder, b.baseUrl = some url → b.hasLogin = true →
      ∃ m, b.build = .ok m ∧ m.api = c ∧ m.session.config.baseUrl = c.baseUrl) := by
  obtain ⟨hbase, scheme, upgraded, rest, hscheme, hurl⟩ := Http.checkBase_eq_ok (ApiClient.build_eq_ok h)
  have hknown : (scheme, upgraded) ∈ upgrades := List.mem_append_left _ hscheme
  have hhostless := Session.isHostless_iff (Session.splitScheme?_eq_some_iff.mpr ⟨scheme, hknown, hurl⟩)
  have hfails (hnone : IsHostless url) (token : String) :
      endpoint c.baseUrl token = .error (Http.wrongScheme c.baseUrl) := by
    apply endpoint_of_cut
    rw [hbase]
    exact cut_of_slashes hscheme hurl (hhostless.mp hnone)
  refine ⟨⟨?_, fun hhost => ?_⟩, hfails, fun b hb hlogin => Client.Builder.exists_build hb hlogin h⟩
  · rintro ⟨_, _, _, -, -, -, hdials⟩ hnone
    have hdialed := hdials ""
    rw [hfails hnone] at hdialed
    cases hdialed
  · rw [hbase]
    exact agrees_of_host hscheme hurl fun hnil => hhost (hhostless.mpr hnil)

theorem bases_agree_slashes :
    ApiClient.build (some "https://h:8/p//") = .ok ⟨"https://h:8/p"⟩ ∧ Agrees "https://h:8/p" := by
  have hbuilt : ApiClient.build (some "https://h:8/p//") = .ok ⟨"https://h:8/p"⟩ := rfl
  refine ⟨hbuilt, (bases_agree_iff hbuilt).1.mpr fun hnone => ?_⟩
  have hhost := hnone ("https://", "wss://") (by decide) "h:8/p//".toList rfl 'h' (by decide)
  exact absurd hhost (by decide)

/-- A scheme and slashes are accepted by both builders, and no token gives the session an address. -/
theorem hostless_base_accepted :
    let accepted : ApiClient := ⟨"http:"⟩
    ApiClient.build (some "http://") = .ok accepted ∧ ¬ Agrees accepted.baseUrl ∧
      (∃ m, Client.Builder.build { baseUrl := some "http://", hasLogin := true } = .ok m ∧
        m.session.config.baseUrl = accepted.baseUrl) ∧
      ∀ token, endpoint accepted.baseUrl token = .error (Http.wrongScheme accepted.baseUrl) := by
  intro accepted
  have hfails (token : String) : endpoint accepted.baseUrl token = .error (Http.wrongScheme accepted.baseUrl) :=
    endpoint_of_cut (List.mem_cons_of_mem _ List.mem_cons_self) token
  refine ⟨rfl, ?_, ⟨_, rfl, rfl⟩, hfails⟩
  rintro ⟨_, _, _, -, -, -, hdials⟩
  have hdialed := hdials ""
  rw [hfails] at hdialed
  cases hdialed

end Courier

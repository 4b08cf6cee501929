import Courier.Http.Request

/-! Where bearer tokens in requests come from. The API client puts none into the requests that it makes:
what it adds on its own names a user or the type of the content. -/

namespace Courier.Http

def Header.IsBearer (h : Header) : Prop := "Bearer ".toList <+: h.value.toList

inductive Request.Made : Request → Prop where
  | get {base path query r} : Request.get base path query = .ok r → Made r
  | post {base path body r} : Request.post base path body = .ok r → Made r

theorem Headers.mem_append {headers : List Header} {new header : Header}
    (h : header ∈ Headers.append headers new) : header ∈ headers ∨ header = new := by
  induction headers with
  | nil => exact .inr (List.mem_singleton.mp h)
  | cons first rest ih =>
    rw [Headers.append] at h
    split at h
    · simp only [List.mem_cons] at h ⊢
      rcases h with h | h | h
      · exact .inl (.inl h)
      · exact .inr h
      · exact .inl (.inr h)
    · rcases List.mem_cons.mp h with h | h
      · exact .inl (by simp [h])
      · exact (ih h).imp (List.mem_cons_of_mem _) id

namespace Request

theorem basic_not_bearer {info : UserInfo} {name value : String} {sensitive : Bool}
    (h : basicAuthorization? info = some value) : ¬ Header.IsBearer ⟨name, value, sensitive⟩ := by
  simp only [basicAuthorization?, Option.bind_eq_bind, Option.bind_eq_some_iff, Option.pure_def,
    Option.some.injEq] at h
  obtain ⟨user, -, rfl⟩ := h
  rintro ⟨rest, hrest⟩
  -- the two differ in their second letter
  have hsecond := congrArg (·[1]?) hrest
  simp at hsecond

theorem to?_not_bearer {method : Method} {address : String} {r : Request} (h : to? method address = some r) :
    ∀ header ∈ r.headers, ¬ header.IsBearer := by
  simp only [to?, Option.bind_eq_bind, Option.bind_eq_some_iff, Option.pure_def, Option.some.injEq] at h
  obtain ⟨url, -, rfl⟩ := h
  intro header hheader
  simp only [Option.mem_toList, Option.map_eq_some_iff, Option.bind_eq_some_iff] at hheader
  obtain ⟨value, ⟨info, -, hvalue⟩, rfl⟩ := hheader
  exact basic_not_bearer hvalue

theorem Made.not_bearer {r : Request} (h : r.Made) : ∀ header ∈ r.headers, ¬ header.IsBearer := by
  intro header hheader
  cases h with
  | get h =>
    unfold Request.get at h
    split at h
    case h_1 => cases h
    case h_2 made hmade =>
      cases h
      exact to?_not_bearer hmade header hheader
  | post h =>
    unfold Request.post at h
    split at h
    case h_1 => cases h
    case h_2 made hmade =>
      cases h
      rcases Headers.mem_append hheader with hold | rfl
      · exact to?_not_bearer hmade header hold
      · rintro ⟨rest, hrest⟩
        have hfirst := congrArg (·[0]?) hrest
        simp at hfirst

end Request
end Courier.Http

import Courier.Http.Gate

/-! The headers that leave the gate. A token that can go into a header stands there alone under its name,
whatever the request had under it before; the headers of other names stay as they are, in their order. -/

namespace Courier.Http

/-- The headers that leave the gate: a stored token that a header can carry takes the place of any
authorization, and otherwise nothing changes. -/
structure Authorized (token : Option String) (headers out : List Header) : Prop where
  carries : ∀ t, token = some t → isHeaderValue ("Bearer " ++ t) = true →
    out.filter (·.name == "authorization") = [⟨"authorization", "Bearer " ++ t, true⟩] ∧
      out.filter (·.name != "authorization") = headers.filter (·.name != "authorization")
  keeps : (∀ t, token = some t → isHeaderValue ("Bearer " ++ t) = false) → out = headers

theorem Headers.filter_set_self (headers : List Header) (h : Header) :
    (Headers.set headers h).filter (·.name == h.name) = [h] := by
  unfold Headers.set
  split
  · dsimp only
    rw [List.filter_append, List.filter_cons_of_pos (by simp), List.filter_filter]
    have hbefore : (headers.takeWhile (·.name != h.name)).filter (·.name == h.name) = [] := by
      rw [List.filter_eq_nil_iff]
      intro x hx
      simpa using List.all_eq_true.mp (List.all_takeWhile (p := (·.name != h.name))) x hx
    rw [hbefore]
    simp
  · rename_i hnone
    rw [List.filter_append, List.filter_cons_of_pos (by simp)]
    have hbefore : headers.filter (·.name == h.name) = [] := by
      simpa using hnone
    rw [hbefore]
    rfl

theorem Headers.filter_set_other (headers : List Header) (h : Header) :
    (Headers.set headers h).filter (·.name != h.name) = headers.filter (·.name != h.name) := by
  unfold Headers.set
  split
  · dsimp only
    have hsplit := congrArg (List.filter (·.name != h.name))
      (List.takeWhile_append_dropWhile (p := (·.name != h.name)) (l := headers))
    rw [← hsplit, List.filter_append, List.filter_append, List.filter_cons_of_neg (by simp),
      List.filter_filter]
    simp
  · simp

@[simp] theorem isHeaderValue_append (s t : String) :
    isHeaderValue (s ++ t) = (isHeaderValue s && isHeaderValue t) := by
  simp [isHeaderValue]

theorem Gate.authorize_authorized (token : Option String) (headers : List Header) :
    Authorized token headers (authorize token headers).1 := by
  have hbearer (t : String) : isHeaderValue ("Bearer " ++ t) = isHeaderValue t := by
    have hblank : isHeaderValue "Bearer " = true := by decide
    rw [isHeaderValue_append, hblank, Bool.true_and]
  constructor
  · rintro t rfl ht
    rw [hbearer] at ht
    simp only [authorize, if_pos ht]
    exact ⟨Headers.filter_set_self headers ⟨"authorization", _, true⟩,
      Headers.filter_set_other headers ⟨"authorization", _, true⟩⟩
  · intro hno
    cases token with
    | none => rfl
    | some t =>
      have ht := hno t rfl
      rw [hbearer] at ht
      simp [authorize, ht]

end Courier.Http

import Courier.Envelope.Inbound
import Courier.Proofs.Json.Fields

/-! Reading a message from the members of an object: the type has to be a string, and the other two may be missing or
null. -/

namespace Courier.Inbound

open Json (Tree Value StandsOnce OptionalString)

inductive ReadsData : Option Value → Option Value → Prop where
  | absent : ReadsData none none
  | null : ReadsData (some .null) none
  | value {v} : v ≠ .null → ReadsData (some v) (some v)

structure Says (ms : List (String × Value)) (m : Inbound) : Prop where
  kind : (Value.object ms).get? "type" = some (.string m.kind)
  data : ReadsData ((Value.object ms).get? "data") m.data
  messageId : OptionalString ((Value.object ms).get? "message_id") m.messageId

variable {text : String} {ts : List (List Json.Piece × Tree)} {ms : List (String × Value)} {m : Inbound}
  {name : String} {found : Option Tree}

theorem data?_iff (h : Json.Holds 126 ms name found) {d : Option Value} :
    data? found = some d ↔ ReadsData ((Value.object ms).get? name) d := by
  rcases h.cases with ⟨rfl, hget⟩ | ⟨t, v, rfl, hget, hread⟩
  · rw [hget, data?, Option.some.injEq]
    constructor
    · rintro rfl
      exact .absent
    · rintro ⟨⟩
      rfl
  have hnull := Json.eq_null_iff_of_toValue? hread
  rw [hget]
  by_cases ht : t = .null
  · obtain rfl := hnull.mp ht
    subst ht
    rw [data?, Option.some.injEq]
    constructor
    · rintro rfl
      exact .null
    · intro hd
      cases hd with
      | null => rfl
      | value hne => exact absurd rfl hne
  · have hv : v ≠ .null := fun hv => ht (hnull.mpr hv)
    have hdata : data? (some t) = some (some v) := by
      rw [data?, Tree.fieldValue?, Json.depthLimit, hread, Option.map_some]
      exact ht
    rw [hdata, Option.some.injEq]
    constructor
    · rintro rfl
      exact .value hv
    · intro hd
      cases hd with
      | null => exact absurd rfl hv
      | value _ => rfl

theorem messageId?_iff (h : Json.Holds 126 ms name found) {id : Option String} :
    messageId? found = some id ↔ OptionalString ((Value.object ms).get? name) id := by
  rcases h.cases with ⟨rfl, hget⟩ | ⟨t, v, rfl, hget, hread⟩
  · rw [hget, messageId?, Json.optionalString_none_iff, Option.some.injEq, eq_comm]
  · rw [hget, messageId?, Json.stringOrNull?_of_toValue? hread, Json.optionalString_some_iff]
    cases v.toStringOrNull? <;> simp [Except.toOption]

/-- A text that writes an object in which none of the three names stands twice is read as its members say. -/
theorem parse?_eq_some (htree : Tree.parse text = some (.object ts))
    (hmembers : Json.membersToValues? 126 ts = some ms)
    (honce : ∀ name ∈ fieldNames, StandsOnce ms name) : parse? text = some m ↔ m.Says ms := by
  obtain ⟨found, hfound, hholds⟩ := Json.fields?_object hmembers honce
  rcases hholds with _ | ⟨hkind, _ | ⟨hdata, _ | ⟨hid, _ | _⟩⟩⟩
  rw [parse?, htree, Option.bind_eq_bind, Option.bind_some, hfound, Option.bind_eq_bind, Option.bind_some]
  rcases hkind.cases with ⟨rfl, hnone⟩ | ⟨t, v, rfl, hget, hread⟩
  · refine iff_of_false nofun fun h => ?_
    rw [h.kind] at hnone
    cases hnone
  have hname : t.string? = some m.kind ↔ v = .string m.kind := by
    rw [Json.string?_of_toValue? hread]
    cases v <;> simp [Value.toString?, Except.toOption]
  simp only [Option.bind_eq_bind, Option.bind_eq_some_iff, Option.pure_def, Option.some.injEq]
  constructor
  · rintro ⟨kind, hkind', data, hdata', id, hid', rfl⟩
    exact ⟨hget.trans (congrArg some (hname.mp hkind')), (data?_iff hdata).mp hdata', (messageId?_iff hid).mp hid'⟩
  · rintro ⟨hkind', hdata', hid'⟩
    have hv : v = .string m.kind := Option.some.inj (hget.symm.trans hkind')
    exact ⟨_, hname.mpr hv, _, (data?_iff hdata).mpr hdata', _, (messageId?_iff hid).mpr hid', rfl⟩

end Courier.Inbound

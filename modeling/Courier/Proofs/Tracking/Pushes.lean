import Courier.Proofs.Json.Fields
import Courier.Tracking.Order

/-! The locations that are pushed to an order. A message pushes one if it is of the kind for that, its data names
the order, and the data has the members of a location; whatever lacks one of these pushes nothing. -/

namespace Courier.Tracking

open Json (Value OptionalString)

/-- Whether pushed data names an order: by a string, or by a number that is written like it. -/
def Names (order : String) (data : Value) : Prop :=
  data.get? "order_id" = some (.string order) ∨
    ∃ n, data.get? "order_id" = some (.number n) ∧ Json.numberText n = order

theorem isFor_iff {order : String} {data : Value} : isFor order data = true ↔ Names order data := by
  unfold isFor Names
  split <;> simp_all

instance (order : String) (data : Value) : Decidable (Names order data) :=
  decidable_of_iff _ isFor_iff

inductive Measures : Option Value → Float → Prop where
  | natural (n : Nat) : Measures (some (.number (.integer n))) (UInt64.ofNat n).toFloat
  | negative (n : Nat) : Measures (some (.number (.integer (-(n + 1))))) (-(UInt64.ofNat (n + 1)).toFloat)
  | float (x : Float) : Measures (some (.number (.float x))) x

/-- Whether data has the members of a location: both coordinates, and two strings that may be missing. -/
structure Locates (data : Value) (l : Location) : Prop where
  latitude : Measures (data.get? "latitude") l.latitude
  longitude : Measures (data.get? "longitude") l.longitude
  riderId : OptionalString (data.get? "rider_id") l.riderId
  updatedAt : OptionalString (data.get? "updated_at") l.updatedAt

inductive Pushes (order : String) : Session.Event → Location → Prop where
  | message {m : Message} {l : Location} :
    m.kind = .riderLocation → Names order m.data → Locates m.data l → Pushes order (.message m) l

def pushed? (order : String) : Session.Event → Option Location
  | .message m =>
    if m.kind = .riderLocation ∧ Names order m.data then (Location.ofValue m.data).toOption else none
  | _ => none

theorem pushed?_eq (order : String) (e : Session.Event) : pushed? order e = (readEvent order e).1 := by
  cases e with
  | message m =>
    by_cases hm : m.kind = .riderLocation ∧ Names order m.data
    · have hm' : m.kind = .riderLocation ∧ isFor order m.data = true := ⟨hm.1, isFor_iff.mpr hm.2⟩
      simp only [pushed?, readEvent, locationOf, if_pos hm, if_pos hm']
      cases Location.ofValue m.data <;> rfl
    · have hm' : ¬ (m.kind = .riderLocation ∧ isFor order m.data = true) :=
        fun h => hm ⟨h.1, isFor_iff.mp h.2⟩
      simp only [pushed?, readEvent, locationOf, if_neg hm, if_neg hm']
  | _ => rfl

theorem Names.isObject {order : String} {data : Value} (h : Names order data) : ∃ ms, data = .object ms := by
  cases data with
  | object ms => exact ⟨ms, rfl⟩
  | _ =>
    rcases h with h | ⟨_, h, -⟩
    all_goals cases h

theorem floatOfInteger_natural (n : Nat) : Json.Tree.float?.floatOfInteger n = (UInt64.ofNat n).toFloat :=
  if_neg (Int.not_lt.mpr (Int.natCast_nonneg n))

theorem floatOfInteger_negative (n : Nat) :
    Json.Tree.float?.floatOfInteger (-(n + 1)) = -(UInt64.ofNat (n + 1)).toFloat := by
  rw [Json.Tree.float?.floatOfInteger, if_pos (by omega)]
  congr 3

theorem measures_iff {v : Value} {x : Float} : Measures (some v) x ↔ v.toFloat? = .ok x := by
  constructor
  · rintro (n | n | x)
    · rw [Value.toFloat?, floatOfInteger_natural]
    · rw [Value.toFloat?, floatOfInteger_negative]
    · rfl
  · intro h
    cases v with
    | number n =>
      cases n with
      | integer n =>
        obtain rfl := Except.ok.inj h
        cases n with
        | ofNat n =>
          rw [Int.ofNat_eq_natCast, floatOfInteger_natural]
          exact .natural n
        | negSucc n =>
          rw [Int.negSucc_eq, floatOfInteger_negative]
          exact .negative n
      | float x =>
        cases h
        exact .float x
    | _ => cases h

theorem bind_eq_ok {ε α β : Type} {x : Except ε α} {f : α → Except ε β} {b : β} :
    x >>= f = .ok b ↔ ∃ a, x = .ok a ∧ f a = .ok b := by
  cases x <;> simp [bind, Except.bind]

variable {f : Json.Fields} {name : String} {i : Nat}

theorem read_of_get? {α : Type} {as : Value → Except Json.Mismatch α} {v : Value} (h : f.get? name i = some v) :
    f.read name i as = (as v).map some := by
  rw [Json.Fields.read, h]

theorem coordinate_iff {x : Float} :
    (∃ found, f.read name i Value.toFloat? = .ok found ∧ f.require name i found = .ok x) ↔
      Measures (f.get? name i) x := by
  cases hget : f.get? name i with
  | none =>
    have hnone : ¬ Measures none x := nofun
    simp [Json.Fields.read, Json.Fields.require, hget, hnone]
  | some v =>
    rw [measures_iff, read_of_get? hget]
    cases v.toFloat? <;> simp [Except.map, Json.Fields.require]

theorem optional_iff {s : Option String} :
    (∃ found, f.read name i Value.toStringOrNull? = .ok found ∧ found.join = s) ↔
      OptionalString (f.get? name i) s := by
  cases hget : f.get? name i with
  | none => simp [Json.Fields.read, hget, Json.optionalString_none_iff, eq_comm]
  | some v =>
    rw [Json.optionalString_some_iff, read_of_get? hget]
    cases v.toStringOrNull? <;> simp [Except.map]

theorem fields_object (ms : List (String × Value)) (record : String) (count : Nat) :
    ∃ f, (Value.object ms).fields record count = .ok f ∧ f.finish = .ok () ∧
      ∀ name i, f.get? name i = (Value.object ms).get? name :=
  ⟨_, rfl, rfl, fun _ _ => rfl⟩

/-- A location is read from an object exactly if the object has its members. -/
theorem ofValue_eq_ok {ms : List (String × Value)} {l : Location} :
    Location.ofValue (.object ms) = .ok l ↔ Locates (.object ms) l := by
  obtain ⟨f, hf, hfinish, hget⟩ := fields_object ms "RiderLocation" 4
  simp only [Location.ofValue, hf, hfinish, bind_eq_ok, Except.ok.injEq, exists_eq_left', exists_const, true_and,
    pure, Except.pure]
  constructor
  · rintro ⟨latitude, hlatitude, longitude, hlongitude, riderId, hriderId, updatedAt, hupdatedAt, x, hx, y, hy, rfl⟩
    exact ⟨hget "latitude" 0 ▸ coordinate_iff.mp ⟨latitude, hlatitude, hx⟩,
      hget "longitude" 1 ▸ coordinate_iff.mp ⟨longitude, hlongitude, hy⟩,
      hget "rider_id" 2 ▸ optional_iff.mp ⟨riderId, hriderId, rfl⟩,
      hget "updated_at" 3 ▸ optional_iff.mp ⟨updatedAt, hupdatedAt, rfl⟩⟩
  · rintro ⟨hlatitude, hlongitude, hriderId, hupdatedAt⟩
    rw [← hget _ 0] at hlatitude
    rw [← hget _ 1] at hlongitude
    rw [← hget _ 2] at hriderId
    rw [← hget _ 3] at hupdatedAt
    obtain ⟨latitude, hlatitude, hx⟩ := coordinate_iff.mpr hlatitude
    obtain ⟨longitude, hlongitude, hy⟩ := coordinate_iff.mpr hlongitude
    obtain ⟨riderId, hriderId, hr⟩ := optional_iff.mpr hriderId
    obtain ⟨updatedAt, hupdatedAt, hu⟩ := optional_iff.mpr hupdatedAt
    exact ⟨latitude, hlatitude, longitude, hlongitude, riderId, hriderId, updatedAt, hupdatedAt, _, hx, _, hy,
      by rw [hr, hu]⟩

/-- An event pushes the location that its members say, and nothing if they say none. -/
theorem pushed?_eq_some {order : String} {e : Session.Event} {l : Location} :
    pushed? order e = some l ↔ Pushes order e l := by
  constructor
  · intro h
    cases e with
    | message m =>
      obtain ⟨⟨hkind, hnames⟩, hl⟩ := Option.ite_none_right_eq_some.mp h
      obtain ⟨ms, hms⟩ := hnames.isObject
      refine .message hkind hnames ?_
      rw [hms] at hl ⊢
      refine ofValue_eq_ok.mp ?_
      cases hread : Location.ofValue (.object ms) with
      | error _ =>
        rw [hread] at hl
        cases hl
      | ok found =>
        rw [hread] at hl
        rw [Option.some.inj hl]
    | _ => cases h
  · rintro ⟨hkind, hnames, hl⟩
    rename_i m
    obtain ⟨ms, hms⟩ := hnames.isObject
    rw [hms] at hl
    rw [pushed?, if_pos ⟨hkind, hnames⟩, hms, ofValue_eq_ok.mpr hl]
    rfl

end Courier.Tracking

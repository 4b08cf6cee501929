import Courier.Time.Instant

/-! Where instants stand on the line of nanoseconds since 1970, and what arithmetic with instants yields there. -/

namespace Courier.Time.Instant

/-- Whether an instant, outside leap seconds, is so many nanoseconds after the first one of 1970. -/
def IsAt (t : Instant) (n : Int) : Prop := t.seconds * 1000000000 + t.nanos = n ∧ t.nanos < 1000000000

theorem make?_eq_some_iff {seconds : Int} {nanos : Nat} {t : Instant} :
    make? seconds nanos = some t ↔ t.seconds = seconds ∧ t.nanos = nanos := by
  constructor
  · intro h
    unfold make? at h
    split at h <;> cases h
    exact ⟨rfl, rfl⟩
  · rintro ⟨rfl, rfl⟩
    exact make?_self t

theorem make?_iff_isAt {seconds : Int} {nanos : Nat} {t : Instant} (h : nanos < 1000000000) :
    make? seconds nanos = some t ↔ t.IsAt (seconds * 1000000000 + nanos) := by
  rw [make?_eq_some_iff, IsAt]
  omega

theorem IsAt.unique {t u : Instant} {n : Int} (ht : t.IsAt n) (hu : u.IsAt n) : t = u := by
  have hmake : make? t.seconds t.nanos = some u := by
    rw [make?_iff_isAt ht.2, ht.1]
    exact hu
  rw [make?_self, Option.some.injEq] at hmake
  exact hmake

theorem ofMillis?_iff {ms : Int} {t : Instant} : ofMillis? ms = some t ↔ t.IsAt (ms * 1000000) := by
  have hsplit : ms / 1000 * 1000000000 + ((ms % 1000).toNat * 1000000 : Nat) = ms * 1000000 := by omega
  rw [ofMillis?, make?_iff_isAt (by omega), hsplit]

theorem ofSeconds?_iff {seconds : Int} {t : Instant} : make? seconds 0 = some t ↔ t.IsAt (seconds * 1000000000) := by
  rw [make?_iff_isAt (by decide), Int.natCast_zero, Int.add_zero]

/-- The range of instants has no gaps. -/
theorem exists_isAt_iff {n : Int} :
    (∃ t : Instant, t.IsAt n) ↔ -8334601228800 * 1000000000 ≤ n ∧ n < 8210266876800 * 1000000000 := by
  constructor
  · rintro ⟨t, hsum, hlt⟩
    have hfirst := t.first_le
    have hlast := t.le_last
    omega
  · rintro ⟨hlow, hhigh⟩
    exact ⟨⟨n / 1000000000, (n % 1000000000).toNat, by omega, by omega, by omega⟩, by dsimp only [IsAt]; omega⟩

theorem atMost_eq_true_iff {t u : Instant} :
    t.atMost u = true ↔ t.seconds < u.seconds ∨ t.seconds = u.seconds ∧ t.nanos ≤ u.nanos := by
  simp [atMost]

theorem IsAt.atMost_iff {t u : Instant} {m n : Int} (ht : t.IsAt m) (hu : u.IsAt n) :
    t.atMost u = true ↔ m ≤ n := by
  rw [atMost_eq_true_iff]
  obtain ⟨hm, htlt⟩ := ht
  obtain ⟨hn, hult⟩ := hu
  omega

/-- A span that has too many milliseconds for a word leads out of the range anyway. -/
theorem plus?_iff {t u : Instant} {d : Span} :
    t.plus? d = some u ↔ u.IsAt (t.seconds * 1000000000 + t.nanos + d.nanos) := by
  unfold plus?
  split
  case isTrue hlong =>
    refine ⟨nofun, fun h => ?_⟩
    have hlast := u.le_last
    have hfirst := t.first_le
    obtain ⟨hsum, hlt⟩ := h
    omega
  case isFalse =>
    have hsplit : (t.seconds + ((t.nanos + d.nanos : Nat) : Int) / 1000000000) * 1000000000 +
        ((t.nanos + d.nanos) % 1000000000 : Nat) = t.seconds * 1000000000 + t.nanos + d.nanos := by omega
    rw [make?_iff_isAt (Nat.mod_lt _ (by decide)), hsplit]

/-- No span leads back. -/
theorem atMost_of_plus? {t u : Instant} {d : Span} (h : t.plus? d = some u) : t.atMost u = true := by
  obtain ⟨hsum, hlt⟩ := plus?_iff.mp h
  rw [atMost_eq_true_iff]
  omega

end Courier.Time.Instant

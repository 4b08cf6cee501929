import Courier.Proofs.Coordinator.Fallback
import Courier.Proofs.Json.Fields
import Courier.Proofs.Json.Integers
import Courier.Proofs.Time.Timeline

/-! The expiry of a grant. Whatever stands in its place, the grant is read as it would be without it; and of the
values that may stand there, dates and integers of 64 bits have a meaning, which is what is stored. -/

namespace Courier.Grant

open Json (Value Tree Mismatch StandsOnce)
open Time (Instant Moment)

def expiryName : String := "access_token_expires_at"

/-- What an expiry means: the instant of a date, or so many seconds or milliseconds since 1970. -/
inductive Means : Value → Instant → Prop where
  | date {s t} : Instant.read? s = some t → Means (.string s) t
  | seconds {n : Int} {t} : -0x8000000000000000 ≤ n → n < 100000000000 → t.IsAt (n * 1000000000) →
      Means (.ofInt n) t
  | millis {n : Int} {t} : 100000000000 ≤ n → n < 0x8000000000000000 → t.IsAt (n * 1000000) → Means (.ofInt n) t

/-- What a refresh token may be written as: a string, null, or not at all. -/
inductive Refreshes : Option Value → Option String → Prop where
  | absent : Refreshes none none
  | null : Refreshes (some .null) none
  | string (s) : Refreshes (some (.string s)) (some s)

/-- When a token expires whose grant came at a moment with this expiry, or with none. -/
inductive Expires (cfg : Coordinator.Config) (now : Moment) (field : Option Value) : Instant → Prop where
  | meant {v t} : field = some v → Means v t → Expires cfg now field t
  | lifetime {t} : (∀ v u, field = some v → ¬ Means v u) →
      t.IsAt (now.wall.seconds * 1000000000 + now.wall.nanos + cfg.defaultTtl.nanos) → Expires cfg now field t
  /-- The default lifetime leads beyond the range of instants. -/
  | atOnce : (∀ v u, field = some v → ¬ Means v u) →
      (∀ t, ¬ Instant.IsAt t (now.wall.seconds * 1000000000 + now.wall.nanos + cfg.defaultTtl.nanos)) →
      Expires cfg now field now.wall

variable {ms ms' : List (String × Value)} {v : Value} {t : Instant} {g : Grant}

theorem toInstant?_epoch {n : Int} (hlow : -0x8000000000000000 ≤ n) (hhigh : n < 0x8000000000000000) :
    (Expiry.epoch n).toInstant? = some t ↔ Means (.ofInt n) t := by
  rw [Expiry.toInstant?, Expiry.millisThreshold]
  constructor
  · intro h
    split at h
    case isTrue hmillis => exact .millis hmillis hhigh (Instant.ofMillis?_iff.mp h)
    case isFalse hseconds => exact .seconds hlow (Int.not_le.mp hseconds) (Instant.ofSeconds?_iff.mp h)
  · intro h
    cases h with
    | seconds _ hlt hat =>
      rw [if_neg (Int.not_le.mpr hlt)]
      exact Instant.ofSeconds?_iff.mpr hat
    | millis hle _ hat =>
      rw [if_pos hle]
      exact Instant.ofMillis?_iff.mpr hat

/-- What is read from an expiry is what it means. -/
theorem readExpiry_means : (readExpiry v).1.bind Expiry.toInstant? = some t ↔ Means v t := by
  cases v with
  | string s =>
    have hread : (readExpiry (.string s)).1.bind Expiry.toInstant? = Instant.read? s := by
      rw [readExpiry, Expiry.ofValue?]
      · cases Instant.read? s <;> rfl
      · nofun
    rw [hread]
    exact ⟨.date, fun h => by cases h; assumption⟩
  | number n =>
    cases n with
    | integer n =>
      have hread : (readExpiry (.ofInt n)).1 = (Value.ofInt n).asInt64?.map Expiry.epoch := by
        unfold readExpiry Expiry.ofValue?
        dsimp only [Value.ofInt]
        cases (Value.number (.integer n)).asInt64? <;> rfl
      change (readExpiry (.ofInt n)).1.bind _ = _ ↔ Means (.ofInt n) t
      rw [hread]
      constructor
      · intro h
        obtain ⟨e, he, ht⟩ := Option.bind_eq_some_iff.mp h
        obtain ⟨k, hk, rfl⟩ := Option.map_eq_some_iff.mp he
        obtain ⟨heq, hlow, hhigh⟩ := Json.asInt64?_eq_some_iff.mp hk
        cases heq
        exact (toInstant?_epoch hlow hhigh).mp ht
      · intro h
        have hrange : -0x8000000000000000 ≤ n ∧ n < 0x8000000000000000 := by cases h <;> omega
        have hword : (Value.ofInt n).asInt64? = some n := Json.asInt64?_eq_some_iff.mpr ⟨rfl, hrange⟩
        rw [hword]
        exact (toInstant?_epoch hrange.1 hrange.2).mpr h
    | float x => exact ⟨nofun, nofun⟩
  | null | bool _ | array _ | object _ => exact ⟨nofun, nofun⟩

def fieldNames : List String := ["access_token", expiryName, "refresh_token"]

theorem Means.unique {u : Instant} (ht : Means v t) (hu : Means v u) : t = u := by
  have hread := readExpiry_means.mpr ht
  rw [readExpiry_means.mpr hu, Option.some.injEq] at hread
  exact hread.symm

theorem Expires.unique {cfg : Coordinator.Config} {now : Moment} {field : Option Value} {u : Instant}
    (ht : Expires cfg now field t) (hu : Expires cfg now field u) : t = u := by
  cases ht with
  | meant hv ht =>
    cases hu with
    | meant hw hu =>
      cases hv.symm.trans hw
      exact ht.unique hu
    | lifetime hnone _ => exact absurd ht (hnone _ _ hv)
    | atOnce hnone _ => exact absurd ht (hnone _ _ hv)
  | lifetime hnone ht =>
    cases hu with
    | meant hw hu => exact absurd hu (hnone _ _ hw)
    | lifetime _ hu => exact ht.unique hu
    | atOnce _ hbeyond => exact absurd ht (hbeyond t)
  | atOnce hnone hbeyond =>
    cases hu with
    | meant hw hu => exact absurd hu (hnone _ _ hw)
    | lifetime _ hu => exact absurd hu (hbeyond u)
    | atOnce => rfl

/-- A chain that gets a grant with a proper access token stores what is made of it. -/
theorem stored_of_exchanged (cfg : Coordinator.Config) {now : Moment} {s : Coordinator.State} {id : Nat}
    {token : AccessToken} (h : s.Accepts now (.exchanged id (.ok g))) (htoken : token.text = g.accessToken) :
    ∃ c previous, (s.step cfg now (.exchanged id (.ok g))).state.store = some c ∧ c.accessToken = token ∧
      Coordinator.MadeOf cfg now g previous c := by
  have hmade (previous : Option String) : ∃ c : Credentials, c.accessToken = token ∧
      Coordinator.MadeOf cfg now g previous c := ⟨⟨token, _, _⟩, rfl, htoken, rfl, rfl⟩
  have hstored {previous : Option String} {c : Credentials} (hmade : Coordinator.MadeOf cfg now g previous c)
      (hends : Coordinator.Ends cfg now s (.exchanged id (.ok g)) id (.stored c)) :
      (s.step cfg now (.exchanged id (.ok g))).state.store = some c := by
    rw [hends.step]
    rfl
  rcases h with hstage | ⟨previous, hstage⟩
  · obtain ⟨c, hc, hmade⟩ := hmade none
    exact ⟨c, none, hstored hmade (.loggedIn hstage (Coordinator.credentialsOf_eq_ok.mpr hmade)), hc, hmade⟩
  · obtain ⟨c, hc, hmade⟩ := hmade (some previous)
    exact ⟨c, _, hstored hmade (.refreshed hstage (Coordinator.credentialsOf_eq_ok.mpr hmade)), hc, hmade⟩

end Courier.Grant

import Courier.Proofs.Credential.Expiry

/-! How long a token lasts for which the backend names no usable expiry. It gets the default lifetime, and until that
has nearly passed nobody refreshes it, unless the lifetime leads beyond the range of instants: such a token counts as
expiring from the start, however short the refresh buffer is. -/

namespace Courier.Coordinator

open Time (Instant Moment Span)

/-- Whether the default lifetime of a token that comes at a moment ends within the range of instants. -/
def Config.Spans (cfg : Config) (now : Moment) : Prop :=
  ∃ t : Instant, t.IsAt (now.wall.seconds * 1000000000 + now.wall.nanos + cfg.defaultTtl.nanos)

/-- Whether a caller who wants valid credentials makes the coordinator create a ticket. -/
def State.Refreshes (cfg : Config) (now : Moment) (s : State) (caller : Nat) : Prop :=
  ∃ k, .created k ∈ (s.step cfg now (.ensureValid caller false)).effects

variable {cfg : Config} {now : Moment} {s : State} {g : Grant} {c : Credentials} {buffer : Span} {caller : Nat}

/-- A buffer that is no longer than a lifetime within the range leads no further. -/
theorem Config.Spans.plus? (h : cfg.Spans now) (hshort : buffer.nanos ≤ cfg.defaultTtl.nanos) :
    ∃ t, now.wall.plus? buffer = some t := by
  obtain ⟨-, hhigh⟩ := Instant.exists_isAt_iff.mp h
  have hfirst := now.wall.first_le
  have hrange : ∃ t : Instant, t.IsAt (now.wall.seconds * 1000000000 + now.wall.nanos + buffer.nanos) :=
    Instant.exists_isAt_iff.mpr (by omega)
  obtain ⟨t, ht⟩ := hrange
  exact ⟨t, Instant.plus?_iff.mpr ht⟩

/-- Credentials with the default expiry are fresh for every buffer that is shorter than the default lifetime, if that
ends within the range. -/
theorem isExpiring_defaultExpiry (hexpiry : c.expiresAt = defaultExpiry cfg now) :
    c.isExpiring now.wall buffer = false ↔ buffer.nanos < cfg.defaultTtl.nanos ∧ cfg.Spans now := by
  rw [defaultExpiry] at hexpiry
  rw [Credentials.isExpiring]
  cases hplus : now.wall.plus? cfg.defaultTtl with
  | none =>
    have hbeyond : ¬ cfg.Spans now := by
      rintro ⟨t, ht⟩
      rw [Instant.plus?_iff.mpr ht] at hplus
      cases hplus
    rw [hplus, Option.getD_none] at hexpiry
    -- the token expires at once, and no buffer is too short for that
    cases hdeadline : now.wall.plus? buffer with
    | none => simp [hbeyond]
    | some deadline => simp [hexpiry, Instant.atMost_of_plus? hdeadline, hbeyond]
  | some expiry =>
    have hspans : cfg.Spans now := ⟨expiry, Instant.plus?_iff.mp hplus⟩
    rw [hplus, Option.getD_some] at hexpiry
    cases hdeadline : now.wall.plus? buffer with
    | none =>
      have hno : ¬ buffer.nanos < cfg.defaultTtl.nanos := by
        intro hshort
        obtain ⟨t, ht⟩ := hspans.plus? (Nat.le_of_lt hshort)
        rw [hdeadline] at ht
        cases ht
      simp [hno]
    | some deadline =>
      have hcompare := (Instant.plus?_iff.mp hplus).atMost_iff (Instant.plus?_iff.mp hdeadline)
      rw [hexpiry, ← Bool.not_eq_true, hcompare, and_iff_left hspans]
      omega

/-- Where there is no ticket to join and the latch is off, one is created just for credentials that need it. -/
theorem refreshes_iff (hslot : s.slot = none) (hlatched : s.latched = false) :
    s.Refreshes cfg now caller ↔ s.needsRefresh cfg now = true := by
  have hshown : s.Refreshes cfg now caller ↔ ∃ k, .created k ∈ (s.step cfg now (.ensureValid caller false)).shown :=
    exists_congr fun k => by simp [Turn.shown, visible, Effect.isLog]
  have hmove := s.step_move cfg now (.ensureValid caller false)
  change Move cfg now s _ _ (s.step cfg now (.ensureValid caller false)).shown at hmove
  rw [hshown]
  generalize (s.step cfg now (.ensureValid caller false)).state = s' at hmove
  generalize (s.step cfg now (.ensureValid caller false)).shown = es at hmove
  cases hmove with
  | skip hno => exact absurd trivial hno
  | join hjoined => simp [hslot] at hjoined
  | refuse _ hrefused => simp [hlatched] at hrefused
  | valid _ _ hvalid =>
    rw [Bool.false_or] at hvalid
    simp [hvalid]
  | create _ _ hneeds hcreated =>
    rw [Bool.false_or] at hneeds
    refine iff_of_true ⟨s.tickets.length + 1, ?_⟩ hneeds
    cases hcreated <;> exact List.mem_cons_self
  | advance ha => cases ha
  | finish he => cases he

/-- A chain that gets a grant without a usable expiry stores credentials that are fresh for every buffer shorter than
the default lifetime, if that ends within the range of instants, and that are expiring for every buffer if it does not.
So whoever asks at that time, with those credentials stored and no ticket left to join, makes the coordinator refresh
them exactly if the configured buffer is no shorter or the lifetime leads out of the range. -/
theorem fresh_iff_spans (cfg : Config) {now : Moment} {s : State} {id : Nat} {g : Grant} {token : AccessToken}
    (haccepts : s.Accepts now (.exchanged id (.ok g))) (htoken : token.text = g.accessToken)
    (hunnamed : g.expiry.bind Expiry.toInstant? = none) :
    let stored := (s.step cfg now (.exchanged id (.ok g))).state
    ∃ c, stored.store = some c ∧ c.accessToken = token ∧
      (∀ buffer : Span,
        c.isExpiring now.wall buffer = false ↔ buffer.nanos < cfg.defaultTtl.nanos ∧ cfg.Spans now) ∧
      ∀ (run : List (Moment × Input)) (later : Moment) (caller : Nat), later.wall = now.wall →
        (stored.after cfg run).store = some c → (stored.after cfg run).latched = false →
        (stored.after cfg run).slot = none →
        (¬ (stored.after cfg run).Refreshes cfg later caller ↔
          cfg.refreshBuffer.nanos < cfg.defaultTtl.nanos ∧ cfg.Spans now) := by
  intro stored
  obtain ⟨c, previous, hstore, hc, hmade⟩ := Grant.stored_of_exchanged cfg haccepts htoken
  have hexpiry : c.expiresAt = defaultExpiry cfg now := by
    rw [hmade.expiry, hunnamed, Option.getD_none]
  refine ⟨c, hstore, hc, fun _ => isExpiring_defaultExpiry hexpiry, fun run later caller hwall hkept hlatched hslot => ?_⟩
  have hneeds : (stored.after cfg run).needsRefresh cfg later = c.isExpiring now.wall cfg.refreshBuffer := by
    rw [State.needsRefresh, hkept, hwall]
  rw [refreshes_iff hslot hlatched, hneeds, Bool.not_eq_true, isExpiring_defaultExpiry hexpiry]

/-- The ticket of a slow refresh has been released, and the exchange is still under way. -/
def unticketed (cfg : Config) : State :=
  State.after cfg { store := some staleCredentials } (slowRun ++ [(.ofTicks 300, .graceOver 1)])

def narrow : Config := { hurried with refreshBuffer := .ofNanos 7199999999999 }

theorem fresh_narrow :
    let stored := ((unticketed narrow).step narrow (.ofTicks 1000) (.exchanged 1 (.ok secondGrant))).state
    secondGrant.expiry.bind Expiry.toInstant? = none ∧
    (∃ c, stored.store = some c ∧ c.isExpiring (Moment.ofTicks 1000).wall narrow.refreshBuffer = false) ∧
    ¬ stored.Refreshes narrow (.ofTicks 1000) 2 := by
  intro stored
  have haccepts : (unticketed narrow).Accepts (.ofTicks 1000) (.exchanged 1 (.ok secondGrant)) := .inr ⟨"rt-0", rfl⟩
  have hspans : narrow.Spans (.ofTicks 1000) := Instant.exists_isAt_iff.mpr (by decide)
  have htoken : secondCredentials.accessToken.text = secondGrant.accessToken := rfl
  obtain ⟨c, hstore, -, hfresh, hrefreshes⟩ := fresh_iff_spans narrow haccepts htoken rfl
  have hshort : narrow.refreshBuffer.nanos < narrow.defaultTtl.nanos := by decide
  exact ⟨rfl, ⟨c, hstore, (hfresh _).mpr ⟨hshort, hspans⟩⟩,
    (hrefreshes [] (.ofTicks 1000) 2 rfl hstore rfl rfl).mpr ⟨hshort, hspans⟩⟩

def endless : Config := { hurried with defaultTtl := .longest }

/-- It is not so that a short buffer suffices: with the longest default lifetime a token is expiring as soon as it is
stored, and whoever asks for it then has it refreshed. -/
theorem endless_lifetime_refreshes :
    let stored := ((unticketed endless).step endless (.ofTicks 1000) (.exchanged 1 (.ok secondGrant))).state
    endless.refreshBuffer.nanos < endless.defaultTtl.nanos ∧
    stored.store.map (·.isExpiring (Moment.ofTicks 1000).wall endless.refreshBuffer) = some true ∧
    stored.Refreshes endless (.ofTicks 1000) 2 := by
  refine ⟨by decide, rfl, 2, ?_⟩
  exact .tail _ (.head _)

end Courier.Coordinator

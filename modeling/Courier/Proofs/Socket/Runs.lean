import Courier.Socket.Connection
import Mathlib.Data.List.Induction

/-! Runs of a connection, step by step. A step of the reading side leaves the writing side alone, and
the other way round. -/

namespace Courier.Socket.Connection

variable {α : Type} {c : Connection} {h : Happening}

theorem collect_append (f : Connection → Happening → Option α) (c : Connection) (hs hs' : List Happening) :
    c.collect f (hs ++ hs') = c.collect f hs ++ (c.after hs).collect f hs' := by
  induction hs generalizing c with
  | nil => rfl
  | cons h hs ih => simp [collect, after, ih]

theorem collect_concat (f : Connection → Happening → Option α) (hs : List Happening) (h : Happening) :
    collect f {} (hs ++ [h]) = collect f {} hs ++ (f (after {} hs) h).toList := by
  rw [collect_append]
  simp [collect]

/-- Where nothing comes of any step, nothing comes of a run; `I` is what the steps keep. -/
theorem collect_eq_nil {f : Connection → Happening → Option α} {I : Connection → Prop} {hs : List Happening}
    (hstep : ∀ c, ∀ h ∈ hs, I c → f c h = none ∧ I (c.step h)) (hc : I c) : c.collect f hs = [] := by
  induction hs generalizing c with
  | nil => rfl
  | cons h hs ih =>
    obtain ⟨hnone, hnext⟩ := hstep c h List.mem_cons_self hc
    rw [collect, hnone, ih (fun c h hmem => hstep c h (List.mem_cons_of_mem _ hmem)) hnext]
    rfl

@[simp] theorem after_concat (hs : List Happening) (h : Happening) :
    c.after (hs ++ [h]) = (c.after hs).step h := by
  simp [after]

/-- What is read is no matter of the writing side. -/
theorem exists_read (c : Connection) (i : Item) :
    ∃ reader inbox, c.read i = { c with reader := reader, inbox := inbox } := by
  unfold Connection.read
  split
  · exact ⟨_, _, rfl⟩
  · exact ⟨_, _, rfl⟩
  · exact ⟨_, _, rfl⟩

theorem exists_write (c : Connection) (writable : Bool) :
    ∃ writer outbox, (c.write writable).1 = { c with writer := writer, outbox := outbox } := by
  unfold Connection.write
  split
  · exact ⟨_, _, rfl⟩
  · split_ifs
    · exact ⟨c.writer, c.outbox, rfl⟩
    · exact ⟨_, c.outbox, rfl⟩

@[simp] theorem held_work (c : Connection) (w : Work) : (c.step (.work w)).held = c.held := by
  cases w with
  | read i =>
    obtain ⟨_, _, hread⟩ := c.exists_read i
    simp [step, hread]
  | write writable =>
    obtain ⟨_, _, hwrite⟩ := c.exists_write writable
    simp [step, hwrite]
  | notice => cases hheld : c.held <;> simp [step, hheld]
  | giveUp => rfl

/-- The session does not take a connection back. -/
theorem held_step (hheld : c.held = false) (h : Happening) : (c.step h).held = false := by
  cases h with
  | work w => rw [held_work, hheld]
  | send f => simp [step, accepts, hheld]
  | receive => exact hheld
  | release => rfl

end Courier.Socket.Connection

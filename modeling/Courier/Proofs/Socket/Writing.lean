import Courier.Proofs.Socket.Runs
import Mathlib.Data.List.Infix

/-! What is written to a WebSocket, whatever the session does. Messages are written as they were queued
up to the first request to close. `Wrote` says how far that has got, and every step keeps it. -/

namespace Courier.Socket

open Session (Frame)

def asksToClose : Frame → Bool
  | .message _ => false
  | .close => true

def messageOf? : Frame → Option Written
  | .message o => some (.message o)
  | .close => none

/-- What is to be written of the frames of a session: the messages before the first request to close,
and the request. If there is none, the connection is closed once the session has let go. -/
def due (released : Bool) (frames : List Frame) : List Written :=
  (frames.takeWhile (!asksToClose ·)).filterMap messageOf? ++
    if frames.any asksToClose then [.close (some ⟨1000, "client closing"⟩)]
    else if released then [.close none] else []

@[simp] theorem due_nil (released : Bool) : due released [] = if released then [.close none] else [] := rfl

@[simp] theorem due_close (released : Bool) (frames : List Frame) :
    due released (.close :: frames) = [.close (some .client)] := by
  simp [due, asksToClose, Closing.client]

@[simp] theorem due_message (released : Bool) (o : Outbound) (frames : List Frame) :
    due released (.message o :: frames) = .message o :: due released frames := by
  simp [due, asksToClose, messageOf?]

/-- Frames that do not ask to close are written one by one. -/
theorem due_append {done : List Frame} (hdone : done.any asksToClose = false) (released : Bool)
    (frames : List Frame) :
    due released (done ++ frames) = done.map Writer.messageOf ++ due released frames := by
  induction done with
  | nil => rfl
  | cons f done ih =>
    cases f with
    | message o => simpa [Writer.messageOf] using ih (by simpa [asksToClose] using hdone)
    | close => simp [asksToClose] at hdone

theorem not_mem_messageOf {done : List Frame} (hdone : done.any asksToClose = false) (closing : Option Closing) :
    .close closing ∉ done.map Writer.messageOf := by
  intro hmem
  obtain ⟨f, hf, hclose⟩ := List.mem_map.mp hmem
  cases f with
  | message o => cases hclose
  | close =>
    rw [List.any_eq_false] at hdone
    exact hdone _ hf rfl

theorem Writer.writeAll_stopped (inputs : List Input) : (stopped.writeAll inputs).2 = [] := by
  induction inputs with
  | nil => rfl
  | cons i inputs ih => simp [writeAll, step, ih]

/-- Left to itself, the writing side writes what is due. -/
theorem Writer.writeAll_writing (frames : List Frame) (released : Bool) :
    (writing.writeAll (frames.map (Input.frame · true) ++
      if released then [.released] else [])).2 = due released frames := by
  induction frames with
  | nil => cases released <;> rfl
  | cons f frames ih =>
    cases f with
    | message o => simp [writeAll, step, messageOf, ih]
    | close => simp [writeAll, step, messageOf, writeAll_stopped]

namespace Connection

def frames (hs : List Happening) : List Frame := collect queued {} hs

def messages (hs : List Happening) : List Written := collect written {} hs

/-- At some time a frame could not be written, and nothing has been written from then on. -/
def Fails (hs : List Happening) : Prop :=
  ∃ past rest, hs = past ++ .work (.write false) :: rest ∧
    (after {} past).writer = .writing ∧ (after {} past).outbox ≠ [] ∧ messages hs = messages past

structure Writes (hs : List Happening) : Prop where
  ordered : messages hs <+: due (!(after {} hs).held) (frames hs)
  /-- While it goes on, its next turn adds what comes next, if a frame can be written. -/
  next : (after {} hs).writer = .writing →
    (after {} hs).written (.work (.write true)) =
      (due (!(after {} hs).held) (frames hs))[(messages hs).length]?
  /-- It stops once all is written and nothing can follow, or when a frame cannot be written. -/
  stopped : (after {} hs).writer = .stopped →
    (messages hs = due (!(after {} hs).held) (frames hs) ∧
      ((frames hs).any asksToClose = true ∨ (after {} hs).held = false)) ∨ Fails hs
  /-- It has stopped when it has closed the connection. -/
  closing : ∀ closing, .close closing ∈ messages hs → (after {} hs).writer = .stopped
  final : (after {} hs).writer = .stopped → ∀ more, messages (hs ++ more) = messages hs

variable {c : Connection} {hs : List Happening} {h : Happening}

@[simp] theorem messages_concat :
    messages (hs ++ [h]) = messages hs ++ ((after {} hs).written h).toList := collect_concat ..

@[simp] theorem frames_concat :
    frames (hs ++ [h]) = frames hs ++ ((after {} hs).queued h).toList := collect_concat ..

/-- Only a turn of the writing side writes. -/
theorem step_of_no_turn (c : Connection) {h : Happening} (hno : ∀ writable, h ≠ .work (.write writable)) :
    (c.step h).writer = c.writer ∧ (c.step h).outbox = c.outbox ++ (c.queued h).toList ∧
      c.written h = none := by
  cases h with
  | work w =>
    cases w with
    | write writable => exact absurd rfl (hno writable)
    | read i =>
      obtain ⟨_, _, hread⟩ := c.exists_read i
      simp [step, queued, written, hread]
    | notice => cases hheld : c.held <;> simp [step, queued, written, hheld]
    | giveUp => simp [step, queued, written]
  | send f => cases htaken : c.accepts <;> simp [step, queued, written, htaken]
  | receive => simp [step, queued, written]
  | release => simp [step, queued, written]

theorem write_of_stopped (hstopped : c.writer = .stopped) (writable : Bool) :
    (c.write writable).1.writer = .stopped ∧ (c.write writable).2 = none := by
  unfold Connection.write
  rw [hstopped]
  split
  · exact ⟨rfl, rfl⟩
  · cases c.held
    · exact ⟨rfl, rfl⟩
    · exact ⟨hstopped, rfl⟩

/-- Once the writing side has stopped, nothing is queued or written any more. -/
theorem step_of_stopped (hstopped : c.writer = .stopped) (h : Happening) :
    (c.step h).writer = .stopped ∧ c.queued h = none ∧ c.written h = none := by
  by_cases hturn : ∃ writable, h = .work (.write writable)
  · obtain ⟨writable, rfl⟩ := hturn
    obtain ⟨hwriter, hnone⟩ := write_of_stopped hstopped writable
    exact ⟨hwriter, rfl, hnone⟩
  · obtain ⟨hwriter, -, hnone⟩ := c.step_of_no_turn (not_exists.mp hturn)
    refine ⟨hwriter.trans hstopped, ?_, hnone⟩
    cases h <;> simp [queued, accepts, hstopped]

inductive Wrote (hs : List Happening) : Prop where
  | going {done} : (after {} hs).writer = .writing → frames hs = done ++ (after {} hs).outbox →
      done.any asksToClose = false → messages hs = done.map Writer.messageOf → Wrote hs
  | closed {done rest} : (after {} hs).writer = .stopped → frames hs = done ++ .close :: rest →
      done.any asksToClose = false → messages hs = done.map Writer.messageOf ++ [.close (some .client)] →
      Wrote hs
  | released : (after {} hs).writer = .stopped → (after {} hs).held = false →
      (frames hs).any asksToClose = false → messages hs = (frames hs).map Writer.messageOf ++ [.close none] →
      Wrote hs
  | failed {done rest} : (after {} hs).writer = .stopped → Fails hs → frames hs = done ++ rest →
      done.any asksToClose = false → messages hs = done.map Writer.messageOf → Wrote hs

theorem Fails.concat (hfails : Fails hs) (hstopped : (after {} hs).writer = .stopped) (h : Happening) :
    Fails (hs ++ [h]) := by
  obtain ⟨past, rest, hrun, hwriting, hleft, hmessages⟩ := hfails
  obtain ⟨-, -, hnone⟩ := step_of_stopped hstopped h
  refine ⟨past, rest ++ [h], by simp [hrun], hwriting, hleft, ?_⟩
  rw [messages_concat, hnone, hmessages]
  simp

theorem Wrote.of_stopped (hw : Wrote hs) (hstopped : (after {} hs).writer = .stopped) (h : Happening) :
    Wrote (hs ++ [h]) := by
  obtain ⟨hwriter, hqueued, hwritten⟩ := step_of_stopped hstopped h
  have hframes : frames (hs ++ [h]) = frames hs := by simp [hqueued]
  have hmessages : messages (hs ++ [h]) = messages hs := by simp [hwritten]
  rw [← after_concat] at hwriter
  cases hw with
  | going hwriting _ _ _ => simp [hstopped] at hwriting
  | closed _ hfs hdone hms => exact .closed hwriter (hframes.trans hfs) hdone (hmessages.trans hms)
  | released _ hheld hopen hms =>
    refine .released hwriter ?_ (hframes ▸ hopen) (by rw [hframes, hmessages, hms])
    rw [after_concat]
    exact held_step hheld h
  | failed _ hfails hfs hdone hms =>
    exact .failed hwriter (hfails.concat hstopped h) (hframes.trans hfs) hdone (hmessages.trans hms)

/-- A turn of the writing side takes the first frame that is left. -/
theorem Wrote.write {done : List Frame} (hwriting : (after {} hs).writer = .writing)
    (hframes : frames hs = done ++ (after {} hs).outbox) (hdone : done.any asksToClose = false)
    (hmessages : messages hs = done.map Writer.messageOf) (writable : Bool) :
    Wrote (hs ++ [.work (.write writable)]) := by
  have hqueued : frames (hs ++ [.work (.write writable)]) = frames hs := by simp [queued]
  have hwritten : messages (hs ++ [.work (.write writable)]) =
      messages hs ++ ((after {} hs).write writable).2.toList := messages_concat
  have hafter : after {} (hs ++ [.work (.write writable)]) = ((after {} hs).write writable).1 := after_concat ..
  cases hleft : (after {} hs).outbox with
  | nil =>
    rw [hleft, List.append_nil] at hframes
    cases hheld : (after {} hs).held with
    | true =>
      simp only [Connection.write, hleft, hheld, if_true] at hwritten hafter
      exact .going (by rw [hafter, hwriting]) (by rw [hafter, hleft, hqueued, hframes, List.append_nil]) hdone
        (by simp [hwritten, hmessages])
    | false =>
      simp only [Connection.write, hleft, hheld, hwriting, Writer.step, Bool.false_eq_true, if_false]
        at hwritten hafter
      exact .released (by rw [hafter]) (by rw [hafter]) (by rw [hqueued, hframes, hdone])
        (by simp [hwritten, hqueued, hmessages, hframes])
  | cons f rest =>
    rw [hleft] at hframes
    simp only [Connection.write, hleft, hwriting] at hwritten hafter
    cases writable with
    | false =>
      have hlast : messages (hs ++ [.work (.write false)]) = messages hs := by
        rw [hwritten]
        cases f <;> simp [Writer.step]
      have hfails : Fails (hs ++ [.work (.write false)]) := ⟨hs, [], rfl, hwriting, by simp [hleft], hlast⟩
      exact .failed (by rw [hafter]; cases f <;> rfl) hfails (hqueued.trans hframes) hdone (hlast.trans hmessages)
    | true =>
      cases f with
      | message o =>
        have hmore : (done ++ [Frame.message o]).any asksToClose = false := by simp [hdone, asksToClose]
        refine .going (by rw [hafter]; rfl) ?_ hmore (by simp [hwritten, hmessages, Writer.step])
        rw [hafter, hqueued, hframes, List.append_assoc]
        rfl
      | close =>
        refine .closed (by rw [hafter]; rfl) (hqueued.trans hframes) hdone ?_
        simp [hwritten, hmessages, Writer.step, Writer.messageOf]

theorem Wrote.concat (hw : Wrote hs) (h : Happening) : Wrote (hs ++ [h]) := by
  by_cases hstopped : (after {} hs).writer = .stopped
  · exact hw.of_stopped hstopped h
  cases hw with
  | closed hwriter _ _ _ | released hwriter _ _ _ | failed hwriter _ _ _ _ => exact absurd hwriter hstopped
  | going hwriting hframes hdone hmessages =>
    by_cases hturn : ∃ writable, h = .work (.write writable)
    · obtain ⟨writable, rfl⟩ := hturn
      exact Wrote.write hwriting hframes hdone hmessages writable
    · -- everything else adds to the frames that are left just what is queued
      obtain ⟨hwriter, houtbox, hnone⟩ := step_of_no_turn (after {} hs) (not_exists.mp hturn)
      refine .going (by rw [after_concat, hwriter, hwriting]) ?_ hdone (by simp [hnone, hmessages])
      rw [frames_concat, after_concat, houtbox, hframes, List.append_assoc]

theorem wrote (hs : List Happening) : Wrote hs := by
  induction hs using List.reverseRecOn with
  | nil =>
    have hnone : messages [] = [].map Writer.messageOf := rfl
    exact .going rfl rfl rfl hnone
  | append_singleton hs h ih => exact ih.concat h

theorem messages_of_stopped (hstopped : (after {} hs).writer = .stopped) (more : List Happening) :
    messages (hs ++ more) = messages hs := by
  have hnothing : (after {} hs).collect written more = [] :=
    collect_eq_nil (I := (·.writer = .stopped))
      (fun _ h _ hstill => ⟨(step_of_stopped hstill h).2.2, (step_of_stopped hstill h).1⟩) hstopped
  rw [messages, collect_append, hnothing, List.append_nil]
  rfl

/-- What is written is what is due, and the writing side stops early only when a frame cannot be written. -/
theorem writes (hs : List Happening) : Writes hs := by
  cases wrote hs with
  | going hwriting hframes hdone hmessages =>
    have hno : (after {} hs).writer ≠ .stopped := by simp [hwriting]
    have hdue := due_append hdone (!(after {} hs).held) (after {} hs).outbox
    rw [← hframes, ← hmessages] at hdue
    refine ⟨?_, fun _ => ?_, fun h => absurd h hno, fun closing hmem => ?_, messages_of_stopped⟩
    · rw [hdue]
      exact List.prefix_append _ _
    · rw [hdue, List.getElem?_append_right le_rfl, Nat.sub_self]
      simp only [written, write, hwriting]
      cases hleft : (after {} hs).outbox with
      | nil => cases hheld : (after {} hs).held <;> simp [Writer.step]
      | cons f rest => cases f <;> simp [Writer.step, Writer.messageOf]
    · rw [hmessages] at hmem
      exact absurd hmem (not_mem_messageOf hdone closing)
  | closed hstopped hframes hdone hmessages =>
    have hall : messages hs = due (!(after {} hs).held) (frames hs) := by
      rw [hframes, due_append hdone, due_close, hmessages]
    have hasked : (frames hs).any asksToClose = true := by simp [hframes, asksToClose]
    exact ⟨hall ▸ List.prefix_refl _, fun h => by simp [hstopped] at h, fun _ => .inl ⟨hall, .inl hasked⟩,
      fun _ _ => hstopped, messages_of_stopped⟩
  | released hstopped hheld hopen hmessages =>
    have hall : messages hs = due (!(after {} hs).held) (frames hs) := by
      have hdue := due_append hopen (!(after {} hs).held) []
      rw [List.append_nil] at hdue
      rw [hdue, hmessages, hheld]
      rfl
    exact ⟨hall ▸ List.prefix_refl _, fun h => by simp [hstopped] at h, fun _ => .inl ⟨hall, .inr hheld⟩,
      fun _ _ => hstopped, messages_of_stopped⟩
  | failed hstopped hfails hframes hdone hmessages =>
    refine ⟨?_, fun h => by simp [hstopped] at h, fun _ => .inr hfails, fun _ _ => hstopped, messages_of_stopped⟩
    rw [hframes, due_append hdone, hmessages]
    exact List.prefix_append _ _

end Connection
end Courier.Socket

import Courier.Proofs.Session.Frames
import Courier.Proofs.Session.Stability

/-! What users send over a connection that stays open. As long as the session does not open anew, it is on
the connection that it ends on; it takes up what they issue, each message in its turn, and hands it to
that connection. Of these messages some ask for a channel, or for its end. -/

namespace Courier

def Outbound.channels (o : Outbound) : List String :=
  match o.data.get? "channels" with
  | some (.array items) => items.filterMap Json.Value.asString?
  | _ => []

namespace Outbound

variable {ch : String}

def subscribes (ch : String) (o : Outbound) : Bool := o.kind = "subscribe" && ch ∈ o.channels

def unsubscribes (ch : String) (o : Outbound) : Bool := o.kind = "unsubscribe" && ch ∈ o.channels

def concerns (ch : String) (o : Outbound) : Bool := o.subscribes ch || o.unsubscribes ch

theorem channels_of_channelList {o : Outbound} {channels : List String} (h : o.data = channelList channels) :
    o.channels = channels := by
  have hmember : (channelList channels).get? "channels" = some (.array (channels.map .string)) := rfl
  have hstring : Json.Value.asString? ∘ Json.Value.string = some := rfl
  simp only [Outbound.channels, h, hmember, List.filterMap_map, hstring, List.filterMap_some]

@[simp] theorem subscribes_subscribe (now : Time.Instant) (seed : UInt64) (channels : List String) :
    (subscribe now seed channels).subscribes ch = decide (ch ∈ channels) := by
  rw [subscribes, channels_of_channelList rfl]
  rfl

@[simp] theorem unsubscribes_subscribe (now : Time.Instant) (seed : UInt64) (channels : List String) :
    (subscribe now seed channels).unsubscribes ch = false := rfl

@[simp] theorem unsubscribes_unsubscribe (now : Time.Instant) (seed : UInt64) (channels : List String) :
    (unsubscribe now seed channels).unsubscribes ch = decide (ch ∈ channels) := by
  rw [unsubscribes, channels_of_channelList rfl]
  rfl

/-- Replies and pings are no requests about channels. -/
theorem not_concerns_of_kind {o : Outbound} (h : o.kind = "ack" ∨ o.kind = "pong" ∨ o.kind = "ping") :
    o.concerns ch = false := by
  rcases h with h | h | h <;> simp [concerns, subscribes, unsubscribes, h]

end Outbound

namespace Session

def Command.message? : Command → Option Outbound
  | send o => some o
  | _ => none

def requestsOn (k : Nat) (ch : String) (records : List Record) : List Outbound :=
  (records.flatMap (·.ownOn k)).filter (·.concerns ch)

def Frame.concerns (ch : String) : Frame → Bool
  | message o => o.concerns ch
  | close => false

def framesAbout (k : Nat) (ch : String) (records : List Record) : List Frame :=
  (framesTo k (records.flatMap (·.effects))).filter (·.concerns ch)

variable {cfg : Config} {env : Surroundings} {s s' : State} {input : Input} {es : List Effect}
  {k : Nat} {ch : String} {r : Record}

theorem mem_issued_messages {acts : List Act} {o : Outbound} :
    o ∈ (acts.filterMap Act.issued?).filterMap Command.message? ↔ .issue (.send o) ∈ acts := by
  have hmessage {a : Act} : (a.issued?.bind Command.message?) = some o ↔ a = .issue (.send o) := by
    cases a with
    | issue c => cases c <;> simp [Act.issued?, Command.message?]
    | _ => simp [Act.issued?]
  simp only [List.filterMap_filterMap, List.mem_filterMap, hmessage, exists_eq_right]

/-- A session that is open, and has not just opened, has been open on the same connection. -/
theorem Move.connection_before (h : Move cfg env s input s' es) (hs : Sound s)
    (hk : s'.connection? = some k) (hno : .opened ∉ emitted es) : s.connection? = some k := by
  obtain ⟨hm', hopen', hsocket'⟩ := State.connection?_eq_some.mp hk
  rcases h.open_before hs hm' hopen' with ⟨-, hopened⟩ | ⟨hm, hopen, -⟩
  · exact absurd hopened hno
  refine State.connection?_eq_some.mpr ⟨hm, hopen, ?_⟩
  cases h with
  | skip _ | ignore _ _ | send _ _ _ | dropSend _ _ | text _ _ | drainText _ | ping _ _ _ _ | stable _ _ _
  | disarm _ _ _ _ => exact hsocket'
  | opened _ _ _ => simp at hno
  | connect _ _ _ hb | reconnect _ _ _ _ _ hb | reopen _ _ hb => exact absurd hopen' hb.not_open
  | refused _ _ hl | lost _ _ hl | failed _ _ hl => exact absurd hopen' hl.not_open
  | openCrash _ _ _ | pingCrash _ _ _ _ => cases hsocket'
  | _ => cases hopen'

/-- A run that ends open and in which the session does not open has been on one connection all along. -/
theorem connection?_records (cfg : Config) (run : List (Surroundings × Input)) (hs : Sound s)
    (hk : (s.after cfg run).connection? = some k) (hno : .opened ∉ emitted (s.trace cfg run)) :
    s.connection? = some k ∧ ∀ r ∈ s.records cfg run, r.state.connection? = some k := by
  induction run generalizing s with
  | nil => exact ⟨hk, by simp [State.records]⟩
  | cons i run ih =>
    obtain ⟨env, input⟩ := i
    have hmove := s.step_move cfg env input
    rw [State.trace, emitted_append, List.mem_append, not_or] at hno
    obtain ⟨hnext, hrest⟩ := ih (hmove.sound hs) hk hno.2
    have hfirst : s.connection? = some k := by
      apply hmove.connection_before hs hnext
      rw [Turn.shown, emitted_visible]
      exact hno.1
    refine ⟨hfirst, ?_⟩
    intro r hr
    rcases List.mem_cons.mp hr with rfl | hr
    · exact hfirst
    · exact hrest r hr

theorem ownOn_of_connection (hk : r.state.connection? = some k) :
    r.ownOn k = (r.input.command?.bind Command.message?).toList := by
  unfold Record.ownOn Record.messagesOn
  rw [if_pos hk]
  cases r.input <;> rfl

theorem mem_ownOn {o : Outbound} :
    o ∈ r.ownOn k ↔ r.state.connection? = some k ∧ r.input = .send o := by
  unfold Record.ownOn Record.messagesOn
  by_cases hk : r.state.connection? = some k
  · cases r.input <;> simp [Input.command?, hk, eq_comm]
  · simp [hk]

/-- A message that is taken up while a connection is open is handed to it. -/
theorem Move.of_send {o : Outbound} (h : Move cfg env s (.send o) s' es) (hk : s.connection? = some k) :
    es = written env (some k) o := by
  obtain ⟨hm, hopen, hsocket⟩ := State.connection?_eq_some.mp hk
  cases h with
  | skip hno => exact absurd (by simp [State.Accepts, hm]) hno
  | send _ _ hk' =>
    rw [hsocket] at hk'
    rw [hk']
  | dropSend _ hclosed =>
    rw [hclosed hopen] at hsocket
    cases hsocket
  | reopen hd _ _ | settle hd _ | shutDown hd _ => simp [hm] at hd

theorem concerning_messagesOn (k : Nat) (ch : String) (r : Record) :
    (r.messagesOn k).filter (·.concerns ch) = (r.ownOn k).filter (·.concerns ch) := by
  unfold Record.ownOn
  split
  · rfl
  · rename_i hcommand
    rw [List.filter_nil, List.filter_eq_nil_iff]
    intro o ho
    have hkind := kind_of_automatic (Option.not_isSome_iff_eq_none.mp hcommand) ho
    simp [Outbound.not_concerns_of_kind hkind]

/-- The requests about a channel that a connection carries are those that users send over it. -/
theorem framesAbout_eq (cfg : Config) (ch : String) (run : List (Surroundings × Input))
    (hkept : KeepsItsEnd k (State.initial.records cfg run)) :
    framesAbout k ch (State.initial.records cfg run) =
      (requestsOn k ch (State.initial.records cfg run)).map .message := by
  obtain ⟨farewell, hframes, hfarewell⟩ := framesTo_records cfg run hkept
  have hquiet : farewell.filter (·.concerns ch) = [] := by
    rcases hfarewell with rfl | rfl <;> rfl
  have hmessage : Frame.concerns ch ∘ Frame.message = Outbound.concerns ch := rfl
  rw [framesAbout, hframes, List.filter_append, hquiet, List.append_nil, List.filter_map, hmessage,
    requestsOn, List.filter_flatMap, List.filter_flatMap]
  simp only [concerning_messagesOn]

namespace Link

theorem sent_act (l : Link) (a : Act) :
    (l.act a).hub.sent.toList =
      l.hub.sent.toList ++ emitted (l.machine.trace l.config (l.input? a).toList) := by
  rcases l.act_cases a with ⟨hinput, ha⟩ | ⟨env, input, l₀, hinput, ha, heq⟩
  · simp [hinput, ha.hub, State.trace]
  · rw [heq, hinput, step, foldl_observe]
    simp [Hub.pushAll, State.trace, ha.hub, ha.machine, ha.config]

/-- The stream of events holds what the machine emits. -/
theorem sent_after (l : Link) (acts : List Act) :
    (l.after acts).hub.sent.toList =
      l.hub.sent.toList ++ emitted (l.machine.trace l.config (l.inputs acts)) := by
  induction acts generalizing l with
  | nil => simp [after, inputs, State.trace]
  | cons a acts ih =>
    obtain ⟨hmachine, hconfig⟩ := l.machine_act a
    have hrest := ih (l.act a)
    rw [sent_act, hmachine, hconfig] at hrest
    rw [inputs, State.trace_append, emitted_append, ← List.append_assoc, ← hrest]
    rfl

theorem after_append (l : Link) (acts acts' : List Act) :
    l.after (acts ++ acts') = (l.after acts).after acts' := by
  simp [after]

theorem config_after (l : Link) (acts : List Act) : (l.after acts).config = l.config := by
  induction acts generalizing l with
  | nil => rfl
  | cons a acts ih => exact (ih (l.act a)).trans (l.machine_act a).2

theorem status_act {l : Link} (a : Act) (h : l.status = l.machine.status) : (l.act a).status = (l.act a).machine.status := by
  rcases l.act_cases a with ⟨-, ha⟩ | ⟨env, input, l₀, -, ha, heq⟩
  · rw [ha.status, ha.machine, h]
  · have h₀ : l₀.status = l₀.machine.status := by rw [ha.status, ha.machine, h]
    rw [heq, step_eq h₀]

/-- What handles read is the status of the machine. -/
theorem status_after (cfg : Config) (acts : List Act) :
    ((ofConfig cfg).after acts).status = ((ofConfig cfg).after acts).machine.status := by
  induction acts using List.reverseRecOn with
  | nil => rfl
  | append_singleton acts a ih =>
    rw [after_append]
    exact status_act a ih

theorem records_append (l : Link) (acts acts' : List Act) :
    l.records (acts ++ acts') = l.records acts ++ (l.after acts).records acts' := by
  rw [records, inputs_append, Session.records_append, records, records, machine_after, config_after]

/-- Over a connection that stays open go the messages that have waited, and then those that are issued. -/
theorem ownOn_of_staying {l : Link} {acts : List Act} (hs : Sound l.machine)
    (hk : (l.after acts).machine.connection? = some k) (hempty : (l.after acts).commands = [])
    (hno : .opened ∉ emitted (l.machine.trace l.config (l.inputs acts))) :
    (∀ r ∈ l.records acts, r.state.connection? = some k) ∧
      (l.records acts).flatMap (·.ownOn k) =
        (l.commands ++ acts.filterMap Act.issued?).filterMap Command.message? := by
  obtain ⟨dropped, hall, hnone⟩ := l.handled_append_commands acts
  have hruns : (l.after acts).isStopped = false := by
    rw [Bool.eq_false_iff, ne_eq, isStopped_iff, (State.connection?_eq_some.mp hk).1]
    simp
  rw [hnone hruns, hempty, List.append_nil, List.append_nil] at hall
  rw [machine_after] at hk
  obtain ⟨-, hstays⟩ := connection?_records l.config (l.inputs acts) hs hk hno
  refine ⟨hstays, ?_⟩
  rw [← hall, handled, ← records_command? l.machine, ← records, List.filterMap_filterMap,
    List.filterMap_eq_flatMap_toList]
  apply List.flatMap_congr
  intro r hr
  exact ownOn_of_connection (hstays r hr)

end Link
end Session
end Courier

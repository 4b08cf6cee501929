import Courier.Proofs.Coordinator.Exchanges
import Courier.Proofs.Coordinator.LateChains

/-! What a chain does that nothing interrupts, whatever the backend and the native login answer it: the
requests that it sends, what it comes to, and what it makes of the stored credentials and of the latch.
`Path` follows the chain from stage to stage, and the machine is shown to take such a path. -/

namespace Courier

def LoginCode.handed? : LoginCode → Option String
  | code text => some text
  | _ => none

namespace Coordinator

open Time (Moment)

/-- How an exchange ends: it cannot be sent, or there is a reply to it. -/
inductive Exchanged where
  | unsent (e : Error)
  | replied (url : String) (reply : Http.Reply)

def Exchanged.outcome : Exchanged → Outcome Grant
  | unsent e => .error e
  | replied url reply => (Exchange.grant url reply).1

/-- Whether an exchange yields a grant that can be used: it has no error status, its body is JSON, no
envelope says that it failed, and the grant has an access token that is neither empty nor has white
space in it. -/
structure Yields (x : Exchanged) (g : Grant) : Prop where
  read : ∃ url status body value payload, x = .replied url (.answer status body) ∧
    (Http.isClientError status || Http.isServerError status) = false ∧
    Json.Value.parse? body = some value ∧ Http.unwrap value = .ok payload ∧
    (Grant.ofValue payload).1 = .ok g
  not_empty : g.accessToken ≠ ""
  no_blank : g.accessToken.toList.any Text.isBlank = false

/-- Whether credentials are made of a grant that came at a moment: `previous` is the refresh token unless
the grant names one. -/
structure MadeOf (cfg : Config) (now : Moment) (g : Grant) (previous : Option String) (c : Credentials) :
    Prop where
  token : c.accessToken.text = g.accessToken
  expiry : c.expiresAt = (g.expiry.bind Expiry.toInstant?).getD (defaultExpiry cfg now)
  refresh : c.refreshToken = g.refreshToken.or previous

/-- What a chain gets to hear, and when, of those that it asks. -/
structure Others where
  begins : Moment
  refresh : Exchanged
  refreshAt : Moment
  code : LoginCode
  codeAt : Moment
  login : Exchanged
  loginAt : Moment

def Others.answer (o : Others) (id : Nat) : Stage → Moment × Input
  | .starting => (o.begins, .begin id)
  | .refreshing _ => (o.refreshAt, .exchanged id o.refresh.outcome)
  | .askingCode => (o.codeAt, .coded id o.code)
  | .loggingIn => (o.loginAt, .exchanged id o.login.outcome)

namespace State

def trace (cfg : Config) : State → List (Moment × Input) → List Effect
  | _, [] => []
  | s, i :: run => (s.step cfg i.1 i.2).shown ++ trace cfg (s.step cfg i.1 i.2).state run

def kept (s : State) : Option Credentials × Bool := (s.store, s.latched)

/-- What each input of a run leaves in the store and the latch. -/
def keeps (cfg : Config) : State → List (Moment × Input) → List (Option Credentials × Bool)
  | _, [] => []
  | s, i :: run => (s.step cfg i.1 i.2).state.kept :: keeps cfg (s.step cfg i.1 i.2).state run

end State

/-- How a chain that has begun goes on from a stage: what it still sends, and how it ends. -/
inductive Path (cfg : Config) (o : Others) (id : Nat) : Stage → List Effect → Ending → Prop where
  | refreshed {token c} :
      (o.refresh.outcome.bind fun g => credentialsOf cfg o.refreshAt g (some token)) = .ok c →
      Path cfg o id (.refreshing token) [] (.stored c)
  | fallsBack {token e es ending} :
      (o.refresh.outcome.bind fun g => credentialsOf cfg o.refreshAt g (some token)) = .error e →
      Path cfg o id .askingCode es ending →
      Path cfg o id (.refreshing token) (.askCode id :: es) ending
  | coded {code es ending} : o.code = .code code → Path cfg o id .loggingIn es ending →
      Path cfg o id .askingCode (.sendLogin id code :: es) ending
  | noCode {e} : o.code = .failed e → Path cfg o id .askingCode [] (.gaveUp e)
  | crashes {detail} : o.code = .crashed detail → Path cfg o id .askingCode [] (.crashed detail)
  | loggedIn {c} : (o.login.outcome.bind fun g => credentialsOf cfg o.loginAt g none) = .ok c →
      Path cfg o id .loggingIn [] (.stored c)
  | refused {e} : (o.login.outcome.bind fun g => credentialsOf cfg o.loginAt g none) = .error e →
      Path cfg o id .loggingIn [] (.gaveUp e)

variable {cfg : Config} {now : Moment} {s s' : State} {input : Input} {o : Others} {id : Nat}
  {es : List Effect} {ending : Ending} {x : Exchanged} {previous : Option String}

theorem payload_eq_ok {url : String} {reply : Http.Reply} {payload : Json.Value} :
    reply.payload url = .ok payload ↔ ∃ status body value, reply = .answer status body ∧
      (Http.isClientError status || Http.isServerError status) = false ∧
      Json.Value.parse? body = some value ∧ Http.unwrap value = .ok payload := by
  constructor
  · intro h
    unfold Http.Reply.payload at h
    split at h
    · cases h
    · split at h
      · cases h
      · rename_i status body hstatus
        split at h
        · cases h
        · exact ⟨status, body, _, rfl, Bool.eq_false_iff.mpr hstatus, ‹_›, h⟩
  · rintro ⟨status, body, value, rfl, hstatus, hvalue, hpayload⟩
    simp [Http.Reply.payload, hstatus, hvalue, hpayload]

theorem grant_eq_ok {url : String} {reply : Http.Reply} {g : Grant} :
    (Exchange.grant url reply).1 = .ok g ↔
      g.accessToken ≠ "" ∧ ∃ payload, reply.payload url = .ok payload ∧ (Grant.ofValue payload).1 = .ok g := by
  unfold Exchange.grant
  cases hpayload : reply.payload url with
  | error e => simp
  | ok payload =>
    cases hgrant : Grant.ofValue payload with
    | mk result lines =>
      cases result with
      | error m => simp [hgrant]
      | ok found =>
        by_cases hempty : found.accessToken = ""
        · have hnot : ¬ (g.accessToken ≠ "" ∧ found = g) := by
            rintro ⟨hne, rfl⟩
            exact hne hempty
          simpa [hgrant, Exchange.check, hempty] using hnot
        · have hiff : found = g ↔ g.accessToken ≠ "" ∧ found = g :=
            ⟨fun heq => ⟨heq ▸ hempty, heq⟩, And.right⟩
          simpa [hgrant, Exchange.check, hempty] using hiff

theorem Exchanged.outcome_eq_ok {g : Grant} :
    x.outcome = .ok g ↔ g.accessToken ≠ "" ∧
      ∃ url status body value payload, x = .replied url (.answer status body) ∧
        (Http.isClientError status || Http.isServerError status) = false ∧
        Json.Value.parse? body = some value ∧ Http.unwrap value = .ok payload ∧
        (Grant.ofValue payload).1 = .ok g := by
  cases x with
  | unsent e => simp [outcome]
  | replied url reply =>
    rw [outcome, grant_eq_ok]
    refine and_congr_right fun _ => ?_
    constructor
    · rintro ⟨payload, hpayload, hgrant⟩
      obtain ⟨status, body, value, rfl, hstatus, hvalue, hunwrap⟩ := payload_eq_ok.mp hpayload
      exact ⟨url, status, body, value, payload, rfl, hstatus, hvalue, hunwrap, hgrant⟩
    · rintro ⟨_, status, body, value, payload, heq, hstatus, hvalue, hunwrap, hgrant⟩
      obtain ⟨-, rfl⟩ := Exchanged.replied.inj heq
      exact ⟨payload, payload_eq_ok.mpr ⟨status, body, value, rfl, hstatus, hvalue, hunwrap⟩, hgrant⟩

theorem credentialsOf_eq_ok {g : Grant} {c : Credentials} :
    credentialsOf cfg now g previous = .ok c ↔ MadeOf cfg now g previous c := by
  constructor
  · intro h
    unfold credentialsOf at h
    split at h
    · cases h
    · rename_i token htoken
      cases h
      exact ⟨AccessToken.make_eq_ok.mp htoken, rfl, by cases g.refreshToken <;> rfl⟩
  · rintro ⟨htoken, hexpiry, hrefresh⟩
    obtain ⟨token, expiry, refresh⟩ := c
    subst hexpiry hrefresh
    unfold credentialsOf
    rw [AccessToken.make_eq_ok.mpr htoken]
    cases g.refreshToken <;> rfl

theorem bind_eq_ok {c : Credentials} :
    (x.outcome.bind fun g => credentialsOf cfg now g previous) = .ok c ↔
      ∃ g, Yields x g ∧ MadeOf cfg now g previous c := by
  constructor
  · intro h
    cases hgrant : x.outcome with
    | error e => simp [hgrant, Except.bind] at h
    | ok g =>
      have hmade : MadeOf cfg now g previous c := credentialsOf_eq_ok.mp (by simpa [hgrant, Except.bind] using h)
      obtain ⟨hne, hread⟩ := Exchanged.outcome_eq_ok.mp hgrant
      exact ⟨g, ⟨hread, hne, hmade.token ▸ c.accessToken.no_blank⟩, hmade⟩
  · rintro ⟨g, hyields, hmade⟩
    rw [Exchanged.outcome_eq_ok.mpr ⟨hyields.not_empty, hyields.read⟩]
    exact credentialsOf_eq_ok.mpr hmade

theorem Advances.step {stage : Stage} {e : Effect} (h : Advances cfg now s input id stage e) :
    (s.step cfg now input).state = s.entered id stage ∧ (s.step cfg now input).shown = [e] := by
  cases h with
  | refresh hstage htoken => simp [State.step, hstage, htoken, Effect.isLog]
  | ask hstage htoken => simp [State.step, hstage, htoken, Turn.reauthenticate, Effect.isLog]
  | fallBack hstage he => simp [State.step, hstage, Turn.refreshed, he, Turn.reauthenticate, Effect.isLog]
  | logIn hstage => simp [State.step, hstage, Effect.isLog]

theorem Ends.shown (h : Ends cfg now s input id ending) : (s.step cfg now input).shown = [] := by
  cases h with
  | refreshed hstage hc => simp [State.step, hstage, Turn.refreshed, hc, Turn.keep]
  | loggedIn hstage hc => simp [State.step, hstage, Turn.loggedIn, hc, Turn.keep]
  | refused hstage he => simp [State.step, hstage, Turn.loggedIn, he, Turn.giveUp]
  | noCode hstage => simp [State.step, hstage, Turn.giveUp]
  | crashed hstage => simp [State.step, hstage]

/-- What polling a ticket leads to whose chain has come to something: it settles, unless it has before. -/
def closing (s : State) (id : Nat) (result : Outcome Unit) : List Effect :=
  if (s.outcome? id).isSome then [] else [.settled id result]

structure Heard (s : State) (id : Nat) (result : Outcome Unit) (kept : Option Credentials × Bool) (s' : State)
    (es : List Effect) : Prop where
  shown : es = closing s id result
  kept : s'.kept = kept
  outcome : s'.outcome? id = some ((s.outcome? id).getD result)

theorem Move.heard {report : Report} (h : Move cfg now s (.poll id) s' es)
    (hreport : s.reported? id = some report) : Heard s id report.outcome s.kept s' es := by
  cases hout : s.outcome? id with
  | none =>
    obtain ⟨rfl, rfl⟩ := h.polled hout hreport
    have hticket := State.ticket?_of_reported? hreport
    refine ⟨by simp [closing, hout], rfl, ?_⟩
    rw [State.outcome?_settled, if_pos ⟨rfl, hticket⟩, hout]
    rfl
  | some r =>
    obtain ⟨rfl, rfl⟩ := h.polled_settled hout
    exact ⟨by simp [closing, hout], rfl, by simp [hout]⟩

/-- What a run is in which a chain sends requests and then ends: only its end touches the store and the
latch, and whenever its ticket is polled after that, those who wait hear of it. -/
structure Comes (cfg : Config) (s : State) (id : Nat) (run : List (Moment × Input))
    (requests : List Effect) (ending : Ending) : Prop where
  trace : s.trace cfg run = requests
  keeps : s.keeps cfg run = List.replicate requests.length s.kept ++ [(s.marked ending).kept]
  gone : (s.after cfg run).stage? id = none
  heard : ∀ now,
    let polled := (s.after cfg run).step cfg now (.poll id)
    Heard s id ending.result (s.marked ending).kept polled.state polled.shown

theorem Comes.cons {stage : Stage} {e : Effect} {run : List (Moment × Input)} {requests : List Effect}
    (ha : Advances cfg now s input id stage e) (h : Comes cfg (s.entered id stage) id run requests ending) :
    Comes cfg s id ((now, input) :: run) (e :: requests) ending := by
  obtain ⟨hstate, hshown⟩ := ha.step
  have hmarked : ((s.entered id stage).marked ending).kept = (s.marked ending).kept := by
    cases ending <;> rfl
  refine ⟨?_, ?_, ?_, fun now => ?_⟩
  · rw [State.trace, hstate, hshown, h.trace]
    rfl
  · rw [State.keeps, hstate, h.keeps, hmarked]
    rfl
  · rw [State.after_cons, hstate]
    exact h.gone
  · obtain ⟨hheard, hkept, houtcome⟩ := h.heard now
    dsimp only
    rw [State.after_cons, hstate]
    exact ⟨hheard, hkept.trans hmarked, houtcome⟩

def Stage.left : Stage → Nat
  | .starting => 3
  | .refreshing _ => 2
  | .askingCode => 1
  | .loggingIn => 0

theorem State.stage?_entered_self {stage : Stage} (h : (s.stage? id).isSome) :
    (s.entered id stage).stage? id = some stage := by
  obtain ⟨old, hold⟩ := Option.isSome_iff_exists.mp h
  simp [stage?_entered, hold]

theorem Path.logins (h : Path cfg o id .askingCode es ending) :
    es = o.code.handed?.toList.map (.sendLogin id) := by
  cases h with
  | coded hcode hpath => cases hpath <;> simp [hcode, LoginCode.handed?]
  | noCode hcode | crashes hcode => simp [hcode, LoginCode.handed?]

theorem Path.stored {c : Credentials} (h : Path cfg o id .askingCode es (.stored c)) :
    ∃ code g, o.code = .code code ∧ Yields o.login g ∧ MadeOf cfg o.loginAt g none c := by
  cases h with
  | coded hcode hpath =>
    cases hpath with
    | loggedIn hc =>
      obtain ⟨g, hg, hmade⟩ := bind_eq_ok.mp hc
      exact ⟨_, g, hcode, hg, hmade⟩

def renewed : Credentials :=
  { secondCredentials with accessToken := ⟨"new", by decide, by decide⟩, refreshToken := none }

end Coordinator
end Courier

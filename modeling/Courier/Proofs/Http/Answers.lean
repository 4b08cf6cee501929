import Courier.Scenario.Calls

/-! Which answers of the backend count as successes. An error status, of the classes 4xx and 5xx, is an HTTP
error whatever comes with it. Every other status is read as if it were 200, although only 2xx means success:
the body of a redirection that is not followed yields results and codes of the API, and credentials that are
stored. -/

namespace Courier.Http

def IsSuccess (status : Nat) : Prop := 200 ≤ status ∧ status < 300

def IsErrorStatus (status : Nat) : Prop := 400 ≤ status ∧ status < 600

/-- What the API client reads replies for: a request of a user, whose result may have any shape, a call of a
scenario, an exchange that yields credentials, or the location of an order. -/
inductive Operation : Type → Type 1 where
  | request {α : Type} (read : Json.Value → Except String α) : Operation α
  | call (shape : Scenario.Shape) : Operation Json.Value
  | exchange : Operation Grant
  | location : Operation Location

variable {α : Type}

namespace Operation

def result : Operation α → String → Reply → Outcome α
  | request read, url, reply => do
    let v ← reply.payload url
    match read v with
    | .ok a => return a
    | .error detail => .error (.httpDecode detail)
  | call shape, url, reply => Scenario.decode shape url reply
  | exchange, url, reply => (Exchange.grant url reply).1
  | location, url, reply => Scenario.decodeLocation url reply

theorem result_of_refused {url : String} {reply : Reply} {e : Error} (op : Operation α)
    (h : reply.payload url = .error e) : op.result url reply = .error e := by
  cases op <;> simp [result, Scenario.decode, Exchange.grant, Scenario.decodeLocation, h, bind, Except.bind]

theorem result_congr {url : String} {reply reply' : Reply} (op : Operation α)
    (h : reply.payload url = reply'.payload url) : op.result url reply = op.result url reply' := by
  cases op <;> simp [result, Scenario.decode, Exchange.grant, Scenario.decodeLocation, h]

end Operation

theorem payload_errorStatus {status : Nat} (h : IsErrorStatus status) (url body : String) :
    (Reply.answer status body).payload url = .error (.httpRequest (.status status url)) := by
  obtain ⟨hlow, hhigh⟩ := h
  have herror : (isClientError status || isServerError status) = true := by
    simp only [isClientError, isServerError, Bool.or_eq_true, Bool.and_eq_true, decide_eq_true_eq]
    omega
  simp [Reply.payload, herror]

theorem payload_otherStatus {status : Nat} (h : ¬ IsErrorStatus status) (url body : String) :
    (Reply.answer status body).payload url = (Reply.answer 200 body).payload url := by
  have hnone : (isClientError status || isServerError status) = false := by
    unfold IsErrorStatus at h
    simp only [isClientError, isServerError, Bool.or_eq_false_iff, Bool.and_eq_false_iff,
      decide_eq_false_iff_not]
    omega
  have hokay : (isClientError 200 || isServerError 200) = false := rfl
  rw [Reply.payload, Reply.payload, hnone, hokay]
  rfl

def refusal? : Outcome α → Option Error
  | .ok _ => none
  | .error e => some e

theorem eq_error_of_refusal? {r : Outcome α} {e : Error} (h : refusal? r = some e) : r = .error e := by
  cases r with
  | ok _ => cases h
  | error _ => rw [Option.some.inj h]

theorem payload_refusal :
    (Reply.answer 200 "\x7b\"code\":1\x7d").payload "" = .error (.api 1 "unknown error") :=
  eq_error_of_refusal? (by decide +kernel)

/-- Whether a result fits the status of the answer. An HTTP error fits any; whatever else comes of an answer, be
it a result, a code of the API or a complaint about the credentials in it, takes a success. -/
def Fits (status : Nat) : Outcome α → Prop
  | .error (.httpRequest _) | .error (.httpDecode _) => True
  | _ => IsSuccess status

/-- An error status is an error whatever the body is, and any other status is read as 200. So the results of a
status fit it, for all bodies, exactly if it belongs to the successes or to the errors. -/
theorem results_fit_iff (op : Operation α) (status : Nat) :
    (IsErrorStatus status → ∀ url body,
      op.result url (.answer status body) = .error (.httpRequest (.status status url))) ∧
    (¬ IsErrorStatus status → ∀ url body,
      op.result url (.answer status body) = op.result url (.answer 200 body)) ∧
    ((∀ url body, Fits status (op.result url (.answer status body))) ↔
      IsSuccess status ∨ IsErrorStatus status) := by
  have herrors (h : IsErrorStatus status) (url body : String) :
      op.result url (.answer status body) = .error (.httpRequest (.status status url)) :=
    op.result_of_refused (payload_errorStatus h url body)
  have hothers (h : ¬ IsErrorStatus status) (url body : String) :
      op.result url (.answer status body) = op.result url (.answer 200 body) :=
    op.result_congr (payload_otherStatus h url body)
  refine ⟨herrors, hothers, fun hfits => ?_, ?_⟩
  · by_cases herror : IsErrorStatus status
    · exact .inr herror
    · -- a code of the API comes through whatever the operation wants
      have hfit := hfits "" "\x7b\"code\":1\x7d"
      rw [hothers herror, op.result_of_refused payload_refusal] at hfit
      exact .inl hfit
  · rintro (hsuccess | herror) url body
    · unfold Fits
      split <;> first | exact hsuccess | trivial
    · rw [herrors herror]
      trivial

/-- It is not so that only 2xx answers are successes: one with status 302 brings credentials. -/
theorem redirection_grants :
    let granted := Operation.exchange.result "" (.answer 302 "\x7b\"access_token\":\"a\"\x7d")
    granted.toOption = some ⟨"a", none, none⟩ ∧ ¬ Fits 302 granted := by
  intro granted
  have hgranted : granted.toOption = some ⟨"a", none, none⟩ := by decide +kernel
  refine ⟨hgranted, ?_⟩
  cases hcase : granted with
  | error e => simp [hcase, Except.toOption] at hgranted
  | ok g => simp [Fits, IsSuccess]

end Courier.Http

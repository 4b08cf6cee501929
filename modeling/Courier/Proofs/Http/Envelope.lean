import Courier.Proofs.Http.Answers
import Courier.Proofs.Json.Integers
import Courier.Proofs.Json.Members

/-! What becomes of the body of a success. Bare payloads and envelopes are told apart by two members of an
object: a code that is an integer of 64 bits reports success or is an error of its own, and data that is not
null is the payload instead of the object. Whatever is read from the payload, it is read after that. -/

namespace Courier.Http

open Json (Value)

/-- Whether an envelope reports a code that does not mean success. -/
def Reports (v : Value) (code : Int) : Prop :=
  v.Has "code" (.number (.integer code)) ∧ -0x8000000000000000 ≤ code ∧ code < 0x8000000000000000 ∧
    code ≠ 0 ∧ code ≠ 200

/-- What an envelope says about its code: its message, or else its msg. One that is no string, or none at all,
leaves the error unknown. -/
inductive Explains (v : Value) : String → Prop where
  | message {detail} : v.Has "message" (.string detail) → Explains v detail
  | msg {detail} : (∀ m, ¬ v.Has "message" m) → v.Has "msg" (.string detail) → Explains v detail
  | unreadable {m} : v.Has "message" m → (∀ detail, m ≠ .string detail) → Explains v "unknown error"
  | unknown : (∀ m, ¬ v.Has "message" m) → (∀ detail, ¬ v.Has "msg" (.string detail)) → Explains v "unknown error"

/-- What is taken out of a value: its data unless it is null, or else the value itself. -/
def Carries (v p : Value) : Prop := v.Has "data" p ∧ p ≠ .null ∨ (∀ m, v.Has "data" m → m = .null) ∧ p = v

def envelope (code : Int) (p : Value) (extra : List (String × Value)) : Value :=
  .ofMembers (("code", .ofInt code) :: ("data", p) :: extra)

def Operation.decoded {α : Type} : Operation α → Value → Outcome α
  | request read, p =>
    match read p with
    | .ok a => .ok a
    | .error detail => .error (.httpDecode detail)
  | call .value, p => .ok p
  | call .location, p =>
    match Location.ofValue p with
    | .ok l => .ok (.object l.members)
    | .error m => .error (.httpDecode m.message)
  | exchange, p =>
    match (Grant.ofValue p).1 with
    | .ok g => Exchange.check g
    | .error m => .error (.httpDecode m.message)
  | location, p =>
    match Location.ofValue p with
    | .ok l => .ok l
    | .error m => .error (.httpDecode m.message)

variable {α : Type} {v p : Value} {name : String}

theorem ordered_envelope (code : Int) (p : Value) (extra : List (String × Value)) :
    (envelope code p extra).Ordered := by
  rintro members heq
  cases heq
  exact Json.Ascending.insertAll List.Pairwise.nil

theorem has_envelope {code : Int} {extra : List (String × Value)} (hextra : ∀ m ∈ extra, m.1 ≠ name) {m : Value} :
    (envelope code p extra).Has name m ↔
      (name, m) = ("data", p) ∨ name ≠ "data" ∧ (name, m) = ("code", .ofInt code) := by
  have hcode : Json.Ascending [("code", .ofInt code)] := List.pairwise_singleton _ _
  have hmem : (name, m) ∈ Json.insertAll (Json.insertMember "data" p [("code", .ofInt code)]) extra ↔
      (name, m) = ("data", p) ∨ name ≠ "data" ∧ (name, m) = ("code", .ofInt code) := by
    rw [Json.mem_insertAll hcode.insertMember hextra, Json.mem_insertMember hcode, List.mem_singleton]
  rw [← hmem]
  constructor
  · rintro ⟨members, heq, h⟩
    cases heq
    exact h
  · intro h
    exact ⟨_, rfl, h⟩

theorem reports_iff (h : v.Ordered) {code : Int} :
    Reports v code ↔ (v.get? "code").bind Value.asInt64? = some code ∧ successCodes.contains code = false := by
  have hfails : successCodes.contains code = false ↔ code ≠ 0 ∧ code ≠ 200 := by
    simp [successCodes]
  simp only [Reports, Json.has_iff h, hfails, Option.bind_eq_some_iff, Json.asInt64?_eq_some_iff]
  constructor
  · rintro ⟨hget, hlow, hhigh, hother⟩
    exact ⟨⟨_, hget, rfl, hlow, hhigh⟩, hother⟩
  · rintro ⟨⟨_, hget, rfl, hlow, hhigh⟩, hother⟩
    exact ⟨hget, hlow, hhigh, hother⟩

theorem asString?_eq_none {m : Value} (h : ∀ detail, m ≠ .string detail) : m.asString? = none := by
  cases m with
  | string detail => exact absurd rfl (h detail)
  | _ => rfl

/-- An envelope says one thing about its code. -/
theorem explains_iff (h : v.Ordered) {detail : String} : Explains v detail ↔ detail = envelopeMessage v := by
  unfold envelopeMessage
  constructor
  · rintro (⟨hm⟩ | ⟨hnone, hm⟩ | ⟨hm, hother⟩ | ⟨hnone, hother⟩)
    · rw [(Json.has_iff h).mp hm]
      rfl
    · rw [(Json.has_none_iff h).mp hnone, (Json.has_iff h).mp hm]
      rfl
    · rw [(Json.has_iff h).mp hm]
      dsimp only
      rw [Option.bind_some, asString?_eq_none hother]
      rfl
    · rw [(Json.has_none_iff h).mp hnone]
      dsimp only
      cases hm : v.get? "msg" with
      | none => rfl
      | some m =>
        have hno : ∀ detail, m ≠ .string detail := by
          rintro detail rfl
          exact hother detail ((Json.has_iff h).mpr hm)
        rw [Option.bind_some, asString?_eq_none hno]
        rfl
  · rintro rfl
    cases hm : v.get? "message" with
    | some m =>
      have hmem : v.Has "message" m := (Json.has_iff h).mpr hm
      dsimp only
      rw [Option.bind_some]
      cases m with
      | string detail => exact .message hmem
      | _ => exact .unreadable hmem (by simp)
    | none =>
      have hnone := (Json.has_none_iff h).mpr hm
      dsimp only
      cases hmsg : v.get? "msg" with
      | none => exact .unknown hnone fun detail => (Json.has_none_iff h).mpr hmsg _
      | some m =>
        have hmem : v.Has "msg" m := (Json.has_iff h).mpr hmsg
        rw [Option.bind_some]
        cases m with
        | string detail => exact .msg hnone hmem
        | _ =>
          refine .unknown hnone fun detail hdetail => ?_
          cases hmsg.symm.trans ((Json.has_iff h).mp hdetail)

theorem isNull_iff {m : Value} : m.isNull = true ↔ m = .null := by
  cases m <;> simp [Value.isNull]

theorem carries_iff (h : v.Ordered) : Carries v p ↔ p = payload v := by
  rw [Carries, payload]
  simp only [Json.has_iff h]
  cases v.get? "data" with
  | none => simp
  | some data =>
    by_cases hnull : data = .null
    · subst hnull
      constructor
      · rintro (⟨hdata, hsome⟩ | ⟨-, rfl⟩)
        · exact absurd (Option.some.inj hdata).symm hsome
        · rfl
      · rintro rfl
        exact .inr ⟨fun m hm => (Option.some.inj hm).symm, rfl⟩
    · dsimp only
      rw [if_neg (mt isNull_iff.mp hnull)]
      constructor
      · rintro (⟨hdata, -⟩ | ⟨hall, -⟩)
        · exact (Option.some.inj hdata).symm
        · exact absurd (hall data rfl) hnull
      · rintro rfl
        exact .inl ⟨rfl, hnull⟩

theorem unwrap_of_reports (h : v.Ordered) {code : Int} (hcode : Reports v code) :
    unwrap v = .error (.api code (envelopeMessage v)) := by
  obtain ⟨hint, hfails⟩ := (reports_iff h).mp hcode
  rw [unwrap, hint]
  dsimp only
  rw [hfails]
  rfl

theorem unwrap_of_carries (h : v.Ordered) (hcode : ∀ code, ¬ Reports v code) (hp : Carries v p) :
    unwrap v = .ok p := by
  rw [(carries_iff h).mp hp, unwrap]
  split
  case h_1 code hint =>
    split
    case isTrue => rfl
    case isFalse hfails => exact absurd ((reports_iff h).mpr ⟨hint, Bool.eq_false_iff.mpr hfails⟩) (hcode code)
  case h_2 => rfl

theorem unwrap_envelope {code : Int} {extra : List (String × Value)} (hcode : code = 0 ∨ code = 200)
    (hp : p ≠ .null) (hextra : ∀ m ∈ extra, m.1 ≠ "code" ∧ m.1 ≠ "data") :
    unwrap (envelope code p extra) = .ok p := by
  refine unwrap_of_carries (ordered_envelope code p extra) ?_ (.inl ⟨?_, hp⟩)
  · rintro other ⟨hother, -, -, hzero, htwo⟩
    have hsame : other = code := by
      rcases (has_envelope fun m hm => (hextra m hm).1).mp hother with heq | ⟨-, heq⟩
      · exact absurd (Prod.mk.inj heq).1 (by decide)
      · cases heq
        rfl
    rcases hcode with rfl | rfl
    · exact hzero hsame
    · exact htwo hsame
  · exact (has_envelope fun m hm => (hextra m hm).2).mpr (.inl rfl)

theorem unwrap_of_bare (h : v.Ordered) (hcode : ∀ m, ¬ v.Has "code" m) (hdata : ∀ m, ¬ v.Has "data" m) :
    unwrap v = .ok v :=
  unwrap_of_carries h (fun _ hreports => hcode _ hreports.1) (.inr ⟨fun m hm => absurd hm (hdata m), rfl⟩)

theorem Operation.result_eq (op : Operation α) (url : String) (reply : Reply) :
    op.result url reply = (reply.payload url).bind op.decoded := by
  cases hpayload : reply.payload url with
  | error e => exact op.result_of_refused hpayload
  | ok p =>
    cases op with
    | request read =>
      simp only [result, hpayload, decoded, bind, Except.bind]
      rfl
    | call shape =>
      simp only [result, Scenario.decode, hpayload, decoded, bind, Except.bind]
      cases shape <;> rfl
    | exchange =>
      simp only [result, Exchange.grant, hpayload, decoded, Except.bind]
      split <;> simp_all
    | location =>
      simp only [result, Scenario.decodeLocation, hpayload, decoded, bind, Except.bind]
      rfl

theorem Operation.decoded_ne_api (op : Operation α) (p : Value) (code : Int) (detail : String) :
    op.decoded p ≠ .error (.api code detail) := by
  cases op with
  | call shape =>
    cases shape <;> simp only [decoded]
    · simp
    · split <;> simp
  | exchange =>
    simp only [decoded, Exchange.check]
    split
    · split <;> simp
    · simp
  | _ =>
    simp only [decoded]
    split <;> simp

/-- A body that writes a value fails with a code of the API exactly if the value reports one, and is read from
what the value carries otherwise. So a payload comes out of every envelope of a success as it went in, and what
is no envelope stays as it is. -/
theorem envelope_unwrapped {body : String} (h : Value.parse? body = some v) (op : Operation α) (url : String) :
    (∀ code detail, op.result url (.answer 200 body) = .error (.api code detail) ↔
      Reports v code ∧ Explains v detail) ∧
    (∃ p, ∀ q, Carries v q ↔ q = p) ∧
    ((∀ code, ¬ Reports v code) → ∀ p, Carries v p → op.result url (.answer 200 body) = op.decoded p) ∧
    (∀ code p extra, code = 0 ∨ code = 200 → p ≠ .null → (∀ m ∈ extra, m.1 ≠ "code" ∧ m.1 ≠ "data") →
      unwrap (envelope code p extra) = .ok p ∧
      (v = envelope code p extra → op.result url (.answer 200 body) = op.decoded p)) ∧
    ((∀ members, v ≠ .object members) ∨ (∀ m, ¬ v.Has "code" m) ∧ (∀ m, ¬ v.Has "data" m) →
      unwrap v = .ok v ∧ op.result url (.answer 200 body) = op.decoded v) := by
  have hordered := Json.ordered_of_parse h
  have hresult : op.result url (.answer 200 body) = (unwrap v).bind op.decoded := by
    have hokay : (isClientError 200 || isServerError 200) = false := rfl
    rw [op.result_eq, Reply.payload, hokay, h]
    rfl
  refine ⟨fun code detail => ?_, ⟨payload v, fun q => carries_iff hordered⟩, ?_, ?_, ?_⟩
  · rw [hresult]
    constructor
    · intro herror
      by_cases hreports : ∃ code, Reports v code
      · obtain ⟨code', hcode'⟩ := hreports
        rw [unwrap_of_reports hordered hcode'] at herror
        cases herror
        exact ⟨hcode', (explains_iff hordered).mpr rfl⟩
      · rw [unwrap_of_carries hordered (not_exists.mp hreports) ((carries_iff hordered).mpr rfl)] at herror
        exact absurd herror (op.decoded_ne_api (payload v) code detail)
    · rintro ⟨hreports, hdetail⟩
      rw [unwrap_of_reports hordered hreports, (explains_iff hordered).mp hdetail]
      rfl
  · intro hcode p hp
    rw [hresult, unwrap_of_carries hordered hcode hp]
    rfl
  · intro code p extra hcode hp hextra
    have hunwrap := unwrap_envelope hcode hp hextra
    refine ⟨hunwrap, fun hv => ?_⟩
    rw [hresult, hv, hunwrap]
    rfl
  · intro hbare
    have hunwrap : unwrap v = .ok v := by
      rcases hbare with hother | ⟨hcode, hdata⟩
      · have hnone (name : String) (m : Value) : ¬ v.Has name m := by
          rintro ⟨members, hv, -⟩
          exact hother members hv
        exact unwrap_of_bare hordered (hnone "code") (hnone "data")
      · exact unwrap_of_bare hordered hcode hdata
    refine ⟨hunwrap, ?_⟩
    rw [hresult, hunwrap]
    rfl

theorem envelope_unwrapped_msg :
    let body := "\x7b\"code\":7,\"data\":1,\"msg\":\"boom\"\x7d"
    ∃ v, Value.parse? body = some v ∧ Operation.location.result "" (.answer 200 body) = .error (.api 7 "boom") ∧
      Reports v 7 ∧ Explains v "boom" := by
  intro body
  have hsome : (Value.parse? body).isSome := by decide +kernel
  have hfails : Operation.location.result "" (.answer 200 body) = .error (.api 7 "boom") :=
    eq_error_of_refusal? (by decide +kernel)
  obtain ⟨v, hv⟩ := Option.isSome_iff_exists.mp hsome
  exact ⟨v, hv, hfails, ((envelope_unwrapped hv .location "").1 7 "boom").mp hfails⟩

end Courier.Http

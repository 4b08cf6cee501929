import Courier.Proofs.Redaction
import Courier.Scenario.Requests

/-! What the log of requests gives away of the secrets in URLs. The lines about a request and about its
answer show none of them. The line about a failure does: it redacts the URL that it logs, but not the
one in the text of the failure. -/

namespace Courier

def RequestFault.url? : RequestFault → Option String
  | status _ url | unsent url => some url
  | undecodableBody | unbuildable => none

def RequestFault.about (url : String) : RequestFault → RequestFault
  | status code _ => .status code url
  | unsent _ => .unsent url
  | fault => fault

theorem RequestFault.url?_about (fault : RequestFault) (url : String) :
    (fault.about url).url? = none ↔ fault.url? = none := by
  cases fault <;> simp [about, url?]

theorem RequestFault.message_about_inj {fault : RequestFault} {url url' : String}
    (hnamed : fault.url? ≠ none) (h : (fault.about url).message = (fault.about url').message) : url = url' := by
  cases fault with
  | status _ _ | unsent _ => exact (String.append_right_inj _).mp ((String.append_left_inj _).mp h)
  | undecodableBody | unbuildable => exact absurd rfl hnamed

namespace Http

/-- Whether requests to two URLs end alike: with the same status, or with the same failure, which names
the URL if it names any. -/
inductive SameOutcome (url url' : String) : Reply → Reply → Prop where
  | answered (status body body') : SameOutcome url url' (.answer status body) (.answer status body')
  | failed (fault : RequestFault) : SameOutcome url url' (.fault (fault.about url)) (.fault (fault.about url'))

def Reply.url? : Reply → Option String
  | answer _ _ => none
  | fault f => f.url?

def Traffic.lines (verbose : Bool) (r : Request) (reply : Reply) : List LogLine :=
  [requestLine verbose r.method r.address, Scenario.replyLine verbose r reply]

variable {r r' : Request} {reply reply' : Reply}

theorem requestLine_eq_of_alike (verbose : Bool) (hmethod : r.method = r'.method)
    (hurls : Redaction.Alike r.address r'.address) :
    Traffic.requestLine verbose r.method r.address = Traffic.requestLine verbose r'.method r'.address := by
  rw [Traffic.requestLine, Traffic.requestLine, hmethod, Redaction.url_eq_of_alike hurls]

theorem replyLine_eq_of_answer (verbose : Bool) (r r' : Request) (status : Nat) (body body' : String) :
    Scenario.replyLine verbose r (.answer status body) = Scenario.replyLine verbose r' (.answer status body') := rfl

/-- The redacted URL is the same in both lines, so they agree if the texts of the failures do. -/
theorem replyLine_fault_eq_iff (hmethod : r.method = r'.method)
    (hurls : Redaction.Alike r.address r'.address) {fault fault' : RequestFault} :
    Scenario.replyLine verbose r (.fault fault) = Scenario.replyLine verbose r' (.fault fault') ↔
      fault.message = fault'.message := by
  simp [Scenario.replyLine, Traffic.failureLine, LogLine.warn, hmethod, Redaction.url_eq_of_alike hurls]

/-- Two requests that differ in secrets only and end alike are logged alike, in either verbosity, unless
they fail with a text that names their URLs. -/
theorem lines_eq_iff_unnamed (verbose : Bool) (hmethod : r.method = r'.method)
    (hurls : Redaction.Alike r.address r'.address)
    (houtcome : SameOutcome r.address r'.address reply reply') :
    Traffic.lines verbose r reply = Traffic.lines verbose r' reply' ↔
      r.address = r'.address ∨ reply.url? = none := by
  have hrequest := requestLine_eq_of_alike verbose hmethod hurls
  simp only [Traffic.lines, hrequest, List.cons.injEq, and_true, true_and]
  cases houtcome with
  | answered status body body' =>
    constructor
    · intro _
      exact .inr rfl
    · intro _
      apply replyLine_eq_of_answer
  | failed fault =>
    rw [replyLine_fault_eq_iff hmethod hurls]
    constructor
    · intro hmessage
      cases hnamed : fault.url? with
      | none => exact .inr ((fault.url?_about r.address).mpr hnamed)
      | some url => exact .inl (RequestFault.message_about_inj (by simp [hnamed]) hmessage)
    · rintro (haddress | hnone)
      · rw [haddress]
      · cases fault with
        | status _ _ | unsent _ => cases hnone
        | undecodableBody | unbuildable => rfl

def pageWith (token : String) : Request :=
  { method := .get
    url := { scheme := "http", userInfo := none, host := "h", port := none, path := ["items"],
             query := some ("page=1&Token=" ++ token), fragment := some "top" }
    headers := []
    body := none }

theorem alike_pageWith : Redaction.Alike (pageWith "a").address (pageWith "b").address := by
  have hsecret : Redaction.SameParameter "Token=a#top".toList "Token=b#top".toList :=
    @Redaction.SameParameter.secret "Token".toList "a#top".toList "b#top".toList (by decide)
  refine @Redaction.Alike.query _ _ "http://h/items".toList ["page=1".toList, "Token=a#top".toList]
    ["page=1".toList, "Token=b#top".toList] ?_ ?_ ?_ ?_ (.cons (.same _) (.cons hsecret .nil))
  · decide +kernel
  · decide +kernel
  · decide
  · decide

theorem lines_eq_answered_pages :
    (pageWith "a").address ≠ (pageWith "b").address ∧
    Redaction.Alike (pageWith "a").address (pageWith "b").address ∧
    SameOutcome (pageWith "a").address (pageWith "b").address (.answer 200 "1") (.answer 200 "2") ∧
    Traffic.lines true (pageWith "a") (.answer 200 "1") =
      Traffic.lines true (pageWith "b") (.answer 200 "2") := by
  have hmethod : (pageWith "a").method = (pageWith "b").method := rfl
  have houtcome : SameOutcome (pageWith "a").address (pageWith "b").address _ _ := .answered 200 "1" "2"
  refine ⟨by decide +kernel, alike_pageWith, houtcome, ?_⟩
  exact (lines_eq_iff_unnamed true hmethod alike_pageWith houtcome).mpr (.inr rfl)

/-- A request that could not be sent is logged with its token. -/
theorem unsent_token_is_logged :
    let lost (token : String) : Reply := .fault (.unsent (pageWith token).address)
    (pageWith "a").method = (pageWith "b").method ∧
    Redaction.Alike (pageWith "a").address (pageWith "b").address ∧
    SameOutcome (pageWith "a").address (pageWith "b").address (lost "a") (lost "b") ∧
    Traffic.lines false (pageWith "a") (lost "a") ≠ Traffic.lines false (pageWith "b") (lost "b") :=
  ⟨rfl, alike_pageWith, .failed (.unsent ""), by decide +kernel⟩

end Http
end Courier

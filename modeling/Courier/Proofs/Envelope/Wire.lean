import Courier.Envelope.Outbound
import Courier.Proofs.Json.Fields
import Courier.Proofs.Json.RoundTrip

/-! Messages on the wire. A message is read back from its text as it was made, whatever its data, as long as that
holds no floating-point number and nests no deeper than the reader follows one level below the record. -/

namespace Courier.Outbound

open Json (Value StandsOnce Reads)

def fieldNames : List String := ["type", "channel", "data", "timestamp", "message_id"]

theorem reads_members {o : Outbound} (h : Reads 126 o.data) : ∀ m ∈ o.members, Reads 126 m.2 := by
  simp [members, Json.reads_string, h]

theorem standsOnce_members (o : Outbound) : ∀ name ∈ fieldNames, StandsOnce o.members name := by
  simp [fieldNames, members, StandsOnce]

/-- A message is read back from its wire form if its data is. -/
theorem parse?_text {o : Outbound} (h : Reads 126 o.data) : parse? o.text = some o := by
  obtain ⟨ts, htree, hmembers⟩ := Json.parse_recordText (reads_members h)
  obtain ⟨found, hfound, hholds⟩ := Json.fields?_object hmembers o.standsOnce_members
  rcases hholds with _ | ⟨hkind, _ | ⟨hchannel, _ | ⟨hdata, _ | ⟨htimestamp, _ | ⟨hid, _ | _⟩⟩⟩⟩⟩
  obtain ⟨kind, rfl, kindReads⟩ := hkind.string (s := o.kind) rfl
  obtain ⟨channel, rfl, channelReads⟩ := hchannel.string (s := o.channel) rfl
  obtain ⟨data, rfl, dataReads⟩ := hdata.present (v := o.data) rfl
  obtain ⟨timestamp, rfl, timestampReads⟩ := htimestamp.string (s := o.timestamp) rfl
  obtain ⟨id, rfl, idReads⟩ := hid.string (s := o.messageId) rfl
  have hfield : data.fieldValue? = some o.data := dataReads
  rw [fieldNames] at hfound
  rw [parse?, text, htree]
  simp only [bind, Option.bind, hfound, kindReads, channelReads, hfield, timestampReads, idReads]
  rfl

/-- A message that is made, written and read again is the one that was made. -/
theorem survives_wire (now : Time.Instant) (seed : UInt64) (kind : String) (channel : Option String) {data : Value}
    (hvalid : data.Valid 126) (hfree : data.FloatFree) :
    ∃ o, parse? (make now seed kind data channel).text = some o ∧ o = make now seed kind data channel ∧
      o.kind = kind ∧ o.channel = channel.getD "default" ∧ o.data = data ∧
      ∃ digits : String, o.messageId = toString (Envelope.milliseconds now) ++ "_" ++ digits ∧
        digits.toList.length = 9 ∧ ∀ c ∈ digits.toList, Text.Base36.IsDigit c :=
  ⟨_, parse?_text (hvalid.reads hfree), rfl, rfl, rfl, rfl, Envelope.suffix seed, rfl,
    Text.Base36.length_encode _ _, fun _ hc => Text.Base36.isDigit_of_mem_encode hc⟩

def nested : Nat → Value → Value
  | 0, v => v
  | n + 1, v => .array [nested n v]

theorem valid_nested {v : Value} {depth : Nat} (h : v.Valid depth) (n : Nat) : (nested n v).Valid (depth + n) := by
  induction n with
  | zero => exact h
  | succ n ih => exact .array fun w hw => List.mem_singleton.mp hw ▸ ih

theorem floatFree_nested {v : Value} (h : v.FloatFree) (n : Nat) : (nested n v).FloatFree := by
  induction n with
  | zero => exact h
  | succ n ih => exact .array fun w hw => List.mem_singleton.mp hw ▸ ih

/-- Data at the edges of what survives: the largest and the smallest integer, characters that are escaped and one
beyond the basic plane, and as many levels as there may be. -/
def edgeMembers : List (String × Value) :=
  [("high", .ofInt 18446744073709551615), ("low", .ofInt (-9223372036854775808)),
    ("nested", nested 125 (.string "\"\\\n\x01\x7f😀"))]

theorem valid_edgeMembers : (Value.object edgeMembers).Valid 126 := by
  have hordered : Json.Ascending edgeMembers := by
    rw [Json.Ascending]
    decide
  refine .object hordered fun m hm => ?_
  simp only [edgeMembers, List.mem_cons, List.not_mem_nil, or_false] at hm
  rcases hm with rfl | rfl | rfl
  · exact .integer (by constructor <;> decide)
  · exact .integer (by constructor <;> decide)
  · exact valid_nested (.string _) 125

theorem floatFree_edgeMembers : (Value.object edgeMembers).FloatFree := by
  refine .object fun m hm => ?_
  simp only [edgeMembers, List.mem_cons, List.not_mem_nil, or_false] at hm
  rcases hm with rfl | rfl | rfl
  · exact .integer _
  · exact .integer _
  · exact floatFree_nested (.string _) 125

def firstInstant : Time.Instant := .ofSeconds (-8334601228800) (by decide) (by decide)

theorem survives_wire_at_edges :
    (Value.object edgeMembers).Valid 126 ∧ (Value.object edgeMembers).FloatFree ∧
      ∃ o, parse? (make firstInstant 7 "say" (.object edgeMembers) none).text = some o ∧
        o.channel = "default" ∧ o.data = .object edgeMembers := by
  refine ⟨valid_edgeMembers, floatFree_edgeMembers, ?_⟩
  obtain ⟨o, hparse, -, -, hchannel, hdata, -⟩ :=
    survives_wire firstInstant 7 "say" none valid_edgeMembers floatFree_edgeMembers
  exact ⟨o, hparse, hchannel, hdata⟩

end Courier.Outbound

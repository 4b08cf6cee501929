import Courier.Envelope.Identifier
import Courier.Json.Read
import Courier.Text.Cut

/-!
Messages to the backend. On the wire a message is a JSON object with its members in a fixed order.
-/

namespace Courier

structure Outbound where
  kind : String
  channel : String
  data : Json.Value
  timestamp : String
  messageId : String

namespace Outbound

def defaultChannel : String := "default"

/-- A new message, stamped with the time and an identifier drawn from the seed. -/
def make (now : Time.Instant) (seed : UInt64) (kind : String) (data : Json.Value)
    (channel : Option String) : Outbound :=
  { kind := kind
    channel := channel.getD defaultChannel
    data := data
    timestamp := now.millisText
    messageId := Envelope.identifier now seed }

def ping (now : Time.Instant) (seed : UInt64) : Outbound := make now seed "ping" .null none

def pong (now : Time.Instant) (seed : UInt64) : Outbound :=
  make now seed "pong" (.object [("timestamp", .ofInt (Envelope.milliseconds now))]) none

def ack (now : Time.Instant) (seed : UInt64) (messageId : String) : Outbound :=
  make now seed "ack" (.object [("message_id", .string messageId)]) none

def channelList (channels : List String) : Json.Value :=
  .object [("channels", .array (channels.map .string))]

def subscribe (now : Time.Instant) (seed : UInt64) (channels : List String) : Outbound :=
  make now seed "subscribe" (channelList channels) none

def unsubscribe (now : Time.Instant) (seed : UInt64) (channels : List String) : Outbound :=
  make now seed "unsubscribe" (channelList channels) none

def members (o : Outbound) : List (String × Json.Value) :=
  [("type", .string o.kind), ("channel", .string o.channel), ("data", o.data),
    ("timestamp", .string o.timestamp), ("message_id", .string o.messageId)]

def text (o : Outbound) : String := Json.recordText o.members

def parse? (text : String) : Option Outbound := do
  let tree ← Json.Tree.parse text
  match ← tree.fields? ["type", "channel", "data", "timestamp", "message_id"] with
  | [some kind, some channel, some data, some timestamp, some messageId] =>
    return {
      kind := ← kind.string?
      channel := ← channel.string?
      data := ← data.fieldValue?
      timestamp := ← timestamp.string?
      messageId := ← messageId.string? }
  | _ => none

/-- Whether the wire form reads back as the same message; messages with the same text are equal. -/
def readsBack (o : Outbound) : Bool :=
  match parse? o.text with
  | some p => p.text == o.text
  | none => false

/-- The message with the random digits of its identifier covered. -/
def masked (o : Outbound) : Outbound :=
  match Text.cutFirst '_' o.messageId.toList with
  | some (stamp, digits) =>
    if digits.length = Envelope.suffixLength then
      { o with messageId := String.ofList (stamp ++ '_' :: digits.map fun _ => '*') }
    else o
  | none => o

end Outbound
end Courier

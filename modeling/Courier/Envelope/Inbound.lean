import Courier.Json.Read

/-!
Messages from the backend, and the kinds of them that are passed on.
-/

namespace Courier

/-- The kinds of messages that subscribers see. -/
inductive MessageKind where
  | orderStatus
  | riderLocation
  | notification
  | chatMessage
  | subscribed
  | unsubscribed
  | pong
  | error
deriving DecidableEq

namespace MessageKind

def wireName : MessageKind → String
  | orderStatus => "order_status"
  | riderLocation => "rider_location"
  | notification => "notification"
  | chatMessage => "chat_message"
  | subscribed => "subscribed"
  | unsubscribed => "unsubscribed"
  | pong => "pong"
  | error => "error"

def name : MessageKind → String
  | orderStatus => "OrderStatus"
  | riderLocation => "RiderLocation"
  | notification => "Notification"
  | chatMessage => "ChatMessage"
  | subscribed => "Subscribed"
  | unsubscribed => "Unsubscribed"
  | pong => "Pong"
  | error => "Error"

def all : List MessageKind :=
  [orderStatus, riderLocation, notification, chatMessage, subscribed, unsubscribed, pong, error]

def ofName? (s : String) : Option MessageKind := all.find? (·.wireName == s)

theorem ofName?_wireName (k : MessageKind) : ofName? k.wireName = some k := by
  cases k <;> decide

end MessageKind

structure Inbound where
  kind : String
  data : Option Json.Value
  messageId : Option String

namespace Inbound

def fieldNames : List String := ["type", "data", "message_id"]

/-- The data of a message; null is none. -/
def data? : Option Json.Tree → Option (Option Json.Value)
  | none => some none
  | some .null => some none
  | some tree => tree.fieldValue?.map some

def messageId? : Option Json.Tree → Option (Option String)
  | none => some none
  | some tree => tree.stringOrNull?

def parse? (text : String) : Option Inbound := do
  let tree ← Json.Tree.parse text
  match ← tree.fields? fieldNames with
  | [some kind, data, messageId] =>
    return { kind := ← kind.string?, data := ← data? data, messageId := ← messageId? messageId }
  | _ => none

end Inbound

structure Message where
  kind : MessageKind
  data : Json.Value
  messageId : Option String

end Courier

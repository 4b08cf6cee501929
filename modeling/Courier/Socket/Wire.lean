import Courier.Socket.Item

/-!
The bytes of a WebSocket as a client reads them. A frame is a header with its kind and its length,
and a payload. A message may be spread over several frames, with control frames between them.
-/

namespace Courier.Socket

/-- Why bytes are no frames. -/
inductive Fault where
  /-- The bytes break the protocol. -/
  | protocol
  /-- A text is not valid UTF-8. -/
  | encoding
deriving DecidableEq

def Fault.message : Fault → String
  | .protocol => "WebSocket protocol error"
  | .encoding => "UTF-8 encoding error"

structure WireFrame where
  /-- Whether the message ends with this frame. -/
  final : Bool
  reserved : Bool
  masked : Bool
  /-- 0 for a continuation, 1 for a text, 2 for binary data, 8 to close, 9 for a ping and 10 for a
  pong. -/
  kind : Nat
  payload : List UInt8

namespace WireFrame

def isKnown (kind : Nat) : Bool := kind ≤ 2 || (8 ≤ kind && kind ≤ 10)

def isControl (f : WireFrame) : Bool := 8 ≤ f.kind

/-- The number that bytes write, most significant first. -/
def bigEndian (bytes : List UInt8) : Nat := bytes.foldl (fun n b => n * 256 + b.toNat) 0

/-- The first frame of some bytes and what follows it, none while it is incomplete. -/
def take : List UInt8 → Except Fault (Option (WireFrame × List UInt8))
  | first :: second :: rest =>
    let short := second.toNat % 128
    let masked := 128 ≤ second.toNat
    let wide := if short = 126 then 2 else if short = 127 then 8 else 0
    let head := wide + if masked then 4 else 0
    let length := if wide = 0 then short else bigEndian (rest.take wide)
    let kind := first.toNat % 16
    if rest.length < head then .ok none
    else if !isKnown kind then .error .protocol
    else if rest.length < head + length then .ok none
    else
      let frame : WireFrame :=
        { final := 128 ≤ first.toNat
          reserved := first.toNat / 16 % 8 ≠ 0
          masked := masked
          kind := kind
          payload := (rest.drop head).take length }
      .ok (some (frame, rest.drop (head + length)))
  | _ => .ok none

/-- A server sends no reserved bits and no masks, and control frames that are short and whole. -/
def isProper (f : WireFrame) : Bool :=
  !f.reserved && !f.masked && (!f.isControl || (f.final && f.payload.length ≤ 125))

end WireFrame

def decodeText (bytes : List UInt8) : Except Fault String :=
  match String.fromUTF8? ⟨bytes.toArray⟩ with
  | some s => .ok s
  | none => .error .encoding

def closingOf : List UInt8 → Except Fault (Option Closing)
  | [] => .ok none
  | [_] => .error .protocol
  | a :: b :: reason =>
    (decodeText reason).map fun s => some (Closing.effective ⟨a.toNat * 256 + b.toNat, s⟩)

/-- What has been read so far of frames and messages that are not complete. -/
structure Stream where
  bytes : List UInt8 := []
  /-- Whether the message under way is a text, and its payload so far. -/
  message : Option (Bool × List UInt8) := none

namespace Stream

/-- Takes a part of a message; it is an item when the message is complete. -/
def continueMessage (s : Stream) (f : WireFrame) (isText : Bool) (payload : List UInt8) :
    Except Fault (Stream × List Item) :=
  if !f.final then .ok ({ s with message := some (isText, payload) }, [])
  else if isText then
    (decodeText payload).map fun text => ({ s with message := none }, [.text text])
  else .ok ({ s with message := none }, [.binary])

def accept (s : Stream) (f : WireFrame) : Except Fault (Stream × List Item) :=
  if !f.isProper then .error .protocol
  else
    match f.kind, s.message with
    | 8, _ => (closingOf f.payload).map fun closing => (s, [.close closing])
    | 9, _ => .ok (s, [.ping])
    | 10, _ => .ok (s, [.pong])
    | 0, some (isText, payload) => s.continueMessage f isText (payload ++ f.payload)
    | 0, none => .error .protocol
    | _, some _ => .error .protocol
    | kind, none => s.continueMessage f (kind == 1) f.payload

/-- Takes all complete frames; every frame has two bytes at least, so their number bounds the
steps. -/
def drain : Nat → Stream → Stream × List Item
  | 0, s => (s, [])
  | steps + 1, s =>
    let next : Except Fault (Option (Stream × List Item)) := do
      match ← WireFrame.take s.bytes with
      | none => return none
      | some (f, rest) => return some (← { s with bytes := rest }.accept f)
    match next with
    | .error fault => ({ s with bytes := [] }, [.error fault.message])
    | .ok none => (s, [])
    | .ok (some (s, items)) =>
      let (s, more) := drain steps s
      (s, items ++ more)

def feed (s : Stream) (bytes : List UInt8) : Stream × List Item :=
  let all := s.bytes ++ bytes
  drain all.length { s with bytes := all }

end Stream
end Courier.Socket

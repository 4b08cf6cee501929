import Courier.Socket.Item

/-!
The writing side of a WebSocket. It writes the frames of the session in their order up to the first
request to close, and stops after it. It stops earlier when a frame cannot be written. When the
session lets go of the socket without a request to close, it closes what it writes to.
-/

namespace Courier.Socket

open Session (Frame)

inductive Writer where
  | writing
  | stopped
deriving DecidableEq

namespace Writer

inductive Input where
  /-- The next frame of the session, and whether it can be written. -/
  | frame (f : Frame) (writable : Bool)
  /-- The session let go of the socket, and no frame is left. -/
  | released

def messageOf : Frame → Written
  | .message o => .message o
  | .close => .close (some .client)

/-- One step of the writing side: the state after it, and what is written. -/
def step : Writer → Input → Writer × Option Written
  | writing, .frame (.message o) true => (writing, some (messageOf (.message o)))
  | writing, .frame .close true => (stopped, some (messageOf .close))
  | writing, .frame _ false => (stopped, none)
  | writing, .released => (stopped, some (.close none))
  | stopped, _ => (stopped, none)

/-- What inputs lead to one after the other, and the state after them. -/
def writeAll (w : Writer) : List Input → Writer × List Written
  | [] => (w, [])
  | i :: inputs =>
    let (w, written) := w.step i
    let (w, rest) := w.writeAll inputs
    (w, written.toList ++ rest)

end Writer
end Courier.Socket

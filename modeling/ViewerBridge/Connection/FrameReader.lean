import ViewerBridge.Connection.Error
/-!
# Reading frames from a socket

A frame reader keeps the bytes that have arrived and make no frame yet, and remembers whether the
stream has ended or failed. Each poll gives one message, a failure, the end, or nothing for now. What
has arrived is what the host's runtime can see at the poll; it may come to see the end of a stream
only one read after the last bytes.
-/
namespace ViewerBridge

/-- What has arrived at one end of a connection and was not taken yet. -/
structure Inbound where
  bytes : List UInt8 := []
  /-- Nothing comes after these bytes: the other side has closed, or the connection is lost. -/
  ended : Bool := false
  deriving DecidableEq, Repr

namespace Inbound

/-- More arrives; nothing does after the end. -/
def join (i more : Inbound) : Inbound :=
  if i.ended then i else ⟨i.bytes ++ more.bytes, more.ended⟩

def append (i : Inbound) (bytes : List UInt8) : Inbound := i.join { bytes }

def close (i : Inbound) : Inbound := { i with ended := true }

end Inbound

structure FrameReader where
  buffer : List UInt8 := []
  /-- The buffer may hold a frame that was not looked for yet. -/
  readable : Bool := false
  ended : Bool := false
  failed : Bool := false
  deriving DecidableEq, Repr

inductive Poll where
  | message (m : Message)
  | failed (e : FrameError)
  | finished
  /-- Nothing can be given before more arrives. -/
  | waiting
  deriving DecidableEq, Repr

namespace FrameReader

/-- Takes the next frame off the buffer; the last case is for a buffer without one. -/
def takeFrame (r : FrameReader) (i : Inbound) (step : List UInt8 → Frames.Outcome × List UInt8)
    (without : FrameReader → Inbound → Poll × FrameReader × Inbound) :
    Poll × FrameReader × Inbound :=
  match step r.buffer with
  | (.message m, rest) => (.message m, { r with buffer := rest }, i)
  | (.failed e, rest) => (.failed e, { r with buffer := rest, failed := true }, i)
  | (.nothing, rest) => without { r with buffer := rest, readable := false } i

def pollEnd (r : FrameReader) (i : Inbound) : Poll × FrameReader × Inbound :=
  r.takeFrame i Frames.nextAtEnd fun r i => (.finished, r, i)

def pollIdle (r : FrameReader) (i : Inbound) : Poll × FrameReader × Inbound :=
  if i.ended then
    if r.ended then (.finished, r, i) else pollEnd { r with ended := true, readable := true } i
  else (.waiting, r, i)

/-- Takes all bytes that have arrived into the buffer and looks for a frame. -/
def pollSocket (r : FrameReader) (i : Inbound) : Poll × FrameReader × Inbound :=
  if i.bytes.isEmpty then pollIdle r i
  else
    takeFrame { r with buffer := r.buffer ++ i.bytes, readable := true, ended := false }
      { i with bytes := [] } Frames.next pollIdle

/-- Polls for the next frame. After a failure the end is given once before reading goes on. -/
def poll (r : FrameReader) (i : Inbound) : Poll × FrameReader × Inbound :=
  if r.failed then (.finished, { r with readable := false, failed := false }, i)
  else if r.readable then
    if r.ended then pollEnd r i else r.takeFrame i Frames.next pollSocket
  else pollSocket r i

end FrameReader
end ViewerBridge

import ViewerBridge.Wire.Span
/-!
# Frames on a stream

Frames carry no length, so a frame is taken off a buffer only once all of it has arrived, which its
span tells. Headers that name no kind are dropped on the way, four bytes at a time.
-/
namespace ViewerBridge

inductive FrameError where
  | malformed (cause : WireError)
  /-- The stream has ended inside a frame. -/
  | cutShort
  deriving DecidableEq, Repr

def FrameError.message : FrameError → String
  | malformed cause => cause.message
  | cutShort => "bytes remaining on stream"

namespace Frames

inductive Outcome where
  | message (m : Message)
  | failed (e : FrameError)
  /-- There is no complete frame. -/
  | nothing
  deriving DecidableEq, Repr

def headerKind? (a b c d : UInt8) : Option Kind :=
  Kind.ofTag? (UInt32.ofNat (LittleEndian.value [a, b, c, d])).toInt32

def afterUnknown : List UInt8 → List UInt8
  | a :: b :: c :: d :: rest =>
    if (headerKind? a b c d).isNone then afterUnknown rest else a :: b :: c :: d :: rest
  | short => short

/-- Takes the next frame off a buffer. A frame with a malformed text is taken off too; any other
malformed frame stays in the way, for there is no telling where it ends. -/
def next (buffer : List UInt8) : Outcome × List UInt8 :=
  let buffer := afterUnknown buffer
  match (Span.frame buffer).1 with
  | .ok span =>
    let (frame, rest) := buffer.splitAt span
    match (Message.read frame).1 with
    | .ok m => (.message m, rest)
    | .error e => (.failed (.malformed e), rest)
  | .error e => if e.isTruncated then (.nothing, buffer) else (.failed (.malformed e), buffer)

/-- Takes the next frame off what a stream that has ended left behind; anything left over that makes
no frame is an error. -/
def nextAtEnd (buffer : List UInt8) : Outcome × List UInt8 :=
  match next buffer with
  | (.nothing, []) => (.nothing, [])
  | (.nothing, rest) => (.failed .cutShort, rest)
  | other => other

/-- Takes at most `limit` frames off a buffer with `step`, up to the first error. -/
def takeUpTo (step : List UInt8 → Outcome × List UInt8) :
    Nat → List UInt8 → List Message × Option FrameError × List UInt8
  | 0, buffer => ([], none, buffer)
  | limit + 1, buffer =>
    match step buffer with
    | (.message m, rest) =>
      let (ms, e, rest) := takeUpTo step limit rest
      (m :: ms, e, rest)
    | (.failed e, rest) => ([], some e, rest)
    | (.nothing, rest) => ([], none, rest)

/-- Takes every frame off a buffer up to the first error; gives the messages, and the error or what
is left. A frame has a byte at least, so the bytes at hand bound their number. -/
def drain (buffer : List UInt8) : List Message × Except FrameError (List UInt8) :=
  match takeUpTo next (buffer.length + 1) buffer with
  | (ms, some e, _) => (ms, .error e)
  | (ms, none, rest) => (ms, .ok rest)

/-- Takes every frame off bytes that arrive in chunks, each of which is put after what those before
have left in the buffer, up to the first error. -/
def feed (buffer : List UInt8) :
    List (List UInt8) → List Message × Except FrameError (List UInt8)
  | [] => ([], .ok buffer)
  | chunk :: chunks =>
    match drain (buffer ++ chunk) with
    | (ms, .error e) => (ms, .error e)
    | (ms, .ok rest) =>
      let (more, outcome) := feed rest chunks
      (ms ++ more, outcome)

end Frames
end ViewerBridge

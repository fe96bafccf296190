import ViewerBridge.Duration
import ViewerBridge.Wire.Frames
/-!
# Connection errors

What can go wrong on the connection between host and viewer.
-/
namespace ViewerBridge

inductive IoKind where
  | invalidData
  | connectionReset
  | connectionAborted
  | brokenPipe
  | unexpectedEnd
  | other
  deriving DecidableEq, Repr

/-- A failure of input or output, in the words of whoever reports it. -/
structure IoError where
  kind : IoKind
  text : String
  deriving DecidableEq, Repr

def IoError.ofFrame (e : FrameError) : IoError where
  kind :=
    match e with
    | .malformed _ => .invalidData
    | .cutShort => .other
  text := e.message

inductive SessionError where
  | bind (cause : IoError)
  | acceptTimeout (wait : Duration)
  | notConnected
  /-- The other side has closed the connection. -/
  | closed
  | sendTimeout (wait : Duration)
  /-- The frames are lost, for the stream does not tell where the next one begins. -/
  | desynchronized (cause : IoError)
  | io (cause : IoError)
  deriving DecidableEq, Repr

namespace SessionError

def ofStream (e : IoError) : SessionError :=
  match e.kind with
  | .invalidData => desynchronized e
  | .connectionReset | .connectionAborted | .brokenPipe | .unexpectedEnd => closed
  | .other => io e

def message : SessionError → String
  | bind cause => s!"could not start TCP server: {cause.text}"
  | acceptTimeout wait =>
    s!"no clients connected to the viewer server within {wait.render}"
  | notConnected => "no viewer connection"
  | closed => "viewer closed the connection"
  | sendTimeout wait => s!"send did not complete within {wait.render}"
  | desynchronized cause => s!"stream desynchronized: {cause.text}"
  | io cause => s!"I/O error: {cause.text}"

def cause? : SessionError → Option IoError
  | bind cause | desynchronized cause | io cause => some cause
  | _ => none

/-- Whether the connection is of no use after the error. -/
def isFatal : SessionError → Bool
  | acceptTimeout _ => false
  | _ => true

end SessionError
end ViewerBridge

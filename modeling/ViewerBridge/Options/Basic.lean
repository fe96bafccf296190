import ViewerBridge.Bridge.Config
import ViewerBridge.Json.Fault
/-!
# Options

What a host may set, in the form in which it comes: times in milliseconds. Options become a
configuration if no time is zero.
-/
namespace ViewerBridge

structure Options where
  path : Option String := none
  viewerBinary : String := "oidwindow"
  style : String := "fusion"
  acceptTimeout : Nat := 10000
  requestTimeout : Nat := 3000
  eventLoopTimeout : Nat := 200
  deriving DecidableEq, Repr

inductive Timeout where
  | accept
  | request
  | eventLoop
  deriving DecidableEq, Repr

namespace Timeout

def all : List Timeout := [accept, request, eventLoop]

def name : Timeout → String
  | accept => "accept_timeout_ms"
  | request => "request_timeout_ms"
  | eventLoop => "event_loop_timeout_ms"

end Timeout

inductive OptionsError where
  | unreadable (cause : Json.Refusal)
  | zeroTimeout (timeout : Timeout)
  deriving DecidableEq, Repr

def OptionsError.message : OptionsError → String
  | unreadable cause => s!"invalid options document: {cause.text}"
  | zeroTimeout timeout => s!"{timeout.name} must be greater than zero"

namespace Options

def timeout (o : Options) : Timeout → Nat
  | .accept => o.acceptTimeout
  | .request => o.requestTimeout
  | .eventLoop => o.eventLoopTimeout

/-- The configuration that the options ask for; the first time that is zero is refused. -/
def toConfig (o : Options) : Except OptionsError Config :=
  match Timeout.all.find? (o.timeout · = 0) with
  | some timeout => .error (.zeroTimeout timeout)
  | none => .ok {
      viewerDirectory := o.path
      viewerBinary := o.viewerBinary
      style := o.style
      acceptTimeout := .ofMilliseconds o.acceptTimeout
      requestTimeout := .ofMilliseconds o.requestTimeout
      eventLoopTimeout := .ofMilliseconds o.eventLoopTimeout }

end Options
end ViewerBridge

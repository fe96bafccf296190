import ViewerBridge.Bridge.Error
import ViewerBridge.Connection.Session
import ViewerBridge.Process.Viewer
/-!
# Waiting for the viewer to connect

After the viewer was started the bridge waits for its connection in short polls and looks after each
whether the viewer still runs, until the time is up. The end of that time is fixed beforehand, so the
clock must be able to show it.
-/
namespace ViewerBridge

inductive AttemptOutcome where
  | timedOut
  | connected (client : Nat)
  | failed (cause : IoError)
  deriving DecidableEq, Repr

def AttemptOutcome.caller : AttemptOutcome → Except IoError (Option Nat)
  | timedOut => .ok none
  | connected client => .ok (some client)
  | failed cause => .error cause

/-- What happens around one poll. -/
structure Attempt where
  /-- Time that passes from the end of the wait before to the start of this one. -/
  delay : Duration := .zero
  exits : List Nat := []
  outcome : AttemptOutcome := .timedOut
  /-- Whether the system answers if it is asked about the viewer afterwards. -/
  answered : Bool := true
  deriving DecidableEq, Repr

namespace Accepting

def interval : Duration := .ofMilliseconds 100

structure Outcome where
  result : Except BridgeError Unit
  viewer : ViewerProcess
  processes : Processes
  session : Session
  /-- The wait that each poll was given. -/
  waits : List Duration

/-- Polls from the given attempt on until a client connects, the viewer does not seem to run any more,
or nothing remains of the time that was `timeout` at first. -/
def run (attempts : Nat → Attempt) (timeout : Duration) (index : Nat) (remaining : Duration)
    (v : ViewerProcess) (ps : Processes) (s : Session) : Outcome :=
  let attempt := attempts index
  let left := remaining.sub attempt.delay
  if _h : left.nanoseconds = 0 then
    ⟨.error (.session (.acceptTimeout timeout)), v, ps, s, []⟩
  else
    let wait := left.min interval
    let ps := attempt.exits.foldl Processes.exit ps
    match s.accept wait attempt.outcome.caller with
    | (.ok _, s) => ⟨.ok (), v, ps, s, [wait]⟩
    | (.error (.acceptTimeout _), s) =>
      match v.isRunning ps attempt.answered with
      | (false, v) => ⟨.error .viewerExited, v, ps, s, [wait]⟩
      | (true, v) =>
        let outcome := run attempts timeout (index + 1) (left.sub wait) v ps s
        { outcome with waits := wait :: outcome.waits }
    | (.error error, s) => ⟨.error (.session error), v, ps, s, [wait]⟩
termination_by remaining.nanoseconds
decreasing_by
  have hl : left.nanoseconds ≤ remaining.nanoseconds := Nat.sub_le ..
  have hw : 0 < wait.nanoseconds :=
    show 0 < min left.nanoseconds interval.nanoseconds from
      Nat.lt_min.mpr ⟨Nat.pos_of_ne_zero _h, by decide⟩
  change left.nanoseconds - wait.nanoseconds < remaining.nanoseconds
  omega

end Accepting
end ViewerBridge

import ViewerBridge.Process.Basic
/-!
# The viewer's process

One viewer is started at most once, watched while it runs, and killed without asking when it is no
longer wanted.
-/
namespace ViewerBridge

inductive ProcessState where
  | notStarted
  /-- It was spawned; that it runs is not confirmed. -/
  | starting
  | running
  | exited
  deriving DecidableEq, Repr

def ProcessState.name : ProcessState → String
  | notStarted => "NotStarted"
  | starting => "Starting"
  | running => "Running"
  | exited => "Exited"

structure Child where
  number : Nat
  /-- Its exit was seen. -/
  exitSeen : Bool := false
  deriving DecidableEq, Repr

structure ViewerProcess where
  state : ProcessState := .notStarted
  child : Option Child := none
  deriving DecidableEq, Repr

namespace ViewerProcess

/-- The number of the process, for as long as its exit was not seen. -/
def id? (v : ViewerProcess) : Option Nat :=
  match v.child with
  | some child => if child.exitSeen then none else some child.number
  | none => none

def start (v : ViewerProcess) (spawner : Spawner) (launch : Launch) (ps : Processes) :
    Except SpawnError Unit × ViewerProcess × Processes :=
  if v.state ≠ .notStarted then (.error .alreadyStarted, v, ps)
  else
    match spawner launch with
    | .error e => (.error e, v, ps)
    | .ok () =>
      let (number, ps) := ps.spawn
      (.ok (), { state := .starting, child := some { number } }, ps)

/-- Asks whether the process runs. If the system gives no answer, the process counts as not running
and nothing is noted. -/
def isRunning (v : ViewerProcess) (ps : Processes) (answered : Bool) : Bool × ViewerProcess :=
  match v.child with
  | none => (false, v)
  | some child =>
    if ¬ answered then (false, v)
    else if ¬ child.exitSeen ∧ ps.isAlive child.number then (true, v)
    else (false, { state := .exited, child := some { child with exitSeen := true } })

/-- Confirms that the process has started; once confirmed it is not looked at again. -/
def waitForStart (v : ViewerProcess) (ps : Processes) (answered : Bool) : Bool × ViewerProcess :=
  match v.state with
  | .running => (true, v)
  | .starting =>
    match v.isRunning ps answered with
    | (true, v) => (true, { v with state := .running })
    | other => other
  | _ => (false, v)

/-- Kills the process if it is held and alive, and lets go of it. -/
def shutdown (v : ViewerProcess) (ps : Processes) : ViewerProcess × Processes :=
  let state := if v.state = .notStarted then .notStarted else .exited
  match v.child with
  | none => ({ state, child := none }, ps)
  | some child => ({ state, child := none }, ps.exit child.number)

end ViewerProcess
end ViewerBridge

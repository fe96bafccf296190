import ViewerBridge.Duration
import ViewerBridge.Process.Viewer
/-!
# Runs of a viewer's process

What can happen to the viewer's process, one thing after another: it is started, asked about and
killed, and between the calls processes exit by themselves.
-/
namespace ViewerBridge

structure Supervision where
  viewer : ViewerProcess := {}
  processes : Processes := {}

inductive ProcessEvent where
  | start (spawner : Spawner) (launch : Launch)
  /-- The system is asked about the process, and answers or does not. -/
  | waitForStart (answered : Bool)
  | isRunning (answered : Bool)
  /-- The process is killed, and nothing waits for its end. -/
  | terminate
  | shutdown (wait : Duration)
  /-- A process exits by itself. -/
  | exits (number : Nat)

inductive ProcessAnswer where
  | started (result : Except SpawnError Unit)
  | running (confirmed : Bool)

namespace Supervision

def isRunning (s : Supervision) (answered : Bool) : Bool × Supervision :=
  let (running, viewer) := s.viewer.isRunning s.processes answered
  (running, { s with viewer })

def waitForStart (s : Supervision) (answered : Bool) : Bool × Supervision :=
  let (running, viewer) := s.viewer.waitForStart s.processes answered
  (running, { s with viewer })

/-- How long the end of a killed process is waited for makes no difference: the process is let go of
at once, and what becomes of it is only logged. -/
def after (s : Supervision) : ProcessEvent → Supervision
  | .start spawner launch =>
    let (_, viewer, processes) := s.viewer.start spawner launch s.processes
    { viewer, processes }
  | .waitForStart answered => (s.waitForStart answered).2
  | .isRunning answered => (s.isRunning answered).2
  | .terminate | .shutdown _ =>
    let (viewer, processes) := s.viewer.shutdown s.processes
    { viewer, processes }
  | .exits number => { s with processes := s.processes.exit number }

def answer? (s : Supervision) : ProcessEvent → Option ProcessAnswer
  | .start spawner launch => some (.started (s.viewer.start spawner launch s.processes).1)
  | .waitForStart answered => some (.running (s.waitForStart answered).1)
  | .isRunning answered => some (.running (s.isRunning answered).1)
  | .terminate | .shutdown _ | .exits _ => none

def run (s : Supervision) (es : List ProcessEvent) : Supervision := es.foldl after s

def answers (s : Supervision) : List ProcessEvent → List ProcessAnswer
  | [] => []
  | e :: es => (s.answer? e).toList ++ (s.after e).answers es

@[simp] theorem run_nil (s : Supervision) : s.run [] = s := rfl

@[simp] theorem run_cons (s : Supervision) (e : ProcessEvent) (es : List ProcessEvent) :
    s.run (e :: es) = (s.after e).run es := rfl

end Supervision
end ViewerBridge

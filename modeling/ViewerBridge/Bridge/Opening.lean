import ViewerBridge.Bridge.Accepting
import ViewerBridge.Process.Programs
/-!
# Openings

What the world does while a bridge starts: it has a port to listen on or has none, spawns the viewer
or does not, the viewer exits or runs, and connects in one of the polls or in none.
-/
namespace ViewerBridge

structure Opening where
  spawner : Spawner
  /-- The port that is free for listening, or why there is none. -/
  port : Except IoError UInt16
  /-- Processes that exit before the viewer's start is confirmed. -/
  exits : List Nat := []
  /-- Whether the system answers if it is asked then about the viewer. -/
  answered : Bool := true
  attempts : Nat → Attempt

def Program.attempt : Program → Attempt
  | .connects => { outcome := .connected 0 }
  | .mute => {}
  | .exits => { exits := [0] }

/-- The opening in which the viewer does as its program says. -/
def Opening.ofProgram (spawner : Spawner) (port : UInt16) (program : Option Program) : Opening where
  spawner := spawner
  port := .ok port
  attempts := fun _ => (program.map Program.attempt).getD {}

end ViewerBridge

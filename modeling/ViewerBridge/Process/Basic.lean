import ViewerBridge.Connection.Error
import ViewerBridge.Launch.CommandLine
/-!
# Processes

The processes that were started, whether each is alive, and why one could not be started.
-/
namespace ViewerBridge

inductive SpawnError where
  | failed (path : String) (cause : IoError)
  | alreadyStarted
  | refused (reason : String)
  deriving DecidableEq, Repr

def SpawnError.message : SpawnError → String
  | failed path cause => s!"failed to spawn {path}: {cause.text}"
  | alreadyStarted => "viewer process was already started"
  | refused reason => s!"spawn failed: {reason}"

abbrev Spawner := Launch → Except SpawnError Unit

/-- All processes that were started, by number; each is alive or has exited. -/
structure Processes where
  alive : List Bool := []
  deriving DecidableEq, Repr

namespace Processes

def spawn (ps : Processes) : Nat × Processes := (ps.alive.length, ⟨ps.alive ++ [true]⟩)

def isAlive (ps : Processes) (number : Nat) : Bool := ps.alive.getD number false

def exit (ps : Processes) (number : Nat) : Processes := ⟨ps.alive.set number false⟩

def living (ps : Processes) : Nat := ps.alive.count true

theorem isAlive_exit {ps : Processes} {m n : Nat} :
    (ps.exit m).isAlive n = true ↔ n ≠ m ∧ ps.isAlive n = true := by
  unfold isAlive exit
  simp only [List.getD_eq_getElem?_getD, List.getElem?_set]
  by_cases hn : m = n
  · subst hn
    by_cases hm : m < ps.alive.length <;> simp [hm]
  · simp [hn, Ne.symm hn]

theorem isAlive_exits {ps : Processes} {ns : List Nat} {n : Nat} :
    (ns.foldl exit ps).isAlive n = true ↔ n ∉ ns ∧ ps.isAlive n = true := by
  induction ns generalizing ps with
  | nil => simp
  | cons m ns ih =>
    rw [List.foldl_cons, ih, isAlive_exit, List.mem_cons, not_or]
    exact ⟨fun ⟨hns, hm, h⟩ => ⟨⟨hm, hns⟩, h⟩, fun ⟨⟨hm, hns⟩, h⟩ => ⟨hns, hm, h⟩⟩

end Processes
end ViewerBridge

import ViewerBridge.Text.Decimal
/-!
# Levels of log events

How grave an event is, from errors down to traces, and the names of the levels.
-/
namespace ViewerBridge.Log

inductive Level where
  | error
  | warn
  | info
  | debug
  | trace
  deriving DecidableEq, Repr

namespace Level

def all : List Level := [error, warn, info, debug, trace]

def name : Level → String
  | error => "error"
  | warn => "warn"
  | info => "info"
  | debug => "debug"
  | trace => "trace"

def rank : Level → Nat
  | error => 1
  | warn => 2
  | info => 3
  | debug => 4
  | trace => 5

end Level

/-- How far down events are shown; none shows nothing. -/
abbrev Ceiling := Option Level

namespace Ceiling

def allows (ceiling : Ceiling) (level : Level) : Bool :=
  match ceiling with
  | none => false
  | some lowest => level.rank ≤ lowest.rank

def ofNat? : Nat → Option Ceiling
  | 0 => some none
  | n => (Level.all.find? (·.rank == n)).map some

/-- The ceiling that a text names: a level or off in letters of either case, or a number. -/
def parse? (text : String) : Option Ceiling :=
  match Decimal.parse? text.toList with
  | some n => ofNat? n
  | none =>
    let lower := text.map Char.toLower
    if lower = "off" then some none else (Level.all.find? (·.name == lower)).map some

end Ceiling
end ViewerBridge.Log

import ViewerBridge.Log.Directive
import ViewerBridge.Log.Setup
/-!
# Filters of log events

Which events are shown. A filter is a list of directives; of those that concern an event, the one
that says most closely which events are meant decides.
-/
namespace ViewerBridge.Log

/-- The directives in force, the later of two for the same events, and the pieces that made none. -/
structure Filter where
  directives : List Directive
  /-- Pieces of the text that were not understood. -/
  ignored : List String := []
  deriving Repr

namespace Filter

def pieces (text : String) : List String :=
  ((text.toList.splitOn ',').filter (· ≠ [])).map String.ofList

def refused (fault : Fault) (pieces : List String) : List String :=
  pieces.filter fun piece =>
    match Directive.parse piece with
    | .error found => found = fault
    | .ok _ => false

def understood (pieces : List String) : List Directive :=
  pieces.filterMap fun piece => (Directive.parse piece).toOption

/-- Reads a filter text; one without any directive lets errors through. There is no filter if one of
the pieces cannot be taken apart. -/
def parse (text : String) : Option Filter :=
  let ignored := refused .malformed (pieces text)
  if ¬ (refused .torn (pieces text)).isEmpty then none
  else if (understood (pieces text)).isEmpty then some ⟨[⟨"", none, none, some .error⟩], ignored⟩
  else some ⟨understood (pieces text), ignored⟩

/-- Of two directives for one event, the one that decides: the closer one, then the later. -/
def stronger (best : Option Directive) (d : Directive) : Option Directive :=
  match best with
  | some b => if b.isCloserThan d then some b else some d
  | none => some d

def deciding (f : Filter) (target : String) : Option Directive :=
  (f.directives.filter (·.concerns target)).foldl stronger none

def shows (f : Filter) (target : String) (level : Level) : Bool :=
  match f.deciding target with
  | some d => d.ceiling.allows level
  | none => false

end Filter

namespace Setup

variable (s : Setup (Option Filter))

/-- Without a filter the program stops before there is any event. -/
def shows (target : String) (level : Level) : Bool := s.filter.any (·.shows target level)

def shownLevels (target : String) : List Level := Level.all.filter (s.shows target)

/-- Whether nothing but objects of JSON is written as long as something is written. Pieces that were
not understood are pointed out in words. -/
def writesJson : Bool := s.json && s.filter.any (·.ignored.isEmpty)

end Setup
end ViewerBridge.Log

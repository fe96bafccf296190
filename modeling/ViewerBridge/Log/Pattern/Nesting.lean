/-!
# Nesting of patterns

How many levels a pattern has. Every set, group, repetition, choice and row of more than one part is
a level above its parts; what is least has none.
-/
namespace ViewerBridge.Log.Pattern

def maxLevels : Nat := 250

structure Row where
  count : Nat := 0
  /-- The levels of the part that has most of them. -/
  highest : Nat := 0
  deriving DecidableEq, Repr

namespace Row

def add (r : Row) (levels : Nat) : Row := ⟨r.count + 1, max r.highest levels⟩

/-- Raises the last part to so many levels, which are more than it had. -/
def raise (r : Row) (levels : Nat) : Row := ⟨r.count, max r.highest levels⟩

/-- The levels of the row. One part alone makes no row. -/
def levels (r : Row) : Nat := if r.count ≤ 1 then r.highest else r.highest + 1

end Row
end ViewerBridge.Log.Pattern

import ViewerBridge.Log.Pattern.CharacterSet
import ViewerBridge.Text.Alphanumeric
/-!
# Patterns of field values

Which texts are patterns that the value of a field can be matched with. A pattern is about
characters or, where it says so, about bytes. Of characters it knows only themselves: their kinds
and their case belong to bytes, and there to ASCII ones. A pattern cannot count its repetitions, and
the levels to which it nests are bounded.
-/
namespace ViewerBridge.Log.Pattern

structure Group where
  mode : Mode := {}
  /-- The parts since the last bar. -/
  row : Row := {}
  /-- The levels of the alternatives before the last bar. -/
  before : Option Nat := none
  /-- The levels of the part that a repetition would repeat. -/
  last : Option Nat := none
  deriving DecidableEq, Repr

namespace Group

def add (g : Group) (levels : Nat) : Group := ⟨g.mode, g.row.add levels, g.before, some levels⟩

def repeatLast (g : Group) : Option Group :=
  g.last.map fun levels => ⟨g.mode, g.row.raise (levels + 1), g.before, some (levels + 1)⟩

/-- Changes how the rest of the group is read. What says so is a part that cannot be repeated. -/
def withMode (g : Group) (mode : Mode) : Group := ⟨mode, g.row.add 0, g.before, none⟩

def alternative (g : Group) : Group :=
  ⟨g.mode, {}, some (max (g.before.getD 0) g.row.levels), none⟩

def inner (g : Group) : Nat :=
  match g.before with
  | none => g.row.levels
  | some before => max before g.row.levels + 1

end Group

structure Reading where
  group : Group := {}
  /-- The groups around the one that is read, the innermost first. -/
  around : List Group := []
  /-- The names that groups have. -/
  names : List (List Char) := []
  deriving DecidableEq, Repr

namespace Reading

def withGroup (r : Reading) (g : Group) : Reading := ⟨g, r.around, r.names⟩

def atom (r : Reading) (a : Option (Atom × List Char)) : Option (Reading × List Char) :=
  a.bind fun (a, rest) =>
    if a.isAllowed r.group.mode then some (r.withGroup (r.group.add 0), rest) else none

def openGroup (r : Reading) (mode : Mode) : Reading :=
  ⟨⟨mode, {}, none, none⟩, r.group :: r.around, r.names⟩

/-- Reads the name of a group: letters, numbers, and some marks between the first and the last. -/
def name (r : Reading) (cs : List Char) : Option (Reading × List Char) :=
  let name := cs.takeWhile (· != '>')
  match name, cs.dropWhile (· != '>') with
  | first :: others, _ :: rest =>
    if (first = '_' || Alphanumeric.isLetter first)
        && others.all (fun c => Alphanumeric.isAlphanumeric c || c ∈ ['_', '.', '[', ']'])
        && name ∉ r.names then
      some ((⟨r.group, r.around, name :: r.names⟩ : Reading).openGroup r.group.mode, rest)
    else none
  | _, _ => none

/-- Reads flags, for a group or for all that follows in the group that is open. -/
def flags (r : Reading) (cs : List Char) : Option (Reading × List Char) :=
  let text := cs.takeWhile fun c => c != ':' && c != ')'
  if text.all (· ∈ Mode.flags) ∧ text.Nodup ∧ text.getLast? ≠ some '-' then
    let mode := r.group.mode.withFlags text
    match cs.dropWhile fun c => c != ':' && c != ')' with
    | ':' :: rest => some (r.openGroup mode, rest)
    | _ :: rest =>
      if text.isEmpty then none else some (r.withGroup (r.group.withMode mode), rest)
    | [] => none
  else none

/-- Reads the next part of a pattern. A question mark that follows the mark of a repetition belongs
to it. -/
def next (r : Reading) : List Char → Option (Reading × List Char)
  | [] => none
  | '(' :: rest =>
    match r.group.mode.skip rest with
    | '?' :: 'P' :: '<' :: rest | '?' :: '<' :: rest => r.name rest
    | '?' :: rest => r.flags rest
    | rest => some (r.openGroup r.group.mode, rest)
  | ')' :: rest =>
    match r.around with
    | outer :: around => some (⟨outer.add (r.group.inner + 1), around, r.names⟩, rest)
    | [] => none
  | '|' :: rest => some (r.withGroup r.group.alternative, rest)
  | '[' :: rest =>
    (CharacterSet.read r.group.mode rest).map fun (levels, rest) =>
      (r.withGroup (r.group.add levels), rest)
  | '\x7b' :: _ => none
  | '.' :: rest => r.atom (if r.group.mode.characters then some (.kind, rest) else none)
  | '\\' :: rest => r.atom (escape r.group.mode rest)
  | c :: rest =>
    if c ∈ ['?', '*', '+'] then
      r.group.repeatLast.map fun g =>
        (r.withGroup g, if rest.head? = some '?' then rest.drop 1 else rest)
    else if c ∈ ['^', '$'] then r.atom (some (.place, rest))
    else r.atom (some (.literal c false, rest))

/-- Reads a pattern to its end, where no group is open. The fuel bounds its characters. -/
def run : Nat → Reading → List Char → Bool
  | 0, _, _ => false
  | fuel + 1, r, cs =>
    match r.group.mode.skip cs with
    | [] => r.around.isEmpty && r.group.inner ≤ maxLevels
    | cs =>
      match r.next cs with
      | some (r, rest) => run fuel r rest
      | none => false

end Reading

def accepts (text : List Char) : Bool := Reading.run (text.length + 1) {} text

example : accepts "(a|[^b-d])*x?".toList = true ∧ accepts "(a".toList = false ∧
    accepts "*".toList = false := by
  decide +kernel

end ViewerBridge.Log.Pattern

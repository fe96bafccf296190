import ViewerBridge.Log.Pattern.Atom
import ViewerBridge.Log.Pattern.Nesting
/-!
# Sets of characters

The sets in brackets of a pattern: single characters, ranges, named kinds, sets in sets, and what
two sets have in common or not.
-/
namespace ViewerBridge.Log.Pattern

def kindNames : List String :=
  ["alnum", "alpha", "ascii", "blank", "cntrl", "digit", "graph", "lower", "print", "punct",
    "space", "upper", "word", "xdigit"]

/-- Reads the name of a kind between colons, after the bracket that opens it; says too whether all
other characters are meant. -/
def named? : List Char → Option (Bool × List Char)
  | ':' :: cs =>
    let others := cs.head? = some '^'
    let cs := if others then cs.drop 1 else cs
    match cs.dropWhile (· != ':') with
    | ':' :: ']' :: rest =>
      if String.ofList (cs.takeWhile (· != ':')) ∈ kindNames then some (others, rest) else none
    | _ => none
  | _ => none

def item (m : Mode) : List Char → Option (Atom × List Char)
  | '\\' :: rest => escape m rest
  | c :: rest => some (.literal c false, rest)
  | [] => none

/-- Reads one member or the first and the last one of a range; they must be allowed in a set. -/
def member (m : Mode) (cs : List Char) : Option (List Char) :=
  (item m cs).bind fun (first, rest) =>
    let alone := if first.isMember m then some (m.skip rest) else none
    match m.skip rest with
    | '-' :: more =>
      if m.ahead more = some ']' ∨ m.ahead more = some '-' then alone
      else (item m (m.skip more)).bind fun (last, rest) =>
        if first.isRange m last then some rest else none
    | _ => alone

structure CharacterSet where
  /-- The members, or those after the last operator. -/
  members : Row := {}
  /-- The levels of what stands before the last operator. -/
  left : Option Nat := none
  deriving DecidableEq, Repr

namespace CharacterSet

def add (s : CharacterSet) (levels : Nat) : CharacterSet := ⟨s.members.add levels, s.left⟩

def inner (s : CharacterSet) : Nat :=
  match s.left with
  | none => s.members.levels
  | some left => max left s.members.levels + 1

def operate (s : CharacterSet) : CharacterSet := ⟨{}, some s.inner⟩

def levels (s : CharacterSet) : Nat := s.inner + 1

/-- What can be at a place of a set besides its members. -/
inductive Place where
  /-- A bracket that closes nothing, or a hyphen. -/
  | first
  /-- A hyphen. -/
  | afterHyphens
  | inside
  deriving DecidableEq, Repr

/-- Reads the beginning of a set after its bracket. A set of all other characters is none of bytes,
because these would not be characters any more. -/
def start (m : Mode) (outermost : Bool) (cs : List Char) : Option (List Char) :=
  match m.skip cs with
  | '^' :: rest => if m.characters && (!m.foldsCase || outermost) then some rest else none
  | rest => some rest

/-- Reads a set to its end, and those around it, the innermost first; gives the levels of the
outermost one. The fuel bounds its characters. -/
def close (m : Mode) :
    Nat → CharacterSet → List CharacterSet → Place → List Char → Option (Nat × List Char)
  | 0, _, _, _, _ => none
  | fuel + 1, s, around, place, cs =>
    let literal (c : Char) (next : Place) (rest : List Char) : Option (Nat × List Char) :=
      if (Atom.literal c false).isMember m then close m fuel (s.add 0) around next rest else none
    match m.skip cs with
    | [] => none
    | '[' :: rest =>
      match named? rest with
      | some (others, rest) =>
        if (if m.characters then m.foldsCase else others) then none
        else close m fuel (s.add 0) around .inside rest
      | none => (start m false rest).bind (close m fuel {} (s :: around) .first)
    | ']' :: rest =>
      if place = .first then literal ']' .inside rest
      else
        match around with
        | [] => some (s.levels, rest)
        | outer :: around => close m fuel (outer.add s.levels) around .inside rest
    | c :: rest =>
      if c = '-' ∧ place ≠ .inside then literal '-' .afterHyphens rest
      else if c ∈ ['&', '-', '~'] ∧ rest.head? = some c then
        close m fuel s.operate around .inside (rest.drop 1)
      else (member m (c :: rest)).bind (close m fuel (s.add 0) around .inside)

def read (m : Mode) (cs : List Char) : Option (Nat × List Char) :=
  (start m true cs).bind (close m (cs.length + 1) {} [] .first)

end CharacterSet
end ViewerBridge.Log.Pattern

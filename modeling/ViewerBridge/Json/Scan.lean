import ViewerBridge.Json.Number
import ViewerBridge.Json.Skip
/-!
# Typed reading of JSON

Reading a document whose reader knows which type to expect where: texts, texts that may be null,
whole numbers, arrays and objects. The first fault from the left is the one reported, and a value of
another type is still checked as far as its first piece goes.
-/
namespace ViewerBridge.Json

namespace Scan

def peek : Scan (Option Char) := do
  modify skipBlanks
  return (← get).head?

def drop : Scan Unit := modify (·.drop 1)

def word : List Char → Scan Unit
  | [] => return
  | c :: cs => do
    match ← get with
    | [] => throw .unfinished
    | d :: rest =>
      if d = c then
        set rest
        word cs
      else throw .malformed

def number (positive : Bool) : Scan Number := fun cs => Number.read positive cs

/-- Refuses a value whose type does not fit its place. A scalar is read first and may turn out to be
malformed itself. -/
def mistyped {α : Type} : Scan α := do
  match (← get).head? with
  | some 'n' => drop; word ['u', 'l', 'l']; throw .mistyped
  | some 't' => drop; word ['r', 'u', 'e']; throw .mistyped
  | some 'f' => drop; word ['a', 'l', 's', 'e']; throw .mistyped
  | some '-' => drop; discard (number false); throw .mistyped
  | some '"' => drop; discard quoted; throw .mistyped
  | some '[' | some '{' => throw .mistyped
  | some c =>
    if c.isDigit then discard (number true); throw .mistyped
    else throw .malformed
  | none => throw .malformed

def text : Scan String := do
  match ← peek with
  | none => throw .unfinished
  | some '"' => drop; quoted
  | some _ => mistyped

def optionalText : Scan (Option String) := do
  match ← peek with
  | some 'n' => drop; word ['u', 'l', 'l']; return none
  | _ => return some (← text)

def natural : Scan Nat := do
  let number ← (do
    match ← peek with
    | none => throw .unfinished
    | some '-' => drop; number false
    | some c => if c.isDigit then number true else mistyped)
  match number with
  | .natural n => return n
  | .other => throw .mistyped

/-- Whether a further element of an array follows; `first` says that none has been read. -/
def moreElements (first : Bool) : Scan Bool := do
  match ← peek with
  | none => throw .unfinished
  | some ']' => return false
  | some c =>
    if first then return true
    else if c = ',' then
      drop
      match ← peek with
      | none => throw .unfinished
      | some ']' => throw .malformed
      | some _ => return true
    else throw .malformed

def closeArray : Scan Unit := do
  match ← peek with
  | none => throw .unfinished
  | some ']' => drop
  | some _ => throw .malformed

def nextKey (first : Bool) : Scan (Option String) := do
  match ← peek with
  | none => throw .unfinished
  | some '}' => return none
  | some c =>
    if first then
      if c = '"' then
        drop
        return some (← quoted)
      else throw .malformed
    else if c = ',' then
      drop
      match ← peek with
      | none => throw .unfinished
      | some '"' =>
        drop
        return some (← quoted)
      | some _ => throw .malformed
    else throw .malformed

def colon : Scan Unit := do
  match ← peek with
  | none => throw .unfinished
  | some ':' => drop
  | some _ => throw .malformed

def closeObject : Scan Unit := do
  match ← peek with
  | none => throw .unfinished
  | some '}' => drop
  | some _ => throw .malformed

def finish : Scan Unit := do
  match ← peek with
  | none => return
  | some _ => throw .malformed

/-- Reads at most `limit` elements of an array of texts up to its end, after those in `read`, which
is reversed. -/
def textsOnto (limit : Nat) (read : List String) : Scan (List String) :=
  match limit with
  | 0 => throw .unfinished
  | limit + 1 => do
    if ← moreElements read.isEmpty then textsOnto limit ((← text) :: read)
    else return read.reverse

/-- Reads an array of texts. An element takes a character at least, so the length of the document
bounds their number. -/
def texts : Scan (List String) := do
  match ← peek with
  | none => throw .unfinished
  | some '[' =>
    drop
    let texts ← textsOnto ((← get).length + 1) []
    closeArray
    return texts
  | some _ => mistyped

def document {α : Type} (wording : Wording) (scan : Scan α) (s : String) : Except Refusal α :=
  ((do
    let a ← scan
    finish
    return a : Scan α).run' s.toList).mapError fun fault => ⟨fault, wording fault⟩

end Scan
end ViewerBridge.Json

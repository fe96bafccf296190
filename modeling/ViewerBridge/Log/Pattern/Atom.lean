import ViewerBridge.Text.Blank
import ViewerBridge.Text.Hexadecimal
/-!
# The least parts of patterns

How a place of a pattern is to be read, which characters, escapes and blanks there are, and what
stands for itself, alone or in a set. The case of a letter can only be left open in ASCII, among
bytes; there a character beyond ASCII has no case, but a byte beyond ASCII is no character.
-/
namespace ViewerBridge.Log.Pattern

structure Mode where
  /-- Letters of either case are the same. -/
  foldsCase : Bool := false
  /-- It is about characters and not about bytes. -/
  characters : Bool := true
  /-- Blanks and comments do not belong to the pattern. -/
  spaced : Bool := false
  deriving DecidableEq, Repr

/-- Drops blanks and comments, each of which ends with its line; `inside` tells if one is open. -/
def dropComments (inside : Bool) : List Char → List Char
  | [] => []
  | c :: cs =>
    if inside then dropComments (c != '\n') cs
    else if Blank.isSpace c then dropComments false cs
    else if c = '#' then dropComments true cs
    else c :: cs

namespace Mode

def skip (m : Mode) (cs : List Char) : List Char := if m.spaced then dropComments false cs else cs

/-- The character that decides whether a hyphen before it stands for itself: the next one that is no
blank, if need be the first one of a comment. -/
def ahead (m : Mode) (cs : List Char) : Option Char :=
  if m.spaced then
    match cs.dropWhile Blank.isSpace with
    | '#' :: comment => (comment.dropWhile Blank.isSpace).head?
    | rest => rest.head?
  else cs.head?

/-- The letters of the flags, and the hyphen after which flags are taken back. -/
def flags : List Char := ['i', 'm', 's', 'U', 'u', 'R', 'x', '-']

def withFlags (m : Mode) (text : List Char) : Mode :=
  let set (flag : Char) (old : Bool) : Bool :=
    if flag ∈ text.takeWhile (· != '-') then true else if flag ∈ text then false else old
  ⟨set 'i' m.foldsCase, set 'u' m.characters, set 'x' m.spaced⟩

end Mode

inductive Atom where
  /-- One character, or one byte that is given by its number. -/
  | literal (c : Char) (byte : Bool)
  /-- A kind of characters. -/
  | kind
  /-- A place between two characters. -/
  | place
  deriving DecidableEq, Repr

namespace Atom

def isAllowed (m : Mode) : Atom → Bool
  | literal c byte =>
    if m.characters then !m.foldsCase else c.toNat < 0x80 || !byte
  | _ => true

def isMember (m : Mode) : Atom → Bool
  | literal c _ => if m.characters then !m.foldsCase else c.toNat < 0x80
  | kind => true
  | place => false

/-- Whether a set can hold all characters between the two. -/
def isRange (m : Mode) : Atom → Atom → Bool
  | literal first b, literal last b' =>
    first ≤ last && isMember m (literal first b) && isMember m (literal last b')
  | _, _ => false

end Atom

def number (m : Mode) : Nat → Nat → List Char → Option (Nat × List Char)
  | 0, n, cs => some (n, cs)
  | digits + 1, n, cs =>
    match m.skip cs with
    | c :: rest => (Hexadecimal.digit? c).bind fun digit => number m digits (16 * n + digit) rest
    | [] => none

def escape (m : Mode) : List Char → Option (Atom × List Char)
  | [] => none
  | c :: rest =>
    let code (digits : Nat) : Option (Atom × List Char) :=
      (number m digits 0 rest).bind fun (n, rest) =>
        if n.isValidChar then some (.literal (Char.ofNat n) (c = 'x'), rest) else none
    match c with
    | 'x' => code 2
    | 'u' => code 4
    | 'U' => code 8
    | 'd' | 's' | 'w' => if m.characters then none else some (.kind, rest)
    | 'b' | 'B' | '<' | '>' => if m.characters then none else some (.place, rest)
    | 'A' | 'z' => some (.place, rest)
    | 'a' => some (.literal '\x07' false, rest)
    | 't' => some (.literal '\t' false, rest)
    | 'n' => some (.literal '\n' false, rest)
    | 'v' => some (.literal '\x0b' false, rest)
    | 'f' => some (.literal '\x0c' false, rest)
    | 'r' => some (.literal '\r' false, rest)
    | _ => if c.toNat < 0x80 && !c.isAlphanum then some (.literal c false, rest) else none

end ViewerBridge.Log.Pattern

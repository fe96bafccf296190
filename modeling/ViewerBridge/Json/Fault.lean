/-!
# Faults in JSON documents

The three ways in which a document can fail to be read, and a refused document. What is said of a
fault is left to the host's JSON library.
-/
namespace ViewerBridge.Json

inductive Fault where
  /-- It is not JSON, or has more after its end. -/
  | malformed
  /-- It ends too early. -/
  | unfinished
  /-- It is JSON so far, but a value is not of the type that its place asks for. -/
  | mistyped
  deriving DecidableEq, Repr

/-- What the JSON library says of a document in which it meets the fault first. -/
abbrev Wording := Fault → String

/-- A document that was refused: its first fault, and what the JSON library says of it. -/
structure Refusal where
  fault : Fault
  text : String
  deriving DecidableEq, Repr

/-- A reader of documents: it takes a value off the front of the characters that are left. -/
abbrev Scan := StateT (List Char) (Except Fault)

def isBlank (c : Char) : Bool := c == ' ' || c == '\n' || c == '\t' || c == '\r'

def skipBlanks (cs : List Char) : List Char := cs.dropWhile isBlank

end ViewerBridge.Json

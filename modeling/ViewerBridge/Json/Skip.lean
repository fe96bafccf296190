import ViewerBridge.Json.Quoted
/-!
# Passing over JSON values

A value that nobody asked for is checked for its form only, to any depth and with no regard to what
its strings and numbers stand for. The check goes one character at a time and remembers the brackets
that are open.
-/
namespace ViewerBridge.Json.Skip

inductive Bracket where
  | array
  | object
  deriving DecidableEq, Repr

inductive NumberPart where
  | minus
  | zero
  | whole
  | point
  | fraction
  | letter
  | sign
  | exponent
  deriving DecidableEq, Repr

/-- What may come next. -/
inductive Place where
  | value
  /-- A value or the end of the array that has just been opened. -/
  | firstValue
  /-- A key or the end of the object that has just been opened. -/
  | firstKey
  | key
  | colon
  /-- A comma or the end of the innermost bracket. -/
  | afterValue
  /-- The characters that are left of a word. -/
  | word (rest : List Char)
  | number (part : NumberPart)
  /-- The inside of a string, which may be a key. -/
  | string (isKey : Bool)
  | escape (isKey : Bool)
  deriving DecidableEq, Repr

def NumberPart.mayEnd : NumberPart → Bool
  | zero | whole | fraction | exponent => true
  | _ => false

def NumberPart.next? (part : NumberPart) (c : Char) : Option NumberPart :=
  match part with
  | minus => if c = '0' then some zero else if c.isDigit then some whole else none
  | zero => if c = '.' then some point else if c = 'e' ∨ c = 'E' then some letter else none
  | whole =>
    if c.isDigit then some whole
    else if c = '.' then some point else if c = 'e' ∨ c = 'E' then some letter else none
  | point => if c.isDigit then some fraction else none
  | fraction =>
    if c.isDigit then some fraction else if c = 'e' ∨ c = 'E' then some letter else none
  | letter =>
    if c.isDigit then some exponent else if c = '+' ∨ c = '-' then some sign else none
  | sign | exponent => if c.isDigit then some exponent else none

inductive Step where
  | go (brackets : List Bracket) (place : Place)
  | done
  | fail
  deriving DecidableEq, Repr

def ended : List Bracket → Step
  | [] => .done
  | brackets => .go brackets .afterValue

def startValue (brackets : List Bracket) (c : Char) : Step :=
  match c with
  | 'n' => .go brackets (.word ['u', 'l', 'l'])
  | 't' => .go brackets (.word ['r', 'u', 'e'])
  | 'f' => .go brackets (.word ['a', 'l', 's', 'e'])
  | '-' => .go brackets (.number .minus)
  | '0' => .go brackets (.number .zero)
  | '"' => .go brackets (.string false)
  | '[' => .go (.array :: brackets) .firstValue
  | '{' => .go (.object :: brackets) .firstKey
  | c => if c.isDigit then .go brackets (.number .whole) else .fail

def afterValue (brackets : List Bracket) (c : Char) : Step :=
  match c, brackets with
  | ',', .array :: _ => .go brackets .value
  | ',', .object :: _ => .go brackets .key
  | ']', .array :: outer => ended outer
  | '}', .object :: outer => ended outer
  | _, _ => .fail

def closeString (brackets : List Bracket) (isKey : Bool) : Step :=
  if isKey then .go brackets .colon else ended brackets

/-- One character. Four digits that follow the letter u in a string are left to `run`. -/
def step (brackets : List Bracket) (place : Place) (c : Char) : Step :=
  match place with
  | .value => if isBlank c then .go brackets .value else startValue brackets c
  | .firstValue =>
    if isBlank c then .go brackets .firstValue
    else if c = ']' then ended brackets.tail else startValue brackets c
  | .firstKey =>
    if isBlank c then .go brackets .firstKey
    else if c = '}' then ended brackets.tail
    else if c = '"' then .go brackets (.string true) else .fail
  | .key =>
    if isBlank c then .go brackets .key else if c = '"' then .go brackets (.string true) else .fail
  | .colon =>
    if isBlank c then .go brackets .colon else if c = ':' then .go brackets .value else .fail
  | .afterValue => if isBlank c then .go brackets .afterValue else afterValue brackets c
  | .word [] => .fail
  | .word [last] => if c = last then ended brackets else .fail
  | .word (next :: rest) => if c = next then .go brackets (.word rest) else .fail
  | .number part =>
    match part.next? c with
    | some next => .go brackets (.number next)
    | none =>
      if ¬ part.mayEnd ∨ (part = .zero ∧ c.isDigit) then .fail
      else if isBlank c then ended brackets else afterValue brackets c
  | .string isKey =>
    if c = '"' then closeString brackets isKey
    else if c = '\\' then .go brackets (.escape isKey)
    else if c < ' ' then .fail else .go brackets (.string isKey)
  | .escape isKey => if (unescape? c).isSome then .go brackets (.string isKey) else .fail

def faultAtEnd : Place → Fault
  | .number part => if part.mayEnd then .unfinished else .malformed
  | _ => .unfinished

/-- Whether a value that ends at the given place without a bracket around it is complete. -/
def endsNumber (brackets : List Bracket) (place : Place) : Bool :=
  match brackets, place with
  | [], .number part => part.mayEnd
  | _, _ => false

def endsBefore (brackets : List Bracket) (place : Place) (c : Char) : Bool :=
  match brackets, place with
  | [], .number part =>
    part.mayEnd && (part.next? c).isNone && !(part == .zero && c.isDigit)
  | _, _ => false

/-- Passes over the rest of a value from the given place; gives the characters after it. -/
def run (brackets : List Bracket) (place : Place) : List Char → Except Fault (List Char)
  | [] => if endsNumber brackets place then .ok [] else .error (faultAtEnd place)
  | c :: cs =>
    match place, c, cs with
    | .escape isKey, 'u', a :: b :: c :: d :: rest =>
      if (unit? a b c d).isSome then run brackets (.string isKey) rest else .error .malformed
    | .escape _, 'u', short => .error (shortUnit short)
    | place, c, cs =>
      if endsBefore brackets place c then .ok (c :: cs)
      else
        match step brackets place c with
        | .go brackets place => run brackets place cs
        | .done => .ok cs
        | .fail => .error .malformed

end Skip

def skipValue : Scan Unit := fun cs => return ((), ← Skip.run [] .value cs)

end ViewerBridge.Json

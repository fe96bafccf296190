import ViewerBridge.Log.Level
import ViewerBridge.Log.Pattern
import ViewerBridge.Text.Utf8
/-!
# Directives on log events

A directive says how far down some events are shown: those whose target begins with a text, that
happen in a span of a name, or that carry a field. It is written as the target, the span and the
field in brackets, an equals sign and the level, any of which may be missing.
-/
namespace ViewerBridge.Log

structure Field where
  name : String
  /-- Whether the directive says what the value of the field must be. -/
  valued : Bool
  deriving DecidableEq, Repr

structure Directive where
  /-- How the target of the events begins. -/
  target : String := ""
  span : Option String := none
  field : Option Field := none
  ceiling : Ceiling := some .trace
  deriving DecidableEq, Repr

inductive Fault where
  | malformed
  /-- It cannot even be taken apart, because it would have to be cut inside a character. -/
  | torn
  deriving DecidableEq, Repr

namespace Field

def parse? (text : List Char) : Option Field :=
  let name := String.ofList (text.takeWhile (· != '='))
  match text.dropWhile (· != '=') with
  | [] => if text.isEmpty then none else some ⟨name, false⟩
  | _ :: rest =>
    let value := rest.takeWhile (· != '=')
    if Decimal.isNumber value || Pattern.accepts value then some ⟨name, true⟩ else none

end Field

namespace Directive

def messageField : String := "message"

/-- Whether the directive is about events of the given target. Events happen outside of spans, and
one whose fields must have certain values is about spans. -/
def concerns (d : Directive) (target : String) : Bool :=
  d.span.isNone && d.field.all (fun f => f.name = messageField && !f.valued)
    && d.target.toList.isPrefixOf target.toList

/-- Whether the other directive says less closely than this one which events are meant: its target
is shorter, or as long and without a field. -/
def isCloserThan (d other : Directive) : Bool :=
  other.target.utf8ByteSize < d.target.utf8ByteSize
    || (other.target.utf8ByteSize = d.target.utf8ByteSize && d.field.isSome && other.field.isNone)

/-! ## Reading a directive -/

/-- What is being read at a place of a directive, with the place where it began. -/
inductive Stage where
  | start
  | target
  | span (first : Nat)
  | field (first : Nat)
  /-- The field has ended, but not the brackets. -/
  | fieldEnd
  /-- The brackets have ended. -/
  | bracketEnd
  | level (first : Nat)
  deriving DecidableEq, Repr

/-- A character with which a directive may begin that does not begin with a bracket. -/
def canBegin (c : Char) : Bool := Alphanumeric.isAlphanumeric c || c ∈ ['-', ':', '_']

def part (text : List Char) (first last : Nat) : Except Fault (List Char) :=
  match (Utf8.drop? first text).bind (Utf8.take? (last - first)) with
  | some part => .ok part
  | none => .error .torn

/-- Reads the character at a place, which is counted in bytes. -/
def next (text : List Char) (place : Nat) (c : Char) :
    Stage × Directive → Except Fault (Stage × Directive)
  | (.start, d) =>
    if c = '[' then .ok (.span (place + 1), d)
    else if canBegin c then .ok (.target, d)
    else .error .malformed
  | (.target, d) =>
    if c = '[' ∨ c = '=' then do
      let target ← part text 0 place
      let stage := if c = '[' then Stage.span (place + 1) else .level (place + 1)
      return (stage, ⟨String.ofList target, d.span, d.field, d.ceiling⟩)
    else .ok (.target, d)
  | (.span first, d) =>
    if c = ']' then do
      let span ← part text first place
      return (.bracketEnd, ⟨d.target, some (String.ofList span), d.field, d.ceiling⟩)
    else if c = '\x7b' then do
      let span ← part text first place
      let span? := if span.isEmpty then none else some (String.ofList span)
      return (.field (place + 1), ⟨d.target, span?, d.field, d.ceiling⟩)
    else .ok (.span first, d)
  | (.field first, d) =>
    if c = '\x7d' then do
      match Field.parse? (← part text first place) with
      | some field => return (.fieldEnd, ⟨d.target, d.span, some field, d.ceiling⟩)
      | none => throw .malformed
    else .ok (.field first, d)
  | (.fieldEnd, d) => if c = ']' then .ok (.bracketEnd, d) else .error .malformed
  | (.bracketEnd, d) => if c = '=' then .ok (.level (place + 1), d) else .error .malformed
  | (.level first, d) => .ok (.level first, d)

def readFrom (text : List Char) :
    Nat → List Char → Stage × Directive → Except Fault (Stage × Directive)
  | _, [], state => .ok state
  | place, c :: cs, state => do readFrom text (place + c.utf8Size) cs (← next text place c state)

/-- The directive that has been read. A text that is nothing but a level is one for all targets. -/
def finish (text : List Char) : Stage × Directive → Except Fault Directive
  | (.target, d) =>
    match Ceiling.parse? (String.ofList text) with
    | some ceiling => .ok ⟨"", d.span, d.field, ceiling⟩
    | none => .ok ⟨String.ofList text, d.span, d.field, d.ceiling⟩
  | (.bracketEnd, d) => .ok d
  | (.level first, d) =>
    match Utf8.drop? first text with
    | none => .error .torn
    | some [] => .ok d
    | some level =>
      match Ceiling.parse? (String.ofList level) with
      | some ceiling => .ok ⟨d.target, d.span, d.field, ceiling⟩
      | none => .error .malformed
  | _ => .error .malformed

/-- Reads a directive. Blanks at the two ends are not looked at, but places are counted without the
first ones and used with them, so that after a blank everything is taken from where it is not. -/
def parse (text : String) : Except Fault Directive := do
  finish text.toList (← readFrom text.toList 0 (Blank.trim text.toList) (.start, {}))

end Directive
end ViewerBridge.Log

import ViewerBridge.Text.Decimal
/-!
# The viewer's command line

The viewer is told its style and the port to connect to by two flags, each followed by its value.
-/
namespace ViewerBridge

inductive Flag where
  | style
  | port
  deriving DecidableEq, Repr

namespace Flag

def text : Flag → String
  | style => "-style"
  | port => "-p"

def all : List Flag := [style, port]

def ofText? (argument : String) : Option Flag :=
  all.find? (·.text == argument)

@[simp] theorem ofText?_text (f : Flag) : ofText? f.text = some f := by
  cases f <;> simp [ofText?, all, text]

theorem ofText?_eq_none_iff {argument : String} :
    ofText? argument = none ↔ ∀ flag : Flag, argument ≠ flag.text := by
  constructor
  · rintro h flag rfl
    simp at h
  · intro h
    simp [ofText?, all, (h style).symm, (h port).symm]

theorem text_of_ofText? {argument : String} {flag : Flag} (h : ofText? argument = some flag) :
    flag.text = argument := by
  simpa using List.find?_some h

theorem text_injective {flag other : Flag} (h : flag.text = other.text) : flag = other := by
  have htext := ofText?_text flag
  rw [h, ofText?_text] at htext
  exact (Option.some.inj htext).symm

end Flag

inductive ArgumentError where
  | missingValue (flag : Flag)
  | missingArgument (flag : Flag)
  | invalidPort (value : String)
  deriving DecidableEq, Repr

def ArgumentError.message : ArgumentError → String
  | missingValue flag => s!"missing value for {flag.text}"
  | missingArgument flag => s!"missing required argument {flag.text}"
  | invalidPort value => s!"invalid port: {value}"

namespace Port

/-- The port that a text names: a decimal number from 1 to 65535. -/
def ofText? (text : String) : Option UInt16 :=
  match Decimal.parse? text.toList with
  | some n => if n = 0 ∨ 65536 ≤ n then none else some (UInt16.ofNat n)
  | none => none

end Port

structure ViewerArguments where
  style : Option String
  port : UInt16
  deriving DecidableEq, Repr

namespace ViewerArguments

/-- Reads arguments from left to right after those that gave `style` and `port`. A later value takes
the place of an earlier one, and an argument that is no flag is passed over. -/
def parseFrom (style : Option String) (port : Option UInt16) :
    List String → Except ArgumentError ViewerArguments
  | [] =>
    match port with
    | some port => .ok ⟨style, port⟩
    | none => .error (.missingArgument .port)
  | argument :: rest =>
    match Flag.ofText? argument, rest with
    | none, rest => parseFrom style port rest
    | some flag, [] => .error (.missingValue flag)
    | some .style, value :: rest => parseFrom (some value) port rest
    | some .port, value :: rest =>
      match Port.ofText? value with
      | some port => parseFrom style (some port) rest
      | none => .error (.invalidPort value)

def parse (arguments : List String) : Except ArgumentError ViewerArguments :=
  parseFrom none none arguments

end ViewerArguments

structure Launch where
  executable : String
  style : String
  port : UInt16
  deriving DecidableEq, Repr

def Launch.arguments (l : Launch) : List String :=
  [Flag.style.text, l.style, Flag.port.text, toString l.port.toNat]

end ViewerBridge

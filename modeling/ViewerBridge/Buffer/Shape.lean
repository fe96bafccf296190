import ViewerBridge.Wire.ElementType
import ViewerBridge.Wire.Reader
/-!
# Shapes of buffers

The dimensions of a buffer and its element type, the size they ask of its payload, and why a payload
is refused.
-/
namespace ViewerBridge

inductive Dimension where
  | width
  | height
  | channels
  | rowStride
  deriving DecidableEq, Repr

namespace Dimension

def all : List Dimension := [width, height, channels, rowStride]

def name : Dimension → String
  | width => "width"
  | height => "height"
  | channels => "channels"
  | rowStride => "row_stride"

end Dimension

/-- How the elements of a buffer are laid out; the row stride counts elements. -/
structure Shape where
  width : Int32
  height : Int32
  channels : Int32
  rowStride : Int32
  element : ElementType
  deriving DecidableEq, Repr

inductive SizeFault where
  | negative (dimension : Dimension) (value : Int32)
  | tooLarge
  /-- The payload has fewer bytes than the shape asks for. -/
  | mismatch (expected actual : Nat)
  deriving DecidableEq, Repr

structure BufferError where
  variableName : String
  fault : SizeFault
  deriving DecidableEq, Repr

def BufferError.message : BufferError → String
  | ⟨variableName, .mismatch expected actual⟩ =>
    s!"size mismatch for buffer {variableName}: expected at least {expected} bytes, got {actual}"
  | ⟨variableName, .negative dimension value⟩ =>
    s!"invalid {dimension.name} for buffer {variableName}: {value}"
  | ⟨variableName, .tooLarge⟩ => s!"buffer {variableName} is too large to send"

namespace Shape

def dimension (s : Shape) : Dimension → Int32
  | .width => s.width
  | .height => s.height
  | .channels => s.channels
  | .rowStride => s.rowStride

/-- The first negative dimension, in the order of checking. -/
def negative? (s : Shape) : Option Dimension := Dimension.all.find? (s.dimension · < 0)

def count? (i : Int32) : Option Nat := if 0 ≤ i then some i.toInt.toNat else none

/-- The product of two sizes, if it is a 64-bit size itself. -/
def product? (m n : Nat) : Option Nat := if m * n < 1 <<< 64 then some (m * n) else none

/-- Bytes that `rowStride * height * channels` elements take, if none of the three is negative. The
sizes are multiplied one after the other, and each product must be a 64-bit size. -/
def byteSize? (s : Shape) : Option Nat := do
  let rowStride ← count? s.rowStride
  let height ← count? s.height
  let channels ← count? s.channels
  let plane ← product? rowStride height
  let elements ← product? plane channels
  product? elements s.element.size

def requiredSize (s : Shape) : Except SizeFault Nat :=
  match s.negative? with
  | some d => .error (.negative d (s.dimension d))
  | none =>
    match s.byteSize? with
    | some size => .ok size
    | none => .error .tooLarge

/-- Accepts a payload of the given length if it is large enough for the shape and small enough for
the wire. -/
def accept (s : Shape) (length : Nat) : Except SizeFault Unit :=
  match s.requiredSize with
  | .error fault => .error fault
  | .ok required =>
    if length > Reader.maxLength then .error .tooLarge
    else if length < required then .error (.mismatch required length)
    else .ok ()

end Shape
end ViewerBridge

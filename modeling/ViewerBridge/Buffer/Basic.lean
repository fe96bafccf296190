import ViewerBridge.Buffer.Narrowing
import ViewerBridge.Buffer.Shape
/-!
# Buffers

A buffer to plot: its names, the order of its channels, its shape and its bytes.
-/
namespace ViewerBridge

structure Buffer where
  variableName : String
  displayName : String
  /-- The order of the channels, such as rgba. -/
  pixelLayout : String
  transpose : Bool
  shape : Shape
  payload : List UInt8
  deriving DecidableEq, Repr

namespace Buffer

/-- Accepts a buffer whose payload fits its shape. -/
def validate (b : Buffer) : Except BufferError Unit :=
  (b.shape.accept b.payload.length).mapError (⟨b.variableName, ·⟩)

def toContents (b : Buffer) : Except BufferError Buffer := do
  b.validate
  return b

def visualizedSize (b : Buffer) : Int32 × Int32 :=
  if b.transpose then (b.shape.height, b.shape.width) else (b.shape.width, b.shape.height)

/-- The buffer as the viewer stores it: doubles are narrowed to floats. -/
def normalized (b : Buffer) : Buffer :=
  match b.shape.element with
  | .float64 =>
    { b with
      shape := { b.shape with element := .float32 }
      payload := Narrowing.narrowAll b.payload }
  | _ => b

end Buffer
end ViewerBridge

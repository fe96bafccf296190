import ViewerBridge.Boundary.Diagnostic
/-!
# Foreign texts and buffers

Texts and buffers as the host lays them out: a text ends at its first zero byte, and any part may be
missing. They are checked part by part, and the first part that is wrong is the one reported.
-/
namespace ViewerBridge

/-- A text from the host; none stands for a null pointer. -/
abbrev ForeignText := Option (List UInt8)

namespace ForeignText

def content (bytes : List UInt8) : List UInt8 := bytes.takeWhile (· != 0)

def required (t : ForeignText) (field : String) : Except CallError String :=
  match t with
  | none => .error (.nullText field)
  | some bytes => (Utf8.read (content bytes)).mapError (.invalidText field)

end ForeignText

inductive ForeignPayload where
  | bytes (bs : List UInt8)
  /-- A null pointer with the length that was given for it. -/
  | null (length : Nat)
  deriving DecidableEq, Repr

structure ForeignBuffer where
  variableName : ForeignText
  displayName : ForeignText
  pixelLayout : ForeignText
  transpose : Bool
  width : Int32
  height : Int32
  channels : Int32
  rowStride : Int32
  element : Int32
  payload : ForeignPayload
  deriving DecidableEq, Repr

namespace ForeignBuffer

/-- The bytes of the payload; a null pointer stands for no bytes. -/
def payloadBytes (b : ForeignBuffer) (variableName : String) : Except CallError (List UInt8) :=
  match b.payload with
  | .bytes bs => .ok bs
  | .null 0 => .ok []
  | .null length => .error (.nullPayload variableName length)

def toBuffer (b : ForeignBuffer) : Except CallError Buffer := do
  let variableName ← b.variableName.required "variable_name"
  let displayName ← b.displayName.required "display_name"
  let pixelLayout ← b.pixelLayout.required "pixel_layout"
  let element ←
    match ElementType.ofCode? b.element with
    | some element => pure element
    | none => .error (.unknownElement variableName b.element)
  let payload ← b.payloadBytes variableName
  return {
    variableName, displayName, pixelLayout, payload
    transpose := b.transpose
    shape := {
      width := b.width
      height := b.height
      channels := b.channels
      rowStride := b.rowStride
      element } }

end ForeignBuffer
end ViewerBridge

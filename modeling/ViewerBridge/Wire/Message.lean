import ViewerBridge.Buffer.Basic
import ViewerBridge.Wire.Field
/-!
# Messages

What host and viewer say to each other, the fields of each kind of message in wire order, and the
frame that carries it: the tag of its kind, then its fields.
-/
namespace ViewerBridge

inductive Message where
  | symbolsQuery
  | symbolsAnswer (symbols : List String)
  | availableSymbols (symbols : List String)
  | bufferContents (buffer : Buffer)
  | plotRequest (bufferName : String)
  deriving DecidableEq, Repr

namespace Message

def kind : Message → Kind
  | symbolsQuery => .symbolsQuery
  | symbolsAnswer _ => .symbolsAnswer
  | availableSymbols _ => .availableSymbols
  | bufferContents _ => .bufferContents
  | plotRequest _ => .plotRequest

def bufferFields (b : Buffer) : List Field :=
  [.ofText b.variableName, .ofText b.displayName, .ofText b.pixelLayout, ⟨.bool, b.transpose⟩,
    ⟨.i32, b.shape.width⟩, ⟨.i32, b.shape.height⟩, ⟨.i32, b.shape.channels⟩,
    ⟨.i32, b.shape.rowStride⟩, ⟨.element, b.shape.element⟩, .ofBytes b.payload]

def fields : Message → List Field
  | symbolsQuery => []
  | symbolsAnswer symbols | availableSymbols symbols => [.ofTexts symbols]
  | bufferContents buffer => bufferFields buffer
  | plotRequest bufferName => [.ofText bufferName]

def frame (m : Message) : List UInt8 := Field.encode .kind m.kind ++ Field.encodeAll m.fields

def readBuffer : Reader Buffer := do
  let variableName ← Field.readText
  let displayName ← Field.readText
  let pixelLayout ← Field.readText
  let transpose ← Field.read .bool
  let width ← Field.readInt
  let height ← Field.readInt
  let channels ← Field.readInt
  let rowStride ← Field.readInt
  let element ← Field.readElement
  let payload ← Field.readBytes
  return {
    variableName, displayName, pixelLayout, transpose, payload
    shape := { width, height, channels, rowStride, element } }

def readFields : Kind → Reader Message
  | .symbolsQuery => return symbolsQuery
  | .symbolsAnswer => do return symbolsAnswer (← Field.read (.list .text))
  | .availableSymbols => do return availableSymbols (← Field.read (.list .text))
  | .bufferContents => do return bufferContents (← readBuffer)
  | .plotRequest => do return plotRequest (← Field.readText)

def read : Reader Message := do readFields (← Field.readKind)

end Message
end ViewerBridge

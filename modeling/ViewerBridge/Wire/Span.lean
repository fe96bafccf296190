import ViewerBridge.Wire.Message
/-!
# The span of a frame

How many bytes a frame takes, found by passing over its fields without building them. Texts are not
looked into, so a frame whose text is not UTF-8 has a span too.
-/
namespace ViewerBridge.Span

def sized : Reader Nat := do
  let n ← Field.readLength
  return 8 + (← Reader.skip n)

def texts : Reader Nat := do
  let n ← Field.readLength
  Reader.skipOnto sized n 8

/-- Passes over the fields of a buffer; those of fixed size between the names and the element type
are passed in one piece. -/
def buffer : Reader Nat := do
  let names := (← sized) + (← sized) + (← sized)
  let fixed ← Reader.skip 17
  let _ ← Field.readElement
  return names + fixed + 4 + (← sized)

def fields : Kind → Reader Nat
  | .symbolsQuery => return 0
  | .symbolsAnswer | .availableSymbols => texts
  | .bufferContents => buffer
  | .plotRequest => sized

def frame : Reader Nat := do
  let kind ← Field.readKind
  return 4 + (← fields kind)

end ViewerBridge.Span

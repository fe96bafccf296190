import ViewerBridge.Boundary.Descriptor
import ViewerBridge.Bridge.Basic
import ViewerBridge.Options.Document
/-!
# Calls from the host

The functions that a host calls. A host holds bridges by handles; every function takes a null handle
and fails safely, and the text of the last failure is kept.
-/
namespace ViewerBridge

/-- A handle of a bridge; none stands for a null pointer. -/
abbrev Handle := Option Nat

abbrev Callback := Nat

structure Holding where
  situation : Situation
  /-- It is called with the name in each plot request. -/
  callback : Callback

/-- What stands behind the handles that were given out, and the last diagnostic. -/
structure Boundary where
  /-- What each handle stands for, until it is cleaned up. -/
  holdings : List (Option Holding) := []
  diagnostic : Option String := none

/-- A call from the host. What comes of making a runtime is given to the call that makes one, and what
the JSON library says of a faulty document to each that reads a document. -/
inductive Call where
  | create (callback : Option Callback) (options : ForeignText) (runtime : Except IoError Unit)
    (wording : Json.Wording)
  | start (h : Handle) (opening : Opening)
  | isWindowReady (h : Handle)
  | getObservedSymbols (h : Handle) (carrier : Carrier) (waits : List Inbound)
  | setAvailableSymbols (h : Handle) (symbols : ForeignText) (carrier : Carrier)
    (wording : Json.Wording)
  | plotBuffer (h : Handle) (buffer : Option ForeignBuffer) (carrier : Carrier)
  | cleanup (h : Handle)
  | lastError
  /-- A text that a call has given is released. -/
  | freeString (text : Option String)

inductive Answer where
  | handle (h : Handle)
  | flag (b : Bool)
  /-- A text, or a null pointer for none. -/
  | text (t : Option String)
  | done
  | count (n : Int32)
  deriving DecidableEq, Repr

namespace Boundary

def holding? (b : Boundary) (h : Handle) : Option Holding := h.bind fun n => b.holdings[n]?.join

def find? (b : Boundary) (h : Handle) : Option Situation := (b.holding? h).map Holding.situation

/-- Lets a handle stand for something else; nothing can be put behind a null handle. -/
def store (b : Boundary) (h : Handle) (held : Option Holding) : Boundary :=
  match h with
  | some n => { b with holdings := b.holdings.set n held }
  | none => b

def update (b : Boundary) (h : Handle) (f : Situation → Situation) : Boundary :=
  match b.holding? h with
  | none => b
  | some held => b.store h (some { held with situation := f held.situation })

def fail (b : Boundary) (entry : Entry) (e : CallError) : Boundary :=
  { b with diagnostic := some (e.diagnostic entry) }

def requiredCallback : Option Callback → Except CallError Callback
  | none => .error .nullCallback
  | some callback => .ok callback

/-- The options document; a missing text asks for the defaults. -/
def optionsDocument : ForeignText → Except CallError String
  | none => .ok ""
  | some bytes => ForeignText.required (some bytes) "options"

def setUp (callback : Option Callback) (options : ForeignText) (runtime : Except IoError Unit)
    (wording : Json.Wording) : Except CallError Holding := do
  let callback ← requiredCallback callback
  let document ← optionsDocument options
  let options ← (Options.ofDocument wording document).mapError .options
  let config ← options.toConfig.mapError .options
  runtime.mapError fun cause => .bridge (.setup cause)
  return { situation := .idle config, callback }

def create (b : Boundary) (callback : Option Callback) (options : ForeignText)
    (runtime : Except IoError Unit) (wording : Json.Wording) : Handle × Boundary :=
  match setUp callback options runtime wording with
  | .ok held => (some b.holdings.length, { b with holdings := b.holdings ++ [some held] })
  | .error e => (none, b.fail .create e)

/-- Applies an operation to the bridge behind a handle; on a null handle it fails and gives
`otherwise`. -/
def withBridge {α : Type} (b : Boundary) (entry : Entry) (h : Handle) (otherwise : α)
    (f : Situation → α × Situation) : α × Boundary :=
  match b.holding? h with
  | none => (otherwise, b.fail entry .nullHandle)
  | some held =>
    let (a, situation) := f held.situation
    (a, b.store h (some { held with situation }))

/-- Applies an operation that can fail, and keeps its diagnostic if it does. -/
def attempt (b : Boundary) (entry : Entry) (h : Handle)
    (f : Situation → Except CallError Unit × Situation) : Bool × Boundary :=
  match b.withBridge entry h none fun s => Prod.map some id (f s) with
  | (none, b) => (false, b)
  | (some (.ok ()), b) => (true, b)
  | (some (.error e), b) => (false, b.fail entry e)

def lift (toCall : BridgeError → CallError) (r : Except BridgeError Unit × Situation) :
    Except CallError Unit × Situation :=
  (r.1.mapError toCall, r.2)

def setSymbols (symbols : ForeignText) (carrier : Carrier) (wording : Json.Wording)
    (s : Situation) : Except CallError Unit × Situation :=
  match symbols.required "symbols" with
  | .error e => (.error e, s)
  | .ok document =>
    match Json.Scan.document wording Json.Scan.texts document with
    | .error cause => (.error (.symbols cause), s)
    | .ok symbols => lift .bridge (s.setAvailableSymbols symbols carrier)

def plot (buffer : Option ForeignBuffer) (carrier : Carrier) (s : Situation) :
    Except CallError Unit × Situation :=
  match buffer with
  | none => (.error .nullDescriptor, s)
  | some foreign =>
    match foreign.toBuffer with
    | .error e => (.error e, s)
    | .ok buffer => lift .bridge (s.plot buffer carrier)

/-- Gives a handle up, and with it its bridge and all that the bridge runs. -/
def cleanup (b : Boundary) (h : Handle) : Boundary := b.store h none

def answer (b : Boundary) : Call → Answer × Boundary
  | .create callback options runtime wording =>
    (b.create callback options runtime wording).map .handle id
  | .start h opening =>
    (b.attempt .start h fun s => lift .start (s.start opening)).map .flag id
  | .isWindowReady h => (b.withBridge .isWindowReady h false Situation.isReady).map .flag id
  | .getObservedSymbols h carrier waits =>
    (b.withBridge .getObservedSymbols h [] (·.observedSymbols carrier waits)).map
      (fun symbols => .text (Utf8.terminated? (Json.writeTexts symbols))) id
  | .setAvailableSymbols h symbols carrier wording =>
    (b.attempt .setAvailableSymbols h (setSymbols symbols carrier wording)).map .flag id
  | .plotBuffer h buffer carrier =>
    (b.attempt .plotBuffer h (plot buffer carrier)).map .flag id
  | .cleanup h => (.done, b.cleanup h)
  | .lastError => (.text b.diagnostic, b)
  | .freeString _ => (.done, b)

end Boundary
end ViewerBridge

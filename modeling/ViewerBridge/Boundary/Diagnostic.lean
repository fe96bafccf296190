import ViewerBridge.Bridge.Error
import ViewerBridge.Options.Basic
import ViewerBridge.Text.Utf8
/-!
# Diagnostics

Why a call from the host failed, and the text that is kept of it: the function that was called, then
what went wrong from the outside in.
-/
namespace ViewerBridge

inductive Entry where
  | create
  | start
  | isWindowReady
  | getObservedSymbols
  | setAvailableSymbols
  | runEventLoop
  | plotBuffer
  deriving DecidableEq, Repr

def Entry.name : Entry → String
  | create => "oid_initialize"
  | start => "oid_start"
  | isWindowReady => "oid_is_window_ready"
  | getObservedSymbols => "oid_get_observed_symbols"
  | setAvailableSymbols => "oid_set_available_symbols"
  | runEventLoop => "oid_run_event_loop"
  | plotBuffer => "oid_plot_buffer"

inductive CallError where
  | nullHandle
  | nullCallback
  | nullText (field : String)
  | invalidText (field : String) (fault : Utf8.Fault)
  | options (error : OptionsError)
  | symbols (cause : Json.Refusal)
  | nullDescriptor
  | unknownElement (variableName : String) (code : Int32)
  | nullPayload (variableName : String) (length : Nat)
  /-- The bridge could not start. -/
  | start (error : BridgeError)
  | bridge (error : BridgeError)
  deriving DecidableEq, Repr

namespace CallError

/-- What went wrong, from the outside in. -/
def layers : CallError → List String
  | nullHandle => ["handle is null"]
  | nullCallback => ["plot_callback is null"]
  | nullText field => [s!"{field} is null"]
  | invalidText field fault => [s!"{field} is not valid UTF-8", fault.message]
  | options (.unreadable cause) =>
    ["invalid bridge options", (OptionsError.unreadable cause).message, cause.text]
  | options error => ["invalid bridge options", error.message]
  | symbols cause => ["symbols must be a JSON array of strings", cause.text]
  | nullDescriptor => ["descriptor is null"]
  | unknownElement variableName code =>
    [s!"element_type of buffer {variableName}", (WireError.unknownElement code).message]
  | nullPayload variableName length =>
    [s!"payload of buffer {variableName} is null but payload_len is {length}"]
  | start error => [error.message]
  | bridge error => error.message :: (error.cause?.map IoError.text).toList

def chain (e : CallError) (entry : Entry) : String := ": ".intercalate (entry.name :: e.layers)

/-- The text with every zero character spelled out. -/
def spellZeros (text : String) : String :=
  String.ofList (text.toList.flatMap fun c => if c = '\x00' then ['\\', '0'] else [c])

def diagnostic (e : CallError) (entry : Entry) : String :=
  (Utf8.terminated? (spellZeros (e.chain entry))).getD ""

end CallError
end ViewerBridge

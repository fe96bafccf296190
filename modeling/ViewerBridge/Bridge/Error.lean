import ViewerBridge.Buffer.Basic
import ViewerBridge.Connection.Error
import ViewerBridge.Process.Basic
/-!
# States and errors of a bridge

How far a bridge has come, and why one of its operations failed.
-/
namespace ViewerBridge

inductive BridgeState where
  | uninitialized
  | starting
  | ready
  /-- It was stopped, or has lost its viewer; it does not start again. -/
  | terminated
  deriving DecidableEq, Repr

def BridgeState.all : List BridgeState := [.uninitialized, .starting, .ready, .terminated]

def BridgeState.name : BridgeState → String
  | uninitialized => "Uninitialized"
  | starting => "Starting"
  | ready => "Ready"
  | terminated => "Terminated"

inductive BridgeError where
  | setup (cause : IoError)
  | alreadyStarted
  | notReady (state : BridgeState)
  | viewerExited
  | spawn (error : SpawnError)
  | session (error : SessionError)
  | buffer (error : BufferError)
  deriving DecidableEq, Repr

namespace BridgeError

def message : BridgeError → String
  | setup cause => s!"failed to create bridge runtime: {cause.text}"
  | alreadyStarted => "bridge was already started"
  | notReady state => s!"bridge is not ready (state {state.name})"
  | viewerExited => "viewer process exited before connecting"
  | spawn error => error.message
  | session error => error.message
  | buffer error => error.message

def cause? : BridgeError → Option IoError
  | setup cause | spawn (.failed _ cause) => some cause
  | session error => error.cause?
  | _ => none

end BridgeError
end ViewerBridge

import ViewerBridge.Duration
import ViewerBridge.Launch.CommandLine
import ViewerBridge.Launch.Path
import ViewerBridge.Text.Quoted
/-!
# Configuration of a bridge

Where the viewer is found, how it looks, and how long the bridge waits for what.
-/
namespace ViewerBridge

structure Config where
  /-- The directory of the viewer; without one the system looks the viewer up. -/
  viewerDirectory : Option String := none
  viewerBinary : String := "oidwindow"
  style : String := "fusion"
  acceptTimeout : Duration := .ofSeconds 10
  requestTimeout : Duration := .ofSeconds 3
  eventLoopTimeout : Duration := .ofMilliseconds 200
  deriving DecidableEq, Repr

namespace Config

def executable (c : Config) : String :=
  match c.viewerDirectory with
  | some directory => Path.join directory c.viewerBinary
  | none => c.viewerBinary

def launch (c : Config) (port : UInt16) : Launch := ⟨c.executable, c.style, port⟩

def describe (c : Config) : String :=
  let directory :=
    match c.viewerDirectory with
    | some directory => "Some(" ++ Quoted.quote directory ++ ")"
    | none => "None"
  "OrchestratorConfig \x7b viewer_dir: " ++ directory
    ++ ", viewer_binary: " ++ Quoted.quote c.viewerBinary
    ++ ", style: " ++ Quoted.quote c.style
    ++ ", accept_timeout: " ++ c.acceptTimeout.render
    ++ ", request_timeout: " ++ c.requestTimeout.render
    ++ ", event_loop_timeout: " ++ c.eventLoopTimeout.render ++ ", .. \x7d"

end Config
end ViewerBridge

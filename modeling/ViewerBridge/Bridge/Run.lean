import ViewerBridge.Bridge.Basic
/-!
# Runs of a bridge

What can happen to a bridge, one thing after another: the operations of the host, each with what the
world does meanwhile, and between them what the viewer does by itself.
-/
namespace ViewerBridge

inductive BridgeEvent where
  | start (o : Opening)
  | stop
  | isReady
  | observedSymbols (carrier : Carrier) (waits : List Inbound)
  | setAvailableSymbols (symbols : List String) (carrier : Carrier)
  | plot (buffer : Buffer) (carrier : Carrier)
  | takePlotRequests (more : Inbound)
  | runEventLoop (more : Inbound)
  /-- The viewer sends something or closes its side. -/
  | arrives (more : Inbound)
  /-- A client tries to connect while no operation runs. The one connection that a session accepts
  is accepted within `start`, so nothing comes of it. -/
  | knocks
  | viewerExits
  /-- The system begins or ceases to answer when it is asked about the viewer's process. -/
  | polls (answered : Bool)

namespace Situation

def after (s : Situation) : BridgeEvent → Situation
  | .start o => (s.start o).2
  | .stop => s.stop
  | .isReady => s.isReady.2
  | .observedSymbols carrier waits => (s.observedSymbols carrier waits).2
  | .setAvailableSymbols symbols carrier => (s.setAvailableSymbols symbols carrier).2
  | .plot buffer carrier => (s.plot buffer carrier).2
  | .takePlotRequests more => (s.takePlotRequests more).2
  | .runEventLoop more => (s.runEventLoop more).2
  | .arrives more => s.arrives more
  | .knocks => s
  | .viewerExits => s.viewerExits
  | .polls answered => s.polls answered

def run (s : Situation) (events : List BridgeEvent) : Situation := events.foldl after s

@[simp] theorem run_nil (s : Situation) : s.run [] = s := rfl

@[simp] theorem run_cons (s : Situation) (e : BridgeEvent) (es : List BridgeEvent) :
    s.run (e :: es) = (s.after e).run es := rfl

end Situation
end ViewerBridge

import ViewerBridge.Boundary.Basic
/-!
# Event loops

An event loop takes the plot requests that have arrived and passes each name to the host's callback.
The callback may call back into the library, run further event loops and give the handle up; what it
does is a script, which decides each step by the answers to those before. The requests of a loop and
the callback are taken before the callback runs for the first time, so the loop needs the handle no
more.
-/
namespace ViewerBridge

/-- What happens to a viewer while code of the host runs. -/
inductive ViewerAct where
  | arrives (more : Inbound)
  | exits
  /-- The system begins or ceases to answer when it is asked about the viewer's process. -/
  | polls (answered : Bool)

def Situation.viewerActs (s : Situation) : ViewerAct → Situation
  | .arrives more => s.arrives more
  | .exits => s.viewerExits
  | .polls answered => s.polls answered

/-- What code of the host does. -/
inductive Script where
  /-- It returns a status. -/
  | finish (status : Int32)
  | call (c : Call) (next : Answer → Script)
  /-- It runs an event loop, whose requests, by number and name, are handled by `onRequest`. -/
  | eventLoop (h : Handle) (more : Inbound) (onRequest : Nat → String → Script)
    (next : Answer → Script)
  /-- Meanwhile the viewer behind a handle does something. -/
  | meanwhile (h : Handle) (act : ViewerAct) (next : Script)

inductive Event where
  | call (c : Call)
  | runEventLoop (h : Handle) (more : Inbound)
  | viewer (h : Handle) (act : ViewerAct)

/-- Something that has happened, and its answer if it was a call. -/
structure Occurrence where
  before : Boundary
  event : Event
  answer : Answer

structure Ran where
  status : Int32
  /-- All that has happened, one thing after another; what callbacks do comes after the event loop
  that runs them. -/
  log : List Occurrence
  boundary : Boundary

structure Invocation where
  callback : Callback
  name : String
  status : Int32
  log : List Occurrence

structure LoopRun where
  count : Int32
  invocations : List Invocation
  boundary : Boundary

namespace Boundary

/-- Takes the requests for an event loop, and the callback for them; there are none on a null
handle. -/
def takeRequests (b : Boundary) (h : Handle) (more : Inbound) :
    Option (Callback × List String) × Boundary :=
  match b.holding? h with
  | none => (none, b.fail .runEventLoop .nullHandle)
  | some held =>
    let (requests, situation) := held.situation.takePlotRequests more
    (some (held.callback, requests), b.store h (some { held with situation }))

def countOf (requests : List String) : Int32 := Int32.ofNat (min requests.length 2147483647)

/-- A name that can be passed to the callback, which sees its end at a zero. -/
def isPassable (name : String) : Bool := (Utf8.terminated? name).isSome

/-- The names that are passed to the callback, each with its place among the requests. -/
def passed (requests : List String) : List (String × Nat) :=
  requests.zipIdx.filter fun request => isPassable request.1

def dispatch (run : Nat → String → Boundary → Ran) (callback : Callback) :
    List (String × Nat) → Boundary → List Invocation × Boundary
  | [], b => ([], b)
  | (name, place) :: requests, b =>
    let ran := run place name b
    let (invocations, b) := dispatch run callback requests ran.boundary
    (⟨callback, name, ran.status, ran.log⟩ :: invocations, b)

/-- Runs an event loop whose callback does what `run` says. -/
def loop (b : Boundary) (h : Handle) (more : Inbound) (run : Nat → String → Boundary → Ran) :
    LoopRun :=
  match b.takeRequests h more with
  | (none, b) => ⟨0, [], b⟩
  | (some (callback, requests), b) =>
    let (invocations, b) := dispatch run callback (passed requests) b
    ⟨countOf requests, invocations, b⟩

end Boundary

namespace Script

def run : Script → Boundary → Ran
  | finish status, b => ⟨status, [], b⟩
  | call c next, b =>
    let (a, after) := b.answer c
    let ran := (next a).run after
    { ran with log := ⟨b, .call c, a⟩ :: ran.log }
  | eventLoop h more onRequest next, b =>
    let looped := b.loop h more fun place name b => (onRequest place name).run b
    let a := Answer.count looped.count
    let ran := (next a).run looped.boundary
    { ran with
      log := ⟨b, .runEventLoop h more, a⟩ ::
        (looped.invocations.flatMap Invocation.log ++ ran.log) }
  | meanwhile h act next, b =>
    let ran := next.run (b.update h (·.viewerActs act))
    { ran with log := ⟨b, .viewer h act, .done⟩ :: ran.log }

end Script

def Boundary.runEventLoop (b : Boundary) (h : Handle) (more : Inbound)
    (onRequest : Nat → String → Script) : LoopRun :=
  b.loop h more fun place name => (onRequest place name).run

theorem Script.run_eventLoop (h : Handle) (more : Inbound) (onRequest : Nat → String → Script)
    (next : Answer → Script) (b : Boundary) :
    (eventLoop h more onRequest next).run b =
      let looped := b.runEventLoop h more onRequest
      let ran := (next (.count looped.count)).run looped.boundary
      { ran with
        log := ⟨b, .runEventLoop h more, .count looped.count⟩ ::
          (looped.invocations.flatMap Invocation.log ++ ran.log) } := rfl

end ViewerBridge

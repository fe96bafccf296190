import ViewerBridge.Proofs.Wire.Stream
/-!
# Composing frame after frame

One composer serves for any number of frames. Whatever is pushed and finished in whatever order, the
output grows by one frame at each finish, and the frame holds the fields that were pushed since the
one before and nothing else.
-/
namespace ViewerBridge

inductive ComposerCall where
  | push (f : Field)
  | pushText (s : String)
  | pushBytes (bs : List UInt8)
  | pushMessage (m : Message)
  | finish (kind : Kind)

namespace ComposerCall

def pushed : ComposerCall → List Field
  | push f => [f]
  | pushText s => [⟨.text, s⟩]
  | pushBytes bs => [⟨.bytes, bs⟩]
  | pushMessage m => m.fields
  | finish _ => []

def finishes : ComposerCall → Bool
  | finish _ => true
  | _ => false

/-- The frames that are finished by the calls, each with its kind and the fields that were pushed
since the one before it; `fields` were pushed ahead of the calls. -/
def frames (fields : List Field) : List ComposerCall → List (Kind × List Field)
  | [] => []
  | finish kind :: calls => (kind, fields) :: frames [] calls
  | call :: calls => frames (fields ++ call.pushed) calls

end ComposerCall

theorem Field.encodeAll_append (fs gs : List Field) :
    encodeAll (fs ++ gs) = encodeAll fs ++ encodeAll gs := List.flatMap_append

namespace Composer
open ComposerCall (frames)

def after (state : Composer × List UInt8) : ComposerCall → Composer × List UInt8
  | .push f => (state.1.push f, state.2)
  | .pushText s => (state.1.pushText s, state.2)
  | .pushBytes bs => (state.1.pushBytes bs, state.2)
  | .pushMessage m => (state.1.pushMessage m, state.2)
  | .finish kind => state.1.finish kind state.2

def run (state : Composer × List UInt8) (calls : List ComposerCall) : Composer × List UInt8 :=
  calls.foldl after state

/-- Messages that one composer encodes, one after another, behind what was written before. -/
def encodeMessages (ms : List Message) (output : List UInt8) : Composer × List UInt8 :=
  ms.foldl (fun (c, output) m => c.encode m output) ({}, output)

theorem run_append (state : Composer × List UInt8) (calls more : List ComposerCall) :
    run state (calls ++ more) = run (run state calls) more := List.foldl_append

theorem after_of_push {call : ComposerCall} (h : call.finishes = false) (c : Composer)
    (output : List UInt8) :
    after (c, output) call = (⟨c.body ++ Field.encodeAll call.pushed⟩, output) := by
  cases call with
  | push f => simp [after, push, ComposerCall.pushed, Field.encodeAll]
  | pushText s => simp [after, pushText, push, ComposerCall.pushed, Field.encodeAll, Field.ofText]
  | pushBytes bs =>
    simp [after, pushBytes, push, ComposerCall.pushed, Field.encodeAll, Field.ofBytes]
  | pushMessage m => simp [after, pushMessage, foldl_push, ComposerCall.pushed]
  | finish kind => cases h

theorem frames_of_push {call : ComposerCall} (h : call.finishes = false) (fields : List Field)
    (calls : List ComposerCall) :
    frames fields (call :: calls) = frames (fields ++ call.pushed) calls := by
  cases call with
  | finish kind => cases h
  | push _ | pushText _ | pushBytes _ | pushMessage _ => rfl

theorem run_output (fields : List Field) (output : List UInt8) (calls : List ComposerCall) :
    (run (⟨Field.encodeAll fields⟩, output) calls).2 =
      output ++ (frames fields calls).flatMap fun (kind, fields) =>
        Field.encode .kind kind ++ Field.encodeAll fields := by
  induction calls generalizing fields output with
  | nil => simp [run, frames]
  | cons call calls ih =>
    cases call with
    | finish kind =>
      have hbody : ([] : List UInt8) = Field.encodeAll [] := rfl
      rw [run, List.foldl_cons, after, finish, hbody, ← run, ih]
      simp [frames]
    | push _ | pushText _ | pushBytes _ | pushMessage _ =>
      rw [run, List.foldl_cons, after_of_push rfl, ← Field.encodeAll_append, ← run, ih,
        frames_of_push rfl]

theorem output_prefix_after (state : Composer × List UInt8) (call : ComposerCall) :
    state.2 <+: (after state call).2 := by
  cases call with
  | finish kind => simp [after, finish]
  | push _ | pushText _ | pushBytes _ | pushMessage _ => exact List.prefix_rfl

theorem output_prefix_run (state : Composer × List UInt8) (calls : List ComposerCall) :
    state.2 <+: (run state calls).2 := by
  induction calls generalizing state with
  | nil => exact List.prefix_rfl
  | cons call calls ih => exact (output_prefix_after state call).trans (ih _)

theorem output_run_of_pushes {calls : List ComposerCall} (h : ∀ call ∈ calls, call.finishes = false)
    (state : Composer × List UInt8) : (run state calls).2 = state.2 := by
  induction calls generalizing state with
  | nil => rfl
  | cons call calls ih =>
    rw [List.forall_mem_cons] at h
    rw [run, List.foldl_cons, ← run, ih h.2, after_of_push h.1]

theorem encodeMessages_eq (ms : List Message) (output : List UInt8) :
    encodeMessages ms output = ({}, output ++ ms.flatMap Message.frame) := by
  have hitems := StreamItem.foldl_write (ms.map .message) output
  rw [List.foldl_map, List.flatMap_map] at hitems
  exact hitems

/-- Whatever is called on a new composer, the output is what it was with one frame for each finish
behind it, of the kind that was finished and the fields pushed since the finish before. No call
changes what is written, and pushes write nothing. So messages that are encoded one after another
give the frames that each of them gives alone. -/
theorem run_frames (output : List UInt8) (calls : List ComposerCall) :
    let state := run ({}, output) calls
    state.2 = output ++ (frames [] calls).flatMap (fun (kind, fields) =>
        Field.encode .kind kind ++ Field.encodeAll fields) ∧
      (∀ more, state.2 <+: (run ({}, output) (calls ++ more)).2) ∧
      (∀ pushes : List ComposerCall, (∀ call ∈ pushes, call.finishes = false) →
        (run ({}, output) (calls ++ pushes)).2 = state.2) ∧
      ∀ ms, (encodeMessages ms output).2 = output ++ ms.flatMap fun m => (encode {} m []).2 := by
  intro state
  refine ⟨run_output [] output calls, fun more => ?_, fun pushes hpushes => ?_, fun ms => ?_⟩
  · rw [run_append]
    exact output_prefix_run state more
  · rw [run_append]
    exact output_run_of_pushes hpushes state
  · simp [encodeMessages_eq, encode_empty]

/-- An empty frame between two others, and a push that is never finished. -/
theorem run_frames_three :
    let calls : List ComposerCall := [.pushText "a", .finish .plotRequest, .finish .symbolsQuery,
      .push ⟨.list .text, ["b"]⟩, .finish .availableSymbols]
    let pushes : List ComposerCall := [.pushBytes [7]]
    (∀ call ∈ pushes, call.finishes = false) ∧
      (run ({}, [9]) (calls ++ pushes)).2 = [9] ++ (Message.plotRequest "a").frame ++
        Message.symbolsQuery.frame ++ (Message.availableSymbols ["b"]).frame := by
  intro calls pushes
  have hpushes : ∀ call ∈ pushes, call.finishes = false := by decide
  obtain ⟨hframes, -, hkept, -⟩ := run_frames [9] calls
  exact ⟨hpushes, (hkept pushes hpushes).trans (hframes.trans (by decide))⟩

end Composer
end ViewerBridge

import Mathlib.Data.List.Induction
import Mathlib.Data.List.Nodup
import ViewerBridge.Pending
/-!
# What waits after any history of calls

A call on the messages that wait is answered from the calls before it: of each kind the message that
was inserted last is there, unless the kind was taken or everything was dropped after that.
-/
namespace ViewerBridge

inductive PendingCall where
  | insert (m : Message)
  | take (kind : Kind)
  | contains (kind : Kind)
  | clear
  deriving DecidableEq, Repr

inductive PendingAnswer where
  /-- The message that was replaced or taken. -/
  | message (m : Option Message)
  | contained (answer : Bool)
  | cleared
  deriving DecidableEq, Repr

namespace PendingCall

def inserted? (kind : Kind) : PendingCall → Option Message
  | insert m => if m.kind = kind then some m else none
  | _ => none

def drops (kind : Kind) : PendingCall → Bool
  | take other => other = kind
  | clear => true
  | _ => false

/-- The message of a kind that was inserted last since the kind was last taken or dropped. -/
def latest (kind : Kind) (history : List PendingCall) : Option Message :=
  (history.reverse.takeWhile (!·.drops kind)).findSome? (·.inserted? kind)

def answer (history : List PendingCall) : PendingCall → PendingAnswer
  | insert m => .message (latest m.kind history)
  | take kind => .message (latest kind history)
  | contains kind => .contained (latest kind history).isSome
  | clear => .cleared

theorem latest_concat (kind : Kind) (history : List PendingCall) (call : PendingCall) :
    latest kind (history ++ [call]) =
      if call.drops kind then none else (call.inserted? kind).or (latest kind history) := by
  unfold latest
  rw [List.reverse_concat, List.takeWhile_cons]
  cases call.drops kind with
  | true => rfl
  | false =>
    cases hm : call.inserted? kind with
    | none => simp [hm]
    | some m => simp [hm]

end PendingCall

namespace Pending
open PendingCall (latest)

def call (p : Pending) : PendingCall → PendingAnswer × Pending
  | .insert m => (p.replace m).map .message id
  | .take kind => (p.take kind).map .message id
  | .contains kind => (.contained (p.contains kind), p)
  | .clear => (.cleared, empty)

def run (p : Pending) (calls : List PendingCall) : Pending :=
  calls.foldl (fun p c => (p.call c).2) p

def answers (p : Pending) : List PendingCall → List PendingAnswer
  | [] => []
  | c :: calls => (p.call c).1 :: (p.call c).2.answers calls

theorem find?_call (p : Pending) (c : PendingCall) (kind : Kind) :
    (p.call c).2.find? kind =
      if c.drops kind then none else (c.inserted? kind).or (p.find? kind) := by
  cases c with
  | insert m =>
    rw [call, replace, Prod.map_snd, id, find?_insert]
    by_cases h : m.kind = kind
    · simp [h, PendingCall.drops, PendingCall.inserted?]
    · simp [h, Ne.symm h, PendingCall.drops, PendingCall.inserted?]
  | take other =>
    rw [call, take, Prod.map_snd, id, find?_erase]
    by_cases h : other = kind
    · simp [h, PendingCall.drops]
    · simp [h, Ne.symm h, PendingCall.drops, PendingCall.inserted?]
  | contains other => simp [call, PendingCall.drops, PendingCall.inserted?]
  | clear => simp [call, PendingCall.drops]

theorem find?_run (history : List PendingCall) (kind : Kind) :
    (empty.run history).find? kind = latest kind history := by
  induction history using List.reverseRecOn with
  | nil => rfl
  | append_singleton history c ih =>
    rw [PendingCall.latest_concat, ← ih, ← find?_call, run, List.foldl_concat, run]

theorem call_run (history : List PendingCall) (c : PendingCall) :
    ((empty.run history).call c).1 = c.answer history := by
  cases c with
  | insert m => simp [call, replace, PendingCall.answer, find?_run]
  | take kind => simp [call, take, PendingCall.answer, find?_run]
  | contains kind => simp [call, contains, PendingCall.answer, find?_run]
  | clear => rfl

theorem getElem?_answers (p : Pending) (calls : List PendingCall) (i : Nat) :
    (p.answers calls)[i]? = calls[i]?.map fun c => ((p.run (calls.take i)).call c).1 := by
  induction calls generalizing p i with
  | nil => simp [answers]
  | cons c calls ih =>
    cases i with
    | zero => simp [answers, run]
    | succ i => simp [answers, ih, run]

theorem find?_eq_some_iff {p : Pending} {kind : Kind} {m : Message} :
    p.find? kind = some m ↔ m ∈ p.messages ∧ m.kind = kind := by
  constructor
  · exact fun h => ⟨List.mem_of_find?_eq_some h, kind_of_find? h⟩
  · rintro ⟨hm, rfl⟩
    obtain ⟨n, hn⟩ : ∃ n, p.find? m.kind = some n := by
      rw [← Option.isSome_iff_exists, find?, List.find?_isSome]
      exact ⟨m, hm, by simp⟩
    rw [hn, List.inj_on_of_nodup_map p.distinct (List.mem_of_find?_eq_some hn) hm (kind_of_find? hn)]

theorem size_eq (p : Pending) : p.size = p.kinds.length := by
  have hall : Kind.all.Nodup := by decide
  have hmem : ∀ kind, kind ∈ p.messages.map Message.kind ↔ kind ∈ p.kinds := by
    intro kind
    simp [kinds, contains, Kind.mem_all, Option.isSome_iff_exists, find?_eq_some_iff]
  have hperm := (List.perm_ext_iff_of_nodup p.distinct (hall.filter _)).mpr hmem
  rw [size, ← List.length_map Message.kind, hperm.length_eq, kinds]

/-- Whatever was called before, an insertion gives and replaces, and a taking gives and removes, the
message of the kind that was inserted last since the kind was taken or everything was dropped. There
are as many messages as kinds that have one, each is found under its own kind, and what is done to
one kind leaves the others alone. -/
theorem run_history (history : List PendingCall) :
    let p := empty.run history
    (∀ i : Nat, (empty.answers history)[i]? =
        history[i]?.map (·.answer (history.take i))) ∧
      (∀ kind, p.find? kind = latest kind history) ∧
      (∀ kind, (p.take kind).1 = latest kind history ∧ (p.take kind).2.find? kind = none) ∧
      p.size = (Kind.all.filter fun kind => (latest kind history).isSome).length ∧
      (p.isEmpty = true ↔ p.size = 0) ∧
      (∀ kind m, p.find? kind = some m ↔ m ∈ p.messages ∧ m.kind = kind) ∧
      ∀ c kind, c.drops kind = false → c.inserted? kind = none →
        (p.call c).2.find? kind = p.find? kind := by
  intro p
  have hfind : ∀ kind, p.find? kind = latest kind history := find?_run history
  have hcontains : p.contains = fun kind => (latest kind history).isSome := by
    funext kind
    rw [contains, hfind]
  refine ⟨fun i => ?_, hfind, fun kind => ⟨hfind kind, ?_⟩, ?_, ?_, fun _ _ => find?_eq_some_iff, ?_⟩
  · simp only [getElem?_answers, call_run]
  · rw [take, find?_erase, if_pos rfl]
  · rw [size_eq, kinds, hcontains]
  · simp [isEmpty, size]
  · intro c kind hdrops hinserted
    simp [find?_call, hdrops, hinserted]

/-- A plot request that takes the place of another and stays while a query is taken. -/
theorem run_history_replaced :
    let history : List PendingCall := [.insert (.plotRequest "a"), .insert .symbolsQuery,
      .insert (.plotRequest "b"), .contains .symbolsQuery]
    let taking : PendingCall := .take .symbolsQuery
    (empty.answers history)[2]? = some (.message (some (.plotRequest "a"))) ∧
      taking.drops .plotRequest = false ∧ taking.inserted? .plotRequest = none ∧
      ((empty.run history).call taking).2.find? .plotRequest = some (.plotRequest "b") := by
  intro history taking
  obtain ⟨hanswers, hfind, -, -, -, -, hother⟩ := run_history history
  have hlatest : latest .plotRequest history = some (.plotRequest "b") := by decide
  refine ⟨(hanswers 2).trans (by decide), by decide, by decide, ?_⟩
  rw [hother taking .plotRequest (by decide) (by decide), hfind, hlatest]

end Pending
end ViewerBridge

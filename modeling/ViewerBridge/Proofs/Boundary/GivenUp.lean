import ViewerBridge.Proofs.Boundary.Occurrences
/-!
# Handles that were given up

Once a handle is given up, code that follows the contract neither reads nor changes what stands
behind it: whatever is put there, the same happens, and it is still there at the end.
-/
namespace ViewerBridge

def Occurrence.stored (n : Nat) (x : Option Holding) (o : Occurrence) : Occurrence :=
  { o with before := o.before.store (some n) x }

def Ran.stored (n : Nat) (x : Option Holding) (r : Ran) : Ran :=
  ⟨r.status, r.log.map (·.stored n x), r.boundary.store (some n) x⟩

def Invocation.stored (n : Nat) (x : Option Holding) (i : Invocation) : Invocation :=
  { i with log := i.log.map (·.stored n x) }

def LoopRun.stored (n : Nat) (x : Option Holding) (l : LoopRun) : LoopRun :=
  ⟨l.count, l.invocations.map (·.stored n x), l.boundary.store (some n) x⟩

theorem Occurrence.Permitted.handle_ne {o : Occurrence} {n : Nat} (hp : o.Permitted)
    (hn : o.before.GivenUp n) : o.event.handle ≠ some n := by
  intro hh
  rcases hp with hp | hp
  · rw [hh] at hp
    cases hp
  · rw [hh, hn.2] at hp
    cases hp

namespace Boundary

variable {b : Boundary} {n : Nat} {h : Handle}

theorem holding?_store_ne (hh : h ≠ some n) (x : Option Holding) :
    (b.store (some n) x).holding? h = b.holding? h := by
  rcases h with _ | m
  · rfl
  · rw [holding?_store, if_neg]
    rintro ⟨rfl, -⟩
    exact hh rfl

theorem store_comm (hh : h ≠ some n) (x y : Option Holding) :
    (b.store (some n) x).store h y = (b.store h y).store (some n) x := by
  rcases h with _ | m
  · rfl
  · have hm : n ≠ m := by
      rintro rfl
      exact hh rfl
    simp [store, List.set_comm _ _ hm]

theorem withBridge_store {α : Type} (hh : h ≠ some n) (x : Option Holding)
    (entry : Entry) (otherwise : α) (f : Situation → α × Situation) :
    (b.store (some n) x).withBridge entry h otherwise f =
      ((b.withBridge entry h otherwise f).1, (b.withBridge entry h otherwise f).2.store (some n) x) := by
  unfold withBridge
  rw [holding?_store_ne hh]
  rcases b.holding? h with _ | held
  · rfl
  · simp [store_comm hh]

theorem attempt_store (hh : h ≠ some n) (x : Option Holding) (entry : Entry)
    (f : Situation → Except CallError Unit × Situation) :
    (b.store (some n) x).attempt entry h f =
      ((b.attempt entry h f).1, (b.attempt entry h f).2.store (some n) x) := by
  unfold attempt
  rw [withBridge_store hh]
  rcases b.withBridge entry h none fun s => Prod.map some id (f s) with ⟨_ | e | _, c⟩ <;> rfl

theorem create_store (hn : n < b.holdings.length) (x : Option Holding)
    (callback : Option Callback) (options : ForeignText) (runtime : Except IoError Unit)
    (wording : Json.Wording) :
    (b.store (some n) x).create callback options runtime wording =
      ((b.create callback options runtime wording).1,
        (b.create callback options runtime wording).2.store (some n) x) := by
  unfold create
  cases setUp callback options runtime wording with
  | error e => rfl
  | ok held => simp [store, List.set_append_left, hn]

theorem answer_store (hn : n < b.holdings.length) (x : Option Holding) {c : Call}
    (hc : (Event.call c).handle ≠ some n) :
    (b.store (some n) x).answer c = ((b.answer c).1, (b.answer c).2.store (some n) x) := by
  cases c with
  | create callback options runtime wording =>
    exact congrArg (Prod.map Answer.handle id) (create_store hn x callback options runtime wording)
  | start h opening => exact congrArg (Prod.map Answer.flag id) (attempt_store hc x .start _)
  | isWindowReady h =>
    exact congrArg (Prod.map Answer.flag id)
      (withBridge_store hc x .isWindowReady false Situation.isReady)
  | getObservedSymbols h carrier waits =>
    exact congrArg (Prod.map (fun symbols => Answer.text (Utf8.terminated? (Json.writeTexts symbols))) id)
      (withBridge_store hc x .getObservedSymbols [] (·.observedSymbols carrier waits))
  | setAvailableSymbols h symbols carrier wording =>
    exact congrArg (Prod.map Answer.flag id) (attempt_store hc x .setAvailableSymbols _)
  | plotBuffer h buffer carrier =>
    exact congrArg (Prod.map Answer.flag id) (attempt_store hc x .plotBuffer _)
  | cleanup h => exact congrArg (Prod.mk Answer.done) (store_comm hc x none)
  | lastError => rfl
  | freeString text => rfl

theorem takeRequests_store (hh : h ≠ some n) (x : Option Holding) (more : Inbound) :
    (b.store (some n) x).takeRequests h more =
      ((b.takeRequests h more).1, (b.takeRequests h more).2.store (some n) x) := by
  unfold takeRequests
  rw [holding?_store_ne hh]
  rcases b.holding? h with _ | held
  · rfl
  · simp [store_comm hh]

theorem update_store (hh : h ≠ some n) (x : Option Holding) (f : Situation → Situation) :
    (b.store (some n) x).update h f = (b.update h f).store (some n) x := by
  unfold update
  rw [holding?_store_ne hh]
  rcases b.holding? h with _ | held
  · rfl
  · simp [store_comm hh]

/-- A callback that does the same whatever stands behind a handle that was given up. -/
def Spares (run : Boundary → Ran) (n : Nat) : Prop :=
  ∀ b : Boundary, b.GivenUp n → (∀ o ∈ (run b).log, o.Permitted) →
    ∀ x, run (b.store (some n) x) = (run b).stored n x

theorem dispatch_store {run : Nat → String → Boundary → Ran}
    (hruns : ∀ place name b, Runs b (run place name b).log (run place name b).boundary)
    (hspares : ∀ place name, Spares (run place name) n) (hb : b.GivenUp n) (callback : Callback)
    (requests : List (String × Nat))
    (hp : ∀ i ∈ (dispatch run callback requests b).1, ∀ o ∈ i.log, o.Permitted)
    (x : Option Holding) :
    dispatch run callback requests (b.store (some n) x) =
      ((dispatch run callback requests b).1.map (·.stored n x),
        (dispatch run callback requests b).2.store (some n) x) := by
  induction requests generalizing b with
  | nil => rfl
  | cons request requests ih =>
    obtain ⟨name, place⟩ := request
    simp only [dispatch, List.mem_cons, forall_eq_or_imp] at hp
    have hfirst := hspares place name b hb hp.1 x
    have hleft := ih ((hruns place name b).evolves.givenUp hb) hp.2
    simp only [dispatch, hfirst, Ran.stored, hleft]
    rfl

theorem loop_store {run : Nat → String → Boundary → Ran}
    (hruns : ∀ place name b, Runs b (run place name b).log (run place name b).boundary)
    (hspares : ∀ place name, Spares (run place name) n) (hb : b.GivenUp n) (hh : h ≠ some n)
    (more : Inbound)
    (hp : ∀ o ∈ (b.loop h more run).invocations.flatMap Invocation.log, o.Permitted)
    (x : Option Holding) :
    (b.store (some n) x).loop h more run = (b.loop h more run).stored n x := by
  have hafter := (evolves_after b (.runEventLoop h more)).givenUp hb
  rw [after] at hafter
  unfold loop at hp ⊢
  rw [takeRequests_store hh]
  generalize b.takeRequests h more = taken at hp hafter ⊢
  rcases taken with ⟨_ | ⟨callback, requests⟩, c⟩
  · rfl
  · have hp' : ∀ i ∈ (dispatch run callback (passed requests) c).1, ∀ o ∈ i.log, o.Permitted :=
      fun i hi o ho => hp o (List.mem_flatMap.mpr ⟨i, hi, ho⟩)
    simp only [dispatch_store hruns hspares hafter callback (passed requests) hp' x]
    rfl

end Boundary

open Boundary

theorem Script.spares (script : Script) (n : Nat) : Spares script.run n := by
  intro b hb hp x
  induction script generalizing b x with
  | finish status => rfl
  | call c next ih =>
    simp only [Script.run, List.mem_cons, forall_eq_or_imp] at hp
    have hne := hp.1.handle_ne hb
    have hrest := ih _ _ ((evolves_answer b c).givenUp hb) hp.2
    simp only [Script.run, answer_store hb.1 x hne, hrest]
    rfl
  | meanwhile h act next ih =>
    simp only [Script.run, List.mem_cons, forall_eq_or_imp] at hp
    have hne : h ≠ some n := hp.1.handle_ne hb
    have hrest := ih _ ((evolves_after b (.viewer h act)).givenUp hb) hp.2
    simp only [after] at hrest
    simp only [Script.run, update_store hne, hrest]
    rfl
  | eventLoop h more onRequest next ihRequest ih =>
    have hruns : ∀ place name b, Runs b ((onRequest place name).run b).log
        ((onRequest place name).run b).boundary := fun place name => (onRequest place name).runs
    have hspares : ∀ place name, Spares (onRequest place name).run n :=
      fun place name b hb hp x => ihRequest place name b hb hp x
    simp only [run_eventLoop, List.mem_cons, forall_eq_or_imp, List.mem_append] at hp
    obtain ⟨hfirst, hlater⟩ := hp
    have hne : h ≠ some n := hfirst.handle_ne hb
    have hleft : (b.runEventLoop h more onRequest).boundary.GivenUp n :=
      (loop_runs hruns b h more).evolves.givenUp hb
    have hloop : (b.store (some n) x).runEventLoop h more onRequest =
        (b.runEventLoop h more onRequest).stored n x :=
      loop_store hruns hspares hb hne more (fun o ho => hlater o (.inl ho)) x
    have hrest := ih _ _ hleft (fun o ho => hlater o (.inr ho)) x
    simp only [run_eventLoop, hloop, LoopRun.stored, hrest]
    simp [Ran.stored, Occurrence.stored, Invocation.stored, List.flatMap_map, List.map_flatMap]

end ViewerBridge

import ViewerBridge.Boundary.EventLoop
import ViewerBridge.Bridge.Run
/-!
# What happens at the boundary

Whatever the code of the host does, at the boundary one event comes after another, those of callbacks
and of the event loops within them included. So what each event keeps is kept by every script: a
handle stands for one bridge, which does what bridges do, until it is given up for good.
-/
namespace ViewerBridge

namespace Boundary

/-- The boundary after an event; after an event loop, before its callback runs. -/
def after (b : Boundary) : Event → Boundary
  | .call c => (b.answer c).2
  | .runEventLoop h more => (b.takeRequests h more).2
  | .viewer h act => b.update h (·.viewerActs act)

def reply (b : Boundary) : Event → Answer
  | .call c => (b.answer c).1
  | .runEventLoop h more =>
    match (b.takeRequests h more).1 with
    | none => .count 0
    | some (_, requests) => .count (countOf requests)
  | .viewer .. => .done

inductive Runs : Boundary → List Occurrence → Boundary → Prop where
  | nil (b : Boundary) : Runs b [] b
  | cons {b e log c} (rest : Runs (b.after e) log c) : Runs b (⟨b, e, b.reply e⟩ :: log) c

theorem Runs.append {b c d : Boundary} {log more : List Occurrence} (h : Runs b log c)
    (h' : Runs c more d) : Runs b (log ++ more) d := by
  induction h with
  | nil => exact h'
  | cons rest ih => exact .cons (ih h')

theorem Runs.split {b c : Boundary} {front back : List Occurrence} {o : Occurrence}
    (h : Runs b (front ++ o :: back) c) : Runs b front o.before ∧
      o.answer = o.before.reply o.event ∧ Runs (o.before.after o.event) back c := by
  induction front generalizing b with
  | nil =>
    cases h with
    | cons rest => exact ⟨.nil b, rfl, rest⟩
  | cons first front ih =>
    cases h with
    | cons rest =>
      obtain ⟨hfront, hanswer, hback⟩ := ih rest
      exact ⟨.cons hfront, hanswer, hback⟩

theorem dispatch_runs {run : Nat → String → Boundary → Ran}
    (h : ∀ place name b, Runs b (run place name b).log (run place name b).boundary)
    (callback : Callback) (requests : List (String × Nat)) (b : Boundary) :
    Runs b ((dispatch run callback requests b).1.flatMap Invocation.log)
      (dispatch run callback requests b).2 := by
  induction requests generalizing b with
  | nil => exact .nil b
  | cons request requests ih => exact (h request.2 request.1 b).append (ih _)

theorem loop_runs {run : Nat → String → Boundary → Ran}
    (h : ∀ place name b, Runs b (run place name b).log (run place name b).boundary)
    (b : Boundary) (handle : Handle) (more : Inbound) :
    Runs b (⟨b, .runEventLoop handle more, .count (b.loop handle more run).count⟩ ::
        (b.loop handle more run).invocations.flatMap Invocation.log)
      (b.loop handle more run).boundary := by
  have hreply : b.reply (.runEventLoop handle more) = .count (b.loop handle more run).count := by
    rw [reply, loop]
    rcases b.takeRequests handle more with ⟨_ | ⟨callback, requests⟩, c⟩ <;> rfl
  rw [← hreply]
  refine .cons ?_
  rw [loop, after]
  rcases b.takeRequests handle more with ⟨_ | ⟨callback, requests⟩, c⟩
  · exact .nil c
  · exact dispatch_runs h callback (passed requests) c

end Boundary

def Event.handle : Event → Handle
  | .call (.start h _) | .call (.isWindowReady h) | .call (.getObservedSymbols h _ _)
  | .call (.setAvailableSymbols h ..) | .call (.plotBuffer h _ _) | .call (.cleanup h)
  | .runEventLoop h _ | .viewer h _ => h
  | .call (.create ..) | .call .lastError | .call (.freeString _) => none

def Occurrence.Permitted (o : Occurrence) : Prop :=
  o.event.handle = none ∨ (o.before.holding? o.event.handle).isSome = true

instance (o : Occurrence) : Decidable o.Permitted :=
  inferInstanceAs (Decidable (_ ∨ _))

theorem Script.runs (script : Script) (b : Boundary) :
    b.Runs (script.run b).log (script.run b).boundary := by
  induction script generalizing b with
  | finish status => exact .nil b
  | call c next ih => exact .cons (ih _ _)
  | meanwhile h act next ih => exact .cons (ih _)
  | eventLoop h more onRequest next ihRequest ih =>
    exact (Boundary.loop_runs ihRequest b h more).append (ih _ _)

theorem Situation.run_append (s : Situation) (es es' : List BridgeEvent) :
    s.run (es ++ es') = (s.run es).run es' := List.foldl_append ..

namespace Boundary

@[simp] theorem length_store (b : Boundary) (h : Handle) (held : Option Holding) :
    (b.store h held).holdings.length = b.holdings.length := by
  cases h <;> simp [store]

theorem holding?_store (b : Boundary) (m n : Nat) (held : Option Holding) :
    (b.store (some m) held).holding? (some n) =
      if m = n ∧ n < b.holdings.length then held else b.holding? (some n) := by
  simp only [store, holding?, Option.bind_some, List.getElem?_set]
  by_cases hm : m = n
  · subst hm
    by_cases hlen : m < b.holdings.length <;> simp [hlen]
  · simp [hm]

theorem lt_of_holding? {b : Boundary} {n : Nat} {held : Holding}
    (h : b.holding? (some n) = some held) : n < b.holdings.length := by
  rcases Nat.lt_or_ge n b.holdings.length with hn | hn
  · exact hn
  · simp [holding?, hn] at h

/-- Each bridge of the later boundary is one of the earlier after some events, or a newer one. -/
structure Evolves (b c : Boundary) : Prop where
  length : b.holdings.length ≤ c.holdings.length
  holding : ∀ n y, c.holding? (some n) = some y →
    (∃ x es, b.holding? (some n) = some x ∧ y.callback = x.callback ∧
      y.situation = x.situation.run es) ∨
    (b.holdings.length ≤ n ∧ ∃ config es, y.situation = (Situation.idle config).run es)

variable {b c d : Boundary}

theorem evolves_of_holdings (h : c.holdings = b.holdings) : b.Evolves c where
  length := Nat.le_of_eq (by rw [h])
  holding n y hy := by
    refine .inl ⟨y, [], ?_, rfl, rfl⟩
    rwa [holding?, ← h]

theorem Evolves.refl (b : Boundary) : b.Evolves b := evolves_of_holdings rfl

theorem Evolves.trans (h : b.Evolves c) (h' : c.Evolves d) : b.Evolves d where
  length := Nat.le_trans h.length h'.length
  holding n z hz := by
    rcases h'.holding n z hz with ⟨y, es', hy, hcallback', hrun'⟩ | ⟨hn, config, es, hrun⟩
    · rcases h.holding n y hy with ⟨x, es, hx, hcallback, hrun⟩ | ⟨hn, config, es, hrun⟩
      · refine .inl ⟨x, es ++ es', hx, hcallback'.trans hcallback, ?_⟩
        rw [hrun', hrun, Situation.run_append]
      · refine .inr ⟨hn, config, es ++ es', ?_⟩
        rw [hrun', hrun, Situation.run_append]
    · exact .inr ⟨Nat.le_trans h.length hn, config, es, hrun⟩

theorem evolves_store {h : Handle} {x : Holding} (hx : b.holding? h = some x) {s : Situation}
    (hs : ∃ es, s = x.situation.run es) : b.Evolves (b.store h (some { x with situation := s })) := by
  obtain ⟨es, rfl⟩ := hs
  rcases h with _ | m
  · cases hx
  refine ⟨Nat.le_of_eq (length_store ..).symm, fun n y hy => ?_⟩
  rw [holding?_store] at hy
  split at hy
  · rename_i hn
    obtain ⟨rfl⟩ := hy
    exact .inl ⟨x, es, hn.1 ▸ hx, rfl, rfl⟩
  · exact .inl ⟨y, [], hy, rfl, rfl⟩

theorem evolves_cleanup (b : Boundary) (h : Handle) : b.Evolves (b.cleanup h) := by
  rcases h with _ | m
  · exact .refl b
  refine ⟨Nat.le_of_eq (length_store ..).symm, fun n y hy => ?_⟩
  rw [cleanup, holding?_store] at hy
  split at hy
  · cases hy
  · exact .inl ⟨y, [], hy, rfl, rfl⟩

theorem bind_eq_ok {ε α β : Type} {x : Except ε α} {f : α → Except ε β} {b : β}
    (h : x >>= f = .ok b) : ∃ a, x = .ok a ∧ f a = .ok b := by
  cases x with
  | error e => cases h
  | ok a => exact ⟨a, rfl, h⟩

theorem setUp_eq_ok {callback : Option Callback} {options : ForeignText}
    {runtime : Except IoError Unit} {wording : Json.Wording} {held : Holding}
    (h : setUp callback options runtime wording = .ok held) : ∃ config, held.situation = .idle config := by
  obtain ⟨function, -, h⟩ := bind_eq_ok h
  obtain ⟨document, -, h⟩ := bind_eq_ok h
  obtain ⟨options, -, h⟩ := bind_eq_ok h
  obtain ⟨config, -, h⟩ := bind_eq_ok h
  obtain ⟨-, -, h⟩ := bind_eq_ok h
  obtain ⟨rfl⟩ := h
  exact ⟨config, rfl⟩

theorem evolves_create (b : Boundary) (callback : Option Callback) (options : ForeignText)
    (runtime : Except IoError Unit) (wording : Json.Wording) :
    b.Evolves (b.create callback options runtime wording).2 := by
  unfold create
  cases hs : setUp callback options runtime wording with
  | error e => exact evolves_of_holdings rfl
  | ok held =>
    obtain ⟨config, hconfig⟩ := setUp_eq_ok hs
    refine ⟨by simp, fun n y hy => ?_⟩
    rcases Nat.lt_or_ge n b.holdings.length with hn | hn
    · refine .inl ⟨y, [], ?_, rfl, rfl⟩
      simpa [holding?, List.getElem?_append_left hn] using hy
    · refine .inr ⟨hn, config, [], ?_⟩
      rcases hk : n - b.holdings.length with _ | k
      · simp [holding?, List.getElem?_append_right hn, hk] at hy
        rw [← hy, hconfig]
        rfl
      · simp [holding?, List.getElem?_append_right hn, hk] at hy

theorem evolves_withBridge {α : Type} (b : Boundary) (entry : Entry) (h : Handle) (otherwise : α)
    {f : Situation → α × Situation} (hf : ∀ s, ∃ es, (f s).2 = s.run es) :
    b.Evolves (b.withBridge entry h otherwise f).2 := by
  unfold withBridge
  rcases hx : b.holding? h with _ | x
  · exact evolves_of_holdings rfl
  · exact evolves_store hx (hf x.situation)

theorem evolves_attempt (b : Boundary) (entry : Entry) (h : Handle)
    {f : Situation → Except CallError Unit × Situation} (hf : ∀ s, ∃ es, (f s).2 = s.run es) :
    b.Evolves (b.attempt entry h f).2 := by
  have hbridge := evolves_withBridge b entry h none (f := fun s => Prod.map some id (f s)) hf
  unfold attempt
  generalize b.withBridge entry h none (fun s => Prod.map some id (f s)) = outcome at hbridge ⊢
  rcases outcome with ⟨_ | e | _, c⟩
  · exact hbridge
  · exact hbridge.trans (evolves_of_holdings rfl)
  · exact hbridge

theorem run_setSymbols (symbols : ForeignText) (carrier : Carrier) (wording : Json.Wording)
    (s : Situation) : ∃ es, (setSymbols symbols carrier wording s).2 = s.run es := by
  unfold setSymbols
  split
  · exact ⟨[], rfl⟩
  · split
    · exact ⟨[], rfl⟩
    · rename_i names _
      exact ⟨[.setAvailableSymbols names carrier], rfl⟩

theorem run_plot (buffer : Option ForeignBuffer) (carrier : Carrier) (s : Situation) :
    ∃ es, (plot buffer carrier s).2 = s.run es := by
  unfold plot
  split
  · exact ⟨[], rfl⟩
  · split
    · exact ⟨[], rfl⟩
    · rename_i buffer _
      exact ⟨[.plot buffer carrier], rfl⟩

theorem evolves_answer (b : Boundary) (c : Call) : b.Evolves (b.answer c).2 := by
  cases c with
  | create callback options runtime wording => exact evolves_create ..
  | start h opening => exact evolves_attempt _ _ _ fun s => ⟨[.start opening], rfl⟩
  | isWindowReady h => exact evolves_withBridge _ _ _ _ fun s => ⟨[.isReady], rfl⟩
  | getObservedSymbols h carrier waits =>
    exact evolves_withBridge _ _ _ _ fun s => ⟨[.observedSymbols carrier waits], rfl⟩
  | setAvailableSymbols h symbols carrier wording =>
    exact evolves_attempt _ _ _ (run_setSymbols _ _ _)
  | plotBuffer h buffer carrier => exact evolves_attempt _ _ _ (run_plot _ _)
  | cleanup h => exact evolves_cleanup ..
  | lastError => exact .refl b
  | freeString text => exact .refl b

theorem evolves_after (b : Boundary) (e : Event) : b.Evolves (b.after e) := by
  cases e with
  | call c => exact evolves_answer b c
  | runEventLoop h more =>
    rw [after, takeRequests]
    rcases hx : b.holding? h with _ | x
    · exact evolves_of_holdings rfl
    · exact evolves_store hx ⟨[.takePlotRequests more], rfl⟩
  | viewer h act =>
    rw [after, update]
    rcases hx : b.holding? h with _ | x
    · exact .refl b
    · refine evolves_store hx ?_
      cases act with
      | arrives more => exact ⟨[.arrives more], rfl⟩
      | exits => exact ⟨[.viewerExits], rfl⟩
      | polls answered => exact ⟨[.polls answered], rfl⟩

theorem Runs.evolves {log : List Occurrence} (h : Runs b log c) : b.Evolves c := by
  induction h with
  | nil b => exact .refl b
  | cons rest ih => exact (evolves_after _ _).trans ih

theorem Runs.evolves_at {log : List Occurrence} (h : Runs b log c) {o : Occurrence} (ho : o ∈ log) :
    b.Evolves o.before ∧ (o.before.after o.event).Evolves c := by
  obtain ⟨front, back, rfl⟩ := List.append_of_mem ho
  obtain ⟨hfront, -, hback⟩ := h.split
  exact ⟨hfront.evolves, hback.evolves⟩

/-- A handle that was given out and does not stand for anything any more. -/
def GivenUp (b : Boundary) (n : Nat) : Prop :=
  n < b.holdings.length ∧ b.holding? (some n) = none

theorem Evolves.givenUp (h : b.Evolves c) {n : Nat} (hn : b.GivenUp n) : c.GivenUp n := by
  refine ⟨Nat.lt_of_lt_of_le hn.1 h.length, ?_⟩
  rcases hc : c.holding? (some n) with _ | y
  · rfl
  · rcases h.holding n y hc with ⟨x, -, hx, -⟩ | ⟨hlen, -⟩
    · rw [hn.2] at hx
      cases hx
    · exact absurd hn.1 (Nat.not_lt.mpr hlen)

theorem givenUp_cleanup {n : Nat} (hn : n < b.holdings.length) : (b.cleanup (some n)).GivenUp n :=
  ⟨by rwa [cleanup, length_store], by rw [cleanup, holding?_store, if_pos ⟨rfl, hn⟩]⟩

theorem Runs.situation {log : List Occurrence} (hr : Runs {} log c) {h : Handle} {x : Holding}
    (hx : c.holding? h = some x) : ∃ config es, x.situation = (Situation.idle config).run es := by
  rcases h with _ | n
  · cases hx
  rcases hr.evolves.holding n x hx with ⟨y, es, hy, -⟩ | ⟨-, hidle⟩
  · cases hy
  · exact hidle

end Boundary
end ViewerBridge

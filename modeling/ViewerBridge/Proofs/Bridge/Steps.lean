import Mathlib.Logic.Relation
import ViewerBridge.Bridge.Run
import ViewerBridge.Proofs.Bridge.Exchanging
/-!
# The steps of a bridge

Every event is made of a few steps: a start, a teardown, a send, a reading, the taking of a pending
message, and what the viewer does by itself. What each step keeps is therefore kept by every run.
An event takes pending messages of one kind at most, which its steps say.
-/
namespace ViewerBridge

namespace Pending

def Within (p q : Pending) (ms : List Message) : Prop :=
  ∀ m ∈ p.messages, m ∈ q.messages ∨ (m ∈ ms ∧ m.kind.fromViewer = true)

theorem within_self (p : Pending) (ms : List Message) : p.Within p ms := fun _ h => .inl h

theorem mem_of_mem_erase {p : Pending} {kind : Kind} {m : Message} (h : m ∈ (p.erase kind).messages) :
    m ∈ p.messages := (List.mem_filter.mp h).1

theorem mem_insert {p : Pending} {m n : Message} (h : n ∈ (p.insert m).messages) :
    n = m ∨ n ∈ p.messages := by
  rcases List.mem_cons.mp h with h | h
  · exact .inl h
  · exact .inr (mem_of_mem_erase h)

@[simp] theorem erase_erase (p : Pending) (kind : Kind) : (p.erase kind).erase kind = p.erase kind := by
  simp [erase]

theorem erase_eq_self {p : Pending} {kind : Kind} (h : p.find? kind = none) : p.erase kind = p := by
  have hall := List.find?_eq_none.mp h
  have hm : (p.erase kind).messages = p.messages :=
    List.filter_eq_self.mpr fun m hm => by simpa using hall m hm
  cases p
  simpa only [erase, mk.injEq] using hm

theorem erase_insert_erase (p : Pending) (m : Message) (kind : Kind) :
    ((p.erase kind).insert m).erase kind = (p.insert m).erase kind := by
  simp only [erase, insert, List.filter_cons, List.filter_filter, mk.injEq]
  split <;> simp [Bool.and_comm]

end Pending

def BridgeEvent.takes : BridgeEvent → List Kind
  | observedSymbols .. => [.symbolsAnswer]
  | takePlotRequests _ | runEventLoop _ => [.plotRequest]
  | _ => []

def BridgeEvent.isLoop : BridgeEvent → Bool
  | takePlotRequests _ | runEventLoop _ => true
  | _ => false

namespace Situation

def withPending (s : Situation) (pending : Pending) : Situation :=
  { s with bridge := { s.bridge with pending } }

def withViewer (s : Situation) (viewer : ViewerProcess) : Situation :=
  { s with bridge := { s.bridge with viewer } }

/-- What a bridge does at a time; it takes pending messages of the given kinds only. -/
inductive Step (kinds : List Kind) (s : Situation) : Situation → Prop where
  | start (o : Opening) : Step kinds s (s.start o).2
  /-- It is torn down, perhaps because a look has not shown that the viewer runs. -/
  | teardown (viewer : ViewerProcess)
      (h : viewer = s.bridge.viewer ∨ viewer = (s.bridge.viewer.isRunning s.processes s.pollable).2) :
      Step kinds s (s.withViewer viewer).teardown
  | send (m : Message) (carrier : Carrier) : Step kinds s (s.send m carrier).2
  | drain (more : Inbound) : Step kinds s (s.drain more)
  | take {kind : Kind} (h : kind ∈ kinds) : Step kinds s (s.takePending kind).2
  | arrives (more : Inbound) : Step kinds s (s.arrives more)
  | viewerExits : Step kinds s s.viewerExits
  | polls (answered : Bool) : Step kinds s (s.polls answered)

abbrev Steps (kinds : List Kind) : Situation → Situation → Prop := Relation.ReflTransGen (Step kinds)

variable {kinds : List Kind}

theorem Step.single {s t : Situation} (h : Step kinds s t) : Steps kinds s t :=
  Relation.ReflTransGen.single h

theorem Step.mono {more : List Kind} (hk : kinds ⊆ more) {s t : Situation} (h : Step kinds s t) :
    Step more s t := by
  cases h with
  | start o => exact .start o
  | teardown viewer h => exact .teardown viewer h
  | send m carrier => exact .send m carrier
  | drain more => exact .drain more
  | take h => exact .take (hk h)
  | arrives more => exact .arrives more
  | viewerExits => exact .viewerExits
  | polls answered => exact .polls answered

theorem Steps.mono {more : List Kind} (hk : kinds ⊆ more) {s t : Situation} (h : Steps kinds s t) :
    Steps more s t :=
  Relation.ReflTransGen.mono (fun _ _ => Step.mono hk) s t h

theorem steps_teardown (s : Situation) : Steps kinds s s.teardown :=
  (Step.teardown s.bridge.viewer (.inl rfl)).single

/-- A bridge that finds itself ready stays as it is, and one that was not ready too. -/
theorem isReady_cases (s : Situation) :
    (s.isReady = (true, s) ∧ s.bridge.state = .ready) ∨
      (s.isReady = (false, s) ∧ s.bridge.state ≠ .ready) ∨
      ∃ viewer, s.isReady = (false, (s.withViewer viewer).teardown) ∧
        (viewer = s.bridge.viewer ∨ viewer = (s.bridge.viewer.isRunning s.processes s.pollable).2) := by
  by_cases hr : s.bridge.state = .ready
  · by_cases hc : (s.bridge.session.map Session.isConnected).getD false = true
    · rcases hv : s.bridge.viewer.isRunning s.processes s.pollable with ⟨_ | _, viewer⟩
      · refine .inr (.inr ⟨viewer, ?_, .inr rfl⟩)
        rw [isReady, if_neg (by simp [hr]), if_pos hc, hv]
        rfl
      · rw [ViewerProcess.isRunning_eq_true hv] at hv
        refine .inl ⟨?_, hr⟩
        rw [isReady, if_neg (by simp [hr]), if_pos hc, hv]
    · refine .inr (.inr ⟨s.bridge.viewer, ?_, .inl rfl⟩)
      rw [isReady, if_neg (by simp [hr]), if_neg hc]
      rfl
  · refine .inr (.inl ⟨?_, hr⟩)
    rw [isReady, if_pos hr]

theorem ready_or_not (s : Situation) :
    s.isReady = (true, s) ∨ (s.isReady.1 = false ∧ s.isReady.2.bridge.state ≠ .ready) := by
  rcases isReady_cases s with ⟨h, -⟩ | ⟨h, hn⟩ | ⟨viewer, h, -⟩ <;> rw [h]
  · exact .inl rfl
  · exact .inr ⟨rfl, hn⟩
  · exact .inr ⟨rfl, fun hr => nomatch hr⟩

theorem steps_isReady (s : Situation) : Steps kinds s s.isReady.2 := by
  rcases isReady_cases s with ⟨h, -⟩ | ⟨h, -⟩ | ⟨viewer, h, hv⟩ <;> rw [h]
  exact (Step.teardown viewer hv).single

theorem push_cases (s : Situation) (m : Message) (carrier : Carrier) :
    (s.isReady.1 = false ∧
        s.push m carrier = (.error (.notReady s.isReady.2.bridge.state), s.isReady.2)) ∨
      (s.bridge.state = .ready ∧ s.push m carrier = s.send m carrier) := by
  rcases isReady_cases s with ⟨h, hs⟩ | ⟨h, -⟩ | ⟨viewer, h, -⟩ <;> rw [push, h]
  · exact .inr ⟨hs, rfl⟩
  · exact .inl ⟨rfl, rfl⟩
  · exact .inl ⟨rfl, rfl⟩

theorem steps_push (s : Situation) (m : Message) (carrier : Carrier) :
    Steps kinds s (s.push m carrier).2 := by
  rcases push_cases s m carrier with ⟨-, h⟩ | ⟨-, h⟩ <;> rw [h]
  · exact steps_isReady s
  · exact (Step.send m carrier).single

theorem steps_plot (s : Situation) (buffer : Buffer) (carrier : Carrier) :
    Steps kinds s (s.plot buffer carrier).2 := by
  unfold plot
  split
  · exact .refl
  · exact steps_push s _ carrier

theorem within_file (p : Pending) (m : Message) : (file p m).Within p [m] := by
  intro n hn
  by_cases hv : m.kind.fromViewer = true
  · rw [file, if_pos hv] at hn
    rcases Pending.mem_insert hn with rfl | hn
    · exact .inr ⟨List.mem_singleton_self n, hv⟩
    · exact .inl hn
  · rw [file, if_neg hv] at hn
    exact .inl hn

theorem within_foldl_file (p : Pending) (ms : List Message) : (ms.foldl file p).Within p ms := by
  induction ms generalizing p with
  | nil => exact Pending.within_self _ _
  | cons m ms ih =>
    intro n hn
    rcases ih (file p m) n hn with h | ⟨h, hv⟩
    · rcases within_file p m n h with h | ⟨h, hv⟩
      · exact .inl h
      · exact .inr ⟨List.mem_cons.mpr (.inl (List.mem_singleton.mp h)), hv⟩
    · exact .inr ⟨List.mem_cons_of_mem m h, hv⟩

theorem pending_receive (s : Situation) (more : Inbound) :
    (s.receive more).2.2.bridge.pending = s.bridge.pending := by
  rcases receive_cases s more with ⟨-, h⟩ | ⟨_, -, ⟨_, _, _, _, -, h⟩ | ⟨_, _, _, _, -, h⟩⟩ <;> rw [h]

theorem drain_eq (s : Situation) (more : Inbound) : s.drain more =
    ((s.receive more).2.2.withPending ((s.receive more).1.foldl file s.bridge.pending)).settle
      (s.receive more).2.1 := by
  rw [← pending_receive s more]
  rfl

theorem await_cases (s : Situation) (kind : Kind) (waits : List Inbound) :
    ∃ t, Steps [kind] s t ∧
      (s.await kind waits = t.takePending kind ∨ s.await kind waits = (none, t)) := by
  induction waits generalizing s with
  | nil => exact ⟨s, .refl, .inl rfl⟩
  | cons more waits ih =>
    have hs : Step [kind] s (s.takePending kind).2 := .take (List.mem_singleton_self kind)
    unfold await
    rcases hp : s.takePending kind with ⟨_ | m, t⟩
    · rw [hp] at hs
      dsimp only
      split
      · exact ⟨t, hs.single, .inr rfl⟩
      · obtain ⟨u, hu, h⟩ := ih (t.drain more)
        exact ⟨u, (hs.single.tail (.drain more)).trans hu, h⟩
    · exact ⟨s, .refl, .inl hp.symm⟩

theorem fetch_cases (s : Situation) (query : Message) (kind : Kind) (carrier : Carrier)
    (waits : List Inbound) :
    ∃ t, Steps [kind] s t ∧ (s.fetch query kind carrier waits = t.takePending kind ∨
      s.fetch query kind carrier waits = (none, t)) := by
  have hr : Steps [kind] s s.isReady.2 := steps_isReady s
  unfold fetch
  rcases hq : s.isReady with ⟨_ | _, t⟩ <;> rw [hq] at hr
  · exact ⟨t, hr, .inr rfl⟩
  · have hs : Steps [kind] s (t.send query carrier).2 := hr.tail (.send query carrier)
    dsimp only
    rcases hm : t.send query carrier with ⟨_ | _, u⟩ <;> rw [hm] at hs
    · exact ⟨u, hs, .inr rfl⟩
    · obtain ⟨v, hv, h⟩ := await_cases u kind _
      exact ⟨v, hs.trans hv, h⟩

theorem steps_fetch (s : Situation) (query : Message) (kind : Kind) (carrier : Carrier)
    (waits : List Inbound) : Steps [kind] s (s.fetch query kind carrier waits).2 := by
  obtain ⟨t, hs, h | h⟩ := fetch_cases s query kind carrier waits <;> rw [h]
  · exact hs.tail (.take (List.mem_singleton_self kind))
  · exact hs

theorem observedSymbols_snd (s : Situation) (carrier : Carrier) (waits : List Inbound) :
    (s.observedSymbols carrier waits).2 =
      (s.fetch .symbolsQuery .symbolsAnswer carrier waits).2 := by
  unfold observedSymbols
  split <;> next h => rw [h]

theorem foldl_fileTaking_fst (p : Pending) (requests ms : List Message) :
    (ms.foldl fileTaking (p.erase .plotRequest, requests)).1 =
      (ms.foldl file p).erase .plotRequest := by
  induction ms generalizing p requests with
  | nil => rfl
  | cons m ms ih =>
    rw [List.foldl_cons, List.foldl_cons, fileTaking, file]
    split
    · simp only [Pending.take, Pending.erase_insert_erase]
      exact ih _ _
    · exact ih _ _

theorem takePending_settle (s : Situation) (p : Pending) (error : Option SessionError) (kind : Kind) :
    (((s.withPending p).settle error).takePending kind).2 =
      (s.withPending (p.erase kind)).settle error := by
  cases error with
  | none => rfl
  | some e =>
    simp only [settle, afterError]
    split <;> rfl

theorem takePlotRequests_snd {s : Situation} (h : s.isReady = (true, s)) (more : Inbound) :
    (s.takePlotRequests more).2 =
      (((s.takePending .plotRequest).2.drain more).takePending .plotRequest).2 := by
  let t := (s.takePending .plotRequest).2
  have ht : t.bridge.pending.erase .plotRequest = t.bridge.pending := Pending.erase_erase _ _
  have hf := foldl_fileTaking_fst t.bridge.pending (s.takePending .plotRequest).1.toList
    (t.receive more).1
  rw [drain_eq, takePending_settle, ← hf, ht, ← pending_receive t more, takePlotRequests, h]
  rfl

theorem takePlotRequests_of_not_ready {s : Situation} (h : s.isReady.1 = false) (more : Inbound) :
    s.takePlotRequests more = ([], s.isReady.2) := by
  rw [takePlotRequests, ← Prod.eta s.isReady, h]

theorem steps_takePlotRequests (s : Situation) (more : Inbound) :
    Steps [.plotRequest] s (s.takePlotRequests more).2 := by
  rcases ready_or_not s with h | ⟨h, -⟩
  · have ht (s : Situation) : Step [.plotRequest] s (s.takePending .plotRequest).2 :=
      .take (List.mem_singleton_self _)
    rw [takePlotRequests_snd h]
    exact ((ht s).single.tail (.drain more)).tail (ht _)
  · rw [takePlotRequests_of_not_ready h]
    exact steps_isReady s

theorem steps_stop (s : Situation) : Steps kinds s s.stop := by
  unfold stop
  split
  · exact .refl
  · exact steps_teardown s

theorem steps_after (s : Situation) (e : BridgeEvent) : Steps e.takes s (s.after e) := by
  cases e with
  | start o => exact (Step.start o).single
  | stop => exact steps_stop s
  | isReady => exact steps_isReady s
  | observedSymbols carrier waits =>
    rw [after, observedSymbols_snd]
    exact steps_fetch s _ _ carrier waits
  | setAvailableSymbols symbols carrier => exact steps_push s _ carrier
  | plot buffer carrier => exact steps_plot s buffer carrier
  | takePlotRequests more => exact steps_takePlotRequests s more
  | runEventLoop more => exact steps_takePlotRequests s more
  | arrives more => exact (Step.arrives more).single
  | knocks => exact .refl
  | viewerExits => exact Step.viewerExits.single
  | polls answered => exact (Step.polls answered).single

theorem steps_run (s : Situation) (es : List BridgeEvent) :
    Steps (es.flatMap BridgeEvent.takes) s (s.run es) := by
  induction es generalizing s with
  | nil => exact .refl
  | cons e es ih =>
    have he := (steps_after s e).mono (List.subset_append_left _ (es.flatMap BridgeEvent.takes))
    have hes := (ih (s.after e)).mono (List.subset_append_right e.takes _)
    exact he.trans hes

theorem exchanges_isReady (s : Situation) : s.isReady.2.exchanges = s.exchanges := by
  rcases isReady_cases s with ⟨h, -⟩ | ⟨h, -⟩ | ⟨viewer, h, -⟩ <;> rw [h]
  rfl

theorem exchanges_send (s : Situation) (m : Message) (carrier : Carrier) :
    (s.send m carrier).2.exchanges = s.exchanges ∨
      ∃ outcome, (s.send m carrier).2.exchanges = s.exchanges ++ [.sent m outcome] := by
  rcases send_cases s m carrier with ⟨-, ho⟩ | ⟨_, -, ⟨-, ho⟩ | ⟨e, _, -, ho⟩⟩ <;> rw [ho]
  · exact .inl rfl
  · exact .inr ⟨.ok (), rfl⟩
  · exact .inr ⟨.error e, rfl⟩

theorem exchanges_push (s : Situation) (m : Message) (carrier : Carrier) :
    (s.push m carrier).2.exchanges = s.exchanges ∨
      ∃ outcome, (s.push m carrier).2.exchanges = s.exchanges ++ [.sent m outcome] := by
  rcases push_cases s m carrier with ⟨-, h⟩ | ⟨-, h⟩ <;> rw [h]
  · exact .inl (exchanges_isReady s)
  · exact exchanges_send s m carrier

theorem exchanges_drain (s : Situation) (more : Inbound) :
    ((s.receive more).1 = [] ∧ (s.drain more).exchanges = s.exchanges) ∨
      ∃ outcome, (s.drain more).exchanges = s.exchanges ++ [.read (s.receive more).1 outcome] := by
  rw [drain_eq]
  rcases receive_cases s more with ⟨-, ho⟩ | ⟨_, -, ⟨_, _, _, _, -, ho⟩ | ⟨e, _, _, _, he, ho⟩⟩ <;>
    rw [ho]
  · exact .inl ⟨rfl, rfl⟩
  · exact .inr ⟨.ok (), rfl⟩
  · rw [settle, afterError, if_pos he]
    exact .inr ⟨.error e, rfl⟩

theorem exchanges_takePlotRequests (s : Situation) (more : Inbound) :
    (s.takePlotRequests more).2.exchanges = s.exchanges ∨
      ∃ ms outcome, (s.takePlotRequests more).2.exchanges = s.exchanges ++ [.read ms outcome] := by
  rcases ready_or_not s with h | ⟨h, -⟩
  · rw [takePlotRequests_snd h]
    exact (exchanges_drain _ more).imp (fun h => h.2) fun h => ⟨_, h⟩
  · rw [takePlotRequests_of_not_ready h]
    exact .inl (exchanges_isReady s)

/-- Apart from the calls for symbols an event uses the connection once at most. The host's other
messages are no queries, and only the event loop reads. -/
theorem exchanges_after (s : Situation) {e : BridgeEvent}
    (he : ∀ carrier waits, e ≠ .observedSymbols carrier waits) :
    (s.after e).exchanges = s.exchanges ∨
      (∃ m outcome, m ≠ .symbolsQuery ∧
        (s.after e).exchanges = s.exchanges ++ [.sent m outcome]) ∨
      e.isLoop = true ∧ ∃ ms outcome, (s.after e).exchanges = s.exchanges ++ [.read ms outcome] := by
  have hpush (m : Message) (hm : m ≠ .symbolsQuery) (carrier : Carrier) :
      (s.push m carrier).2.exchanges = s.exchanges ∨ ∃ n outcome, n ≠ .symbolsQuery ∧
        (s.push m carrier).2.exchanges = s.exchanges ++ [.sent n outcome] :=
    (exchanges_push s m carrier).imp_right fun ⟨outcome, h⟩ => ⟨m, outcome, hm, h⟩
  cases e with
  | start o =>
    rcases start_cases s o with ⟨-, h⟩ | ⟨-, ⟨_, _, _, _, h⟩ | ⟨_, _, _, h⟩⟩ <;> rw [after, h]
    all_goals exact .inl rfl
  | stop =>
    rw [after, stop]
    split <;> exact .inl rfl
  | isReady => exact .inl (exchanges_isReady s)
  | observedSymbols carrier waits => exact absurd rfl (he carrier waits)
  | setAvailableSymbols symbols carrier =>
    exact (hpush (.availableSymbols symbols) (fun h => nomatch h) carrier).imp_right .inl
  | plot buffer carrier =>
    rw [after, plot]
    split
    · exact .inl rfl
    · exact (hpush (.bufferContents buffer) (fun h => nomatch h) carrier).imp_right .inl
  | takePlotRequests more | runEventLoop more =>
    exact (exchanges_takePlotRequests s more).imp_right fun h => .inr ⟨rfl, h⟩
  | arrives more =>
    rw [after, arrives]
    split <;> exact .inl rfl
  | knocks => exact .inl rfl
  | viewerExits =>
    rw [after, viewerExits]
    split <;> exact .inl rfl
  | polls answered =>
    rw [after, polls]
    split <;> exact .inl rfl

theorem exchanges_step {s t : Situation} (hst : Step kinds s t) : s.exchanges <+: t.exchanges := by
  cases hst with
  | start o =>
    rcases start_cases s o with ⟨-, ho⟩ | ⟨-, ⟨_, _, _, _, ho⟩ | ⟨_, _, _, ho⟩⟩ <;> rw [ho]
    all_goals exact List.prefix_rfl
  | teardown viewer => exact List.prefix_rfl
  | send m carrier =>
    rcases exchanges_send s m carrier with h | ⟨outcome, h⟩
    · exact h ▸ List.prefix_rfl
    · exact h ▸ List.prefix_append ..
  | drain more =>
    rcases exchanges_drain s more with ⟨-, h⟩ | ⟨outcome, h⟩
    · exact h ▸ List.prefix_rfl
    · exact h ▸ List.prefix_append ..
  | take => exact List.prefix_rfl
  | arrives more =>
    unfold arrives
    split <;> exact List.prefix_rfl
  | viewerExits =>
    unfold viewerExits
    split <;> exact List.prefix_rfl
  | polls answered =>
    unfold polls
    split <;> exact List.prefix_rfl

theorem exchanges_steps {s t : Situation} (hst : Steps kinds s t) : s.exchanges <+: t.exchanges := by
  induction hst with
  | refl => exact List.prefix_rfl
  | tail _ hst ih => exact ih.trans (exchanges_step hst)

end Situation
end ViewerBridge

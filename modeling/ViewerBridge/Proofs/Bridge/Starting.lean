import ViewerBridge.Bridge.Basic
import ViewerBridge.Proofs.Connection.Accepting
import ViewerBridge.Proofs.Process.Lifecycle
/-!
# Starting a bridge

A start that succeeds leaves a session with one connection and a viewer that was seen running. One
that fails ends in a teardown, wherever it got stuck, and in neither case does anything pass over
the connection.
-/
namespace ViewerBridge

namespace ViewerProcess

theorem isRunning_eq_true {v w : ViewerProcess} {ps : Processes} {answered : Bool}
    (h : v.isRunning ps answered = (true, w)) : w = v := by
  rcases isRunning_cases v ps answered with ⟨-, hr⟩ | ⟨child, -, -, ⟨-, -, hr⟩ | ⟨-, hr⟩⟩ <;>
    rw [hr] at h <;> cases h
  rfl

theorem start_eq_ok {v w : ViewerProcess} {spawner : Spawner} {launch : Launch}
    {ps qs : Processes} (h : v.start spawner launch ps = (.ok (), w, qs)) :
    v.state = .notStarted ∧ w = { state := .starting, child := some { number := ps.alive.length } } ∧
      qs = ⟨ps.alive ++ [true]⟩ := by
  unfold start at h
  split at h
  · cases h
  · next hs =>
    split at h <;> cases h
    exact ⟨Decidable.not_not.mp hs, rfl, rfl⟩

theorem waitForStart_eq_true {v w : ViewerProcess} {ps : Processes} {answered : Bool}
    (hv : v.state = .starting) (h : v.waitForStart ps answered = (true, w)) :
    w = { v with state := .running } := by
  rw [waitForStart, hv] at h
  dsimp only at h
  rcases hr : v.isRunning ps answered with ⟨_ | _, u⟩ <;> rw [hr] at h <;> cases h
  rw [isRunning_eq_true hr]

end ViewerProcess

namespace Accepting

theorem run_ok (attempts : Nat → Attempt) (timeout : Duration) (index : Nat) (remaining : Duration)
    (v : ViewerProcess) (ps : Processes) {s : Session} (hp : s.peer = none)
    (h : (run attempts timeout index remaining v ps s).result = .ok ()) :
    (run attempts timeout index remaining v ps s).viewer = v ∧
      ∃ client, (run attempts timeout index remaining v ps s).session = s.taking client := by
  fun_induction run attempts timeout index remaining v ps s
  case case1 => cases h
  case case2 ha => exact ⟨rfl, _, (Session.accept_eq_ok hp ha).2⟩
  case case3 => cases h
  case case4 ha _ hv _ ih =>
    cases Session.accept_eq_error ha
    cases ViewerProcess.isRunning_eq_true hv
    exact ih hp h
  case case5 => cases h

end Accepting

namespace Situation

theorem connect_cases (s : Situation) (o : Opening) :
    ∃ session viewer processes, (s.connect o).2 =
      { s with bridge := { s.bridge with session, viewer }, processes } := by
  unfold connect
  split
  · exact ⟨s.bridge.session, s.bridge.viewer, s.processes, rfl⟩
  · dsimp only
    split
    · exact ⟨_, _, _, rfl⟩
    · split <;> exact ⟨_, _, _, rfl⟩

theorem connect_eq_ok {s t : Situation} {o : Opening} (h : s.connect o = (.ok (), t)) :
    ∃ port client processes, t =
      { s with
        bridge := { s.bridge with
          session := some (Session.taking { port } client)
          viewer := { state := .running, child := some { number := s.processes.alive.length } } }
        processes } := by
  unfold connect at h
  split at h
  · cases h
  · next port _ =>
    dsimp only at h
    split at h
    · cases h
    · next viewer ps hs =>
      obtain ⟨-, rfl, rfl⟩ := ViewerProcess.start_eq_ok hs
      split at h
      · cases h
      · next viewer hw =>
        cases ViewerProcess.waitForStart_eq_true rfl hw
        obtain ⟨hr, ht⟩ := Prod.mk.inj h
        obtain ⟨hv, client, hc⟩ := Accepting.run_ok _ _ _ _ _ _ rfl hr
        rw [hv, hc] at ht
        exact ⟨port, client, _, ht.symm⟩

theorem start_cases (s : Situation) (o : Opening) :
    (s.bridge.state ≠ .uninitialized ∧ s.start o = (.error .alreadyStarted, s)) ∨
      s.bridge.state = .uninitialized ∧
        ((∃ e session viewer processes, s.start o = (.error e,
          { s with bridge := { s.bridge with session, viewer }, processes }.teardown)) ∨
        ∃ port client processes, s.start o = (.ok (),
          { s with
            bridge := { s.bridge with
              state := .ready
              session := some (Session.taking { port } client)
              viewer := { state := .running, child := some { number := s.processes.alive.length } } }
            processes })) := by
  by_cases hs : s.bridge.state = .uninitialized
  · refine .inr ⟨hs, ?_⟩
    rw [start, if_neg (by simp [hs])]
    rcases hc : connect { s with bridge := { s.bridge with state := .starting } } o with ⟨e | _, t⟩
    · obtain ⟨session, viewer, processes, ht⟩ :=
        connect_cases { s with bridge := { s.bridge with state := .starting } } o
      rw [hc] at ht
      cases ht
      exact .inl ⟨e, session, viewer, processes, rfl⟩
    · obtain ⟨port, client, processes, rfl⟩ := connect_eq_ok hc
      exact .inr ⟨port, client, processes, rfl⟩
  · exact .inl ⟨hs, if_pos hs⟩

end Situation
end ViewerBridge

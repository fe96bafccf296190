import ViewerBridge.Proofs.Bridge.Invariant
import ViewerBridge.Proofs.Process.Confirming
/-!
# Who holds the viewer

A bridge starts one process at most, and holds it for as long as it may be alive. Every way out of an
operation that gives the process up kills it first, so a process lives only while the bridge is ready,
and none is left over by a bridge that was stopped or given up.
-/
namespace ViewerBridge

namespace Processes

theorem living_pos {ps : Processes} : 0 < ps.living ↔ ∃ n, ps.isAlive n = true := by
  have hn : ∀ n, ps.isAlive n = true ↔ ps.alive[n]? = some true := by
    intro n
    rw [isAlive, List.getD_eq_getElem?_getD]
    rcases ps.alive[n]? with _ | _ | _ <;> simp
  simp only [living, List.count_pos_iff, List.mem_iff_getElem?, hn]

theorem living_eq_zero {ps : Processes} (h : ∀ n, ps.isAlive n ≠ true) : ps.living = 0 := by
  refine Nat.eq_zero_of_not_pos fun hpos => ?_
  obtain ⟨n, hn⟩ := living_pos.mp hpos
  exact h n hn

end Processes

namespace ViewerProcess

/-- There was never a process but the viewer's own, and if one lives it is held. -/
structure Keeps (v : ViewerProcess) (ps : Processes) : Prop where
  unstarted : v.state = .notStarted → ps.alive = []
  single : ps.alive.length ≤ 1
  held : ∀ n, ps.isAlive n = true → v.child.map Child.number = some n
  seen : ∀ child, v.child = some child → child.exitSeen = true → ps.isAlive child.number ≠ true

variable {v : ViewerProcess} {ps : Processes}

theorem keeps_new : ({} : ViewerProcess).Keeps {} where
  unstarted _ := rfl
  single := Nat.zero_le 1
  held _ h := nomatch h
  seen _ h := nomatch h

theorem Keeps.exit (h : v.Keeps ps) (n : Nat) : v.Keeps (ps.exit n) where
  unstarted hs := by rw [Processes.exit, h.unstarted hs, List.set_nil]
  single := by rw [Processes.exit, List.length_set]; exact h.single
  held m hm := h.held m (Processes.isAlive_exit.mp hm).2
  seen := Noticed.exit h.seen n

theorem Keeps.exits (h : v.Keeps ps) (ns : List Nat) : v.Keeps (ns.foldl Processes.exit ps) := by
  induction ns generalizing ps with
  | nil => exact h
  | cons n ns ih => exact ih (h.exit n)

theorem Keeps.start (h : v.Keeps ps) (spawner : Spawner) (launch : Launch) :
    (v.start spawner launch ps).2.1.Keeps (v.start spawner launch ps).2.2 := by
  unfold ViewerProcess.start
  split
  · exact h
  · next hs =>
    split
    · exact h
    · have he : ps.alive = [] := h.unstarted (Decidable.not_not.mp hs)
      refine ⟨fun hs => (nomatch hs), by simp [Processes.spawn, he], fun n hn => ?_, ?_⟩
      · cases n with
        | zero => simp [Processes.spawn, he]
        | succ n => simp [Processes.isAlive, Processes.spawn, he] at hn
      · intro child hc hseen
        cases hc
        cases hseen

theorem Keeps.isRunning (h : v.Keeps ps) (answered : Bool) :
    (v.isRunning ps answered).2.Keeps ps := by
  have hseen := Noticed.isRunning h.seen answered
  rcases isRunning_cases v ps answered with
    ⟨-, hr⟩ | ⟨child, hc, -, ⟨-, -, hr⟩ | ⟨-, hr⟩⟩ <;> rw [hr] at hseen ⊢
  · exact h
  · exact h
  · refine ⟨fun hs => (nomatch hs), h.single, fun n hn => ?_, hseen⟩
    have hh := h.held n hn
    rw [hc] at hh
    exact hh

theorem Keeps.of_isRunning (h : v.Keeps ps) {answered b : Bool} {w : ViewerProcess}
    (hw : v.isRunning ps answered = (b, w)) : w.Keeps ps := by
  have hr := h.isRunning answered
  rwa [hw] at hr

theorem Keeps.waitForStart (h : v.Keeps ps) (answered : Bool) :
    (v.waitForStart ps answered).2.Keeps ps := by
  unfold ViewerProcess.waitForStart
  split
  · exact h
  · split
    · next hw =>
      have hr := h.of_isRunning hw
      exact ⟨fun hs => (nomatch hs), hr.single, hr.held, hr.seen⟩
    · exact h.isRunning answered
  · exact h

theorem shutdown_snd (v : ViewerProcess) (ps : Processes) :
    (v.shutdown ps).2 = (v.child.map fun child => ps.exit child.number).getD ps := by
  unfold shutdown
  rcases v.child with _ | child <;> rfl

theorem state_of_shutdown (h : (v.shutdown ps).1.state = .notStarted) : v.state = .notStarted := by
  by_cases hv : v.state = .notStarted
  · exact hv
  · unfold shutdown at h
    rcases hc : v.child with _ | child <;> simp [hv, hc] at h

theorem Keeps.not_isAlive_shutdown (h : v.Keeps ps) (n : Nat) :
    (v.shutdown ps).2.isAlive n ≠ true := by
  intro hn
  rw [shutdown_snd] at hn
  cases hc : v.child with
  | none =>
    rw [hc] at hn
    have hh := h.held n hn
    rw [hc] at hh
    cases hh
  | some child =>
    rw [hc] at hn
    obtain ⟨hne, hn⟩ := Processes.isAlive_exit.mp hn
    have hh := h.held n hn
    rw [hc] at hh
    exact hne (Option.some.inj hh).symm

theorem Keeps.shutdown (h : v.Keeps ps) : (v.shutdown ps).1.Keeps (v.shutdown ps).2 where
  unstarted hs := by
    rw [shutdown_snd]
    rcases v.child with _ | child <;>
      simp [Processes.exit, h.unstarted (state_of_shutdown hs)]
  single := by
    rw [shutdown_snd]
    rcases v.child with _ | child
    · exact h.single
    · exact (h.exit _).single
  held n hn := absurd hn (h.not_isAlive_shutdown n)
  seen child _ _ := h.not_isAlive_shutdown child.number

end ViewerProcess

theorem Accepting.keeps_run (attempts : Nat → Attempt) (timeout : Duration) (index : Nat)
    (remaining : Duration) {v : ViewerProcess} {ps : Processes} (s : Session) (h : v.Keeps ps) :
    (run attempts timeout index remaining v ps s).viewer.Keeps
      (run attempts timeout index remaining v ps s).processes := by
  fun_induction run attempts timeout index remaining v ps s
  case case1 => exact h
  case case2 => exact h.exits _
  case case3 hv => exact (h.exits _).of_isRunning hv
  case case4 hv _ ih => exact ih ((h.exits _).of_isRunning hv)
  case case5 => exact h.exits _

namespace Situation

def Custody (s : Situation) : Prop := s.bridge.viewer.Keeps s.processes

variable {kinds : List Kind} {s t : Situation}

theorem custody_idle (config : Config) : (idle config).Custody := ViewerProcess.keeps_new

theorem Custody.teardown (h : s.Custody) : s.teardown.Custody := ViewerProcess.Keeps.shutdown h

theorem Custody.not_isAlive_teardown (h : s.Custody) (n : Nat) :
    s.teardown.processes.isAlive n ≠ true :=
  h.not_isAlive_shutdown n

theorem Custody.connect (h : s.Custody) (o : Opening) : (s.connect o).2.Custody := by
  unfold Situation.connect
  split
  · exact h
  · next port _ =>
    have hstart := ViewerProcess.Keeps.start h o.spawner (s.bridge.config.launch port)
    dsimp only
    split
    · next hs =>
      rw [hs] at hstart
      exact hstart
    · next hs =>
      rw [hs] at hstart
      have hwait := (hstart.exits o.exits).waitForStart o.answered
      split
      · next hw =>
        rw [hw] at hwait
        exact hwait
      · next hw =>
        rw [hw] at hwait
        exact Accepting.keeps_run _ _ _ _ _ hwait

theorem Custody.start (h : s.Custody) (o : Opening) : (s.start o).2.Custody := by
  unfold Situation.start
  split
  · exact h
  · have hc := Custody.connect (s := { s with bridge := { s.bridge with state := .starting } }) h o
    split
    · next ho =>
      rw [ho] at hc
      exact hc
    · next ho =>
      rw [ho] at hc
      exact hc.teardown

theorem custody_step (h : s.Custody) (hst : Step kinds s t) : t.Custody := by
  cases hst with
  | start o => exact h.start o
  | teardown viewer hv =>
    have hw : (s.withViewer viewer).Custody := by
      rcases hv with rfl | rfl
      · exact h
      · exact ViewerProcess.Keeps.isRunning h s.pollable
    exact hw.teardown
  | send m carrier =>
    rcases send_cases s m carrier with ⟨-, ho⟩ | ⟨session, -, ⟨-, ho⟩ | ⟨e, bytes, -, ho⟩⟩ <;> rw [ho]
    · exact h
    · exact h
    · exact ViewerProcess.Keeps.shutdown h
  | drain more =>
    rw [drain_eq]
    rcases receive_cases s more with ⟨-, ho⟩ | ⟨session, -, ⟨c, ms, reader, rest, -, ho⟩ |
      ⟨e, ms, session', rest, he, ho⟩⟩ <;> rw [ho]
    · exact h
    · exact h
    · rw [settle, afterError, if_pos he]
      exact ViewerProcess.Keeps.shutdown h
  | take => exact h
  | arrives more =>
    unfold arrives
    split <;> exact h
  | viewerExits =>
    unfold viewerExits
    split
    · exact ViewerProcess.Keeps.exit h _
    · exact h
  | polls answered =>
    unfold polls
    split <;> exact h

theorem custody_steps (h : s.Custody) (hst : Steps kinds s t) : t.Custody := by
  induction hst with
  | refl => exact h
  | tail _ hst ih => exact custody_step ih hst

theorem custody_run (config : Config) (es : List BridgeEvent) : ((idle config).run es).Custody :=
  custody_steps (custody_idle config) (steps_run _ es)

theorem Sound.ready_of_isAlive (hs : s.Sound) (h : s.Custody) {n : Nat}
    (hn : s.processes.isAlive n = true) : s.bridge.state = .ready := by
  have hheld := h.held n hn
  cases hb : s.bridge.state with
  | uninitialized =>
    rw [(hs.uninitialized hb).2.2.1] at hheld
    cases hheld
  | starting => exact absurd hb hs.settled
  | ready => rfl
  | terminated =>
    rw [(hs.terminated hb).2.1] at hheld
    cases hheld

theorem Sound.not_isAlive_stop (hs : s.Sound) (h : s.Custody) (n : Nat) :
    s.stop.processes.isAlive n ≠ true := by
  unfold stop
  split
  · next ht =>
    intro hn
    have hr := hs.ready_of_isAlive h hn
    rw [ht] at hr
    cases hr
  · exact h.not_isAlive_teardown n

/-- In every run a bridge starts one process at most. While that lives the bridge is ready and holds
it; once the bridge is stopped or given up it lives no more. -/
theorem run_custody (config : Config) (es : List BridgeEvent) :
    let s := (idle config).run es
    s.processes.alive.length ≤ 1 ∧
      (∀ n, s.processes.isAlive n = true →
        s.bridge.state = .ready ∧ s.bridge.viewer.child.map Child.number = some n) ∧
      s.stop.processes.living = 0 ∧ s.discard.living = 0 := by
  intro s
  have hs : s.Sound := sound_run config es
  have h : s.Custody := custody_run config es
  refine ⟨h.single, fun n hn => ⟨hs.ready_of_isAlive h hn, h.held n hn⟩, ?_, ?_⟩
  · exact Processes.living_eq_zero (hs.not_isAlive_stop h)
  · have hstop : s.stop.Custody := custody_steps h (steps_stop s : Steps [] s s.stop)
    exact Processes.living_eq_zero hstop.not_isAlive_shutdown

end Situation
end ViewerBridge

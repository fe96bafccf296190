import ViewerBridge.Proofs.Process.Lifecycle
/-!
# Confirming that the viewer has started

The first yes to the question whether the viewer has started comes from the system, and later ones
from memory. So a viewer that lives is always confirmed, and one that has exited is still confirmed
if it was before and nobody has noticed its end.
-/
namespace ViewerBridge

namespace ViewerProcess

/-- The process counts as starting or running exactly while it is held and its exit was not seen. -/
def Watched (v : ViewerProcess) : Prop :=
  v.state = .starting ∨ v.state = .running ↔ ∃ child, v.child = some child ∧ child.exitSeen = false

def Noticed (v : ViewerProcess) (ps : Processes) : Prop :=
  ∀ child, v.child = some child → child.exitSeen = true → ps.isAlive child.number ≠ true

variable {v w : ViewerProcess} {ps : Processes}

theorem watched_new : ({} : ViewerProcess).Watched := by simp [Watched]

theorem Advances.watched (h : v.Advances w) (hv : v.Watched) : w.Watched := by
  cases h with
  | stays => exact hv
  | spawned | seenGone | released => simp [Watched]
  | confirmed child => simpa [Watched] using hv

theorem Noticed.unseen (h : v.Noticed ps) {child : Child} (hc : v.child = some child)
    (hlives : ps.isAlive child.number = true) : child.exitSeen = false := by
  cases he : child.exitSeen with
  | false => rfl
  | true => exact absurd hlives (h child hc he)

theorem Noticed.isRunning (h : v.Noticed ps) (answered : Bool) :
    (v.isRunning ps answered).2.Noticed ps := by
  rcases isRunning_cases v ps answered with
    ⟨-, hr⟩ | ⟨child, hc, -, ⟨-, -, hr⟩ | ⟨hgone, hr⟩⟩ <;> rw [hr]
  · exact h
  · exact h
  · intro child' hc' _ hlives
    cases hc'
    exact hgone ⟨h.unseen hc hlives, hlives⟩

theorem Noticed.waitForStart (h : v.Noticed ps) (answered : Bool) :
    (v.waitForStart ps answered).2.Noticed ps := by
  have hr := h.isRunning answered
  unfold ViewerProcess.waitForStart
  split
  · exact h
  · split
    · next hw =>
      rw [hw] at hr
      exact hr
    · exact hr
  · exact h

theorem Noticed.exit (h : v.Noticed ps) (n : Nat) : v.Noticed (ps.exit n) :=
  fun child hc he hlives => h child hc he (Processes.isAlive_exit.mp hlives).2

theorem waitForStart_iff (hw : v.Watched) (hn : v.Noticed ps) (answered : Bool) :
    (v.waitForStart ps answered).1 = true ↔ ∃ child, v.child = some child ∧
      (answered = true ∧ ps.isAlive child.number = true ∨
        v.state = .running ∧ child.exitSeen = false) := by
  unfold Watched at hw
  unfold waitForStart
  cases hs : v.state with
  | notStarted | exited =>
    simp only [hs, reduceCtorEq, or_self, false_iff, false_and, or_false] at hw ⊢
    rintro ⟨child, hc, -, hlives⟩
    exact hw ⟨child, hc, hn.unseen hc hlives⟩
  | starting =>
    obtain ⟨child, hc, he⟩ := hw.mp (.inl hs)
    cases answered <;> cases hlives : ps.isAlive child.number <;>
      simp [isRunning, hc, he, hlives]
  | running =>
    obtain ⟨child, hc, he⟩ := hw.mp (.inr hs)
    simp [hc, he]

theorem state_waitForStart (v : ViewerProcess) (ps : Processes) (answered : Bool) :
    (v.waitForStart ps answered).2.state = .running ↔ (v.waitForStart ps answered).1 = true := by
  unfold waitForStart
  cases hs : v.state with
  | notStarted | exited | running => simp [hs]
  | starting =>
    rcases isRunning_cases v ps answered with
      ⟨-, hr⟩ | ⟨child, -, -, ⟨-, -, hr⟩ | ⟨-, hr⟩⟩ <;> simp [hr, hs]

theorem state_isRunning {answered : Bool} (h : (v.isRunning ps answered).2.state = .running) :
    v.state = .running := by
  rcases isRunning_cases v ps answered with ⟨-, hr⟩ | ⟨child, -, -, ⟨-, -, hr⟩ | ⟨-, hr⟩⟩
  · simpa [hr] using h
  · simpa [hr] using h
  · simp [hr] at h

theorem state_shutdown_ne (v : ViewerProcess) (ps : Processes) :
    (v.shutdown ps).1.state ≠ .running := by
  unfold shutdown
  by_cases hv : v.state = .notStarted <;> cases v.child <;> simp [hv]

end ViewerProcess

namespace Supervision

variable {s : Supervision}

theorem run_of_advances {P : ViewerProcess → Prop} (hP : ∀ {v w}, v.Advances w → P v → P w)
    (h : s.viewer.Sound) (hp : P s.viewer) (es : List ProcessEvent) : P (s.run es).viewer := by
  induction es generalizing s with
  | nil => exact hp
  | cons e es ih =>
    have ha := advances_after h e
    exact ih (ha.sound h) (hP ha hp)

theorem noticed_after (h : s.viewer.Noticed s.processes) (e : ProcessEvent) :
    (s.after e).viewer.Noticed (s.after e).processes := by
  cases e with
  | start spawner launch =>
    by_cases hv : s.viewer.state = .notStarted
    · cases hspawn : spawner launch with
      | error e =>
        rw [after, ViewerProcess.start_refused hv hspawn]
        exact h
      | ok =>
        rw [after, ViewerProcess.start_accepted hv hspawn]
        simp [ViewerProcess.Noticed]
    · rw [after, ViewerProcess.start_of_started hv]
      exact h
  | waitForStart answered => exact h.waitForStart answered
  | isRunning answered => exact h.isRunning answered
  | terminate | shutdown =>
    intro child hc
    unfold after ViewerProcess.shutdown at hc
    cases hchild : s.viewer.child <;> simp [hchild] at hc
  | exits number => exact h.exit number

theorem noticed_run (h : s.viewer.Noticed s.processes) (es : List ProcessEvent) :
    (s.run es).viewer.Noticed (s.run es).processes := by
  induction es generalizing s with
  | nil => exact h
  | cons e es ih => exact ih (noticed_after h e)

/-- One of the questions whether the process has started was answered with yes. -/
def Confirmed (s : Supervision) (es : List ProcessEvent) : Prop :=
  ∃ earlier answered later, es = earlier ++ .waitForStart answered :: later ∧
    ((s.run earlier).waitForStart answered).1 = true

theorem not_confirmed_nil (s : Supervision) : ¬ s.Confirmed [] := by
  rintro ⟨earlier, answered, later, he, -⟩
  simp at he

theorem confirmed_cons {e : ProcessEvent} {es : List ProcessEvent} :
    s.Confirmed (e :: es) ↔
      (∃ answered, e = .waitForStart answered ∧ (s.waitForStart answered).1 = true) ∨
        (s.after e).Confirmed es := by
  constructor
  · rintro ⟨_ | ⟨first, earlier⟩, answered, later, he, hyes⟩
    · cases he
      exact .inl ⟨answered, rfl, hyes⟩
    · cases he
      exact .inr ⟨earlier, answered, later, rfl, hyes⟩
  · rintro (⟨answered, rfl, hyes⟩ | ⟨earlier, answered, later, rfl, hyes⟩)
    · exact ⟨[], answered, es, rfl, hyes⟩
    · exact ⟨e :: earlier, answered, later, rfl, hyes⟩

theorem state_waitForStart (s : Supervision) (answered : Bool) :
    (s.waitForStart answered).2.viewer.state = .running ↔ (s.waitForStart answered).1 = true :=
  s.viewer.state_waitForStart s.processes answered

theorem running_after {e : ProcessEvent} (h : (s.after e).viewer.state = .running) :
    s.viewer.state = .running ∨
      ∃ answered, e = .waitForStart answered ∧ (s.waitForStart answered).1 = true := by
  cases e with
  | start spawner launch =>
    by_cases hv : s.viewer.state = .notStarted
    · cases hspawn : spawner launch with
      | error e => exact .inl (by simpa [after, ViewerProcess.start_refused hv hspawn] using h)
      | ok => simp [after, ViewerProcess.start_accepted hv hspawn] at h
    · exact .inl (by simpa [after, ViewerProcess.start_of_started hv] using h)
  | waitForStart answered => exact .inr ⟨answered, rfl, (s.state_waitForStart answered).mp h⟩
  | isRunning answered => exact .inl (ViewerProcess.state_isRunning h)
  | terminate | shutdown => exact absurd h (s.viewer.state_shutdown_ne s.processes)
  | exits => exact .inl h

theorem running_run {es : List ProcessEvent} (h : (s.run es).viewer.state = .running) :
    s.viewer.state = .running ∨ s.Confirmed es := by
  induction es generalizing s with
  | nil => exact .inl h
  | cons e es ih =>
    rcases ih h with hs | hc
    · exact (running_after hs).imp_right fun hyes => confirmed_cons.mpr (.inl hyes)
    · exact .inr (confirmed_cons.mpr (.inr hc))

theorem Confirmed.rank_le (hs : s.viewer.Sound) {es : List ProcessEvent} (h : s.Confirmed es) :
    ProcessState.running.rank ≤ (s.run es).viewer.state.rank := by
  induction es generalizing s with
  | nil => exact absurd h s.not_confirmed_nil
  | cons e es ih =>
    have ha := (advances_after hs e).sound hs
    rcases confirmed_cons.mp h with ⟨answered, rfl, hyes⟩ | h
    · have hrunning := (s.state_waitForStart answered).mpr hyes
      calc ProcessState.running.rank
          = (s.after (.waitForStart answered)).viewer.state.rank := by rw [after, hrunning]
        _ ≤ _ := rank_le_run ha es
    · exact ih ha h

/-- In every run the question whether the viewer has started is answered with yes exactly if a
process is held that lives, as far as the system answers, or whose start was confirmed before and
whose exit was not seen since; and the state is running afterwards exactly if the answer was yes. So
a viewer that lives is always confirmed. One that has exited is confirmed exactly if it was before
and nothing has noticed its end. -/
theorem run_waitForStart (ps : Processes) (es : List ProcessEvent) (answered : Bool) :
    let fresh : Supervision := { processes := ps }
    let s := fresh.run es
    ((s.waitForStart answered).1 = true ↔ ∃ child, s.viewer.child = some child ∧
        (answered = true ∧ s.processes.isAlive child.number = true ∨
          fresh.Confirmed es ∧ child.exitSeen = false)) ∧
      ((s.waitForStart answered).2.viewer.state = .running ↔
        (s.waitForStart answered).1 = true) := by
  intro fresh s
  have hfresh : fresh.viewer.Sound := fun _ => rfl
  have hw : s.viewer.Watched :=
    run_of_advances ViewerProcess.Advances.watched hfresh ViewerProcess.watched_new es
  have hn : s.viewer.Noticed s.processes := noticed_run (by simp [ViewerProcess.Noticed, fresh]) es
  have hremembered : ∀ child, s.viewer.child = some child → child.exitSeen = false →
      (s.viewer.state = .running ↔ fresh.Confirmed es) := by
    intro child hc he
    constructor
    · intro hrunning
      exact (running_run hrunning).resolve_left fun hnew => nomatch hnew
    · intro hconfirmed
      have hrank := hconfirmed.rank_le hfresh
      rcases hw.mpr ⟨child, hc, he⟩ with hs | hs
      · rw [show (fresh.run es).viewer.state = .starting from hs] at hrank
        exact absurd hrank (by decide)
      · exact hs
  refine ⟨?_, s.state_waitForStart answered⟩
  refine (ViewerProcess.waitForStart_iff hw hn answered).trans ?_
  refine exists_congr fun child => and_congr_right fun hc => or_congr_right ?_
  exact and_congr_left fun he => hremembered child hc he

/-- A process that was confirmed and has exited since is confirmed again, though it does not run. -/
theorem waitForStart_of_exited :
    let fresh : Supervision := {}
    let s := fresh.run
      [.start (fun _ => .ok ()) ⟨"oidwindow-mute", "fusion", 4242⟩, .waitForStart true, .exits 0]
    ¬ ((s.waitForStart true).1 = true ↔
        ∃ child, s.viewer.child = some child ∧ s.processes.isAlive child.number = true) ∧
      (s.isRunning true).1 = false := by
  intro fresh s
  refine ⟨fun h => ?_, rfl⟩
  obtain ⟨child, hc, hlives⟩ := h.mp rfl
  cases hc
  cases hlives

end Supervision
end ViewerBridge

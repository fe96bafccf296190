import ViewerBridge.Process.Run
/-!
# The life of a viewer's process

The viewer's process is started at most once and goes through its states in one direction, whatever
is called and whenever it exits. Once it was killed it is let go of, and nothing changes any more.
-/
namespace ViewerBridge

def ProcessState.rank : ProcessState → Nat
  | notStarted => 0
  | starting => 1
  | running => 2
  | exited => 3

theorem ProcessState.rank_le_exited (state : ProcessState) : state.rank ≤ exited.rank := by
  cases state <;> decide

theorem ProcessState.rank_pos {state : ProcessState} : 0 < state.rank ↔ state ≠ .notStarted := by
  cases state <;> decide

namespace ViewerProcess

/-- What one call can make of a viewer's process. -/
inductive Advances : ViewerProcess → ViewerProcess → Prop where
  | stays (v : ViewerProcess) : Advances v v
  | spawned (number : Nat) : Advances {} { state := .starting, child := some { number } }
  | confirmed (child : Option Child) : Advances ⟨.starting, child⟩ ⟨.running, child⟩
  | seenGone (v : ViewerProcess) (child : Child) (held : v.child = some child) :
    Advances v { state := .exited, child := some { child with exitSeen := true } }
  | released (v : ViewerProcess) (started : v.state ≠ .notStarted) :
    Advances v { state := .exited, child := none }

def Sound (v : ViewerProcess) : Prop := v.state = .notStarted → v.child = none

variable {v w : ViewerProcess}

theorem Sound.eq_new (h : v.Sound) (hs : v.state = .notStarted) : v = {} := by
  have hc := h hs
  cases v
  cases hs
  cases hc
  rfl

theorem Advances.rank_le (h : v.Advances w) : v.state.rank ≤ w.state.rank := by
  cases h with
  | stays => exact Nat.le_refl _
  | spawned => exact Nat.zero_le _
  | confirmed => exact Nat.le_succ 1
  | seenGone | released => exact v.state.rank_le_exited

theorem Advances.sound (h : v.Advances w) (hv : v.Sound) : w.Sound := by
  cases h with
  | stays => exact hv
  | spawned | confirmed | seenGone | released => exact fun hs => nomatch hs

theorem start_of_started (hv : v.state ≠ .notStarted) (spawner : Spawner) (launch : Launch)
    (ps : Processes) : v.start spawner launch ps = (.error .alreadyStarted, v, ps) := by
  rw [start, if_pos hv]

theorem start_refused (hv : v.state = .notStarted) {spawner : Spawner} {launch : Launch}
    {e : SpawnError} (he : spawner launch = .error e) (ps : Processes) :
    v.start spawner launch ps = (.error e, v, ps) := by
  rw [start, if_neg (by simp [hv]), he]

theorem start_accepted (hv : v.state = .notStarted) {spawner : Spawner} {launch : Launch}
    (he : spawner launch = .ok ()) (ps : Processes) :
    v.start spawner launch ps =
      (.ok (), { state := .starting, child := some { number := ps.alive.length } },
        ⟨ps.alive ++ [true]⟩) := by
  rw [start, if_neg (by simp [hv]), he]
  rfl

theorem isRunning_cases (v : ViewerProcess) (ps : Processes) (answered : Bool) :
    ((v.child = none ∨ answered = false) ∧ v.isRunning ps answered = (false, v)) ∨
      ∃ child, v.child = some child ∧ answered = true ∧
        ((child.exitSeen = false ∧ ps.isAlive child.number = true ∧
            v.isRunning ps answered = (true, v)) ∨
          (¬ (child.exitSeen = false ∧ ps.isAlive child.number = true) ∧
            v.isRunning ps answered =
              (false, { state := .exited, child := some { child with exitSeen := true } }))) := by
  unfold isRunning
  rcases v.child with _ | child
  · exact .inl ⟨.inl rfl, rfl⟩
  · cases answered with
    | false => exact .inl ⟨.inr rfl, rfl⟩
    | true =>
      refine .inr ⟨child, rfl, rfl, ?_⟩
      simp only [not_true_eq_false, if_false]
      split
      · next hlives => exact .inl ⟨by simpa using hlives.1, hlives.2, rfl⟩
      · next hgone => exact .inr ⟨by simpa using hgone, rfl⟩

theorem advances_isRunning (v : ViewerProcess) (ps : Processes) (answered : Bool) :
    v.Advances (v.isRunning ps answered).2 := by
  rcases isRunning_cases v ps answered with
    ⟨-, hr⟩ | ⟨child, hc, -, ⟨-, -, hr⟩ | ⟨-, hr⟩⟩ <;> rw [hr]
  · exact .stays v
  · exact .stays v
  · exact .seenGone v child hc

theorem advances_waitForStart (v : ViewerProcess) (ps : Processes) (answered : Bool) :
    v.Advances (v.waitForStart ps answered).2 := by
  unfold waitForStart
  split
  · exact .stays v
  · next hs =>
    have ha := advances_isRunning v ps answered
    rcases isRunning_cases v ps answered with
      ⟨-, hr⟩ | ⟨child, hc, -, ⟨-, -, hr⟩ | ⟨-, hr⟩⟩ <;> rw [hr] at ha ⊢
    · exact ha
    · obtain ⟨state, child⟩ := v
      cases hs
      exact .confirmed child
    · exact ha
  · exact .stays v

theorem shutdown_of_started (hv : v.state ≠ .notStarted) (ps : Processes) :
    (v.shutdown ps).1 = { state := .exited, child := none } := by
  unfold shutdown
  rcases v.child with _ | child <;> simp only [if_neg hv]

end ViewerProcess

/-- Whether the event is a call, and not something that a process does by itself. -/
def ProcessEvent.isCall : ProcessEvent → Bool
  | exits _ => false
  | _ => true

def ProcessEvent.kills : ProcessEvent → Bool
  | terminate | shutdown _ => true
  | _ => false

namespace Supervision

def Spawned (s : Supervision) (es : List ProcessEvent) : Prop :=
  .started (.ok ()) ∈ s.answers es

variable {s : Supervision}

theorem after_of_kills {e : ProcessEvent} (he : e.kills = true) : s.after e = s.after .terminate := by
  cases e with
  | terminate | shutdown => rfl
  | start | waitForStart | isRunning | exits => cases he

theorem after_kill_of_unstarted (hs : s.viewer = {}) {e : ProcessEvent} (he : e.kills = true) :
    s.after e = s := by
  rw [after_of_kills he]
  obtain ⟨viewer, processes⟩ := s
  cases hs
  rfl

theorem viewer_after_kill_of_started (hv : s.viewer.state ≠ .notStarted) {e : ProcessEvent}
    (he : e.kills = true) : (s.after e).viewer = { state := .exited, child := none } := by
  rw [after_of_kills he]
  exact ViewerProcess.shutdown_of_started hv s.processes

theorem advances_after_kill (h : s.viewer.Sound) {e : ProcessEvent} (he : e.kills = true) :
    s.viewer.Advances (s.after e).viewer := by
  by_cases hv : s.viewer.state = .notStarted
  · rw [after_kill_of_unstarted (h.eq_new hv) he]
    exact .stays s.viewer
  · rw [viewer_after_kill_of_started hv he]
    exact .released s.viewer hv

theorem advances_after (h : s.viewer.Sound) (e : ProcessEvent) :
    s.viewer.Advances (s.after e).viewer := by
  cases e with
  | start spawner launch =>
    by_cases hv : s.viewer.state = .notStarted
    · rcases hspawn : spawner launch with e | ⟨⟩
      · rw [after, ViewerProcess.start_refused hv hspawn]
        exact .stays s.viewer
      · rw [after, ViewerProcess.start_accepted hv hspawn, h.eq_new hv]
        exact .spawned _
    · rw [after, ViewerProcess.start_of_started hv]
      exact .stays s.viewer
  | waitForStart answered => exact s.viewer.advances_waitForStart s.processes answered
  | isRunning answered => exact s.viewer.advances_isRunning s.processes answered
  | terminate | shutdown => exact advances_after_kill h rfl
  | exits number => exact .stays s.viewer

theorem sound_run (h : s.viewer.Sound) (es : List ProcessEvent) : (s.run es).viewer.Sound := by
  induction es generalizing s with
  | nil => exact h
  | cons e es ih => exact ih ((advances_after h e).sound h)

theorem rank_le_run (h : s.viewer.Sound) (es : List ProcessEvent) :
    s.viewer.state.rank ≤ (s.run es).viewer.state.rank := by
  induction es generalizing s with
  | nil => exact Nat.le_refl _
  | cons e es ih =>
    have ha := advances_after h e
    exact Nat.le_trans ha.rank_le (ih (ha.sound h))

theorem started_run (h : s.viewer.Sound) (hs : s.viewer.state ≠ .notStarted)
    (es : List ProcessEvent) : (s.run es).viewer.state ≠ .notStarted :=
  ProcessState.rank_pos.mp (Nat.lt_of_lt_of_le (ProcessState.rank_pos.mpr hs) (rank_le_run h es))

theorem unstarted_after (hs : s.viewer = {}) {e : ProcessEvent}
    (he : s.answer? e ≠ some (.started (.ok ()))) : (s.after e).viewer = {} := by
  obtain ⟨viewer, processes⟩ := s
  cases hs
  cases e with
  | start spawner launch =>
    rcases hspawn : spawner launch with e | ⟨⟩
    · rw [after, ViewerProcess.start_refused rfl hspawn]
    · rw [answer?, ViewerProcess.start_accepted rfl hspawn] at he
      exact absurd rfl he
  | waitForStart answered | isRunning answered => cases answered <;> rfl
  | terminate | shutdown | exits => rfl

theorem started_after {e : ProcessEvent} (he : s.answer? e = some (.started (.ok ()))) :
    (s.after e).viewer.state ≠ .notStarted := by
  cases e with
  | start spawner launch =>
    by_cases hv : s.viewer.state = .notStarted
    · rcases hspawn : spawner launch with e | ⟨⟩
      · rw [answer?, ViewerProcess.start_refused hv hspawn] at he
        cases he
      · rw [after, ViewerProcess.start_accepted hv hspawn]
        exact fun hs => nomatch hs
    · rw [answer?, ViewerProcess.start_of_started hv] at he
      cases he
  | waitForStart | isRunning | terminate | shutdown | exits => cases he

theorem unstarted_run (hs : s.viewer = {}) {es : List ProcessEvent} (h : ¬ s.Spawned es) :
    (s.run es).viewer = {} := by
  induction es generalizing s with
  | nil => exact hs
  | cons e es ih =>
    rw [Spawned, answers, List.mem_append, not_or, Option.mem_toList] at h
    exact ih (unstarted_after hs h.1) h.2

theorem started_of_spawned (hs : s.viewer.Sound) {es : List ProcessEvent} (h : s.Spawned es) :
    (s.run es).viewer.state ≠ .notStarted := by
  induction es generalizing s with
  | nil => cases h
  | cons e es ih =>
    have ha := (advances_after hs e).sound hs
    rw [Spawned, answers, List.mem_append, Option.mem_toList] at h
    rcases h with h | h
    · exact started_run ha (started_after h) es
    · exact ih ha h

theorem released_after (hs : s.viewer = { state := .exited, child := none }) (e : ProcessEvent) :
    (s.after e).viewer = s.viewer ∧ (e.isCall = true → s.after e = s) ∧
      s.answer? e ≠ some (.running true) := by
  obtain ⟨viewer, processes⟩ := s
  cases hs
  cases e with
  | waitForStart answered | isRunning answered =>
    cases answered <;> exact ⟨rfl, fun _ => rfl, nofun⟩
  | start | terminate | shutdown => exact ⟨rfl, fun _ => rfl, nofun⟩
  | exits => exact ⟨rfl, nofun, nofun⟩

theorem released_run (hs : s.viewer = { state := .exited, child := none })
    (es : List ProcessEvent) :
    (s.run es).viewer = { state := .exited, child := none } ∧ .running true ∉ s.answers es := by
  induction es generalizing s with
  | nil => exact ⟨hs, List.not_mem_nil⟩
  | cons e es ih =>
    obtain ⟨hv, -, ha⟩ := released_after hs e
    obtain ⟨hrun, hanswers⟩ := ih (hv.trans hs)
    refine ⟨hrun, ?_⟩
    rw [answers, List.mem_append, not_or, Option.mem_toList]
    exact ⟨ha, hanswers⟩

/-- In every run the state of the viewer's process never moves backwards. It says that nothing was
started exactly as long as no start has succeeded; until then nothing is held, a start does what the
spawner says, and neither one that is refused nor a kill changes anything. After that a start is
refused whatever the spawner would say, and the first kill ends it all: the process is let go of, no
question is answered with yes and no call changes anything any more. -/
theorem run_lifecycle (ps : Processes) (es : List ProcessEvent) :
    let fresh : Supervision := { processes := ps }
    let s := fresh.run es
    (∀ more, s.viewer.state.rank ≤ (s.run more).viewer.state.rank) ∧
      (s.viewer.state = .notStarted ↔ ¬ fresh.Spawned es) ∧
      (¬ fresh.Spawned es → s.viewer.child = none ∧
        (∀ spawner launch,
          s.answer? (.start spawner launch) = some (.started (spawner launch)) ∧
            ∀ e, spawner launch = .error e → s.after (.start spawner launch) = s) ∧
        ∀ kill, kill.kills = true → s.after kill = s) ∧
      (fresh.Spawned es →
        (∀ spawner launch,
          s.answer? (.start spawner launch) = some (.started (.error .alreadyStarted)) ∧
            s.after (.start spawner launch) = s) ∧
        ∀ kill, kill.kills = true →
          let t := s.after kill
          t.viewer.state = .exited ∧ t.viewer.child = none ∧ t.viewer.id? = none ∧
            ∀ more, (t.run more).viewer = t.viewer ∧ .running true ∉ t.answers more ∧
              ∀ call, call.isCall = true → (t.run more).after call = t.run more) := by
  intro fresh s
  have hfresh : fresh.viewer.Sound := fun _ => rfl
  have hs : s.viewer.Sound := sound_run hfresh es
  have hunstarted : ¬ fresh.Spawned es → s.viewer = {} := unstarted_run rfl
  have hstarted : fresh.Spawned es → s.viewer.state ≠ .notStarted := started_of_spawned hfresh
  refine ⟨rank_le_run hs, ⟨fun hn h => hstarted h hn, fun h => by rw [hunstarted h]⟩, ?_, ?_⟩
  · intro h
    have hnew := hunstarted h
    have hn : s.viewer.state = .notStarted := by rw [hnew]
    refine ⟨by rw [hnew], fun spawner launch => ⟨?_, fun e he => ?_⟩,
      fun kill => after_kill_of_unstarted hnew⟩
    · rcases hspawn : spawner launch with e | ⟨⟩
      · rw [answer?, ViewerProcess.start_refused hn hspawn]
      · rw [answer?, ViewerProcess.start_accepted hn hspawn]
    · rw [after, ViewerProcess.start_refused hn he]
  · intro h
    have hv := hstarted h
    refine ⟨fun spawner launch => ⟨?_, ?_⟩, ?_⟩
    · rw [answer?, ViewerProcess.start_of_started hv]
    · rw [after, ViewerProcess.start_of_started hv]
    · intro kill hkill t
      have ht : t.viewer = { state := .exited, child := none } :=
        viewer_after_kill_of_started hv hkill
      refine ⟨by rw [ht], by rw [ht], by rw [ht]; rfl, fun more => ?_⟩
      obtain ⟨hrun, hanswers⟩ := released_run ht more
      exact ⟨hrun.trans ht.symm, hanswers, fun call => (released_after hrun call).2.1⟩

/-- A start that is refused, one that succeeds, a viewer that exits by itself, and a kill. -/
theorem run_lifecycle_retried :
    let launch : Launch := ⟨"viewer", "fusion", 4242⟩
    let fresh : Supervision := {}
    let refused : ProcessEvent := .start (fun _ => .error (.refused "busy")) launch
    let again : ProcessEvent := .start (fun _ => .ok ()) launch
    let es := [refused, again, .waitForStart true, .exits 0, .isRunning true]
    let s := fresh.run es
    ¬ fresh.Spawned [refused] ∧ fresh.run [refused] = fresh ∧ fresh.Spawned es ∧
      s.answer? again = some (.started (.error .alreadyStarted)) ∧
      (s.after (.shutdown .zero)).viewer.state = .exited ∧
      ((s.after (.shutdown .zero)).after again).viewer.id? = none := by
  intro launch fresh refused again es s
  have hrefused : ¬ fresh.Spawned [refused] := by
    intro h
    rcases List.mem_singleton.mp h with ⟨⟩
  have hspawned : fresh.Spawned es := .tail _ (.head _)
  obtain ⟨-, -, hbefore, -⟩ := run_lifecycle {} []
  obtain ⟨-, -, -, hafter⟩ := run_lifecycle {} es
  obtain ⟨-, hretry, -⟩ := hbefore List.not_mem_nil
  obtain ⟨hstart, hkill⟩ := hafter hspawned
  obtain ⟨hexited, -, hid, hmore⟩ := hkill (.shutdown .zero) rfl
  obtain ⟨-, -, hcall⟩ := hmore []
  have hunchanged : fresh.run [refused] = fresh :=
    (hretry (fun _ => .error (.refused "busy")) launch).2 (.refused "busy") rfl
  refine ⟨hrefused, hunchanged, hspawned, (hstart (fun _ => .ok ()) launch).1, hexited, ?_⟩
  exact (congrArg (·.viewer.id?) (hcall again rfl)).trans hid

end Supervision
end ViewerBridge

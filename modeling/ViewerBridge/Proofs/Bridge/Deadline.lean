import Mathlib.Data.Nat.Find
import ViewerBridge.Proofs.Bridge.Starting
/-!
# Waiting for the viewer until a deadline

The wait for the viewer's connection, seen against a clock that is read before every poll. It goes
on while polls time out and the system answers that the viewer lives. Each of these polls takes its
share of the time, so there is a last one, and what the last one finds decides the result.
-/
namespace ViewerBridge.Accepting

/-- What happens during a wait for the viewer: what the clock reads, what each poll comes to, which
processes exit, and whether the system answers when it is asked about the viewer. The clock never
goes back, and a poll that times out takes at least its wait. It is assumed that the clock can show
the deadline, `opened` and the timeout together, which is fixed before the first poll. -/
structure Course where
  timeout : Duration
  /-- What the clock reads when the wait begins, in nanoseconds. -/
  opened : Nat
  /-- What the clock reads before each poll. -/
  reading : Nat → Nat
  outcome : Nat → AttemptOutcome
  /-- The processes that exit from the end of the poll before to the end of this one. -/
  exits : Nat → List Nat
  answered : Nat → Bool
  /-- The processes when the wait begins. -/
  processes : Processes
  /-- The number of the viewer's process. -/
  viewer : Nat
  opened_le : opened ≤ reading 0
  reading_le : ∀ i, reading i ≤ reading (i + 1)
  spent_le : ∀ i, outcome i = .timedOut →
    reading i + min (opened + timeout.nanoseconds - reading i) 100000000 ≤ reading (i + 1)

namespace Course

variable (c : Course)

def left (i : Nat) : Nat := c.opened + c.timeout.nanoseconds - c.reading i

/-- The wait that a poll is given: what is left of the time, but 100 ms at most. -/
def wait (i : Nat) : Duration := ⟨min (c.left i) 100000000⟩

def Lives (polls : Nat) : Prop :=
  c.processes.isAlive c.viewer = true ∧ ∀ i < polls, c.viewer ∉ c.exits i

/-- There is time for the poll, it times out, and the system answers that the viewer lives. -/
def GoesOn (i : Nat) : Prop :=
  0 < c.left i ∧ c.outcome i = .timedOut ∧ c.Lives (i + 1) ∧ c.answered i = true

/-- How the wait ends where it does not go on: after how many polls, with which result, and in which
session. A client is taken whether or not the viewer still lives, and a viewer about which there is no
answer is taken for one that has exited. -/
inductive Ends (port : UInt16) (last : Nat) : Nat → Except BridgeError Unit → Session → Prop where
  | late (time : c.left last = 0) :
    Ends port last last (.error (.session (.acceptTimeout c.timeout))) { port }
  | connected (time : 0 < c.left last) (client : Nat) (found : c.outcome last = .connected client) :
    Ends port last (last + 1) (.ok ()) (Session.taking { port } client)
  | failed (time : 0 < c.left last) (cause : IoError) (found : c.outcome last = .failed cause) :
    Ends port last (last + 1) (.error (.session (.io cause))) { port }
  | exited (time : 0 < c.left last) (found : c.outcome last = .timedOut)
      (gone : ¬ c.Lives (last + 1)) :
    Ends port last (last + 1) (.error .viewerExited) { port }
  | unanswered (time : 0 < c.left last) (found : c.outcome last = .timedOut)
      (silent : c.answered last = false) :
    Ends port last (last + 1) (.error .viewerExited) { port }

/-- The time that passes before a poll and belongs to no wait. -/
def delay : Nat → Duration
  | 0 => ⟨c.reading 0 - c.opened⟩
  | i + 1 => ⟨c.reading (i + 1) - (c.reading i + (c.wait i).nanoseconds)⟩

def attempt (i : Nat) : Attempt where
  delay := c.delay i
  exits := c.exits i
  outcome := c.outcome i
  answered := c.answered i

def remaining : Nat → Duration
  | 0 => c.timeout
  | i + 1 => ⟨c.left i - (c.wait i).nanoseconds⟩

def processesAfter (c : Course) : Nat → Processes
  | 0 => c.processes
  | i + 1 => (c.exits i).foldl Processes.exit (c.processesAfter i)

def onward (port : UInt16) (state : ProcessState) (i : Nat) : Outcome :=
  run c.attempt c.timeout i (c.remaining i) { state, child := some { number := c.viewer } }
    (c.processesAfter i) { port }

variable {c} {i last : Nat}

theorem Ends.time {port : UInt16} {polls : Nat} {result : Except BridgeError Unit}
    {session : Session} (h : c.Ends port last polls result session) (hi : i < polls) :
    i < last ∨ i = last ∧ 0 < c.left last := by
  cases h with
  | late time => exact .inl hi
  | connected time | failed time | exited time | unanswered time =>
    exact (Nat.lt_succ_iff_lt_or_eq.mp hi).imp_right fun hlast => ⟨hlast, time⟩

theorem wait_le (c : Course) (i : Nat) : (c.wait i).nanoseconds ≤ min 100000000 (c.left i) := by
  simp [wait, Nat.min_comm]

theorem wait_pos (h : 0 < c.left i) : 0 < (c.wait i).nanoseconds := by
  simp only [wait]
  omega

theorem sub_delay_eq (h : ∀ j < i, c.GoesOn j) : (c.remaining i).sub (c.delay i) = ⟨c.left i⟩ := by
  cases i with
  | zero =>
    have ho := c.opened_le
    simp only [Duration.sub, remaining, delay, left, Duration.mk.injEq]
    omega
  | succ j =>
    have hs := c.spent_le j (h j (by omega)).2.1
    simp only [Duration.sub, remaining, delay, wait, left, Duration.mk.injEq]
    omega

theorem min_interval (c : Course) (i : Nat) : (⟨c.left i⟩ : Duration).min interval = c.wait i := rfl

theorem lives_iff (c : Course) (i : Nat) :
    (c.processesAfter i).isAlive c.viewer = true ↔ c.Lives i := by
  induction i with
  | zero => simp [Lives, processesAfter]
  | succ i ih =>
    rw [processesAfter, Processes.isAlive_exits, ih]
    simp only [Lives, Nat.lt_succ_iff_lt_or_eq, or_imp, forall_and, forall_eq]
    exact ⟨fun ⟨hi, ha, hb⟩ => ⟨ha, hb, hi⟩, fun ⟨ha, hb, hi⟩ => ⟨hi, ha, hb⟩⟩

variable (port : UInt16) (state : ProcessState)

theorem onward_of_goesOn (hr : ∀ j < i, c.GoesOn j) (h : c.GoesOn i) :
    c.onward port state i = { c.onward port state (i + 1) with
      waits := c.wait i :: (c.onward port state (i + 1)).waits } := by
  obtain ⟨hleft, hfound, hlives, hanswered⟩ := h
  rw [← lives_iff, processesAfter] at hlives
  rw [onward, run]
  simp only [attempt, sub_delay_eq hr, min_interval, hfound, AttemptOutcome.caller, Session.accept]
  rw [dif_neg (by omega)]
  simp only [not_true_eq_false, if_false, ViewerProcess.isRunning, hlives, hanswered]
  rfl

theorem ends_of_not_goesOn (hr : ∀ j < i, c.GoesOn j) (h : ¬ c.GoesOn i) :
    ∃ polls, c.Ends port i polls (c.onward port state i).result (c.onward port state i).session ∧
      (List.range i).map c.wait ++ (c.onward port state i).waits =
        (List.range polls).map c.wait := by
  have honce : (List.range i).map c.wait ++ [c.wait i] = (List.range (i + 1)).map c.wait := by
    rw [List.range_succ, List.map_append]
    rfl
  rw [onward, run]
  simp only [attempt, sub_delay_eq hr, min_interval]
  by_cases hleft : c.left i = 0
  · rw [dif_pos hleft]
    exact ⟨i, .late hleft, by rw [List.append_nil]⟩
  · have htime : 0 < c.left i := by omega
    rw [dif_neg hleft]
    cases hfound : c.outcome i with
    | connected client => exact ⟨i + 1, .connected htime client hfound, honce⟩
    | failed cause => exact ⟨i + 1, .failed htime cause hfound, honce⟩
    | timedOut =>
      simp only [AttemptOutcome.caller, Session.accept, ViewerProcess.isRunning]
      cases hanswered : c.answered i with
      | false => exact ⟨i + 1, .unanswered htime hfound hanswered, honce⟩
      | true =>
        have hgone : ¬ c.Lives (i + 1) := fun hlives => h ⟨htime, hfound, hlives, hanswered⟩
        have hdead :
            ((c.exits i).foldl Processes.exit (c.processesAfter i)).isAlive c.viewer = false := by
          rw [← lives_iff, processesAfter] at hgone
          simpa using hgone
        simp only [not_true_eq_false, if_false, hdead]
        exact ⟨i + 1, .exited htime hfound hgone, honce⟩

theorem onward_zero (h : ∀ j < i, c.GoesOn j) :
    (c.onward port state 0).result = (c.onward port state i).result ∧
      (c.onward port state 0).session = (c.onward port state i).session ∧
      (c.onward port state 0).waits =
        (List.range i).map c.wait ++ (c.onward port state i).waits := by
  induction i with
  | zero => exact ⟨rfl, rfl, rfl⟩
  | succ i ih =>
    have hbefore : ∀ j < i, c.GoesOn j := fun j hj => h j (by omega)
    obtain ⟨hresult, hsession, hwaits⟩ := ih hbefore
    rw [onward_of_goesOn port state hbefore (h i (by omega))] at hresult hsession hwaits
    refine ⟨hresult, hsession, ?_⟩
    rw [hwaits, List.range_succ, List.map_append, List.append_assoc]
    rfl

theorem left_le (h : ∀ j < i, c.GoesOn j) : c.left i ≤ c.timeout.nanoseconds - i * 100000000 := by
  induction i with
  | zero =>
    have ho := c.opened_le
    simp only [left]
    omega
  | succ i ih =>
    have hi := ih fun j hj => h j (by omega)
    have hs := c.spent_le i (h i (by omega)).2.1
    simp only [left] at hi ⊢
    omega

theorem exists_last (c : Course) : ∃ last, (∀ i < last, c.GoesOn i) ∧ ¬ c.GoesOn last := by
  classical
  have hstops : ∃ i, ¬ c.GoesOn i := by
    by_contra hnone
    have hall : ∀ i, c.GoesOn i := by simpa using hnone
    have hleft := left_le fun i (_ : i < c.timeout.nanoseconds) => hall i
    have htime := (hall c.timeout.nanoseconds).1
    omega
  exact ⟨Nat.find hstops, fun i hi => not_not.mp (Nat.find_min hstops hi), Nat.find_spec hstops⟩

end Course

/-- On every clock the wait for the viewer comes to an end, and each poll is given a wait that is
not zero and neither more than 100 ms nor more than what is left of the time. The polls before the
last pass have timed out while the viewer was seen living. At the last pass either no time is left, and the
error names the whole time that was given, or a poll is made: it finds a client, it fails and its
error is the result, or it times out and the viewer has exited, or the system does not answer. -/
theorem run_course (c : Course) (port : UInt16) (state : ProcessState) :
    let outcome := run c.attempt c.timeout 0 c.timeout
      { state, child := some { number := c.viewer } } c.processes { port }
    ∃ last polls, (∀ i < last, c.GoesOn i) ∧ ¬ c.GoesOn last ∧
      c.Ends port last polls outcome.result outcome.session ∧
      outcome.waits = (List.range polls).map c.wait ∧
      (∀ i < polls, 0 < (c.wait i).nanoseconds ∧
        (c.wait i).nanoseconds ≤ min 100000000 (c.left i)) ∧
      polls * 100000000 < c.timeout.nanoseconds + 100000000 := by
  intro outcome
  obtain ⟨last, hbefore, hlast⟩ := c.exists_last
  obtain ⟨hresult, hsession, hwaits⟩ := Course.onward_zero port state hbefore
  obtain ⟨polls, hends, hpolls⟩ := Course.ends_of_not_goesOn port state hbefore hlast
  rw [← hresult, ← hsession] at hends
  have htime : ∀ i < polls, 0 < c.left i ∧ c.left i ≤ c.timeout.nanoseconds - i * 100000000 := by
    intro i hi
    rcases hends.time hi with hi | ⟨rfl, hleft⟩
    · exact ⟨(hbefore i hi).1, Course.left_le fun j hj => hbefore j (by omega)⟩
    · exact ⟨hleft, Course.left_le hbefore⟩
  refine ⟨last, polls, hbefore, hlast, hends, hwaits.trans hpolls,
    fun i hi => ⟨Course.wait_pos (htime i hi).1, c.wait_le i⟩, ?_⟩
  rcases polls with _ | i
  · simp
  · have hi := htime i (Nat.lt_succ_self i)
    omega

/-- Two polls time out, and the third one finds a client although the viewer has exited by then. -/
theorem run_course_found :
    let c : Course :=
      { timeout := .ofMilliseconds 250
        opened := 1000
        reading := fun i => 1000 + 110000000 * i
        outcome := fun i => if i < 2 then .timedOut else .connected 7
        exits := fun i => if i = 2 then [0] else []
        answered := fun _ => true
        processes := ⟨[true]⟩
        viewer := 0
        opened_le := Nat.le_refl _
        reading_le := fun i => by omega
        spent_le := fun i _ => by omega }
    let outcome := run c.attempt c.timeout 0 c.timeout
      { state := .running, child := some { number := c.viewer } } c.processes { port := 9 }
    ¬ c.Lives 3 ∧ outcome.result = .ok () ∧ outcome.session = Session.taking { port := 9 } 7 ∧
      outcome.waits = [.ofMilliseconds 100, .ofMilliseconds 100, .ofMilliseconds 30] := by
  intro c outcome
  have hgoesOn : ∀ i < 2, c.GoesOn i := by
    intro i hi
    refine ⟨?_, if_pos hi, ⟨rfl, fun j hj => ?_⟩, rfl⟩
    · simp only [c, Course.left, Duration.ofMilliseconds]
      omega
    · have hj : j ≠ 2 := by omega
      simp [c, hj]
  have hgone : ¬ c.Lives 3 := fun hlives => hlives.2 2 (by decide) (by decide)
  obtain ⟨last, polls, hbefore, hstops, hends, hwaits, -⟩ := run_course c 9 .running
  have hle : last ≤ 2 := Nat.le_of_not_lt fun hlt => nomatch (hbefore 2 hlt).2.1
  have hge : 2 ≤ last := Nat.le_of_not_lt fun hlt => hstops (hgoesOn last hlt)
  cases Nat.le_antisymm hle hge
  change c.Ends 9 2 polls outcome.result outcome.session at hends
  change outcome.waits = _ at hwaits
  generalize outcome.result = result, outcome.session = session at hends ⊢
  cases hends with
  | late time =>
    simp only [c, Course.left, Duration.ofMilliseconds] at time
    omega
  | connected time client found =>
    cases AttemptOutcome.connected.inj found
    refine ⟨hgone, rfl, rfl, hwaits.trans ?_⟩
    simp [c, Course.wait, Course.left, List.range_succ, Duration.ofMilliseconds]
  | failed time cause found => cases found
  | exited time found => cases found
  | unanswered time found => cases found

end ViewerBridge.Accepting

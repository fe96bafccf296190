import ViewerBridge.Proofs.Boundary.ForeignTexts
import ViewerBridge.Proofs.Boundary.Occurrences
/-!
# The last failure

The diagnostic that the host can ask for is always the report of the call that failed last, whichever
way the failure took. No report is lost or cut short.
-/
namespace ViewerBridge

def Event.entry? : Event → Option Entry
  | .call (.create ..) => some .create
  | .call (.start ..) => some .start
  | .call (.isWindowReady _) => some .isWindowReady
  | .call (.getObservedSymbols ..) => some .getObservedSymbols
  | .call (.setAvailableSymbols ..) => some .setAvailableSymbols
  | .call (.plotBuffer ..) => some .plotBuffer
  | .runEventLoop .. => some .runEventLoop
  | .call (.cleanup _) | .call .lastError | .call (.freeString _) | .viewer .. => none

namespace Boundary

def handleError? (b : Boundary) (h : Handle) : Option CallError :=
  match b.holding? h with
  | none => some .nullHandle
  | some _ => none

def attemptError? (b : Boundary) (h : Handle) (f : Situation → Except CallError Unit × Situation) :
    Option CallError :=
  match b.holding? h with
  | none => some .nullHandle
  | some held =>
    match (f held.situation).1 with
    | .error e => some e
    | .ok () => none

def setUpError? (callback : Option Callback) (options : ForeignText)
    (runtime : Except IoError Unit) (wording : Json.Wording) : Option CallError :=
  match setUp callback options runtime wording with
  | .error e => some e
  | .ok _ => none

def error? (b : Boundary) : Event → Option CallError
  | .call (.create callback options runtime wording) =>
    setUpError? callback options runtime wording
  | .call (.start h opening) => b.attemptError? h fun s => lift .start (s.start opening)
  | .call (.setAvailableSymbols h symbols carrier wording) =>
    b.attemptError? h (setSymbols symbols carrier wording)
  | .call (.plotBuffer h buffer carrier) => b.attemptError? h (plot buffer carrier)
  | .call (.isWindowReady h) | .call (.getObservedSymbols h _ _) | .runEventLoop h _ =>
    b.handleError? h
  | .call (.cleanup _) | .call .lastError | .call (.freeString _) | .viewer .. => none

/-- What is recorded of an event, if it fails. -/
def report? (b : Boundary) (e : Event) : Option String :=
  e.entry?.bind fun entry => (b.error? e).map (·.diagnostic entry)

theorem isSome_report? (b : Boundary) (e : Event) : (b.report? e).isSome = (b.error? e).isSome := by
  unfold report?
  cases e with
  | call c => cases c <;> simp [Event.entry?, error?]
  | runEventLoop h more => simp [Event.entry?]
  | viewer h act => rfl

@[simp] theorem diagnostic_store (b : Boundary) (h : Handle) (held : Option Holding) :
    (b.store h held).diagnostic = b.diagnostic := by
  cases h <;> rfl

theorem diagnostic_withBridge {α : Type} (b : Boundary) (entry : Entry) (h : Handle)
    (otherwise : α) (f : Situation → α × Situation) :
    (b.withBridge entry h otherwise f).2.diagnostic =
      ((b.handleError? h).map (·.diagnostic entry)).or b.diagnostic := by
  unfold withBridge handleError?
  rcases b.holding? h with _ | held
  · rfl
  · simp

theorem attempt_eq (b : Boundary) (entry : Entry) (h : Handle)
    (f : Situation → Except CallError Unit × Situation) :
    (b.attempt entry h f).1 = (b.attemptError? h f).isNone ∧
      (b.attempt entry h f).2.diagnostic =
        ((b.attemptError? h f).map (·.diagnostic entry)).or b.diagnostic := by
  unfold attempt withBridge attemptError?
  rcases b.holding? h with _ | held
  · exact ⟨rfl, rfl⟩
  · rcases hf : f held.situation with ⟨e | _, s⟩
    · simp [hf, fail]
    · simp [hf]

theorem create_eq (b : Boundary) (callback : Option Callback) (options : ForeignText)
    (runtime : Except IoError Unit) (wording : Json.Wording) :
    (b.create callback options runtime wording).1.isNone =
        (setUpError? callback options runtime wording).isSome ∧
      (b.create callback options runtime wording).2.diagnostic =
        ((setUpError? callback options runtime wording).map (·.diagnostic .create)).or
          b.diagnostic := by
  unfold create setUpError?
  cases setUp callback options runtime wording <;> exact ⟨rfl, rfl⟩

theorem diagnostic_after (b : Boundary) (e : Event) :
    (b.after e).diagnostic = (b.report? e).or b.diagnostic := by
  cases e with
  | call c =>
    cases c with
    | create callback options runtime wording => exact (create_eq ..).2
    | start h opening => exact (attempt_eq ..).2
    | isWindowReady h => exact diagnostic_withBridge b .isWindowReady h false Situation.isReady
    | getObservedSymbols h carrier waits =>
      exact diagnostic_withBridge b .getObservedSymbols h [] (·.observedSymbols carrier waits)
    | setAvailableSymbols h symbols carrier wording => exact (attempt_eq ..).2
    | plotBuffer h buffer carrier => exact (attempt_eq ..).2
    | cleanup h => exact diagnostic_store ..
    | lastError => rfl
    | freeString text => rfl
  | runEventLoop h more =>
    simp only [after, takeRequests, report?, Event.entry?, error?, handleError?]
    rcases b.holding? h with _ | held
    · rfl
    · simp
  | viewer h act =>
    simp only [after, update, report?, Event.entry?]
    rcases b.holding? h with _ | held
    · rfl
    · simp

end Boundary

namespace Occurrence

def report? (o : Occurrence) : Option String := o.before.report? o.event

/-- Whether the host sees that a call failed, or has given a null handle to one that does not tell. -/
def failed (o : Occurrence) : Bool :=
  match o.event with
  | .call (.create ..) => o.answer = .handle none
  | .call (.start ..) | .call (.setAvailableSymbols ..) | .call (.plotBuffer ..) =>
    o.answer = .flag false
  | .call (.isWindowReady h) | .call (.getObservedSymbols h _ _) | .runEventLoop h _ => h.isNone
  | _ => false

theorem isNone_handle {o : Occurrence} (hp : o.Permitted) :
    o.event.handle.isNone = (o.before.handleError? o.event.handle).isSome := by
  unfold Boundary.handleError?
  rcases hp with hnull | hlive
  · rw [hnull]
    rfl
  · obtain ⟨held, hheld⟩ := Option.isSome_iff_exists.mp hlive
    rw [hheld]
    rcases hh : o.event.handle with _ | n
    · rw [hh] at hheld
      cases hheld
    · rfl

theorem failed_eq {o : Occurrence} (ho : o.answer = o.before.reply o.event) (hp : o.Permitted) :
    o.failed = o.report?.isSome := by
  rw [report?, Boundary.isSome_report?]
  have hnull := isNone_handle hp
  obtain ⟨b, e, a⟩ := o
  obtain rfl : a = b.reply e := ho
  have hattempt : ∀ entry h f, decide (Answer.flag (b.attempt entry h f).1 = .flag false) =
      (b.attemptError? h f).isSome := by
    intro entry h f
    rw [(Boundary.attempt_eq b entry h f).1]
    cases b.attemptError? h f <;> rfl
  cases e with
  | call c =>
    cases c with
    | create callback options runtime wording =>
      have hcreate :
          decide (Answer.handle (b.create callback options runtime wording).1 = .handle none) =
            (b.error? (.call (.create callback options runtime wording))).isSome := by
        rw [Boundary.error?, ← (Boundary.create_eq b callback options runtime wording).1]
        cases (b.create callback options runtime wording).1 <;> rfl
      exact hcreate
    | start h opening => exact hattempt .start h _
    | setAvailableSymbols h symbols carrier wording => exact hattempt .setAvailableSymbols h _
    | plotBuffer h buffer carrier => exact hattempt .plotBuffer h _
    | isWindowReady h => exact hnull
    | getObservedSymbols h carrier waits => exact hnull
    | cleanup h => rfl
    | lastError => rfl
    | freeString text => rfl
  | runEventLoop h more => exact hnull
  | viewer h act => rfl

end Occurrence

namespace Boundary

theorem Runs.diagnostic_eq {b c : Boundary} {log : List Occurrence} (h : Runs b log c) :
    c.diagnostic = (log.filterMap Occurrence.report?).getLast?.or b.diagnostic := by
  induction h with
  | nil b => rfl
  | @cons b e log c rest ih =>
    rw [ih, diagnostic_after, List.filterMap_cons]
    have hfirst : Occurrence.report? ⟨b, e, b.reply e⟩ = b.report? e := rfl
    rw [hfirst]
    rcases b.report? e with _ | text
    · rfl
    · rw [List.getLast?_cons]
      rcases (log.filterMap Occurrence.report?).getLast? with _ | last <;> rfl

/-- On all that follows the contract the diagnostic is the report of the call that failed last, if
any has failed, and this is what the host is given when it asks. A report names the function and all
that went wrong, and can be read to its end. -/
theorem run_diagnostic (host : Script) (h : ∀ o ∈ (host.run {}).log, o.Permitted) :
    let ran := host.run {}
    ran.boundary.diagnostic = (ran.log.filterMap Occurrence.report?).getLast? ∧
    (∀ front o back, ran.log = front ++ o :: back → o.event = .call .lastError →
      o.answer = .text (front.filterMap Occurrence.report?).getLast?) ∧
    ∀ o ∈ ran.log, o.failed = o.report?.isSome ∧
      (o.failed = false → (o.before.after o.event).diagnostic = o.before.diagnostic) ∧
      ∀ text, o.report? = some text → ∃ entry e, o.event.entry? = some entry ∧
        o.before.error? o.event = some e ∧ text = CallError.spellZeros (e.chain entry) ∧
        (∃ rest, text = entry.name ++ ": " ++ rest) ∧
        ForeignText.content (Utf8.encode text ++ [0]) = Utf8.encode text := by
  intro ran
  have hruns : Runs {} ran.log ran.boundary := host.runs {}
  have hnothing : ∀ x : Option String, x.or ({} : Boundary).diagnostic = x := fun x => Option.or_none
  refine ⟨by rw [hruns.diagnostic_eq, hnothing], ?_, ?_⟩
  · intro front o back hlog ho
    rw [hlog] at hruns
    obtain ⟨hfront, hanswer, -⟩ := hruns.split
    rw [hanswer, ho, ← hnothing (front.filterMap Occurrence.report?).getLast?,
      ← hfront.diagnostic_eq]
    rfl
  · intro o ho
    have hanswer : o.answer = o.before.reply o.event := by
      obtain ⟨front, back, hlog⟩ := List.append_of_mem ho
      rw [hlog] at hruns
      exact hruns.split.2.1
    have hfailed := Occurrence.failed_eq hanswer (h o ho)
    refine ⟨hfailed, fun hf => ?_, fun text htext => ?_⟩
    · have hnone : o.before.report? o.event = none := by
        rw [hf] at hfailed
        exact Option.not_isSome_iff_eq_none.mp (by simpa [Occurrence.report?] using hfailed.symm)
      rw [diagnostic_after, hnone]
      rfl
    · obtain ⟨entry, hentry, hreport⟩ := Option.bind_eq_some_iff.mp htext
      obtain ⟨e, herror, rfl⟩ := Option.map_eq_some_iff.mp hreport
      have hzero : 0 ∉ Utf8.encode (e.diagnostic entry) := by
        rw [CallError.diagnostic_eq, Utf8.zero_mem_encode]
        exact CallError.zero_not_mem_spellZeros _
      exact ⟨entry, e, hentry, herror, e.diagnostic_eq entry, ⟨_, e.diagnostic_begins entry⟩,
        ForeignText.content_terminated hzero⟩

/-- A run in which a bridge is asked for without a callback and with a document that ends too early,
and then a bridge cannot start for a reason in which a zero stands. -/
theorem run_diagnostic_zero :
    let broken : Opening :=
      { spawner := fun _ => .ok (), port := .error ⟨.other, "a\x00b"⟩,
        attempts := fun _ => { outcome := .connected 0 } }
    let brace : ForeignText := some [0x7b, 0]
    let wording : Json.Wording := fun _ => "EOF while parsing an object at line 1 column 1"
    let host : Script :=
      .call (.create none none (.ok ()) wording) fun _ => .call .lastError fun _ =>
        .call (.create (some 7) brace (.ok ()) wording) fun _ => .call .lastError fun _ =>
          .call (.create (some 7) none (.ok ()) wording) fun _ =>
            .call (.start (some 0) broken) fun _ => .call (.isWindowReady (some 0)) fun _ =>
              .finish 0
    (∀ o ∈ (host.run {}).log, o.Permitted) ∧
      (host.run {}).log.map Occurrence.answer =
        [.handle none, .text (some "oid_initialize: plot_callback is null"), .handle none,
          .text (some ("oid_initialize: invalid bridge options: invalid options document: " ++
            "EOF while parsing an object at line 1 column 1: " ++
            "EOF while parsing an object at line 1 column 1")),
          .handle (some 0), .flag false, .flag false] ∧
      (host.run {}).boundary.diagnostic =
        some "oid_start: could not start TCP server: a\\0b" := by
  intro broken brace wording host
  have hpermitted : ∀ o ∈ (host.run {}).log, o.Permitted := by decide +kernel
  have hreports : ((host.run {}).log.filterMap Occurrence.report?).getLast? =
      some "oid_start: could not start TCP server: a\\0b" := by decide +kernel
  refine ⟨hpermitted, by decide +kernel, ?_⟩
  rw [(run_diagnostic host hpermitted).1, hreports]

end Boundary
end ViewerBridge

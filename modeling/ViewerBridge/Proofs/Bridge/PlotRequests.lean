import ViewerBridge.Proofs.Bridge.Filing
/-!
# The viewer's plot requests

The event loop takes the plot request that has waited and all that it reads itself. Those that are
read by other calls wait for it, but a later one takes the place of an earlier one.
-/
namespace ViewerBridge

theorem BridgeEvent.not_mem_takes {e : BridgeEvent} (h : e.isLoop = false) :
    Kind.plotRequest ∉ e.takes := by
  cases e with
  | takePlotRequests | runEventLoop => cases h
  | observedSymbols => simp [takes]
  | _ => exact List.not_mem_nil

namespace Situation

/-- The names in all plot requests that were read, in the order of their arrival. -/
def requested (s : Situation) : List String := s.received.filterMap requestName?

def waitingRequest (s : Situation) : Option String := (s.waiting .plotRequest).bind requestName?

/-- The names that an event gives to the host. -/
def given (s : Situation) : BridgeEvent → List String
  | .takePlotRequests more => (s.takePlotRequests more).1
  | .runEventLoop more => (s.runEventLoop more).1.2
  | _ => []

def givenAll (s : Situation) : List BridgeEvent → List String
  | [] => []
  | e :: es => s.given e ++ (s.after e).givenAll es

variable {kinds : List Kind} {s t : Situation}

theorem filterMap_filter_requests (ms : List Message) :
    (ms.filter (·.kind = .plotRequest)).filterMap requestName? = ms.filterMap requestName? := by
  rw [List.filterMap_filter]
  congr 1
  funext m
  cases m <;> rfl

theorem requested_eq (s : Situation) :
    s.requested = (s.arrivals .plotRequest).filterMap requestName? := by
  rw [requested, arrivals, filterMap_filter_requests]

theorem requested_of_arrivals {ms : List Message}
    (h : t.arrivals .plotRequest = s.arrivals .plotRequest ++ ms) :
    t.requested = s.requested ++ ms.filterMap requestName? := by
  rw [requested_eq, requested_eq, h, List.filterMap_append]

theorem bind_requestName? {ms : List Message} (h : ∀ m ∈ ms, m.kind = .plotRequest)
    (earlier : Option Message) :
    (ms.getLast?.or earlier).bind requestName? =
      (ms.filterMap requestName?).getLast?.or (earlier.bind requestName?) := by
  rcases List.eq_nil_or_concat ms with rfl | ⟨ms, m, rfl⟩
  · rfl
  · have hm : m.kind = .plotRequest := h m (by simp)
    cases m with
    | plotRequest name => simp [requestName?]
    | symbolsQuery | symbolsAnswer | availableSymbols | bufferContents => cases hm

theorem toList_or_sublist (names : List String) (earlier : Option String) :
    (names.getLast?.or earlier).toList.Sublist (earlier.toList ++ names) := by
  rcases hl : names.getLast? with _ | name
  · exact List.sublist_append_left ..
  · have hn : name ∈ names := List.mem_of_getLast? hl
    exact (List.singleton_sublist.mpr hn).trans (List.sublist_append_right ..)

theorem Sound.requested_steps (hs : s.Sound) (hst : Steps kinds s t) :
    ∃ read, t.requested = s.requested ++ read ∧
      t.waitingRequest.toList.Sublist (s.waitingRequest.toList ++ read) := by
  obtain ⟨ms, hf⟩ : ∃ ms, Filed kinds .plotRequest s t ms := filed_steps hs rfl hst
  refine ⟨_, requested_of_arrivals hf.arrivals, ?_⟩
  rcases hf.waiting with hw | ⟨hw, -⟩ <;> rw [waitingRequest, hw]
  · rw [bind_requestName? (kind_of_arrivals hf.arrivals)]
    exact toList_or_sublist ..
  · exact List.nil_sublist _

theorem foldl_fileTaking_snd {p : Pending} (hp : p.find? .plotRequest = none)
    (requests ms : List Message) :
    (ms.foldl fileTaking (p, requests)).2 = requests ++ ms.filter (·.kind = .plotRequest) := by
  induction ms generalizing p requests with
  | nil => exact (List.append_nil _).symm
  | cons m ms ih =>
    rw [List.foldl_cons, fileTaking]
    split
    · next hv =>
      have herased : ((p.insert m).erase .plotRequest).find? .plotRequest = none := by
        rw [Pending.find?_erase, if_pos rfl]
      simp only [Pending.take]
      rw [ih herased, Pending.find?_insert, hp]
      by_cases hm : m.kind = .plotRequest
      · simp [hm]
      · have hm' : ¬ Kind.plotRequest = m.kind := fun h => hm h.symm
        simp [hm, hm']
    · next hv =>
      have hm : m.kind ≠ .plotRequest := fun h => hv (by rw [h]; rfl)
      rw [ih hp, List.filter_cons_of_neg (by simpa using hm)]

theorem takePlotRequests_fst (h : s.isReady = (true, s)) (more : Inbound) :
    (s.takePlotRequests more).1 = s.waitingRequest.toList ++
      (((s.takePending .plotRequest).2.receive more).1.filter
        (·.kind = .plotRequest)).filterMap requestName? := by
  let t := (s.takePending .plotRequest).2
  have ht : t.bridge.pending.find? .plotRequest = none := by
    rw [← waiting, waiting_takePending, if_pos rfl]
  have hw : (s.waiting .plotRequest).toList.filterMap requestName? = s.waitingRequest.toList := by
    rw [waitingRequest]
    rcases s.waiting .plotRequest with _ | m
    · rfl
    · cases m <;> rfl
  have hf := foldl_fileTaking_snd ht (s.waiting .plotRequest).toList (t.receive more).1
  rw [← hw, ← List.filterMap_append, ← hf, ← pending_receive t more, takePlotRequests, h]
  rfl

theorem arrivals_after (s : Situation) {e : BridgeEvent} (hl : e.isLoop = false)
    (hf : ∀ carrier waits, e ≠ .observedSymbols carrier waits) (kind : Kind) :
    (s.after e).arrivals kind = s.arrivals kind := by
  rcases exchanges_after s hf with h | ⟨m, outcome, -, h⟩ | ⟨hloop, -⟩
  · exact arrivals_congr h kind
  · exact arrivals_sent h kind
  · rw [hl] at hloop
    cases hloop

/-- What a call of the event loop gives of the requests that were read before it and in it. -/
structure Looped (s : Situation) (names : List String) (t : Situation) (own : List String) :
    Prop where
  requested : t.requested = s.requested ++ own
  nothing_waits : t.waiting .plotRequest = none
  given : (s.isReady = (true, s) ∧ names = s.waitingRequest.toList ++ own) ∨
    (s.isReady.1 = false ∧ names = [] ∧ own = [])

theorem Sound.looped_takePlotRequests (hs : s.Sound) (more : Inbound) :
    ∃ own, s.Looped (s.takePlotRequests more).1 (s.takePlotRequests more).2 own := by
  rcases ready_or_not s with h | ⟨h, hn⟩
  · let t := (s.takePending .plotRequest).2
    have ha : (s.takePlotRequests more).2.arrivals .plotRequest =
        s.arrivals .plotRequest ++ (t.receive more).1.filter (·.kind = .plotRequest) := by
      rw [takePlotRequests_snd h]
      exact arrivals_drain t more _
    refine ⟨_, requested_of_arrivals ha, ?_, .inl ⟨h, takePlotRequests_fst h more⟩⟩
    rw [takePlotRequests_snd h, waiting_takePending, if_pos rfl]
  · have hsteps : Steps [] s s.isReady.2 := steps_isReady s
    have hsound : s.isReady.2.Sound := (sound_steps hs hsteps).1
    rw [takePlotRequests_of_not_ready h]
    refine ⟨[], ?_, hsound.waiting_of_not_ready hn _, .inr ⟨h, rfl, rfl⟩⟩
    rw [requested_eq, arrivals_isReady, requested_eq, List.append_nil]

theorem Sound.looped (hs : s.Sound) {e : BridgeEvent} (he : e.isLoop = true) :
    ∃ own, s.Looped (s.given e) (s.after e) own := by
  cases e with
  | takePlotRequests more | runEventLoop more => exact hs.looped_takePlotRequests more
  | _ => cases he

theorem given_of_not_loop (s : Situation) {e : BridgeEvent} (he : e.isLoop = false) :
    s.given e = [] := by
  cases e with
  | takePlotRequests | runEventLoop => cases he
  | _ => rfl

theorem Sound.given_sublist (hs : s.Sound) (e : BridgeEvent) :
    ∃ read, (s.after e).requested = s.requested ++ read ∧
      (s.given e ++ (s.after e).waitingRequest.toList).Sublist
        (s.waitingRequest.toList ++ read) := by
  cases he : e.isLoop with
  | false =>
    rw [given_of_not_loop s he, List.nil_append]
    exact hs.requested_steps (steps_after s e)
  | true =>
    obtain ⟨own, hr, hw, hg⟩ := hs.looped he
    refine ⟨own, hr, ?_⟩
    have hn : (s.after e).waitingRequest = none := by rw [waitingRequest, hw]; rfl
    rw [hn, Option.toList_none, List.append_nil]
    rcases hg with ⟨-, hg⟩ | ⟨-, hg, -⟩
    · simp only [hg, List.Sublist.refl]
    · simp only [hg, List.nil_sublist]

theorem Sound.givenAll_sublist (hs : s.Sound) (es : List BridgeEvent) :
    ∃ read, (s.run es).requested = s.requested ++ read ∧
      (s.givenAll es).Sublist (s.waitingRequest.toList ++ read) := by
  induction es generalizing s with
  | nil => exact ⟨[], (List.append_nil _).symm, List.nil_sublist _⟩
  | cons e es ih =>
    obtain ⟨read, hr, hg⟩ := hs.given_sublist e
    obtain ⟨more, hr', hg'⟩ := ih (sound_steps hs (steps_after s e)).1
    have hrest : (s.given e ++ (s.after e).givenAll es).Sublist
        (s.given e ++ (s.after e).waitingRequest.toList ++ more) := by
      rw [List.append_assoc]
      exact hg'.append_left _
    have hfirst : (s.given e ++ (s.after e).waitingRequest.toList ++ more).Sublist
        (s.waitingRequest.toList ++ read ++ more) := hg.append_right more
    refine ⟨read ++ more, by rw [run_cons, hr', hr, List.append_assoc], ?_⟩
    rw [← List.append_assoc]
    exact hrest.trans hfirst

theorem Sound.waitingRequest_run (hs : s.Sound) {later : List BridgeEvent}
    (hl : ∀ e ∈ later, e.isLoop = false) :
    ∃ read, (s.run later).requested = s.requested ++ read ∧
      ((s.run later).bridge.state = .uninitialized → read.getLast?.or s.waitingRequest = none) ∧
      ((s.run later).waitingRequest = read.getLast?.or s.waitingRequest ∨
        (s.run later).bridge.state = .terminated) := by
  have hk : Kind.plotRequest ∉ later.flatMap BridgeEvent.takes := by
    intro h
    obtain ⟨e, he, hm⟩ := List.mem_flatMap.mp h
    exact BridgeEvent.not_mem_takes (hl e he) hm
  obtain ⟨ms, ha, hu, hw⟩ : ∃ ms, Filed _ .plotRequest s (s.run later) ms :=
    filed_steps hs rfl (steps_run s later)
  have hlast := bind_requestName? (kind_of_arrivals ha) (s.waiting .plotRequest)
  refine ⟨_, requested_of_arrivals ha, fun h => ?_, hw.imp (fun hw => ?_) fun h => h.2.resolve_right hk⟩
  · have hl := (sound_steps hs (steps_run s later)).2
    rw [h] at hl
    have hn : s.bridge.state ≠ .ready := by rw [hl.to_uninitialized]; decide
    rw [waitingRequest, ← hlast, hu h, hs.waiting_of_not_ready hn]
    rfl
  · rw [waitingRequest, hw, hlast, ← waitingRequest]

/-- In every run the plot requests that are given to the host are among those that were read, in
the order of their arrival and each once. The event loop gives all that it reads itself, even if
the bridge is terminated by that, and leaves none waiting. Besides it only the fetching of symbols
reads. Of the requests that were read before, the event loop gives the last, unless the bridge is
terminated by then. -/
theorem run_plotRequests (config : Config) (es : List BridgeEvent) :
    let s := (idle config).run es
    ((idle config).givenAll es).Sublist s.requested ∧
      (∀ e, e.isLoop = false → (∀ carrier waits, e ≠ .observedSymbols carrier waits) →
        (s.after e).requested = s.requested) ∧
      ∀ later e, (∀ e' ∈ later, e'.isLoop = false) → e.isLoop = true →
        let t := s.run later
        (t.after e).bridge.pending.contains .plotRequest = false ∧
          ∃ read own, t.requested = s.requested ++ read ∧
            (t.after e).requested = t.requested ++ own ∧
            ((t.isReady.1 = true ∧
                t.given e = (read.getLast?.or s.waitingRequest).toList ++ own) ∨
              (t.isReady.1 = false ∧ t.given e = [] ∧ own = [] ∧
                (read.getLast?.or s.waitingRequest ≠ none →
                  t.isReady.2.bridge.state = .terminated))) := by
  intro s
  have hs : s.Sound := sound_run config es
  refine ⟨?_, fun e hl hf => ?_, ?_⟩
  · obtain ⟨read, hr, hg⟩ := (sound_idle config).givenAll_sublist es
    have hidle : (idle config).requested = [] := rfl
    rw [hr, hidle]
    exact hg
  · rw [requested_eq, arrivals_after s hl hf, requested_eq]
  · intro later e hlater he t
    have ht : t.Sound := (sound_steps hs (steps_run s later)).1
    obtain ⟨own, hown, hw, hg⟩ := ht.looped he
    obtain ⟨read, hread, hu, hwait⟩ := hs.waitingRequest_run hlater
    refine ⟨by rw [Pending.contains, ← waiting, hw]; rfl, read, own, hread, hown, ?_⟩
    rcases hg with ⟨hr, hg⟩ | ⟨hr, hg, ho⟩
    · have hn : t.bridge.state ≠ .terminated := by
        intro h
        have hf := (refuses_of_not_ready (s := t) (by rw [h]; decide)).isReady
        rw [hr] at hf
        cases hf
      refine .inl ⟨by rw [hr], ?_⟩
      rw [hg, hwait.resolve_right hn]
    · exact .inr ⟨hr, hg, ho, fun hne => ht.terminated_of_not_ready hr fun h => hne (hu h)⟩

/-- A run in which a fetch reads two plot requests and the answer, and the event loop a third request
and then what makes no frame. -/
theorem run_plotRequests_malformed :
    let o : Opening :=
      { spawner := fun _ => .ok (), port := .ok 9, attempts := fun _ => { outcome := .connected 0 } }
    let asked := (Message.plotRequest "a").frame ++ (Message.plotRequest "b").frame ++
      (Message.symbolsAnswer []).frame
    let malformed := (Message.plotRequest "c").frame ++ [4, 0, 0, 0] ++ List.replicate 8 255
    let fetch : BridgeEvent := .observedSymbols (fun _ => .complete) [{ bytes := asked }]
    let loop : BridgeEvent := .runEventLoop { bytes := malformed }
    let s := (idle {}).run [.start o]
    let t := s.run [fetch]
    (∀ e ∈ [fetch], e.isLoop = false) ∧ loop.isLoop = true ∧
      t.requested = ["a", "b"] ∧ (t.after loop).requested = ["a", "b", "c"] ∧
      t.given loop = ["b", "c"] ∧ (t.after loop).bridge.state = .terminated := by
  intro o asked malformed fetch loop s t
  have hl : ∀ e ∈ [fetch], e.isLoop = false := fun e he => by rw [List.mem_singleton.mp he]; rfl
  have hs : s.requested = [] ∧ s.waitingRequest = none := by decide +kernel
  have ht : t.requested = ["a", "b"] := by decide +kernel
  have hu : (t.after loop).requested = ["a", "b", "c"] := by decide +kernel
  have hr : t.isReady.1 = true := by decide +kernel
  obtain ⟨-, read, own, hread, hown, hg⟩ := (run_plotRequests {} [.start o]).2.2 [fetch] loop hl rfl
  have hread : t.requested = s.requested ++ read := hread
  have hown : (t.after loop).requested = t.requested ++ own := hown
  have hg : t.given loop = (read.getLast?.or s.waitingRequest).toList ++ own :=
    (hg.resolve_right fun h => by rw [h.1] at hr; cases hr).2
  have hreads : read = ["a", "b"] := by rw [← ht, hread, hs.1, List.nil_append]
  have howns : own = ["c"] := by
    rw [hu, ht] at hown
    simpa using hown.symm
  exact ⟨hl, rfl, ht, hu, by rw [hg, hreads, howns]; rfl, by decide +kernel⟩

end Situation
end ViewerBridge

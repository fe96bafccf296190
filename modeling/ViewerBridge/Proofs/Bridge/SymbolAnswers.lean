import ViewerBridge.Proofs.Bridge.Filing
/-!
# The viewer's answers

An answer waits until it is fetched or a later one takes its place. So a fetch gives the answer that
was read last, and what is fetched after it has been read after it.
-/
namespace ViewerBridge.Situation

variable {kinds : List Kind} {kind : Kind} {s t : Situation}

theorem Sound.fetched {before : Situation} (hb : before.Sound) (hv : kind.fromViewer = true)
    (hn : before.waiting kind = none) (hst : Steps kinds before s) {query m : Message}
    {carrier : Carrier} {waits : List Inbound} (hm : s.fetch query kind carrier waits = (some m, t)) :
    m.kind = kind ∧ t.waiting kind = none ∧
      ∃ since, t.arrivals kind = before.arrivals kind ++ since ∧ since.getLast? = some m := by
  obtain ⟨u, hsu, h | h⟩ := fetch_cases s query kind carrier waits <;> rw [h] at hm
  · have hu : u.waiting kind = some m := congrArg Prod.fst hm
    have ht : t = (u.takePending kind).2 := (congrArg Prod.snd hm).symm
    have hsteps : Steps (kind :: kinds) before u :=
      (hst.mono (List.subset_cons_self kind kinds)).trans (hsu.mono (by simp))
    obtain ⟨since, hf⟩ := filed_steps hb hv hsteps
    refine ⟨Pending.kind_of_find? hu, ?_, since, by rw [ht]; exact hf.arrivals, ?_⟩
    · rw [ht, waiting_takePending, if_pos rfl]
    · rcases hf.waiting with hw | ⟨hw, -⟩
      · rw [← hu, hw, hn, Option.or_none]
      · rw [hw] at hu
        cases hu
  · cases hm

theorem observedSymbols_fst (s : Situation) (carrier : Carrier) (waits : List Inbound) :
    (s.observedSymbols carrier waits).1 =
      match (s.fetch .symbolsQuery .symbolsAnswer carrier waits).1 with
      | some (.symbolsAnswer symbols) => symbols
      | _ => [] := by
  rw [observedSymbols]
  rcases s.fetch .symbolsQuery .symbolsAnswer carrier waits with ⟨_ | m, t⟩
  · rfl
  · cases m <;> rfl

/-- In every run the viewer is asked for its symbols any number of times. A call that is answered
gives the symbols of the answer that was read last, and the answer to any later call was read after
that; a call without an answer gives no symbols. -/
theorem run_symbolsAnswers (config : Config) (es : List BridgeEvent) (carrier : Carrier)
    (waits : List Inbound) :
    let s := (idle config).run es
    let answer := (s.fetch .symbolsQuery .symbolsAnswer carrier waits).1
    let t := s.after (.observedSymbols carrier waits)
    (answer = none → (s.observedSymbols carrier waits).1 = []) ∧
      ∀ m, answer = some m →
        (m = .symbolsAnswer (s.observedSymbols carrier waits).1 ∧
          (t.arrivals .symbolsAnswer).getLast? = some m) ∧
        ∀ later carrier' waits' m',
          let u := t.run later
          (u.fetch .symbolsQuery .symbolsAnswer carrier' waits').1 = some m' →
            ∃ since, (u.after (.observedSymbols carrier' waits')).arrivals .symbolsAnswer =
              t.arrivals .symbolsAnswer ++ since ∧ since.getLast? = some m' := by
  intro s answer t
  refine ⟨fun h => ?_, fun m hm => ?_⟩
  · have hn : (s.fetch .symbolsQuery .symbolsAnswer carrier waits).1 = none := h
    rw [observedSymbols_fst, hn]
  have hfetch : s.fetch .symbolsQuery .symbolsAnswer carrier waits = (some m, t) :=
    Prod.ext hm (observedSymbols_snd s carrier waits).symm
  have hs : s.Sound := sound_run config es
  obtain ⟨hk, hw, since, ha, hlast⟩ := (sound_idle config).fetched rfl rfl (steps_run _ es) hfetch
  have hall : t.arrivals .symbolsAnswer = since := ha
  refine ⟨⟨?_, by rw [hall, hlast]⟩, ?_⟩
  · rw [observedSymbols_fst, hfetch]
    cases m with
    | symbolsAnswer symbols => rfl
    | symbolsQuery | availableSymbols | plotRequest | bufferContents => cases hk
  · intro later carrier' waits' m' u hm'
    have hfetch' : u.fetch .symbolsQuery .symbolsAnswer carrier' waits' =
        (some m', u.after (.observedSymbols carrier' waits')) :=
      Prod.ext hm' (observedSymbols_snd u carrier' waits').symm
    have ht : t.Sound := (sound_steps hs (steps_after s (.observedSymbols carrier waits))).1
    exact (ht.fetched rfl hw (steps_run t later) hfetch').2.2

/-- A run in which two answers are read before the first call, which gives the second of them. The
next call waits for a third. -/
theorem run_symbolsAnswers_twice :
    let o : Opening :=
      { spawner := fun _ => .ok (), port := .ok 9, attempts := fun _ => { outcome := .connected 0 } }
    let two := (Message.symbolsAnswer ["a"]).frame ++ (Message.symbolsAnswer ["b"]).frame
    let s := (idle {}).run [.start o, .arrives { bytes := two }, .takePlotRequests {}]
    let t := s.after (.observedSymbols (fun _ => .complete) [])
    let u := t.run [.arrives { bytes := (Message.symbolsAnswer ["c"]).frame }]
    (s.fetch .symbolsQuery .symbolsAnswer (fun _ => .complete) []).1 = some (.symbolsAnswer ["b"]) ∧
      (t.arrivals .symbolsAnswer).getLast? = some (.symbolsAnswer ["b"]) ∧
      (u.fetch .symbolsQuery .symbolsAnswer (fun _ => .complete) [{}]).1 =
        some (.symbolsAnswer ["c"]) ∧
      ∃ since, (u.after (.observedSymbols (fun _ => .complete) [{}])).arrivals .symbolsAnswer =
        t.arrivals .symbolsAnswer ++ since ∧ since.getLast? = some (.symbolsAnswer ["c"]) := by
  intro o two s t u
  have hm : (s.fetch .symbolsQuery .symbolsAnswer (fun _ => .complete) []).1 =
      some (.symbolsAnswer ["b"]) := by decide +kernel
  have hm' : (u.fetch .symbolsQuery .symbolsAnswer (fun _ => .complete) [{}]).1 =
      some (.symbolsAnswer ["c"]) := by decide +kernel
  obtain ⟨⟨-, hlast⟩, hlater⟩ := (run_symbolsAnswers {} _ _ _).2 _ hm
  exact ⟨hm, hlast, hm', hlater _ _ _ _ hm'⟩

end ViewerBridge.Situation

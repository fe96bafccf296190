import ViewerBridge.Proofs.Bridge.Invariant
/-!
# What waits to be taken

Of the messages of one kind that were read only the last waits, until it is taken or the bridge is
terminated. So what waits is known from the messages that have arrived since the last taking.
-/
namespace ViewerBridge.Situation

/-- The messages of a kind that were read, in the order of their arrival. -/
def arrivals (s : Situation) (kind : Kind) : List Message := s.received.filter (·.kind = kind)

def waiting (s : Situation) (kind : Kind) : Option Message := s.bridge.pending.find? kind

variable {kinds : List Kind} {kind : Kind} {s t : Situation}

theorem find?_foldl_file (hv : kind.fromViewer = true) (p : Pending) (ms : List Message) :
    (ms.foldl file p).find? kind = (ms.filter (·.kind = kind)).getLast?.or (p.find? kind) := by
  induction ms generalizing p with
  | nil => rfl
  | cons m ms ih =>
    rw [List.foldl_cons, ih, file]
    by_cases hm : m.kind = kind
    · simp [hm, hv, Pending.find?_insert, List.getLast?_cons, Option.or_some]
    · have hf : (if m.kind.fromViewer = true then p.insert m else p).find? kind = p.find? kind := by
        split
        · rw [Pending.find?_insert, if_neg fun h => hm h.symm]
        · rfl
      simp [hm, hf]

theorem arrivals_congr (h : t.exchanges = s.exchanges) (kind : Kind) :
    t.arrivals kind = s.arrivals kind := by
  rw [arrivals, received, h, arrivals, received]

theorem arrivals_sent {m : Message} {outcome : Except SessionError Unit}
    (h : t.exchanges = s.exchanges ++ [.sent m outcome]) (kind : Kind) :
    t.arrivals kind = s.arrivals kind := by
  simp [arrivals, received, h, Exchange.received]

theorem arrivals_read {ms : List Message} {outcome : Except SessionError Unit}
    (h : t.exchanges = s.exchanges ++ [.read ms outcome]) (kind : Kind) :
    t.arrivals kind = s.arrivals kind ++ ms.filter (·.kind = kind) := by
  simp [arrivals, received, h, Exchange.received]

theorem kind_of_arrivals {ms : List Message}
    (h : t.arrivals kind = s.arrivals kind ++ ms) : ∀ m ∈ ms, m.kind = kind := by
  intro m hm
  have ht : m ∈ t.arrivals kind := by rw [h]; exact List.mem_append_right _ hm
  simpa using (List.mem_filter.mp ht).2

theorem waiting_takePending (s : Situation) (kind other : Kind) :
    (s.takePending kind).2.waiting other = if other = kind then none else s.waiting other :=
  Pending.find?_erase s.bridge.pending kind other

theorem arrivals_send (s : Situation) (m : Message) (carrier : Carrier) (kind : Kind) :
    (s.send m carrier).2.arrivals kind = s.arrivals kind := by
  rcases exchanges_send s m carrier with h | ⟨outcome, h⟩
  · exact arrivals_congr h kind
  · exact arrivals_sent h kind

theorem arrivals_isReady (s : Situation) (kind : Kind) :
    s.isReady.2.arrivals kind = s.arrivals kind := arrivals_congr (exchanges_isReady s) kind

theorem arrivals_drain (s : Situation) (more : Inbound) (kind : Kind) :
    (s.drain more).arrivals kind =
      s.arrivals kind ++ (s.receive more).1.filter (·.kind = kind) := by
  rcases exchanges_drain s more with ⟨hn, h⟩ | ⟨outcome, h⟩
  · rw [arrivals_congr h, hn]
    exact (List.append_nil _).symm
  · exact arrivals_read h kind

theorem waiting_drain (hv : kind.fromViewer = true) (s : Situation) (more : Inbound) :
    (s.drain more).waiting kind =
        ((s.receive more).1.filter (·.kind = kind)).getLast?.or (s.waiting kind) ∨
      (s.drain more).waiting kind = none ∧ (s.drain more).bridge.state = .terminated := by
  have hf := find?_foldl_file hv s.bridge.pending (s.receive more).1
  rw [drain_eq]
  rcases receive_cases s more with ⟨-, ho⟩ | ⟨session, -, ⟨c, ms, reader, rest, -, ho⟩ |
    ⟨e, ms, session', rest, he, ho⟩⟩ <;> rw [ho] at hf ⊢
  · exact .inl hf
  · exact .inl hf
  · rw [settle, afterError, if_pos he]
    exact .inr ⟨rfl, rfl⟩

/-- Between two situations `ms` were read of a kind. Then the last of them waits, or what has waited
before, unless it was taken or the bridge was terminated. -/
structure Filed (kinds : List Kind) (kind : Kind) (s t : Situation) (ms : List Message) : Prop where
  arrivals : t.arrivals kind = s.arrivals kind ++ ms
  uninitialized : t.bridge.state = .uninitialized → ms = []
  waiting : t.waiting kind = ms.getLast?.or (s.waiting kind) ∨
    t.waiting kind = none ∧ (t.bridge.state = .terminated ∨ kind ∈ kinds)

theorem filed_nothing (ha : t.arrivals kind = s.arrivals kind)
    (hw : t.waiting kind = s.waiting kind ∨
      t.waiting kind = none ∧ (t.bridge.state = .terminated ∨ kind ∈ kinds)) :
    Filed kinds kind s t [] where
  arrivals := by rw [ha, List.append_nil]
  uninitialized _ := rfl
  waiting := hw

theorem filed_step (hs : s.Sound) (hv : kind.fromViewer = true) (hst : Step kinds s t) :
    ∃ ms, Filed kinds kind s t ms := by
  cases hst with
  | start o =>
    refine ⟨[], ?_⟩
    rcases start_cases s o with ⟨-, ho⟩ | ⟨-, ⟨_, _, _, _, ho⟩ | ⟨_, _, _, ho⟩⟩ <;> rw [ho]
    · exact filed_nothing rfl (.inl rfl)
    · exact filed_nothing rfl (.inr ⟨rfl, .inl rfl⟩)
    · exact filed_nothing rfl (.inl rfl)
  | teardown viewer => exact ⟨[], filed_nothing rfl (.inr ⟨rfl, .inl rfl⟩)⟩
  | send m carrier =>
    refine ⟨[], filed_nothing (arrivals_send s m carrier kind) ?_⟩
    rcases send_cases s m carrier with ⟨-, ho⟩ | ⟨session, -, ⟨-, ho⟩ | ⟨e, bytes, -, ho⟩⟩ <;>
      rw [ho]
    · exact .inl rfl
    · exact .inl rfl
    · exact .inr ⟨rfl, .inl rfl⟩
  | drain more =>
    refine ⟨_, arrivals_drain s more kind, fun ht => ?_, ?_⟩
    · have hl := leads_step hs (.drain more : Step kinds s _)
      rw [ht] at hl
      have hn : s.bridge.session = none := (hs.uninitialized hl.to_uninitialized).1
      simp [receive, hn]
    · exact (waiting_drain hv s more).imp_right fun h => ⟨h.1, .inl h.2⟩
  | @take other hother =>
    refine ⟨[], filed_nothing rfl ?_⟩
    rw [waiting_takePending]
    split
    · next h =>
      rw [h]
      exact .inr ⟨rfl, .inr hother⟩
    · exact .inl rfl
  | arrives more =>
    refine ⟨[], ?_⟩
    rw [arrives]
    split <;> exact filed_nothing rfl (.inl rfl)
  | viewerExits =>
    refine ⟨[], ?_⟩
    rw [viewerExits]
    split <;> exact filed_nothing rfl (.inl rfl)
  | polls answered =>
    refine ⟨[], ?_⟩
    rw [polls]
    split <;> exact filed_nothing rfl (.inl rfl)

theorem Sound.waiting_of_not_ready (h : s.Sound) (hs : s.bridge.state ≠ .ready) (kind : Kind) :
    s.waiting kind = none := by
  have hn : s.bridge.session = none := by
    cases hb : s.bridge.session with
    | none => rfl
    | some session => exact absurd (h.ready_of_session hb) hs
  rw [waiting, h.pending_of_no_session hn, Pending.find?_empty]

theorem Filed.trans {u : Situation} {ms ns : List Message} (h : Filed kinds kind s t ms)
    (h' : Filed kinds kind t u ns) (hl : BridgeState.Leads t.bridge.state u.bridge.state) :
    Filed kinds kind s u (ms ++ ns) where
  arrivals := by rw [h'.arrivals, h.arrivals, List.append_assoc]
  uninitialized hu := by
    rw [hu] at hl
    rw [h.uninitialized hl.to_uninitialized, h'.uninitialized hu, List.append_nil]
  waiting := by
    rw [List.getLast?_append, Option.or_assoc]
    rcases h'.waiting with hw' | hw'
    · rcases h.waiting with hw | ⟨hw, hwhy⟩
      · exact .inl (by rw [hw', hw])
      · rw [hw', hw]
        rcases hn : ns.getLast? with _ | n
        · refine .inr ⟨rfl, hwhy.imp_left fun ht => ?_⟩
          rw [ht] at hl
          exact hl.of_terminated
        · exact .inl rfl
    · exact .inr hw'

theorem filed_steps (hs : s.Sound) (hv : kind.fromViewer = true) (hst : Steps kinds s t) :
    ∃ ms, Filed kinds kind s t ms := by
  induction hst with
  | refl => exact ⟨[], filed_nothing rfl (.inl rfl)⟩
  | tail hst htu ih =>
    obtain ⟨ms, h⟩ := ih
    have ht := (sound_steps hs hst).1
    obtain ⟨ns, h'⟩ := filed_step ht hv htu
    exact ⟨ms ++ ns, h.trans h' (leads_step ht htu)⟩

end ViewerBridge.Situation

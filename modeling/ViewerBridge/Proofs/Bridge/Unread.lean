import ViewerBridge.Proofs.Bridge.Filing
import ViewerBridge.Proofs.Connection.Reading
/-!
# What a bridge has not read yet

A ready bridge holds the bytes that have arrived since its last reading and those that made no frame
then. The next reading gives the messages in all of them. It terminates the bridge if a frame is
malformed or the viewer has closed its side, and otherwise leaves what makes no frame.
-/
namespace ViewerBridge

namespace Situation

def reader? (s : Situation) : Option FrameReader :=
  s.bridge.session.bind fun session => session.connection.map Connection.reader

/-- The reader has met neither an error nor the end of the stream. -/
def Following (s : Situation) : Prop := ∀ r, s.reader? = some r → r.Sound

/-- The bytes that have arrived and are no part of a message that was read. -/
def unread (s : Situation) : List UInt8 := (s.reader?.map (·.unread s.inbound)).getD []

def outstanding (s : Situation) : List Message × Except FrameError (List UInt8) :=
  Frames.drain s.unread

/-- Whether a reading would leave the connection as good as it was. -/
def readsOn (s : Situation) : Bool := s.outstanding.2.isOk && !s.inbound.ended

variable {kinds : List Kind} {kind : Kind} {s t : Situation}

theorem reader?_of_session {session : Session} (h : s.bridge.session = some session) :
    s.reader? = session.connection.map Connection.reader := by
  rw [reader?, h]
  rfl

theorem Sound.reader? (hs : s.Sound) (hr : s.bridge.state = .ready) : ∃ r, s.reader? = some r := by
  obtain ⟨⟨session, hsession, hc, -⟩, -⟩ := hs.ready hr
  obtain ⟨c, hc⟩ := Option.isSome_iff_exists.mp hc
  exact ⟨c.reader, by rw [reader?_of_session hsession, hc]; rfl⟩

theorem arrives_eq {r : FrameReader} (h : s.reader? = some r) (more : Inbound) :
    s.arrives more = { s with inbound := s.inbound.join more } := by
  obtain ⟨session, hsession, hr⟩ := Option.bind_eq_some_iff.mp h
  obtain ⟨c, hc, -⟩ := Option.map_eq_some_iff.mp hr
  rw [arrives, hsession, Option.map_some, Session.isConnected, hc]
  rfl

theorem unread_of_reader? {r : FrameReader} (h : s.reader? = some r) :
    s.unread = r.unread s.inbound := by
  rw [unread, h]
  rfl

theorem reader?_arrives (s : Situation) (more : Inbound) : (s.arrives more).reader? = s.reader? := by
  unfold arrives
  split <;> rfl

theorem unread_arrives {r : FrameReader} (h : s.reader? = some r) (more : Inbound) :
    (s.arrives more).unread = s.unread ++ if s.inbound.ended then [] else more.bytes := by
  rw [unread_of_reader? ((reader?_arrives s more).trans h), unread_of_reader? h, arrives_eq h]
  unfold FrameReader.unread Inbound.join
  split <;> simp

theorem ended_arrives {r : FrameReader} (h : s.reader? = some r) (more : Inbound) :
    (s.arrives more).inbound.ended = (s.inbound.ended || more.ended) := by
  rw [arrives_eq h]
  unfold Inbound.join
  cases hi : s.inbound.ended <;> simp [hi]

theorem outstanding_arrives {r : FrameReader} (h : s.reader? = some r) (more : Inbound) :
    (s.arrives more).outstanding = Frames.drain (r.unread (s.inbound.join more)) := by
  rw [arrives_eq h, outstanding]
  exact congrArg Frames.drain (unread_of_reader? (s := { s with inbound := s.inbound.join more }) h)

theorem readsOn_arrives {r : FrameReader} (h : s.reader? = some r) (more : Inbound) :
    (s.arrives more).readsOn =
      ((s.arrives more).outstanding.2.isOk && !(s.inbound.join more).ended) := by
  rw [readsOn, arrives_eq h]

theorem Following.reads (hf : s.Following) {r : FrameReader} (h : s.reader? = some r)
    (more : Inbound) :
    (s.receive more).1 = (s.arrives more).outstanding.1 ∧
      (s.receive more).2.1.isNone = (s.arrives more).readsOn ∧
      ((s.receive more).2.1 = none → ∃ r', r'.Sound ∧ (s.receive more).2.2.reader? = some r' ∧
        (s.receive more).2.2.inbound = {} ∧ (s.arrives more).outstanding.2 = .ok r'.buffer) := by
  obtain ⟨session, hsession, hr⟩ := Option.bind_eq_some_iff.mp h
  obtain ⟨c, hc, rfl⟩ := Option.map_eq_some_iff.mp hr
  obtain ⟨reading, ⟨hmessages, hresult, -, hkept⟩, hread⟩ :=
    Session.read_reads hc (hf c.reader h) (s.inbound.join more)
  have hok : (reading.result.map fun _ => ()).isOk = (s.arrives more).readsOn := by
    rw [hresult, Session.isOk_ending, readsOn_arrives h, outstanding_arrives h]
  rw [outstanding_arrives h, receive, hsession]
  simp only [hread]
  rcases hres : reading.result with e | _ <;> rw [hres] at hok
  · refine ⟨hmessages, hok, fun he => ?_⟩
    cases he
  · have hkept := hkept (by rw [hres]; rfl)
    exact ⟨hmessages, hok, fun _ => ⟨reading.reader, hkept.1, rfl, hkept.2⟩⟩

theorem following_idle (config : Config) : (idle config).Following := fun _ h => nomatch h

theorem following_teardown (s : Situation) : s.teardown.Following := fun _ h => nomatch h

theorem reader?_flushed (session : Session) :
    session.flushed.connection.map Connection.reader =
      session.connection.map Connection.reader := by
  rw [Session.flushed, Option.map_map]
  rfl

theorem following_send (h : s.Following) (m : Message) (carrier : Carrier) :
    (s.send m carrier).2.Following := by
  rcases send_cases s m carrier with ⟨-, ho⟩ | ⟨session, hsession, ⟨-, ho⟩ | ⟨e, bytes, -, ho⟩⟩ <;>
    rw [ho]
  · exact h
  · intro r hr
    rw [reader?_of_session rfl, reader?_flushed, ← reader?_of_session hsession] at hr
    exact h r hr
  · exact following_teardown _

theorem following_drain (hs : s.Sound) (h : s.Following) (more : Inbound) :
    (s.drain more).Following := by
  rw [drain_eq]
  rcases receive_cases s more with ⟨-, ho⟩ | ⟨session, hsession, ⟨_, _, _, _, -, ho⟩ |
    ⟨e, _, _, _, hfatal, ho⟩⟩
  · rw [ho]
    exact h
  · obtain ⟨r, hr⟩ := hs.reader? (hs.ready_of_session hsession)
    obtain ⟨-, -, hkept⟩ := h.reads hr more
    obtain ⟨r', hsound, hr', -⟩ := hkept (by rw [ho])
    rw [ho] at hr' ⊢
    intro r'' hr''
    cases hr'.symm.trans hr''
    exact hsound
  · rw [ho, settle, afterError, if_pos hfatal]
    exact following_teardown _

theorem following_step (hs : s.Sound) (h : s.Following) (hst : Step kinds s t) : t.Following := by
  cases hst with
  | start o =>
    rcases start_cases s o with ⟨-, ho⟩ | ⟨-, ⟨_, _, _, _, ho⟩ | ⟨port, client, _, ho⟩⟩ <;> rw [ho]
    · exact h
    · exact following_teardown _
    · intro r hr
      cases hr
      exact FrameReader.sound_new
  | teardown viewer => exact following_teardown _
  | send m carrier => exact following_send h m carrier
  | drain more => exact following_drain hs h more
  | take => exact h
  | arrives more =>
    unfold arrives
    split <;> exact h
  | viewerExits =>
    unfold viewerExits
    split <;> exact h
  | polls answered =>
    unfold polls
    split <;> exact h

theorem following_steps (hs : s.Sound) (h : s.Following) (hst : Steps kinds s t) : t.Following := by
  induction hst with
  | refl => exact h
  | tail before hst ih => exact following_step (sound_steps hs before).1 ih hst

theorem following_run (config : Config) (es : List BridgeEvent) : ((idle config).run es).Following :=
  following_steps (sound_idle config) (following_idle config) (steps_run _ es)

theorem Sound.drained (hs : s.Sound) (hf : s.Following) (hr : s.bridge.state = .ready)
    (more : Inbound) :
    ((s.arrives more).readsOn = true ∧ (s.drain more).bridge.state = .ready ∧
        (s.drain more).inbound = {} ∧ (s.arrives more).outstanding.2 = .ok (s.drain more).unread) ∨
      ((s.arrives more).readsOn = false ∧ (s.drain more).bridge.state = .terminated) := by
  obtain ⟨r, hreader⟩ := hs.reader? hr
  obtain ⟨-, hon, hkept⟩ := hf.reads hreader more
  rw [drain_eq]
  rcases receive_cases s more with ⟨hn, -⟩ | ⟨_, -, ⟨_, _, _, _, -, ho⟩ | ⟨e, _, _, _, hfatal, ho⟩⟩
  · rw [Situation.reader?, hn] at hreader
    cases hreader
  · obtain ⟨r', -, hr', hi, hleft⟩ := hkept (by rw [ho])
    have hu : (s.receive more).2.2.unread = r'.buffer := by
      rw [unread_of_reader? hr', hi, FrameReader.unread, List.append_nil]
    rw [← hu] at hleft
    rw [ho] at hon hi hleft ⊢
    exact .inl ⟨hon.symm, hr, hi, hleft⟩
  · rw [ho] at hon ⊢
    rw [settle, afterError, if_pos hfatal]
    exact .inr ⟨hon.symm, rfl⟩

end Situation
end ViewerBridge

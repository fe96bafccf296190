import ViewerBridge.Proofs.Bridge.Starting
/-!
# Sending and reading on a bridge

A send that succeeds has written one whole frame after what was left of earlier ones; one that fails
has written a part of that and ends in a teardown. So does every reading that meets an error.
-/
namespace ViewerBridge

@[simp] theorem SessionError.isFatal_ofStream (e : IoError) :
    (SessionError.ofStream e).isFatal = true := by
  unfold SessionError.ofStream
  split <;> rfl

namespace Session

def outgoing (s : Session) (m : Message) : List UInt8 :=
  match s.connection with
  | none => []
  | some c => (c.composer.encode m c.unsent).2

def flushed (s : Session) : Session :=
  { s with connection := s.connection.map ({ · with composer := {}, unsent := [] }) }

@[simp] theorem isConnected_flushed (s : Session) : s.flushed.isConnected = s.isConnected := by
  unfold flushed isConnected
  cases s.connection <;> rfl

theorem send_cases (s : Session) (m : Message) (wait : Duration) (carrier : Carrier) :
    (s.isConnected = true ∧ s.send m wait carrier = (.ok (), s.outgoing m, s.flushed)) ∨
      ∃ e bytes t, s.send m wait carrier = (.error e, bytes, t) ∧ e.isFatal = true ∧
        bytes <+: s.outgoing m := by
  unfold send isConnected outgoing flushed
  rcases s.connection with _ | c
  · exact .inr ⟨_, _, _, rfl, rfl, List.nil_prefix⟩
  · dsimp only
    cases carrier (c.composer.encode m c.unsent).2.length with
    | complete => exact .inl ⟨rfl, rfl⟩
    | stalled n => exact .inr ⟨_, _, _, rfl, rfl, List.take_prefix ..⟩
    | broken n cause =>
      exact .inr ⟨_, _, _, rfl, SessionError.isFatal_ofStream cause, List.take_prefix ..⟩

theorem isFatal_of_readUpTo {limit delivered : Nat} {r : FrameReader} {i : Inbound}
    {e : SessionError} (h : (readUpTo limit delivered r i).result = .error e) :
    e.isFatal = true := by
  fun_induction readUpTo limit delivered r i
  case case1 => cases h
  case case2 ih => exact ih h
  case case3 =>
    cases h
    exact SessionError.isFatal_ofStream _
  case case4 =>
    cases h
    rfl
  case case5 => cases h

theorem read_cases (s : Session) (i : Inbound) :
    (∃ c ms n reader rest, s.connection = some c ∧
      s.read i = (ms, .ok n, { s with connection := some { c with reader } }, rest)) ∨
      ∃ e ms t rest, s.read i = (ms, .error e, t, rest) ∧ e.isFatal = true := by
  unfold read
  rcases s.connection with _ | c
  · exact .inr ⟨_, _, _, _, rfl, rfl⟩
  · dsimp only
    rcases hr : readUpTo (c.reader.buffer.length + i.bytes.length + 1) 0 c.reader i with
      ⟨ms, e | n, reader, rest⟩
    · exact .inr ⟨e, ms, _, rest, rfl, isFatal_of_readUpTo (by rw [hr])⟩
    · exact .inl ⟨c, ms, n, reader, rest, rfl, rfl⟩

end Session

namespace Situation

theorem send_cases (s : Situation) (m : Message) (carrier : Carrier) :
    (s.bridge.session = none ∧ s.send m carrier = (.error (.session .notConnected), s)) ∨
      ∃ session, s.bridge.session = some session ∧
        ((session.isConnected = true ∧ s.send m carrier = (.ok (),
          { s with
            bridge := { s.bridge with session := some session.flushed }
            written := s.written ++ session.outgoing m
            exchanges := s.exchanges ++ [.sent m (.ok ())] })) ∨
        ∃ e bytes, bytes <+: session.outgoing m ∧
          s.send m carrier = (.error (.session e), teardown
            { s with
              written := s.written ++ bytes
              exchanges := s.exchanges ++ [.sent m (.error e)] })) := by
  unfold send
  rcases s.bridge.session with _ | session
  · exact .inl ⟨rfl, rfl⟩
  · refine .inr ⟨session, rfl, ?_⟩
    dsimp only
    rcases session.send_cases m s.bridge.config.requestTimeout carrier with ⟨hc, h⟩ |
      ⟨e, bytes, t, h, he, hb⟩
    · rw [h]
      exact .inl ⟨hc, rfl⟩
    · refine .inr ⟨e, bytes, hb, ?_⟩
      rw [h]
      dsimp only [afterError]
      rw [if_pos he]
      rfl

theorem receive_cases (s : Situation) (more : Inbound) :
    (s.bridge.session = none ∧ s.receive more = ([], none, s)) ∨
      ∃ session, s.bridge.session = some session ∧
        ((∃ c ms reader rest, session.connection = some c ∧ s.receive more = (ms, none,
          { s with
            bridge := { s.bridge with
              session := some { session with connection := some { c with reader } } }
            inbound := rest
            exchanges := s.exchanges ++ [.read ms (.ok ())] })) ∨
        ∃ e ms session' rest, e.isFatal = true ∧ s.receive more = (ms, some e,
          { s with
            bridge := { s.bridge with session := some session' }
            inbound := rest
            exchanges := s.exchanges ++ [.read ms (.error e)] })) := by
  unfold receive
  rcases s.bridge.session with _ | session
  · exact .inl ⟨rfl, rfl⟩
  · refine .inr ⟨session, rfl, ?_⟩
    dsimp only
    rcases session.read_cases (s.inbound.join more) with ⟨c, ms, n, reader, rest, hc, h⟩ |
      ⟨e, ms, session', rest, h, he⟩ <;> rw [h]
    · exact .inl ⟨c, ms, reader, rest, hc, rfl⟩
    · exact .inr ⟨e, ms, session', rest, he, rfl⟩

end Situation
end ViewerBridge

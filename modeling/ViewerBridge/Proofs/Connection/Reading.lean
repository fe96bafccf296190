import ViewerBridge.Connection.Session
import ViewerBridge.Proofs.Connection.Polling
/-!
# What a session reads

A reading gives every message of the bytes that have arrived. It fails if a frame after them is
malformed or the stream has ended, and otherwise leaves the incomplete frame for the next reading.
-/
namespace ViewerBridge.Session
open Frames

/-- How a reading ends: by what is left once all messages are taken, and whether more can come. -/
def ending (left : Except FrameError (List UInt8)) (ended : Bool) : Except SessionError Unit :=
  match left with
  | .error e => .error (.ofStream (.ofFrame e))
  | .ok rest =>
    if ¬ ended then .ok ()
    else if rest = [] then .error .closed
    else .error (.ofStream (.ofFrame .cutShort))

theorem isOk_ending (left : Except FrameError (List UInt8)) (ended : Bool) :
    (ending left ended).isOk = (left.isOk && !ended) := by
  unfold ending
  split
  · rfl
  · cases ended with
    | false => rfl
    | true =>
      rw [if_neg (by simp)]
      split <;> rfl

theorem ofStream_malformed (cause : WireError) :
    SessionError.ofStream (.ofFrame (.malformed cause)) =
      .desynchronized ⟨.invalidData, cause.message⟩ := rfl

theorem ofStream_cutShort :
    SessionError.ofStream (.ofFrame .cutShort) = .io ⟨.other, "bytes remaining on stream"⟩ := rfl

theorem ending_ne_notConnected (left : Except FrameError (List UInt8)) (ended : Bool) :
    ending left ended ≠ .error .notConnected := by
  unfold ending
  split
  · rename_i e
    cases e <;> simp [ofStream_malformed, ofStream_cutShort]
  · split
    · simp
    · split <;> simp [ofStream_cutShort]

/-- What a reader reads of the bytes that it holds and those in the socket, after `delivered` other
messages. -/
structure Reads (r : FrameReader) (i : Inbound) (delivered : Nat) (reading : Reading) : Prop where
  messages : reading.messages = (drain (r.unread i)).1
  result : reading.result.map (fun _ => ()) = ending (drain (r.unread i)).2 i.ended
  count : ∀ n, reading.result = .ok n → n = delivered + reading.messages.length
  kept : reading.result.isOk → reading.reader.Sound ∧ reading.rest = {} ∧
    (drain (r.unread i)).2 = .ok reading.reader.buffer

theorem Reads.result_eq {r : FrameReader} {i : Inbound} {delivered : Nat} {reading : Reading}
    (h : Reads r i delivered reading) : reading.result =
      (ending (drain (r.unread i)).2 i.ended).map fun _ => delivered + reading.messages.length := by
  rw [← h.result]
  rcases hr : reading.result with e | n
  · rfl
  · rw [h.count n hr]
    rfl

theorem readUpTo_reads {limit delivered : Nat} {r : FrameReader} {i : Inbound} (h : r.Sound)
    (hl : (r.unread i).length < limit) :
    Reads r i delivered (readUpTo limit delivered r i) := by
  induction limit generalizing delivered r i with
  | zero => omega
  | succ limit ih =>
    have hp := FrameReader.poll_polled h i
    rw [readUpTo]
    generalize r.poll i = outcome at hp ⊢
    cases hp with
    | @message m r' i' sound ended found =>
      have hless := length_of_next_message found
      have hr : Reads r' i' (delivered + 1) _ :=
        ih sound (by omega : (r'.unread i').length < limit)
      have hd : drain (r.unread i) = prepend [m] (drain (r'.unread i')) := drain_message found
      refine ⟨?_, ?_, fun n hn => ?_, ?_⟩
      · rw [hd]
        exact congrArg (m :: ·) hr.messages
      · rw [hd, ← ended]
        exact hr.result
      · have hcount := hr.count n hn
        rw [hcount, List.length_cons]
        omega
      · rw [hd]
        exact hr.kept
    | failed found =>
      have hd := drain_failed found
      exact ⟨by rw [hd], by rw [hd]; rfl, fun n hn => (nomatch hn), fun hok => nomatch hok⟩
    | waiting sound idle ended found =>
      have hd := drain_nothing found
      exact ⟨by rw [hd], by rw [hd, ended]; rfl, fun n hn => (Except.ok.inj hn).symm,
        fun _ => ⟨sound, rfl, by rw [hd]⟩⟩
    | @cutShort rest _ _ ended found left =>
      have hd := drain_nothing found
      have he : ending (.ok rest) true = .error (.ofStream (.ofFrame .cutShort)) := by
        rw [ending, if_neg (by simp), if_neg left]
      exact ⟨by rw [hd], by rw [hd, ended, he]; rfl, fun n hn => (nomatch hn), fun hok => nomatch hok⟩
    | finished ended found =>
      have hd := drain_nothing found
      exact ⟨by rw [hd], by rw [hd, ended]; rfl, fun n hn => (nomatch hn), fun hok => nomatch hok⟩

theorem read_reads {s : Session} {c : Connection} (hc : s.connection = some c)
    (h : c.reader.Sound) (i : Inbound) :
    ∃ reading, Reads c.reader i 0 reading ∧ s.read i = (reading.messages, reading.result,
      { s with connection := some { c with reader := reading.reader } }, reading.rest) := by
  have hl : (c.reader.unread i).length < c.reader.buffer.length + i.bytes.length + 1 := by
    rw [FrameReader.unread, List.length_append]
    omega
  refine ⟨_, readUpTo_reads h hl, ?_⟩
  rw [read, hc]

end ViewerBridge.Session

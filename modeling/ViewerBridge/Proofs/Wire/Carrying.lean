import ViewerBridge.Proofs.Wire.Chunking
/-!
# What a stream carries

The frames that stand on a stream one after another, with unknown headers anywhere between them, up
to bytes that make no frame. Taking frames off a buffer gives just these.
-/
namespace ViewerBridge.Frames
open Reader ViewerBridge.Field

/-- The bytes are the frames of the messages, among unknown headers, and the rest. -/
inductive Carries : List UInt8 → List Message → List UInt8 → Prop where
  | rest (bytes : List UInt8) : Carries bytes [] bytes
  | unknown {a b c d bytes ms rest} (header : headerKind? a b c d = none)
    (carries : Carries bytes ms rest) : Carries (a :: b :: c :: d :: bytes) ms rest
  | frame {front bytes m ms rest} (read : Message.read front = (.ok m, []))
    (carries : Carries bytes ms rest) : Carries (front ++ bytes) (m :: ms) rest

def Incomplete (bytes : List UInt8) : Prop :=
  ∃ needed available, (Span.frame bytes).1 = .error (.truncated needed available)

/-- A frame stands here that cannot be passed over, or that has a text which is none. -/
def Malformed (cause : WireError) (bytes : List UInt8) : Prop :=
  ((Span.frame bytes).1 = .error cause ∧ StopsStream cause) ∨
    ∃ n, (Span.frame bytes).1 = .ok n ∧ (Message.read (bytes.take n)).1 = .error cause

variable {bytes buffer rest : List UInt8} {ms : List Message} {cause : WireError}

theorem Carries.of_afterUnknown (h : Carries (afterUnknown bytes) ms rest) :
    Carries bytes ms rest := by
  induction bytes using afterUnknown.induct with
  | case1 a b c d bytes hn ih =>
    rw [afterUnknown, if_pos hn] at h
    exact .unknown (by simpa using hn) (ih h)
  | case2 a b c d bytes hk => rwa [afterUnknown, if_neg hk] at h
  | case3 short hs => rwa [afterUnknown_short hs] at h

theorem span_of_unknown {a b c d : UInt8} (h : headerKind? a b c d = none) (bytes : List UInt8) :
    ∃ tag, (Span.frame (a :: b :: c :: d :: bytes)).1 = .error (.unknownKind tag) := by
  have hi := readInt_cons a b c d bytes
  have hk : ∃ tag, readKind (a :: b :: c :: d :: bytes) = (.error (.unknownKind tag), bytes) := by
    rw [readKind, bind_ok hi]
    unfold headerKind? at h
    rw [h]
    exact ⟨_, rfl⟩
  obtain ⟨tag, hk⟩ := hk
  rw [Span.frame, bind_error hk]
  exact ⟨tag, rfl⟩

theorem afterUnknown_of_span (h : ∀ tag, (Span.frame bytes).1 ≠ .error (.unknownKind tag)) :
    afterUnknown bytes = bytes := by
  cases bytes using afterUnknown.induct with
  | case1 a b c d bytes hn =>
    obtain ⟨tag, ht⟩ := span_of_unknown (by simpa using hn) bytes
    exact absurd ht (h tag)
  | case2 a b c d bytes hk => rw [afterUnknown, if_neg hk]
  | case3 short hs => exact afterUnknown_short hs

theorem Incomplete.next_eq (h : Incomplete bytes) : next bytes = (.nothing, bytes) := by
  obtain ⟨n, k, hs⟩ := h
  have ha : afterUnknown bytes = bytes := afterUnknown_of_span (by simp [hs])
  simp [next, ha, hs, WireError.isTruncated]

theorem Malformed.next_eq (h : Malformed cause bytes) :
    ∃ rest, next bytes = (.failed (.malformed cause), rest) := by
  obtain ⟨hs, hc⟩ | ⟨n, hs, hr⟩ := h
  · have ha : afterUnknown bytes = bytes := by
      refine afterUnknown_of_span fun tag ht => ?_
      rw [hs] at ht
      cases ht
      exact hc
    have ht : cause.isTruncated = false := by
      cases cause <;> first | rfl | exact hc.elim
    simp [next, ha, hs, ht]
  · have ha : afterUnknown bytes = bytes := afterUnknown_of_span (by simp [hs])
    simp [next, ha, hs, hr]

theorem next_of_frame {front : List UInt8} {m : Message} (h : Message.read front = (.ok m, []))
    (bytes : List UInt8) : next (front ++ bytes) = (.message m, bytes) := by
  obtain ⟨n, hs, hn⟩ := Message.span_of_read h
  have hlen : n = front.length := hn
  have ha : afterUnknown front = front := afterUnknown_of_span (by simp [hs])
  have hfront : next front = (.message m, []) := by
    simp [next, ha, hs, hlen, h]
  exact next_append hfront (by simp) bytes

theorem drain_unknown {a b c d : UInt8} (h : headerKind? a b c d = none) (bytes : List UInt8) :
    drain (a :: b :: c :: d :: bytes) = drain bytes :=
  drain_congr (next_congr (by rw [afterUnknown, if_pos (by simp [h])]))

theorem Carries.drain_eq (h : Carries bytes ms rest) : drain bytes = prepend ms (drain rest) := by
  induction h with
  | rest bytes => rfl
  | unknown header carries ih => rw [drain_unknown header, ih]
  | @frame front bytes m ms rest read carries ih =>
    rw [drain_message (next_of_frame read bytes), ih]
    exact (prepend_append [m] ms _).symm

theorem drain_append_congr (h : drain bytes = prepend ms (drain buffer)) (more : List UInt8) :
    drain (bytes ++ more) = prepend ms (drain (buffer ++ more)) := by
  rw [drain_append, drain_append, h]
  rcases drain buffer with ⟨ms', e | rest⟩
  · rfl
  · exact prepend_append ms ms' _

theorem incomplete_of_next (h : next bytes = (.nothing, rest)) : Incomplete rest := by
  have hr := next_nothing h
  rcases hs : Span.frame (afterUnknown bytes) with ⟨e | n, tail⟩
  · cases e with
    | truncated needed available => exact ⟨needed, available, by rw [hr, hs]⟩
    | _ => simp [next, hs, WireError.isTruncated] at h
  · simp only [next, hs, List.splitAt_eq] at h
    split at h <;> cases h

theorem malformed_of_next {e : FrameError} (h : next bytes = (.failed e, rest)) :
    ∃ cause, e = .malformed cause ∧ Malformed cause (afterUnknown bytes) := by
  obtain ⟨cause, rfl, hc⟩ := stopsStream_of_next h
  refine ⟨cause, rfl, ?_⟩
  rcases hs : Span.frame (afterUnknown bytes) with ⟨e | n, tail⟩
  · refine .inl ⟨?_, hc⟩
    rw [hs]
    simp only [next, hs] at h
    split at h <;> cases h
    rfl
  · refine .inr ⟨n, by rw [hs], ?_⟩
    simp only [next, hs, List.splitAt_eq] at h
    split at h <;> cases h
    assumption

theorem Carries.cons_of_next {m : Message} (h : next bytes = (.message m, buffer))
    (hc : Carries buffer ms rest) : Carries bytes (m :: ms) rest := by
  refine .of_afterUnknown ?_
  rcases hs : Span.frame (afterUnknown bytes) with ⟨e | n, tail⟩
  · simp only [next, hs] at h
    split at h <;> cases h
  · have hread := Message.read_take_of_span hs
    rw [← List.take_append_drop n (afterUnknown bytes)]
    simp only [next, hs, List.splitAt_eq] at h
    rcases hread with ⟨m', hr⟩ | ⟨rest', hr⟩ <;> rw [hr] at h <;> cases h
    exact .frame hr hc

theorem drain_eq_ok_iff : drain bytes = (ms, .ok rest) ↔ Carries bytes ms rest ∧ Incomplete rest := by
  constructor
  · intro h
    induction bytes using frames_induction generalizing ms with
    | @message bytes buffer m hn ih =>
      rw [drain_message hn] at h
      obtain ⟨rfl, hrest⟩ := Prod.ext_iff.mp h
      obtain ⟨hc, hi⟩ := ih (Prod.ext rfl hrest)
      exact ⟨.cons_of_next hn hc, hi⟩
    | failed hn =>
      rw [drain_failed hn] at h
      cases h
    | nothing hn =>
      rw [drain_nothing hn] at h
      cases h
      have hr := next_nothing hn
      subst hr
      exact ⟨.of_afterUnknown (.rest _), incomplete_of_next hn⟩
  · rintro ⟨hc, hi⟩
    rw [hc.drain_eq, drain_nothing hi.next_eq]
    simp [prepend]

theorem drain_eq_error_iff {e : FrameError} : drain bytes = (ms, .error e) ↔
    ∃ cause rest, e = .malformed cause ∧ Carries bytes ms rest ∧ Malformed cause rest := by
  constructor
  · intro h
    induction bytes using frames_induction generalizing ms with
    | @message bytes buffer m hn ih =>
      rw [drain_message hn] at h
      obtain ⟨rfl, herror⟩ := Prod.ext_iff.mp h
      obtain ⟨cause, rest, he, hc, hm⟩ := ih (Prod.ext rfl herror)
      exact ⟨cause, rest, he, .cons_of_next hn hc, hm⟩
    | failed hn =>
      rw [drain_failed hn] at h
      cases h
      obtain ⟨cause, he, hm⟩ := malformed_of_next hn
      exact ⟨cause, _, he, .of_afterUnknown (.rest _), hm⟩
    | nothing hn =>
      rw [drain_nothing hn] at h
      cases h
  · rintro ⟨cause, rest, rfl, hc, hm⟩
    obtain ⟨rest', hn⟩ := hm.next_eq
    rw [hc.drain_eq, drain_failed hn]
    simp [prepend]

end ViewerBridge.Frames

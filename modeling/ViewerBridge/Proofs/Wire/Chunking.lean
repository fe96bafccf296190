import ViewerBridge.Proofs.Wire.Passing
/-!
# Frames out of chunks

A stream is cut into chunks wherever it happens to be cut. Whatever one look at the buffer has found
it finds again when more bytes stand after those at hand, so the messages that are taken off, the
error that ends the taking and what is left in the buffer are those of the whole stream.
-/
namespace ViewerBridge.Frames
open Reader ViewerBridge.Field WireError

theorem readInt_cons (a b c d : UInt8) (rest : List UInt8) :
    readInt (a :: b :: c :: d :: rest)
      = (.ok (UInt32.ofNat (LittleEndian.value [a, b, c, d])).toInt32, rest) := rfl

theorem readKind_of_header {a b c d : UInt8} {k : Kind} (h : headerKind? a b c d = some k)
    (rest : List UInt8) : readKind (a :: b :: c :: d :: rest) = (.ok k, rest) := by
  have hi := readInt_cons a b c d rest
  rw [readKind, bind_ok hi]
  unfold headerKind? at h
  rw [h]
  rfl

theorem afterUnknown_short {short : List UInt8}
    (hs : ∀ a b c d rest, short = a :: b :: c :: d :: rest → False) :
    afterUnknown short = short := by
  rw [afterUnknown]
  exact hs

theorem length_short {short : List UInt8}
    (hs : ∀ a b c d rest, short = a :: b :: c :: d :: rest → False) : short.length < 4 := by
  match short, hs with
  | [], _ | [_], _ | [_, _], _ | [_, _, _], _ => simp
  | a :: b :: c :: d :: rest, hs => exact absurd rfl (hs a b c d rest)

theorem readKind_afterUnknown (buffer : List UInt8) :
    (∃ k rest, readKind (afterUnknown buffer) = (.ok k, rest)) ∨
      (afterUnknown buffer).length < 4 := by
  induction buffer using afterUnknown.induct with
  | case1 a b c d rest h ih => rwa [afterUnknown, if_pos h]
  | case2 a b c d rest h =>
    obtain ⟨k, hk⟩ := Option.ne_none_iff_exists'.mp (by simpa using h)
    rw [afterUnknown, if_neg h]
    exact .inl ⟨k, rest, readKind_of_header hk rest⟩
  | case3 short hs =>
    rw [afterUnknown_short hs]
    exact .inr (length_short hs)

theorem afterUnknown_of_readKind {buffer rest : List UInt8} {k : Kind}
    (h : readKind buffer = (.ok k, rest)) : afterUnknown buffer = buffer := by
  induction buffer using afterUnknown.induct with
  | case1 a b c d tail hn _ =>
    have hi := readInt_cons a b c d tail
    rw [readKind, bind_ok hi] at h
    unfold headerKind? at hn
    rw [Option.isNone_iff_eq_none.mp hn] at h
    cases h
  | case2 a b c d tail hk => rw [afterUnknown, if_neg hk]
  | case3 short hs => exact afterUnknown_short hs

theorem afterUnknown_append (buffer more : List UInt8) :
    afterUnknown (buffer ++ more) = afterUnknown (afterUnknown buffer ++ more) := by
  induction buffer using afterUnknown.induct with
  | case1 a b c d rest h ih =>
    rw [afterUnknown, if_pos h, ← ih]
    simp only [List.cons_append]
    rw [afterUnknown, if_pos h]
  | case2 a b c d rest h => rw [afterUnknown, if_neg h]
  | case3 short hs => rw [afterUnknown_short hs]

theorem readKind_of_isFinal {buffer : List UInt8}
    (h : isFinal (Span.frame (afterUnknown buffer)).1 = true) :
    ∃ k rest, readKind (afterUnknown buffer) = (.ok k, rest) := by
  rcases readKind_afterUnknown buffer with hk | hl
  · exact hk
  · have hi : readKind (afterUnknown buffer)
        = (.error (.truncated 4 (afterUnknown buffer).length), afterUnknown buffer) := by
      have ht := take_of_lt hl
      exact bind_error (bind_error (bind_error (bind_error ht)))
    rw [Span.frame, bind_error hi] at h
    cases h

theorem afterUnknown_append_of_isFinal {buffer : List UInt8}
    (h : isFinal (Span.frame (afterUnknown buffer)).1 = true) (more : List UInt8) :
    afterUnknown (buffer ++ more) = afterUnknown buffer ++ more := by
  obtain ⟨k, rest, hk⟩ := readKind_of_isFinal h
  rw [afterUnknown_append]
  exact afterUnknown_of_readKind (streams_readKind.ok_append hk more)

/-- What a look at the buffer has found stays, and what comes later stays behind it. -/
theorem next_append {buffer rest : List UInt8} {o : Outcome} (h : next buffer = (o, rest))
    (ho : o ≠ .nothing) (more : List UInt8) : next (buffer ++ more) = (o, rest ++ more) := by
  rcases hs : Span.frame (afterUnknown buffer) with ⟨e | n, tail⟩
  · cases he : e.isTruncated with
    | true =>
      simp only [next, hs, he] at h
      exact absurd (congrArg Prod.fst h).symm ho
    | false =>
      have hb := afterUnknown_append_of_isFinal (by rw [hs]; simp [isFinal, he]) more
      have hs' := Span.streams_frame.error_append hs he more
      simp only [next, hs, he] at h
      simp only [next, hb, hs', he]
      cases h
      rfl
  · have hb := afterUnknown_append_of_isFinal (by rw [hs]; rfl) more
    have hs' := Span.streams_frame.ok_append hs more
    have hn : n ≤ (afterUnknown buffer).length := by
      have hc := Span.counts_frame _ n tail hs
      omega
    simp only [next, hs, List.splitAt_eq] at h
    simp only [next, hb, hs', List.splitAt_eq, List.take_append_of_le_length hn,
      List.drop_append_of_le_length hn]
    split at h <;> · cases h; rfl

theorem next_congr {buffer other : List UInt8} (h : afterUnknown buffer = afterUnknown other) :
    next buffer = next other := by
  simp only [next, h]

theorem next_nothing {buffer rest : List UInt8} (h : next buffer = (.nothing, rest)) :
    rest = afterUnknown buffer := by
  rcases hs : Span.frame (afterUnknown buffer) with ⟨e | n, tail⟩
  · simp only [next, hs] at h
    split at h <;> cases h
    rfl
  · simp only [next, hs, List.splitAt_eq] at h
    split at h <;> cases h

theorem next_append_of_nothing {buffer rest : List UInt8} (h : next buffer = (.nothing, rest))
    (more : List UInt8) : next (buffer ++ more) = next (rest ++ more) := by
  apply next_congr
  rw [next_nothing h]
  exact afterUnknown_append buffer more

theorem next_again {buffer rest : List UInt8} (h : next buffer = (.nothing, rest)) :
    next rest = (.nothing, rest) := by
  have ha := next_append_of_nothing h []
  rwa [List.append_nil, List.append_nil, h, eq_comm] at ha

theorem length_afterUnknown_le (buffer : List UInt8) :
    (afterUnknown buffer).length ≤ buffer.length := by
  induction buffer using afterUnknown.induct with
  | case1 a b c d rest h ih =>
    rw [afterUnknown, if_pos h]
    simp only [List.length_cons]
    omega
  | case2 a b c d rest h => exact Nat.le_of_eq (by rw [afterUnknown, if_neg h])
  | case3 short hs => exact Nat.le_of_eq (by rw [afterUnknown_short hs])

theorem length_of_next_message {buffer rest : List UInt8} {m : Message}
    (h : next buffer = (.message m, rest)) : rest.length < buffer.length := by
  have hl := length_afterUnknown_le buffer
  rcases hs : Span.frame (afterUnknown buffer) with ⟨e | n, tail⟩
  · simp only [next, hs] at h
    split at h <;> cases h
  · have hn : 4 + tail.length ≤ (afterUnknown buffer).length := by
      have hfin : isFinal (Span.frame (afterUnknown buffer)).1 = true := by rw [hs]; rfl
      obtain ⟨k, rest', hk⟩ := readKind_of_isFinal hfin
      have hc := Span.consumes_readKind _ k rest' hk
      have ht := (streams_bind (Span.streams_fields k) fun m => streams_pure (4 + m)).suffix rest'
      rw [Span.frame, bind_ok hk] at hs
      rw [hs] at ht
      have hl : tail.length ≤ rest'.length := ht.length_le
      omega
    have hc := Span.counts_frame _ n tail hs
    simp only [next, hs, List.splitAt_eq] at h
    split at h <;> cases h
    rw [List.length_drop]
    omega

@[elab_as_elim]
theorem frames_induction {motive : List UInt8 → Prop}
    (message : ∀ {buffer rest m}, next buffer = (.message m, rest) → motive rest → motive buffer)
    (failed : ∀ {buffer rest e}, next buffer = (.failed e, rest) → motive buffer)
    (nothing : ∀ {buffer rest}, next buffer = (.nothing, rest) → motive buffer)
    (buffer : List UInt8) : motive buffer := by
  induction hl : buffer.length using Nat.strongRecOn generalizing buffer with
  | _ l ih =>
    subst hl
    rcases hn : next buffer with ⟨m | e | _, rest⟩
    · exact message hn (ih rest.length (length_of_next_message hn) rest rfl)
    · exact failed hn
    · exact nothing hn

theorem takeUpTo_next_of_lt {limit limit' : Nat} {buffer : List UInt8}
    (h : buffer.length < limit) (h' : buffer.length < limit') :
    takeUpTo next limit buffer = takeUpTo next limit' buffer := by
  induction limit generalizing limit' buffer with
  | zero => omega
  | succ limit ih =>
    cases limit' with
    | zero => omega
    | succ limit' =>
      rcases hn : next buffer with ⟨_ | _ | _, rest⟩
      · have hl := length_of_next_message hn
        have hlim : rest.length < limit := by omega
        have hlim' : rest.length < limit' := by omega
        simp only [takeUpTo, hn, ih hlim hlim']
      · simp only [takeUpTo, hn]
      · simp only [takeUpTo, hn]

def prepend (ms : List Message) (r : List Message × Except FrameError (List UInt8)) :
    List Message × Except FrameError (List UInt8) := (ms ++ r.1, r.2)

theorem prepend_append (ms ms' : List Message)
    (r : List Message × Except FrameError (List UInt8)) :
    prepend (ms ++ ms') r = prepend ms (prepend ms' r) := by
  simp [prepend]

theorem drain_message {buffer rest : List UInt8} {m : Message}
    (h : next buffer = (.message m, rest)) : drain buffer = prepend [m] (drain rest) := by
  have hl := length_of_next_message h
  have ht : takeUpTo next (buffer.length + 1) buffer
      = (m :: (takeUpTo next (rest.length + 1) rest).1, (takeUpTo next (rest.length + 1) rest).2) := by
    have hi := takeUpTo_next_of_lt hl (Nat.lt_succ_self rest.length)
    rw [takeUpTo, h, ← hi]
  rw [drain, drain, ht]
  rcases takeUpTo next (rest.length + 1) rest with ⟨ms, _ | e, rest'⟩ <;> rfl

theorem drain_failed {buffer rest : List UInt8} {e : FrameError}
    (h : next buffer = (.failed e, rest)) : drain buffer = ([], .error e) := by
  simp only [drain, takeUpTo, h]

theorem drain_nothing {buffer rest : List UInt8} (h : next buffer = (.nothing, rest)) :
    drain buffer = ([], .ok rest) := by
  simp only [drain, takeUpTo, h]

theorem drain_congr {buffer other : List UInt8} (h : next buffer = next other) :
    drain buffer = drain other := by
  rcases ho : next other with ⟨m | e | _, rest⟩ <;> rw [ho] at h
  · rw [drain_message h, drain_message ho]
  · rw [drain_failed h, drain_failed ho]
  · rw [drain_nothing h, drain_nothing ho]

/-- Taking frames off more bytes begins with those at hand; if these have led to an error, the rest
is not looked at. -/
theorem drain_append (buffer more : List UInt8) :
    drain (buffer ++ more) =
      match drain buffer with
      | (ms, .ok rest) => prepend ms (drain (rest ++ more))
      | (ms, .error e) => (ms, .error e) := by
  induction buffer using frames_induction with
  | @message buffer rest m hn ih =>
    rw [drain_message hn, drain_message (next_append hn (by simp) more), ih]
    rcases drain rest with ⟨ms, e | rest'⟩
    · rfl
    · exact (prepend_append [m] ms _).symm
  | failed hn => rw [drain_failed hn, drain_failed (next_append hn (by simp) more)]
  | nothing hn =>
    rw [drain_nothing hn]
    exact drain_congr (next_append_of_nothing hn more)

theorem next_of_drain {buffer rest : List UInt8} {ms : List Message}
    (h : drain buffer = (ms, .ok rest)) : next rest = (.nothing, rest) := by
  induction buffer using frames_induction generalizing ms with
  | @message buffer rest' m hn ih =>
    rw [drain_message hn] at h
    exact ih (Prod.ext rfl (Prod.mk.inj h).2)
  | failed hn =>
    rw [drain_failed hn] at h
    cases h
  | nothing hn =>
    rw [drain_nothing hn] at h
    cases h
    exact next_again hn

theorem feed_of_settled {buffer : List UInt8} (h : next buffer = (.nothing, buffer))
    (chunks : List (List UInt8)) : feed buffer chunks = drain (buffer ++ chunks.flatten) := by
  induction chunks generalizing buffer with
  | nil => rw [feed, List.flatten_nil, List.append_nil, drain_nothing h]
  | cons chunk chunks ih =>
    rw [feed, List.flatten_cons, ← List.append_assoc, drain_append (buffer ++ chunk)]
    rcases hd : drain (buffer ++ chunk) with ⟨ms, e | rest⟩
    · rfl
    · simp only [ih (next_of_drain hd)]
      rfl

/-- Whether taking frames off a stream can fail over this: over a length, the code of an element type
or a text. -/
def StopsStream : WireError → Prop
  | .oversized _ | .unknownElement _ | .invalidText => True
  | .truncated .. | .unknownKind _ => False

theorem stopsStream_of_next {buffer rest : List UInt8} {e : FrameError}
    (h : next buffer = (.failed e, rest)) : ∃ cause, e = .malformed cause ∧ StopsStream cause := by
  rcases hs : Span.frame (afterUnknown buffer) with ⟨cause | n, tail⟩
  · cases hc : cause.isTruncated with
    | true =>
      simp only [next, hs, hc] at h
      cases h
    | false =>
      simp only [next, hs, hc] at h
      cases h
      have hfin : isFinal (Span.frame (afterUnknown buffer)).1 = true := by
        rw [hs]
        simp [isFinal, hc]
      obtain ⟨k, rest', hk⟩ := readKind_of_isFinal hfin
      have hform := Span.formal_of_frame hk hs
      refine ⟨cause, rfl, ?_⟩
      cases cause with
      | truncated => cases hc
      | unknownKind | invalidText => exact hform.elim
      | unknownElement | oversized => trivial
  · simp only [next, hs, List.splitAt_eq] at h
    rcases Message.read_take_of_span hs with ⟨m, hr⟩ | ⟨rest', hr⟩ <;> rw [hr] at h <;> cases h
    exact ⟨_, rfl, trivial⟩

theorem stopsStream_of_drain {buffer : List UInt8} {ms : List Message} {e : FrameError}
    (h : drain buffer = (ms, .error e)) : ∃ cause, e = .malformed cause ∧ StopsStream cause := by
  induction buffer using frames_induction generalizing ms with
  | message hn ih =>
    rw [drain_message hn] at h
    exact ih (Prod.ext rfl (Prod.mk.inj h).2)
  | failed hn =>
    rw [drain_failed hn] at h
    cases h
    exact stopsStream_of_next hn
  | nothing hn =>
    rw [drain_nothing hn] at h
    cases h

/-- Cutting a stream into chunks changes neither its messages nor its first error nor, where there
is none, what is left. What is left holds no further frame, and an error is about a length, the code
of an element type or a text. -/
theorem feed_chunks (chunks : List (List UInt8)) :
    feed [] chunks = drain chunks.flatten ∧
      (∀ rest, (feed [] chunks).2 = .ok rest → next rest = (.nothing, rest)) ∧
      ∀ e, (feed [] chunks).2 = .error e →
        ∃ cause, e = .malformed cause ∧ StopsStream cause := by
  have hf : feed [] chunks = drain chunks.flatten := feed_of_settled rfl chunks
  refine ⟨hf, ?_, ?_⟩
  · intro rest h
    rw [hf] at h
    exact next_of_drain (Prod.ext rfl h)
  · intro e h
    rw [hf] at h
    exact stopsStream_of_drain (Prod.ext rfl h)

end ViewerBridge.Frames

import ViewerBridge.Proofs.Wire.Streaming
/-!
# Passing over what is read

Passing over bytes and reading them come to the same end: they stop at the same place, or they
refuse for the same reason, except that only reading looks into texts. What passing over a frame
gives is the number of bytes that it has passed.
-/
namespace ViewerBridge

/-- Whether an error is about the form of a frame: a length, or the code of an element type. -/
def WireError.IsFormal : WireError → Prop
  | .truncated .. | .oversized _ | .unknownElement _ => True
  | .unknownKind _ | .invalidText => False

namespace Reader

variable {α β γ δ : Type}

/-- How the outcome of passing over bytes stands to that of reading them. -/
inductive Matches : Except WireError α × List UInt8 → Except WireError β × List UInt8 → Prop where
  | passed (a : α) (b : β) (rest : List UInt8) : Matches (.ok a, rest) (.ok b, rest)
  /-- Reading has found bytes that are no text. -/
  | noText (passed : Except WireError α × List UInt8) (rest : List UInt8) :
    Matches passed (.error .invalidText, rest)
  | refused (e : WireError) (rest rest' : List UInt8) :
    Matches (.error e, rest) (.error e, rest')
  /-- Both miss bytes, though perhaps not for the same piece. -/
  | short (n k n' k' : Nat) (rest rest' : List UInt8) :
    Matches (.error (.truncated n k), rest) (.error (.truncated n' k'), rest')

def Passes (q : Reader α) (r : Reader β) : Prop := ∀ s, Matches (q s) (r s)

theorem passes_pure (a : α) (b : β) : Passes (pure a) (pure b) := fun s => .passed a b s

theorem Passes.bind {q : Reader α} {r : Reader β} {g : α → Reader γ} {f : β → Reader δ}
    (h : Passes q r) (hgf : ∀ a b, Passes (g a) (f b)) : Passes (q >>= g) (r >>= f) := by
  intro s
  have hs := h s
  rw [bind_apply, bind_apply]
  generalize q s = passed at hs ⊢
  generalize r s = read at hs ⊢
  cases hs with
  | passed a b rest => exact hgf a b rest
  | noText => exact .noText _ _
  | refused e => exact .refused e _ _
  | short n k n' k' => exact .short n k n' k' _ _

theorem passes_bind_same (r : Reader α) {g : α → Reader γ} {f : α → Reader δ}
    (hgf : ∀ a, Passes (g a) (f a)) : Passes (r >>= g) (r >>= f) := by
  intro s
  rw [bind_apply, bind_apply]
  rcases r s with ⟨e | a, rest⟩
  · exact .refused e rest rest
  · exact hgf a rest

theorem Passes.look {q : Reader α} {r : Reader β} {f : β → Reader δ} (h : Passes q r)
    (hf : ∀ b s, (∃ d, f b s = (.ok d, s)) ∨ ∃ rest, f b s = (.error .invalidText, rest)) :
    Passes q (r >>= f) := by
  intro s
  have hs := h s
  generalize q s = passed at hs ⊢
  rcases hr : r s with ⟨e | b, rest⟩ <;> rw [hr] at hs
  · rw [bind_error hr]
    cases hs with
    | noText => exact .noText _ _
    | refused => exact .refused _ _ _
    | short => exact .short _ _ _ _ _ _
  · rw [bind_ok hr]
    cases hs with
    | passed a =>
      rcases hf b rest with ⟨d, hd⟩ | ⟨rest', hd⟩ <;> rw [hd]
      · exact .passed a d rest
      · exact .noText _ _

theorem Passes.reads_as {q : Reader α} {r : Reader β} (h : Passes q r) (f : β → δ) :
    Passes q (r >>= fun b => pure (f b)) :=
  h.look fun b _ => .inl ⟨f b, rfl⟩

theorem Passes.passes_as {q : Reader α} {r : Reader β} (h : Passes q r) (g : α → γ) :
    Passes (q >>= fun a => pure (g a)) r := by
  intro s
  have hs := h s
  generalize r s = read at hs ⊢
  rcases hq : q s with ⟨e | a, rest⟩ <;> rw [hq] at hs
  · rw [bind_error hq]
    cases hs with
    | noText => exact .noText _ _
    | refused => exact .refused _ _ _
    | short => exact .short _ _ _ _ _ _
  · rw [bind_ok hq]
    cases hs with
    | passed _ b => exact .passed (g a) b rest
    | noText => exact .noText _ _

theorem passes_skip (n : Nat) : Passes (skip n) (take n) := by
  intro s
  rw [skip_eq, take_eq]
  split
  · exact .passed _ _ _
  · exact .refused _ _ _

theorem skip_bind (n : Nat) (g : Nat → Reader α) : skip n >>= g = skip n >>= fun _ => g n := by
  funext s
  rw [bind_apply, bind_apply, skip_eq]
  by_cases h : n ≤ s.length <;> simp only [h, if_true, if_false]

theorem Passes.skip_add {m n : Nat} {r : Reader β} {g : Reader γ} {f : β → Reader δ}
    (h : Passes (skip m) r) (hgf : ∀ b, Passes (skip n >>= fun _ => g) (f b)) :
    Passes (skip (m + n) >>= fun _ => g) (r >>= f) := by
  intro s
  have hs := h s
  have hm := skip_eq m s
  have hmn := skip_eq (m + n) s
  by_cases hl : m ≤ s.length
  · rw [hm, if_pos hl] at hs
    cases hr : r s with
    | mk out rest =>
      rw [hr] at hs
      cases hs with
      | noText => rw [bind_error hr]; exact .noText _ _
      | passed a b =>
        rw [bind_ok hr]
        have hn := hgf b (s.drop m)
        have hd := skip_eq n (s.drop m)
        rw [List.length_drop] at hd
        by_cases hl' : m + n ≤ s.length
        · rw [if_pos hl'] at hmn
          rw [if_pos (by omega), List.drop_drop] at hd
          rw [bind_ok hd] at hn
          rw [bind_ok hmn]
          exact hn
        · rw [if_neg hl'] at hmn
          rw [if_neg (by omega)] at hd
          rw [bind_error hd] at hn
          rw [bind_error hmn]
          generalize f b (s.drop m) = read at hn
          cases hn with
          | noText => exact .noText _ _
          | refused => exact .short _ _ _ _ _ _
          | short => exact .short _ _ _ _ _ _
  · rw [hm, if_neg hl] at hs
    rw [if_neg (by omega)] at hmn
    rw [bind_error hmn]
    cases hr : r s with
    | mk out rest =>
      rw [hr] at hs
      rw [bind_apply, hr]
      cases hs with
      | noText => exact .noText _ _
      | refused => exact .short _ _ _ _ _ _
      | short => exact .short _ _ _ _ _ _

theorem Passes.repeated {item : Reader Nat} {ritem : Reader β} (h : Passes item ritem)
    (n passed : Nat) : Passes (skipOnto item n passed) (Reader.repeated ritem n) := by
  induction n generalizing passed with
  | zero => exact passes_pure passed []
  | succ n ih =>
    rw [skipOnto_succ, repeated_succ]
    apply h.bind
    intro k b
    exact (ih (passed + k)).reads_as (b :: ·)

def Consumes (c : Nat) (r : Reader α) : Prop :=
  ∀ s a rest, r s = (.ok a, rest) → c + rest.length = s.length

def Counts (k : Nat) (q : Reader Nat) : Prop :=
  ∀ s n rest, q s = (.ok n, rest) → n + rest.length = k + s.length

theorem consumes_take (n : Nat) : Consumes n (take n) := by
  intro s bs rest h
  obtain ⟨rfl, hn⟩ := take_eq_ok h
  rw [List.length_append, hn]

theorem Consumes.bind {c : Nat} {r : Reader α} {f : α → Reader β} (h : Consumes c r)
    (hf : ∀ a, Consumes 0 (f a)) : Consumes c (r >>= f) := by
  intro s b rest hb
  obtain ⟨a, mid, hr, hb⟩ := bind_eq_ok hb
  have hc : c + mid.length = s.length := h s a mid hr
  have hz : 0 + rest.length = mid.length := hf a mid b rest hb
  omega

theorem consumes_pure (a : α) : Consumes 0 (pure a : Reader α) := by
  intro s b rest h
  obtain ⟨-, rfl⟩ := pure_eq_ok h
  exact Nat.zero_add _

theorem consumes_fail (c : Nat) (e : WireError) : Consumes c (fail e : Reader α) :=
  fun _ _ _ h => nomatch h

theorem counts_pure (n : Nat) : Counts n (pure n) := by
  intro s m rest h
  cases h
  rfl

theorem Consumes.counts {c k : Nat} {r : Reader α} {f : α → Reader Nat} (h : Consumes c r)
    (hf : ∀ a, Counts (k + c) (f a)) : Counts k (r >>= f) := by
  intro s n rest hn
  obtain ⟨a, mid, hr, hn⟩ := bind_eq_ok hn
  have hc : c + mid.length = s.length := h s a mid hr
  have hmid : n + rest.length = k + c + mid.length := hf a mid n rest hn
  omega

theorem Counts.bind {k : Nat} {q : Reader Nat} {f : Nat → Reader Nat} (h : Counts 0 q)
    (hf : ∀ m, Counts (k + m) (f m)) : Counts k (q >>= f) := by
  intro s n rest hn
  obtain ⟨m, mid, hq, hn⟩ := bind_eq_ok hn
  have hm : m + mid.length = 0 + s.length := h s m mid hq
  have hmid : n + rest.length = k + m + mid.length := hf m mid n rest hn
  omega

theorem counts_skip (n : Nat) : Counts 0 (skip n) := by
  rw [skip_eq_bind]
  apply (consumes_take n).counts
  intro _
  rw [Nat.zero_add]
  exact counts_pure n

theorem Counts.repeated {item : Reader Nat} (h : Counts 0 item) (n passed : Nat) :
    Counts passed (skipOnto item n passed) := by
  induction n generalizing passed with
  | zero => exact counts_pure passed
  | succ n ih =>
    rw [skipOnto_succ]
    exact h.bind fun m => ih (passed + m)

def Formal (r : Reader α) : Prop := ∀ s e rest, r s = (.error e, rest) → e.IsFormal

theorem formal_pure (a : α) : Formal (pure a : Reader α) := fun _ _ _ h => nomatch h

theorem formal_fail {e : WireError} (he : e.IsFormal) : Formal (fail e : Reader α) := by
  intro s e' rest h
  cases h
  exact he

theorem formal_take (n : Nat) : Formal (take n) := by
  intro s e rest h
  rw [take_eq] at h
  split at h <;> cases h
  trivial

theorem Formal.bind {r : Reader α} {f : α → Reader β} (h : Formal r) (hf : ∀ a, Formal (f a)) :
    Formal (r >>= f) := by
  intro s e rest he
  rcases hr : r s with ⟨e' | a, rest'⟩
  · rw [bind_error hr] at he
    cases he
    exact h s _ _ hr
  · rw [bind_ok hr] at he
    exact hf a rest' e rest he

theorem formal_skip (n : Nat) : Formal (skip n) := by
  rw [skip_eq_bind]
  exact (formal_take n).bind fun _ => formal_pure n

theorem Formal.repeated {item : Reader Nat} (h : Formal item) (n passed : Nat) :
    Formal (skipOnto item n passed) := by
  induction n generalizing passed with
  | zero => exact formal_pure passed
  | succ n ih =>
    rw [skipOnto_succ]
    exact h.bind fun k => ih (passed + k)

end Reader

namespace Span
open Reader ViewerBridge.Field

theorem passes_readNat (w : Nat) : Passes (skip w) (readNat w) :=
  (passes_skip w).reads_as _

theorem passes_readInt : Passes (skip 4) readInt :=
  ((passes_readNat 4).reads_as _).reads_as _

theorem passes_readBytes : Passes sized readBytes :=
  passes_bind_same _ fun n => (passes_skip n).passes_as _

theorem passes_readText : Passes sized readText := by
  apply passes_readBytes.look
  intro bs s
  cases Utf8.decode? bs with
  | some text => exact .inl ⟨text, rfl⟩
  | none => exact .inr ⟨s, rfl⟩

theorem passes_texts : Passes texts (Field.read (.list .text)) :=
  passes_bind_same _ fun n => passes_readText.repeated n 8

theorem passes_buffer : Passes buffer Message.readBuffer := by
  apply passes_readText.bind; intro _ variableName
  apply passes_readText.bind; intro _ displayName
  apply passes_readText.bind; intro _ pixelLayout
  rw [skip_bind]
  apply Passes.skip_add (m := 1) (n := 16) ((passes_readNat 1).reads_as _ |>.reads_as _)
  intro transpose
  apply Passes.skip_add (m := 4) (n := 12) passes_readInt; intro width
  apply Passes.skip_add (m := 4) (n := 8) passes_readInt; intro height
  apply Passes.skip_add (m := 4) (n := 4) passes_readInt; intro channels
  apply passes_readInt.bind; intro _ rowStride
  apply passes_bind_same; intro element
  exact passes_readBytes.bind fun _ payload => passes_pure _ _

theorem passes_fields (k : Kind) : Passes (fields k) (Message.readFields k) := by
  cases k with
  | symbolsQuery => exact passes_pure _ _
  | symbolsAnswer => exact passes_texts.reads_as _
  | availableSymbols => exact passes_texts.reads_as _
  | bufferContents => exact passes_buffer.reads_as _
  | plotRequest => exact passes_readText.reads_as _

theorem passes_frame : Passes frame Message.read :=
  passes_bind_same _ fun k => (passes_fields k).passes_as _

theorem consumes_readNat (w : Nat) : Consumes w (readNat w) :=
  (consumes_take w).bind fun _ => consumes_pure _

theorem consumes_readInt : Consumes 4 readInt :=
  ((consumes_readNat 4).bind fun _ => consumes_pure _).bind fun _ => consumes_pure _

theorem consumes_readLength : Consumes 8 readLength := by
  apply (consumes_readNat 8).bind
  intro n
  split
  · exact consumes_pure n
  · exact consumes_fail 0 _

theorem consumes_readKind : Consumes 4 readKind := by
  apply consumes_readInt.bind
  intro tag
  split
  · next kind _ => exact consumes_pure kind
  · exact consumes_fail 0 _

theorem consumes_readElement : Consumes 4 readElement := by
  apply consumes_readInt.bind
  intro code
  split
  · next element _ => exact consumes_pure element
  · exact consumes_fail 0 _

theorem counts_sized : Counts 0 sized :=
  consumes_readLength.counts fun n => (counts_skip n).bind fun m => by
    rw [Nat.zero_add]
    exact counts_pure (8 + m)

theorem counts_texts : Counts 0 texts :=
  consumes_readLength.counts fun n => counts_sized.repeated n 8

theorem counts_buffer : Counts 0 buffer := by
  apply counts_sized.bind; intro variableName
  apply counts_sized.bind; intro displayName
  apply counts_sized.bind; intro pixelLayout
  apply (counts_skip 17).bind; intro fixed
  apply consumes_readElement.counts; intro element
  apply counts_sized.bind; intro payload
  rw [Nat.zero_add]
  exact counts_pure _

theorem counts_fields (k : Kind) : Counts 0 (fields k) := by
  cases k with
  | symbolsQuery => exact counts_pure 0
  | symbolsAnswer => exact counts_texts
  | availableSymbols => exact counts_texts
  | bufferContents => exact counts_buffer
  | plotRequest => exact counts_sized

theorem counts_frame : Counts 0 frame :=
  consumes_readKind.counts fun k => (counts_fields k).bind fun m => by
    rw [Nat.zero_add]
    exact counts_pure (4 + m)

theorem formal_readNat (w : Nat) : Formal (readNat w) :=
  (formal_take w).bind fun _ => formal_pure _

theorem formal_readLength : Formal readLength := by
  apply (formal_readNat 8).bind
  intro n
  split
  · exact formal_pure n
  · exact formal_fail trivial

theorem formal_readElement : Formal readElement := by
  apply (((formal_readNat 4).bind fun _ => formal_pure _).bind fun _ => formal_pure _).bind
  intro code
  split
  · next element _ => exact formal_pure element
  · exact formal_fail trivial

theorem formal_sized : Formal sized :=
  formal_readLength.bind fun n => (formal_skip n).bind fun _ => formal_pure _

theorem formal_buffer : Formal buffer := by
  apply formal_sized.bind; intro variableName
  apply formal_sized.bind; intro displayName
  apply formal_sized.bind; intro pixelLayout
  apply (formal_skip 17).bind; intro fixed
  apply formal_readElement.bind; intro element
  exact formal_sized.bind fun payload => formal_pure _

theorem formal_fields (k : Kind) : Formal (fields k) := by
  cases k with
  | symbolsQuery => exact formal_pure 0
  | symbolsAnswer => exact formal_readLength.bind fun n => formal_sized.repeated n 8
  | availableSymbols => exact formal_readLength.bind fun n => formal_sized.repeated n 8
  | bufferContents => exact formal_buffer
  | plotRequest => exact formal_sized

theorem split_of_frame {s rest : List UInt8} {n : Nat} (h : frame s = (.ok n, rest)) :
    ∃ front, front.length = n ∧ s = front ++ rest := by
  have hc := counts_frame s n rest h
  obtain ⟨front, rfl⟩ : rest <:+ s := by
    have hs := streams_frame.suffix s
    rwa [h] at hs
  rw [List.length_append] at hc
  exact ⟨front, by omega, rfl⟩

theorem formal_of_frame {s rest rest' : List UInt8} {k : Kind} {e : WireError}
    (hk : readKind s = (.ok k, rest)) (h : frame s = (.error e, rest')) : e.IsFormal := by
  have hf : Formal (fields k >>= fun m => pure (4 + m)) :=
    (formal_fields k).bind fun m => formal_pure (4 + m)
  rw [frame, bind_ok hk] at h
  exact hf rest e rest' h

end Span

namespace Message
open Reader ViewerBridge.Field

/-- A frame that can be read spans the bytes that reading it takes. -/
theorem span_of_read {s rest : List UInt8} {m : Message} (h : Message.read s = (.ok m, rest)) :
    ∃ n, Span.frame s = (.ok n, rest) ∧ n + rest.length = s.length := by
  have hp := Span.passes_frame s
  rcases hs : Span.frame s with ⟨e | n, rest'⟩ <;> rw [hs, h] at hp <;> cases hp
  have hc := Span.counts_frame s n rest hs
  exact ⟨n, rfl, by omega⟩

/-- A frame that spans some bytes can be read off exactly those, unless a text in it is none. -/
theorem read_of_span {s rest : List UInt8} {n : Nat} (h : Span.frame s = (.ok n, rest)) :
    (∃ m, Message.read s = (.ok m, rest)) ∨
      ∃ rest', Message.read s = (.error .invalidText, rest') := by
  have hp := Span.passes_frame s
  rcases hr : Message.read s with ⟨e | m, rest'⟩ <;> rw [h, hr] at hp <;> cases hp
  · exact .inr ⟨rest', rfl⟩
  · exact .inl ⟨m, rfl⟩

theorem read_take_of_span {s rest : List UInt8} {n : Nat} (h : Span.frame s = (.ok n, rest)) :
    (∃ m, Message.read (s.take n) = (.ok m, [])) ∨
      ∃ rest', Message.read (s.take n) = (.error .invalidText, rest') := by
  obtain ⟨front, rfl, rfl⟩ := Span.split_of_frame h
  rw [List.take_left]
  exact read_of_span (Span.streams_frame.front front rest front.length h)

theorem read_of_unknownKind {s rest : List UInt8} {tag : Int32}
    (h : Span.frame s = (.error (.unknownKind tag), rest)) :
    Message.read s = (.error (.unknownKind tag), rest) := by
  rcases hk : readKind s with ⟨e | k, rest'⟩
  · have hs : Span.frame s = (.error e, rest') := bind_error hk
    rw [h] at hs
    cases hs
    exact bind_error hk
  · exact (Span.formal_of_frame hk h).elim

theorem read_of_refused {s rest : List UInt8} {e : WireError}
    (h : Span.frame s = (.error e, rest)) :
    (Message.read s).1 = .error e ∨ (Message.read s).1 = .error .invalidText ∨
      e.isTruncated = true ∧ ∃ n k, (Message.read s).1 = .error (.truncated n k) := by
  have hp := Span.passes_frame s
  rw [h] at hp
  generalize Message.read s = read at hp
  cases hp with
  | noText => exact .inr (.inl rfl)
  | refused => exact .inl rfl
  | short n k n' k' => exact .inr (.inr ⟨rfl, n', k', rfl⟩)

theorem read_of_malformed {s rest : List UInt8} {e : WireError}
    (h : Span.frame s = (.error e, rest)) (he : e.isTruncated = false) :
    (Message.read s).1 = .error e ∨ (Message.read s).1 = .error .invalidText := by
  rcases read_of_refused h with hr | hr | ⟨ht, -⟩
  · exact .inl hr
  · exact .inr hr
  · simp [he] at ht

/-- Passing over a frame and reading it agree on all bytes: they take the same number of bytes or
refuse for the same reason, except that only reading looks into texts and that they may miss
different pieces of a frame that is cut off. -/
theorem frame_agrees_read (s : List UInt8) :
    (∀ n, (Span.frame s).1 = .ok n → n ≤ s.length ∧
        ((∃ m, Message.read s = (.ok m, s.drop n)) ∨ (Message.read s).1 = .error .invalidText)) ∧
      (∀ m rest, Message.read s = (.ok m, rest) →
        rest <:+ s ∧ (Span.frame s).1 = .ok (s.length - rest.length)) ∧
      (∀ tag, (Span.frame s).1 = .error (.unknownKind tag) →
        (Message.read s).1 = .error (.unknownKind tag)) ∧
      (∀ code, (Span.frame s).1 = .error (.unknownElement code) →
        (Message.read s).1 = .error (.unknownElement code) ∨
          (Message.read s).1 = .error .invalidText) ∧
      (∀ length, (Span.frame s).1 = .error (.oversized length) →
        (Message.read s).1 = .error (.oversized length) ∨
          (Message.read s).1 = .error .invalidText) ∧
      ∀ needed available, (Span.frame s).1 = .error (.truncated needed available) →
        (∃ n k, (Message.read s).1 = .error (.truncated n k)) ∨
          (Message.read s).1 = .error .invalidText := by
  refine ⟨?_, ?_, ?_, ?_, ?_, ?_⟩
  · intro n h
    have hs : Span.frame s = (.ok n, (Span.frame s).2) := Prod.ext h rfl
    generalize (Span.frame s).2 = rest at hs
    obtain ⟨front, rfl, rfl⟩ := Span.split_of_frame hs
    refine ⟨by simp, ?_⟩
    rw [List.drop_left]
    rcases read_of_span hs with ⟨m, hr⟩ | ⟨rest', hr⟩
    · exact .inl ⟨m, hr⟩
    · exact .inr (by rw [hr])
  · intro m rest hr
    obtain ⟨n, hs, hn⟩ := span_of_read hr
    have hl : s.length - rest.length = n := by omega
    have hsuffix := streams_read.suffix s
    rw [hr] at hsuffix
    exact ⟨hsuffix, by rw [hs, hl]⟩
  · intro tag h
    rw [read_of_unknownKind (Prod.ext h rfl)]
  · intro code h
    exact read_of_malformed (Prod.ext h rfl) rfl
  · intro length h
    exact read_of_malformed (Prod.ext h rfl) rfl
  · intro needed available h
    rcases read_of_refused (Prod.ext h rfl) with hr | hr | ⟨-, hr⟩
    · exact .inl ⟨needed, available, hr⟩
    · exact .inr hr
    · exact .inl hr

end Message
end ViewerBridge

import ViewerBridge.Wire.Frames
/-!
# Reading while bytes still arrive

A reader that streams gives an answer on the bytes at hand that holds for every continuation of
them, unless it asks for more. Every reader of the wire streams: the pieces do, and what is read
piece by piece does if its pieces do.
-/
namespace ViewerBridge

/-- Whether an outcome stays as it is when more bytes arrive. -/
def WireError.isFinal {α : Type} : Except WireError α → Bool
  | .ok _ => true
  | .error e => !e.isTruncated

namespace Reader
open WireError

/-- The reader can be used on bytes that are still arriving. -/
structure Streams {α : Type} (r : Reader α) : Prop where
  /-- The cursor only moves forward. -/
  suffix : ∀ s, (r s).2 <:+ s
  final : ∀ s more, isFinal (r s).1 = true → r (s ++ more) = ((r s).1, (r s).2 ++ more)
  /-- What is asked for is missing: with less than that the reader still asks for more. -/
  shortfall : ∀ s needed available, (r s).1 = .error (.truncated needed available) →
    available = (r s).2.length ∧ available < needed ∧
      ∀ more : List UInt8, available + more.length < needed →
        ∃ n a, (r (s ++ more)).1 = .error (.truncated n a)
  /-- What was read comes from the bytes before the cursor alone. -/
  front : ∀ s rest a, r (s ++ rest) = (.ok a, rest) → r s = (.ok a, [])

variable {α β : Type}

theorem Streams.ok_append {r : Reader α} (h : Streams r) {s rest : List UInt8} {a : α}
    (hr : r s = (.ok a, rest)) (more : List UInt8) : r (s ++ more) = (.ok a, rest ++ more) := by
  have hf := h.final s more (by rw [hr]; rfl)
  rwa [hr] at hf

theorem Streams.error_append {r : Reader α} (h : Streams r) {s rest : List UInt8} {e : WireError}
    (hr : r s = (.error e, rest)) (he : e.isTruncated = false) (more : List UInt8) :
    r (s ++ more) = (.error e, rest ++ more) := by
  have hf := h.final s more (by rw [hr]; simp [isFinal, he])
  rwa [hr] at hf

theorem streams_pure (a : α) : Streams (pure a : Reader α) where
  suffix s := List.suffix_refl s
  final _ _ _ := rfl
  shortfall _ _ _ h := nomatch h
  front s rest b h := by
    obtain ⟨hb, hs⟩ := Prod.mk.inj h
    have hnil : s = [] := List.append_left_eq_self.mp hs
    subst hnil
    exact Prod.ext hb rfl

theorem streams_fail {e : WireError} (he : e.isTruncated = false) :
    Streams (fail e : Reader α) where
  suffix s := List.suffix_refl s
  final _ _ _ := rfl
  shortfall s needed available h := by
    cases h
    cases he
  front _ _ _ h := nomatch h

theorem streams_take (n : Nat) : Streams (take n) where
  suffix s := by
    rw [take_eq]
    split
    · exact List.drop_suffix n s
    · exact List.suffix_refl s
  final s more h := by
    rw [take_eq] at h ⊢
    rw [take_eq n s]
    split at h
    · next hn =>
      have hm : n ≤ (s ++ more).length := by rw [List.length_append]; omega
      simp only [if_pos hn, if_pos hm, List.take_append_of_le_length hn,
        List.drop_append_of_le_length hn]
    · cases h
  shortfall s needed available h := by
    rw [take_eq] at h ⊢
    split at h
    · cases h
    · next hn =>
      cases h
      refine ⟨by rw [if_neg hn], by omega, ?_⟩
      intro more hm
      have hl : ¬ n ≤ (s ++ more).length := by rw [List.length_append]; omega
      exact ⟨n, (s ++ more).length, by rw [take_eq, if_neg hl]⟩
  front s rest a h := by
    rw [take_eq] at h
    split at h
    · next hn =>
      have hl := congrArg (List.length ∘ Prod.snd) h
      simp only [Function.comp_apply, List.length_drop, List.length_append] at hl hn
      have hs : s.length = n := by omega
      rw [← hs, List.take_left, List.drop_left] at h
      cases h
      simpa using take_append hs []
    · cases h

theorem streams_bind {r : Reader α} {f : α → Reader β} (hr : Streams r)
    (hf : ∀ a, Streams (f a)) : Streams (r >>= f) where
  suffix s := by
    have hs := hr.suffix s
    rcases h : r s with ⟨e | a, rest⟩ <;> rw [h] at hs
    · rw [bind_error h]
      exact hs
    · rw [bind_ok h]
      exact ((hf a).suffix rest).trans hs
  final s more hfin := by
    rcases h : r s with ⟨e | a, rest⟩
    · rw [bind_error h] at hfin ⊢
      have he : e.isTruncated = false := by simpa [isFinal] using hfin
      rw [bind_error (hr.error_append h he more)]
    · rw [bind_ok h] at hfin ⊢
      rw [bind_ok (hr.ok_append h more)]
      exact (hf a).final rest more hfin
  shortfall s needed available hs := by
    rcases h : r s with ⟨e | a, rest⟩
    · rw [bind_error h] at hs ⊢
      cases hs
      obtain ⟨ha, hn, hm⟩ := hr.shortfall s needed available (by rw [h])
      rw [h] at ha
      refine ⟨ha, hn, ?_⟩
      intro more hl
      obtain ⟨n, a, hna⟩ := hm more hl
      rcases h' : r (s ++ more) with ⟨e | b, rest'⟩ <;> rw [h'] at hna <;> cases hna
      exact ⟨n, a, by rw [bind_error h']⟩
    · rw [bind_ok h] at hs ⊢
      obtain ⟨ha, hn, hm⟩ := (hf a).shortfall rest needed available hs
      refine ⟨ha, hn, ?_⟩
      intro more hl
      rw [bind_ok (hr.ok_append h more)]
      exact hm more hl
  front s rest b hb := by
    obtain ⟨a, mid, h, hlast⟩ := bind_eq_ok hb
    have hmid := hr.suffix (s ++ rest)
    have hrest := (hf a).suffix mid
    rw [h] at hmid
    rw [hlast] at hrest
    obtain ⟨mid, rfl⟩ := hrest
    obtain ⟨read, hread⟩ := hmid
    rw [← List.append_assoc, List.append_cancel_right_eq] at hread
    subst hread
    rw [List.append_assoc] at h
    rw [bind_ok (hr.ok_append (hr.front read (mid ++ rest) a h) mid)]
    exact (hf a).front mid rest b hlast

theorem skip_eq_bind (n : Nat) : skip n = take n >>= fun _ => pure n := by
  funext s
  rw [skip_eq, bind_apply, take_eq]
  split <;> rfl

theorem streams_skip (n : Nat) : Streams (skip n) := by
  rw [skip_eq_bind]
  exact streams_bind (streams_take n) fun _ => streams_pure n

theorem streams_repeated {item : Reader α} (h : Streams item) (n : Nat) :
    Streams (repeated item n) := by
  induction n with
  | zero => exact streams_pure []
  | succ n ih =>
    rw [repeated_succ]
    exact streams_bind h fun a => streams_bind ih fun as => streams_pure (a :: as)

theorem skipOnto_succ (item : Reader Nat) (n passed : Nat) :
    skipOnto item (n + 1) passed = item >>= fun k => skipOnto item n (passed + k) := by
  funext s
  rcases h : item s with ⟨e | k, rest⟩
  · simp only [skipOnto, h, bind_error h]
  · simp only [skipOnto, h, bind_ok h]

theorem streams_skipOnto {item : Reader Nat} (h : Streams item) (n passed : Nat) :
    Streams (skipOnto item n passed) := by
  induction n generalizing passed with
  | zero => exact streams_pure passed
  | succ n ih =>
    rw [skipOnto_succ]
    exact streams_bind h fun k => ih (passed + k)

end Reader

namespace Field
open Reader

theorem streams_readNat (w : Nat) : Streams (readNat w) :=
  streams_bind (streams_take w) fun _ => streams_pure _

theorem streams_readWord : Streams readWord :=
  streams_bind (streams_readNat 4) fun _ => streams_pure _

theorem streams_readLongWord : Streams readLongWord :=
  streams_bind (streams_readNat 8) fun _ => streams_pure _

theorem streams_readInt : Streams readInt :=
  streams_bind streams_readWord fun _ => streams_pure _

theorem streams_readByte : Streams readByte :=
  streams_bind (streams_readNat 1) fun _ => streams_pure _

theorem streams_readLength : Streams readLength := by
  apply streams_bind (streams_readNat 8)
  intro n
  split
  · exact streams_pure n
  · exact streams_fail rfl

theorem streams_readBytes : Streams readBytes :=
  streams_bind streams_readLength fun n => streams_take n

theorem streams_readText : Streams readText := by
  apply streams_bind streams_readBytes
  intro bs
  split
  · next s _ => exact streams_pure s
  · exact streams_fail rfl

theorem streams_readKind : Streams readKind := by
  apply streams_bind streams_readInt
  intro tag
  split
  · next kind _ => exact streams_pure kind
  · exact streams_fail rfl

theorem streams_readElement : Streams readElement := by
  apply streams_bind streams_readInt
  intro code
  split
  · next element _ => exact streams_pure element
  · exact streams_fail rfl

theorem streams_read (t : FieldType) : Streams (read t) := by
  induction t with
  | u8 => exact streams_readByte
  | i32 => exact streams_readInt
  | u32 => exact streams_readWord
  | f32 => exact streams_readWord
  | i64 => exact streams_bind streams_readLongWord fun _ => streams_pure _
  | u64 => exact streams_readLongWord
  | f64 => exact streams_readLongWord
  | bool => exact streams_bind streams_readByte fun _ => streams_pure _
  | text => exact streams_readText
  | bytes => exact streams_readBytes
  | kind => exact streams_readKind
  | element => exact streams_readElement
  | list item ih => exact streams_bind streams_readLength fun n => streams_repeated ih n

end Field

namespace Message
open Reader ViewerBridge.Field

theorem streams_readBuffer : Streams readBuffer := by
  apply streams_bind streams_readText; intro variableName
  apply streams_bind streams_readText; intro displayName
  apply streams_bind streams_readText; intro pixelLayout
  apply streams_bind (streams_read .bool); intro transpose
  apply streams_bind streams_readInt; intro width
  apply streams_bind streams_readInt; intro height
  apply streams_bind streams_readInt; intro channels
  apply streams_bind streams_readInt; intro rowStride
  apply streams_bind streams_readElement; intro element
  apply streams_bind streams_readBytes; intro payload
  exact streams_pure _

theorem streams_readFields (k : Kind) : Streams (readFields k) := by
  cases k with
  | symbolsQuery => exact streams_pure _
  | symbolsAnswer => exact streams_bind (streams_read _) fun _ => streams_pure _
  | availableSymbols => exact streams_bind (streams_read _) fun _ => streams_pure _
  | bufferContents => exact streams_bind streams_readBuffer fun _ => streams_pure _
  | plotRequest => exact streams_bind streams_readText fun _ => streams_pure _

theorem streams_read : Streams Message.read :=
  streams_bind streams_readKind fun k => streams_readFields k

end Message

namespace Span
open Reader ViewerBridge.Field

theorem streams_sized : Streams sized :=
  streams_bind streams_readLength fun n => streams_bind (streams_skip n) fun _ => streams_pure _

theorem streams_texts : Streams texts :=
  streams_bind streams_readLength fun n => streams_skipOnto streams_sized n 8

theorem streams_buffer : Streams buffer := by
  apply streams_bind streams_sized; intro variableName
  apply streams_bind streams_sized; intro displayName
  apply streams_bind streams_sized; intro pixelLayout
  apply streams_bind (streams_skip 17); intro fixed
  apply streams_bind streams_readElement; intro element
  apply streams_bind streams_sized; intro payload
  exact streams_pure _

theorem streams_fields (k : Kind) : Streams (fields k) := by
  cases k with
  | symbolsQuery => exact streams_pure 0
  | symbolsAnswer => exact streams_texts
  | availableSymbols => exact streams_texts
  | bufferContents => exact streams_buffer
  | plotRequest => exact streams_sized

theorem streams_frame : Streams frame :=
  streams_bind streams_readKind fun k => streams_bind (streams_fields k) fun _ => streams_pure _

end Span
end ViewerBridge

import ViewerBridge.Proofs.Wire.Streaming
/-!
# Waiting for a piece of a field

A read that misses bytes stops before the piece that it misses them for and asks for just that piece.
Until all of them have arrived it stops at the same place and asks for the same piece again. Any other
outcome of a read is settled by the bytes that it has consumed.
-/
namespace ViewerBridge

namespace Reader

variable {α β : Type}

/-- As long as fewer bytes arrive than are missing, the reader stops where it stopped before and asks
for the same piece. -/
def Waits (r : Reader α) : Prop :=
  ∀ s rest needed available, r s = (.error (.truncated needed available), rest) →
    ∀ more : List UInt8, available + more.length < needed →
      r (s ++ more) = (.error (.truncated needed (available + more.length)), rest ++ more)

theorem waits_pure (a : α) : Waits (pure a : Reader α) := fun _ _ _ _ h => nomatch h

theorem waits_fail {e : WireError} (he : e.isTruncated = false) : Waits (fail e : Reader α) := by
  intro s rest needed available h
  cases h
  cases he

theorem waits_take (n : Nat) : Waits (take n) := by
  intro s rest needed available h more hm
  rw [take_eq] at h
  split at h
  · cases h
  · cases h
    have hlt : (s ++ more).length < n := by rwa [List.length_append]
    rw [take_of_lt hlt, List.length_append]

theorem Waits.bind {r : Reader α} {f : α → Reader β} (h : Waits r) (hr : Streams r)
    (hf : ∀ a, Waits (f a)) : Waits (r >>= f) := by
  intro s rest needed available hs more hm
  rcases hfirst : r s with ⟨e | a, mid⟩
  · rw [bind_error hfirst] at hs
    cases hs
    exact bind_error (h s rest needed available hfirst more hm)
  · rw [bind_ok hfirst] at hs
    rw [bind_ok (hr.ok_append hfirst more)]
    exact hf a mid rest needed available hs more hm

theorem Waits.repeated {item : Reader α} (h : Waits item) (hs : Streams item) (n : Nat) :
    Waits (Reader.repeated item n) := by
  induction n with
  | zero => exact waits_pure []
  | succ n ih =>
    rw [repeated_succ]
    apply h.bind hs
    intro a
    exact ih.bind (streams_repeated hs n) fun as => waits_pure (a :: as)

end Reader

namespace Field
open Reader

theorem waits_readNat (w : Nat) : Waits (readNat w) :=
  (waits_take w).bind (streams_take w) fun _ => waits_pure _

theorem waits_readWord : Waits readWord :=
  (waits_readNat 4).bind (streams_readNat 4) fun _ => waits_pure _

theorem waits_readLongWord : Waits readLongWord :=
  (waits_readNat 8).bind (streams_readNat 8) fun _ => waits_pure _

theorem waits_readInt : Waits readInt :=
  waits_readWord.bind streams_readWord fun _ => waits_pure _

theorem waits_readByte : Waits readByte :=
  (waits_readNat 1).bind (streams_readNat 1) fun _ => waits_pure _

theorem waits_readLength : Waits readLength := by
  apply (waits_readNat 8).bind (streams_readNat 8)
  intro n
  split
  · exact waits_pure n
  · exact waits_fail rfl

theorem waits_readBytes : Waits readBytes :=
  waits_readLength.bind streams_readLength fun n => waits_take n

theorem waits_readText : Waits readText := by
  apply waits_readBytes.bind streams_readBytes
  intro bs
  split
  · next s _ => exact waits_pure s
  · exact waits_fail rfl

theorem waits_readKind : Waits readKind := by
  apply waits_readInt.bind streams_readInt
  intro tag
  split
  · next kind _ => exact waits_pure kind
  · exact waits_fail rfl

theorem waits_readElement : Waits readElement := by
  apply waits_readInt.bind streams_readInt
  intro code
  split
  · next element _ => exact waits_pure element
  · exact waits_fail rfl

theorem waits_read (t : FieldType) : Waits (read t) := by
  induction t with
  | u8 => exact waits_readByte
  | i32 => exact waits_readInt
  | u32 => exact waits_readWord
  | f32 => exact waits_readWord
  | i64 => exact waits_readLongWord.bind streams_readLongWord fun _ => waits_pure _
  | u64 => exact waits_readLongWord
  | f64 => exact waits_readLongWord
  | bool => exact waits_readByte.bind streams_readByte fun _ => waits_pure _
  | text => exact waits_readText
  | bytes => exact waits_readBytes
  | kind => exact waits_readKind
  | element => exact waits_readElement
  | list item ih =>
    apply waits_readLength.bind streams_readLength
    intro n
    exact ih.repeated (streams_read item) n

/-- Wherever the read of a field stops, with a value or without one, the cursor has only moved forward.
When more bytes stand behind, the same bytes are consumed for the same value or the same refusal. If
bytes are missing, those left at the cursor are all there is of the piece that they are missing from,
and until the rest of it has arrived the read stops there again. -/
theorem read_cursor (t : FieldType) (bytes : List UInt8) :
    ∃ front rest, bytes = front ++ rest ∧ (read t bytes).2 = rest ∧
      match (read t bytes).1 with
      | .ok v => ∀ more, read t (bytes ++ more) = (.ok v, rest ++ more)
      | .error (.truncated needed available) =>
        available = rest.length ∧ available < needed ∧
          ∀ more : List UInt8, more.length < needed - available →
            read t (bytes ++ more) =
              (.error (.truncated needed (available + more.length)), rest ++ more)
      | .error refusal => ∀ more, read t (bytes ++ more) = (.error refusal, rest ++ more) := by
  have hs := streams_read t
  obtain ⟨front, hfront⟩ := hs.suffix bytes
  rcases h : read t bytes with ⟨e | v, rest⟩ <;> rw [h] at hfront
  · refine ⟨front, rest, hfront.symm, rfl, ?_⟩
    cases e with
    | truncated needed available =>
      obtain ⟨hcount, hlt, -⟩ := hs.shortfall bytes needed available (by rw [h])
      rw [h] at hcount
      refine ⟨hcount, hlt, fun more hm => ?_⟩
      exact waits_read t bytes rest needed available h more (by omega)
    | unknownKind | unknownElement | invalidText | oversized => exact hs.error_append h rfl
  · exact ⟨front, rest, hfront.symm, rfl, hs.ok_append h⟩

/-- A list of two lists of bytes, of which the second misses one byte. -/
example : read (.list .bytes)
    [2, 0, 0, 0, 0, 0, 0, 0, 1, 0, 0, 0, 0, 0, 0, 0, 7, 3, 0, 0, 0, 0, 0, 0, 0, 8, 9]
      = (.error (.truncated 3 2), [8, 9]) := rfl

end Field
end ViewerBridge

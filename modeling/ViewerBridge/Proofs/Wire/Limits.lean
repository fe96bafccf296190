import ViewerBridge.Proofs.Wire.Stream
/-!
# The limits of the wire

Lengths and counts are limited where they are read; nothing is limited where it is written. So a
message is read back from its frame only if it fits, and a frame with a text that is too long stays
in the way of all that comes behind it.
-/
namespace ViewerBridge

namespace Reader

variable {α β : Type}

def Gives (r : Reader α) (p : α → Prop) : Prop := ∀ s a rest, r s = (.ok a, rest) → p a

theorem gives_pure {p : α → Prop} {a : α} (h : p a) : Gives (pure a) p := by
  intro s b rest hb
  obtain ⟨rfl, -⟩ := pure_eq_ok hb
  exact h

theorem gives_fail (e : WireError) (p : α → Prop) : Gives (fail e) p := fun _ _ _ h => nomatch h

theorem gives_trivial (r : Reader α) : Gives r fun _ => True := fun _ _ _ _ => trivial

theorem gives_take (n : Nat) : Gives (take n) (·.length = n) := fun _ _ _ h => (take_eq_ok h).2

theorem Gives.bind {r : Reader α} {f : α → Reader β} {p : α → Prop} {q : β → Prop} (h : Gives r p)
    (hf : ∀ a, p a → Gives (f a) q) : Gives (r >>= f) q := by
  intro s b rest hb
  obtain ⟨a, mid, ha, hb⟩ := bind_eq_ok hb
  exact hf a (h s a mid ha) mid b rest hb

theorem Gives.repeated {item : Reader α} {p : α → Prop} (h : Gives item p) (n : Nat) :
    Gives (Reader.repeated item n) fun as => as.length = n ∧ ∀ a ∈ as, p a := by
  induction n with
  | zero => exact gives_pure ⟨rfl, by simp⟩
  | succ n ih =>
    rw [repeated_succ]
    refine h.bind fun a ha => ?_
    refine ih.bind fun as has => ?_
    obtain ⟨hlength, has⟩ := has
    exact gives_pure ⟨by rw [List.length_cons, hlength], List.forall_mem_cons.mpr ⟨ha, has⟩⟩

end Reader

namespace Field
open Reader

theorem gives_readLength : Gives readLength (· ≤ maxLength) := by
  refine (gives_trivial _).bind fun n _ => ?_
  split
  · next h => exact gives_pure h
  · exact gives_fail _ _

theorem gives_readBytes : Gives readBytes (·.length ≤ maxLength) := by
  refine gives_readLength.bind fun n hn s bs rest h => ?_
  rwa [gives_take n s bs rest h]

theorem gives_readText : Gives readText (·.utf8ByteSize ≤ maxLength) := by
  refine gives_readBytes.bind fun bs hbs => ?_
  split
  · next text htext =>
    apply gives_pure
    rwa [← Utf8.length_encode, Utf8.encode_of_decode? htext]
  · exact gives_fail _ _

/-- What is read fits, however deep lists are nested in it. -/
theorem gives_read (t : FieldType) : Gives (read t) t.Fits := by
  induction t with
  | u8 | i32 | u32 | i64 | u64 | f32 | f64 | bool | kind | element => exact gives_trivial _
  | text => exact gives_readText
  | bytes => exact gives_readBytes
  | list item ih =>
    refine gives_readLength.bind fun n hn s vs rest h => ?_
    obtain ⟨hlength, hvs⟩ := ih.repeated n s vs rest h
    exact ⟨by rwa [hlength], hvs⟩

theorem readLength_oversized {n : Nat} (h : maxLength < n) (hn : n < LittleEndian.capacity 8)
    (rest : List UInt8) :
    readLength (encodeLength n ++ rest) = (.error (.oversized n), rest) := by
  rw [readLength, encodeLength, bind_ok (readNat_append hn rest), if_neg (Nat.not_le.mpr h)]
  rfl

end Field

namespace Message
open Reader ViewerBridge.Field

theorem gives_readBuffer : Gives readBuffer fun b => ∀ f ∈ bufferFields b, f.Fits := by
  refine gives_readText.bind fun variableName hv => ?_
  refine gives_readText.bind fun displayName hd => ?_
  refine gives_readText.bind fun pixelLayout hx => ?_
  refine (gives_trivial _).bind fun transpose _ => ?_
  refine (gives_trivial _).bind fun width _ => ?_
  refine (gives_trivial _).bind fun height _ => ?_
  refine (gives_trivial _).bind fun channels _ => ?_
  refine (gives_trivial _).bind fun rowStride _ => ?_
  refine (gives_trivial _).bind fun element _ => ?_
  refine gives_readBytes.bind fun payload hp => ?_
  apply gives_pure
  simp only [bufferFields, List.forall_mem_cons]
  exact ⟨hv, hd, hx, trivial, trivial, trivial, trivial, trivial, trivial, hp, by simp⟩

theorem gives_readFields (k : Kind) : Gives (readFields k) Fits := by
  cases k with
  | symbolsQuery => exact gives_pure (by simp [Fits, fields])
  | symbolsAnswer | availableSymbols =>
    refine (gives_read (.list .text)).bind fun symbols h => ?_
    exact gives_pure (List.forall_mem_singleton.mpr h)
  | bufferContents =>
    refine gives_readBuffer.bind fun b h => ?_
    exact gives_pure h
  | plotRequest =>
    refine gives_readText.bind fun name h => ?_
    exact gives_pure (List.forall_mem_singleton.mpr h)

theorem gives_read : Gives Message.read Fits :=
  (gives_trivial _).bind fun k _ => gives_readFields k

end Message

namespace Span
open Reader ViewerBridge.Field

theorem sized_append {s : String} (h : s.utf8ByteSize ≤ maxLength) (rest : List UInt8) :
    sized (encode .text s ++ rest) = (.ok (8 + s.utf8ByteSize), rest) := by
  rw [← Utf8.length_encode] at h ⊢
  have hskip : skip (Utf8.encode s).length (Utf8.encode s ++ rest) =
      (.ok (Utf8.encode s).length, rest) := by
    rw [skip_eq, if_pos (by simp), List.drop_left]
  rw [sized, encode, encodeBytes, List.append_assoc, bind_ok (readLength_append h _), bind_ok hskip,
    pure_apply]

theorem sized_oversized {s : String} (h : maxLength < s.utf8ByteSize)
    (hs : s.utf8ByteSize < LittleEndian.capacity 8) (rest : List UInt8) :
    sized (encode .text s ++ rest) = (.error (.oversized s.utf8ByteSize), Utf8.encode s ++ rest) := by
  have hlength := readLength_oversized h hs (Utf8.encode s ++ rest)
  rw [← Utf8.length_encode] at hlength ⊢
  rw [sized, encode, encodeBytes, List.append_assoc, bind_error hlength]

end Span

namespace Frames
open Reader ViewerBridge.Field

theorem fits_of_next {buffer rest : List UInt8} {m : Message} (h : next buffer = (.message m, rest)) :
    m.Fits := by
  rcases hs : Span.frame (afterUnknown buffer) with ⟨e | n, tail⟩ <;>
    simp only [next, hs, List.splitAt_eq] at h
  · split at h <;> cases h
  · split at h <;> cases h
    next hread => exact Message.gives_read _ _ _ (Prod.ext hread rfl)

theorem next_frame_iff {m : Message} {rest : List UInt8} :
    next (m.frame ++ rest) = (.message m, rest) ↔ m.Fits :=
  ⟨fits_of_next, fun h => next_frame_append h rest⟩

theorem next_frame_oversized {m : Message} {n : Nat} {rest tail : List UInt8}
    (h : Span.fields m.kind (encodeAll m.fields ++ rest) = (.error (.oversized n), tail)) :
    next (m.frame ++ rest) = (.failed (.malformed (.oversized n)), m.frame ++ rest) := by
  have hk : readKind (m.frame ++ rest) = (.ok m.kind, encodeAll m.fields ++ rest) := by
    rw [Message.frame, List.append_assoc, readKind_append]
  have hs : Span.frame (m.frame ++ rest) = (.error (.oversized n), tail) := by
    rw [Span.frame, bind_ok hk, bind_error h]
  simp only [next, afterUnknown_of_readKind hk, hs, WireError.isTruncated]
  rfl

end Frames
end ViewerBridge

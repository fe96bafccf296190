import ViewerBridge.Proofs.Wire.Passing
/-!
# Reading back what was written

A value that fits the limits of the wire is read back from its bytes, whatever comes after them, and
so is a message from its frame. The limits bound the bytes of texts and of payloads and the number
of members of lists; other values always fit.
-/
namespace ViewerBridge

/-- Whether no length or count within a value is over the limit. -/
def FieldType.Fits : (t : FieldType) → t.Value → Prop
  | .text, s => s.utf8ByteSize ≤ Reader.maxLength
  | .bytes, bs => bs.length ≤ Reader.maxLength
  | .list item, vs => vs.length ≤ Reader.maxLength ∧ ∀ v ∈ vs, item.Fits v
  | _, _ => True

instance FieldType.decidableFits : (t : FieldType) → (v : t.Value) → Decidable (t.Fits v)
  | .text, s => inferInstanceAs (Decidable (s.utf8ByteSize ≤ Reader.maxLength))
  | .bytes, bs => inferInstanceAs (Decidable (bs.length ≤ Reader.maxLength))
  | .list item, vs =>
    have := decidableFits item
    inferInstanceAs (Decidable (vs.length ≤ Reader.maxLength ∧ ∀ v ∈ vs, item.Fits v))
  | .u8, _ | .i32, _ | .u32, _ | .i64, _ | .u64, _ | .f32, _ | .f64, _ | .bool, _ | .kind, _
  | .element, _ => .isTrue trivial

def Field.Fits (f : Field) : Prop := f.type.Fits f.value

instance (f : Field) : Decidable f.Fits := FieldType.decidableFits f.type f.value

def Message.Fits (m : Message) : Prop := ∀ f ∈ m.fields, f.Fits

instance (m : Message) : Decidable m.Fits := inferInstanceAs (Decidable (∀ f ∈ m.fields, f.Fits))

theorem Utf8.length_encode (s : String) : (Utf8.encode s).length = s.utf8ByteSize := by
  simp [Utf8.encode]

namespace Field
open Reader

theorem readNat_append {w n : Nat} (h : n < LittleEndian.capacity w) (rest : List UInt8) :
    readNat w (LittleEndian.bytes w n ++ rest) = (.ok n, rest) := by
  rw [readNat, bind_ok (take_append (LittleEndian.length_bytes w n) rest), pure_apply,
    LittleEndian.value_bytes_of_lt h]

theorem readWord_append (w : UInt32) (rest : List UInt8) :
    readWord (encodeWord w ++ rest) = (.ok w, rest) := by
  have h : w.toNat < LittleEndian.capacity 4 := w.toNat_lt
  rw [readWord, encodeWord, bind_ok (readNat_append h rest), pure_apply, UInt32.ofNat_toNat]

theorem readLongWord_append (w : UInt64) (rest : List UInt8) :
    readLongWord (LittleEndian.bytes 8 w.toNat ++ rest) = (.ok w, rest) := by
  have h : w.toNat < LittleEndian.capacity 8 := w.toNat_lt
  rw [readLongWord, bind_ok (readNat_append h rest), pure_apply, UInt64.ofNat_toNat]

theorem readInt_append (i : Int32) (rest : List UInt8) :
    readInt (encode .i32 i ++ rest) = (.ok i, rest) := by
  rw [readInt, encode, encodeInt, bind_ok (readWord_append _ rest), pure_apply, Int32.toInt32_toUInt32]

theorem readByte_cons (b : UInt8) (rest : List UInt8) : readByte (b :: rest) = (.ok b, rest) := by
  have h : b.toNat < LittleEndian.capacity 1 := b.toNat_lt
  have hb : b :: rest = LittleEndian.bytes 1 b.toNat ++ rest := by
    simp [LittleEndian.bytes]
  rw [hb, readByte, bind_ok (readNat_append h rest), pure_apply, UInt8.ofNat_toNat]

theorem readLength_append {n : Nat} (h : n ≤ maxLength) (rest : List UInt8) :
    readLength (encodeLength n ++ rest) = (.ok n, rest) := by
  have hn : n < LittleEndian.capacity 8 := Nat.lt_of_le_of_lt h (by decide)
  rw [readLength, encodeLength, bind_ok (readNat_append hn rest), if_pos h, pure_apply]

theorem readBytes_append {bs : List UInt8} (h : bs.length ≤ maxLength) (rest : List UInt8) :
    readBytes (encode .bytes bs ++ rest) = (.ok bs, rest) := by
  rw [readBytes, encode, encodeBytes, List.append_assoc, bind_ok (readLength_append h (bs ++ rest)),
    take_append rfl]

theorem readText_append {s : String} (h : s.utf8ByteSize ≤ maxLength) (rest : List UInt8) :
    readText (encode .text s ++ rest) = (.ok s, rest) := by
  have hl : (Utf8.encode s).length ≤ maxLength := by rwa [Utf8.length_encode]
  have hb : readBytes (encode .text s ++ rest) = (.ok (Utf8.encode s), rest) :=
    readBytes_append hl rest
  rw [readText, bind_ok hb, Utf8.decode?_encode]
  rfl

theorem readKind_append (k : Kind) (rest : List UInt8) :
    readKind (encode .kind k ++ rest) = (.ok k, rest) := by
  have hi : readInt (encode .kind k ++ rest) = (.ok k.tag, rest) := readInt_append k.tag rest
  rw [readKind, bind_ok hi, Kind.ofTag?_tag]
  rfl

theorem readElement_append (t : ElementType) (rest : List UInt8) :
    readElement (encode .element t ++ rest) = (.ok t, rest) := by
  have hi : readInt (encode .element t ++ rest) = (.ok t.code, rest) := readInt_append t.code rest
  rw [readElement, bind_ok hi, ElementType.ofCode?_code]
  rfl

theorem readBool_append (b : Bool) (rest : List UInt8) :
    read .bool (encode .bool b ++ rest) = (.ok b, rest) := by
  rw [read, encode, List.singleton_append, bind_ok (readByte_cons _ rest), pure_apply]
  cases b <;> rfl

theorem repeated_append {α : Type} {item : Reader α} {write : α → List UInt8} {vs : List α}
    (h : ∀ v ∈ vs, ∀ rest, item (write v ++ rest) = (.ok v, rest)) (rest : List UInt8) :
    repeated item vs.length (vs.flatMap write ++ rest) = (.ok vs, rest) := by
  induction vs with
  | nil => rfl
  | cons v vs ih =>
    have hv := h v List.mem_cons_self (vs.flatMap write ++ rest)
    have hvs := ih fun u hu => h u (List.mem_cons_of_mem v hu)
    rw [List.length_cons, List.flatMap_cons, List.append_assoc, repeated_succ, bind_ok hv,
      bind_ok hvs, pure_apply]

theorem read_append {t : FieldType} {v : t.Value} (h : t.Fits v) (rest : List UInt8) :
    read t (encode t v ++ rest) = (.ok v, rest) := by
  induction t generalizing rest with
  | u8 => exact readByte_cons v rest
  | i32 => exact readInt_append v rest
  | u32 => exact readWord_append v rest
  | f32 => exact readWord_append v rest
  | i64 =>
    rw [read, encode, bind_ok (readLongWord_append _ rest), pure_apply, Int64.toInt64_toUInt64]
  | u64 => exact readLongWord_append v rest
  | f64 => exact readLongWord_append v rest
  | bool => exact readBool_append v rest
  | text => exact readText_append h rest
  | bytes => exact readBytes_append h rest
  | kind => exact readKind_append v rest
  | element => exact readElement_append v rest
  | list item ih =>
    obtain ⟨hl, hv⟩ := h
    rw [read, encode, List.append_assoc, bind_ok (readLength_append hl _)]
    exact repeated_append (fun u hu => ih (hv u hu)) rest

theorem encodeAll_cons (f : Field) (fs : List Field) :
    encodeAll (f :: fs) = f.bytes ++ encodeAll fs :=
  List.flatMap_cons

/-- Values that were written one after another are read back in turn, each as it was, and nothing
behind them is touched. Numbers in floating point are told apart by their bits. -/
theorem readAll_encodeAll {fs : List Field} (h : ∀ f ∈ fs, f.Fits) (rest : List UInt8) :
    readAll (fs.map Field.type) (encodeAll fs ++ rest) = (.ok fs, rest) := by
  induction fs with
  | nil => rfl
  | cons f fs ih =>
    have hf : f.type.Fits f.value := h f List.mem_cons_self
    have hfs := ih fun g hg => h g (List.mem_cons_of_mem f hg)
    have hread := read_append hf (encodeAll fs ++ rest)
    rw [List.map_cons, readAll, encodeAll_cons, List.append_assoc, bytes, bind_ok hread,
      bind_ok hfs, pure_apply]

/-- A signalling NaN, a negative number, and lists within lists, with a byte behind them. -/
theorem readAll_encodeAll_nested :
    let fs : List Field := [⟨.f32, (0xff800001 : UInt32)⟩, ⟨.i64, (-2 : Int64)⟩,
      ⟨.list (.list .text), [["a", "∂"], [], [""]]⟩, ⟨.list .bool, [true, false]⟩,
      ⟨.element, ElementType.float64⟩]
    (∀ f ∈ fs, f.Fits) ∧
      readAll [.f32, .i64, .list (.list .text), .list .bool, .element] (encodeAll fs ++ [7])
        = (.ok fs, [7]) := by
  intro fs
  have h : ∀ f ∈ fs, f.Fits := by decide +kernel
  exact ⟨h, readAll_encodeAll h [7]⟩

end Field

namespace Message
open Reader ViewerBridge.Field

theorem readBuffer_append {b : Buffer} (h : ∀ f ∈ bufferFields b, f.Fits) (rest : List UInt8) :
    readBuffer (encodeAll (bufferFields b) ++ rest) = (.ok b, rest) := by
  have hv : b.variableName.utf8ByteSize ≤ maxLength := h (.ofText _) (by simp [bufferFields])
  have hd : b.displayName.utf8ByteSize ≤ maxLength := h (.ofText _) (by simp [bufferFields])
  have hx : b.pixelLayout.utf8ByteSize ≤ maxLength := h (.ofText _) (by simp [bufferFields])
  have hp : b.payload.length ≤ maxLength := h (.ofBytes _) (by simp [bufferFields])
  simp only [encodeAll, bufferFields, List.flatMap_cons, List.flatMap_nil, List.append_assoc,
    List.nil_append, Field.bytes, Field.ofText, Field.ofBytes]
  rw [readBuffer, bind_ok (readText_append hv _), bind_ok (readText_append hd _),
    bind_ok (readText_append hx _), bind_ok (readBool_append _ _), bind_ok (readInt_append _ _),
    bind_ok (readInt_append _ _), bind_ok (readInt_append _ _), bind_ok (readInt_append _ _),
    bind_ok (readElement_append _ _), bind_ok (readBytes_append hp _), pure_apply]

theorem encodeAll_singleton (t : FieldType) (v : t.Value) : encodeAll [⟨t, v⟩] = encode t v :=
  List.append_nil _

theorem readFields_append {m : Message} (h : m.Fits) (rest : List UInt8) :
    readFields m.kind (encodeAll m.fields ++ rest) = (.ok m, rest) := by
  cases m with
  | symbolsQuery => rfl
  | symbolsAnswer symbols =>
    have hs : (FieldType.list .text).Fits symbols := h (.ofTexts symbols) (by simp [fields])
    rw [kind, fields, Field.ofTexts, encodeAll_singleton, readFields, bind_ok (read_append hs rest),
      pure_apply]
  | availableSymbols symbols =>
    have hs : (FieldType.list .text).Fits symbols := h (.ofTexts symbols) (by simp [fields])
    rw [kind, fields, Field.ofTexts, encodeAll_singleton, readFields, bind_ok (read_append hs rest),
      pure_apply]
  | bufferContents b =>
    have hb : ∀ f ∈ bufferFields b, f.Fits := h
    rw [kind, fields, readFields, bind_ok (readBuffer_append hb rest), pure_apply]
  | plotRequest name =>
    have hs : name.utf8ByteSize ≤ maxLength := h (.ofText name) (by simp [fields])
    rw [kind, fields, Field.ofText, encodeAll_singleton, readFields,
      bind_ok (readText_append hs rest), pure_apply]

theorem read_frame_append {m : Message} (h : m.Fits) (rest : List UInt8) :
    Message.read (m.frame ++ rest) = (.ok m, rest) := by
  rw [frame, List.append_assoc, Message.read, bind_ok (readKind_append m.kind _)]
  exact readFields_append h rest

theorem span_frame_append {m : Message} (h : m.Fits) (rest : List UInt8) :
    Span.frame (m.frame ++ rest) = (.ok m.frame.length, rest) := by
  obtain ⟨n, hs, hn⟩ := span_of_read (read_frame_append h rest)
  have hl : n = m.frame.length := by
    rw [List.length_append] at hn
    omega
  rw [hs, hl]

end Message
end ViewerBridge

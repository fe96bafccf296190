import ViewerBridge.Proofs.Wire.Stream
/-!
# One frame for each message

Reading takes nothing but what writing makes: every tag, code, length, number and text that is
accepted is spelled the way it would be written. The one exception is the byte that tells whether a
buffer is transposed, for which any byte but 0 is accepted.
-/
namespace ViewerBridge

namespace Reader

variable {α β : Type}

/-- The reader accepts only what `write` makes of the value that it gives. -/
def Canonical (r : Reader α) (write : α → List UInt8) : Prop :=
  ∀ s a rest, r s = (.ok a, rest) → s = write a ++ rest

theorem Canonical.bind {r : Reader α} {f : α → Reader β} {write : α → List UInt8}
    {out : β → List UInt8} (h : Canonical r write)
    (hf : ∀ a s b rest, f a s = (.ok b, rest) → write a ++ s = out b ++ rest) :
    Canonical (r >>= f) out := by
  intro s b rest hb
  obtain ⟨a, mid, ha, hb⟩ := bind_eq_ok hb
  rw [h s a mid ha]
  exact hf a mid b rest hb

theorem Canonical.map {r : Reader α} {write : α → List UInt8} {out : β → List UInt8} {f : α → β}
    (h : Canonical r write) (hw : ∀ a, write a = out (f a)) :
    Canonical (r >>= fun a => pure (f a)) out := by
  apply h.bind
  intro a s b rest hb
  obtain ⟨rfl, rfl⟩ := pure_eq_ok hb
  rw [hw]

theorem Canonical.repeated {item : Reader α} {write : α → List UInt8} (h : Canonical item write)
    (n : Nat) {s rest : List UInt8} {as : List α} (has : repeated item n s = (.ok as, rest)) :
    s = as.flatMap write ++ rest ∧ as.length = n := by
  induction n generalizing s as with
  | zero =>
    obtain ⟨rfl, rfl⟩ := pure_eq_ok has
    exact ⟨rfl, rfl⟩
  | succ n ih =>
    rw [repeated_succ] at has
    obtain ⟨a, mid, ha, has⟩ := bind_eq_ok has
    obtain ⟨tail, end', htail, has⟩ := bind_eq_ok has
    obtain ⟨rfl, rfl⟩ := pure_eq_ok has
    obtain ⟨hmid, hlength⟩ := ih htail
    have hs : s = write a ++ mid := h s a mid ha
    exact ⟨by simp [hs, hmid], by simp [hlength]⟩

end Reader

/-- Whether each value of the type is read from one spelling only: any byte but 0 is read as true. -/
def FieldType.strict : FieldType → Bool
  | .bool => false
  | .list item => item.strict
  | _ => true

namespace Field
open Reader

theorem readNat_eq_ok {w n : Nat} {s rest : List UInt8} (h : readNat w s = (.ok n, rest)) :
    s = LittleEndian.bytes w n ++ rest ∧ n < LittleEndian.capacity w := by
  obtain ⟨bs, mid, hbs, hn⟩ := bind_eq_ok h
  obtain ⟨rfl, rfl⟩ := pure_eq_ok hn
  obtain ⟨rfl, rfl⟩ := take_eq_ok hbs
  exact ⟨by rw [LittleEndian.bytes_value], LittleEndian.value_lt bs⟩

theorem canonical_readNat (w : Nat) : Canonical (readNat w) (LittleEndian.bytes w) :=
  fun _ _ _ h => (readNat_eq_ok h).1

theorem canonical_readWord : Canonical readWord encodeWord := by
  intro s w rest h
  obtain ⟨n, mid, hn, hw⟩ := bind_eq_ok h
  obtain ⟨rfl, rfl⟩ := pure_eq_ok hw
  obtain ⟨hs, hlt⟩ := readNat_eq_ok hn
  have hnat : (UInt32.ofNat n).toNat = n := UInt32.toNat_ofNat_of_lt' hlt
  rw [encodeWord, hnat, hs]

theorem canonical_readLongWord :
    Canonical readLongWord (fun w => LittleEndian.bytes 8 w.toNat) := by
  intro s w rest h
  obtain ⟨n, mid, hn, hw⟩ := bind_eq_ok h
  obtain ⟨rfl, rfl⟩ := pure_eq_ok hw
  obtain ⟨hs, hlt⟩ := readNat_eq_ok hn
  have hnat : (UInt64.ofNat n).toNat = n := UInt64.toNat_ofNat_of_lt' hlt
  simp only [hnat, hs]

theorem canonical_readInt : Canonical readInt encodeInt :=
  canonical_readWord.map fun w => by rw [encodeInt, UInt32.toUInt32_toInt32]

theorem canonical_readByte : Canonical readByte (fun b => [b]) := by
  intro s b rest h
  obtain ⟨n, mid, hn, hb⟩ := bind_eq_ok h
  obtain ⟨rfl, rfl⟩ := pure_eq_ok hb
  obtain ⟨hs, -⟩ := readNat_eq_ok hn
  rw [hs]
  rfl

theorem canonical_readLength : Canonical readLength encodeLength := by
  apply (canonical_readNat 8).bind
  intro n s m rest h
  split at h
  · obtain ⟨rfl, rfl⟩ := pure_eq_ok h
    rfl
  · cases h

theorem canonical_readBytes : Canonical readBytes encodeBytes := by
  apply canonical_readLength.bind
  intro n s bs rest h
  obtain ⟨rfl, rfl⟩ := take_eq_ok h
  rw [encodeBytes, List.append_assoc]

theorem canonical_readText : Canonical readText (encode .text) := by
  apply canonical_readBytes.bind
  intro bs s text rest h
  rcases htext : Utf8.decode? bs with _ | text' <;> simp only [htext] at h
  · cases h
  · obtain ⟨rfl, rfl⟩ := pure_eq_ok h
    rw [encode, Utf8.encode_of_decode? htext]

theorem canonical_readKind : Canonical readKind (encode .kind) := by
  apply canonical_readInt.bind
  intro tag s k rest h
  rcases hk : Kind.ofTag? tag with _ | k' <;> simp only [hk] at h
  · cases h
  · obtain ⟨rfl, rfl⟩ := pure_eq_ok h
    rw [encode, Kind.tag_of_ofTag? hk]

theorem canonical_readElement : Canonical readElement (encode .element) := by
  apply canonical_readInt.bind
  intro code s t rest h
  rcases ht : ElementType.ofCode? code with _ | t' <;> simp only [ht] at h
  · cases h
  · obtain ⟨rfl, rfl⟩ := pure_eq_ok h
    rw [encode, ElementType.code_of_ofCode? ht]

/-- Every value of a strict type is spelled in one way, however deep lists are nested in it. -/
theorem canonical_read {t : FieldType} (ht : t.strict = true) : Canonical (read t) (encode t) := by
  induction t with
  | u8 => exact canonical_readByte
  | i32 => exact canonical_readInt
  | u32 => exact canonical_readWord
  | f32 => exact canonical_readWord
  | i64 => exact canonical_readLongWord.map fun w => by rw [encode, UInt64.toUInt64_toInt64]
  | u64 => exact canonical_readLongWord
  | f64 => exact canonical_readLongWord
  | bool => cases ht
  | text => exact canonical_readText
  | bytes => exact canonical_readBytes
  | kind => exact canonical_readKind
  | element => exact canonical_readElement
  | list item ih =>
    apply canonical_readLength.bind
    intro n s vs rest h
    obtain ⟨rfl, rfl⟩ := (ih ht).repeated n h
    rw [encode, List.append_assoc]

theorem readBool_eq_ok {s rest : List UInt8} {v : Bool} (h : read .bool s = (.ok v, rest)) :
    ∃ b, s = b :: rest ∧ v = (b != 0) := by
  obtain ⟨b, mid, hb, hv⟩ := bind_eq_ok h
  obtain ⟨rfl, rfl⟩ := pure_eq_ok hv
  exact ⟨b, canonical_readByte s b mid hb, rfl⟩

theorem length_encode_kind (k : Kind) : (encode .kind k).length = 4 :=
  LittleEndian.length_bytes 4 _

theorem length_encode_text (s : String) : (encode .text s).length = 8 + s.utf8ByteSize := by
  simp [encode, encodeBytes, encodeLength, Utf8.length_encode]

end Field

namespace Message
open Reader ViewerBridge.Field

def nameFields (b : Buffer) : List Field :=
  [.ofText b.variableName, .ofText b.displayName, .ofText b.pixelLayout]

def shapeFields (b : Buffer) : List Field :=
  [⟨.i32, b.shape.width⟩, ⟨.i32, b.shape.height⟩, ⟨.i32, b.shape.channels⟩,
    ⟨.i32, b.shape.rowStride⟩, ⟨.element, b.shape.element⟩, .ofBytes b.payload]

/-- The place in a frame of the byte that tells whether a buffer is transposed. -/
def flagIndex? : Message → Option Nat
  | bufferContents b => some (4 + (8 + b.variableName.utf8ByteSize) + (8 + b.displayName.utf8ByteSize)
      + (8 + b.pixelLayout.utf8ByteSize))
  | _ => none

theorem encodeAll_bufferFields (b : Buffer) : encodeAll (bufferFields b) =
    encodeAll (nameFields b) ++ (if b.transpose then 1 else 0) :: encodeAll (shapeFields b) := by
  simp [encodeAll, bufferFields, nameFields, shapeFields, Field.bytes, encode]

theorem length_encodeAll_nameFields (b : Buffer) : (encodeAll (nameFields b)).length =
    (8 + b.variableName.utf8ByteSize) + (8 + b.displayName.utf8ByteSize)
      + (8 + b.pixelLayout.utf8ByteSize) := by
  simp only [encodeAll, nameFields, List.flatMap_cons, List.flatMap_nil, List.length_append,
    List.length_nil, Field.bytes, Field.ofText, length_encode_text]
  omega

theorem readBuffer_eq_ok {s rest : List UInt8} {b : Buffer} (h : readBuffer s = (.ok b, rest)) :
    ∃ flag, b.transpose = (flag != 0) ∧
      s = encodeAll (nameFields b) ++ flag :: (encodeAll (shapeFields b) ++ rest) := by
  obtain ⟨variableName, s₁, hs, h⟩ := bind_eq_ok h
  obtain ⟨displayName, s₂, hs₁, h⟩ := bind_eq_ok h
  obtain ⟨pixelLayout, s₃, hs₂, h⟩ := bind_eq_ok h
  obtain ⟨transpose, s₄, hs₃, h⟩ := bind_eq_ok h
  obtain ⟨width, s₅, hs₄, h⟩ := bind_eq_ok h
  obtain ⟨height, s₆, hs₅, h⟩ := bind_eq_ok h
  obtain ⟨channels, s₇, hs₆, h⟩ := bind_eq_ok h
  obtain ⟨rowStride, s₈, hs₇, h⟩ := bind_eq_ok h
  obtain ⟨element, s₉, hs₈, h⟩ := bind_eq_ok h
  obtain ⟨payload, s₁₀, hs₉, h⟩ := bind_eq_ok h
  obtain ⟨rfl, rfl⟩ := pure_eq_ok h
  obtain ⟨flag, rfl, rfl⟩ := readBool_eq_ok hs₃
  refine ⟨flag, rfl, ?_⟩
  rw [canonical_readText _ _ _ hs, canonical_readText _ _ _ hs₁, canonical_readText _ _ _ hs₂,
    canonical_readInt _ _ _ hs₄, canonical_readInt _ _ _ hs₅, canonical_readInt _ _ _ hs₆,
    canonical_readInt _ _ _ hs₇, canonical_readElement _ _ _ hs₈, canonical_readBytes _ _ _ hs₉]
  simp [encodeAll, nameFields, shapeFields, Field.bytes, Field.ofText, Field.ofBytes, encode]

theorem canonical_readFields {k : Kind} (hk : k ≠ .bufferContents) :
    Canonical (readFields k) (fun m => encodeAll m.fields) := by
  cases k with
  | symbolsQuery =>
    intro s m rest h
    obtain ⟨rfl, rfl⟩ := pure_eq_ok h
    rfl
  | symbolsAnswer =>
    exact (canonical_read (t := .list .text) rfl).map fun _ => (encodeAll_singleton _ _).symm
  | availableSymbols =>
    exact (canonical_read (t := .list .text) rfl).map fun _ => (encodeAll_singleton _ _).symm
  | bufferContents => exact absurd rfl hk
  | plotRequest => exact canonical_readText.map fun _ => (encodeAll_singleton _ _).symm

theorem kind_of_readFields {k : Kind} {s rest : List UInt8} {m : Message}
    (h : readFields k s = (.ok m, rest)) : m.kind = k := by
  cases k with
  | symbolsQuery =>
    obtain ⟨rfl, -⟩ := pure_eq_ok h
    rfl
  | symbolsAnswer | availableSymbols | bufferContents | plotRequest =>
    obtain ⟨v, mid, -, h⟩ := bind_eq_ok h
    obtain ⟨rfl, -⟩ := pure_eq_ok h
    rfl

theorem read_eq_ok {s rest : List UInt8} {m : Message} (h : Message.read s = (.ok m, rest)) :
    ∃ fields, s = encode .kind m.kind ++ fields ∧ readFields m.kind fields = (.ok m, rest) := by
  obtain ⟨k, fields, hk, h⟩ := bind_eq_ok h
  rw [kind_of_readFields h]
  exact ⟨fields, canonical_readKind s k fields hk, h⟩

theorem eq_frame_of_read {s rest : List UInt8} {m : Message} (h : Message.read s = (.ok m, rest))
    (hm : m.kind ≠ .bufferContents) : s = m.frame ++ rest := by
  obtain ⟨fields, rfl, hf⟩ := read_eq_ok h
  rw [canonical_readFields hm fields m rest hf, frame, List.append_assoc]

def frameHead (b : Buffer) : List UInt8 :=
  encode .kind .bufferContents ++ encodeAll (nameFields b)

theorem frame_bufferContents (b : Buffer) : (bufferContents b).frame =
    frameHead b ++ (if b.transpose then 1 else 0) :: encodeAll (shapeFields b) := by
  rw [frame, frameHead, fields, encodeAll_bufferFields, List.append_assoc]
  rfl

theorem flagIndex?_bufferContents (b : Buffer) :
    (bufferContents b).flagIndex? = some (frameHead b).length := by
  rw [flagIndex?, frameHead, List.length_append, length_encode_kind, length_encodeAll_nameFields]
  simp only [Nat.add_assoc]

theorem eq_frame_of_readBuffer {s rest : List UInt8} {b : Buffer}
    (h : Message.read s = (.ok (bufferContents b), rest)) :
    ∃ flag, b.transpose = (flag != 0) ∧
      s = (frameHead b ++ flag :: encodeAll (shapeFields b)) ++ rest := by
  obtain ⟨fields, rfl, hf⟩ := read_eq_ok h
  obtain ⟨b', mid, hb, hf⟩ := bind_eq_ok hf
  obtain ⟨hb', rfl⟩ := pure_eq_ok hf
  cases hb'
  obtain ⟨flag, hflag, rfl⟩ := readBuffer_eq_ok hb
  refine ⟨flag, hflag, ?_⟩
  simp [frameHead, kind]

/-- Whatever is read as a message has the bytes that composing the message writes, except that the
byte for a transposed buffer, where any but 0 is accepted, is written as 1. A message of another kind
is therefore read off one frame only. -/
theorem composed_of_read {s rest : List UInt8} {m : Message}
    (h : Message.read s = (.ok m, rest)) :
    ∃ front, s = front ++ rest ∧
      let written := (Composer.encode {} m []).2
      written.length = front.length ∧
        (∀ i, m.flagIndex? ≠ some i → written[i]? = front[i]?) ∧
        (∀ i, m.flagIndex? = some i →
          ∃ b, front[i]? = some b ∧ written[i]? = some (if b = 0 then 0 else 1)) ∧
        (m.kind ≠ .bufferContents →
          ∀ other rest', Message.read other = (.ok m, rest') → other = front ++ rest') := by
  rw [Composer.encode_empty, List.nil_append]
  by_cases hm : m.kind = .bufferContents
  · obtain ⟨b, rfl⟩ : ∃ b, m = bufferContents b := by
      cases m <;> simp [kind] at hm ⊢
    obtain ⟨flag, hflag, hs⟩ := eq_frame_of_readBuffer h
    refine ⟨_, hs, ?_⟩
    dsimp only
    rw [frame_bufferContents, flagIndex?_bufferContents, hflag]
    refine ⟨by simp, ?_, ?_, fun hk => absurd hm hk⟩
    · intro i hi
      have hi' : (frameHead b).length ≠ i := fun e => hi (by rw [e])
      have hset : ∀ c, (frameHead b ++ flag :: encodeAll (shapeFields b)).set (frameHead b).length c
          = frameHead b ++ c :: encodeAll (shapeFields b) := by
        intro c
        rw [List.set_append_right _ _ (Nat.le_refl _), Nat.sub_self, List.set_cons_zero]
      rw [← hset, List.getElem?_set_ne hi']
    · rintro i ⟨⟩
      refine ⟨flag, by simp, ?_⟩
      by_cases h0 : flag = 0 <;> simp [h0]
  · have hs := eq_frame_of_read h hm
    have hflag : m.flagIndex? = none := by
      cases m <;> simp [kind, flagIndex?] at hm ⊢
    refine ⟨m.frame, hs, rfl, fun _ _ => rfl, ?_, fun _ other rest' h' => eq_frame_of_read h' hm⟩
    intro i hi
    rw [hflag] at hi
    cases hi

/-- A frame whose buffer is transposed by a byte 7, with a byte behind it. -/
theorem composed_of_read_lenient :
    let m : Message := bufferContents ⟨"a", "", "r", true, ⟨1, 1, 1, 1, .unsignedByte⟩, [5]⟩
    let s := m.frame.set 30 7 ++ [9]
    Message.read s = (.ok m, [9]) ∧
      ∃ front, s = front ++ [9] ∧ (Composer.encode {} m []).2.length = front.length ∧
        front[30]? = some 7 ∧ (Composer.encode {} m []).2[30]? = some 1 := by
  intro m s
  have hread : (Message.read s).1.toOption = some m ∧ (Message.read s).2 = [9] := by decide +kernel
  have h : Message.read s = (.ok m, [9]) := by
    rcases hr : Message.read s with ⟨e | m', rest⟩ <;> rw [hr] at hread
    · cases hread.1
    · cases hread.1
      cases hread.2
      rfl
  have hi : m.flagIndex? = some 30 := by decide +kernel
  obtain ⟨front, hs, hlength, -, hflag, -⟩ := composed_of_read h
  obtain ⟨b, hb, hw⟩ := hflag 30 hi
  have h7 : s[30]? = some 7 := by decide +kernel
  have hl : 30 < front.length := (List.getElem?_eq_some_iff.mp hb).1
  rw [hs, List.getElem?_append_left hl, hb] at h7
  cases h7
  exact ⟨h, front, hs, hlength, hb, hw⟩

end Message
end ViewerBridge

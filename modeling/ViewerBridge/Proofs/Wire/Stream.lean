import ViewerBridge.Proofs.Wire.Chunking
import ViewerBridge.Proofs.Wire.RoundTrip
import ViewerBridge.Wire.Composer
/-!
# Streams of frames

What one composer writes, message after message, is read back message by message, also with unknown
headers between the frames and however the stream is cut.
-/
namespace ViewerBridge

inductive StreamItem where
  | message (m : Message)
  /-- A header alone. -/
  | header (tag : Int32)
  deriving DecidableEq, Repr

namespace StreamItem

def write (state : Composer × List UInt8) : StreamItem → Composer × List UInt8
  | message m => state.1.encode m state.2
  | header tag => (state.1, state.2 ++ Field.encodeInt tag)

/-- The bytes of a stream of items; one composer writes all its messages. -/
def writeAll (items : List StreamItem) : List UInt8 := (items.foldl write ({}, [])).2

def bytes : StreamItem → List UInt8
  | message m => m.frame
  | header tag => Field.encodeInt tag

def message? : StreamItem → Option Message
  | message m => some m
  | header _ => none

/-- Whether a message fits the wire; whether a header names no kind. -/
def Valid : StreamItem → Prop
  | message m => m.Fits
  | header tag => ¬ (0 ≤ tag ∧ tag ≤ 4)

instance : (i : StreamItem) → Decidable i.Valid
  | message m => inferInstanceAs (Decidable m.Fits)
  | header tag => inferInstanceAs (Decidable (¬ (0 ≤ tag ∧ tag ≤ 4)))

end StreamItem

namespace Composer

theorem foldl_push (c : Composer) (fs : List Field) :
    fs.foldl push c = ⟨c.body ++ Field.encodeAll fs⟩ := by
  induction fs generalizing c with
  | nil => simp [Field.encodeAll]
  | cons f fs ih => simp [ih, push, Field.encodeAll]

theorem encode_empty (m : Message) (output : List UInt8) :
    encode {} m output = ({}, output ++ m.frame) := by
  rw [encode, pushMessage, foldl_push, finish, List.nil_append, Message.frame, List.append_assoc]

end Composer

namespace StreamItem

theorem foldl_write (items : List StreamItem) (output : List UInt8) :
    items.foldl write ({}, output) = ({}, output ++ items.flatMap bytes) := by
  induction items generalizing output with
  | nil => simp
  | cons item items ih =>
    cases item with
    | message m => simp [write, Composer.encode_empty, ih, bytes]
    | header tag => simp [write, ih, bytes]

theorem writeAll_eq (items : List StreamItem) : writeAll items = items.flatMap bytes := by
  rw [writeAll, foldl_write, List.nil_append]

end StreamItem

namespace Kind

theorem ofTag?_eq_none {tag : Int32} (h : ¬ (0 ≤ tag ∧ tag ≤ 4)) : ofTag? tag = none := by
  cases hk : ofTag? tag with
  | none => rfl
  | some k =>
    rw [← tag_of_ofTag? hk] at h
    cases k <;> exact absurd (by decide) h

end Kind

namespace Frames
open Reader ViewerBridge.Field

theorem next_frame_append {m : Message} (h : m.Fits) (rest : List UInt8) :
    next (m.frame ++ rest) = (.message m, rest) := by
  have hk : readKind (m.frame ++ rest) = (.ok m.kind, encodeAll m.fields ++ rest) := by
    rw [Message.frame, List.append_assoc, readKind_append]
  have hm := Message.read_frame_append h []
  rw [List.append_nil] at hm
  simp only [next, afterUnknown_of_readKind hk, Message.span_frame_append h rest, List.splitAt_eq,
    List.take_left, List.drop_left, hm]

theorem drain_frame_append {m : Message} (h : m.Fits) (rest : List UInt8) :
    drain (m.frame ++ rest) = prepend [m] (drain rest) :=
  drain_message (next_frame_append h rest)

theorem drain_frames_append {ms : List Message} (h : ∀ m ∈ ms, m.Fits) (rest : List UInt8) :
    drain (ms.flatMap Message.frame ++ rest) = prepend ms (drain rest) := by
  induction ms with
  | nil => rfl
  | cons m ms ih =>
    have hms := ih fun n hn => h n (List.mem_cons_of_mem m hn)
    rw [List.flatMap_cons, List.append_assoc, drain_frame_append (h m List.mem_cons_self), hms,
      ← prepend_append]
    rfl

theorem drain_header_append {tag : Int32} (h : Kind.ofTag? tag = none) (rest : List UInt8) :
    drain (encodeInt tag ++ rest) = drain rest := by
  have hi : readInt (encodeInt tag ++ rest) = (.ok tag, rest) := readInt_append tag rest
  apply drain_congr
  apply next_congr
  simp only [encodeInt, encodeWord, LittleEndian.bytes, List.cons_append, List.nil_append] at hi ⊢
  rw [readInt_cons] at hi
  rw [afterUnknown, headerKind?, Except.ok.inj (Prod.mk.inj hi).1, h]
  rfl

theorem drain_writeAll {items : List StreamItem} (h : ∀ i ∈ items, i.Valid) :
    drain (StreamItem.writeAll items) = (items.filterMap StreamItem.message?, .ok []) := by
  rw [StreamItem.writeAll_eq]
  induction items with
  | nil => rfl
  | cons item items ih =>
    have hitem := h item List.mem_cons_self
    have hitems := ih fun i hi => h i (List.mem_cons_of_mem item hi)
    rw [List.flatMap_cons]
    cases item with
    | message m =>
      rw [StreamItem.bytes, drain_frame_append hitem, hitems]
      rfl
    | header tag =>
      rw [StreamItem.bytes, drain_header_append (Kind.ofTag?_eq_none hitem), hitems]
      rfl

/-- A stream of messages and unknown headers that one composer has written is read back in any
chunks: exactly its messages come out, in order, and nothing is left. -/
theorem feed_writeAll {items : List StreamItem} (h : ∀ i ∈ items, i.Valid)
    {chunks : List (List UInt8)} (hc : chunks.flatten = StreamItem.writeAll items) :
    feed [] chunks = (items.filterMap StreamItem.message?, .ok []) := by
  rw [feed_of_settled rfl, List.nil_append, hc]
  exact drain_writeAll h

/-- Two messages among unknown headers, cut after every byte. -/
theorem feed_writeAll_bytewise :
    let items := [StreamItem.header 99, .message (.plotRequest "image ∂"), .header (-1),
      .message (.availableSymbols ["a", ""])]
    (∀ i ∈ items, i.Valid) ∧
      feed [] ((StreamItem.writeAll items).map fun b => [b])
        = ([.plotRequest "image ∂", .availableSymbols ["a", ""]], .ok []) := by
  intro items
  have h : ∀ i ∈ items, i.Valid := by decide +kernel
  have hc : ((StreamItem.writeAll items).map fun b => [b]).flatten = StreamItem.writeAll items := by
    rw [← List.flatMap_def, List.flatMap_singleton']
  exact ⟨h, feed_writeAll h hc⟩

end Frames
end ViewerBridge

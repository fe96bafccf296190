import ViewerBridge.Boundary.Descriptor
import ViewerBridge.Proofs.Buffer.Sizes
/-!
# What a foreign buffer describes

The host lays out a buffer part by part. Either the parts describe a buffer, with every field of it,
or there is a first part that is wrong, in the order in which they are checked.
-/
namespace ViewerBridge

theorem Utf8.decode?_eq_some_iff {bytes : List UInt8} {s : String} :
    decode? bytes = some s ↔ bytes = encode s := by
  refine ⟨fun h => (encode_of_decode? h).symm, ?_⟩
  rintro rfl
  exact decode?_encode s

namespace ForeignText

/-- The bytes of the text, up to its end, are those of `s`. -/
def Spells (t : ForeignText) (s : String) : Prop :=
  ∃ bytes, t = some bytes ∧ content bytes = Utf8.encode s

inductive Faulty (field : String) : ForeignText → CallError → Prop where
  | null : Faulty field none (.nullText field)
  /-- No text has these bytes. -/
  | invalid {bytes : List UInt8} (h : ∀ s, content bytes ≠ Utf8.encode s) :
    Faulty field (some bytes)
      (.invalidText field ((Utf8.fault? (content bytes)).getD ⟨0, none⟩))

variable {t : ForeignText} {field s : String} {e : CallError}

theorem Spells.required_eq (h : t.Spells s) (field : String) : t.required field = .ok s := by
  obtain ⟨bytes, rfl, hbytes⟩ := h
  rw [required, Utf8.read, Utf8.decode?_eq_some_iff.mpr hbytes]
  rfl

theorem Faulty.required_eq (h : t.Faulty field e) : t.required field = .error e := by
  cases h with
  | null => rfl
  | @invalid bytes h =>
    have hnone : Utf8.decode? (content bytes) = none := by
      refine Option.eq_none_iff_forall_ne_some.mpr fun s hs => ?_
      exact h s (Utf8.decode?_eq_some_iff.mp hs)
    rw [required, Utf8.read, hnone]
    rfl

theorem spells_or_faulty (t : ForeignText) (field : String) :
    (∃ s, t.Spells s) ∨ ∃ e, t.Faulty field e := by
  rcases t with _ | bytes
  · exact .inr ⟨_, .null⟩
  · by_cases h : ∃ s, content bytes = Utf8.encode s
    · obtain ⟨s, hs⟩ := h
      exact .inl ⟨s, bytes, rfl, hs⟩
    · exact .inr ⟨_, .invalid fun s hs => h ⟨s, hs⟩⟩

end ForeignText

namespace ForeignBuffer

/-- The host describes this buffer: every field is the one that it has given. -/
structure Describes (foreign : ForeignBuffer) (b : Buffer) : Prop where
  variableName : foreign.variableName.Spells b.variableName
  displayName : foreign.displayName.Spells b.displayName
  pixelLayout : foreign.pixelLayout.Spells b.pixelLayout
  transpose : b.transpose = foreign.transpose
  width : b.shape.width = foreign.width
  height : b.shape.height = foreign.height
  channels : b.shape.channels = foreign.channels
  rowStride : b.shape.rowStride = foreign.rowStride
  element : b.shape.element.code = foreign.element
  /-- A null pointer with the length 0 stands for no bytes. -/
  payload : foreign.payload = .bytes b.payload ∨ foreign.payload = .null 0 ∧ b.payload = []

/-- The first part of a foreign buffer that is wrong, and the error for it. Each part is reached only
if those before it are in order. -/
inductive Faulty (foreign : ForeignBuffer) : CallError → Prop where
  | variableName {e} (fault : foreign.variableName.Faulty "variable_name" e) : Faulty foreign e
  | displayName {name e} (hname : foreign.variableName.Spells name)
    (fault : foreign.displayName.Faulty "display_name" e) : Faulty foreign e
  | pixelLayout {name display e} (hname : foreign.variableName.Spells name)
    (hdisplay : foreign.displayName.Spells display)
    (fault : foreign.pixelLayout.Faulty "pixel_layout" e) : Faulty foreign e
  | element {name display layout} (hname : foreign.variableName.Spells name)
    (hdisplay : foreign.displayName.Spells display) (hlayout : foreign.pixelLayout.Spells layout)
    (fault : ∀ t : ElementType, t.code ≠ foreign.element) :
    Faulty foreign (.unknownElement name foreign.element)
  | payload {name display layout} {t : ElementType} {n : Nat}
    (hname : foreign.variableName.Spells name) (hdisplay : foreign.displayName.Spells display)
    (hlayout : foreign.pixelLayout.Spells layout) (helement : t.code = foreign.element)
    (fault : foreign.payload = .null (n + 1)) : Faulty foreign (.nullPayload name (n + 1))

variable {foreign : ForeignBuffer} {b : Buffer} {e : CallError}

theorem Describes.toBuffer_eq (h : foreign.Describes b) : foreign.toBuffer = .ok b := by
  have helement : ElementType.ofCode? foreign.element = some b.shape.element := by
    rw [← h.element, ElementType.ofCode?_code]
  have hpayload : foreign.payloadBytes b.variableName = .ok b.payload := by
    unfold payloadBytes
    rcases h.payload with hp | ⟨hp, hnil⟩
    · rw [hp]
    · rw [hp, hnil]
      rfl
  rw [toBuffer, h.variableName.required_eq, h.displayName.required_eq, h.pixelLayout.required_eq,
    helement]
  simp only [bind, Except.bind, pure, Except.pure, hpayload, ← h.transpose, ← h.width, ← h.height,
    ← h.channels, ← h.rowStride]

theorem Faulty.toBuffer_eq (h : foreign.Faulty e) : foreign.toBuffer = .error e := by
  cases h with
  | variableName fault =>
    rw [toBuffer, fault.required_eq]
    rfl
  | displayName hname fault =>
    rw [toBuffer, hname.required_eq, fault.required_eq]
    rfl
  | pixelLayout hname hdisplay fault =>
    rw [toBuffer, hname.required_eq, hdisplay.required_eq, fault.required_eq]
    rfl
  | element hname hdisplay hlayout fault =>
    have hnone : ElementType.ofCode? foreign.element = none := by
      refine Option.eq_none_iff_forall_ne_some.mpr fun t ht => ?_
      exact fault t (ElementType.code_of_ofCode? ht)
    rw [toBuffer, hname.required_eq, hdisplay.required_eq, hlayout.required_eq, hnone]
    rfl
  | @payload name _ _ t n hname hdisplay hlayout helement fault =>
    have hpayload : foreign.payloadBytes name = .error (.nullPayload name (n + 1)) := by
      rw [payloadBytes, fault]
      rfl
    rw [toBuffer, hname.required_eq, hdisplay.required_eq, hlayout.required_eq, ← helement,
      ElementType.ofCode?_code]
    simp only [bind, Except.bind, pure, Except.pure, hpayload]

theorem describes_or_faulty (foreign : ForeignBuffer) :
    (∃ b, foreign.Describes b) ∨ ∃ e, foreign.Faulty e := by
  rcases foreign.variableName.spells_or_faulty "variable_name" with ⟨name, hname⟩ | ⟨e, he⟩
  case inr => exact .inr ⟨e, .variableName he⟩
  rcases foreign.displayName.spells_or_faulty "display_name" with ⟨display, hdisplay⟩ | ⟨e, he⟩
  case inr => exact .inr ⟨e, .displayName hname he⟩
  rcases foreign.pixelLayout.spells_or_faulty "pixel_layout" with ⟨layout, hlayout⟩ | ⟨e, he⟩
  case inr => exact .inr ⟨e, .pixelLayout hname hdisplay he⟩
  by_cases helement : ∃ t : ElementType, t.code = foreign.element
  case neg =>
    exact .inr ⟨_, .element hname hdisplay hlayout fun t ht => helement ⟨t, ht⟩⟩
  obtain ⟨t, ht⟩ := helement
  let shape : Shape :=
    ⟨foreign.width, foreign.height, foreign.channels, foreign.rowStride, t⟩
  rcases hpayload : foreign.payload with bs | _ | n
  · refine .inl ⟨⟨name, display, layout, foreign.transpose, shape, bs⟩, ?_⟩
    exact ⟨hname, hdisplay, hlayout, rfl, rfl, rfl, rfl, rfl, ht, .inl hpayload⟩
  · refine .inl ⟨⟨name, display, layout, foreign.transpose, shape, []⟩, ?_⟩
    exact ⟨hname, hdisplay, hlayout, rfl, rfl, rfl, rfl, rfl, ht, .inr ⟨hpayload, rfl⟩⟩
  · exact .inr ⟨_, .payload hname hdisplay hlayout ht hpayload⟩

end ForeignBuffer

/-- The first thing that is wrong with a buffer that is to be plotted. Its size is looked at last. -/
inductive PlotFault : Option ForeignBuffer → CallError → Prop where
  | missing : PlotFault none .nullDescriptor
  | part {foreign : ForeignBuffer} {e : CallError} (fault : foreign.Faulty e) :
    PlotFault (some foreign) e
  | size {foreign : ForeignBuffer} {b : Buffer} {cause : SizeFault} (h : foreign.Describes b)
    (fault : b.shape.verdict b.payload.length = .error cause) :
    PlotFault (some foreign) (.bridge (.buffer ⟨b.variableName, cause⟩))

theorem plottable_or_fault (buffer : Option ForeignBuffer) :
    (∃ foreign b, buffer = some foreign ∧ foreign.Describes b ∧
      b.shape.Admits b.payload.length) ∨ ∃ e, PlotFault buffer e := by
  rcases buffer with _ | foreign
  · exact .inr ⟨_, .missing⟩
  rcases foreign.describes_or_faulty with ⟨b, hb⟩ | ⟨e, he⟩
  · rcases hv : b.shape.verdict b.payload.length with cause | _
    · exact .inr ⟨_, .size hb hv⟩
    · exact .inl ⟨foreign, b, rfl, hb, (Shape.verdict_eq_ok_iff _ _).mp hv⟩
  · exact .inr ⟨e, .part he⟩

end ViewerBridge

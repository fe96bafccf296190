import ViewerBridge.Launch.CommandLine
/-!
# Reading the command line

A command line says one thing after another: a flag takes the argument behind it as its value,
whatever that looks like, and anything else is passed over. The first thing that cannot stand decides
the reading, else what was said last. What a launch writes is read back as it was meant.
-/
namespace ViewerBridge

namespace Decimal

/-- The text is one or more decimal digits, after a plus sign or not, that stand for the number. -/
def Spells (text : List Char) (n : Nat) : Prop :=
  ∃ digits, (text = digits ∨ text = '+' :: digits) ∧ digits ≠ [] ∧ (∀ c ∈ digits, c.isDigit) ∧
    Nat.ofDigitChars 10 digits 0 = n

theorem digits_eq_some_iff {digits : List Char} {n : Nat} :
    (if digits.isEmpty ∨ ¬ digits.all Char.isDigit then none else some (value digits)) = some n ↔
      digits ≠ [] ∧ (∀ c ∈ digits, c.isDigit) ∧ Nat.ofDigitChars 10 digits 0 = n := by
  have hvalue : value digits = Nat.ofDigitChars 10 digits 0 := rfl
  simp only [hvalue, List.isEmpty_iff, List.all_eq_true]
  by_cases h : digits = [] ∨ ¬ ∀ c ∈ digits, c.isDigit
  · simp only [if_pos h, reduceCtorEq, false_iff]
    rintro ⟨hne, hall, -⟩
    exact h.elim hne fun hn => hn hall
  · rw [not_or, Classical.not_not] at h
    simp [h]

theorem parse?_eq_some_iff {text : List Char} {n : Nat} : parse? text = some n ↔ Spells text n := by
  unfold parse? Spells
  by_cases h : text.head? = some '+'
  · obtain ⟨rest, rfl⟩ := List.head?_eq_some_iff.mp h
    simp only [List.head?_cons, if_true, List.drop_one, List.tail_cons, digits_eq_some_iff]
    constructor
    · exact fun hrest => ⟨rest, .inr rfl, hrest⟩
    · rintro ⟨digits, rfl | hdigits, hne, hall, hvalue⟩
      · exact absurd (hall '+' List.mem_cons_self) (by decide)
      · cases hdigits
        exact ⟨hne, hall, hvalue⟩
  · simp only [if_neg h, digits_eq_some_iff]
    constructor
    · exact fun htext => ⟨text, .inl rfl, htext⟩
    · rintro ⟨digits, rfl | rfl, hdigits⟩
      · exact hdigits
      · exact absurd rfl h

theorem spells_toString (n : Nat) : Spells (toString n).toList n := by
  rw [Nat.toString_eq_ofList_toDigits, String.toList_ofList]
  refine ⟨Nat.toDigits 10 n, .inl rfl, Nat.toDigits_ne_nil, ?_, Nat.ofDigitChars_ten_toDigits⟩
  intro c hc
  exact Nat.isDigit_of_mem_toDigits (by decide) (by decide) hc

end Decimal

namespace Port

theorem ofText?_eq_some_iff {text : String} {port : UInt16} :
    ofText? text = some port ↔ Decimal.Spells text.toList port.toNat ∧ port ≠ 0 := by
  have hport : port.toNat < 65536 := port.toNat_lt
  rw [← Decimal.parse?_eq_some_iff, Ne, ← UInt16.toNat_inj]
  unfold ofText?
  cases Decimal.parse? text.toList with
  | none => simp
  | some n =>
    simp only [Option.some.injEq, UInt16.toNat_zero]
    by_cases hn : n = 0 ∨ 65536 ≤ n
    · simp only [if_pos hn, reduceCtorEq, false_iff]
      omega
    · have hsame : n % 65536 = n := Nat.mod_eq_of_lt (by omega)
      simp only [if_neg hn, Option.some.injEq, ← UInt16.toNat_inj, UInt16.toNat_ofNat',
        Nat.reducePow, hsame]
      omega

theorem ofText?_toString (port : UInt16) :
    ofText? (toString port.toNat) = if port = 0 then none else some port := by
  by_cases h : port = 0
  · subst h
    decide
  · rw [if_neg h, ofText?_eq_some_iff]
    exact ⟨Decimal.spells_toString port.toNat, h⟩

end Port

inductive Setting where
  | given (flag : Flag) (value : String)
  /-- A flag at the end, with nothing behind it. -/
  | bare (flag : Flag)
  /-- An argument that is no flag. -/
  | other (argument : String)

namespace Setting

inductive Reads : List String → List Setting → Prop
  | nil : Reads [] []
  | given (flag : Flag) (value : String) {arguments : List String} {settings : List Setting}
    (rest : Reads arguments settings) :
    Reads (flag.text :: value :: arguments) (given flag value :: settings)
  | bare (flag : Flag) : Reads [flag.text] [bare flag]
  | other (argument : String) (noFlag : ∀ flag : Flag, argument ≠ flag.text)
    {arguments : List String} {settings : List Setting} (rest : Reads arguments settings) :
    Reads (argument :: arguments) (other argument :: settings)

theorem exists_reads : (arguments : List String) → ∃ settings, Reads arguments settings
  | [] => ⟨[], .nil⟩
  | [argument] => by
    cases hf : Flag.ofText? argument with
    | none => exact ⟨_, .other argument (Flag.ofText?_eq_none_iff.mp hf) .nil⟩
    | some flag =>
      rw [← Flag.text_of_ofText? hf]
      exact ⟨_, .bare flag⟩
  | argument :: value :: rest => by
    cases hf : Flag.ofText? argument with
    | none =>
      obtain ⟨settings, hrest⟩ := exists_reads (value :: rest)
      exact ⟨_, .other argument (Flag.ofText?_eq_none_iff.mp hf) hrest⟩
    | some flag =>
      obtain ⟨settings, hrest⟩ := exists_reads rest
      rw [← Flag.text_of_ofText? hf]
      exact ⟨_, .given flag value hrest⟩

theorem Reads.unique {arguments : List String} {settings others : List Setting}
    (h : Reads arguments settings) (h' : Reads arguments others) : settings = others := by
  induction h generalizing others with
  | nil => cases h'; rfl
  | given flag value rest ih =>
    generalize hw : flag.text = word at h'
    cases h' with
    | given flag' _ rest' => rw [Flag.text_injective hw, ih rest']
    | other _ noFlag _ => exact absurd hw.symm (noFlag flag)
  | bare flag =>
    generalize hw : flag.text = word at h'
    cases h' with
    | bare flag' => rw [Flag.text_injective hw]
    | other _ noFlag _ => exact absurd hw.symm (noFlag flag)
  | other argument noFlag rest ih =>
    cases h' with
    | given flag _ _ => exact absurd rfl (noFlag flag)
    | bare flag => exact absurd rfl (noFlag flag)
    | other _ _ rest' => rw [ih rest']

def style? : Setting → Option String
  | given .style value => some value
  | _ => none

def port? : Setting → Option UInt16
  | given .port value => Port.ofText? value
  | _ => none

def fault? : Setting → Option ArgumentError
  | given .port value => if (Port.ofText? value).isNone then some (.invalidPort value) else none
  | bare flag => some (.missingValue flag)
  | _ => none

end Setting

namespace ViewerArguments
open Setting

/-- What comes of the first fault and of the style and the port that were given last. -/
def verdict (fault : Option ArgumentError) (style : Option String) (port : Option UInt16) :
    Except ArgumentError ViewerArguments :=
  match fault, port with
  | some e, _ => .error e
  | none, none => .error (.missingArgument .port)
  | none, some port => .ok ⟨style, port⟩

theorem parseFrom_eq {arguments : List String} {settings : List Setting}
    (h : Reads arguments settings) (style : Option String) (port : Option UInt16) :
    parseFrom style port arguments = verdict (settings.findSome? fault?)
      ((settings.filterMap style?).getLast?.or style)
      ((settings.filterMap port?).getLast?.or port) := by
  induction h generalizing style port with
  | nil => cases port <;> rfl
  | given flag value rest ih =>
    cases flag with
    | style =>
      simp [parseFrom, ih, fault?, style?, port?, List.findSome?_cons, List.getLast?_cons,
        Option.or_some]
    | port =>
      cases hport : Port.ofText? value with
      | none => simp [parseFrom, fault?, hport, verdict]
      | some p =>
        simp [parseFrom, ih, fault?, style?, port?, hport, List.findSome?_cons, List.getLast?_cons,
          Option.or_some]
  | bare flag => simp [parseFrom, fault?, verdict]
  | other argument noFlag rest ih =>
    simp [parseFrom, ih, fault?, style?, port?, List.findSome?_cons,
      Flag.ofText?_eq_none_iff.mpr noFlag]

theorem parse_eq {arguments : List String} {settings : List Setting}
    (h : Reads arguments settings) :
    parse arguments = verdict (settings.findSome? fault?) (settings.filterMap style?).getLast?
      (settings.filterMap port?).getLast? := by
  rw [parse, parseFrom_eq h, Option.or_none, Option.or_none]

theorem parse_launch (launch : Launch) : parse launch.arguments =
    if launch.port = 0 then .error (.invalidPort "0") else .ok ⟨some launch.style, launch.port⟩ := by
  have hreads : Reads launch.arguments
      [.given .style launch.style, .given .port (toString launch.port.toNat)] :=
    .given .style _ (.given .port _ .nil)
  have hport := Port.ofText?_toString launch.port
  rw [parse_eq hreads]
  by_cases h : launch.port = 0
  · have htext : toString launch.port.toNat = "0" := by rw [h]; rfl
    rw [htext, if_pos h] at hport
    rw [htext, if_pos h]
    simp [List.findSome?_cons, fault?, hport, verdict]
  · rw [if_neg h] at hport
    generalize toString launch.port.toNat = text at hport
    simp [List.findSome?_cons, List.filterMap_cons, fault?, style?, port?, hport, h, verdict]

/-- Every command line says one thing or another in one way only, and is refused over the first thing
that cannot stand: a flag with nothing behind it, or a port that is no decimal number from 1 to
65535. Else the last style and the last port count, and a port there must be. So a viewer reads the
style and the port that its launch was given, whatever the style looks like. -/
theorem parse_settings :
    (∀ arguments, ∃ settings, Reads arguments settings ∧
        ∀ others, Reads arguments others → others = settings) ∧
      (∀ arguments settings, Reads arguments settings →
        parse arguments = verdict (settings.findSome? fault?)
          (settings.filterMap style?).getLast? (settings.filterMap port?).getLast?) ∧
      (∀ text port, Port.ofText? text = some port ↔
        Decimal.Spells text.toList port.toNat ∧ port ≠ 0) ∧
      ∀ launch : Launch, parse launch.arguments =
        if launch.port = 0 then .error (.invalidPort "0")
        else .ok ⟨some launch.style, launch.port⟩ := by
  refine ⟨fun arguments => ?_, fun _ _ => parse_eq, fun _ _ => Port.ofText?_eq_some_iff, parse_launch⟩
  obtain ⟨settings, h⟩ := exists_reads arguments
  exact ⟨settings, h, fun others h' => h'.unique h⟩

/-- A style that looks like a flag, a port with a sign, and a bad port ahead of a bare flag. -/
theorem parse_settings_faulty :
    let arguments := ["-v", "-style", "-p", "-p", "+080", "-p", "8a", "-style"]
    let settings : List Setting := [.other "-v", .given .style "-p", .given .port "+080",
      .given .port "8a", .bare .style]
    Reads arguments settings ∧ parse arguments = .error (.invalidPort "8a") := by
  intro arguments settings
  have hv : ∀ flag : Flag, "-v" ≠ flag.text := by
    intro flag
    cases flag <;> decide
  have hreads : Reads arguments settings :=
    .other "-v" hv (.given .style _ (.given .port _ (.given .port _ (.bare .style))))
  obtain ⟨-, hparse, -⟩ := parse_settings
  exact ⟨hreads, (hparse arguments settings hreads).trans rfl⟩

end ViewerArguments
end ViewerBridge

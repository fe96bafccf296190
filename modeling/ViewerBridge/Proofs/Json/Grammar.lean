import ViewerBridge.Json.Quoted
/-!
# The grammar of JSON

Which texts are values, by rules that know nothing of a reader: numbers, strings by their pieces, and
arrays and objects with blanks wherever the rules allow them. For strings there are two readings: a
string in form, whose escapes may stand for anything, and a string that spells a text.
-/
namespace ViewerBridge.Json

def Blanks (cs : List Char) : Prop := ∀ c ∈ cs, isBlank c = true

instance (cs : List Char) : Decidable (Blanks cs) :=
  List.decidableBAll (fun c => isBlank c = true) cs

inductive Piece : List Char → Prop where
  | plain {c : Char} (high : ' ' ≤ c) (noQuote : c ≠ '"') (noEscape : c ≠ '\\') : Piece [c]
  | short {c : Char} (known : (unescape? c).isSome = true) : Piece ['\\', c]
  | unit {a b c d : Char} (digits : (unit? a b c d).isSome = true) : Piece ['\\', 'u', a, b, c, d]

inductive Inside : List Char → Prop where
  | nil : Inside []
  | cons {piece rest : List Char} (first : Piece piece) (more : Inside rest) : Inside (piece ++ rest)

/-- A character as it may be written inside a string: itself, a short escape, or one or two units. -/
inductive Writes : List Char → Char → Prop where
  | plain {c : Char} (high : ' ' ≤ c) (noQuote : c ≠ '"') (noEscape : c ≠ '\\') : Writes [c] c
  | short {c meant : Char} (known : unescape? c = some meant) : Writes ['\\', c] meant
  | unit {a b c d : Char} {n : Nat} (digits : unit? a b c d = some n) (single : isLeading n = false)
    (noTrail : isTrailing n = false) : Writes ['\\', 'u', a, b, c, d] (Char.ofNat n)
  | pair {a b c d e f g h : Char} {n m : Nat} (first : unit? a b c d = some n)
    (leading : isLeading n = true) (second : unit? e f g h = some m)
    (trailing : isTrailing m = true) :
    Writes ['\\', 'u', a, b, c, d, '\\', 'u', e, f, g, h] (ofPair n m)

/-- The inside of a string that stands for the given characters. -/
inductive Spells : List Char → List Char → Prop where
  | nil : Spells [] []
  | cons {piece rest : List Char} {c : Char} {cs : List Char} (first : Writes piece c)
    (more : Spells rest cs) : Spells (piece ++ rest) (c :: cs)

def Digits (ds : List Char) : Prop := ds ≠ [] ∧ ∀ c ∈ ds, c.isDigit = true

def IsWhole (ds : List Char) : Prop := Digits ds ∧ (ds.head? = some '0' → ds = ['0'])

inductive IsFraction : List Char → Prop where
  | none : IsFraction []
  | point {ds : List Char} (digits : Digits ds) : IsFraction ('.' :: ds)

inductive IsExponent : List Char → Prop where
  | none : IsExponent []
  | letter {e : Char} {sign ds : List Char} (small : e = 'e' ∨ e = 'E')
    (signed : sign ∈ [[], ['+'], ['-']]) (digits : Digits ds) : IsExponent (e :: (sign ++ ds))

inductive IsNumber : List Char → Prop where
  | parts {sign whole fraction exponent : List Char} (signed : sign ∈ [[], ['-']])
    (isWhole : IsWhole whole) (isFraction : IsFraction fraction)
    (isExponent : IsExponent exponent) : IsNumber (sign ++ (whole ++ (fraction ++ exponent)))

/-- What may follow a value: a blank, the next piece of an array or object, or nothing. -/
def Ends (rest : List Char) : Prop :=
  ∀ c, rest.head? = some c → isBlank c = true ∨ c = ',' ∨ c = ']' ∨ c = '\x7d'

/-- What the rules for values derive. -/
inductive Phrase where
  | value
  /-- A value of an array, with the blanks around it. -/
  | element
  | elements
  /-- A member of an object, with the blanks around it. -/
  | member
  | members

inductive Derives : Phrase → List Char → Prop where
  | word {w : List Char} (known : w ∈ [['n', 'u', 'l', 'l'], ['t', 'r', 'u', 'e'],
      ['f', 'a', 'l', 's', 'e']]) : Derives .value w
  | number {cs : List Char} (isNumber : IsNumber cs) : Derives .value cs
  | string {raw : List Char} (inside : Inside raw) : Derives .value ('"' :: (raw ++ ['"']))
  | noElements {ws : List Char} (blanks : Blanks ws) : Derives .value ('[' :: (ws ++ [']']))
  | array {es : List Char} (elements : Derives .elements es) : Derives .value ('[' :: (es ++ [']']))
  | noMembers {ws : List Char} (blanks : Blanks ws) : Derives .value ('\x7b' :: (ws ++ ['\x7d']))
  | object {ms : List Char} (members : Derives .members ms) :
    Derives .value ('\x7b' :: (ms ++ ['\x7d']))
  | element {before v after : List Char} (blanks : Blanks before) (value : Derives .value v)
    (blanks' : Blanks after) : Derives .element (before ++ (v ++ after))
  | lastElement {e : List Char} (element : Derives .element e) : Derives .elements e
  | elements {e es : List Char} (element : Derives .element e) (rest : Derives .elements es) :
    Derives .elements (e ++ ',' :: es)
  | member {before raw between e : List Char} (blanks : Blanks before) (inside : Inside raw)
    (blanks' : Blanks between) (element : Derives .element e) :
    Derives .member (before ++ '"' :: (raw ++ '"' :: (between ++ ':' :: e)))
  | lastMember {m : List Char} (member : Derives .member m) : Derives .members m
  | members {m ms : List Char} (member : Derives .member m) (rest : Derives .members ms) :
    Derives .members (m ++ ',' :: ms)

theorem Inside.append {raw more : List Char} (h : Inside raw) (h' : Inside more) :
    Inside (raw ++ more) := by
  induction h with
  | nil => exact h'
  | cons first _ ih =>
    rw [List.append_assoc]
    exact .cons first ih

theorem Writes.inside {piece : List Char} {c : Char} (h : Writes piece c) : Inside piece := by
  cases h with
  | plain high noQuote noEscape => exact .cons (.plain high noQuote noEscape) .nil
  | short known => exact .cons (.short (by simp [known])) .nil
  | unit digits => exact .cons (.unit (by simp [digits])) .nil
  | pair first _ second =>
    exact .cons (.unit (by simp [first])) (.cons (.unit (by simp [second])) .nil)

theorem Spells.inside {raw cs : List Char} (h : Spells raw cs) : Inside raw := by
  induction h with
  | nil => exact .nil
  | cons first _ ih => exact first.inside.append ih
theorem Ends.append {ws rest : List Char} (hw : Blanks ws) (h : Ends rest) : Ends (ws ++ rest) := by
  cases ws with
  | nil => exact h
  | cons w ws =>
    rintro c hc
    obtain rfl : w = c := Option.some.inj hc
    exact .inl (hw w List.mem_cons_self)

theorem ends_cons {c : Char} (h : c = ',' ∨ c = ']' ∨ c = '\x7d') (cs : List Char) :
    Ends (c :: cs) := by
  rintro d hd
  obtain rfl : c = d := Option.some.inj hd
  exact .inr h

theorem Ends.not_numeric {rest : List Char} (h : Ends rest) {c : Char} (hc : rest.head? = some c) :
    c.isDigit = false ∧ c ≠ '.' ∧ c ≠ 'e' ∧ c ≠ 'E' := by
  rcases h c hc with hb | rfl | rfl | rfl
  · simp only [isBlank, Bool.or_eq_true, beq_iff_eq] at hb
    rcases hb with ((rfl | rfl) | rfl) | rfl <;> decide
  all_goals decide

theorem not_isBlank_of_isDigit {c : Char} (h : c.isDigit = true) : isBlank c = false := by
  cases hb : isBlank c with
  | false => rfl
  | true =>
    have hends : Ends [c] := fun d hd => .inl (by rw [← Option.some.inj hd, hb])
    rw [(hends.not_numeric rfl).1] at h
    cases h

end ViewerBridge.Json

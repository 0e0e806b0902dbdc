import Mathlib.Data.List.TakeDrop
import Mathlib.Data.List.TakeWhile
import TextAdventure.Text.Blank
import TextAdventure.Text.Numeral

/-!
# Numbers written and read back

A text is read as a number when it holds digits, behind at most one sign, and their value lies in
the range that is wanted.  A number that is written in decimal therefore reads back as the same
number.  Written numbers survive wherever texts are split at other characters or trimmed of blanks.
A text is split at a character where that character stands for the first time.

Main results:

- Theorems `natural?_eq_some_iff` and `integer?_eq_some_iff`: the numerals, by sign, digits and
  range.
- Theorems `natural?_toString` and `integer?_toString`: a number is read back.
- Definition `Solid` with `solid_toString_nat` and `solid_toString_int`: no blanks in a number.
- Theorems `span_of_notMem` and `span_eq_self`: a text split at a character.
-/

namespace TextAdventure.Text

/-! ## Digits -/

/-- The characters are digits, of which there is at least one, and their number is `n`. -/
def IsDecimal (cs : List Char) (n : Nat) : Prop :=
  cs ≠ [] ∧ (∀ c ∈ cs, c.isDigit = true) ∧ Nat.ofDigitChars 10 cs 0 = n

/-- A character has a value exactly when it is a digit, and then that of its place among them. -/
theorem digit?_eq (c : Char) :
    digit? c = if c.isDigit = true then some (c.toNat - '0'.toNat) else none := by
  have hbounds : ('0' ≤ c ∧ c ≤ '9') ↔ c.isDigit = true := by
    simp [Char.isDigit, Char.le_def]
  exact if_congr hbounds rfl rfl

/-- A run of digits is read in the way in which the digits of a number are put together, and nothing
else is read. -/
theorem digitsFrom?_eq_some_iff {cs : List Char} {value n : Nat} :
    digitsFrom? value cs = some n ↔
      (∀ c ∈ cs, c.isDigit = true) ∧ Nat.ofDigitChars 10 cs value = n := by
  induction cs generalizing value with
  | nil => simp [digitsFrom?]
  | cons c cs ih =>
    rw [digitsFrom?, digit?_eq, List.forall_mem_cons, Nat.ofDigitChars_cons]
    cases hc : c.isDigit with
    | false => simp
    | true => simpa using ih

theorem digits?_eq_some_iff {cs : List Char} {n : Nat} :
    digits? cs = some n ↔ IsDecimal cs n := by
  cases cs with
  | nil => simp [digits?, IsDecimal]
  | cons c cs => simp [digits?, IsDecimal, digitsFrom?_eq_some_iff]

/-- What is made of the number that digits stand for. -/
theorem map_digits?_eq_some_iff {cs : List Char} {f : Nat → Int} {n : Int} :
    (digits? cs).map f = some n ↔ ∃ m, IsDecimal cs m ∧ f m = n := by
  simp only [Option.map_eq_some_iff, digits?_eq_some_iff]

theorem isDigit_of_mem_toDigits {n : Nat} {c : Char} (h : c ∈ Nat.toDigits 10 n) :
    c.isDigit = true :=
  Nat.isDigit_of_mem_toDigits (by omega) (by omega) h

/-- The digits of a number stand for it. -/
theorem isDecimal_toDigits (n : Nat) : IsDecimal (Nat.toDigits 10 n) n :=
  ⟨Nat.toDigits_ne_nil, fun _ hc => isDigit_of_mem_toDigits hc, Nat.ofDigitChars_ten_toDigits⟩

/-- A character that is not a digit does not stand in front of digits. -/
theorem IsDecimal.ne_cons {cs : List Char} {n : Nat} (h : IsDecimal cs n) {c : Char}
    (hc : c.isDigit = false) (rest : List Char) : cs ≠ c :: rest := by
  rintro rfl
  have hdigit := h.2.1 c List.mem_cons_self
  rw [hc] at hdigit
  contradiction

/-! ## Numerals -/

/-- The characters are digits, behind a plus sign or none, and stand for the number. -/
def IsNatural (cs : List Char) (n : Nat) : Prop :=
  ∃ sign digits, cs = sign ++ digits ∧ (sign = [] ∨ sign = ['+']) ∧ IsDecimal digits n

/-- The characters are digits, behind a sign or none, and stand for the number. -/
def IsInteger (cs : List Char) (n : Int) : Prop :=
  ∃ sign digits m, cs = sign ++ digits ∧ IsDecimal digits m ∧
    ((sign = [] ∨ sign = ['+']) ∧ n = m ∨ sign = ['-'] ∧ n = -m)

theorem unsigned?_eq_some_iff {cs : List Char} {n : Nat} :
    unsigned? cs = some n ↔ IsNatural cs n := by
  constructor
  · intro h
    unfold unsigned? at h
    split at h
    · exact ⟨['+'], _, rfl, Or.inr rfl, digits?_eq_some_iff.1 h⟩
    · exact ⟨[], cs, rfl, Or.inl rfl, digits?_eq_some_iff.1 h⟩
  · rintro ⟨sign, digits, rfl, rfl | rfl, hdigits⟩
    · unfold unsigned?
      split
      · rename_i heq
        exact absurd heq (hdigits.ne_cons (by decide) _)
      · exact digits?_eq_some_iff.2 hdigits
    · exact digits?_eq_some_iff.2 hdigits

theorem signed?_eq_some_iff {cs : List Char} {n : Int} :
    signed? cs = some n ↔ IsInteger cs n := by
  constructor
  · intro h
    unfold signed? at h
    split at h
    · obtain ⟨m, hm, rfl⟩ := map_digits?_eq_some_iff.1 h
      exact ⟨['+'], _, m, rfl, hm, Or.inl ⟨Or.inr rfl, rfl⟩⟩
    · obtain ⟨m, hm, rfl⟩ := map_digits?_eq_some_iff.1 h
      exact ⟨['-'], _, m, rfl, hm, Or.inr ⟨rfl, rfl⟩⟩
    · obtain ⟨m, hm, rfl⟩ := map_digits?_eq_some_iff.1 h
      exact ⟨[], cs, m, rfl, hm, Or.inl ⟨Or.inl rfl, rfl⟩⟩
  · rintro ⟨sign, digits, m, rfl, hdigits, ⟨rfl | rfl, rfl⟩ | ⟨rfl, rfl⟩⟩
    · unfold signed?
      split
      · rename_i heq
        exact absurd heq (hdigits.ne_cons (by decide) _)
      · rename_i heq
        exact absurd heq (hdigits.ne_cons (by decide) _)
      · exact map_digits?_eq_some_iff.2 ⟨m, hdigits, rfl⟩
    · exact map_digits?_eq_some_iff.2 ⟨m, hdigits, rfl⟩
    · exact map_digits?_eq_some_iff.2 ⟨m, hdigits, rfl⟩

/-- A text is read as a number below the bound exactly when it stands for it. -/
theorem natural?_eq_some_iff {bound n : Nat} {s : String} :
    natural? bound s = some n ↔ IsNatural s.toList n ∧ n < bound := by
  rw [natural?, Option.filter_eq_some_iff, unsigned?_eq_some_iff, decide_eq_true_eq]

/-- A text is read as a number between the bounds exactly when it stands for it. -/
theorem integer?_eq_some_iff {low high n : Int} {s : String} :
    integer? low high s = some n ↔ IsInteger s.toList n ∧ low ≤ n ∧ n < high := by
  rw [integer?, Option.filter_eq_some_iff, signed?_eq_some_iff, Bool.and_eq_true,
    decide_eq_true_eq, decide_eq_true_eq]

/-! ## Numbers as they are written -/

theorem toList_toString_nat (n : Nat) : (toString n).toList = Nat.toDigits 10 n := by
  simp

/-- A number below zero is written as a minus sign and the digits of its opposite. -/
theorem toList_toString_int (n : Int) :
    (toString n).toList =
      if 0 ≤ n then Nat.toDigits 10 n.toNat else '-' :: Nat.toDigits 10 (-n).toNat := by
  rw [Int.toString_eq_repr, Int.repr_eq_if]
  split <;> simp

/-- A number below the bound is read back. -/
theorem natural?_toString {bound n : Nat} (h : n < bound) :
    natural? bound (toString n) = some n := by
  refine natural?_eq_some_iff.2 ⟨⟨[], _, ?_, Or.inl rfl, isDecimal_toDigits n⟩, h⟩
  rw [toList_toString_nat, List.nil_append]

/-- A signed number between the bounds is read back. -/
theorem integer?_toString {low high n : Int} (hlow : low ≤ n) (hhigh : n < high) :
    integer? low high (toString n) = some n := by
  refine integer?_eq_some_iff.2 ⟨?_, hlow, hhigh⟩
  rw [toList_toString_int]
  split
  · rename_i hsign
    exact ⟨[], _, n.toNat, rfl, isDecimal_toDigits n.toNat, Or.inl ⟨Or.inl rfl, by omega⟩⟩
  · rename_i hsign
    exact ⟨['-'], _, (-n).toNat, rfl, isDecimal_toDigits (-n).toNat, Or.inr ⟨rfl, by omega⟩⟩

/-! ## Texts without blanks -/

/-- A text without blanks. -/
def Solid (s : String) : Prop :=
  ∀ c ∈ s.toList, isBlank c = false

instance (s : String) : Decidable (Solid s) :=
  List.decidableBAll (fun c => isBlank c = false) s.toList

/-- A digit is not a blank. -/
theorem not_blank_of_isDigit {c : Char} (h : c.isDigit = true) : isBlank c = false := by
  have hbounds : 48 ≤ c.toNat ∧ c.toNat ≤ 57 := by
    simpa [Char.isDigit, UInt32.le_iff_toNat_le] using h
  simp only [isBlank, Bool.or_eq_false_iff, Bool.and_eq_false_iff, decide_eq_false_iff_not,
    beq_eq_false_iff_ne]
  omega

theorem solid_toString_nat (n : Nat) : Solid (toString n) := by
  intro c hc
  rw [toList_toString_nat] at hc
  exact not_blank_of_isDigit (isDigit_of_mem_toDigits hc)

theorem solid_toString_int (n : Int) : Solid (toString n) := by
  intro c hc
  rw [toList_toString_int] at hc
  split at hc
  · exact not_blank_of_isDigit (isDigit_of_mem_toDigits hc)
  · rcases List.mem_cons.1 hc with rfl | hc
    · decide
    · exact not_blank_of_isDigit (isDigit_of_mem_toDigits hc)

/-- Trimming leaves a text without blanks as it is. -/
theorem trimChars_of_not_blank {cs : List Char} (h : ∀ c ∈ cs, isBlank c = false) :
    trimChars cs = cs := by
  have hdrop : ∀ ds : List Char, (∀ d ∈ ds, isBlank d = false) → ds.dropWhile isBlank = ds := by
    intro ds hds
    cases ds with
    | nil => rfl
    | cons d ds => simp [hds d List.mem_cons_self]
  unfold trimChars
  rw [hdrop cs h, hdrop cs.reverse (fun c hc => h c (List.mem_reverse.1 hc)), List.reverse_reverse]

/-! ## Texts split at a character -/

/-- A text is split where a character stands for the first time. -/
theorem span_of_notMem {mark : Char} {cs : List Char} (h : mark ∉ cs) (rest : List Char) :
    (cs ++ mark :: rest).span (· != mark) = (cs, mark :: rest) := by
  have hall : ∀ c ∈ cs, (c != mark) = true := fun c hc => bne_iff_ne.2 fun heq => h (heq ▸ hc)
  rw [List.span_eq_takeWhile_dropWhile, List.takeWhile_append_of_pos hall,
    List.dropWhile_append_of_pos hall]
  simp

/-- A text in which the character does not stand is left whole. -/
theorem span_eq_self {mark : Char} {cs : List Char} (h : mark ∉ cs) :
    cs.span (· != mark) = (cs, []) := by
  have hall : ∀ c ∈ cs, (c != mark) = true := fun c hc => bne_iff_ne.2 fun heq => h (heq ▸ hc)
  rw [List.span_eq_takeWhile_dropWhile, List.takeWhile_eq_self_iff.2 hall,
    List.dropWhile_eq_nil_iff.2 hall]

end TextAdventure.Text

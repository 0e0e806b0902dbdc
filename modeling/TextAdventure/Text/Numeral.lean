/-!
# Decimal numerals

Integers written with ASCII digits, as they occur in adventure data, save files and command line
options.  A numeral may carry one sign and leading zeros; it holds no blanks and no separators, and
a number outside the wanted range is refused.

Main results:

- Definition `digits?`: the value of a non-empty run of ASCII digits.
- Definition `natural?`: a numeral without a minus sign, below a bound.
- Definition `integer?`: a numeral with either sign, between two bounds.
-/

namespace TextAdventure.Text

/-! ## Runs of digits -/

/-- The value of an ASCII digit. -/
def digit? (c : Char) : Option Nat :=
  if '0' ≤ c ∧ c ≤ '9' then some (c.toNat - '0'.toNat) else none

/-- Continue a decimal numeral whose digits so far have the value `value`. -/
def digitsFrom? (value : Nat) : List Char → Option Nat
  | [] => some value
  | c :: rest =>
    match digit? c with
    | some d => digitsFrom? (10 * value + d) rest
    | none => none

/-- The value of a non-empty run of ASCII digits. -/
def digits? (cs : List Char) : Option Nat :=
  if cs.isEmpty then none else digitsFrom? 0 cs

/-! ## Signed and unsigned numerals -/

/-- The value of a numeral with an optional sign. -/
def signed? : List Char → Option Int
  | '+' :: rest => (digits? rest).map Int.ofNat
  | '-' :: rest => (digits? rest).map fun n => -Int.ofNat n
  | cs => (digits? cs).map Int.ofNat

/-- The value of a numeral with an optional plus sign; a minus sign is refused even before zero. -/
def unsigned? : List Char → Option Nat
  | '+' :: rest => digits? rest
  | cs => digits? cs

/-- The number below `bound` that a text stands for. -/
def natural? (bound : Nat) (s : String) : Option Nat :=
  (unsigned? s.toList).filter (· < bound)

/-- The number from `low` up to, but without, `high` that a text stands for. -/
def integer? (low high : Int) (s : String) : Option Int :=
  (signed? s.toList).filter fun n => low ≤ n && n < high

/-- A number of at most 64 bits. -/
def natural64? : String → Option Nat := natural? 0x10000000000000000

/-- A signed number of at most 32 bits. -/
def integer32? : String → Option Int := integer? (-0x80000000) 0x80000000

/-- A signed number of at most 64 bits. -/
def integer64? : String → Option Int := integer? (-0x8000000000000000) 0x8000000000000000

/-- Every number that is read lies between the bounds. -/
theorem bounds_of_integer? {low high : Int} {s : String} {n : Int}
    (h : integer? low high s = some n) : low ≤ n ∧ n < high := by
  simpa using (Option.filter_eq_some_iff.1 h).2

end TextAdventure.Text

import TextAdventure.Text.Numeral
import TextAdventure.Toml.Quoted
import TextAdventure.Toml.Value

/-!
# Unquoted words in TOML

What a word without quotes stands for: a truth value, an integer, a float, or a date.

Main results:

- Definitions `integer?`, `isFloat` and `isDate`: the three kinds of words with digits.
- Definition `overflows`: a decimal number is too large for a float of 64 bits.
- Definition `splitWord`: the word at the front of a text.
- Definition `wordValue?`: the value of a word.
-/

namespace TextAdventure.Toml

open Text

/-! ## Digits with separators -/

/-- The digits of a number in which single underscores stand between digits. -/
def separated (isDigit : Char → Bool) : List Char → Option (List Char)
  | [] => none
  | [c] => if isDigit c then some [c] else none
  | c :: '_' :: rest => if isDigit c then (separated isDigit rest).map (c :: ·) else none
  | c :: rest => if isDigit c then (separated isDigit rest).map (c :: ·) else none

/-- A decimal digit. -/
def isDecimal (c : Char) : Bool :=
  '0' ≤ c && c ≤ '9'

/-- The number that digits stand for in a base up to sixteen. -/
def ofDigits (base : Nat) (digits : List Char) : Nat :=
  digits.foldl (fun n c => base * n + (hexDigit? c).getD 0) 0

/-- The value of a number in a base up to sixteen. -/
def based? (base : Nat) (cs : List Char) : Option Nat :=
  (separated (fun c => (hexDigit? c).any (· < base)) cs).map (ofDigits base)

/-- The value of a decimal number, which has no leading zeros. -/
def decimal? (cs : List Char) : Option Nat :=
  match cs with
  | ['0'] => some 0
  | '0' :: _ => none
  | _ => based? 10 cs

/-- A word without its sign. -/
def unsign : List Char → List Char
  | '+' :: rest => rest
  | '-' :: rest => rest
  | cs => cs

/-- The integer that a word stands for, of at most 64 bits.  Only decimal numbers have a sign. -/
def integer? (word : List Char) : Option Int :=
  let value? : Option Int := match word with
    | '0' :: 'x' :: digits => (based? 16 digits).map Int.ofNat
    | '0' :: 'o' :: digits => (based? 8 digits).map Int.ofNat
    | '0' :: 'b' :: digits => (based? 2 digits).map Int.ofNat
    | '-' :: digits => (decimal? digits).map fun n => -Int.ofNat n
    | _ => (decimal? (unsign word)).map Int.ofNat
  value?.filter fun n => -0x8000000000000000 ≤ n && n < 0x8000000000000000

/-! ## Floats -/

/-- A decimal number: its digits and the power of ten that they are multiplied by. -/
structure Scaled where
  digits : List Char
  power : Int
deriving Repr, DecidableEq

/-- The letter before an exponent. -/
def isExponentMark (c : Char) : Bool :=
  c == 'e' || c == 'E'

/-- The exponent of a float: digits with an optional sign. -/
def exponent? (cs : List Char) : Option Int := do
  let size := ofDigits 10 (← separated isDecimal (unsign cs))
  return if cs.head? = some '-' then -Int.ofNat size else Int.ofNat size

/-- What follows the digits before the point of a float. -/
def scaled? (whole : List Char) : List Char → Option Scaled
  | '.' :: cs => do
    let fraction ← separated isDecimal (cs.takeWhile fun c => !isExponentMark c)
    let power ← match cs.dropWhile fun c => !isExponentMark c with
      | [] => some 0
      | _ :: exponent => exponent? exponent
    return ⟨whole ++ fraction, power - fraction.length⟩
  | c :: exponent =>
    if isExponentMark c then (exponent? exponent).map fun power => ⟨whole, power⟩ else none
  | [] => none

/-- The number that a word with a fraction or an exponent stands for, without its sign. -/
def fractional? (unsigned : List Char) : Option Scaled := do
  let isInner (c : Char) := isDecimal c || c == '_'
  let whole := unsigned.takeWhile isInner
  let _ ← decimal? whole
  scaled? (whole.filter isDecimal) (unsigned.dropWhile isInner)

/-- The least number that is rounded to infinity: half a step above the largest float. -/
def overflowBound : Nat := Nat.pow 2 1024 - Nat.pow 2 970

/-- A number is too large for a float of 64 bits.  The bound has 309 digits, so that only numbers
of this size have to be compared with it. -/
def overflows (number : Scaled) : Bool :=
  let digits := number.digits.dropWhile (· == '0')
  let size := digits.length + number.power
  if digits.isEmpty then false
  else if size = 309 then
    overflowBound * Nat.pow 10 (-number.power).toNat ≤
      ofDigits 10 digits * Nat.pow 10 number.power.toNat
  else 309 < size

/-- A word stands for a float: it has a fraction or an exponent, or is infinite or not a number.  A
number without a minus sign must not be too large. -/
def isFloat (word : List Char) : Bool :=
  let unsigned := unsign word
  unsigned == "inf".toList || unsigned == "nan".toList ||
    match fractional? unsigned with
    | some number => word.head? == some '-' || !overflows number
    | none => false

/-! ## Dates -/

/-- The value of two decimal digits. -/
def two? (a b : Char) : Option Nat := do
  return 10 * (← digit? a) + (← digit? b)

/-- How many days a month has. -/
def daysIn (year month : Nat) : Nat :=
  if month = 2 then
    if year % 4 = 0 ∧ (year % 100 ≠ 0 ∨ year % 400 = 0) then 29 else 28
  else if month = 4 ∨ month = 6 ∨ month = 9 ∨ month = 11 then 30
  else 31

/-- The text after a calendar date. -/
def dateRest? : List Char → Option (List Char)
  | a :: b :: c :: d :: '-' :: e :: f :: '-' :: g :: h :: rest => do
    let year := 100 * (← two? a b) + (← two? c d)
    let month ← two? e f
    let day ← two? g h
    if 1 ≤ month ∧ month ≤ 12 ∧ 1 ≤ day ∧ day ≤ daysIn year month then some rest else none
  | _ => none

/-- The text after the fraction of a second, if there is one. -/
def fractionRest? : List Char → Option (List Char)
  | '.' :: c :: rest => if isDecimal c then some (rest.dropWhile isDecimal) else none
  | '.' :: [] => none
  | rest => some rest

/-- The text after a time of day. -/
def timeRest? : List Char → Option (List Char)
  | a :: b :: ':' :: c :: d :: ':' :: e :: f :: rest => do
    if (← two? a b) ≤ 23 ∧ (← two? c d) ≤ 59 ∧ (← two? e f) ≤ 60 then fractionRest? rest else none
  | _ => none

/-- An offset from universal time, or nothing. -/
def isOffset : List Char → Bool
  | [] => true
  | [c] => c == 'Z' || c == 'z'
  | [sign, a, b, ':', c, d] =>
    (sign == '+' || sign == '-') && (two? a b).any (· ≤ 23) && (two? c d).any (· ≤ 59)
  | _ => false

/-- A word stands for a date, a time of day, or both. -/
def isDate (word : List Char) : Bool :=
  match dateRest? word with
  | some [] => true
  | some (mark :: rest) =>
    (mark == 'T' || mark == 't' || mark == ' ') && (timeRest? rest).any isOffset
  | none => timeRest? word == some []

/-! ## Words -/

/-- A character of an unquoted value. -/
def isWordChar (c : Char) : Bool :=
  c.isAlphanum || c == '+' || c == '-' || c == '_' || c == '.' || c == ':'

/-- The unquoted value at the front of a text; a space may part a date from a time of day. -/
def splitWord (cs : Rest) : List Char × Rest :=
  let word := cs.takeWhile isWordChar
  let rest := cs.dropWhile isWordChar
  match dateRest? word, rest with
  | some [], ' ' :: c :: more =>
    if isDecimal c then
      (word ++ ' ' :: (c :: more).takeWhile isWordChar, (c :: more).dropWhile isWordChar)
    else (word, rest)
  | _, _ => (word, rest)

/-- What an unquoted word stands for. -/
def wordValue? (word : List Char) : Option Value :=
  if word = "true".toList then some (.boolean true)
  else if word = "false".toList then some (.boolean false)
  else
    match integer? word with
    | some n => some (.integer n)
    | none =>
      if isFloat word then some .float
      else if isDate word then some .date
      else none

end TextAdventure.Toml

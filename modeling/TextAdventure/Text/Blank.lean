/-!
# Blanks and words

A blank is a character with the Unicode property White_Space.  Lines typed by the player are split
into words at blanks, and lines of a save file are trimmed of them.

Main results:

- Definition `isBlank`: the property White_Space.
- Definitions `words` and `trim`: the two uses of it.
- Theorem `splitWords_append_blank`: a blank ends the word in front of it.
-/

namespace TextAdventure.Text

/-! ## The character class -/

/-- A character with the Unicode property White_Space. -/
def isBlank (c : Char) : Bool :=
  let code := c.toNat
  (0x9 ≤ code && code ≤ 0xD) || code == 0x20 || code == 0x85 || code == 0xA0 || code == 0x1680 ||
    (0x2000 ≤ code && code ≤ 0x200A) || code == 0x2028 || code == 0x2029 || code == 0x202F ||
    code == 0x205F || code == 0x3000

/-! ## Splitting into words -/

/-- The blank-free runs of a list of characters; `pending` is the run being read, last first. -/
def splitWords (pending : List Char) : List Char → List (List Char)
  | [] => if pending.isEmpty then [] else [pending.reverse]
  | c :: rest =>
    if isBlank c then
      if pending.isEmpty then splitWords [] rest
      else pending.reverse :: splitWords [] rest
    else splitWords (c :: pending) rest

/-- The words of a text: its longest runs without a blank, in order. -/
def words (s : String) : List String :=
  (splitWords [] s.toList).map String.ofList

/-- A blank ends the word in front of it. -/
theorem splitWords_append_blank {c : Char} (h : isBlank c = true) (pending cs rest : List Char) :
    splitWords pending (cs ++ c :: rest) = splitWords pending cs ++ splitWords [] rest := by
  induction cs generalizing pending with
  | nil =>
    simp only [List.nil_append, splitWords, if_pos h]
    split <;> rfl
  | cons d cs ih =>
    simp only [List.cons_append, splitWords, ih]
    split
    · split <;> rfl
    · rfl

/-- There are no words among blanks. -/
theorem splitWords_of_blank {cs : List Char} (h : ∀ c ∈ cs, isBlank c = true) :
    splitWords [] cs = [] := by
  induction cs with
  | nil => rfl
  | cons c cs ih =>
    have hrest := ih fun d hd => h d (List.mem_cons_of_mem c hd)
    simp [splitWords, h c List.mem_cons_self, hrest]

/-- Characters without a blank are one word. -/
theorem splitWords_of_not_blank {cs : List Char} (h : ∀ c ∈ cs, isBlank c = false)
    (pending : List Char) (hne : pending ++ cs ≠ []) :
    splitWords pending cs = [pending.reverse ++ cs] := by
  induction cs generalizing pending with
  | nil =>
    have hpending : pending ≠ [] := by simpa using hne
    simp [splitWords, hpending]
  | cons c cs ih =>
    have hrest := ih (fun d hd => h d (List.mem_cons_of_mem c hd)) (c :: pending) (by simp)
    simp [splitWords, h c List.mem_cons_self, hrest]

/-! ## Trimming -/

/-- A list of characters without its leading and trailing blanks. -/
def trimChars (cs : List Char) : List Char :=
  ((cs.dropWhile isBlank).reverse.dropWhile isBlank).reverse

/-- A text without its leading and trailing blanks. -/
def trim (s : String) : String :=
  String.ofList (trimChars s.toList)

end TextAdventure.Text

import TextAdventure.Text.CaseTable

/-!
# Uppercase text

Words are compared in uppercase.  The mapping is the full Unicode one, so that one letter may
become several: `ß` becomes `SS` and the ligature `ﬁ` becomes `FI`.

Main results:

- Definitions `upperChar` and `upper`: the mapping of a character and of a text.
- Theorem `toList_upper`: a text is mapped character by character.
-/

namespace TextAdventure.Text

/-- The uppercase form of a character outside ASCII, read from the tables. -/
def upperFromTable (c : Char) : List Char :=
  match upperRuns.find? fun run => run.contains c.toNat with
  | some run => [Char.ofNat (c.toNat + run.shift).toNat]
  | none =>
    match upperExpansions.lookup c.toNat with
    | some codes => codes.map Char.ofNat
    | none => [c]

/-- The uppercase form of a character; the ASCII ones are decided without the tables. -/
def upperChar (c : Char) : List Char :=
  if c.toNat < 0x80 then [c.toUpper] else upperFromTable c

/-- A text in uppercase. -/
def upper (s : String) : String :=
  String.ofList (s.toList.flatMap upperChar)

/-- The characters of a text in uppercase. -/
@[simp]
theorem toList_upper (s : String) : (upper s).toList = s.toList.flatMap upperChar := by
  simp [upper]

end TextAdventure.Text

import TextAdventure.Console.Input

/-!
# Texts as bytes

A file and the input of the player come as bytes.  Bytes that encode a text are read as this text,
and the lines of the bytes are the lines of the text: the byte of a line feed stands in the encoding
of no other character.

Main results:

- Theorem `fromUTF8?_toUTF8`: what is read from the bytes of a text.
- Theorem `typedLines_toUTF8`: the lines of input that is text.
-/

namespace TextAdventure

/-! ## Characters -/

/-- The bytes of a text are read as the text. -/
theorem fromUTF8?_toUTF8 (text : String) : String.fromUTF8? text.toUTF8 = some text := by
  unfold String.fromUTF8?
  rw [String.toUTF8_eq_toByteArray, dif_pos text.isValidUTF8]
  rfl

/-- A text is encoded character by character. -/
theorem toList_toUTF8_ofList (cs : List Char) :
    (String.ofList cs).toUTF8.data.toList = cs.flatMap String.utf8EncodeChar := by
  rw [String.toUTF8_eq_toByteArray]
  exact List.toList_data_toByteArray

/-! ## Lines -/

namespace Text

/-- The byte of a line feed is no byte of another character. -/
theorem feed_notMem_utf8EncodeChar {c : Char} (h : c ≠ '\n') :
    (0xA : UInt8) ∉ String.utf8EncodeChar c := by
  have hcode : c.val.toNat ≠ 10 := fun hten => h (Char.ext (UInt32.toNat.inj hten))
  intro hmem
  simp only [String.utf8EncodeChar] at hmem
  -- One case for each number of bytes.  A character of several bytes has none below 128.
  repeat' split at hmem
  all_goals
    simp only [List.mem_cons, List.not_mem_nil, or_false, ← UInt8.toNat_inj, UInt8.toNat_ofNat',
      UInt8.reduceToNat] at hmem
    omega

/-- The bytes are split where the text is, and each line is encoded by itself. -/
theorem splitLines_flatMap_utf8EncodeChar (pending cs : List Char) :
    splitLines 0xA (pending.reverse.flatMap String.utf8EncodeChar).reverse
        (cs.flatMap String.utf8EncodeChar) =
      (splitLines '\n' pending cs).map (List.flatMap String.utf8EncodeChar) := by
  -- The pending bytes are those of the pending characters, also in reverse.
  induction cs generalizing pending with
  | nil =>
    cases pending with
    | nil => rfl
    | cons p ps => simp [splitLines, String.utf8EncodeChar_ne_nil]
  | cons c cs ih =>
    by_cases hfeed : c = '\n'
    · subst hfeed
      have hencoded : String.utf8EncodeChar '\n' = [0xA] := rfl
      rw [List.flatMap_cons, hencoded, List.singleton_append, splitLines, if_pos rfl, splitLines,
        if_pos rfl, List.map_cons, List.reverse_reverse]
      exact congrArg _ (ih [])
    · have hpending : (String.utf8EncodeChar c).reverse ++
          (pending.reverse.flatMap String.utf8EncodeChar).reverse =
            ((c :: pending).reverse.flatMap String.utf8EncodeChar).reverse := by
        simp
      rw [List.flatMap_cons, splitLines_append (feed_notMem_utf8EncodeChar hfeed), hpending, ih,
        splitLines, if_neg hfeed]

end Text

/-- The lines of input that is text are the lines of this text, and all of them can be read. -/
theorem Console.typedLines_toUTF8 (input : String) :
    typedLines input.toUTF8 = (Text.lines input).map some := by
  have hbytes : input.toUTF8.data.toList = input.toList.flatMap String.utf8EncodeChar := by
    rw [← toList_toUTF8_ofList, String.ofList_toList]
  have hline (line : List Char) :
      String.fromUTF8? ⟨(line.flatMap String.utf8EncodeChar).toArray⟩ =
        some (String.ofList line) := by
    rw [← toList_toUTF8_ofList, Array.toArray_toList, fromUTF8?_toUTF8]
  rw [typedLines, hbytes, Text.lines, List.map_map]
  have hsplit := Text.splitLines_flatMap_utf8EncodeChar [] input.toList
  simp only [List.reverse_nil, List.flatMap_nil] at hsplit
  rw [hsplit, List.map_map]
  exact List.map_congr_left fun line _ => hline line

end TextAdventure

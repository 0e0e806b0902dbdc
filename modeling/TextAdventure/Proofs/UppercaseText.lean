import Mathlib.Data.List.Basic
import Mathlib.Tactic.SplitIfs
import TextAdventure.Vocabulary.Dictionary

/-!
# Text that is in uppercase

A text that has been mapped to uppercase is in uppercase: mapping it once more changes nothing.  No
letter that a run of small letters is mapped to, and no letter that a small letter is spelled out
with, is a small letter itself.  This is read off the tables run by run, by comparing the interval
that a run is mapped to with every run of small letters.

Main results:

- Definition `IsSmall`: the code points that the tables map.
- Theorem `not_isSmall_of_mem_upperChar`: no small letters remain.
- Theorem `upper_upper`: a text in uppercase is mapped to itself.
- Theorem `Dictionary.lookup_upper`: a word can be looked up in uppercase.
-/

namespace TextAdventure

namespace Text

/-! ## Small letters -/

/-- The run of a single letter. -/
def CaseRun.single (code : Nat) : CaseRun :=
  ⟨code, code, 1, 0⟩

/-- The runs of small letters, with each letter that is spelled out as a run of its own. -/
def smallRuns : List CaseRun :=
  upperRuns ++ upperExpansions.map fun entry => .single entry.1

/-- The code point of a small letter. -/
def IsSmall (code : Nat) : Prop :=
  ∃ run ∈ smallRuns, run.contains code = true

/-- The bounds and the stride of a run. -/
theorem CaseRun.contains_iff {run : CaseRun} {code : Nat} :
    run.contains code = true ↔
      run.first ≤ code ∧ code ≤ run.last ∧ (code - run.first) % run.stride = 0 := by
  simp [contains, and_assoc]

theorem CaseRun.contains_single (code : Nat) : (single code).contains code = true :=
  contains_iff.2 ⟨Nat.le_refl _, Nat.le_refl _, Nat.mod_one _⟩

theorem isSmall_of_mem_upperRuns {run : CaseRun} (hrun : run ∈ upperRuns) {code : Nat}
    (h : run.contains code = true) : IsSmall code :=
  ⟨run, List.mem_append_left _ hrun, h⟩

theorem isSmall_of_mem_upperExpansions {entry : Nat × List Nat} (h : entry ∈ upperExpansions) :
    IsSmall entry.1 :=
  ⟨.single entry.1, List.mem_append_right _ (List.mem_map_of_mem h), CaseRun.contains_single _⟩

/-- The first run of the table is that of the letters of ASCII, and no other run begins there. -/
theorem isSmall_ascii_iff {code : Nat} (h : code < 0x80) :
    IsSmall code ↔ 0x61 ≤ code ∧ code ≤ 0x7A := by
  have hothers : ∀ run ∈ smallRuns.tail, 0x80 ≤ run.first := by decide +kernel
  constructor
  · rintro ⟨run, hrun, hcode⟩
    rw [CaseRun.contains_iff] at hcode
    rcases List.mem_cons.1 (show run ∈ ⟨0x61, 0x7A, 1, -32⟩ :: smallRuns.tail from hrun) with
      rfl | hother
    · exact ⟨hcode.1, hcode.2.1⟩
    · have := hothers run hother
      omega
  · rintro ⟨hfirst, hlast⟩
    refine ⟨⟨0x61, 0x7A, 1, -32⟩, List.mem_cons_self, ?_⟩
    rw [CaseRun.contains_iff]
    exact ⟨hfirst, hlast, Nat.mod_one _⟩

/-- The letters of ASCII lose their small forms, and the other characters of ASCII stay. -/
theorem toUpper_ascii {c : Char} (h : c.toNat < 0x80) :
    ¬IsSmall c.toUpper.toNat ∧ (¬IsSmall c.toNat → c.toUpper = c) := by
  have hall : ∀ n < 0x80, (Char.ofNat n).toUpper.toNat < 0x80 ∧
      ¬(0x61 ≤ (Char.ofNat n).toUpper.toNat ∧ (Char.ofNat n).toUpper.toNat ≤ 0x7A) ∧
      (¬(0x61 ≤ n ∧ n ≤ 0x7A) → (Char.ofNat n).toUpper = Char.ofNat n) := by
    decide
  obtain ⟨hbelow, hlarge, hstays⟩ := hall c.toNat h
  rw [Char.ofNat_toNat] at hbelow hlarge hstays
  rw [isSmall_ascii_iff hbelow, isSmall_ascii_iff h]
  exact ⟨hlarge, hstays⟩

/-- What is not a small letter is mapped to itself. -/
theorem upperChar_of_not_isSmall {c : Char} (h : ¬IsSmall c.toNat) : upperChar c = [c] := by
  have hruns : upperRuns.find? (fun run => run.contains c.toNat) = none :=
    List.find?_eq_none.2 fun run hrun hcontains => h (isSmall_of_mem_upperRuns hrun hcontains)
  have hexpansions : upperExpansions.lookup c.toNat = none := by
    refine List.lookup_eq_none_iff.2 fun entry hentry => ?_
    simp only [bne_iff_ne, ne_eq]
    intro heq
    exact h (heq ▸ isSmall_of_mem_upperExpansions hentry)
  unfold upperChar
  split_ifs with hascii
  · rw [(toUpper_ascii hascii).2 h]
  · rw [upperFromTable, hruns, hexpansions]

/-! ## Images -/

/-- The run of the letters that the letters of a run are mapped to. -/
def CaseRun.image (run : CaseRun) : CaseRun :=
  ⟨(run.first + run.shift).toNat, (run.last + run.shift).toNat, run.stride, 0⟩

/-- Two runs have no letter in common, since one ends before the other begins, or since they go
through different letters at the same stride. -/
def CaseRun.disjoint (run other : CaseRun) : Bool :=
  Nat.blt run.last other.first || (Nat.blt other.last run.first ||
    ((run.first == run.last || run.stride % other.stride == 0) &&
      run.first % other.stride != other.first % other.stride))

/-- The letter of a run that is so many strides behind the first. -/
theorem CaseRun.exists_eq_add_of_contains {run : CaseRun} {code : Nat}
    (h : run.contains code = true) : ∃ n, code = run.first + n * run.stride := by
  obtain ⟨hfirst, -, hstride⟩ := contains_iff.1 h
  obtain ⟨n, hn⟩ := Nat.dvd_of_mod_eq_zero hstride
  exact ⟨n, by rw [Nat.mul_comm n, ← hn]; omega⟩

/-- Runs that are disjoint have no letter in common. -/
theorem CaseRun.not_contains_of_disjoint {run other : CaseRun} (h : run.disjoint other = true)
    {code : Nat} (hrun : run.contains code = true) : other.contains code = false := by
  rw [Bool.eq_false_iff]
  intro hother
  obtain ⟨n, hn⟩ := exists_eq_add_of_contains hrun
  obtain ⟨m, hm⟩ := exists_eq_add_of_contains hother
  obtain ⟨hfirst, hlast, -⟩ := contains_iff.1 hrun
  obtain ⟨hfirst', hlast', -⟩ := contains_iff.1 hother
  simp only [disjoint, Bool.or_eq_true, Bool.and_eq_true, beq_iff_eq, bne_iff_ne, ne_eq,
    Nat.blt_eq] at h
  rcases h with hbefore | hbehind | ⟨hstride, hclass⟩
  · omega
  · omega
  · -- Both runs reach the letter, so that their first letters belong to one class.
    have hclass' : code % other.stride = other.first % other.stride := by
      rw [hm, Nat.add_mul_mod_self_right]
    apply hclass
    rw [← hclass']
    rcases hstride with hsingle | hdivides
    · rw [show code = run.first by omega]
    · obtain ⟨k, hk⟩ := Nat.dvd_of_mod_eq_zero hdivides
      rw [hn, hk, Nat.mul_left_comm, Nat.add_mul_mod_self_left]

/-- No run of small letters has a letter in common with the run. -/
def CaseRun.isLarge (run : CaseRun) : Bool :=
  smallRuns.all run.disjoint

/-- The runs map no letter to a small one. -/
theorem isLarge_image : (upperRuns.map CaseRun.image).all CaseRun.isLarge = true := by
  decide +kernel

/-- The letters that small letters are spelled out with are not small. -/
theorem isLarge_expansions :
    (upperExpansions.flatMap Prod.snd).all (fun code => (CaseRun.single code).isLarge) = true := by
  decide +kernel

/-- No letter is mapped below zero. -/
theorem first_image_nonneg : ∀ run ∈ upperRuns, 0 ≤ run.first + run.shift := by
  decide +kernel

/-- The letters of a run without small letters are not small. -/
theorem CaseRun.not_isSmall_of_isLarge {run : CaseRun} (h : run.isLarge = true) {code : Nat}
    (hcode : run.contains code = true) : ¬IsSmall code := by
  rintro ⟨other, hother, hsmall⟩
  rw [not_contains_of_disjoint (List.all_eq_true.1 h other hother) hcode] at hsmall
  cases hsmall

/-- A letter of a run is mapped to a letter of its image. -/
theorem CaseRun.contains_image {run : CaseRun} {code : Nat} (hfloor : 0 ≤ run.first + run.shift)
    (h : run.contains code = true) : run.image.contains (code + run.shift).toNat = true := by
  obtain ⟨hfirst, hlast, hstride⟩ := contains_iff.1 h
  have hplace : (code + run.shift).toNat - run.image.first = code - run.first := by
    simp only [image]
    omega
  rw [contains_iff, hplace]
  refine ⟨?_, ?_, hstride⟩
  · simp only [image]
    omega
  · simp only [image]
    omega

/-- A letter of a run is not mapped to a small letter. -/
theorem not_isSmall_shift {run : CaseRun} (hrun : run ∈ upperRuns) {code : Nat}
    (hcode : run.contains code = true) : ¬IsSmall (code + run.shift).toNat :=
  CaseRun.not_isSmall_of_isLarge
    (List.all_eq_true.1 isLarge_image run.image (List.mem_map_of_mem hrun))
    (CaseRun.contains_image (first_image_nonneg run hrun) hcode)

/-- A letter is not spelled out with small letters. -/
theorem not_isSmall_of_mem_expansion {letter code : Nat} {codes : List Nat}
    (hletter : upperExpansions.lookup letter = some codes) (hcode : code ∈ codes) :
    ¬IsSmall code := by
  obtain ⟨before, behind, hsplit, -⟩ := List.lookup_eq_some_iff.1 hletter
  have hentry : (letter, codes) ∈ upperExpansions := by
    rw [hsplit]
    exact List.mem_append_right _ List.mem_cons_self
  have hlarge := List.all_eq_true.1 isLarge_expansions code
    (List.mem_flatMap.2 ⟨(letter, codes), hentry, hcode⟩)
  exact CaseRun.not_isSmall_of_isLarge hlarge (CaseRun.contains_single code)

/-- What neither table lists is not a small letter. -/
theorem not_isSmall_of_tables {code : Nat}
    (hruns : upperRuns.find? (fun run => run.contains code) = none)
    (hexpansions : upperExpansions.lookup code = none) : ¬IsSmall code := by
  rintro ⟨run, hrun, hcontains⟩
  rcases List.mem_append.1 hrun with hrun | hrun
  · exact List.find?_eq_none.1 hruns run hrun hcontains
  · obtain ⟨entry, hentry, rfl⟩ := List.mem_map.1 hrun
    obtain ⟨hfirst, hlast, -⟩ := CaseRun.contains_iff.1 hcontains
    have hne := List.lookup_eq_none_iff.1 hexpansions entry hentry
    simp only [bne_iff_ne, ne_eq] at hne
    exact hne (Nat.le_antisymm hlast hfirst)

/-- A code point that is not that of a character stands for the null character. -/
theorem not_isSmall_ofNat {code : Nat} (h : ¬IsSmall code) : ¬IsSmall (Char.ofNat code).toNat := by
  unfold Char.ofNat
  by_cases hvalid : code.isValidChar
  · rw [dif_pos hvalid]
    exact h
  · rw [dif_neg hvalid]
    exact (isSmall_ascii_iff (by decide)).not.2 (by decide)

/-- No small letters remain. -/
theorem not_isSmall_of_mem_upperChar {c d : Char} (h : d ∈ upperChar c) : ¬IsSmall d.toNat := by
  unfold upperChar at h
  split_ifs at h with hascii
  · rw [List.mem_singleton.1 h]
    exact (toUpper_ascii hascii).1
  · unfold upperFromTable at h
    split at h
    · rename_i run hfound
      have hcontains : run.contains c.toNat = true := by simpa using List.find?_some hfound
      rw [List.mem_singleton.1 h]
      exact not_isSmall_ofNat (not_isSmall_shift (List.mem_of_find?_eq_some hfound) hcontains)
    · rename_i hruns
      split at h
      · rename_i codes hcodes
        obtain ⟨code, hcode, rfl⟩ := List.mem_map.1 h
        exact not_isSmall_ofNat (not_isSmall_of_mem_expansion hcodes hcode)
      · rename_i hexpansions
        rw [List.mem_singleton.1 h]
        exact not_isSmall_of_tables hruns hexpansions

/-! ## Texts -/

/-- A text in uppercase is mapped to itself. -/
@[simp]
theorem upper_upper (s : String) : upper (upper s) = upper s := by
  have hlarge : ∀ c ∈ (upper s).toList, upperChar c = [c] := by
    intro c hc
    rw [toList_upper] at hc
    obtain ⟨d, -, hd⟩ := List.mem_flatMap.1 hc
    exact upperChar_of_not_isSmall (not_isSmall_of_mem_upperChar hd)
  have hstays : (upper s).toList.flatMap upperChar = (upper s).toList := by
    rw [List.flatMap_congr hlarge, List.flatMap_singleton']
  rw [upper, hstays, String.ofList_toList]

/-- No letter is lost. -/
theorem upperChar_ne_nil (c : Char) : upperChar c ≠ [] := by
  have hspelled : ∀ entry ∈ upperExpansions, entry.2 ≠ [] := by decide +kernel
  unfold upperChar upperFromTable
  split_ifs
  · exact List.cons_ne_nil _ _
  · split
    · exact List.cons_ne_nil _ _
    · split
      · rename_i codes hcodes
        obtain ⟨before, behind, hsplit, -⟩ := List.lookup_eq_some_iff.1 hcodes
        have hentry : (c.toNat, codes) ∈ upperExpansions := by
          rw [hsplit]
          exact List.mem_append_right _ List.mem_cons_self
        simpa using hspelled _ hentry
      · exact List.cons_ne_nil _ _

/-- Only the empty text is empty in uppercase. -/
theorem upper_eq_empty_iff {s : String} : upper s = "" ↔ s = "" := by
  rw [← String.toList_eq_nil_iff, toList_upper, List.flatMap_eq_nil_iff,
    ← String.toList_eq_nil_iff (b := s), List.eq_nil_iff_forall_not_mem]
  exact forall₂_congr fun c _ => iff_false_intro (upperChar_ne_nil c)

end Text

/-- A word in uppercase is resolved like the word itself. -/
@[simp]
theorem Dictionary.lookup_upper (d : Dictionary) (kind : WordKind) (word : String) :
    d.lookup kind (Text.upper word) = d.lookup kind word := by
  unfold lookup
  rw [Text.upper_upper]

end TextAdventure

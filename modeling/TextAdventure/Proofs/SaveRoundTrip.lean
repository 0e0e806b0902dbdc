import TextAdventure.Proofs.DecimalText
import TextAdventure.Proofs.SavedFields

/-!
# Save files written and read back

The text of a saved game reads back as the state that was saved, once that is settled.  The lines
of the text give back the fields, since neither keys nor values hold blanks and no key holds a
colon.  Each field is then found under its key, since all keys differ, and its value reads as the
number that was written.

Main results:

- Theorem `parse_render`: the lines of a saved game give its fields.
- Theorems `value?_numbered` and `value?_numbered_of_ne`: numbered fields are told apart.
- Structure `State.Encodable` and theorem `holds_fields`: the fields hold the numbers of the state.
- Theorems `read_render` and `saved_lossless`: a saved game reads back.
-/

namespace TextAdventure

open Text

/-- The numbers of the state are those that a saved game can hold: the counter is not below its
floor, the counters have at most 32 bits, and the rooms and locations at most 64. -/
structure State.Encodable (s : State) : Prop where
  counter : -1 ≤ s.counter ∧ s.counter < 0x80000000
  altCounter : ∀ n ∈ s.altCounters, -0x80000000 ≤ n ∧ n < 0x80000000
  room : s.room < 0x10000000000000000
  altRoom : ∀ room ∈ s.altRooms, room < 0x10000000000000000
  location : ∀ location ∈ s.locations, location < 0x10000000000000000

namespace SaveFile

/-! ## Lines -/

/-- A field whose line can be split again. -/
structure Splittable (field : String × String) : Prop where
  solid_key : Solid field.1
  colon_notMem_key : ':' ∉ field.1.toList
  solid_value : Solid field.2

/-- The characters of a line, without the line feed. -/
def lineChars (field : String × String) : List Char :=
  field.1.toList ++ ':' :: field.2.toList

/-- A line feed is a blank. -/
theorem newline_notMem_of_not_blank {cs : List Char} (h : ∀ c ∈ cs, isBlank c = false) :
    '\n' ∉ cs := by
  intro hmem
  have hblank := h '\n' hmem
  contradiction

namespace Splittable

variable {field : String × String}

theorem of_pair {key value : String} (hkey : Solid key ∧ ':' ∉ key.toList) (hvalue : Solid value) :
    Splittable (key, value) :=
  ⟨hkey.1, hkey.2, hvalue⟩

theorem not_blank_of_mem_lineChars (h : Splittable field) :
    ∀ c ∈ lineChars field, isBlank c = false := by
  intro c hc
  rcases List.mem_append.1 hc with hkey | hrest
  · exact h.solid_key c hkey
  · rcases List.mem_cons.1 hrest with rfl | hvalue
    · decide
    · exact h.solid_value c hvalue

/-- A line is split into its key and its value. -/
theorem fieldOfLine_lineChars (h : Splittable field) :
    fieldOfLine (String.ofList (lineChars field)) = .ok field := by
  have hspan : (lineChars field).span (· != ':') = (field.1.toList, ':' :: field.2.toList) :=
    span_of_notMem h.colon_notMem_key _
  unfold fieldOfLine
  rw [String.toList_ofList, hspan]
  simp only [trimChars_of_not_blank h.solid_key, trimChars_of_not_blank h.solid_value,
    String.ofList_toList]

end Splittable

/-- The lines of a text are split off one after the other. -/
theorem splitLines_flatMap {fs : Fields} (h : ∀ field ∈ fs, Splittable field) :
    splitLines '\n' [] (fs.flatMap fun field => lineChars field ++ ['\n']) = fs.map lineChars := by
  induction fs with
  | nil => rfl
  | cons field fs ih =>
    have hfirst := (h field List.mem_cons_self).not_blank_of_mem_lineChars
    have hrest := ih fun f hf => h f (List.mem_cons_of_mem field hf)
    rw [List.flatMap_cons, List.append_assoc, List.singleton_append,
      splitLines_append_feed (newline_notMem_of_not_blank hfirst), hrest]
    simp

/-- The characters of fields that are written line by line. -/
theorem toList_join_lines (fs : Fields) :
    (String.join (fs.map fun (key, value) => s!"{key}:{value}\n")).toList =
      fs.flatMap fun field => lineChars field ++ ['\n'] := by
  induction fs with
  | nil => rfl
  | cons field fs ih =>
    rw [List.map_cons, String.join_cons, String.toList_append, ih, List.flatMap_cons]
    simp [lineChars, toString]

/-- Fields that are written line by line are read back. -/
theorem parse_join_lines {fs : Fields} (h : ∀ field ∈ fs, Splittable field) :
    parse (String.join (fs.map fun (key, value) => s!"{key}:{value}\n")) = .ok fs := by
  have hlines : lines (String.join (fs.map fun (key, value) => s!"{key}:{value}\n")) =
      fs.map fun field => String.ofList (lineChars field) := by
    rw [lines, toList_join_lines, splitLines_flatMap h, List.map_map]
    rfl
  have hfields : ((fs.map fun field => String.ofList (lineChars field)).map trim).filter (· ≠ "") =
      fs.map fun field => String.ofList (lineChars field) := by
    rw [List.map_map, List.filter_eq_self.2]
    · refine List.map_congr_left fun field hfield => ?_
      have hsolid := (h field hfield).not_blank_of_mem_lineChars
      simp only [Function.comp_apply, trim, String.toList_ofList, trimChars_of_not_blank hsolid]
    · intro line hline
      obtain ⟨field, hfield, rfl⟩ := List.mem_map.1 hline
      have hsolid := (h field hfield).not_blank_of_mem_lineChars
      simp only [Function.comp_apply, trim, String.toList_ofList, trimChars_of_not_blank hsolid]
      simp [lineChars]
  unfold parse
  rw [hlines, hfields]
  clear hlines hfields
  induction fs with
  | nil => rfl
  | cons field fs ih =>
    have hfirst := (h field List.mem_cons_self).fieldOfLine_lineChars
    have hrest := ih fun f hf => h f (List.mem_cons_of_mem field hf)
    rw [List.map_cons, List.mapM_cons, hfirst]
    simp only [hrest]
    rfl

/-! ## Values -/

namespace Fields

/-- Numbered fields that start at any number. -/
theorem value?_numberedFrom (name : String) (values : List String) (start number : Nat) :
    Fields.value? ((values.zipIdx start).map fun (value, n) => (key name n, value))
        (key name number) =
      if start ≤ number then values[number - start]? else none := by
  induction values generalizing start with
  | nil => simp [value?_nil]
  | cons value values ih =>
    rw [List.zipIdx_cons, List.map_cons, value?_cons, ih]
    rcases Nat.lt_trichotomy number start with hlt | rfl | hgt
    · have hne : key name number ≠ key name start := fun h => by
        have := key_injective h
        omega
      rw [if_neg (by omega), if_neg hne, if_neg (by omega)]
      rfl
    · rw [if_neg (by omega), if_pos rfl, if_pos (Nat.le_refl _)]
      simp
    · have hne : key name number ≠ key name start := fun h => by
        have := key_injective h
        omega
      rw [if_pos (by omega), if_neg hne, if_pos (by omega), Option.or_none,
        List.getElem?_cons, if_neg (by omega)]
      rfl

/-- A numbered field is found under its number. -/
@[simp]
theorem value?_numbered (name : String) (values : List String) (number : Nat) :
    Fields.value? (numbered name values) (key name number) = values[number]? := by
  have hvalue := value?_numberedFrom name values 0 number
  rw [if_pos (Nat.zero_le _), Nat.sub_zero] at hvalue
  exact hvalue

/-- Nothing else is found among numbered fields. -/
theorem value?_numbered_of_ne {k name : String} (h : ∀ number, k ≠ key name number)
    (values : List String) : Fields.value? (numbered name values) k = none := by
  unfold value? numbered
  rw [List.lookup_eq_none_iff]
  intro field hfield
  obtain ⟨⟨value, number⟩, -, rfl⟩ := List.mem_map.1 (List.mem_reverse.1 hfield)
  simpa using h number

/-- A field without a number is not among numbered fields. -/
theorem value?_numbered_of_notMem {k : String} (h : '.' ∉ k.toList) (name : String)
    (values : List String) : Fields.value? (numbered name values) k = none :=
  value?_numbered_of_ne (fun _ => ne_key h name _) values

/-- A numbered field is not among those of another name. -/
theorem value?_numbered_of_name_ne {name other : String} (hne : name ≠ other)
    (hname : '.' ∉ name.toList) (hother : '.' ∉ other.toList) (values : List String)
    (number : Nat) : Fields.value? (numbered other values) (key name number) = none :=
  value?_numbered_of_ne (fun _ => key_ne_key hne hname hother number _) values

end Fields

/-! ## The fields of a state -/

/-- The fields of a state name the adventure that it was saved for. -/
theorem reads_adventure_fields (s : State) {adventure : Nat}
    (h : adventure < 0x10000000000000000) :
    Reads (fields s adventure).Gives natural64? "adventure" adventure := by
  refine ⟨toString adventure, ?_, natural?_toString h⟩
  simp (disch := decide) [Fields.Gives, fields, Fields.value?_numbered_of_notMem]

/-- The fields of a state hold its numbers. -/
theorem holds_fields {s : State} (hs : s.Encodable) (adventure : Nat) :
    Holds (fields s adventure).Gives s where
  counter := by
    have hlow : -0x80000000 ≤ s.counter := by
      have := hs.counter.1
      omega
    refine ⟨toString s.counter, ?_, integer?_toString hlow hs.counter.2⟩
    simp (disch := decide) [Fields.Gives, fields, Fields.value?_numbered_of_notMem]
  altCounter := by
    intro slot
    have hbounds := hs.altCounter s.altCounters[slot.castSucc] (Vector.getElem_mem _)
    refine ⟨_, ?_, integer?_toString hbounds.1 hbounds.2⟩
    have hslot : s.altCounters[slot.val]? = some s.altCounters[slot.castSucc] :=
      Vector.getElem?_eq_getElem (by omega)
    simp (disch := decide) [Fields.Gives, fields, Fields.value?_numbered_of_name_ne,
      (ne_key _ _ _).symm, List.getElem?_take, hslot]
  light := by
    have hbounds := hs.altCounter s.light (Vector.getElem_mem _)
    refine ⟨_, ?_, integer?_toString hbounds.1 hbounds.2⟩
    simp (disch := decide) [Fields.Gives, fields, Fields.value?_numbered_of_notMem]
  room := by
    refine ⟨_, ?_, natural?_toString hs.room⟩
    simp (disch := decide) [Fields.Gives, fields, Fields.value?_numbered_of_notMem]
  altRoom := by
    intro slot
    refine ⟨_, ?_, natural?_toString (hs.altRoom s.altRooms[slot] (Vector.getElem_mem _))⟩
    have hslot : s.altRooms[slot.val]? = some s.altRooms[slot] :=
      Vector.getElem?_eq_getElem slot.isLt
    simp (disch := decide) [Fields.Gives, fields, Fields.value?_numbered_of_name_ne,
      (ne_key _ _ _).symm, hslot]
  flag := by
    intro n hn
    have hread :
        natural? 256 (if s.flags.get n then "1" else "0") = some (s.flags.get n).toNat := by
      cases s.flags.get n <;> decide
    refine ⟨_, ?_, hread⟩
    have hslot : (List.range 32)[n]? = some n := List.getElem?_range hn
    simp (disch := decide) [Fields.Gives, fields, Fields.value?_numbered_of_name_ne,
      (ne_key _ _ _).symm, hslot]
  item := by
    intro n location hitem
    have hbound := hs.location location (List.mem_of_getElem? hitem)
    refine ⟨_, ?_, natural?_toString hbound⟩
    simp (disch := decide) [Fields.Gives, fields, Fields.value?_numbered_of_name_ne,
      (ne_key _ _ _).symm, hitem]
  item_end := by
    have hend : s.locations[s.locations.length]? = none := List.getElem?_eq_none (Nat.le_refl _)
    simp (disch := decide) [Fields.Gives, fields, Fields.value?_numbered_of_name_ne,
      (ne_key _ _ _).symm, hend]

/-- Numbered fields have lines that can be split again. -/
theorem splittable_of_mem_numbered {name : String} (hsolid : Solid name)
    (hcolon : ':' ∉ name.toList) {values : List String} (hvalues : ∀ v ∈ values, Solid v) :
    ∀ field ∈ numbered name values, Splittable field := by
  intro field hfield
  obtain ⟨⟨value, number⟩, hmem, rfl⟩ := List.mem_map.1 hfield
  have hdigit : ∀ c ∈ Nat.toDigits 10 number, c.isDigit = true :=
    fun c hc => isDigit_of_mem_toDigits hc
  refine ⟨?_, ?_, hvalues value (List.mem_of_getElem? (List.mk_mem_zipIdx_iff_getElem?.1 hmem))⟩
  · intro c hc
    rw [toList_key, List.mem_append, List.mem_cons] at hc
    rcases hc with hname | rfl | hnumber
    · exact hsolid c hname
    · decide
    · exact not_blank_of_isDigit (hdigit c hnumber)
  · intro hc
    rw [toList_key, List.mem_append, List.mem_cons] at hc
    rcases hc with hname | hpoint | hnumber
    · exact hcolon hname
    · contradiction
    · have := hdigit ':' hnumber
      contradiction

/-- Every field of a state has a line that can be split again. -/
theorem splittable_of_mem_fields (s : State) (adventure : Nat) :
    ∀ field ∈ fields s adventure, Splittable field := by
  have hnat : ∀ numbers : List Nat, ∀ v ∈ numbers.map toString, Solid v := by
    intro numbers v hv
    obtain ⟨n, -, rfl⟩ := List.mem_map.1 hv
    exact solid_toString_nat n
  have hint : ∀ numbers : List Int, ∀ v ∈ numbers.map toString, Solid v := by
    intro numbers v hv
    obtain ⟨n, -, rfl⟩ := List.mem_map.1 hv
    exact solid_toString_int n
  have hbit : ∀ v ∈ (List.range 32).map fun flag => if s.flags.get flag then "1" else "0",
      Solid v := by
    intro v hv
    obtain ⟨flag, -, rfl⟩ := List.mem_map.1 hv
    split <;> decide
  intro field hfield
  simp only [fields, List.mem_append, List.mem_cons, List.not_mem_nil, or_false, or_assoc] at hfield
  rcases hfield with rfl | rfl | halt | rfl | hroom | hflag | rfl | hitem
  · exact .of_pair (by decide) (solid_toString_nat _)
  · exact .of_pair (by decide) (solid_toString_int _)
  · exact splittable_of_mem_numbered (by decide) (by decide) (hint _) field halt
  · exact .of_pair (by decide) (solid_toString_nat _)
  · exact splittable_of_mem_numbered (by decide) (by decide) (hnat _) field hroom
  · exact splittable_of_mem_numbered (by decide) (by decide) hbit field hflag
  · exact .of_pair (by decide) (solid_toString_int _)
  · exact splittable_of_mem_numbered (by decide) (by decide) (hnat _) field hitem

/-- The text of a saved game gives back its fields. -/
theorem parse_render (s : State) (adventure : Nat) :
    parse (render s adventure) = .ok (fields s adventure) :=
  parse_join_lines (splittable_of_mem_fields s adventure)

/-! ## States -/

/-- The fields of a state give that state for its adventure, once it is settled. -/
theorem stateOf_fields {s : State} (hs : s.Encodable) {adventure : Nat}
    (hadventure : adventure < 0x10000000000000000) :
    stateOf (fields s adventure) adventure = .ok s.settled := by
  have hholds := holds_fields hs adventure
  refine stateOf_eq_ok_iff.2 ⟨reads_adventure_fields s hadventure, ?_, hs.counter.1, rfl⟩
  exact ⟨hholds.counter, hholds.altCounter, hholds.light, hholds.room, hholds.altRoom,
    hholds.flag, hholds.item, hholds.item_end⟩

/-- A saved game reads back as the state that was saved, once that is settled. -/
theorem read_render {s : State} (hs : s.Encodable) {adventure : Nat}
    (hadventure : adventure < 0x10000000000000000) :
    read (render s adventure) adventure = .ok s.settled := by
  unfold read
  rw [parse_render]
  exact stateOf_fields hs hadventure

/-- A saved game loses nothing but a wish to be continued.  The text of any state whose numbers it
can hold is split into fields again; for the adventure that it was saved for they give the state,
and for every other adventure they are refused as belonging to that one. -/
theorem saved_lossless {s : State} (hs : s.Encodable) {adventure : Nat}
    (hadventure : adventure < 0x10000000000000000) :
    ∃ fs, parse (render s adventure) = .ok fs ∧
      stateOf fs adventure = .ok { s with chaining := false } ∧
      ∀ other, other ≠ adventure →
        stateOf fs other = .error (.wrongAdventure other adventure) := by
  refine ⟨fields s adventure, parse_render s adventure, stateOf_fields hs hadventure, ?_⟩
  intro other hother
  exact stateOf_of_ne (reads_adventure_fields s hadventure) hother.symm

/-- A state whose numbers are the smallest and the largest ones that a saved game can hold, and in
which a row has asked to be continued. -/
theorem saved_lossless_extremes :
    let largest := 0xFFFFFFFFFFFFFFFF
    let s : State := {
      room := largest
      locations := [largest, 0, 255]
      flags := Flags.ofNumbers [0, 16, 31]
      counter := -1
      altCounters := #v[-0x80000000, 0x7FFFFFFF, 0, -1, 1, 0, 0, 0, -0x80000000]
      altRooms := #v[0, largest, 1, 0, 0, largest]
      chaining := true }
    s.Encodable ∧ largest < 0x10000000000000000 ∧
      ∃ fs, parse (render s largest) = .ok fs ∧
        stateOf fs largest = .ok { s with chaining := false } ∧
        ∀ other, other ≠ largest → stateOf fs other = .error (.wrongAdventure other largest) := by
  intro largest s
  have hs : s.Encodable := by
    constructor
    · decide
    · decide
    · decide
    · decide
    · decide
  exact ⟨hs, by decide, saved_lossless hs (by decide)⟩

end SaveFile

end TextAdventure

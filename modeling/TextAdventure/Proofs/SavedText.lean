import Mathlib.Data.List.Induction
import Mathlib.Logic.Relation
import TextAdventure.Proofs.SavedSessions

/-!
# The texts of saved games

Which texts are accepted as saved games, and what is loaded from them.  A text is read as lines, and
a line gives a value to a key.  Of several lines that give the same key the last one counts, so that
the text as a whole gives at most one value to a key.  The text is accepted when every line that is
not blank has a key, and the values are in order: each number is one that the state can hold, and
each room and location is one of the world.  The values are then the numbers of the state.

Since nothing else is looked at, lines with different keys can be exchanged, and lines with other
keys, blank lines and carriage returns can be put in and left out.

Main results:

- Definitions `Gives` and `LastGives`: what a line and a text give to a key.
- Theorem `parse_eq_ok_iff`: the fields of a text are the values that it gives.
- Structure `Valid` and theorem `exists_state_iff_valid`: values from which a state can be made.
- Inductive `Edit` and theorem `agree_of_eqvGen`: changes of a text that do not matter.
- Theorem `load_valid`: a saved game is loaded exactly when it is valid.
-/

namespace TextAdventure

open Text

/-! ## Blanks at the end of a line -/

namespace Text

/-- A blank at the end is trimmed. -/
theorem trimChars_append_blank {c : Char} (h : isBlank c = true) (cs : List Char) :
    trimChars (cs ++ [c]) = trimChars cs := by
  unfold trimChars
  rw [List.dropWhile_append]
  split_ifs with hempty
  · rw [List.isEmpty_iff.1 hempty, List.dropWhile_cons_of_pos h]
    rfl
  · rw [List.reverse_append, List.reverse_singleton, List.singleton_append,
      List.dropWhile_cons_of_pos h]

/-- A carriage return at the end of a line is trimmed. -/
theorem trim_append_return (line : String) : trim (line ++ "\r") = trim line := by
  unfold trim
  rw [String.toList_append]
  exact congrArg String.ofList (trimChars_append_blank (by decide) _)

/-- A line feed behind a carriage return, and every other character as it is. -/
def returned (c : Char) : List Char :=
  if c = '\n' then ['\r', '\n'] else [c]

/-- The text with a carriage return in front of every line feed. -/
def withReturns (text : String) : String :=
  String.ofList (text.toList.flatMap returned)

/-- Carriage returns in front of line feeds are trimmed. -/
theorem map_trim_lines_withReturns (text : String) :
    (lines (withReturns text)).map trim = (lines text).map trim := by
  have hreturn : isBlank '\r' = true := by decide
  -- The line that is being read is the same on both sides, up to the carriage return at its end.
  have hsplit : ∀ cs pending : List Char,
      (splitLines '\n' pending (cs.flatMap returned)).map trimChars =
        (splitLines '\n' pending cs).map trimChars := by
    intro cs
    induction cs with
    | nil => intro pending; rfl
    | cons c cs ih =>
      intro pending
      by_cases hc : c = '\n'
      · simp [hc, returned, splitLines, trimChars_append_blank hreturn, ih]
      · simp [hc, returned, splitLines, ih]
  have hmap : ∀ css : List (List Char),
      (css.map String.ofList).map trim = (css.map trimChars).map String.ofList := by
    intro css
    simp [trim]
  unfold lines
  rw [hmap, hmap, withReturns, String.toList_ofList, hsplit]

end Text

/-! ## Tables of given entries -/

/-- Where there is an entry for each place, there is a table. -/
theorem exists_table {α : Type} {n : Nat} {P : Fin n → α → Prop} (h : ∀ slot, ∃ a, P slot a) :
    ∃ table : Vector α n, ∀ slot, P slot (table.get slot) := by
  choose entry hentry using h
  refine ⟨Vector.ofFn entry, fun slot => ?_⟩
  have hget : (Vector.ofFn entry).get slot = entry slot := Vector.getElem_ofFn slot.isLt
  rw [hget]
  exact hentry slot

/-- The same for a list. -/
theorem exists_list {α : Type} {n : Nat} {P : Nat → α → Prop} (h : ∀ i, i < n → ∃ a, P i a) :
    ∃ as : List α, as.length = n ∧ ∀ i a, as[i]? = some a → P i a := by
  choose entry hentry using h
  refine ⟨List.ofFn fun i : Fin n => entry i i.isLt, List.length_ofFn, ?_⟩
  intro i a ha
  rw [List.getElem?_ofFn] at ha
  split_ifs at ha with hi
  cases ha
  exact hentry i hi

/-- The same for flags. -/
theorem Flags.exists_get {P : Nat → Bool → Prop} {count : Nat} (hcount : count ≤ 32)
    (h : ∀ n, n < count → ∃ value, P n value) :
    ∃ flags : Flags, ∀ n, n < count → P n (flags.get n) := by
  induction count with
  | zero => exact ⟨clear, by simp⟩
  | succ count ih =>
    obtain ⟨flags, hflags⟩ := ih (by omega) fun n hn => h n (by omega)
    obtain ⟨value, hvalue⟩ := h count (by omega)
    refine ⟨flags.set count value, fun n hn => ?_⟩
    by_cases hlast : n = count
    · rw [hlast, get_set_same flags value (by omega)]
      exact hvalue
    · rw [get_set_of_ne flags value hlast]
      exact hflags n (by omega)

namespace SaveFile

/-! ## What lines give -/

/-- The line gives a value to a key: the two stand on either side of its first colon. -/
def Gives (line key value : String) : Prop :=
  ∃ before after : String, trim line = before ++ ":" ++ after ∧ ':' ∉ before.toList ∧
    key = trim before ∧ value = trim after

/-- The last line that has the key gives it the value. -/
def LastGives (ls : List String) (key value : String) : Prop :=
  ∃ earlier line later, ls = earlier ++ line :: later ∧ Gives line key value ∧
    ∀ other ∈ later, ∀ v, ¬Gives other key v

/-- Every line has a key, unless it is blank. -/
def Keyed (ls : List String) : Prop :=
  ∀ line ∈ ls, trim line ≠ "" → ':' ∈ (trim line).toList

/-- A text with a colon has a first one. -/
theorem exists_eq_append_colon {line : String} (h : ':' ∈ line.toList) :
    ∃ before after : String, line = before ++ ":" ++ after ∧ ':' ∉ before.toList := by
  obtain ⟨before, after, hline, hbefore⟩ := List.eq_append_cons_of_mem h
  refine ⟨String.ofList before, String.ofList after, ?_, by simpa using hbefore⟩
  apply String.toList_inj.1
  simp [hline]

/-- A line gives a value to a key exactly when it has a colon. -/
theorem exists_gives_iff {line : String} :
    (∃ key value, Gives line key value) ↔ ':' ∈ (trim line).toList := by
  constructor
  · rintro ⟨key, value, before, after, hline, -⟩
    rw [hline]
    simp
  · intro h
    obtain ⟨before, after, hline, hbefore⟩ := exists_eq_append_colon h
    exact ⟨trim before, trim after, before, after, hline, hbefore, rfl, rfl⟩

/-- A line is split at its first colon. -/
theorem fieldOfLine_append_colon {before : String} (h : ':' ∉ before.toList) (after : String) :
    fieldOfLine (before ++ ":" ++ after) = .ok (trim before, trim after) := by
  have hspan : (before ++ ":" ++ after).toList.span (· != ':') =
      (before.toList, ':' :: after.toList) := by
    simpa using span_of_notMem h after.toList
  unfold fieldOfLine
  rw [hspan]
  rfl

/-- The key and the value of a line are those that it gives. -/
theorem fieldOfLine_eq_ok_iff {line key value : String} :
    fieldOfLine (trim line) = .ok (key, value) ↔ Gives line key value := by
  constructor
  · intro h
    by_cases hcolon : ':' ∈ (trim line).toList
    · obtain ⟨before, after, hline, hbefore⟩ := exists_eq_append_colon hcolon
      rw [hline, fieldOfLine_append_colon hbefore] at h
      cases h
      exact ⟨before, after, hline, hbefore, rfl, rfl⟩
    · rw [fieldOfLine, span_eq_self hcolon] at h
      cases h
  · rintro ⟨before, after, hline, hbefore, rfl, rfl⟩
    rw [hline]
    exact fieldOfLine_append_colon hbefore after

/-- A blank line gives nothing. -/
theorem not_gives_of_blank {line : String} (h : trim line = "") (key value : String) :
    ¬Gives line key value := by
  intro hgives
  have hcolon := exists_gives_iff.1 ⟨key, value, hgives⟩
  rw [h] at hcolon
  simp at hcolon

/-! ## The fields of a text -/

/-- The fields of the lines that have a key. -/
def fieldsOf (ls : List String) : Fields :=
  ls.filterMap fun line => (fieldOfLine (trim line)).toOption

theorem fieldsOf_append (ls ls' : List String) :
    fieldsOf (ls ++ ls') = fieldsOf ls ++ fieldsOf ls' :=
  List.filterMap_append

theorem fieldsOf_cons (line : String) (ls : List String) :
    fieldsOf (line :: ls) = fieldsOf [line] ++ fieldsOf ls :=
  fieldsOf_append [line] ls

/-- A line with a key is a field. -/
theorem fieldsOf_singleton {line key value : String} (h : Gives line key value) :
    fieldsOf [line] = [(key, value)] := by
  simp [fieldsOf, fieldOfLine_eq_ok_iff.2 h, Except.toOption]

/-- A line without a key is not a field. -/
theorem fieldsOf_singleton_of_not {line : String} (h : ∀ key value, ¬Gives line key value) :
    fieldsOf [line] = [] := by
  cases hfield : fieldOfLine (trim line) with
  | error e => simp [fieldsOf, hfield, Except.toOption]
  | ok field => exact absurd (fieldOfLine_eq_ok_iff.1 hfield) (h field.1 field.2)

/-- The fields of a text are those of its lines. -/
theorem mem_fieldsOf_iff {ls : List String} {key value : String} :
    (key, value) ∈ fieldsOf ls ↔ ∃ line ∈ ls, Gives line key value := by
  simp only [fieldsOf, List.mem_filterMap, toOption_eq_some_iff, fieldOfLine_eq_ok_iff]

/-- A key has no value when no line gives it one. -/
theorem value?_fieldsOf_eq_none {ls : List String} {key : String}
    (h : ∀ line ∈ ls, ∀ value, ¬Gives line key value) : (fieldsOf ls).value? key = none := by
  refine Option.eq_none_iff_forall_ne_some.2 fun value hvalue => ?_
  obtain ⟨line, hline, hgives⟩ := mem_fieldsOf_iff.1 (Fields.mem_of_value?_eq_some hvalue)
  exact h line hline value hgives

/-- The value of a key that a single line has. -/
theorem value?_fieldsOf_singleton {line key value : String} (h : Gives line key value) :
    (fieldsOf [line]).value? key = some value := by
  rw [fieldsOf_singleton h, Fields.value?_cons, Fields.value?_nil, if_pos rfl]
  rfl

/-- The value of a key is what the last line with this key gives to it. -/
theorem gives_fieldsOf (ls : List String) : (fieldsOf ls).Gives = LastGives ls := by
  ext key value
  constructor
  · intro h
    -- The last line with the key counts, so that the lines are gone through from the end.
    induction ls using List.reverseRecOn with
    | nil => cases h
    | append_singleton ls line ih =>
      rw [Fields.Gives, fieldsOf_append, Fields.value?_append] at h
      by_cases hline : ∃ v, Gives line key v
      · obtain ⟨v, hv⟩ := hline
        rw [value?_fieldsOf_singleton hv] at h
        cases h
        exact ⟨ls, line, [], rfl, hv, by simp⟩
      · rw [value?_fieldsOf_eq_none (by simpa using hline)] at h
        obtain ⟨earlier, found, later, rfl, hfound, hlater⟩ := ih h
        refine ⟨earlier, found, later ++ [line], by simp, hfound, ?_⟩
        intro other hother
        rcases List.mem_append.1 hother with hmem | hlast
        · exact hlater other hmem
        · rw [List.mem_singleton.1 hlast]
          exact not_exists.1 hline
  · rintro ⟨earlier, line, later, rfl, hline, hlater⟩
    rw [Fields.Gives, fieldsOf_append, fieldsOf_cons, Fields.value?_append, Fields.value?_append,
      value?_fieldsOf_eq_none hlater, value?_fieldsOf_singleton hline]
    rfl

/-- A text is read when every line that is not blank has a key, and its fields are then those of its
lines. -/
theorem parse_eq_ok_iff {text : String} {fs : Fields} :
    parse text = .ok fs ↔ Keyed (lines text) ∧ fs = fieldsOf (lines text) := by
  unfold parse
  generalize lines text = ls
  induction ls generalizing fs with
  | nil =>
    have hkeyed : Keyed [] := by
      intro line hline
      cases hline
    show Except.ok [] = Except.ok fs ↔ _
    simp [hkeyed, fieldsOf, eq_comm]
  | cons line ls ih =>
    have hkeyed : Keyed (line :: ls) ↔ (trim line ≠ "" → ':' ∈ (trim line).toList) ∧ Keyed ls :=
      List.forall_mem_cons
    rw [List.map_cons, hkeyed, fieldsOf_cons]
    by_cases hblank : trim line = ""
    · rw [List.filter_cons_of_neg (by simpa using hblank), ih,
        fieldsOf_singleton_of_not (not_gives_of_blank hblank)]
      simp [hblank]
    · rw [List.filter_cons_of_pos (by simpa using hblank), List.mapM_cons, ← exists_gives_iff]
      cases hfield : fieldOfLine (trim line) with
      | error e =>
        have hnone : ¬∃ key value, Gives line key value := by
          rintro ⟨key, value, hgives⟩
          rw [fieldOfLine_eq_ok_iff.2 hgives] at hfield
          cases hfield
        simp [hblank, hnone, bind, Except.bind]
      | ok field =>
        have hgives : Gives line field.1 field.2 := fieldOfLine_eq_ok_iff.1 hfield
        rw [fieldsOf_singleton hgives]
        constructor
        · intro h
          obtain ⟨first, hfirst, h⟩ := exists_of_bind_eq_ok h
          obtain ⟨rest, hrest, h⟩ := exists_of_bind_eq_ok h
          cases hfirst
          cases h
          obtain ⟨hlines, rfl⟩ := ih.1 hrest
          exact ⟨⟨fun _ => ⟨_, _, hgives⟩, hlines⟩, rfl⟩
        · rintro ⟨⟨-, hlines⟩, rfl⟩
          have hrest := ih.2 ⟨hlines, rfl⟩
          simp only [hrest]
          rfl

/-! ## Valid texts -/

/-- The lines give the key a number below the bound, in digits behind a plus sign or none. -/
def GivesNatural (ls : List String) (bound : Nat) (key : String) (n : Nat) : Prop :=
  ∃ value, LastGives ls key value ∧ IsNatural value.toList n ∧ n < bound

/-- The lines give the key a number that a counter can hold, in digits behind a sign or none. -/
def GivesCounter (ls : List String) (key : String) (n : Int) : Prop :=
  ∃ value, LastGives ls key value ∧ IsInteger value.toList n ∧ counterMin ≤ n ∧ n ≤ counterMax

theorem reads_natural?_iff {ls : List String} {bound n : Nat} {k : String} :
    Reads (LastGives ls) (natural? bound) k n ↔ GivesNatural ls bound k n :=
  exists_congr fun _ => and_congr_right fun _ => natural?_eq_some_iff

theorem reads_integer32?_iff {ls : List String} {k : String} {n : Int} :
    Reads (LastGives ls) integer32? k n ↔ GivesCounter ls k n := by
  refine exists_congr fun _ => and_congr_right fun _ => integer?_eq_some_iff.trans ?_
  unfold counterMin counterMax
  exact and_congr_right fun _ => and_congr_right fun _ => by omega

/-- The lines of a saved game are valid for a world: the numbers are there, and they are within the
bounds of the state and of the world. -/
structure Valid (world : World) (ls : List String) : Prop where
  keyed : Keyed ls
  adventure : GivesNatural ls 0x10000000000000000 "adventure" world.header.adventure
  counter : ∃ n, GivesCounter ls "counter" n ∧ -1 ≤ n
  altCounter : ∀ slot : Fin 8, ∃ n, GivesCounter ls (key "alt_counter" slot) n
  light : ∃ n, GivesCounter ls "light" n
  flag : ∀ n, n < 32 → ∃ bit, GivesNatural ls 256 (key "flag" n) bit ∧ bit ≤ 1
  altRoom : ∀ slot : Fin 6, ∃ room,
    GivesNatural ls 0x10000000000000000 (key "alt_room" slot) room ∧ room ≤ world.header.lastRoom
  room : ∃ room,
    GivesNatural ls 0x10000000000000000 "current_room" room ∧ room ≤ world.header.lastRoom
  item : ∀ n, n < world.items.length → ∃ location,
    GivesNatural ls 0x10000000000000000 (key "item" n) location ∧ world.isLocation location = true
  item_end : ¬∃ value, LastGives ls (key "item" world.items.length) value

/-- The lines of a saved game describe a state of a world. -/
structure Describes (world : World) (ls : List String) (st : State) : Prop where
  keyed : Keyed ls
  adventure : Reads (LastGives ls) natural64? "adventure" world.header.adventure
  holds : Holds (LastGives ls) st
  neg_one_le_counter : -1 ≤ st.counter
  settled : st.chaining = false
  fits : st.Fits world

/-- The lines of a state that they describe are valid. -/
theorem Describes.valid {world : World} {ls : List String} {st : State}
    (h : Describes world ls st) : Valid world ls where
  keyed := h.keyed
  adventure := reads_natural?_iff.1 h.adventure
  counter := ⟨st.counter, reads_integer32?_iff.1 h.holds.counter, h.neg_one_le_counter⟩
  altCounter slot := ⟨_, reads_integer32?_iff.1 (h.holds.altCounter slot)⟩
  light := ⟨st.light, reads_integer32?_iff.1 h.holds.light⟩
  flag n hn := ⟨_, reads_natural?_iff.1 (h.holds.flag n hn), Bool.toNat_le _⟩
  altRoom slot :=
    ⟨_, reads_natural?_iff.1 (h.holds.altRoom slot), h.fits.altRoom_le _ (Vector.getElem_mem _)⟩
  room := ⟨st.room, reads_natural?_iff.1 h.holds.room, h.fits.room_le⟩
  item n hn := by
    have hlength : n < st.locations.length := by
      rw [h.fits.length_locations]
      exact hn
    have hreads := h.holds.item n _ (List.getElem?_eq_getElem hlength)
    exact ⟨st.locations[n], reads_natural?_iff.1 hreads,
      h.fits.isLocation _ (List.getElem_mem hlength)⟩
  item_end := by
    rw [← h.fits.length_locations]
    exact h.holds.item_end

/-- Valid lines describe a state, which is put together from their values. -/
theorem Valid.exists_describes {world : World} {ls : List String} (h : Valid world ls) :
    ∃ st, Describes world ls st := by
  obtain ⟨counter, hcounter, hfloor⟩ := h.counter
  obtain ⟨light, hlight⟩ := h.light
  obtain ⟨room, hroom, hroom_le⟩ := h.room
  obtain ⟨altCounters, haltCounters⟩ := exists_table h.altCounter
  obtain ⟨altRooms, haltRooms⟩ := exists_table h.altRoom
  obtain ⟨locations, hlength, hlocations⟩ := exists_list h.item
  have hbit : ∀ n, n < 32 →
      ∃ value : Bool, Reads (LastGives ls) (natural? 256) (key "flag" n) value.toNat := by
    intro n hn
    obtain ⟨bit, hbit, hle⟩ := h.flag n hn
    have hcases : bit = 0 ∨ bit = 1 := by omega
    rcases hcases with rfl | rfl
    · exact ⟨false, reads_natural?_iff.2 hbit⟩
    · exact ⟨true, reads_natural?_iff.2 hbit⟩
  obtain ⟨flags, hflags⟩ := Flags.exists_get (by omega) hbit
  refine ⟨{ room, counter, flags, locations, altRooms
            altCounters := altCounters.push light
            chaining := false }, h.keyed, reads_natural?_iff.2 h.adventure, ?_, hfloor, rfl, ?_⟩
  · refine holds_of_parts (reads_integer32?_iff.2 hcounter)
      (fun slot => reads_integer32?_iff.2 (haltCounters slot)) (reads_integer32?_iff.2 hlight)
      (reads_natural?_iff.2 hroom) (fun slot => reads_natural?_iff.2 (haltRooms slot).1) hflags
      (fun n location hn => reads_natural?_iff.2 (hlocations n location hn).1) ?_
    rw [hlength]
    exact h.item_end
  · refine ⟨hroom_le, ?_, hlength, ?_⟩
    · intro r hr
      obtain ⟨slot, hslot, rfl⟩ := Vector.mem_iff_getElem.1 hr
      exact (haltRooms ⟨slot, hslot⟩).2
    · intro l hl
      obtain ⟨n, hn⟩ := List.mem_iff_getElem?.1 hl
      exact (hlocations n l hn).2

/-! ## Changes that do not matter -/

/-- The keys that are looked at.  The key behind that of the last item is one of them, because it
must not have a value. -/
inductive Named (world : World) : String → Prop where
  | adventure : Named world "adventure"
  | counter : Named world "counter"
  | altCounter (slot : Fin 8) : Named world (key "alt_counter" slot)
  | light : Named world "light"
  | flag {n : Nat} (h : n < 32) : Named world (key "flag" n)
  | altRoom (slot : Fin 6) : Named world (key "alt_room" slot)
  | room : Named world "current_room"
  | item {n : Nat} (h : n ≤ world.items.length) : Named world (key "item" n)

/-- A change of the lines of a saved game, at any place. -/
inductive Edit (world : World) : List String → List String → Prop where
  /-- Two lines with different keys are exchanged. -/
  | swap {a b : String} (h : ∀ k v w, Gives a k v → ¬Gives b k w) : Edit world [a, b] [b, a]
  /-- A line is added whose key is not looked at. -/
  | unknown {line k v : String} (hgives : Gives line k v)
      (h : ∀ k v, Gives line k v → ¬Named world k) : Edit world [] [line]
  /-- A blank line is added. -/
  | blank {line : String} (h : trim line = "") : Edit world [] [line]
  /-- A line is ended with a carriage return. -/
  | carriageReturn (line : String) : Edit world [line] [line ++ "\r"]
  | within (earlier later : List String) {ls ls' : List String} (h : Edit world ls ls') :
      Edit world (earlier ++ ls ++ later) (earlier ++ ls' ++ later)

/-- Two texts are both in lines with keys or both not, and they give the same values to the keys
that are looked at. -/
structure Agree (world : World) (ls ls' : List String) : Prop where
  keyed : Keyed ls ↔ Keyed ls'
  value : ∀ k, Named world k → (fieldsOf ls).value? k = (fieldsOf ls').value? k

theorem keyed_append {ls ls' : List String} : Keyed (ls ++ ls') ↔ Keyed ls ∧ Keyed ls' :=
  List.forall_mem_append

theorem keyed_singleton {line : String} :
    Keyed [line] ↔ (trim line ≠ "" → ':' ∈ (trim line).toList) := by
  simp [Keyed]

namespace Agree

variable {world : World} {ls ls' : List String}

theorem refl (ls : List String) : Agree world ls ls :=
  ⟨Iff.rfl, fun _ _ => rfl⟩

theorem symm (h : Agree world ls ls') : Agree world ls' ls :=
  ⟨h.keyed.symm, fun k hk => (h.value k hk).symm⟩

theorem trans {ls'' : List String} (h : Agree world ls ls') (h' : Agree world ls' ls'') :
    Agree world ls ls'' :=
  ⟨h.keyed.trans h'.keyed, fun k hk => (h.value k hk).trans (h'.value k hk)⟩

/-- Texts that agree still do with other lines around them. -/
theorem within (h : Agree world ls ls') (earlier later : List String) :
    Agree world (earlier ++ ls ++ later) (earlier ++ ls' ++ later) where
  keyed := by simp only [keyed_append, h.keyed]
  value k hk := by simp only [fieldsOf_append, Fields.value?_append, h.value k hk]

/-- A line that is blank, or whose key is not looked at, agrees with no line at all. -/
theorem of_line {line : String} (hkeyed : Keyed [line])
    (h : ∀ k v, Gives line k v → ¬Named world k) : Agree world [] [line] where
  keyed := by
    refine ⟨fun _ => hkeyed, fun _ other hother => ?_⟩
    cases hother
  value k hk := by
    have hnone : ∀ other ∈ [line], ∀ v, ¬Gives other k v := by
      intro other hother v hgives
      rw [List.mem_singleton.1 hother] at hgives
      exact h k v hgives hk
    rw [value?_fieldsOf_eq_none hnone]
    rfl

/-- Two lines with different keys agree with the same lines in the other order. -/
theorem of_swap {a b : String} (h : ∀ k v w, Gives a k v → ¬Gives b k w) :
    Agree world [a, b] [b, a] where
  keyed := by simp only [Keyed, List.forall_mem_cons, and_left_comm]
  value k _ := by
    show (fieldsOf ([a] ++ [b])).value? k = (fieldsOf ([b] ++ [a])).value? k
    rw [fieldsOf_append, fieldsOf_append, Fields.value?_append, Fields.value?_append]
    by_cases hfirst : ∃ v, Gives a k v
    · obtain ⟨v, hv⟩ := hfirst
      have hsecond : (fieldsOf [b]).value? k = none :=
        value?_fieldsOf_eq_none (by simpa using fun w => h k v w hv)
      rw [hsecond, Option.none_or, Option.or_none]
    · have hnone : (fieldsOf [a]).value? k = none :=
        value?_fieldsOf_eq_none (by simpa using hfirst)
      rw [hnone, Option.none_or, Option.or_none]

/-- A line agrees with the same line and a carriage return. -/
theorem of_return (line : String) : Agree world [line] [line ++ "\r"] where
  keyed := by rw [keyed_singleton, keyed_singleton, trim_append_return]
  value k _ := by
    have hfields : fieldsOf [line ++ "\r"] = fieldsOf [line] := by
      simp only [fieldsOf, List.filterMap_cons, trim_append_return]
    rw [hfields]

/-- A change does not matter. -/
theorem of_edit (h : Edit world ls ls') : Agree world ls ls' := by
  induction h with
  | swap h => exact of_swap h
  | @unknown line k v hgives h =>
    exact of_line (keyed_singleton.2 fun _ => exists_gives_iff.1 ⟨k, v, hgives⟩) h
  | blank h =>
    have hkeyed := keyed_singleton.2 fun hne => absurd h hne
    exact of_line hkeyed fun k v hgives => absurd hgives (not_gives_of_blank h k v)
  | carriageReturn line => exact of_return line
  | within earlier later _ ih => exact ih.within earlier later

/-- Any number of changes, made or taken back, do not matter. -/
theorem of_eqvGen (h : Relation.EqvGen (Edit world) ls ls') : Agree world ls ls' := by
  induction h with
  | rel _ _ h => exact of_edit h
  | refl ls => exact refl ls
  | symm _ _ _ ih => exact ih.symm
  | trans _ _ _ _ _ ih ih' => exact ih.trans ih'

/-- Texts that agree give the same values to the keys that are looked at. -/
theorem lastGives (h : Agree world ls ls') {k v : String} (hk : Named world k) :
    LastGives ls k v ↔ LastGives ls' k v := by
  rw [← gives_fieldsOf, ← gives_fieldsOf, Fields.Gives, Fields.Gives, h.value k hk]

theorem reads (h : Agree world ls ls') {α : Type} {read : String → Option α} {k : String} {a : α}
    (hk : Named world k) (hreads : Reads (LastGives ls) read k a) :
    Reads (LastGives ls') read k a := by
  obtain ⟨value, hvalue, hread⟩ := hreads
  exact ⟨value, (h.lastGives hk).1 hvalue, hread⟩

/-- Texts that agree describe the same states. -/
theorem describes (h : Agree world ls ls') {st : State} (hst : Describes world ls st) :
    Describes world ls' st where
  keyed := h.keyed.1 hst.keyed
  adventure := h.reads .adventure hst.adventure
  holds := {
    counter := h.reads .counter hst.holds.counter
    altCounter := fun slot => h.reads (.altCounter slot) (hst.holds.altCounter slot)
    light := h.reads .light hst.holds.light
    room := h.reads .room hst.holds.room
    altRoom := fun slot => h.reads (.altRoom slot) (hst.holds.altRoom slot)
    flag := fun n hn => h.reads (.flag hn) (hst.holds.flag n hn)
    item := fun n location hn => by
      have hlength := (List.getElem?_eq_some_iff.1 hn).1
      rw [hst.fits.length_locations] at hlength
      exact h.reads (.item hlength.le) (hst.holds.item n location hn)
    item_end := by
      rintro ⟨value, hvalue⟩
      refine hst.holds.item_end ⟨value, (h.lastGives (.item ?_)).2 hvalue⟩
      exact hst.fits.length_locations.le }
  neg_one_le_counter := hst.neg_one_le_counter
  settled := hst.settled
  fits := hst.fits

end Agree

end SaveFile

namespace Session

/-! ## Loading -/

/-- A saved game is loaded for the state that its lines describe. -/
theorem load_eq_ok_iff {s t : Session} {text : String} :
    s.load text = .ok t ↔ SaveFile.Describes s.world (lines text) t.state ∧ s.Resumes t := by
  constructor
  · intro h
    obtain ⟨st, hread, hrestore⟩ := exists_of_bind_eq_ok h
    obtain ⟨fs, hparse, hstate⟩ := exists_of_bind_eq_ok hread
    obtain ⟨hkeyed, rfl⟩ := SaveFile.parse_eq_ok_iff.1 hparse
    rw [SaveFile.stateOf_eq_ok_iff, SaveFile.gives_fieldsOf] at hstate
    obtain ⟨hadventure, hholds, hfloor, hsettled⟩ := hstate
    obtain ⟨hfits, rfl⟩ := restore_eq_ok_iff.1 hrestore
    rw [State.settled_eq_self hsettled]
    exact ⟨⟨hkeyed, hadventure, hholds, hfloor, hsettled, hfits⟩, rfl⟩
  · rintro ⟨⟨hkeyed, hadventure, hholds, hfloor, hsettled, hfits⟩, hresumes⟩
    have hparse := SaveFile.parse_eq_ok_iff.2 ⟨hkeyed, rfl⟩
    have hstate : SaveFile.stateOf (SaveFile.fieldsOf (lines text)) s.world.header.adventure =
        .ok t.state := by
      rw [SaveFile.stateOf_eq_ok_iff, SaveFile.gives_fieldsOf]
      exact ⟨hadventure, hholds, hfloor, hsettled⟩
    have hrestore : s.restore t.state = .ok t := by
      rw [restore_eq_ok_iff, State.settled_eq_self hsettled]
      exact ⟨hfits, hresumes⟩
    unfold load SaveFile.read
    rw [hparse]
    show (SaveFile.stateOf (SaveFile.fieldsOf (lines text)) s.world.header.adventure >>= _) = _
    rw [hstate]
    exact hrestore

/-- Texts that agree are loaded as the same session, or are both refused. -/
theorem toOption_load_eq {s : Session} {text other : String}
    (h : SaveFile.Agree s.world (lines text) (lines other)) :
    (s.load other).toOption = (s.load text).toOption := by
  ext t
  simp only [toOption_eq_some_iff, load_eq_ok_iff]
  exact and_congr_left fun _ => ⟨h.symm.describes, h.describes⟩

/-- The text of a saved game is accepted exactly when its lines are valid for the world.  The
session then goes on from the state that the lines describe, which is settled and holds their
values, and is otherwise the same: neither the dice nor the mark of a game that has stopped is
touched.  A session that refuses the text stays as it is.  The bytes of the text are loaded as the
text.  It does not matter how lines with different keys are ordered, nor which lines there are with
other keys, nor which blank lines, nor whether lines end in carriage returns. -/
theorem load_valid (s : Session) (text : String) :
    ((∃ t, s.load text = .ok t) ↔ SaveFile.Valid s.world (lines text)) ∧
      (∀ t, s.load text = .ok t ↔
        SaveFile.Describes s.world (lines text) t.state ∧ s.Resumes t) ∧
      (∀ t, s.load text = .ok t → s.perform (.load text) = t) ∧
      (∀ e, s.load text = .error e → s.perform (.load text) = s) ∧
      s.loadBytes text.toUTF8 = s.load text ∧
      s.load (withReturns text) = s.load text ∧
      ∀ other, Relation.EqvGen (SaveFile.Edit s.world) (lines text) (lines other) →
        (s.load other).toOption = (s.load text).toOption := by
  refine ⟨⟨?_, ?_⟩, fun t => load_eq_ok_iff, ?_, ?_, s.loadBytes_toUTF8 text, ?_, ?_⟩
  · rintro ⟨t, ht⟩
    exact (load_eq_ok_iff.1 ht).1.valid
  · intro hvalid
    obtain ⟨st, hst⟩ := hvalid.exists_describes
    exact ⟨{ s with state := st }, load_eq_ok_iff.2 ⟨hst, rfl⟩⟩
  · intro t ht
    rw [perform, ht, accept]
  · intro e he
    rw [perform, he, accept]
  · have hparse : SaveFile.parse (withReturns text) = SaveFile.parse text := by
      unfold SaveFile.parse
      rw [map_trim_lines_withReturns]
    unfold load SaveFile.read
    rw [hparse]
  · intro other hedits
    exact toOption_load_eq (.of_eqvGen hedits)

end Session

end TextAdventure

import Mathlib.Data.List.Nodup
import Mathlib.Data.List.Perm.Subperm
import Mathlib.Tactic.SplitIfs
import TextAdventure.Game.SaveFile
import TextAdventure.Proofs.LoadedWorld

/-!
# The fields of a saved game

A saved game is read from its fields: each part of the state is the number that stands under its
key, and the items are numbered without a gap.  Read the other way round, the fields give a state
exactly when they hold all of its numbers and no item behind its last one.  No item is missed for
want of fields, because items of different numbers have different keys.

Main results:

- Theorems `key_injective`, `key_ne_key` and `ne_key`: all keys of a saved game differ.
- Theorems `fieldsFrom_eq_ok_iff`, `flagsFrom_eq_ok_iff` and `itemsFrom_eq_ok_iff`: numbered fields
  that are read into a table.
- Structure `Holds` and theorem `stateOf_eq_ok_iff`: the fields from which a state is read.
-/

namespace TextAdventure.SaveFile

open Text

/-! ## Keys -/

theorem toList_key (name : String) (number : Nat) :
    (key name number).toList = name.toList ++ '.' :: Nat.toDigits 10 number := by
  simp [key, toString]

/-- The name of a numbered field is what stands before the point. -/
theorem takeWhile_key {name : String} (h : '.' ∉ name.toList) (number : Nat) :
    (key name number).toList.takeWhile (· != '.') = name.toList := by
  have hname : ∀ c ∈ name.toList, (c != '.') = true := by
    intro c hc
    have hne : c ≠ '.' := fun heq => h (heq ▸ hc)
    simpa using hne
  rw [toList_key, List.takeWhile_append_of_pos hname]
  simp

/-- Fields of one name are told apart by their numbers. -/
theorem key_injective {name : String} {m n : Nat} (h : key name m = key name n) : m = n := by
  have hchars := congrArg String.toList h
  rw [toList_key, toList_key, List.append_cancel_left_eq, List.cons.injEq] at hchars
  have hvalues := congrArg (fun cs => Nat.ofDigitChars 10 cs 0) hchars.2
  simpa using hvalues

/-- Fields of different names are told apart by their names. -/
theorem key_ne_key {name other : String} (hne : name ≠ other) (hname : '.' ∉ name.toList)
    (hother : '.' ∉ other.toList) (m n : Nat) : key name m ≠ key other n := by
  intro h
  have hnames := congrArg (fun k : String => k.toList.takeWhile (· != '.')) h
  simp only [takeWhile_key hname, takeWhile_key hother] at hnames
  exact hne (String.toList_inj.1 hnames)

/-- A field without a number has no point in its key. -/
theorem ne_key {k : String} (h : '.' ∉ k.toList) (name : String) (number : Nat) :
    k ≠ key name number := by
  rintro rfl
  rw [toList_key] at h
  simp at h

namespace Fields

variable {fs : Fields}

/-! ## Values -/

/-- Of several fields with one key, the last one counts. -/
@[simp]
theorem value?_append (fs gs : Fields) (k : String) :
    Fields.value? (fs ++ gs) k = (gs.value? k).or (fs.value? k) := by
  simp only [value?, List.reverse_append, List.lookup_append]

@[simp]
theorem value?_cons (field : String × String) (fs : Fields) (k : String) :
    Fields.value? (field :: fs) k =
      (fs.value? k).or (if k = field.1 then some field.2 else none) := by
  obtain ⟨key, value⟩ := field
  have hlast : value? [(key, value)] k = if k = key then some value else none := by
    simp [value?]
  rw [← hlast]
  exact value?_append [(key, value)] fs k

theorem value?_nil (k : String) : Fields.value? [] k = none := rfl

/-- What is found under a key is the value of a field. -/
theorem mem_of_value?_eq_some {k value : String} (h : fs.value? k = some value) :
    (k, value) ∈ fs := by
  induction fs with
  | nil => cases h
  | cons field fs ih =>
    rw [value?_cons, Option.or_eq_some_iff] at h
    rcases h with hlater | ⟨-, hfirst⟩
    · exact List.mem_cons_of_mem field (ih hlater)
    · split_ifs at hfirst with hkey
      cases hfirst
      rw [hkey]
      exact List.mem_cons_self

/-- The value that the fields give to a key. -/
def Gives (fs : Fields) (k value : String) : Prop :=
  fs.value? k = some value

end Fields

/-! ## Numbers -/

/-- The value that is given to the key reads as the number.  What is given to the keys can come from
fields or from a text. -/
def Reads {α : Type} (gives : String → String → Prop) (read : String → Option α) (k : String)
    (a : α) : Prop :=
  ∃ value, gives k value ∧ read value = some a

namespace Fields

variable {fs : Fields} {α : Type}

/-- A field is read exactly when its value reads as the number. -/
theorem field_eq_ok_iff {read : String → Option α} {k : String} {a : α} :
    fs.field read k = .ok a ↔ Reads fs.Gives read k a := by
  unfold field Reads Gives
  constructor
  · intro h
    split at h
    · cases h
    · rename_i value hvalue
      split at h
      · rename_i found hfound
        cases h
        exact ⟨value, hvalue, hfound⟩
      · cases h
  · rintro ⟨value, hvalue, hread⟩
    simp only [hvalue, hread]

/-- The counter is read as it is, provided that it is not below its floor. -/
theorem counter_eq_ok_iff {n : Int} :
    fs.counter = .ok n ↔ Reads fs.Gives integer32? "counter" n ∧ -1 ≤ n := by
  rw [← field_eq_ok_iff]
  unfold counter
  constructor
  · intro h
    obtain ⟨found, hfound, h⟩ := exists_of_bind_eq_ok h
    split_ifs at h with hlow
    cases h
    exact ⟨hfound, by omega⟩
  · rintro ⟨hfield, hfloor⟩
    rw [hfield]
    exact if_neg (by omega)

/-! ## Numbered fields -/

/-- Numbered fields that are read into a table have its entries. -/
theorem reads_of_fieldsFrom_eq_ok {read : String → Option α} {name : String} {start count : Nat}
    {table : Vector α count} (h : fs.fieldsFrom read name start count = .ok table)
    (slot : Fin count) : Reads fs.Gives read (key name (start + slot)) table[slot] := by
  induction count generalizing start with
  | zero => exact slot.elim0
  | succ count ih =>
    rw [fieldsFrom] at h
    obtain ⟨a, hfirst, h⟩ := exists_of_bind_eq_ok h
    obtain ⟨rest, hrest, h⟩ := exists_of_bind_eq_ok h
    cases h
    cases slot using Fin.cases with
    | zero => exact field_eq_ok_iff.1 hfirst
    | succ slot =>
      have hplace : start + slot.succ.val = start + 1 + slot.val := by
        rw [Fin.val_succ]
        omega
      rw [hplace]
      simpa using ih hrest slot

/-- Numbered fields are read into a list. -/
theorem fieldsFrom_eq_ok_of_list {read : String → Option α} {name : String} {as : List α}
    {start : Nat} (h : ∀ n a, as[n]? = some a → Reads fs.Gives read (key name (start + n)) a) :
    fs.fieldsFrom read name start as.length = .ok ⟨as.toArray, by simp⟩ := by
  induction as generalizing start with
  | nil => rfl
  | cons a as ih =>
    have hfirst : fs.field read (key name start) = .ok a := field_eq_ok_iff.2 (h 0 a rfl)
    have hrest : fs.fieldsFrom read name (start + 1) as.length = .ok ⟨as.toArray, by simp⟩ := by
      refine ih fun n b hb => ?_
      have hplace : start + 1 + n = start + (n + 1) := by omega
      rw [hplace]
      exact h (n + 1) b hb
    simp only [List.length_cons, fieldsFrom, hfirst, hrest]
    rfl

/-- Fields that are numbered from zero are read into a table exactly when they have its entries. -/
theorem fieldsFrom_eq_ok_iff {read : String → Option α} {name : String} {count : Nat}
    {table : Vector α count} :
    fs.fieldsFrom read name 0 count = .ok table ↔
      ∀ slot : Fin count, Reads fs.Gives read (key name slot) table[slot] := by
  constructor
  · intro h slot
    have hentry := reads_of_fieldsFrom_eq_ok h slot
    rwa [Nat.zero_add] at hentry
  · intro h
    obtain ⟨⟨as⟩, rfl⟩ := table
    refine fieldsFrom_eq_ok_of_list fun n a ha => ?_
    obtain ⟨hn, rfl⟩ := List.getElem?_eq_some_iff.1 ha
    rw [Nat.zero_add]
    exact h ⟨n, hn⟩

/-! ## Flags -/

/-- A flag is 1 where it is set and 0 where it is not. -/
theorem flag_eq_ok_iff {n : Nat} {value : Bool} :
    fs.flag n = .ok value ↔ Reads fs.Gives (natural? 256) (key "flag" n) value.toNat := by
  rw [← field_eq_ok_iff]
  unfold flag
  constructor
  · intro h
    obtain ⟨bit, hbit, h⟩ := exists_of_bind_eq_ok h
    split_ifs at h with hlarge
    cases h
    have hcases : bit = 0 ∨ bit = 1 := by omega
    rcases hcases with rfl | rfl
    · exact hbit
    · exact hbit
  · intro h
    rw [h]
    cases value with
    | false => rfl
    | true => rfl

/-- Flags that have been read one after the other are those of the fields, and the flags that are
not read stay as they are. -/
theorem flag_of_flagsFrom_eq_ok {start count : Nat} {flags target : Flags}
    (hcount : start + count ≤ 32) (h : fs.flagsFrom start flags count = .ok target) :
    (∀ n, start ≤ n → n < start + count → fs.flag n = .ok (target.get n)) ∧
      ∀ n, n < start → target.get n = flags.get n := by
  induction count generalizing start flags with
  | zero =>
    cases h
    exact ⟨fun n hlow hhigh => by omega, fun n hn => rfl⟩
  | succ count ih =>
    rw [flagsFrom] at h
    obtain ⟨value, hvalue, h⟩ := exists_of_bind_eq_ok h
    obtain ⟨hread, hkept⟩ := ih (by omega) h
    constructor
    · intro n hlow hhigh
      by_cases hn : n = start
      · rw [hn, hkept start (by omega), Flags.get_set_same flags value (by omega)]
        exact hvalue
      · exact hread n (by omega) (by omega)
    · intro n hn
      rw [hkept n (by omega), Flags.get_set_of_ne flags value (by omega)]

/-- The flags are read one after the other. -/
theorem flagsFrom_eq_ok {target : Flags} (h : ∀ n, n < 32 → fs.flag n = .ok (target.get n))
    {start count : Nat} (hcount : start + count = 32) {flags : Flags}
    (hsofar : ∀ n, n < start → flags.get n = target.get n) :
    fs.flagsFrom start flags count = .ok target := by
  -- The flags below `start` have been read, and those from 32 on do not exist.
  induction count generalizing start flags with
  | zero =>
    have hflags : flags = target := by
      refine Flags.ext_get fun n => ?_
      by_cases hn : n < 32
      · exact hsofar n (by omega)
      · rw [Flags.get_of_ge flags (by omega), Flags.get_of_ge target (by omega)]
    rw [flagsFrom, hflags]
  | succ count ih =>
    have hnext : ∀ n, n < start + 1 →
        (flags.set start (target.get start)).get n = target.get n := by
      intro n hn
      by_cases heq : n = start
      · rw [heq, Flags.get_set_same flags _ (by omega)]
      · rw [Flags.get_set_of_ne flags _ heq]
        exact hsofar n (by omega)
    rw [flagsFrom, h start (by omega)]
    exact ih (by omega) hnext

/-- The 32 flags are read exactly when the fields have their values. -/
theorem flagsFrom_eq_ok_iff {flags : Flags} :
    fs.flagsFrom 0 Flags.clear 32 = .ok flags ↔
      ∀ n, n < 32 → Reads fs.Gives (natural? 256) (key "flag" n) (flags.get n).toNat := by
  simp only [← flag_eq_ok_iff]
  constructor
  · intro h n hn
    exact (flag_of_flagsFrom_eq_ok (by omega) h).1 n (by omega) (by omega)
  · intro h
    exact flagsFrom_eq_ok h (by omega) (by omega)

/-! ## Items -/

/-- Items of different numbers have fields of their own, so that there are no more of them than
fields. -/
theorem le_length_of_items {count : Nat}
    (h : ∀ n, n < count → ∃ value, fs.value? (key "item" n) = some value) :
    count ≤ fs.length := by
  have hnodup : ((List.range count).map (key "item")).Nodup :=
    List.nodup_range.map fun m n hkeys => key_injective hkeys
  have hsubset : (List.range count).map (key "item") ⊆ fs.map Prod.fst := by
    intro k hk
    obtain ⟨n, hn, rfl⟩ := List.mem_map.1 hk
    obtain ⟨value, hvalue⟩ := h n (List.mem_range.1 hn)
    exact List.mem_map.2 ⟨_, mem_of_value?_eq_some hvalue, rfl⟩
  simpa using (hnodup.subperm hsubset).length_le

/-- Locations that have been read are those of the fields.  They end where an item has no field, or
where the fuel ends. -/
theorem reads_of_itemsFrom_eq_ok {start fuel : Nat} {locations : List Nat}
    (h : fs.itemsFrom start fuel = .ok locations) :
    (∀ n location, locations[n]? = some location →
      Reads fs.Gives natural64? (key "item" (start + n)) location) ∧
      (fs.value? (key "item" (start + locations.length)) = none ∨ locations.length = fuel) := by
  induction fuel generalizing start locations with
  | zero =>
    cases h
    exact ⟨by simp, Or.inr rfl⟩
  | succ fuel ih =>
    rw [itemsFrom] at h
    split at h
    · rename_i hnone
      cases h
      exact ⟨by simp, Or.inl hnone⟩
    · obtain ⟨location, hfirst, h⟩ := exists_of_bind_eq_ok h
      obtain ⟨rest, hrest, h⟩ := exists_of_bind_eq_ok h
      cases h
      obtain ⟨hread, hend⟩ := ih hrest
      constructor
      · intro n found hfound
        cases n with
        | zero =>
          cases hfound
          exact field_eq_ok_iff.1 hfirst
        | succ n =>
          have hplace : start + (n + 1) = start + 1 + n := by omega
          rw [hplace]
          exact hread n found hfound
      · have hplace : start + (location :: rest).length = start + 1 + rest.length := by
          rw [List.length_cons]
          omega
        rw [hplace, List.length_cons, Nat.add_right_cancel_iff]
        exact hend

/-- The locations are read up to the first item that has no field. -/
theorem itemsFrom_eq_ok {locations : List Nat} {start fuel : Nat}
    (h : ∀ n location, locations[n]? = some location →
      Reads fs.Gives natural64? (key "item" (start + n)) location)
    (hend : fs.value? (key "item" (start + locations.length)) = none)
    (hfuel : locations.length ≤ fuel) : fs.itemsFrom start fuel = .ok locations := by
  induction locations generalizing start fuel with
  | nil =>
    cases fuel with
    | zero => rfl
    | succ fuel =>
      have hnone : fs.value? (key "item" start) = none := hend
      rw [itemsFrom, hnone]
  | cons location locations ih =>
    obtain ⟨fuel, rfl⟩ : ∃ n, fuel = n + 1 := ⟨fuel - 1, by simp at hfuel; omega⟩
    have hfirst : Reads fs.Gives natural64? (key "item" start) location := h 0 location rfl
    have hrest : fs.itemsFrom (start + 1) fuel = .ok locations := by
      refine ih (fun n found hfound => ?_) ?_ (by simpa using hfuel)
      · have hplace : start + 1 + n = start + (n + 1) := by omega
        rw [hplace]
        exact h (n + 1) found hfound
      · have hplace : start + 1 + locations.length = start + (location :: locations).length := by
          rw [List.length_cons]
          omega
        rw [hplace]
        exact hend
    have hfield := field_eq_ok_iff.2 hfirst
    obtain ⟨value, hvalue, -⟩ := hfirst
    simp only [itemsFrom, show fs.value? (key "item" start) = some value from hvalue, hfield, hrest]
    rfl

/-- The locations of the items are read exactly when the fields have them, and the item behind the
last one has no field. -/
theorem itemsFrom_eq_ok_iff {locations : List Nat} :
    fs.itemsFrom 0 fs.length = .ok locations ↔
      (∀ n location, locations[n]? = some location →
        Reads fs.Gives natural64? (key "item" n) location) ∧
        ¬∃ value, fs.Gives (key "item" locations.length) value := by
  have hpresent : (∀ n location, locations[n]? = some location →
      Reads fs.Gives natural64? (key "item" n) location) →
      ∀ n, n < locations.length → ∃ value, fs.value? (key "item" n) = some value := by
    intro h n hn
    obtain ⟨value, hvalue, -⟩ := h n locations[n] (List.getElem?_eq_getElem hn)
    exact ⟨value, hvalue⟩
  constructor
  · intro h
    obtain ⟨hread, hend⟩ := reads_of_itemsFrom_eq_ok h
    simp only [Nat.zero_add] at hread hend
    refine ⟨hread, ?_⟩
    rintro ⟨value, hvalue⟩
    rcases hend with hnone | hfuel
    · rw [Gives, hnone] at hvalue
      cases hvalue
    · -- All fuel was used, so that one item more would need one field more than there are.
      have hmore : locations.length + 1 ≤ fs.length := by
        refine le_length_of_items fun n hn => ?_
        by_cases hlast : n = locations.length
        · exact ⟨value, by rw [hlast]; exact hvalue⟩
        · exact hpresent hread n (by omega)
      omega
  · rintro ⟨hread, hend⟩
    refine itemsFrom_eq_ok (by simpa using hread) ?_ (le_length_of_items (hpresent hread))
    rw [Nat.zero_add]
    exact Option.eq_none_iff_forall_ne_some.2 fun value hvalue => hend ⟨value, hvalue⟩

end Fields

/-! ## States -/

/-- The numbers of the state stand under their keys, and no item behind its last one does. -/
structure Holds (gives : String → String → Prop) (s : State) : Prop where
  counter : Reads gives integer32? "counter" s.counter
  altCounter : ∀ slot : Fin 8, Reads gives integer32? (key "alt_counter" slot)
    s.altCounters[slot.castSucc]
  light : Reads gives integer32? "light" s.light
  room : Reads gives natural64? "current_room" s.room
  altRoom : ∀ slot : Fin 6, Reads gives natural64? (key "alt_room" slot) s.altRooms[slot]
  flag : ∀ n, n < 32 → Reads gives (natural? 256) (key "flag" n) (s.flags.get n).toNat
  item : ∀ n location, s.locations[n]? = some location →
    Reads gives natural64? (key "item" n) location
  item_end : ¬∃ value, gives (key "item" s.locations.length) value

/-- A state that is put together from its numbers: the nine alternate counters are eight that are
numbered, and the light. -/
theorem holds_of_parts {gives : String → String → Prop} {counter light : Int} {room : Nat}
    {altCounters : Vector Int 8} {altRooms : Vector Nat 6} {flags : Flags} {locations : List Nat}
    (hcounter : Reads gives integer32? "counter" counter)
    (haltCounter : ∀ slot : Fin 8,
      Reads gives integer32? (key "alt_counter" slot) altCounters[slot])
    (hlight : Reads gives integer32? "light" light)
    (hroom : Reads gives natural64? "current_room" room)
    (haltRoom : ∀ slot : Fin 6, Reads gives natural64? (key "alt_room" slot) altRooms[slot])
    (hflag : ∀ n, n < 32 → Reads gives (natural? 256) (key "flag" n) (flags.get n).toNat)
    (hitem : ∀ n location, locations[n]? = some location →
      Reads gives natural64? (key "item" n) location)
    (hend : ¬∃ value, gives (key "item" locations.length) value) :
    Holds gives {
      room, locations, flags, counter, altRooms
      altCounters := altCounters.push light
      chaining := false } where
  counter := hcounter
  altCounter slot := by
    have hslot := haltCounter slot
    simpa [Vector.getElem_push_lt] using hslot
  light := by
    have hlast : (altCounters.push light)[State.lightSlot] = light := Vector.getElem_push_eq
    show Reads gives integer32? "light" (altCounters.push light)[State.lightSlot]
    rw [hlast]
    exact hlight
  room := hroom
  altRoom := haltRoom
  flag := hflag
  item := hitem
  item_end := hend

/-- The table of alternate counters is put together again from its numbered part and the light. -/
theorem push_light (s : State) : s.altCounters.pop.push s.light = s.altCounters := by
  exact Vector.push_pop_back s.altCounters

/-- The fields give a state for an adventure exactly when they name that adventure and hold the
numbers of the state, whose counter is not below its floor, and which is settled. -/
theorem stateOf_eq_ok_iff {fs : Fields} {adventure : Nat} {s : State} :
    stateOf fs adventure = .ok s ↔
      Reads fs.Gives natural64? "adventure" adventure ∧ Holds fs.Gives s ∧ -1 ≤ s.counter ∧
        s.chaining = false := by
  constructor
  · intro h
    unfold stateOf at h
    obtain ⟨found, hfound, h⟩ := exists_of_bind_eq_ok h
    dsimp only at h
    split_ifs at h with hother
    · cases h
    · have hsame : found = adventure := by simpa using hother
      obtain ⟨counter, hcounter, h⟩ := exists_of_bind_eq_ok h
      obtain ⟨altCounters, haltCounters, h⟩ := exists_of_bind_eq_ok h
      obtain ⟨light, hlight, h⟩ := exists_of_bind_eq_ok h
      obtain ⟨altRooms, haltRooms, h⟩ := exists_of_bind_eq_ok h
      obtain ⟨flags, hflags, h⟩ := exists_of_bind_eq_ok h
      obtain ⟨locations, hlocations, h⟩ := exists_of_bind_eq_ok h
      obtain ⟨room, hroom, h⟩ := exists_of_bind_eq_ok h
      cases h
      rw [hsame] at hfound
      obtain ⟨hread, hfloor⟩ := Fields.counter_eq_ok_iff.1 hcounter
      obtain ⟨hitem, hend⟩ := Fields.itemsFrom_eq_ok_iff.1 hlocations
      refine ⟨Fields.field_eq_ok_iff.1 hfound, ?_, hfloor, rfl⟩
      exact holds_of_parts hread (Fields.fieldsFrom_eq_ok_iff.1 haltCounters)
        (Fields.field_eq_ok_iff.1 hlight) (Fields.field_eq_ok_iff.1 hroom)
        (Fields.fieldsFrom_eq_ok_iff.1 haltRooms) (Fields.flagsFrom_eq_ok_iff.1 hflags) hitem hend
  · rintro ⟨hadventure, hholds, hfloor, hsettled⟩
    have haltCounters : fs.fieldsFrom integer32? "alt_counter" 0 8 = .ok s.altCounters.pop := by
      refine Fields.fieldsFrom_eq_ok_iff.2 fun slot => ?_
      simpa using hholds.altCounter slot
    unfold stateOf
    rw [Fields.field_eq_ok_iff.2 hadventure, Fields.counter_eq_ok_iff.2 ⟨hholds.counter, hfloor⟩,
      haltCounters, Fields.field_eq_ok_iff.2 hholds.light,
      Fields.fieldsFrom_eq_ok_iff.2 hholds.altRoom, Fields.flagsFrom_eq_ok_iff.2 hholds.flag,
      Fields.itemsFrom_eq_ok_iff.2 ⟨hholds.item, hholds.item_end⟩,
      Fields.field_eq_ok_iff.2 hholds.room]
    simp [bind, Except.bind, pure, Except.pure, push_light, ← hsettled]

/-- Fields of another adventure are refused as such. -/
theorem stateOf_of_ne {fs : Fields} {found adventure : Nat}
    (h : Reads fs.Gives natural64? "adventure" found) (hne : found ≠ adventure) :
    stateOf fs adventure = .error (.wrongAdventure adventure found) := by
  unfold stateOf
  rw [Fields.field_eq_ok_iff.2 h]
  exact if_pos hne

end TextAdventure.SaveFile

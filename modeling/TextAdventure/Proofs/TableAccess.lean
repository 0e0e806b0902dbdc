import TextAdventure.Proofs.RowReferences

/-!
# Accesses to tables

Where the game looks up an entry of a table by its number without asking whether there is one, the
entry is there.  The numbers come from the rows of the action table, which may be any rows at all; a
command is tested against the tables of the world, while it exchanges entries of the tables of the
state.  What ties the two together is that the state fits the world.

The definitions elsewhere are total: a number for which there is no entry has no effect.  Here they
are set beside partial ones, which have no result for such a number.  Where the number is fixed, as
for the light and for the exit in a direction, the table has it by its type.

Main results:

- Structure `Access` and definition `Entry.accesses`: what the steps of a run look up.
- Theorem `Command.effect?_eq`: a command has a result exactly when its accesses are within.
- Definition `Entry.Proceeds`: a step has a result although it does not ask.
- Theorem `Session.accesses_within`: no access of any run is out of range.
-/

namespace TextAdventure

/-! ## Accesses -/

/-- An access to an entry of a table: the number of the entry, and the number of entries. -/
structure Access where
  index : Nat
  size : Nat
deriving Repr, DecidableEq

/-- The table has the entry. -/
def Access.Within (access : Access) : Prop :=
  access.index < access.size

instance : DecidablePred Access.Within := fun access =>
  inferInstanceAs (Decidable (access.index < access.size))

/-! ## Commands -/

namespace State

variable (s : State)

/-- Exchange the locations of two items, if there are such items. -/
def swapItems? (a b : Nat) : Option State := do
  let la ← s.locations[a]?
  let lb ← s.locations[b]?
  return (s.moveItem a lb).moveItem b la

/-- Move an item to where another one is, if there is such an item. -/
def putWith? (item other : Nat) : Option State := do
  let location ← s.locations[other]?
  return s.moveItem item location

/-- Exchange the counter with an alternate counter, if there is one. -/
def swapCounter? (slot : Nat) : Option State := do
  let counter ← s.altCounters[slot]?
  return { s with counter, altCounters := s.altCounters.setIfInBounds slot s.counter }

/-- Exchange the room with an alternate room, if there is one. -/
def swapRoom? (slot : Nat) : Option State := do
  let room ← s.altRooms[slot]?
  return { s with room, altRooms := s.altRooms.setIfInBounds slot s.room }

theorem swapItems?_eq (a b : Nat) :
    s.swapItems? a b =
      if a < s.locations.length ∧ b < s.locations.length then some (s.swapItems a b) else none := by
  by_cases ha : a < s.locations.length
  · by_cases hb : b < s.locations.length
    · simp [swapItems?, swapItems, location?, ha, hb]
    · simp [swapItems?, ha, hb]
  · simp [swapItems?, ha]

theorem putWith?_eq (item other : Nat) :
    s.putWith? item other =
      if other < s.locations.length then some (s.putWith item other) else none := by
  by_cases hother : other < s.locations.length
  · simp [putWith?, putWith, location?, hother]
  · simp [putWith?, hother]

theorem swapCounter?_eq (slot : Nat) :
    s.swapCounter? slot = if slot < 9 then some (s.swapCounter slot) else none := by
  by_cases hslot : slot < 9
  · simp [swapCounter?, swapCounter, hslot, Vector.setIfInBounds, Array.setIfInBounds]
  · simp [swapCounter?, hslot]

theorem swapRoom?_eq (slot : Nat) :
    s.swapRoom? slot = if slot < 6 then some (s.swapRoom slot) else none := by
  by_cases hslot : slot < 6
  · simp [swapRoom?, swapRoom, hslot, Vector.setIfInBounds, Array.setIfInBounds]
  · simp [swapRoom?, hslot]

end State

namespace Command

/-- What a command looks up in the tables of the state. -/
def accesses (c : Command) (o : Operands) (s : State) : List Access :=
  match c with
  | swapItems => [⟨o.first, s.locations.length⟩, ⟨o.second, s.locations.length⟩]
  | putWith => [⟨o.second, s.locations.length⟩]
  | swapCounter => [⟨o.first, 9⟩]
  | swapRoom => [⟨o.first, 6⟩]
  | swapRoomZero => [⟨0, 6⟩]
  | fill => [⟨State.lightSlot, 9⟩]
  | _ => []

/-- The effect of a command, which has no result when an access is out of range. -/
def effect? (ctx : Context) (c : Command) (o : Operands) (p : Progress) : Option Progress :=
  match c with
  | swapItems => (p.state.swapItems? o.first o.second).map fun s => { p with state := s }
  | putWith => (p.state.putWith? o.first o.second).map fun s => { p with state := s }
  | swapCounter => (p.state.swapCounter? o.first).map fun s => { p with state := s }
  | swapRoom => (p.state.swapRoom? o.first).map fun s => ⟨s, p.output.look⟩
  | swapRoomZero => (p.state.swapRoom? 0).map fun s => ⟨s, p.output.look⟩
  | c => some (c.apply ctx o p)

/-- Run a command that may have no result; one that names something the world does not have is
skipped. -/
def execute? (ctx : Context) (c : Command) (o : Operands) (p : Progress) : Option Progress :=
  if (c.missing? o ctx.world).isSome then some p else c.effect? ctx o p

/-- A command has a result exactly when its accesses are within their tables, and the result is then
its effect. -/
theorem effect?_eq (ctx : Context) (c : Command) (o : Operands) (p : Progress) :
    c.effect? ctx o p =
      if ∀ access ∈ c.accesses o p.state, access.Within then some (c.apply ctx o p) else none := by
  cases c with
  | swapItems =>
    simp only [effect?, State.swapItems?_eq, accesses, List.forall_mem_cons, Access.Within,
      List.not_mem_nil, false_implies, implies_true, and_true]
    split_ifs
    · rfl
    · rfl
  | putWith =>
    simp only [effect?, State.putWith?_eq, accesses, List.forall_mem_singleton, Access.Within]
    split_ifs
    · rfl
    · rfl
  | swapCounter =>
    simp only [effect?, State.swapCounter?_eq, accesses, List.forall_mem_singleton, Access.Within]
    split_ifs
    · rfl
    · rfl
  | swapRoom =>
    simp only [effect?, State.swapRoom?_eq, accesses, List.forall_mem_singleton, Access.Within]
    split_ifs
    · rfl
    · rfl
  | swapRoomZero =>
    simp only [effect?, State.swapRoom?_eq, accesses, List.forall_mem_singleton, Access.Within]
    split_ifs
    · rfl
    · rfl
  | fill => rfl
  | _ => rfl

/-- What a command looks up is what it names, so that a command that is not skipped looks up entries
that exist.  The test is on the tables of the world, while the access is to those of the state: they
have to have entries for the same items. -/
theorem within_of_missing_eq_none {world : World} {s : State}
    (hitems : s.locations.length = world.items.length) {c : Command} {o : Operands}
    (h : c.missing? o world = none) : ∀ access ∈ c.accesses o s, access.Within := by
  have hadmits := fun r => admits_of_missing_eq_none (r := r) h
  intro access haccess
  cases c with
  | swapItems =>
    have hfirst := hadmits (.item o.first) (by simp [references])
    have hsecond := hadmits (.item o.second) (by simp [references])
    simp only [accesses, List.mem_cons, List.not_mem_nil, or_false] at haccess
    rcases haccess with rfl | rfl
    · simpa [Access.Within, hitems, World.admits] using hfirst
    · simpa [Access.Within, hitems, World.admits] using hsecond
  | putWith =>
    have hsecond := hadmits (.item o.second) (by simp [references])
    rw [List.mem_singleton.1 haccess]
    simpa [Access.Within, hitems, World.admits] using hsecond
  | swapCounter =>
    have hslot := hadmits (.altCounter o.first) (by simp [references])
    rw [List.mem_singleton.1 haccess]
    simpa [Access.Within, World.admits] using hslot
  | swapRoom =>
    have hslot := hadmits (.altRoom o.first) (by simp [references])
    rw [List.mem_singleton.1 haccess]
    simpa [Access.Within, World.admits] using hslot
  | swapRoomZero =>
    rw [List.mem_singleton.1 haccess]
    decide
  | fill =>
    rw [List.mem_singleton.1 haccess]
    decide
  | _ => cases haccess

/-- A command that is run in a state with one location for each item of the world has a result. -/
theorem execute?_eq_some {ctx : Context} {p : Progress}
    (hitems : p.state.locations.length = ctx.world.items.length) (c : Command) (o : Operands) :
    c.execute? ctx o p = some (c.execute ctx o p) := by
  unfold execute? execute
  split_ifs with hmissing
  · rfl
  · have hwithin := within_of_missing_eq_none hitems (by simpa using hmissing)
    rw [effect?_eq, if_pos hwithin]

end Command

/-! ## Looks -/

/-- Items at a location have numbers of items. -/
theorem State.lt_of_mem_itemsAt {s : State} {location item : Nat}
    (h : item ∈ s.itemsAt location) : item < s.locations.length := by
  obtain ⟨⟨l, n⟩, hentry, rfl⟩ := List.mem_map.1 h
  have hmem := (List.mem_filter.1 hentry).1
  exact (List.getElem?_eq_some_iff.1 (List.mk_mem_zipIdx_iff_getElem?.1 hmem)).1

namespace Narration

/-- What the report on a room looks up: the items in it, and its exits. -/
def accesses (world : World) (s : State) (lamp : Nat) : List Access :=
  if s.isDark lamp then []
  else
    match world.rooms[s.room]? with
    | some _ => (s.itemsAt s.room).map (⟨·, world.items.length⟩) ++
      Direction.all.map fun d => ⟨d.slot, 6⟩
    | none => []

/-- The descriptions of the items in the player's room, if there are such items. -/
def visible? (world : World) (s : State) : Option (List String) := do
  let items ← (s.itemsAt s.room).mapM fun i => world.items[i]?
  return (items.map Item.description).filter (· != "")

/-- In a state that fits the world, the report looks up entries that exist. -/
theorem within_of_fits {world : World} {s : State} (hs : s.Fits world) (lamp : Nat) :
    ∀ access ∈ accesses world s lamp, access.Within := by
  intro access haccess
  unfold accesses at haccess
  split_ifs at haccess
  · cases haccess
  · split at haccess
    · rcases List.mem_append.1 haccess with hitem | hexit
      · obtain ⟨i, hi, rfl⟩ := List.mem_map.1 hitem
        have hlt := State.lt_of_mem_itemsAt hi
        rw [hs.length_locations] at hlt
        exact hlt
      · obtain ⟨d, -, rfl⟩ := List.mem_map.1 hexit
        exact d.slot.isLt
    · cases haccess

/-- Entries that all exist are looked up one after the other. -/
theorem mapM_getElem?_eq_some {α : Type} {as : List α} {is : List Nat}
    (h : ∀ i ∈ is, i < as.length) :
    (is.mapM fun i => as[i]?) = some (is.filterMap fun i => as[i]?) := by
  induction is with
  | nil => rfl
  | cons i is ih =>
    have hrest := ih fun j hj => h j (List.mem_cons_of_mem i hj)
    have hfirst := List.getElem?_eq_getElem (h i List.mem_cons_self)
    rw [List.mapM_cons, hrest, List.filterMap_cons, hfirst]
    rfl

/-- In a state that fits the world, no item in the room is passed over. -/
theorem visible?_eq_some {world : World} {s : State} (hs : s.Fits world) :
    visible? world s = some (visible world s) := by
  have hitems : ∀ i ∈ s.itemsAt s.room, i < world.items.length := by
    intro i hi
    rw [← hs.length_locations]
    exact State.lt_of_mem_itemsAt hi
  unfold visible? visible
  rw [mapM_getElem?_eq_some hitems, ← List.map_filterMap]
  rfl

end Narration

/-! ## Steps -/

namespace Entry

/-- What a step looks up.  A row that is run gives the commands at its four positions the parameters
of the slot there and of the next one.  A command that is skipped looks nothing up. -/
def accesses (world : World) (lamp : Nat) : Entry → List Access
  | drew _ => []
  | tested row _ => [⟨row, world.rows.length⟩]
  | ran row _ => ⟨row, world.rows.length⟩ ::
    (List.range 4).flatMap fun position => [⟨position, 5⟩, ⟨position + 1, 5⟩]
  | executed c o s => if (c.missing? o world).isSome then [] else c.accesses o s
  | looked s => Narration.accesses world s lamp
  | burned _ => [⟨State.lightSlot, 9⟩]

/-- The step has a result although it does not ask whether the entries are there: the row is in the
table, and its commands take their operands from its slots; the command goes as it does with the
question; and each item in the room has a description. -/
def Proceeds (world : World) : Entry → Prop
  | drew _ | burned _ => True
  | tested number _ => ∃ row, world.rows[number]? = some row
  | ran number _ => ∃ row, world.rows[number]? = some row ∧
      row.opcodes = List.ofFn fun position => (row.opcodeAt position, row.operandsAt position)
  | executed c o s => ∀ (ctx : Context) (p : Progress), ctx.world = world → p.state.settled = s →
      c.execute? ctx o p = some (c.execute ctx o p)
  | looked s => Narration.visible? world s = some (Narration.visible world s)

variable {world : World} {entry : Entry}

/-- A step that the action table calls for, and that is taken in a state that fits the world, looks
up entries that exist. -/
theorem within_of_fits (htable : entry.OfTable world)
    (hfits : ∀ s, entry.state? = some s → s.Fits world) (lamp : Nat) :
    ∀ access ∈ entry.accesses world lamp, access.Within := by
  intro access haccess
  cases entry with
  | drew percent => cases haccess
  | tested row s =>
    rw [List.mem_singleton.1 haccess]
    exact htable
  | ran row s =>
    rcases List.mem_cons.1 haccess with rfl | hslot
    · exact htable
    · obtain ⟨position, hposition, hslot⟩ := List.mem_flatMap.1 hslot
      have hlt := List.mem_range.1 hposition
      simp only [List.mem_cons, List.not_mem_nil, or_false] at hslot
      rcases hslot with rfl | rfl
      · exact Nat.lt_succ_of_lt hlt
      · exact Nat.succ_lt_succ hlt
  | executed c o s =>
    simp only [accesses] at haccess
    split_ifs at haccess with hmissing
    · cases haccess
    · have hitems : s.locations.length = world.items.length := (hfits s rfl).length_locations
      exact Command.within_of_missing_eq_none hitems (by simpa using hmissing) access haccess
  | looked s => exact Narration.within_of_fits (hfits s rfl) lamp access haccess
  | burned s =>
    rw [List.mem_singleton.1 haccess]
    exact State.lightSlot.isLt

/-- Such a step has a result. -/
theorem proceeds_of_fits (htable : entry.OfTable world)
    (hfits : ∀ s, entry.state? = some s → s.Fits world) : entry.Proceeds world := by
  cases entry with
  | tested number s => exact ⟨_, List.getElem?_eq_getElem htable⟩
  | ran number s => exact ⟨_, List.getElem?_eq_getElem htable, Row.opcodes_eq_ofFn _⟩
  | executed c o s =>
    rintro ctx p rfl rfl
    have hitems : p.state.settled.locations.length = ctx.world.items.length :=
      (hfits _ rfl).length_locations
    exact Command.execute?_eq_some hitems c o
  | looked s => exact Narration.visible?_eq_some (hfits s rfl)
  | drew | burned => trivial

end Entry

/-! ## Runs -/

namespace Session

/-- In a world that has been read, with its own action table or with any other rows, and with any
settings, take any operations at all.  What their steps look up is there, so that each of them has a
result; and the rows that the passes scan are those of the table, under their numbers. -/
theorem accesses_within {text : String} {world : World} (hread : World.read text = .ok world)
    (rows : List Row) (settings : Settings) (dice : Dice) (operations : List Operation) :
    (∀ entry ∈ (new { world with rows } settings dice).journal operations,
      (∀ access ∈ entry.accesses { world with rows } settings.lamp, access.Within) ∧
        entry.Proceeds { world with rows }) ∧
      ∀ row ∈ World.numberedRows { world with rows }, rows[row.2]? = some row.1 := by
  have hworld := (World.wellFormed_of_read hread).withRows rows
  constructor
  · intro entry hentry
    obtain ⟨htable, hfits⟩ := (sound_new hworld settings dice).of_mem_journal hworld hentry
    exact ⟨entry.within_of_fits htable hfits settings.lamp, entry.proceeds_of_fits htable hfits⟩
  · intro row hrow
    exact World.getElem?_of_mem_numberedRows hrow

/-- In a small world, a row exchanges the counter with the light, which is looked up, and would
exchange the lamp with an item that does not exist, which is not. -/
theorem accesses_within_cell :
    let rows : List Row := [⟨0, #v[160, 0, 100, 0, 0], #v[12222, 0]⟩]
    let world := { cell with rows }
    let s := new world { lamp := 3 } (Dice.ofSeed 7)
    let operations : List Operation := [.restore State.blank, .move .start, .move (.turn "LOOK")]
    let entry : Entry := .executed .swapCounter ⟨8, 0⟩ (State.initial world)
    World.read cellText = .ok cell ∧ entry ∈ s.journal operations ∧
      entry.accesses world 3 = [⟨8, 9⟩] ∧ (∀ access ∈ entry.accesses world 3, access.Within) ∧
      entry.Proceeds world := by
  intro rows world s operations entry
  have hrun := accesses_within read_cell rows { lamp := 3 } (Dice.ofSeed 7) operations
  have hentry : entry ∈ s.journal operations := by decide +kernel
  obtain ⟨hwithin, hproceeds⟩ := hrun.1 entry hentry
  exact ⟨read_cell, hentry, by decide +kernel, hwithin, hproceeds⟩

end Session

end TextAdventure

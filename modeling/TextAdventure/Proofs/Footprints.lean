import TextAdventure.Proofs.PassInvariants
import TextAdventure.Proofs.TableAccess

/-!
# What commands leave alone

A state consists of cells: the room, the location of each item, each flag, and so on.  Every command
has a footprint of a few cells, which are those that it names and those that it stands for, and it
leaves all other cells as they are.  Commands that only print have an empty footprint and leave the
whole state as it is.

Main results:

- Inductive `Cell` and structure `State.ChangesOnly`: all cells but a few are the same.
- Theorem `State.ChangesOnly.eq_of_nil`: states with the same cells are the same.
- Definition `Command.footprint`: the cells that a command may change.
- Theorem `Command.execute_frame`: each command leaves alone what is not in its footprint, and one
  command alone stops the game.
-/

namespace TextAdventure

/-! ## Cells -/

/-- An entry of a state.  `chaining` is the wish to be continued. -/
inductive Cell where
  | room
  | location (item : Nat)
  | flag (number : Nat)
  | counter
  | altCounter (slot : Nat)
  | altRoom (slot : Nat)
  | chaining
deriving Repr, DecidableEq

namespace State

/-- Two states hold the same in a cell; a cell that does not exist holds nothing. -/
def SameAt (s t : State) : Cell → Prop
  | .room => t.room = s.room
  | .location item => t.location? item = s.location? item
  | .flag number => t.flags.get number = s.flags.get number
  | .counter => t.counter = s.counter
  | .altCounter slot => t.altCounters[slot]? = s.altCounters[slot]?
  | .altRoom slot => t.altRooms[slot]? = s.altRooms[slot]?
  | .chaining => t.chaining = s.chaining

/-- Only the given cells differ from one state to the other, and there are as many items. -/
structure ChangesOnly (cells : List Cell) (s t : State) : Prop where
  sameAt : ∀ cell ∉ cells, s.SameAt t cell
  length_eq : t.locations.length = s.locations.length

theorem SameAt.refl (s : State) (cell : Cell) : s.SameAt s cell := by
  cases cell <;> rfl

theorem SameAt.trans {s t u : State} {cell : Cell} (hst : s.SameAt t cell)
    (htu : t.SameAt u cell) : s.SameAt u cell := by
  cases cell <;> exact Eq.trans htu hst

namespace ChangesOnly

variable {cells more : List Cell} {s t u : State}

theorem refl (cells : List Cell) (s : State) : s.ChangesOnly cells s :=
  ⟨fun cell _ => SameAt.refl s cell, rfl⟩

theorem trans (hst : s.ChangesOnly cells t) (htu : t.ChangesOnly cells u) :
    s.ChangesOnly cells u where
  sameAt cell hcell := (hst.sameAt cell hcell).trans (htu.sameAt cell hcell)
  length_eq := htu.length_eq.trans hst.length_eq

/-- More cells may be allowed to differ. -/
theorem mono (h : s.ChangesOnly cells t) (hsub : cells ⊆ more) : s.ChangesOnly more t where
  sameAt cell hcell := h.sameAt cell fun hmem => hcell (hsub hmem)
  length_eq := h.length_eq

/-- States that hold the same in every cell are the same. -/
theorem eq_of_nil (h : s.ChangesOnly [] t) : t = s := by
  have hcell := fun cell => h.sameAt cell List.not_mem_nil
  have hlocations : t.locations = s.locations := List.ext_getElem? fun i => hcell (.location i)
  have hflags : t.flags = s.flags := Flags.ext_get fun number => hcell (.flag number)
  have haltCounters : t.altCounters = s.altCounters :=
    Vector.ext fun slot hslot => by simpa [SameAt, hslot] using hcell (.altCounter slot)
  have haltRooms : t.altRooms = s.altRooms :=
    Vector.ext fun slot hslot => by simpa [SameAt, hslot] using hcell (.altRoom slot)
  have hroom : t.room = s.room := hcell .room
  have hcounter : t.counter = s.counter := hcell .counter
  have hchaining : t.chaining = s.chaining := hcell .chaining
  cases s
  cases t
  simp_all

end ChangesOnly

/-! ## Writes to single cells -/

section Writes

variable (s : State)

theorem changesOnly_moveItem (item location : Nat) :
    s.ChangesOnly [.location item] (s.moveItem item location) where
  sameAt cell hcell := by
    cases cell with
    | location other => exact location?_moveItem_of_ne s location (by simpa using hcell)
    | _ => rfl
  length_eq := length_moveItem s item location

theorem changesOnly_enter (room : Nat) : s.ChangesOnly [.room] { s with room := room } where
  sameAt cell hcell := by
    cases cell with
    | room => simp at hcell
    | _ => rfl
  length_eq := rfl

theorem changesOnly_setFlag (number : Nat) (value : Bool) :
    s.ChangesOnly [.flag number] (s.setFlag number value) where
  sameAt cell hcell := by
    cases cell with
    | flag other => exact Flags.get_set_of_ne _ _ (by simpa using hcell)
    | _ => rfl
  length_eq := rfl

theorem changesOnly_setCounter (value : Int) : s.ChangesOnly [.counter] (s.setCounter value) where
  sameAt cell hcell := by
    cases cell with
    | counter => simp at hcell
    | _ => rfl
  length_eq := rfl

theorem changesOnly_setLight (turns : Int) :
    s.ChangesOnly [.altCounter lightSlot] (s.setLight turns) where
  sameAt cell hcell := by
    cases cell with
    | altCounter slot =>
      have hne : (lightSlot : Nat) ≠ slot := by simpa [eq_comm] using hcell
      simp [SameAt, setLight, Vector.getElem?_set_ne, hne]
    | _ => rfl
  length_eq := rfl

theorem changesOnly_chain : s.ChangesOnly [.chaining] { s with chaining := true } where
  sameAt cell hcell := by
    cases cell with
    | chaining => simp at hcell
    | _ => rfl
  length_eq := rfl

/-! ## Exchanges -/

theorem changesOnly_putWith (item other : Nat) :
    s.ChangesOnly [.location item] (s.putWith item other) := by
  unfold putWith
  split
  · exact s.changesOnly_moveItem item _
  · exact .refl _ s

theorem changesOnly_swapItems (a b : Nat) :
    s.ChangesOnly [.location a, .location b] (s.swapItems a b) := by
  unfold swapItems
  split
  · rename_i la lb _ _
    have hfirst := s.changesOnly_moveItem a lb
    have hsecond := (s.moveItem a lb).changesOnly_moveItem b la
    exact (hfirst.mono (by simp)).trans (hsecond.mono (by simp))
  · exact .refl _ s

theorem changesOnly_swapCounter (slot : Nat) :
    s.ChangesOnly [.counter, .altCounter slot] (s.swapCounter slot) := by
  unfold swapCounter
  split
  · refine ⟨fun cell hcell => ?_, rfl⟩
    cases cell with
    | counter => simp at hcell
    | altCounter other =>
      have hne : slot ≠ other := by simpa [eq_comm] using hcell
      simp [SameAt, Vector.getElem?_set_ne, hne]
    | _ => rfl
  · exact .refl _ s

theorem changesOnly_swapRoom (slot : Nat) :
    s.ChangesOnly [.room, .altRoom slot] (s.swapRoom slot) := by
  unfold swapRoom
  split
  · refine ⟨fun cell hcell => ?_, rfl⟩
    cases cell with
    | room => simp at hcell
    | altRoom other =>
      have hne : slot ≠ other := by simpa [eq_comm] using hcell
      simp [SameAt, Vector.getElem?_set_ne, hne]
    | _ => rfl
  · exact .refl _ s

/-- A light source that is filled takes the light, the flag and its own location. -/
theorem changesOnly_fill (lamp turns : Nat) :
    s.ChangesOnly [.altCounter lightSlot, .flag Flags.lightOut, .location lamp]
      (s.fill lamp turns) := by
  have hlight := s.changesOnly_setLight turns
  have hflag := (s.setLight turns).changesOnly_setFlag Flags.lightOut false
  have hitem := ((s.setLight turns).setFlag Flags.lightOut false).changesOnly_moveItem lamp carried
  exact ((hlight.mono (by simp)).trans (hflag.mono (by simp))).trans (hitem.mono (by simp))

end Writes

end State

/-! ## Commands -/

namespace Command

/-- The cells that a command may change. -/
def footprint (c : Command) (lamp : Nat) (o : Operands) : List Cell :=
  match c with
  | get | drop | destroy | take | moveItem | putWith => [.location o.first]
  | swapItems => [.location o.first, .location o.second]
  | goTo => [.room]
  | swapRoomZero => [.room, .altRoom 0]
  | swapRoom => [.room, .altRoom o.first]
  | night | day => [.flag Flags.night]
  | setFlag | clearFlag => [.flag o.first]
  | setFlagZero | clearFlagZero => [.flag 0]
  | die => [.room, .flag Flags.night]
  | fill => [.altCounter State.lightSlot, .flag Flags.lightOut, .location lamp]
  | decrementCounter | setCounter | addCounter | subtractCounter => [.counter]
  | swapCounter => [.counter, .altCounter o.first]
  | chain => [.chaining]
  | nothing | message _ | finish | showRoom | score | inventory | clearScreen | save | showCounter
  | sayNoun | sayNounLine | newLine | delay | unknown _ => []

variable (ctx : Context) (o : Operands) (p : Progress)

/-- The effect of a command stays within its footprint. -/
theorem changesOnly_apply (c : Command) :
    p.state.ChangesOnly (c.footprint ctx.settings.lamp o) (c.apply ctx o p).state := by
  cases c with
  | message n =>
    simp only [apply]
    split <;> exact .refl _ _
  | get =>
    simp only [apply]
    split_ifs
    · exact .refl _ _
    · exact .refl _ _
    · exact p.state.changesOnly_moveItem _ _
  | drop =>
    simp only [apply]
    split_ifs
    · exact p.state.changesOnly_moveItem _ _
    · exact .refl _ _
  | destroy | take | moveItem => exact p.state.changesOnly_moveItem _ _
  | putWith => exact p.state.changesOnly_putWith _ _
  | swapItems => exact p.state.changesOnly_swapItems _ _
  | goTo => exact p.state.changesOnly_enter _
  | swapRoomZero => exact p.state.changesOnly_swapRoom _
  | swapRoom => exact p.state.changesOnly_swapRoom _
  | night | day | setFlag | clearFlag | setFlagZero | clearFlagZero =>
    exact p.state.changesOnly_setFlag _ _
  | die =>
    have hday := p.state.changesOnly_setFlag Flags.night false
    have hroom := (p.state.setFlag Flags.night false).changesOnly_enter ctx.world.header.lastRoom
    exact (hday.mono (by simp [footprint])).trans (hroom.mono (by simp [footprint]))
  | fill => exact p.state.changesOnly_fill _ _
  | decrementCounter | setCounter | addCounter | subtractCounter =>
    exact p.state.changesOnly_setCounter _
  | swapCounter => exact p.state.changesOnly_swapCounter _
  | chain => exact p.state.changesOnly_chain
  | nothing | finish | showRoom | score | inventory | clearScreen | save | showCounter | sayNoun
  | sayNounLine | newLine | delay | unknown => exact .refl _ _

/-- So does a command that may be skipped. -/
theorem changesOnly_execute (c : Command) :
    p.state.ChangesOnly (c.footprint ctx.settings.lamp o) (c.execute ctx o p).state :=
  execute_cases ctx c o p (.refl _ _) fun _ => changesOnly_apply ctx o p c

/-- A command is skipped when something that it names does not exist. -/
theorem execute_of_not_admitted {c : Command} {r : Reference} (hr : r ∈ c.references o)
    (h : ctx.world.admits r = false) : c.execute ctx o p = p := by
  cases hmissing : c.missing? o ctx.world with
  | none =>
    rw [admits_of_missing_eq_none hmissing hr] at h
    cases h
  | some => exact execute_of_missing hmissing p

/-- The command that ends the game names nothing, so that it is never skipped. -/
theorem halted_execute_finish :
    (finish.execute ctx o p).output.halted = some .gameOver := rfl

/-- No other command ends the game. -/
theorem halted_execute {c : Command} (hc : c ≠ finish) :
    (c.execute ctx o p).output.halted = p.output.halted :=
  execute_cases ctx c o p rfl fun _ => halted_apply ctx o p hc

/-- In a state with one location for each item of the world, a command has a result, whatever its
operands.  If something that it names does not exist, it changes nothing at all.  In any case it
leaves alone all cells that are not in its footprint, so that a command with an empty footprint
leaves the state as it is.  One command ends the game, and no other does. -/
theorem execute_frame {ctx : Context} {p : Progress}
    (hitems : p.state.locations.length = ctx.world.items.length) (c : Command) (o : Operands) :
    let q := c.execute ctx o p
    c.execute? ctx o p = some q ∧
      (∀ r ∈ c.references o, ctx.world.admits r = false → q = p) ∧
      p.state.ChangesOnly (c.footprint ctx.settings.lamp o) q.state ∧
      (c.footprint ctx.settings.lamp o = [] → q.state = p.state) ∧
      (c = finish → q.output.halted = some .gameOver) ∧
      (c ≠ finish → q.output.halted = p.output.halted) := by
  intro q
  have hchanges : p.state.ChangesOnly (c.footprint ctx.settings.lamp o) q.state :=
    changesOnly_execute ctx o p c
  refine ⟨execute?_eq_some hitems c o, ?_, hchanges, ?_, ?_, ?_⟩
  · exact fun r hr hmissing => execute_of_not_admitted ctx o p hr hmissing
  · intro hempty
    rw [hempty] at hchanges
    exact hchanges.eq_of_nil
  · rintro rfl
    exact halted_execute_finish ctx o p
  · exact halted_execute ctx o p

/-- A light source that is not an item of the world is filled: the light and the flag change, and no
item moves. -/
theorem execute_frame_larder :
    let ctx : Context := { world := World.larder, settings := { lamp := 7 } }
    let s : State := ((State.initial World.larder).setLight 0).setFlag Flags.lightOut true
    let p : Progress := ⟨s, {}⟩
    let q := fill.execute ctx ⟨1, 1⟩ p
    p.state.locations.length = ctx.world.items.length ∧ fill.execute? ctx ⟨1, 1⟩ p = some q ∧
      p.state.ChangesOnly [.altCounter 8, .flag 16, .location 7] q.state ∧
      q.output.halted = p.output.halted ∧ q.state = State.initial World.larder := by
  intro ctx s p q
  have hitems : p.state.locations.length = ctx.world.items.length := rfl
  obtain ⟨hresult, -, hchanges, -, -, hhalted⟩ := execute_frame hitems fill ⟨1, 1⟩
  exact ⟨hitems, hresult, hchanges, hhalted (by decide), by decide⟩

end Command

end TextAdventure

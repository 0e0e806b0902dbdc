import Mathlib.Logic.Relation
import Mathlib.Tactic.SplitIfs
import TextAdventure.Proofs.LoadedWorld
import TextAdventure.Proofs.Lockstep

/-!
# What the action table writes

Everything that commands do to the state is a sequence of ten kinds of writes, each within bounds
that a well-formed world and the references of a command provide.  What all of these writes keep is
therefore kept by every pass over the action table, and it also holds in every state that the
journal of the pass records.  The rows and the commands that the journal names are those of the
table.

The wish to be continued is left aside: between two writes the state is looked at as if it were
settled.

Main results:

- Inductive `Write` and definition `Writes`: one write, and any number of them.
- Structure `Progress.Evolves`: the state is written to, and the journal records steps of the table
  that were taken in states on the way.
- Theorem `Command.writes_apply`: commands write to the state.
- Theorem `Progress.kept_evolves`: every step that the action table calls for does, and is recorded.
- Theorems `evolves_automaticPass` and `evolves_playerPass`: the two passes.
-/

namespace TextAdventure

/-! ## Writes -/

/-- One write to the state.  A number that is written to the counter or to the light is not above
the largest value of a counter, or it is not above the number that it replaces. -/
inductive Write (world : World) (s : State) : State → Prop where
  | place (item : Nat) {location : Nat} (h : world.isLocation location = true) :
      Write world s (s.moveItem item location)
  | putHere (item : Nat) : Write world s (s.moveItem item s.room)
  | putWith (item other : Nat) : Write world s (s.putWith item other)
  | swapItems (a b : Nat) : Write world s (s.swapItems a b)
  | enter {room : Nat} (h : room ≤ world.header.lastRoom) : Write world s { s with room := room }
  | swapRoom (slot : Nat) : Write world s (s.swapRoom slot)
  | setFlag (flag : Nat) (value : Bool) : Write world s (s.setFlag flag value)
  | setCounter {value : Int} (h : value ≤ counterMax ∨ value ≤ s.counter) :
      Write world s (s.setCounter value)
  | swapCounter (slot : Nat) : Write world s (s.swapCounter slot)
  | setLight {turns : Int} (hfloor : 0 ≤ turns) (h : turns ≤ counterMax ∨ turns ≤ s.light) :
      Write world s (s.setLight turns)

/-- Any number of writes, one after the other. -/
def Writes (world : World) : State → State → Prop :=
  Relation.ReflTransGen (Write world)

namespace State

theorem settled_putWith (s : State) (item other : Nat) :
    (s.putWith item other).settled = s.settled.putWith item other := by
  simp only [putWith, location?, settled]
  split <;> rfl

theorem settled_swapItems (s : State) (a b : Nat) :
    (s.swapItems a b).settled = s.settled.swapItems a b := by
  simp only [swapItems, location?, settled]
  split <;> rfl

theorem settled_swapRoom (s : State) (slot : Nat) :
    (s.swapRoom slot).settled = s.settled.swapRoom slot := by
  unfold swapRoom
  split <;> rfl

theorem settled_swapCounter (s : State) (slot : Nat) :
    (s.swapCounter slot).settled = s.settled.swapCounter slot := by
  unfold swapCounter
  split <;> rfl

end State

namespace Write

variable {world : World} {s t : State}

/-- A write is the same in a settled state. -/
theorem settled (h : Write world s t) : Write world s.settled t.settled := by
  cases h with
  | place item h => exact .place item h
  | putHere item => exact .putHere item
  | putWith item other =>
    rw [State.settled_putWith]
    exact .putWith item other
  | swapItems a b =>
    rw [State.settled_swapItems]
    exact .swapItems a b
  | enter h => exact .enter h
  | swapRoom slot =>
    rw [State.settled_swapRoom]
    exact .swapRoom slot
  | setFlag flag value => exact .setFlag flag value
  | setCounter h => exact .setCounter h
  | swapCounter slot =>
    rw [State.settled_swapCounter]
    exact .swapCounter slot
  | setLight hfloor h => exact .setLight hfloor h

/-- No write takes back a wish to be continued, or makes one. -/
theorem chaining_eq (h : Write world s t) : t.chaining = s.chaining := by
  cases h with
  | putWith item other => exact State.chaining_putWith s item other
  | swapItems a b => exact State.chaining_swapItems s a b
  | swapRoom slot => exact State.chaining_swapRoom s slot
  | swapCounter slot => exact State.chaining_swapCounter s slot
  | _ => rfl

end Write

namespace Writes

variable {world : World} {s t u : State}

theorem refl : Writes world s s :=
  Relation.ReflTransGen.refl

theorem trans (hst : Writes world s t) (htu : Writes world t u) : Writes world s u :=
  Relation.ReflTransGen.trans hst htu

theorem single (h : Write world s t) : Writes world s t :=
  Relation.ReflTransGen.single h

/-- What every write keeps is kept by any number of them. -/
theorem invariant {P : State → Prop} (hstep : ∀ s t, P s → Write world s t → P t)
    (h : Writes world s t) (hs : P s) : P t := by
  induction h with
  | refl => exact hs
  | tail _ hwrite ih => exact hstep _ _ ih hwrite

theorem settled (h : Writes world s t) : Writes world s.settled t.settled := by
  induction h with
  | refl => exact refl
  | tail _ hwrite ih => exact ih.trans (single hwrite.settled)

theorem chaining_eq (h : Writes world s t) : t.chaining = s.chaining :=
  h.invariant (P := fun u => u.chaining = s.chaining)
    (fun _ _ hs hwrite => hwrite.chaining_eq.trans hs) rfl

end Writes

/-! ## Locations that need no reference -/

@[simp]
theorem World.isLocation_carried (world : World) : world.isLocation carried = true := by
  simp [isLocation]

@[simp]
theorem World.isLocation_storeroom (world : World) : world.isLocation storeroom = true := by
  simp [isLocation, storeroom]

/-- The number that a command counts by is never above the largest value of a counter. -/
theorem countOf_le (operand : Nat) : countOf operand ≤ counterMax :=
  Int.min_le_right _ _

/-- A value that is limited is never above the largest value of a counter. -/
theorem clampCounter_le (value : Int) : clampCounter value ≤ counterMax := by
  unfold clampCounter counterMin counterMax
  omega

/-- Counting down leads to the largest value of a counter or to a smaller value. -/
theorem countDown_le (value : Int) : countDown value ≤ counterMax ∨ countDown value ≤ value := by
  unfold countDown
  split
  · exact Or.inl (Int.le_refl _)
  · exact Or.inr (by omega)

namespace Command

/-! ## Commands -/

/-- A command that runs has all of its references. -/
theorem admits_of_missing_eq_none {c : Command} {o : Operands} {world : World}
    (h : c.missing? o world = none) {r : Reference} (hr : r ∈ c.references o) :
    world.admits r = true := by
  simp only [missing?, List.find?_eq_none] at h
  simpa using h r hr

/-- Every command apart from the one that asks to be continued writes to the state. -/
theorem writes_apply {ctx : Context} (hworld : ctx.world.WellFormed) {c : Command} (o : Operands)
    (hc : c ≠ chain) (hrefs : c.missing? o ctx.world = none) (p : Progress) :
    Writes ctx.world p.state (c.apply ctx o p).state := by
  have hadmits := fun r => admits_of_missing_eq_none (r := r) hrefs
  cases c with
  | chain => contradiction
  | message n =>
    simp only [apply]
    split <;> exact .refl
  | get =>
    simp only [apply]
    split_ifs
    · exact .refl
    · exact .refl
    · exact .single (.place _ (by simp))
  | drop =>
    simp only [apply]
    split_ifs
    · exact .single (.putHere _)
    · exact .refl
  | goTo =>
    have hroom := hadmits _ List.mem_cons_self
    simp only [World.admits, decide_eq_true_eq, hworld.length_rooms] at hroom
    exact .single (.enter (Nat.le_of_lt_succ hroom))
  | destroy => exact .single (.place _ (by simp))
  | night => exact .single (.setFlag _ _)
  | day => exact .single (.setFlag _ _)
  | setFlag => exact .single (.setFlag _ _)
  | clearFlag => exact .single (.setFlag _ _)
  | die =>
    exact (Writes.single (.setFlag Flags.night false)).trans (.single (.enter (Nat.le_refl _)))
  | moveItem =>
    have hlocation := hadmits (.location o.second) (by simp [references])
    exact .single (.place _ hlocation)
  | setFlagZero => exact .single (.setFlag _ _)
  | clearFlagZero => exact .single (.setFlag _ _)
  | fill =>
    have hlight : (ctx.world.header.lightTime : Int) ≤ counterMax := by
      have := hworld.lightTime_lt
      unfold counterMax
      omega
    have hset : Write ctx.world p.state (p.state.setLight ctx.world.header.lightTime) :=
      .setLight (by omega) (Or.inl hlight)
    exact ((Writes.single hset).trans (.single (.setFlag Flags.lightOut false))).trans
      (.single (.place ctx.settings.lamp (by simp)))
  | swapItems => exact .single (.swapItems _ _)
  | take => exact .single (.place _ (by simp))
  | putWith => exact .single (.putWith _ _)
  | decrementCounter => exact .single (.setCounter (countDown_le _))
  | setCounter => exact .single (.setCounter (Or.inl (countOf_le _)))
  | swapRoomZero => exact .single (.swapRoom 0)
  | swapCounter => exact .single (.swapCounter _)
  | addCounter => exact .single (.setCounter (Or.inl (clampCounter_le _)))
  | subtractCounter => exact .single (.setCounter (Or.inl (clampCounter_le _)))
  | swapRoom => exact .single (.swapRoom _)
  | _ => exact .refl

end Command

/-! ## Progress -/

/-- The state that a step was taken in; a draw has nothing to do with the state. -/
def Entry.state? : Entry → Option State
  | drew _ => none
  | tested _ s | ran _ s | executed _ _ s | looked s | burned s => some s

/-- A step that the action table calls for: its row is in the table, and its command with its
operands belongs to a row of the table.  Draws, looks and turns of light have no row. -/
def Entry.OfTable (world : World) : Entry → Prop
  | tested row _ | ran row _ => row < world.rows.length
  | executed c o _ => ∃ row ∈ world.rows, (c, o) ∈ row.program
  | drew _ | looked _ | burned _ => True

/-- From `p` to `q` the state is written to, and the journal grows by steps that the action table
calls for and that were taken in states on the way. -/
structure Progress.Evolves (world : World) (p q : Progress) : Prop where
  writes : Writes world p.state.settled q.state.settled
  journal : ∀ entry ∈ q.output.journal, entry ∈ p.output.journal ∨
    (entry.OfTable world ∧ ∀ s, entry.state? = some s → Writes world p.state.settled s)

namespace World

variable {world : World} {row : NumberedRow}

/-- A row of the table with its number. -/
theorem getElem?_of_mem_numberedRows (h : row ∈ world.numberedRows) :
    world.rows[row.2]? = some row.1 :=
  List.mk_mem_zipIdx_iff_getElem?.1 h

theorem lt_of_mem_numberedRows (h : row ∈ world.numberedRows) : row.2 < world.rows.length := by
  obtain ⟨hlt, -⟩ := List.getElem?_eq_some_iff.1 (getElem?_of_mem_numberedRows h)
  exact hlt

theorem mem_rows_of_mem_numberedRows (h : row ∈ world.numberedRows) : row.1 ∈ world.rows :=
  List.mem_of_getElem? (getElem?_of_mem_numberedRows h)

end World

namespace Progress

variable {world : World} {p q r : Progress}

theorem Evolves.refl : p.Evolves world p :=
  ⟨.refl, fun _ hentry => Or.inl hentry⟩

theorem Evolves.trans (hpq : p.Evolves world q) (hqr : q.Evolves world r) :
    p.Evolves world r := by
  refine ⟨hpq.writes.trans hqr.writes, ?_⟩
  intro entry hentry
  rcases hqr.journal entry hentry with hold | hnew
  · exact hpq.journal entry hold
  · exact Or.inr ⟨hnew.1, fun s hs => hpq.writes.trans (hnew.2 s hs)⟩

/-- What leaves the journal alone and writes to the state. -/
theorem Evolves.of_writes (hwrites : Writes world p.state.settled q.state.settled)
    (hjournal : q.output.journal = p.output.journal) : p.Evolves world q := by
  refine ⟨hwrites, ?_⟩
  rw [hjournal]
  exact fun _ hentry => Or.inl hentry

/-- A step that is recorded now is recorded with the state as it is. -/
theorem evolves_note {entry : Entry} (htable : entry.OfTable world)
    (h : ∀ s, entry.state? = some s → s = p.state.settled) : p.Evolves world (p.note entry) := by
  refine ⟨.refl, ?_⟩
  intro e he
  simp only [note, output_mapOutput, Output.journal_note, List.mem_append,
    List.mem_singleton] at he
  rcases he with hold | rfl
  · exact Or.inl hold
  · refine Or.inr ⟨htable, fun s hs => ?_⟩
    rw [h s hs]
    exact .refl

theorem evolves_settle : p.Evolves world p.settle :=
  .of_writes .refl rfl

/-- Testing a row is a step of its own. -/
theorem evolves_noteTested {row : NumberedRow} (hrow : row ∈ world.numberedRows) :
    p.Evolves world (p.noteTested row) :=
  evolves_note (World.lt_of_mem_numberedRows hrow) fun _ hs => (Option.some.inj hs).symm

end Progress

/-! ## Commands that are executed -/

section Rows

variable {ctx : Context} (hworld : ctx.world.WellFormed)

include hworld

/-- A command that runs writes to the state, or it asks to be continued. -/
theorem Command.evolves_apply {c : Command} {o : Operands} (hrefs : c.missing? o ctx.world = none)
    (p : Progress) : p.Evolves ctx.world (c.apply ctx o p) := by
  refine .of_writes ?_ (journal_apply ctx c o p)
  by_cases hc : c = chain
  · rw [hc]
    exact .refl
  · exact (writes_apply hworld o hc hrefs p).settled

theorem Command.evolves_execute (c : Command) (o : Operands) (p : Progress) :
    p.Evolves ctx.world (c.execute ctx o p) :=
  execute_cases ctx c o p .refl fun hrefs => evolves_apply hworld hrefs p

/-! ## Passes -/

/-- The steps that the action table calls for write to the state, and they are recorded. -/
theorem Progress.kept_evolves (start : Progress) : Kept ctx (start.Evolves ctx.world) where
  settle h := h.trans evolves_settle
  tested hrow h := h.trans (evolves_noteTested hrow)
  ran {p row} hrow h := by
    have hnote : p.Evolves ctx.world (p.note (.ran row.2 p.state.settled)) :=
      evolves_note (World.lt_of_mem_numberedRows hrow) fun _ hs => (Option.some.inj hs).symm
    exact h.trans hnote
  executed {p row c o} hrow hentry h := by
    have hrows : ∃ row ∈ ctx.world.rows, (c, o) ∈ row.program :=
      ⟨row.1, World.mem_rows_of_mem_numberedRows hrow, hentry⟩
    have hnote : p.Evolves ctx.world (p.note (.executed c o p.state.settled)) :=
      evolves_note hrows fun _ hs => (Option.some.inj hs).symm
    exact (h.trans hnote).trans (Command.evolves_execute hworld c o _)

/-- The automatic pass writes to the state.  Its draws have nothing to do with the state. -/
theorem evolves_automaticPass (phase : Phase) (pass : Pass) :
    pass.progress.Evolves ctx.world (automaticPass ctx phase pass).2.progress := by
  have hkept := Progress.kept_evolves hworld pass.progress
  have hdrew : ∀ {p percent}, pass.progress.Evolves ctx.world p →
      pass.progress.Evolves ctx.world (p.note (.drew percent)) :=
    fun h => h.trans (Progress.evolves_note trivial fun _ hs => by cases hs)
  exact hkept.automaticPass hdrew phase .refl

/-- The pass of the player writes to the state. -/
theorem evolves_playerPass (verb noun : Nat) (phase : Phase) (p : Progress) :
    p.Evolves ctx.world (playerPass ctx verb noun phase p).2.2 :=
  (Progress.kept_evolves hworld p).playerPass verb noun phase .refl

end Rows

end TextAdventure

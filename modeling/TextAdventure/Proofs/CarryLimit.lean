import TextAdventure.Proofs.PassInvariants
import TextAdventure.Proofs.RowReferences

/-!
# The limit on what the player holds

Items are picked up by a command and by a built-in order, and both ask first whether the player can
hold one more.  Four commands put items into the inventory without asking.  In a world whose action
table does without these four, the number of items held stays within the limit, or within the number
held at the beginning if that is larger: whatever else moves items takes them out of the inventory
or exchanges them, and an exchange keeps the number.

Main results:

- Definition `Command.ignoresLimit`: the four commands that do not ask.
- Theorems `carriedCount_moveItem` and `carriedCount_swapItems`: what moves and exchanges do to the
  number of items held.
- Theorem `Command.carriedCount_apply_le`: every other command keeps within the limit.
- Theorem `Session.carriedCount_after_le`: so does a game, at its end and on the way.
-/

namespace TextAdventure

/-! ## The number of items held -/

namespace State

/-- A move takes the item out of the count if the player held it, and adds it if it goes into the
inventory. -/
theorem carriedCount_moveItem {s : State} {item : Nat} (location : Nat)
    (h : item < s.locations.length) :
    (s.moveItem item location).carriedCount + (s.isCarried item).toNat =
      s.carriedCount + (location == carried).toNat := by
  have hheld : s.isCarried item = (s.locations[item] == carried) := by
    simp [isCarried, location?, h]
  have hcounted : (s.locations[item] == carried) = true → 0 < s.carriedCount := fun hitem =>
    List.countP_pos_iff.2 ⟨s.locations[item], List.getElem_mem h, hitem⟩
  have hset := List.countP_set (p := (· == carried)) (a := location) h
  rw [hheld]
  simp only [carriedCount, moveItem] at hcounted ⊢
  rw [hset]
  cases hitem : s.locations[item] == carried with
  | false => cases location == carried <;> simp
  | true =>
    have hpos := hcounted hitem
    cases location == carried <;> simp <;> omega

/-- A move adds at most one item to those held. -/
theorem carriedCount_moveItem_le (s : State) (item location : Nat) :
    (s.moveItem item location).carriedCount ≤ s.carriedCount + 1 := by
  by_cases h : item < s.locations.length
  · have hmove := carriedCount_moveItem location h
    have hone := (location == carried).toNat_le
    omega
  · rw [moveItem_of_unknown location (Nat.le_of_not_lt h)]
    exact Nat.le_succ _

/-- The move of an item that the player holds adds none. -/
theorem carriedCount_moveItem_le_of_isCarried {s : State} {item : Nat}
    (h : s.isCarried item = true) (location : Nat) :
    (s.moveItem item location).carriedCount ≤ s.carriedCount := by
  have hknown : item < s.locations.length := by
    simp only [isCarried, location?, beq_iff_eq] at h
    exact (List.getElem?_eq_some_iff.1 h).1
  have hmove := carriedCount_moveItem location hknown
  have hone := (location == carried).toNat_le
  rw [h, Bool.toNat_true] at hmove
  omega

/-- An item that leaves the game adds none. -/
theorem carriedCount_moveItem_storeroom_le (s : State) (item : Nat) :
    (s.moveItem item storeroom).carriedCount ≤ s.carriedCount := by
  by_cases h : item < s.locations.length
  · have hmove := carriedCount_moveItem storeroom h
    have hnone : (storeroom == carried).toNat = 0 := rfl
    omega
  · exact Nat.le_of_eq (by rw [moveItem_of_unknown storeroom (Nat.le_of_not_lt h)])

/-- An exchange of two items keeps the number of items held. -/
theorem carriedCount_swapItems (s : State) (a b : Nat) :
    (s.swapItems a b).carriedCount = s.carriedCount := by
  unfold swapItems
  split
  · rename_i la lb ha hb
    obtain ⟨hla, rfl⟩ := List.getElem?_eq_some_iff.1 ha
    obtain ⟨hlb, rfl⟩ := List.getElem?_eq_some_iff.1 hb
    exact (List.set_set_perm hla hlb).countP_eq _
  · rfl

end State

/-! ## Commands -/

namespace Command

/-- The command puts an item into the inventory, or may do so, without asking how many items the
player holds. -/
def ignoresLimit : Command → Bool
  | moveItem | fill | take | putWith => true
  | _ => false

/-- Every other command leaves no more items with the player than the limit, or than there were. -/
theorem carriedCount_apply_le (ctx : Context) {c : Command} (hc : c.ignoresLimit = false)
    (o : Operands) (p : Progress) :
    (c.apply ctx o p).state.carriedCount ≤
      max ctx.world.header.carryLimit p.state.carriedCount := by
  cases c with
  | moveItem | fill | take | putWith => cases hc
  | message n =>
    simp only [apply]
    split <;> exact Nat.le_max_right _ _
  | get =>
    simp only [apply]
    split_ifs with hheld hfull
    · exact Nat.le_max_right _ _
    · exact Nat.le_max_right _ _
    · have hmove := p.state.carriedCount_moveItem_le o.first carried
      rw [Progress.state_mapState]
      omega
  | drop =>
    simp only [apply]
    split_ifs with hheld
    · exact Nat.le_trans (State.carriedCount_moveItem_le_of_isCarried hheld _)
        (Nat.le_max_right _ _)
    · exact Nat.le_max_right _ _
  | destroy =>
    exact Nat.le_trans (State.carriedCount_moveItem_storeroom_le _ _) (Nat.le_max_right _ _)
  | swapItems =>
    have hswap := p.state.carriedCount_swapItems o.first o.second
    simp only [apply, Progress.state_mapState, hswap]
    exact Nat.le_max_right _ _
  | swapRoomZero | swapRoom =>
    simp only [apply, Progress.state_mapOutput, Progress.state_mapState, State.swapRoom]
    split_ifs <;> exact Nat.le_max_right _ _
  | swapCounter =>
    simp only [apply, Progress.state_mapState, State.swapCounter]
    split_ifs <;> exact Nat.le_max_right _ _
  | _ => exact Nat.le_max_right _ _

/-- The same for a command that may be skipped. -/
theorem carriedCount_execute_le (ctx : Context) {c : Command} (hc : c.ignoresLimit = false)
    (o : Operands) (p : Progress) :
    (c.execute ctx o p).state.carriedCount ≤
      max ctx.world.header.carryLimit p.state.carriedCount :=
  execute_cases ctx c o p (Nat.le_max_right _ _) fun _ => carriedCount_apply_le ctx hc o p

end Command

/-- No command of the action table puts items into the inventory without asking. -/
def World.HeedsLimit (world : World) : Prop :=
  ∀ row ∈ world.rows, ∀ entry ∈ row.program, entry.1.ignoresLimit = false

instance (world : World) : Decidable world.HeedsLimit :=
  inferInstanceAs (Decidable (∀ row ∈ world.rows, ∀ entry ∈ row.program,
    entry.1.ignoresLimit = false))

/-! ## Steps of a turn -/

/-- The player holds at most so many items, and did in every state that the journal records. -/
structure Progress.HoldsAtMost (n : Nat) (p : Progress) : Prop where
  now : p.state.carriedCount ≤ n
  journal : ∀ entry ∈ p.output.journal, ∀ st, entry.state? = some st → st.carriedCount ≤ n

namespace Progress.HoldsAtMost

variable {n : Nat} {p q : Progress}

/-- A step is recorded with the state that it is taken in. -/
theorem note (h : p.HoldsAtMost n) {entry : Entry}
    (hentry : ∀ st, entry.state? = some st → st = p.state.settled) :
    (p.note entry).HoldsAtMost n := by
  refine ⟨h.now, fun e he st hst => ?_⟩
  simp only [Progress.note, output_mapOutput, Output.journal_note, List.mem_append,
    List.mem_singleton] at he
  rcases he with hold | rfl
  · exact h.journal e hold st hst
  · rw [hentry st hst]
    exact h.now

/-- The state changes, and nothing is recorded. -/
theorem of_le (h : p.HoldsAtMost n) (hle : q.state.carriedCount ≤ max n p.state.carriedCount)
    (hjournal : q.output.journal = p.output.journal) : q.HoldsAtMost n := by
  refine ⟨Nat.le_trans hle (Nat.max_le.2 ⟨Nat.le_refl n, h.now⟩), ?_⟩
  rw [hjournal]
  exact h.journal

/-- Neither the locations change nor is anything recorded. -/
theorem of_eq (h : p.HoldsAtMost n) (hlocations : q.state.locations = p.state.locations)
    (hjournal : q.output.journal = p.output.journal) : q.HoldsAtMost n := by
  refine h.of_le ?_ hjournal
  unfold State.carriedCount
  rw [hlocations]
  exact Nat.le_max_right _ _

end Progress.HoldsAtMost

/-! ### The action table -/

/-- A table without the four commands keeps within the limit. -/
theorem Progress.kept_holdsAtMost {ctx : Context} {n : Nat}
    (hlimit : ctx.world.header.carryLimit ≤ n) (hrows : ctx.world.HeedsLimit) :
    Kept ctx (HoldsAtMost n) where
  settle h := h.of_eq rfl rfl
  tested _ h := h.note fun _ hst => (Option.some.inj hst).symm
  ran _ h := h.note fun _ hst => (Option.some.inj hst).symm
  executed {p row c o} hrow hentry h := by
    have hasks : c.ignoresLimit = false :=
      hrows row.1 (World.mem_rows_of_mem_numberedRows hrow) (c, o) hentry
    have hnote : (p.note (.executed c o p.state.settled)).HoldsAtMost n :=
      h.note fun _ hst => (Option.some.inj hst).symm
    refine hnote.of_le ?_ (Command.journal_execute ctx c o _)
    exact Nat.le_trans (Command.carriedCount_execute_le ctx hasks o _)
      (Nat.max_le.2 ⟨Nat.le_trans hlimit (Nat.le_max_left _ _), Nat.le_max_right _ _⟩)

/-! ### Light, looks and built-in orders -/

namespace Progress.HoldsAtMost

variable {n : Nat} {p : Progress}

/-- Light that runs out can only take its source away. -/
theorem burn (h : p.HoldsAtMost n) (settings : Settings) : (p.burn settings).HoldsAtMost n := by
  have hburnt : (p.note (.burned p.state.settled)).HoldsAtMost n :=
    h.note fun _ hst => (Option.some.inj hst).symm
  unfold Progress.burn lightRunsOut lightBurns
  dsimp only
  split_ifs
  · have hleaves := State.carriedCount_moveItem_storeroom_le
      (p.state.setFlag Flags.lightOut true) settings.lamp
    exact h.of_le (Nat.le_trans hleaves (Nat.le_max_right _ _)) rfl
  · exact h.of_eq rfl rfl
  · exact hburnt.of_eq rfl rfl
  · exact hburnt.of_eq rfl rfl
  · exact h

theorem flushLook (h : p.HoldsAtMost n) (ctx : Context) : (p.flushLook ctx).HoldsAtMost n := by
  have hlooked : (p.note (.looked p.state.settled)).HoldsAtMost n :=
    h.note fun _ hst => (Option.some.inj hst).symm
  unfold Progress.flushLook
  dsimp only
  split_ifs
  · exact hlooked.of_eq rfl rfl
  · exact h

variable {ctx : Context}

theorem answer (h : p.HoldsAtMost n) (input : String) :
    (Builtin.answer ctx input p).HoldsAtMost n := by
  unfold Builtin.answer
  dsimp only
  split_ifs <;> exact h.of_eq rfl rfl

/-- The built-in order asks whether the player can hold one more. -/
theorem get (h : p.HoldsAtMost n) (hlimit : ctx.world.header.carryLimit ≤ n) (noun : String) :
    (Builtin.get ctx noun p).HoldsAtMost n := by
  unfold Builtin.get
  split
  · exact h.of_eq rfl rfl
  · rename_i item _
    split_ifs with hfull
    · exact h.of_eq rfl rfl
    · have hmove := p.state.carriedCount_moveItem_le item carried
      have hcount : (p.state.moveItem item carried).carriedCount ≤ n := by omega
      exact h.of_le (Nat.le_trans hcount (Nat.le_max_left _ _)) rfl

/-- The built-in order puts down an item that the player holds. -/
theorem drop (h : p.HoldsAtMost n) (noun : String) : (Builtin.drop ctx noun p).HoldsAtMost n := by
  unfold Builtin.drop
  split
  · exact h.of_eq rfl rfl
  · rename_i item hfound
    have hheld : p.state.isCarried item = true := by
      have hmatches := List.find?_some hfound
      simp only [Bool.and_eq_true] at hmatches
      exact hmatches.1.2
    have hmove := State.carriedCount_moveItem_le_of_isCarried hheld p.state.room
    exact h.of_le (Nat.le_trans hmove (Nat.le_max_right _ _)) rfl

theorem walk (h : p.HoldsAtMost n) (d : Direction) : (Builtin.walk ctx d p).HoldsAtMost n := by
  unfold Builtin.walk
  split <;> exact h.of_eq rfl rfl

theorem go {pass : Pass} (h : pass.progress.HoldsAtMost n) (d : Direction) :
    (Builtin.go ctx d pass).progress.HoldsAtMost n := by
  have hdrawn : (pass.progress.note (.drew pass.dice.percent.1)).HoldsAtMost n :=
    h.note fun _ hst => by cases hst
  unfold Builtin.go
  dsimp only
  split_ifs
  · exact hdrawn.of_eq rfl rfl
  · exact hdrawn.walk d
  · exact h.walk d

end Progress.HoldsAtMost

/-! ## Games -/

namespace Session

variable {s : Session} {n : Nat} {p : Progress} {pass : Pass}

section Limit

variable (hlimit : s.world.header.carryLimit ≤ n)

include hlimit

theorem keptByAnswers_holdsAtMost : s.KeptByAnswers (Progress.HoldsAtMost n) where
  notYet h := h.of_eq rfl rfl
  answer input _ h := h.answer input
  get noun _ h := h.get hlimit noun
  drop noun _ h := h.drop noun

variable (hrows : s.world.HeedsLimit)

include hrows

theorem holdsAtMost_playerPhase (h : pass.progress.HoldsAtMost n) (input : String) :
    (s.playerPhase input pass).progress.HoldsAtMost n := by
  refine (keptByAnswers_holdsAtMost hlimit).playerPhase input h (fun order => ?_) h.go
  have hkept : Progress.Kept (s.contextOf order) (Progress.HoldsAtMost n) :=
    Progress.kept_holdsAtMost hlimit hrows
  exact hkept.playerPass order.verb order.noun .idle h

theorem holdsAtMost_automaticPhase (h : pass.progress.HoldsAtMost n) :
    (s.automaticPhase pass).progress.HoldsAtMost n := by
  have hkept : Progress.Kept s.context (Progress.HoldsAtMost n) :=
    Progress.kept_holdsAtMost hlimit hrows
  have hpass := hkept.automaticPass (fun h => h.note fun _ hst => by cases hst) .idle h
  exact hpass.flushLook s.context

/-- An opening or a turn keeps within the limit, at its end and in every state on the way. -/
theorem holdsAtMost_move (h : s.state.carriedCount ≤ n) (m : Move) :
    Progress.HoldsAtMost n ⟨(s.move m).1.state, (s.move m).2⟩ := by
  have hopening : s.opening.progress.HoldsAtMost n := ⟨h, by simp [opening]⟩
  have hfinish : ∀ {pass : Pass}, pass.progress.HoldsAtMost n →
      Progress.HoldsAtMost n ⟨(s.finish pass).1.state, (s.finish pass).2⟩ :=
    fun hpass => hpass.flushLook s.context
  cases m with
  | start =>
    have hpass := holdsAtMost_automaticPhase hlimit hrows hopening
    unfold move start
    dsimp only
    split_ifs
    · exact hfinish hpass
    · exact hfinish (hpass.of_eq rfl rfl)
  | turn input =>
    unfold move
    dsimp only
    cases hhalted : s.halted with
    | some reason =>
      rw [turn_of_halted hhalted]
      exact ⟨h, by simp⟩
    | none =>
      rw [turn_of_not_halted hhalted]
      have hplayer :=
        (holdsAtMost_playerPhase hlimit hrows hopening input).flushLook s.context
      unfold play
      dsimp only
      split_ifs
      · exact hfinish hplayer
      · exact hfinish (holdsAtMost_automaticPhase hlimit hrows (hplayer.burn s.settings))

end Limit

/-- A move stays in the world. -/
theorem world_move (s : Session) (m : Move) : (s.move m).1.world = s.world := by
  cases m with
  | start =>
    simp only [move, start]
    split_ifs <;> rfl
  | turn input =>
    simp only [move]
    cases hhalted : s.halted with
    | some reason => rw [turn_of_halted hhalted]
    | none =>
      rw [turn_of_not_halted hhalted]
      simp only [play]
      split_ifs <;> rfl

/-- In a world whose action table does without the commands that put items into the inventory
without asking, the player never holds more items than the limit, or than at the beginning if that
is more: neither after any number of openings and turns, nor in any state on the way that the
journal records. -/
theorem carriedCount_after_le {world : World} (hrows : world.HeedsLimit) (settings : Settings)
    (dice : Dice) (moves : List Move) :
    let s := new world settings dice
    let most := max world.header.carryLimit s.state.carriedCount
    (s.after moves).state.carriedCount ≤ most ∧
      ∀ entry ∈ s.journal (moves.map .move), ∀ st, entry.state? = some st →
        st.carriedCount ≤ most := by
  intro s most
  have hrun := moves_induction (P := fun t => t.world = world ∧ t.state.carriedCount ≤ most)
    (Q := fun entry => ∀ st, entry.state? = some st → st.carriedCount ≤ most) ?_
    (s := s) ⟨rfl, Nat.le_max_right _ _⟩ moves
  · exact ⟨hrun.1.2, hrun.2⟩
  · rintro t ⟨hworld, hcount⟩ m
    have hlimit : t.world.header.carryLimit ≤ most := by
      rw [hworld]
      exact Nat.le_max_left _ _
    have hmove := holdsAtMost_move hlimit (hworld ▸ hrows) hcount m
    exact ⟨⟨(t.world_move m).trans hworld, hmove.now⟩, hmove.journal⟩

/-- A world in which the player can hold one item, and finds two.  The row that answers picks both
of them up, and the row that runs by itself exchanges them. -/
def satchel : World :=
  { World.larder with
    header := { World.larder.header with lastItem := 2, carryLimit := 1 }
    rows := [⟨301, #v[20, 40, 0, 0, 0], #v[7852, 0]⟩, ⟨100, #v[20, 40, 0, 0, 0], #v[10800, 0]⟩]
    words := [⟨"AUT", false, .verb, 0⟩, ⟨"ANY", false, .noun, 0⟩, ⟨"TAK", false, .verb, 2⟩,
      ⟨"JAM", false, .noun, 1⟩]
    items := [⟨"", none, 0⟩, ⟨"jam", none, 1⟩, ⟨"jelly", none, 1⟩] }

/-- In this world the second item is refused, and the two are exchanged. -/
theorem carriedCount_after_le_satchel :
    let s := new satchel {} (Dice.ofSeed 0)
    let moves : List Move := [.start, .turn "TAKE JAM"]
    satchel.HeedsLimit ∧ (s.after moves).state.locations = [0, 1, carried] ∧
      max satchel.header.carryLimit s.state.carriedCount = 1 ∧
      ((s.after moves).state.carriedCount ≤ 1 ∧
        ∀ entry ∈ s.journal (moves.map .move), ∀ st, entry.state? = some st →
          st.carriedCount ≤ 1) := by
  intro s moves
  have hrows : satchel.HeedsLimit := by decide +kernel
  have hheld : (s.after moves).state.locations = [0, 1, carried] := by decide +kernel
  have hmost : max satchel.header.carryLimit s.state.carriedCount = 1 := by decide +kernel
  obtain ⟨hend, hway⟩ := carriedCount_after_le hrows {} (Dice.ofSeed 0) moves
  rw [hmost] at hend hway
  exact ⟨hrows, hheld, hmost, hend, hway⟩

end Session

end TextAdventure

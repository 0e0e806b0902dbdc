import Mathlib.Tactic.ByContra
import TextAdventure.Proofs.EchoedNouns
import TextAdventure.Proofs.RowReferences
import TextAdventure.Proofs.UppercaseText

/-!
# Nouns with the same number

The action table knows nouns by their numbers, so that a synonym does the same as the word it stands
for: rows answer to both, and what they do to the state does not depend on the noun as it was typed.
The built-in orders are different.  They look for an item by the typed word, and never ask the
dictionary which other words have its number.  Two nouns with the same number therefore change the
state in the same way, except where no row answers, and the order is left to a built-in order that
finds different items for the two words and may pick them up.

Main results:

- Definition `Progress.bare`: what the rest of a turn can see of what has been done.
- Theorem `Progress.lockstep_bare`: passes over the action table change it in the same way, whatever
  has been printed and whatever noun was typed.
- Definition `Session.Separates`: the built-in orders tell two nouns apart.
- Theorem `Session.state_turn_of_synonyms`: nouns with the same number change the state alike
  exactly when the built-in orders do not tell them apart.
- Theorem `Session.not_interchangeable`: in some worlds they do.
-/

namespace TextAdventure

open Text

/-! ## What the rest of a turn can see -/

/-- The output without what has been printed and recorded. -/
def Output.bare (out : Output) : Output :=
  { out with events := [], journal := [] }

/-- The state, whether the game has stopped, and whether a look is pending. -/
def Progress.bare (p : Progress) : Progress :=
  p.mapOutput Output.bare

namespace Progress

@[simp]
theorem state_bare (p : Progress) : p.bare.state = p.state := rfl

@[simp]
theorem bare_bare (p : Progress) : p.bare.bare = p.bare := rfl

@[simp]
theorem bare_mapState (p : Progress) (f : State → State) :
    (p.mapState f).bare = p.bare.mapState f := rfl

@[simp]
theorem bare_note (p : Progress) (entry : Entry) : (p.note entry).bare = p.bare := rfl

@[simp]
theorem bare_line (p : Progress) (text : String) : (p.line text).bare = p.bare := rfl

/-- The states are the same. -/
theorem state_eq_of_bare {p q : Progress} (h : q.bare = p.bare) : q.state = p.state := by
  have hstate := congrArg Progress.state h
  exact hstate

/-- Either both games have stopped or neither has. -/
theorem isHalted_eq_of_bare {p q : Progress} (h : q.bare = p.bare) : q.isHalted = p.isHalted := by
  have hhalted := congrArg Progress.isHalted h
  exact hhalted

end Progress

/-! ## The action table -/

namespace Command

variable (ctx : Context) (noun? : Option String) (o : Operands) (p : Progress)

/-- What a command does beside printing depends neither on what has been printed nor on the noun. -/
theorem apply_bare (c : Command) :
    (c.apply { ctx with noun? := noun? } o p.bare).bare = (c.apply ctx o p).bare := by
  cases c with
  | message n =>
    simp only [apply]
    split <;> rfl
  | get =>
    by_cases hheld : p.state.isCarried o.first = true
    · simp [apply, hheld]
    · by_cases hfull : ctx.world.header.carryLimit ≤ p.state.carriedCount
      · simp [apply, hheld, hfull]
      · simp [apply, hheld, hfull]
  | drop =>
    by_cases hheld : p.state.isCarried o.first = true
    · simp [apply, hheld]
    · simp [apply, hheld]
  | _ => rfl

theorem execute_bare (c : Command) :
    (c.execute { ctx with noun? := noun? } o p.bare).bare = (c.execute ctx o p).bare := by
  unfold execute
  dsimp only
  split_ifs
  · rfl
  · exact apply_bare ctx noun? o p c

end Command

/-- Passes over the action table do the same beside printing, whatever has been printed and whatever
noun was typed. -/
theorem Progress.lockstep_bare (ctx : Context) (noun? : Option String) :
    Lockstep ctx { ctx with noun? := noun? } fun p q => q.bare = p.bare where
  world_eq := rfl
  state_eq h := state_eq_of_bare h
  isHalted_eq h := isHalted_eq_of_bare h
  settle h := congrArg Progress.settle h
  tested _ h := h
  ran _ h := h
  executed {p q row c o} _ _ h := by
    have hp := Command.execute_bare ctx noun? o (p.note (.executed c o p.state.settled)) c
    have hq := Command.execute_bare { ctx with noun? := noun? } noun? o
      (q.note (.executed c o q.state.settled)) c
    rw [bare_note] at hp hq
    rw [← hp, ← hq, h]

/-! ## The rest of a turn -/

namespace Progress

theorem burn_bare (p : Progress) (settings : Settings) :
    (p.bare.burn settings).bare = (p.burn settings).bare := by
  by_cases hburns : p.state.burns settings.lamp = true
  · by_cases hout : p.state.light ≤ 0
    · cases hdestroy : settings.destroyLamp <;> simp [burn, lightRunsOut, hburns, hout, hdestroy]
    · by_cases hwarning : p.state.light - 1 ≤ settings.lightWarning <;>
        simp [burn, lightBurns, hburns, hout, hwarning]
  · simp [burn, hburns]

theorem flushLook_bare (p : Progress) (ctx : Context) :
    (p.bare.flushLook ctx).bare = (p.flushLook ctx).bare := by
  have hlook : p.bare.output.lookPending = p.output.lookPending := rfl
  unfold flushLook
  rw [hlook]
  split_ifs <;> rfl

end Progress

/-- The dice are the same, and so is what the rest of a turn can see. -/
def Pass.SameBare (a b : Pass) : Prop :=
  a.Agree (fun p q => q.bare = p.bare) b

namespace Session

variable {s : Session} {a b : Pass}

theorem sameBare_flushLook (h : a.SameBare b) (ctx : Context) :
    (a.flushLook ctx).SameBare (b.flushLook ctx) := by
  refine ⟨h.1, ?_⟩
  dsimp only [Pass.flushLook]
  rw [← Progress.flushLook_bare, h.2, Progress.flushLook_bare]

theorem sameBare_worldPhase (h : a.SameBare b) : (s.worldPhase a).SameBare (s.worldPhase b) := by
  have hburnt : (b.progress.burn s.settings).bare = (a.progress.burn s.settings).bare := by
    rw [← Progress.burn_bare, h.2, Progress.burn_bare]
  have hpass := (Progress.lockstep_bare s.context none).automaticPass (fun h => h) .idle
    (a := { a with progress := a.progress.burn s.settings })
    (b := { b with progress := b.progress.burn s.settings }) ⟨h.1, hburnt⟩
  exact sameBare_flushLook hpass s.context

theorem finish_of_sameBare (h : a.SameBare b) : (s.finish b).1 = (s.finish a).1 := by
  have hlook := (sameBare_flushLook h s.context).2
  have hstate := Progress.state_eq_of_bare hlook
  have hhalted := congrArg (fun p => p.output.halted) hlook
  have hend : (s.finish b).1.halted = (s.finish a).1.halted :=
    congrArg (fun halted => Option.or halted s.halted) hhalted
  unfold finish at hend ⊢
  dsimp only [Pass.flushLook] at hstate hend ⊢
  rw [hstate, hend, h.1]

/-- What the rest of a turn can see of the player's part decides how the turn ends. -/
theorem play_of_sameBare {input input' : String}
    (h : (s.playerPhase input s.opening).SameBare (s.playerPhase input' s.opening)) :
    (s.play input').1 = (s.play input).1 := by
  have hlook := sameBare_flushLook h s.context
  unfold play
  dsimp only
  rw [Progress.isHalted_eq_of_bare hlook.2]
  split_ifs
  · exact finish_of_sameBare hlook
  · exact finish_of_sameBare (sameBare_worldPhase hlook)

end Session

/-! ## Orders that no row answers -/

/-- No row answers to the words. -/
def World.Silent (world : World) (verb noun : Nat) : Prop :=
  ∀ row ∈ world.rows, row.answers verb noun = false

instance (world : World) (verb noun : Nat) : Decidable (world.Silent verb noun) :=
  inferInstanceAs (Decidable (∀ row ∈ world.rows, row.answers verb noun = false))

section Silent

variable (ctx : Context) (verb noun : Nat) (p : Progress)

theorem scanPlayer_of_silent (sofar : Match) {rows : List NumberedRow}
    (h : ∀ row ∈ rows, row.1.answers verb noun = false) :
    scanPlayer ctx verb noun sofar rows p = (sofar, p) := by
  induction rows with
  | nil => rfl
  | cons row rest ih =>
    obtain ⟨hrow, hrest⟩ := List.forall_mem_cons.1 h
    simp [scanPlayer, hrow, ih hrest]

/-- A row that answers leaves a trace in the match, whether or not its conditions hold. -/
theorem silent_of_scanPlayer (sofar : Match) {rows : List NumberedRow}
    (h : (scanPlayer ctx verb noun sofar rows p).1 = .noMatch) :
    sofar = .noMatch ∧ ∀ row ∈ rows, row.1.answers verb noun = false := by
  induction rows generalizing sofar p with
  | nil => exact ⟨h, by simp⟩
  | cons row rest ih =>
    simp only [scanPlayer] at h
    split_ifs at h with hanswers
    · obtain ⟨hsofar, -⟩ := ih _ _ h
      cases hsofar
    · obtain ⟨hsofar, hrest⟩ := ih _ _ h
      exact ⟨hsofar, List.forall_mem_cons.2 ⟨by simpa using hanswers, hrest⟩⟩

/-- Where no row answers, the pass of the player changes nothing. -/
theorem playerPass_of_silent (h : ctx.world.Silent verb noun) :
    playerPass ctx verb noun .idle p = (.noMatch, .ofOutput p.output, p.settle) := by
  have hrows : ∀ row ∈ ctx.world.numberedRows, row.1.answers verb noun = false :=
    fun row hrow => h row.1 (World.mem_rows_of_mem_numberedRows hrow)
  simp only [playerPass, scanPlayer_of_silent ctx verb noun p .noMatch hrows]

/-- Without a match there is no row that answers. -/
theorem silent_of_playerPass (h : (playerPass ctx verb noun .idle p).1 = .noMatch) :
    ctx.world.Silent verb noun := by
  intro row hrow
  obtain ⟨n, hn⟩ := List.mem_iff_getElem?.1 hrow
  have hnumbered : (row, n) ∈ ctx.world.numberedRows := List.mk_mem_zipIdx_iff_getElem?.2 hn
  exact (silent_of_scanPlayer ctx verb noun p .noMatch h).2 (row, n) hnumbered

end Silent

/-! ## Items that are found -/

namespace State

variable {s : State} {here there : Nat} {item? item?' : Option Nat}

/-- Move the item that was found, if any. -/
def moveFound (s : State) (item? : Option Nat) (location : Nat) : State :=
  match item? with
  | some item => s.moveItem item location
  | none => s

/-- The item that was found can be read off the state after the move. -/
theorem mem_iff_of_moveFound (hne : here ≠ there)
    (hfound : ∀ item ∈ item?, s.location? item = some here) (item : Nat) :
    item ∈ item? ↔
      s.location? item = some here ∧ (s.moveFound item? there).location? item = some there := by
  constructor
  · intro hitem
    have hhere := hfound item hitem
    refine ⟨hhere, ?_⟩
    rw [Option.mem_def.1 hitem]
    exact location?_moveItem_same s there (List.getElem?_eq_some_iff.1 hhere).1
  · rintro ⟨hhere, hmoved⟩
    cases item? with
    | none => exact absurd (Option.some.inj (hhere.symm.trans hmoved)) hne
    | some found =>
      by_cases heq : item = found
      · rw [heq]
        rfl
      · rw [moveFound, location?_moveItem_of_ne s there heq, hhere] at hmoved
        exact absurd (Option.some.inj hmoved) hne

/-- Different items are moved to different effect. -/
theorem moveFound_injective (hne : here ≠ there)
    (hfound : ∀ item ∈ item?, s.location? item = some here)
    (hfound' : ∀ item ∈ item?', s.location? item = some here)
    (h : s.moveFound item?' there = s.moveFound item? there) : item?' = item? := by
  refine Option.ext fun item => ?_
  have hmem := mem_iff_of_moveFound hne hfound item
  have hmem' := mem_iff_of_moveFound hne hfound' item
  rw [h] at hmem'
  exact hmem'.trans hmem.symm

end State

namespace Builtin

/-- An item that is found is at the location where it was looked for. -/
theorem location?_of_findItem? {world : World} {s : State} {noun : String} {location item : Nat}
    (h : findItem? world s noun location = some item) : s.location? item = some location := by
  have hmatches := List.find?_some h
  simp only [Bool.and_eq_true, beq_iff_eq] at hmatches
  exact hmatches.1.2

variable (ctx : Context) (p : Progress) (noun : String)

/-- The built-in order picks up the item that it finds, unless the player holds too much. -/
theorem bare_get : (get ctx noun p).bare =
    if ctx.world.header.carryLimit ≤ p.state.carriedCount then p.bare
    else p.bare.mapState (·.moveFound (findItem? ctx.world p.state noun p.state.room) carried) := by
  unfold get
  cases findItem? ctx.world p.state noun p.state.room with
  | none => split_ifs <;> rfl
  | some item =>
    dsimp only
    split_ifs <;> rfl

/-- The built-in order puts down the item that it finds. -/
theorem bare_drop : (drop ctx noun p).bare =
    p.bare.mapState (·.moveFound (findItem? ctx.world p.state noun carried) p.state.room) := by
  unfold drop
  cases findItem? ctx.world p.state noun carried with
  | none => rfl
  | some item => rfl

end Builtin

/-! ## Turns -/

namespace Session

variable {s : Session} {verb noun : Nat} {word word' input input' : String}

/-- The built-in orders tell two nouns with the same number apart: the order is not a move, no row
answers to it, different items are found for the two nouns, and if the item is to be picked up, the
player can hold one more. -/
structure Separates (s : Session) (verb noun : Nat) (word word' : String) : Prop where
  not_move : Order.direction? ⟨verb, noun, some word⟩ s.settings = none
  silent : s.world.Silent verb noun
  found_ne : s.foundItem? verb word' s.state ≠ s.foundItem? verb word s.state
  free : verb = s.settings.getVerb → s.state.carriedCount < s.world.header.carryLimit

/-- Where no row answers, an order is dealt with in the state as it is. -/
theorem consult_of_silent {order : Order} (h : s.world.Silent order.verb order.noun)
    (input : String) (p : Progress) :
    s.consult order input p = s.unanswered order input p.settle := by
  simp only [consult, playerPass_of_silent (s.contextOf order) order.verb order.noun p h]

/-- An order to pick up or to put down moves the item that is found, unless it is to be picked up
and the player holds too much. -/
theorem bare_unanswered (p : Progress)
    (hitem : verb = s.settings.getVerb ∨ verb = s.settings.dropVerb) :
    (s.unanswered ⟨verb, noun, some word⟩ input p).bare =
      if verb = s.settings.getVerb ∧ s.world.header.carryLimit ≤ p.state.carriedCount then p.bare
      else p.bare.mapState (·.moveFound (s.foundItem? verb word p.state)
        (if verb = s.settings.getVerb then carried else p.state.room)) := by
  unfold unanswered foundItem?
  by_cases hget : verb = s.settings.getVerb
  · simp only [hget, if_true, true_and]
    exact Builtin.bare_get s.context p word
  · have hdrop : verb = s.settings.dropVerb := hitem.resolve_left hget
    simp only [hget, if_false, false_and, if_pos hdrop]
    exact Builtin.bare_drop s.context p word

/-- Any other order is answered by its first word. -/
theorem unanswered_eq_answer (p : Progress)
    (hitem : ¬(verb = s.settings.getVerb ∨ verb = s.settings.dropVerb)) :
    s.unanswered ⟨verb, noun, some word⟩ input p = Builtin.answer s.context input p := by
  obtain ⟨hget, hdrop⟩ := not_or.1 hitem
  simp only [unanswered, if_neg hget, if_neg hdrop]

/-- Lines that begin with the same word are answered in the same way. -/
theorem answer_congr (hfirst : (words input').head? = (words input).head?) (ctx : Context)
    (p : Progress) : Builtin.answer ctx input' p = Builtin.answer ctx input p := by
  unfold Builtin.answer
  rw [hfirst]

/-- The wish to be continued plays no part in finding an item. -/
theorem foundItem?_settled (st : State) :
    s.foundItem? verb word st.settled = s.foundItem? verb word st := rfl

/-- Nouns that are not told apart find the same item, where it matters. -/
theorem foundItem?_eq_of_not_separates (h : ¬s.Separates verb noun word word')
    (hmove : Order.direction? ⟨verb, noun, some word⟩ s.settings = none)
    (hsilent : s.world.Silent verb noun)
    (hfree : ¬(verb = s.settings.getVerb ∧ s.world.header.carryLimit ≤ s.state.carriedCount)) :
    s.foundItem? verb word' s.state = s.foundItem? verb word s.state := by
  by_contra hne
  exact h ⟨hmove, hsilent, hne, fun hget => Nat.lt_of_not_le fun hfull => hfree ⟨hget, hfull⟩⟩

/-- An order that no row answers is dealt with alike for two nouns that are not told apart. -/
theorem bare_consult_of_silent (hfirst : (words input').head? = (words input).head?)
    (hmove : Order.direction? ⟨verb, noun, some word⟩ s.settings = none)
    (hsilent : s.world.Silent verb noun) (h : ¬s.Separates verb noun word word') :
    (s.consult ⟨verb, noun, some word'⟩ input' s.opening.progress).bare =
      (s.consult ⟨verb, noun, some word⟩ input s.opening.progress).bare := by
  rw [consult_of_silent hsilent, consult_of_silent hsilent]
  by_cases hitem : verb = s.settings.getVerb ∨ verb = s.settings.dropVerb
  · have hstate : s.opening.progress.settle.state = s.state.settled := rfl
    have hfound := foundItem?_eq_of_not_separates h hmove hsilent
    rw [bare_unanswered _ hitem, bare_unanswered _ hitem, hstate, foundItem?_settled,
      foundItem?_settled]
    by_cases hfull : verb = s.settings.getVerb ∧
        s.world.header.carryLimit ≤ s.state.settled.carriedCount
    · rw [if_pos hfull, if_pos hfull]
    · rw [if_neg hfull, if_neg hfull, hfound hfull]
  · rw [unanswered_eq_answer _ hitem, unanswered_eq_answer _ hitem, answer_congr hfirst]

/-- An order that some row answers is dealt with alike for any two nouns. -/
theorem bare_consult_of_answers (hanswers : ¬s.world.Silent verb noun) (p : Progress) :
    (s.consult ⟨verb, noun, some word'⟩ input' p).bare =
      (s.consult ⟨verb, noun, some word⟩ input p).bare := by
  have hlockstep := Progress.lockstep_bare (s.contextOf ⟨verb, noun, some word⟩) (some word')
  have hpass := hlockstep.playerPass verb noun .idle (p := p) (q := p) rfl
  have hmatch : (playerPass (s.contextOf ⟨verb, noun, some word⟩) verb noun .idle p).1 ≠
      .noMatch := fun hnone => hanswers
    (silent_of_playerPass (s.contextOf ⟨verb, noun, some word⟩) verb noun p hnone)
  have hcontext : s.contextOf ⟨verb, noun, some word'⟩ =
      { s.contextOf ⟨verb, noun, some word⟩ with noun? := some word' } := rfl
  unfold consult
  dsimp only
  rw [hcontext]
  generalize playerPass (s.contextOf ⟨verb, noun, some word⟩) verb noun .idle p = done
    at hpass hmatch ⊢
  generalize playerPass { s.contextOf ⟨verb, noun, some word⟩ with noun? := some word' } verb noun
    .idle p = done' at hpass ⊢
  obtain ⟨found, phase, p'⟩ := done
  obtain ⟨found', phase', q'⟩ := done'
  obtain ⟨hfound, hbare⟩ := hpass
  dsimp only at hfound hbare hmatch ⊢
  subst hfound
  cases found' with
  | executed => exact hbare
  | conditionsFailed => exact hbare
  | noMatch => contradiction

/-- Orders with the same numbers are carried out alike, unless the built-in orders tell their nouns
apart. -/
theorem sameBare_obey (hfirst : (words input').head? = (words input).head?)
    (h : ¬s.Separates verb noun word word') :
    (s.obey ⟨verb, noun, some word⟩ input s.opening).SameBare
      (s.obey ⟨verb, noun, some word'⟩ input' s.opening) := by
  have hdirection : Order.direction? ⟨verb, noun, some word'⟩ s.settings =
      Order.direction? ⟨verb, noun, some word⟩ s.settings := rfl
  unfold obey
  rw [hdirection]
  cases hmove : Order.direction? ⟨verb, noun, some word⟩ s.settings with
  | some d => exact ⟨rfl, rfl⟩
  | none =>
    refine ⟨rfl, ?_⟩
    dsimp only
    by_cases hsilent : s.world.Silent verb noun
    · exact bare_consult_of_silent hfirst hmove hsilent h
    · exact bare_consult_of_answers hsilent s.opening.progress

/-- An item that is found to be picked up is in the player's room, and one that is found to be put
down is with the player. -/
theorem location?_of_foundItem? {st : State} {item : Nat}
    (h : s.foundItem? verb word st = some item) :
    st.location? item = some (if verb = s.settings.getVerb then st.room else carried) := by
  unfold foundItem? at h
  split_ifs at h ⊢
  · exact Builtin.location?_of_findItem? h
  · exact Builtin.location?_of_findItem? h

/-- An order that no row answers moves the item that is found. -/
theorem state_obey_of_silent (hmove : Order.direction? ⟨verb, noun, some word⟩ s.settings = none)
    (hsilent : s.world.Silent verb noun)
    (hitem : verb = s.settings.getVerb ∨ verb = s.settings.dropVerb)
    (hfree : ¬(verb = s.settings.getVerb ∧ s.world.header.carryLimit ≤ s.state.carriedCount)) :
    (s.obey ⟨verb, noun, some word⟩ input s.opening).progress.state =
      s.state.settled.moveFound (s.foundItem? verb word s.state.settled)
        (if verb = s.settings.getVerb then carried else s.state.settled.room) := by
  have hunfilled : ¬(verb = s.settings.getVerb ∧
      s.world.header.carryLimit ≤ s.opening.progress.settle.state.carriedCount) := hfree
  have hbare : (s.unanswered ⟨verb, noun, some word⟩ input s.opening.progress.settle).bare = _ :=
    bare_unanswered _ hitem
  rw [if_neg hunfilled] at hbare
  unfold obey
  rw [hmove]
  dsimp only
  rw [consult_of_silent hsilent]
  exact congrArg Progress.state hbare

/-- Orders whose nouns the built-in orders tell apart leave different states. -/
theorem state_obey_ne (hroom : s.state.room ≠ carried) (h : s.Separates verb noun word word') :
    (s.obey ⟨verb, noun, some word'⟩ input' s.opening).progress.state ≠
      (s.obey ⟨verb, noun, some word⟩ input s.opening).progress.state := by
  have hitem : verb = s.settings.getVerb ∨ verb = s.settings.dropVerb := by
    by_contra hneither
    obtain ⟨hget, hdrop⟩ := not_or.1 hneither
    exact h.found_ne (by simp only [foundItem?, if_neg hget, if_neg hdrop])
  have hfree : ¬(verb = s.settings.getVerb ∧
      s.world.header.carryLimit ≤ s.state.carriedCount) :=
    fun hfull => absurd hfull.2 (Nat.not_le_of_lt (h.free hfull.1))
  have hplaces : (if verb = s.settings.getVerb then s.state.settled.room else carried) ≠
      if verb = s.settings.getVerb then carried else s.state.settled.room := by
    split_ifs
    · exact hroom
    · exact hroom.symm
  have hmove' : Order.direction? ⟨verb, noun, some word'⟩ s.settings = none := h.not_move
  rw [state_obey_of_silent h.not_move h.silent hitem hfree,
    state_obey_of_silent hmove' h.silent hitem hfree]
  intro hsame
  exact h.found_ne (State.moveFound_injective hplaces
    (fun _ hfound => location?_of_foundItem? hfound)
    (fun _ hfound => location?_of_foundItem? hfound) hsame)

/-- The order of two words, the second of which the dictionary knows. -/
theorem ofLine?_of_words {world : World} (settings : Settings) {verbWord : String} {k : Nat}
    (hwords : words input = [verbWord, word]) (hnoun : world.dictionary.noun? word = some k) :
    Order.ofLine? world settings input =
      (world.dictionary.verb? verbWord).map fun verb => ⟨verb, k, some word⟩ := by
  have hupper : world.dictionary.noun? (upper word) = some k :=
    (Dictionary.lookup_upper world.dictionary .noun word).trans hnoun
  simp only [Order.ofLine?, hwords, Order.ofPair?, Order.nounOf, hupper]

/-- Two lines have the same first word, and a second word with the same number.  If the built-in
orders do not tell the nouns apart, the session is the same after either line: in its state, its
dice and its mark of whether the game has stopped.  This condition cannot be weakened.  The player's
part of the turn leaves the same state exactly when the built-in orders do not tell the nouns
apart. -/
theorem state_turn_of_synonyms {text : String} {world : World} (hread : World.read text = .ok world)
    {s : Session} (hs : s.Sound world) {verbWord : String} {k : Nat}
    (hwords : words input = [verbWord, word]) (hwords' : words input' = [verbWord, word'])
    (hnoun : world.dictionary.noun? word = some k)
    (hnoun' : world.dictionary.noun? word' = some k) :
    let apart := ∃ verb, world.dictionary.verb? verbWord = some verb ∧ s.Separates verb k word word'
    (¬apart → (s.turn input').1 = (s.turn input).1) ∧
      ((s.playerPhase input' s.opening).progress.state =
        (s.playerPhase input s.opening).progress.state ↔ ¬apart) := by
  obtain ⟨rfl, hfits, -⟩ := hs
  intro apart
  have hfirst : (words input').head? = (words input).head? := by rw [hwords, hwords']; rfl
  have horder := ofLine?_of_words s.settings hwords hnoun
  have horder' := ofLine?_of_words s.settings hwords' hnoun'
  have hroom : s.state.room ≠ carried := by
    have hle := hfits.room_le
    have hlast := (World.wellFormed_of_read hread).lastRoom_le
    simp only [Header.roomLimit, carried] at hlast ⊢
    omega
  have hsame : ¬apart → (s.playerPhase input s.opening).SameBare
      (s.playerPhase input' s.opening) := by
    intro htogether
    unfold playerPhase
    rw [horder, horder']
    cases hverb : s.world.dictionary.verb? verbWord with
    | none =>
      refine ⟨rfl, ?_⟩
      dsimp only [Option.map_none]
      rw [answer_congr hfirst]
    | some verb => exact sameBare_obey hfirst fun h => htogether ⟨verb, hverb, h⟩
  refine ⟨fun htogether => ?_, fun hstate => ?_, fun htogether => ?_⟩
  · cases hhalted : s.halted with
    | some reason => rw [turn_of_halted hhalted, turn_of_halted hhalted]
    | none =>
      rw [turn_of_not_halted hhalted, turn_of_not_halted hhalted]
      exact play_of_sameBare (hsame htogether)
  · rintro ⟨verb, hverb, h⟩
    unfold playerPhase at hstate
    rw [horder, horder', hverb] at hstate
    exact state_obey_ne hroom h hstate
  · exact Progress.state_eq_of_bare (hsame htogether).2

/-- A world of one row and a jar of jam, as data.  Jelly is another word for jam. -/
def pantryText : String :=
  "0 1 0 2 1 5 1 0 3 10 0 0 0 0 0 0 0 0 0 0
\"AUT\" \"ANY\" \"GO\" \"JAM\" \"GET\" \"*JEL\" 0 0 0 0 0 0 \"\" 0 0 0 0 0 0 \"larder\" \"\"
\"\" 0 \"a jar of jam/JAM/\" 1 \"\" 1 2 2"

/-- The world that this data describes. -/
def pantry : World :=
  { World.larder with
    header := { World.larder.header with lastRow := 0, lastWord := 2, lastMessage := 0 }
    rows := [⟨0, .replicate 5 0, .replicate 2 0⟩]
    words := [⟨"AUT", false, .verb, 0⟩, ⟨"ANY", false, .noun, 0⟩, ⟨"GO", false, .verb, 1⟩,
      ⟨"JAM", false, .noun, 1⟩, ⟨"GET", false, .verb, 2⟩, ⟨"JEL", true, .noun, 2⟩]
    messages := [""]
    items := [⟨"", none, 0⟩, ⟨"a jar of jam", some "JAM", 1⟩]
    titles := [""] }

theorem read_pantry : World.read pantryText = .ok pantry := by
  decide +kernel

/-- In this world the jar is found as jam, and not as jelly: the player's part of the turn leaves
different states.  Once the player has the jar, it is found as neither, and the turns are the
same. -/
theorem state_turn_of_synonyms_pantry :
    let s := new pantry { getVerb := 2 } (Dice.ofSeed 0)
    let t := (s.turn "get jam").1
    (pantry.dictionary.noun? "jam" = some 1 ∧ pantry.dictionary.noun? "jelly" = some 1) ∧
      (s.playerPhase "get jelly" s.opening).progress.state ≠
        (s.playerPhase "get jam" s.opening).progress.state ∧
      (t.turn "get jelly").1 = (t.turn "get jam").1 := by
  intro s t
  have hworld := World.wellFormed_of_read read_pantry
  have hs : s.Sound pantry := sound_new hworld { getVerb := 2 } (Dice.ofSeed 0)
  have hjam : pantry.dictionary.noun? "jam" = some 1 := by decide +kernel
  have hjelly : pantry.dictionary.noun? "jelly" = some 1 := by decide +kernel
  have hget : pantry.dictionary.verb? "get" = some 2 := by decide +kernel
  have hwords : words "get jam" = ["get", "jam"] := by decide +kernel
  have hwords' : words "get jelly" = ["get", "jelly"] := by decide +kernel
  refine ⟨⟨hjam, hjelly⟩, ?_, ?_⟩
  · obtain ⟨-, hiff⟩ := state_turn_of_synonyms read_pantry hs hwords hwords' hjam hjelly
    have hfound : s.foundItem? 2 "jelly" s.state ≠ s.foundItem? 2 "jam" s.state := by
      decide +kernel
    have hapart : s.Separates 2 1 "jam" "jelly" :=
      ⟨rfl, by decide +kernel, hfound, fun _ => by decide +kernel⟩
    exact fun hsame => hiff.1 hsame ⟨2, hget, hapart⟩
  · have ht : t.Sound pantry := hs.move hworld (.turn "get jam")
    have hfound : t.foundItem? 2 "jelly" t.state = t.foundItem? 2 "jam" t.state := by
      decide +kernel
    have htogether : ¬∃ verb, pantry.dictionary.verb? "get" = some verb ∧
        t.Separates verb 1 "jam" "jelly" := by
      rintro ⟨verb, hverb, hapart⟩
      obtain rfl := Option.some.inj (hverb.symm.trans hget)
      exact hapart.found_ne hfound
    exact (state_turn_of_synonyms read_pantry ht hwords hwords' hjam hjelly).1 htogether

/-- Not all nouns with the same number are interchangeable.  In a small world that has been read,
the player asks for jam and has the jar, and asks for jelly and does not. -/
theorem not_interchangeable :
    ¬∀ text world, World.read text = .ok world →
      ∀ s : Session, s.world = world → s.halted = none →
        ∀ verbWord word word' k, world.dictionary.noun? word = some k →
          world.dictionary.noun? word' = some k →
            (s.turn (verbWord ++ " " ++ word')).1.state =
              (s.turn (verbWord ++ " " ++ word)).1.state := by
  intro h
  let s := new pantry { getVerb := 2 } (Dice.ofSeed 0)
  have hsame : (s.turn "get jelly").1.state = (s.turn "get jam").1.state :=
    h pantryText pantry read_pantry s rfl rfl "get" "jam" "jelly" 1 (by decide +kernel)
      (by decide +kernel)
  have hjar : ¬(s.turn "get jelly").1.state = (s.turn "get jam").1.state := by decide +kernel
  exact hjar hsame

end Session

end TextAdventure

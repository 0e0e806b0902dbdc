import Mathlib.Data.List.Forall2
import TextAdventure.Proofs.EchoedNouns
import TextAdventure.Proofs.RowReferences

/-!
# Letter case and spacing

The player's line is split into words, and everything that looks at a word looks at it in uppercase:
the directions, the dictionary, the words that items answer to, and the orders that are answered
without a row.  Two lines whose words agree in uppercase therefore give the same order, except for
the noun as it was typed, and the noun as typed is only ever echoed or compared in uppercase.

Main results:

- Theorem `Order.ofLine?_rel`: such lines give the same order, apart from the noun as typed.
- Theorem `Session.alike_turn_of_upper`: they make the same turn, apart from the echoed noun.
-/

namespace TextAdventure

open Text

/-- Two words are the same in uppercase. -/
def SameUpper (word word' : String) : Prop :=
  upper word' = upper word

/-! ## Words -/

variable {word word' : String}

/-- Words that are the same in uppercase are resolved to the same number. -/
theorem Dictionary.lookup_congr (h : SameUpper word word') (d : Dictionary) (kind : WordKind) :
    d.lookup kind word' = d.lookup kind word := by
  unfold lookup
  rw [h]

/-- Nouns that are the same in uppercase name the same item. -/
theorem Builtin.findItem?_congr (h : SameUpper word word') (world : World) (s : State)
    (location : Nat) : findItem? world s word' location = findItem? world s word location := by
  unfold findItem?
  rw [h]

theorem Session.foundItem?_congr (h : SameUpper word word') (s : Session) (verb : Nat)
    (st : State) : s.foundItem? verb word' st = s.foundItem? verb word st := by
  unfold foundItem?
  rw [Builtin.findItem?_congr h, Builtin.findItem?_congr h]

/-- What is the same in uppercase word by word has the same first word in uppercase. -/
theorem sameUpper_head? {ws ws' : List String} (h : List.Forall₂ SameUpper ws ws') :
    SameUpper (ws.head?.getD "") (ws'.head?.getD "") := by
  cases h with
  | nil => rfl
  | cons hfirst _ => exact hfirst

/-! ## Orders -/

namespace Order

/-- Two orders have the same numbers, and their nouns as typed are the same in uppercase. -/
structure SameButCase (order order' : Order) : Prop where
  verb_eq : order'.verb = order.verb
  noun_eq : order'.noun = order.noun
  typed : Option.Rel SameUpper order.noun? order'.noun?

namespace SameButCase

variable {order order' : Order}

/-- The nouns to be echoed are the same in uppercase; without a noun nothing is echoed. -/
theorem echoed (h : order.SameButCase order') :
    SameUpper (order.noun?.getD "") (order'.noun?.getD "") := by
  have htyped := h.typed
  generalize order.noun? = noun? at htyped ⊢
  generalize order'.noun? = noun?' at htyped ⊢
  cases htyped with
  | some hnoun => exact hnoun
  | none => rfl

/-- The built-in orders find the same item. -/
theorem foundItem?_eq (h : order.SameButCase order') (s : Session) (st : State) :
    Option.Rel (fun noun noun' =>
      s.foundItem? order.verb noun' st = s.foundItem? order.verb noun st)
      order.noun? order'.noun? := by
  have htyped := h.typed
  generalize order.noun? = noun? at htyped ⊢
  generalize order'.noun? = noun?' at htyped ⊢
  cases htyped with
  | some hnoun => exact .some (Session.foundItem?_congr hnoun s order.verb st)
  | none => exact .none

end SameButCase

variable (world : World) (settings : Settings)

theorem ofWord?_rel (h : SameUpper word word') :
    Option.Rel SameButCase (ofWord? world settings word) (ofWord? world settings word') := by
  have hverb : world.dictionary.verb? word' = world.dictionary.verb? word :=
    Dictionary.lookup_congr h _ .verb
  unfold ofWord?
  rw [h, hverb]
  split
  · exact .some ⟨rfl, rfl, .some h⟩
  · cases world.dictionary.verb? word with
    | some verb => exact .some ⟨rfl, rfl, .none⟩
    | none => exact .none

theorem ofPair?_rel {noun noun' : String} (h : SameUpper word word')
    (hnoun : SameUpper noun noun') :
    Option.Rel SameButCase (ofPair? world settings word noun)
      (ofPair? world settings word' noun') := by
  have hverb : world.dictionary.verb? word' = world.dictionary.verb? word :=
    Dictionary.lookup_congr h _ .verb
  unfold ofPair? nounOf
  rw [hnoun, hverb]
  cases world.dictionary.verb? word with
  | some verb => exact .some ⟨rfl, rfl, .some hnoun⟩
  | none => exact .none

/-- Lines whose words are the same in uppercase give the same order, apart from the noun as it was
typed. -/
theorem ofLine?_rel {input input' : String}
    (h : List.Forall₂ SameUpper (words input) (words input')) :
    Option.Rel SameButCase (ofLine? world settings input) (ofLine? world settings input') := by
  unfold ofLine?
  generalize words input = ws at h ⊢
  generalize words input' = ws' at h ⊢
  cases h with
  | nil => exact .none
  | cons hfirst hrest =>
    cases hrest with
    | nil => exact ofWord?_rel world settings hfirst
    | cons hsecond hmore =>
      cases hmore with
      | nil => exact ofPair?_rel world settings hfirst hsecond
      | cons _ _ => exact .none

end Order

/-! ## Turns -/

namespace Session

/-- The player's part of a turn ends alike for lines whose words are the same in uppercase. -/
theorem alike_playerPhase (s : Session) {input input' : String}
    (h : List.Forall₂ SameUpper (words input) (words input')) :
    (s.playerPhase input s.opening).Agree (Progress.Alike SameUpper)
      (s.playerPhase input' s.opening) := by
  have hopening : s.opening.Agree (Progress.Alike SameUpper) s.opening :=
    ⟨rfl, rfl, rfl, rfl, rfl, .nil⟩
  have hfirst := sameUpper_head? h
  have horder := Order.ofLine?_rel s.world s.settings h
  unfold playerPhase
  generalize Order.ofLine? s.world s.settings input = order? at horder ⊢
  generalize Order.ofLine? s.world s.settings input' = order?' at horder ⊢
  cases horder with
  | none =>
    refine ⟨rfl, ?_⟩
    dsimp only
    exact Builtin.alike_answer s.context hfirst hopening.2
  | some horder =>
    refine alike_obey horder.verb_eq horder.noun_eq horder.echoed hopening ?_
    intro _ p' q' _ halike
    exact alike_unanswered horder.verb_eq (horder.foundItem?_eq s p'.state) hfirst halike

/-- Two lines whose words are the same in uppercase make the same turn: the session is the same
afterwards, with its state, its dice and its mark of whether the game has stopped, and the turn
takes the same steps and prints the same events, except where a command has echoed the noun as it
was typed. -/
theorem alike_turn_of_upper (s : Session) {input input' : String}
    (h : (words input').map upper = (words input).map upper) :
    (s.turn input').1 = (s.turn input).1 ∧
      (s.turn input).2.Alike SameUpper (s.turn input').2 := by
  have hwords : List.Forall₂ SameUpper (words input) (words input') := by
    rw [← List.forall₂_eq_eq_eq, List.forall₂_map_left_iff, List.forall₂_map_right_iff] at h
    exact h.flip
  cases hhalted : s.halted with
  | some reason =>
    rw [turn_of_halted hhalted, turn_of_halted hhalted]
    exact ⟨rfl, rfl, rfl, rfl, .nil⟩
  | none =>
    rw [turn_of_not_halted hhalted, turn_of_not_halted hhalted]
    have hempty : SameUpper "" "" := rfl
    exact alike_play hempty (s.alike_playerPhase hwords)

/-- A world whose only row echoes the noun twice. -/
def parrot : World :=
  { World.larder with
    rows := [⟨150, .replicate 5 0, #v[12685, 0]⟩]
    words := [⟨"AUT", false, .verb, 0⟩, ⟨"ANY", false, .noun, 0⟩, ⟨"SAY", false, .verb, 1⟩,
      ⟨"JAM", false, .noun, 1⟩] }

/-- In this world the same word is said twice, in different letters; each turn echoes it as
typed. -/
theorem alike_turn_of_upper_parrot :
    let s := new parrot {} (Dice.ofSeed 0)
    ((words " SAY  hELLO").map upper = (words "say Hello").map upper ∧
      (s.turn "say Hello").2.events = [.text "Hello", .line "Hello"] ∧
      (s.turn " SAY  hELLO").2.events = [.text "hELLO", .line "hELLO"]) ∧
    (s.turn " SAY  hELLO").1 = (s.turn "say Hello").1 ∧
      (s.turn "say Hello").2.Alike SameUpper (s.turn " SAY  hELLO").2 := by
  intro s
  have hsame : (words " SAY  hELLO").map upper = (words "say Hello").map upper := by
    decide +kernel
  exact ⟨⟨hsame, by decide +kernel, by decide +kernel⟩, alike_turn_of_upper s hsame⟩

end Session

end TextAdventure

import TextAdventure.Game.Session
import TextAdventure.Proofs.Lockstep

/-!
# Nouns that are echoed

The rows that answer to an order can read the noun as it was typed, but all that they do with it is
print it.  So two turns whose orders have the same numbers and differ in the typed noun change the
state in the same way, draw the same percentages and print the same events, apart from the nouns
that the two commands that say the noun have printed.  The one place where a typed noun is looked at
is a built-in order that no row answers to.

Main results:

- Inductive `Echoing` and structure `Output.Alike`: outputs that differ in echoed nouns alone.
- Theorem `Command.alike_executed`: commands keep outputs alike.
- Theorem `Session.alike_consult`: so does an order that is matched against the action table.
- Theorem `Session.alike_play`: a turn ends alike when its player's part does.
-/

namespace TextAdventure

/-! ## Outputs that differ in echoed nouns -/

/-- The event with which a command prints the noun as typed. -/
def Command.echo? : Command → Option (String → Event)
  | sayNoun => some .text
  | sayNounLine => some .line
  | _ => none

/-- The command that was executed in a step, if it prints the noun as typed. -/
def Entry.echo? : Entry → Option Command
  | executed c _ _ => if c.echo?.isSome then some c else none
  | _ => none

/-- The commands executed so far that print the noun as typed, in order. -/
def Output.echoes (out : Output) : List Command :=
  out.journal.filterMap Entry.echo?

/-- Two lists of events agree event by event, except where the commands that are listed have printed
a noun, one after the other; there the events print two nouns that are related. -/
inductive Echoing (S : String → String → Prop) : List Command → List Event → List Event → Prop where
  | nil : Echoing S [] [] []
  | same {cs events events'} (event : Event) (h : Echoing S cs events events') :
      Echoing S cs (events ++ [event]) (events' ++ [event])
  | echo {cs events events' c say noun noun'} (hsay : Command.echo? c = some say)
      (hnoun : S noun noun') (h : Echoing S cs events events') :
      Echoing S (cs ++ [c]) (events ++ [say noun]) (events' ++ [say noun'])

/-- Two outputs record the same steps and differ only in the nouns that these steps have echoed. -/
structure Output.Alike (S : String → String → Prop) (out out' : Output) : Prop where
  halted_eq : out'.halted = out.halted
  lookPending_eq : out'.lookPending = out.lookPending
  journal_eq : out'.journal = out.journal
  events : Echoing S out.echoes out.events out'.events

variable {S : String → String → Prop}

/-- The same events follow on either side. -/
theorem Echoing.append {cs : List Command} {events events' : List Event}
    (h : Echoing S cs events events') (more : List Event) :
    Echoing S cs (events ++ more) (events' ++ more) := by
  induction more generalizing events events' with
  | nil => simpa using h
  | cons event more ih => simpa using ih (h.same event)

namespace Output.Alike

variable {out out' : Output}

theorem lines (h : out.Alike S out') (texts : List String) :
    (out.lines texts).Alike S (out'.lines texts) :=
  ⟨h.halted_eq, h.lookPending_eq, h.journal_eq, h.events.append _⟩

theorem emit (h : out.Alike S out') (event : Event) :
    (out.emit event).Alike S (out'.emit event) :=
  ⟨h.halted_eq, h.lookPending_eq, h.journal_eq, h.events.same event⟩

theorem look (h : out.Alike S out') : out.look.Alike S out'.look :=
  ⟨h.halted_eq, rfl, h.journal_eq, h.events⟩

theorem halt (h : out.Alike S out') (reason : Halt) :
    (out.halt reason).Alike S (out'.halt reason) :=
  ⟨rfl, h.lookPending_eq, h.journal_eq, h.events⟩

/-- A step that echoes nothing is recorded on either side. -/
theorem note (h : out.Alike S out') {entry : Entry} (hentry : entry.echo? = none) :
    (out.note entry).Alike S (out'.note entry) := by
  refine ⟨h.halted_eq, h.lookPending_eq, congrArg (· ++ [entry]) h.journal_eq, ?_⟩
  have hechoes : (out.note entry).echoes = out.echoes := by simp [echoes, hentry]
  rw [hechoes]
  exact h.events

/-- A command that prints the noun as typed is recorded and prints two related nouns. -/
theorem echo (h : out.Alike S out') {c : Command} {say : String → Event} (hsay : c.echo? = some say)
    (o : Operands) (s : State) {noun noun' : String} (hnoun : S noun noun') :
    ((out.note (.executed c o s)).emit (say noun)).Alike S
      ((out'.note (.executed c o s)).emit (say noun')) := by
  refine ⟨h.halted_eq, h.lookPending_eq, congrArg (· ++ [_]) h.journal_eq, ?_⟩
  have hechoes : ((out.note (.executed c o s)).emit (say noun)).echoes = out.echoes ++ [c] := by
    simp [echoes, Output.emit, Entry.echo?, hsay]
  rw [hechoes]
  exact h.events.echo hsay hnoun

end Output.Alike

/-! ## Progress that differs in echoed nouns -/

/-- The states are the same, and the outputs differ in echoed nouns alone. -/
structure Progress.Alike (S : String → String → Prop) (p q : Progress) : Prop where
  state_eq : q.state = p.state
  output : p.output.Alike S q.output

namespace Progress.Alike

variable {p q : Progress}

theorem isHalted_eq (h : p.Alike S q) : q.isHalted = p.isHalted :=
  congrArg Option.isSome h.output.halted_eq

theorem mapState (h : p.Alike S q) (f : State → State) : (p.mapState f).Alike S (q.mapState f) :=
  ⟨congrArg f h.state_eq, h.output⟩

theorem line (h : p.Alike S q) (text : String) : (p.line text).Alike S (q.line text) :=
  ⟨h.state_eq, h.output.emit _⟩

theorem lines (h : p.Alike S q) (texts : List String) : (p.lines texts).Alike S (q.lines texts) :=
  ⟨h.state_eq, h.output.lines texts⟩

theorem emit (h : p.Alike S q) (event : Event) : (p.emit event).Alike S (q.emit event) :=
  ⟨h.state_eq, h.output.emit event⟩

theorem look (h : p.Alike S q) : (p.mapOutput Output.look).Alike S (q.mapOutput Output.look) :=
  ⟨h.state_eq, h.output.look⟩

theorem goTo (h : p.Alike S q) (room : Nat) : (p.goTo room).Alike S (q.goTo room) :=
  ⟨congrArg (fun s => { s with room := room }) h.state_eq, h.output.look⟩

theorem note (h : p.Alike S q) (entry : Entry) (hentry : entry.echo? = none) :
    (p.note entry).Alike S (q.note entry) :=
  ⟨h.state_eq, h.output.note hentry⟩

theorem settle (h : p.Alike S q) : p.settle.Alike S q.settle :=
  h.mapState State.settled

end Progress.Alike

/-! ## Commands -/

namespace Command

variable {ctx : Context} {noun? : Option String} {p q : Progress}

/-- A command that does not print the noun has the same effect whatever the noun is. -/
theorem alike_apply {c : Command} (hc : c.echo? = none) (o : Operands) (h : p.Alike S q) :
    (c.apply ctx o p).Alike S (c.apply { ctx with noun? := noun? } o q) := by
  obtain ⟨st, out⟩ := p
  obtain ⟨st', out'⟩ := q
  obtain rfl : st' = st := h.state_eq
  cases c with
  | sayNoun | sayNounLine => cases hc
  | nothing | unknown => exact h
  | message n =>
    simp only [apply]
    split
    · exact h.line _
    · exact h
  | get =>
    simp only [apply]
    split_ifs
    · exact h
    · exact h.line _
    · exact h.mapState _
  | drop =>
    simp only [apply]
    split_ifs
    · exact h.mapState _
    · exact h.line _
  | goTo => exact h.goTo _
  | die => exact ((h.line _).mapState _).goTo _
  | finish => exact ⟨rfl, (h.output.emit _).halt _⟩
  | showRoom => exact h.look
  | score | inventory => exact h.lines _
  | clearScreen | save | delay => exact h.emit _
  | showCounter | newLine => exact h.line _
  | swapRoomZero | swapRoom => exact (h.mapState _).look
  | destroy | night | day | setFlag | clearFlag | moveItem | setFlagZero | clearFlagZero | fill
  | swapItems | chain | take | putWith | decrementCounter | setCounter | swapCounter | addCounter
  | subtractCounter =>
    simp only [apply]
    exact h.mapState _

theorem alike_execute {c : Command} (hc : c.echo? = none) (o : Operands) (h : p.Alike S q) :
    (c.execute ctx o p).Alike S (c.execute { ctx with noun? := noun? } o q) := by
  unfold execute
  dsimp only
  split_ifs
  · exact h
  · exact alike_apply hc o h

/-- A command that prints the noun names nothing, so that it is never skipped. -/
theorem execute_of_echo {c : Command} {say : String → Event} (hsay : c.echo? = some say)
    (ctx : Context) (o : Operands) (p : Progress) :
    c.execute ctx o p = p.emit (say (ctx.noun?.getD "")) := by
  cases c with
  | sayNoun | sayNounLine =>
    cases hsay
    rfl
  | _ => cases hsay

/-- Commands that are recorded and executed keep outputs alike. -/
theorem alike_executed (hnoun : S (ctx.noun?.getD "") (noun?.getD "")) (c : Command) (o : Operands)
    (h : p.Alike S q) :
    (c.execute ctx o (p.note (.executed c o p.state.settled))).Alike S
      (c.execute { ctx with noun? := noun? } o (q.note (.executed c o q.state.settled))) := by
  rw [h.state_eq]
  cases hecho : c.echo? with
  | none => exact alike_execute hecho o (h.note _ (by simp [Entry.echo?, hecho]))
  | some say =>
    rw [execute_of_echo hecho, execute_of_echo hecho]
    exact ⟨h.state_eq, h.output.echo hecho o _ hnoun⟩

end Command

/-- Passes over the action table keep outputs alike. -/
theorem Progress.lockstep_alike {ctx : Context} {noun? : Option String}
    (hnoun : S (ctx.noun?.getD "") (noun?.getD "")) :
    Lockstep ctx { ctx with noun? := noun? } (Progress.Alike S) where
  world_eq := rfl
  state_eq := Alike.state_eq
  isHalted_eq := Alike.isHalted_eq
  settle := Alike.settle
  tested := fun _ h => by
    unfold noteTested
    rw [h.state_eq]
    exact h.note _ rfl
  ran := fun _ h => by
    rw [h.state_eq]
    exact h.note _ rfl
  executed := fun _ _ h => Command.alike_executed hnoun _ _ h

/-! ## Built-in orders, light and looks -/

namespace Builtin

variable (ctx : Context) {p q : Progress}

/-- Lines whose first words agree in uppercase are answered alike. -/
theorem alike_answer {input input' : String}
    (hfirst : Text.upper ((Text.words input').head?.getD "") =
      Text.upper ((Text.words input).head?.getD "")) (h : p.Alike S q) :
    (answer ctx input p).Alike S (answer ctx input' q) := by
  unfold answer
  dsimp only
  rw [hfirst, h.state_eq]
  split_ifs
  · exact h.lines _
  · exact h.look
  · exact h.lines _
  · exact h.line _

/-- Nouns for which the same item is found are picked up alike. -/
theorem alike_get {noun noun' : String}
    (hfound : findItem? ctx.world p.state noun' p.state.room =
      findItem? ctx.world p.state noun p.state.room) (h : p.Alike S q) :
    (get ctx noun p).Alike S (get ctx noun' q) := by
  unfold get
  rw [h.state_eq, hfound]
  split
  · exact h.line _
  · split_ifs
    · exact h.line _
    · exact (h.mapState _).line _

/-- Nouns for which the same item is found are put down alike. -/
theorem alike_drop {noun noun' : String}
    (hfound : findItem? ctx.world p.state noun' carried =
      findItem? ctx.world p.state noun carried) (h : p.Alike S q) :
    (drop ctx noun p).Alike S (drop ctx noun' q) := by
  unfold drop
  rw [h.state_eq, hfound]
  split
  · exact h.line _
  · exact (h.mapState _).line _

theorem alike_walk (d : Direction) (h : p.Alike S q) : (walk ctx d p).Alike S (walk ctx d q) := by
  unfold walk
  rw [h.state_eq]
  split
  · exact h.line _
  · exact h.line _
  · exact h.goTo _

/-- Moves draw the same percentage and end alike. -/
theorem alike_go (d : Direction) {a b : Pass} (h : a.Agree (Progress.Alike S) b) :
    (go ctx d a).Agree (Progress.Alike S) (go ctx d b) := by
  obtain ⟨hdice, h⟩ := h
  have hdrawn := h.note (.drew a.dice.percent.1) rfl
  unfold go
  dsimp only
  rw [h.state_eq, hdice]
  split_ifs
  · exact ⟨rfl, (hdrawn.line _).goTo _⟩
  · exact ⟨rfl, alike_walk ctx d hdrawn⟩
  · exact ⟨rfl, alike_walk ctx d h⟩

end Builtin

namespace Progress.Alike

variable {p q : Progress}

theorem lightRunsOut (h : p.Alike S q) (settings : Settings) :
    (p.lightRunsOut settings).Alike S (q.lightRunsOut settings) := by
  unfold Progress.lightRunsOut
  dsimp only
  split_ifs
  · exact ((h.mapState _).line _).mapState _
  · exact (h.mapState _).line _

theorem lightBurns (h : p.Alike S q) (settings : Settings) :
    (p.lightBurns settings).Alike S (q.lightBurns settings) := by
  unfold Progress.lightBurns
  dsimp only
  rw [h.state_eq]
  split_ifs
  · exact (h.mapState _).line _
  · exact h.mapState _

theorem burn (h : p.Alike S q) (settings : Settings) :
    (p.burn settings).Alike S (q.burn settings) := by
  unfold Progress.burn
  rw [h.state_eq]
  split_ifs
  · exact h.lightRunsOut settings
  · exact (h.note _ rfl).lightBurns settings
  · exact h

theorem flushLook (h : p.Alike S q) (ctx : Context) :
    (p.flushLook ctx).Alike S (q.flushLook ctx) := by
  unfold Progress.flushLook
  dsimp only
  rw [h.state_eq, h.output.lookPending_eq]
  split_ifs
  · have hlooked := h.note (.looked p.state.settled) rfl
    have hdone : ((p.note (.looked p.state.settled)).mapOutput
        fun out => { out with lookPending := false }).Alike S
          ((q.note (.looked p.state.settled)).mapOutput
            fun out => { out with lookPending := false }) :=
      ⟨h.state_eq, hlooked.output.halted_eq, rfl, hlooked.output.journal_eq, hlooked.output.events⟩
    simp only [state_note, h.state_eq]
    exact hdone.lines _
  · exact h

end Progress.Alike

/-! ## Turns -/

namespace Session

variable {s : Session} {p q : Progress} {a b : Pass}

/-- The item that a built-in order finds for a noun: it is looked for in the player's room to be
picked up, and among what the player holds to be put down. -/
def foundItem? (s : Session) (verb : Nat) (noun : String) (st : State) : Option Nat :=
  if verb = s.settings.getVerb then Builtin.findItem? s.world st noun st.room
  else if verb = s.settings.dropVerb then Builtin.findItem? s.world st noun carried
  else none

/-- Without a row, orders of the same verb are dealt with alike if the same item is found for their
nouns. -/
theorem alike_unanswered {order order' : Order} (hverb : order'.verb = order.verb)
    (hfound : Option.Rel (fun noun noun' =>
      s.foundItem? order.verb noun' p.state = s.foundItem? order.verb noun p.state)
      order.noun? order'.noun?) {input input' : String}
    (hfirst : Text.upper ((Text.words input').head?.getD "") =
      Text.upper ((Text.words input).head?.getD "")) (h : p.Alike S q) :
    (s.unanswered order input p).Alike S (s.unanswered order' input' q) := by
  unfold unanswered
  rw [hverb]
  cases hnoun : order.noun? with
  | none =>
    cases hnoun' : order'.noun? with
    | none => exact Builtin.alike_answer s.context hfirst h
    | some noun' => simp [hnoun, hnoun'] at hfound
  | some noun =>
    cases hnoun' : order'.noun? with
    | none => simp [hnoun, hnoun'] at hfound
    | some noun' =>
      have hsame :
          s.foundItem? order.verb noun' p.state = s.foundItem? order.verb noun p.state := by
        simpa [hnoun, hnoun'] using hfound
      unfold foundItem? at hsame
      dsimp only
      split_ifs at hsame ⊢
      · exact Builtin.alike_get s.context hsame h
      · exact Builtin.alike_drop s.context hsame h
      · exact Builtin.alike_answer s.context hfirst h

/-- Orders with the same numbers are matched alike, provided that they are dealt with alike where no
row answers. -/
theorem alike_consult {order order' : Order} (hverb : order'.verb = order.verb)
    (hnumber : order'.noun = order.noun)
    (hnoun : S (order.noun?.getD "") (order'.noun?.getD "")) {input input' : String}
    (h : p.Alike S q)
    (hrest : ∀ phase p' q', playerPass (s.contextOf order) order.verb order.noun .idle p =
      (.noMatch, phase, p') → p'.Alike S q' →
        (s.unanswered order input p').Alike S (s.unanswered order' input' q')) :
    (s.consult order input p).Alike S (s.consult order' input' q) := by
  have hlockstep : Progress.Lockstep (s.contextOf order) (s.contextOf order') (Progress.Alike S) :=
    Progress.lockstep_alike hnoun
  have hpass := hlockstep.playerPass order.verb order.noun .idle h
  unfold consult
  rw [hverb, hnumber]
  generalize playerPass (s.contextOf order) order.verb order.noun .idle p = done at hpass hrest ⊢
  generalize playerPass (s.contextOf order') order.verb order.noun .idle q = done' at hpass ⊢
  obtain ⟨found, phase, p'⟩ := done
  obtain ⟨found', phase', q'⟩ := done'
  obtain ⟨hfound, halike⟩ := hpass
  dsimp only at hfound halike ⊢
  subst hfound
  cases found' with
  | executed => exact halike
  | conditionsFailed => exact halike.line _
  | noMatch => exact hrest phase p' q' rfl halike

/-- Orders with the same numbers are carried out alike, under the same proviso. -/
theorem alike_obey {order order' : Order} (hverb : order'.verb = order.verb)
    (hnumber : order'.noun = order.noun)
    (hnoun : S (order.noun?.getD "") (order'.noun?.getD "")) {input input' : String}
    (h : a.Agree (Progress.Alike S) b)
    (hrest : ∀ phase p' q', playerPass (s.contextOf order) order.verb order.noun .idle a.progress =
      (.noMatch, phase, p') → p'.Alike S q' →
        (s.unanswered order input p').Alike S (s.unanswered order' input' q')) :
    (s.obey order input a).Agree (Progress.Alike S) (s.obey order' input' b) := by
  have hdirection : order'.direction? s.settings = order.direction? s.settings := by
    unfold Order.direction?
    rw [hverb, hnumber]
  unfold obey
  rw [hdirection]
  split
  · exact Builtin.alike_go s.context _ h
  · exact ⟨h.1, alike_consult hverb hnumber hnoun h.2 hrest⟩

/-- The automatic pass knows no noun, and ends alike. -/
theorem alike_automaticPhase (hS : S "" "") (h : a.Agree (Progress.Alike S) b) :
    (s.automaticPhase a).Agree (Progress.Alike S) (s.automaticPhase b) := by
  have hlockstep : Progress.Lockstep s.context s.context (Progress.Alike S) :=
    Progress.lockstep_alike hS
  have hpass := hlockstep.automaticPass (fun h => h.note _ rfl) .idle h
  exact ⟨hpass.1, hpass.2.flushLook s.context⟩

/-- Passes that are alike leave the same session and outputs that are alike. -/
theorem alike_finish (h : a.Agree (Progress.Alike S) b) :
    (s.finish b).1 = (s.finish a).1 ∧ (s.finish a).2.Alike S (s.finish b).2 := by
  have hlook := h.2.flushLook s.context
  refine ⟨?_, hlook.output⟩
  simp only [finish, hlook.state_eq, hlook.output.halted_eq, h.1]

/-- A turn leaves the same session and prints alike when its player's part ends alike. -/
theorem alike_play (hS : S "" "") {input input' : String}
    (h : (s.playerPhase input s.opening).Agree (Progress.Alike S)
      (s.playerPhase input' s.opening)) :
    (s.play input').1 = (s.play input).1 ∧ (s.play input).2.Alike S (s.play input').2 := by
  have hlook : ((s.playerPhase input s.opening).flushLook s.context).Agree (Progress.Alike S)
      ((s.playerPhase input' s.opening).flushLook s.context) :=
    ⟨h.1, h.2.flushLook s.context⟩
  unfold play
  dsimp only
  rw [hlook.2.isHalted_eq]
  split_ifs
  · exact alike_finish hlook
  · exact alike_finish (alike_automaticPhase hS ⟨hlook.1, hlook.2.burn s.settings⟩)

end Session

end TextAdventure

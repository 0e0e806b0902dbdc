import Mathlib.Order.Lattice.Nat
import TextAdventure.Proofs.PlayerPass
import TextAdventure.Proofs.Synonyms

/-!
# What a line of the player can change

A line that orders a move changes the room at most, and no row of the action table is asked.  Any
other order goes to the table first.  Where a row answers to it, either rows run or the player is
told that it cannot be done yet, and the built-in orders have no say.  Where no row answers, an
order about an item moves one item at most, and whatever else the line may be, it changes nothing:
its first word selects the inventory, a look, the score or the answer that it means nothing.

Main results:

- Definitions `Order.IsMove` and `Order.NamesItem`: the orders with built-in effects.
- Definition `Session.IgnoresTable`: the table plays no part in what comes of a line.
- Definition `Session.reply`: the answer to a line that nothing else answers.
- Structure `Session.Outcome` and theorem `Session.outcome_playerPhase`: what comes of a line, in
  every state of a run.
-/

namespace TextAdventure

open Text

/-! ## Orders with built-in effects -/

namespace Order

variable {order : Order} {settings : Settings}

/-- The order moves the player: it has the verb that does, and the number of an exit as its noun. -/
def IsMove (order : Order) (settings : Settings) : Prop :=
  order.verb = settings.goVerb ∧ 1 ≤ order.noun ∧ order.noun ≤ 6

/-- The order is to pick up or to put down what a typed noun names. -/
def NamesItem (order : Order) (settings : Settings) : Prop :=
  (order.verb = settings.getVerb ∨ order.verb = settings.dropVerb) ∧ order.noun? ≠ none

/-- The nouns 1 to 6 stand for directions. -/
theorem isSome_ofNoun?_iff {noun : Nat} :
    (Direction.ofNoun? noun).isSome = true ↔ 1 ≤ noun ∧ noun ≤ 6 := by
  have hlength : Direction.all.length = 6 := rfl
  unfold Direction.ofNoun?
  split_ifs with hzero
  · simp [hzero]
  · simp only [isSome_getElem?, hlength]
    omega

/-- An order moves the player exactly when it has a direction. -/
theorem isMove_iff : order.IsMove settings ↔ (order.direction? settings).isSome = true := by
  unfold IsMove direction?
  split_ifs with hverb
  · simp only [hverb, true_and, isSome_ofNoun?_iff]
  · simp [hverb]

theorem direction?_eq_none_iff : order.direction? settings = none ↔ ¬order.IsMove settings := by
  rw [isMove_iff, Option.not_isSome_iff_eq_none]

/-- The rows of the table play no part in what a line orders. -/
theorem ofLine?_withRows (world : World) (rows : List Row) (settings : Settings) (input : String) :
    ofLine? { world with rows } settings input = ofLine? world settings input := by
  have hdictionary : { world with rows }.dictionary = world.dictionary := rfl
  unfold ofLine? ofWord? ofPair? nounOf
  rw [hdictionary]

end Order

/-! ## Moves -/

namespace Builtin

variable (ctx : Context) (d : Direction)

/-- A move through an exit changes the room at most. -/
theorem exists_state_walk (p : Progress) :
    ∃ room, (walk ctx d p).state = { p.state with room } := by
  unfold walk
  split
  · exact ⟨p.state.room, rfl⟩
  · exact ⟨p.state.room, rfl⟩
  · exact ⟨_, rfl⟩

/-- A move changes the room at most, whether or not it is fatal. -/
theorem exists_state_go (pass : Pass) :
    ∃ room, (go ctx d pass).progress.state = { pass.progress.state with room } := by
  unfold go
  dsimp only
  split_ifs
  · exact ⟨_, rfl⟩
  · exact exists_state_walk ctx d (pass.progress.note _)
  · exact exists_state_walk ctx d pass.progress

/-- A move records nothing but the percentage that it may draw. -/
theorem mem_journal_go {pass : Pass} {entry : Entry}
    (h : entry ∈ (go ctx d pass).progress.output.journal) :
    entry ∈ pass.progress.output.journal ∨ ∃ percent, entry = .drew percent := by
  have hnoted : ∀ {percent : Nat},
      entry ∈ (pass.progress.note (.drew percent)).output.journal →
        entry ∈ pass.progress.output.journal ∨ ∃ percent, entry = .drew percent := by
    intro percent hentry
    rcases List.mem_append.1 hentry with hold | hnew
    · exact Or.inl hold
    · exact Or.inr ⟨percent, List.mem_singleton.1 hnew⟩
  unfold go at h
  dsimp only at h
  split_ifs at h
  · exact hnoted h
  · rw [journal_walk] at h
    exact hnoted h
  · rw [journal_walk] at h
    exact Or.inl h

/-- The rows of the table play no part in a move. -/
theorem go_withRows (rows : List Row) (pass : Pass) :
    go { ctx with world := { ctx.world with rows } } d pass = go ctx d pass := rfl

end Builtin

/-! ## The pass of the player -/

section PlayerPass

variable {ctx : Context} {verb noun : Nat} {p : Progress}

/-- Where the conditions of a row that answers hold, rows run. -/
theorem exists_playerPass_executed
    (h : ∃ row ∈ ctx.world.rows, row.answers verb noun = true ∧
      row.holds ctx.world p.state = true) :
    ∃ phase q, playerPass ctx verb noun .idle p = (.executed, phase, q) := by
  have hsome : (ctx.world.respondents verb noun p.state).Nonempty := by
    obtain ⟨row, hrow, hresponds⟩ := h
    obtain ⟨i, hi⟩ := List.mem_iff_getElem?.1 hrow
    exact ⟨i, row, hi, Row.answers_eq_true_iff.1 hresponds.1, hresponds.2⟩
  obtain ⟨first, hleast⟩ : ∃ first, IsLeast (ctx.world.respondents verb noun p.state) first :=
    ⟨_, Nat.sInf_mem hsome, fun _ hk => Nat.sInf_le hk⟩
  obtain ⟨row, hrow, -⟩ := hleast.1
  obtain ⟨final, -, -, hscan, -⟩ := scanPlayer_of_isLeast ctx verb noun .noMatch p hleast hrow
  refine ⟨.ofOutput final.output, final.settle, ?_⟩
  simp only [playerPass, hscan]

/-- Where rows answer and the conditions of none hold, nothing changes that can be seen. -/
theorem exists_playerPass_conditionsFailed
    (hanswers : ∃ row ∈ ctx.world.rows, row.answers verb noun = true)
    (hrefuses : ∀ row ∈ ctx.world.rows, row.Refuses ctx.world verb noun p.state) :
    ∃ phase q, playerPass ctx verb noun .idle p = (.conditionsFailed, phase, q) ∧
      q.visible = p.visible.settle := by
  have hany : (ctx.world.numberedRows.any fun row => row.1.answers verb noun) = true := by
    obtain ⟨row, hrow, hanswers⟩ := hanswers
    obtain ⟨i, hi⟩ := List.mem_iff_getElem?.1 hrow
    exact List.any_eq_true.2 ⟨(row, i), List.mk_mem_zipIdx_iff_getElem?.2 hi, hanswers⟩
  obtain ⟨p', hvisible, -, hscan⟩ := scanPlayer_of_refuses ctx verb noun .noMatch
    ctx.world.numberedRows [] p fun row hrow =>
      hrefuses row.1 (World.mem_rows_of_mem_numberedRows hrow)
  rw [List.append_nil, if_pos hany, scanPlayer] at hscan
  refine ⟨.ofOutput p'.output, p'.settle, ?_, ?_⟩
  · simp only [playerPass, hscan]
  · rw [Progress.visible_settle, hvisible]

end PlayerPass

/-! ## What comes of a line -/

namespace Session

variable {s : Session} {input : String} {order : Order}

/-- What comes of a line is the same whatever rows the table has, and none of its rows is tested or
run: nothing is recorded but the percentage that a move may draw. -/
def IgnoresTable (s : Session) (input : String) : Prop :=
  (∀ rows, { s with world := { s.world with rows } }.playerPhase input s.opening =
      s.playerPhase input s.opening) ∧
    ∀ entry ∈ (s.playerPhase input s.opening).progress.output.journal,
      ∃ percent, entry = .drew percent

/-- The answer to a line that nothing else answers, as its first word selects it. -/
def reply (s : Session) (input : String) : Output :=
  let first := upper ((words input).head?.getD "")
  if first ∈ ["I", "INV", "INVENTORY"] then
    { events := (Narration.inventory s.world s.state).map .line }
  else if first = "LOOK" then { lookPending := true }
  else if first = "SCORE" then { events := (Narration.score s.world s.state).map .line }
  else { events := [.line Builtin.notUnderstood] }

/-- What comes of a line of the player, before the light burns and the automatic rows run. -/
structure Outcome (s : Session) (input : String) (p : Progress) : Prop where
  /-- A move changes the room at most, and the table is not consulted. -/
  moved : ∀ order, Order.ofLine? s.world s.settings input = some order →
    order.IsMove s.settings → (∃ room, p.state = { s.state with room }) ∧ s.IgnoresTable input
  /-- Where a row answers to any other order and its conditions hold, it is what the pass over the
  table makes of it. -/
  executed : ∀ order, Order.ofLine? s.world s.settings input = some order →
    ¬order.IsMove s.settings →
    (∃ row ∈ s.world.rows, row.answers order.verb order.noun = true ∧
      row.holds s.world s.state = true) →
    ∃ phase, playerPass (s.contextOf order) order.verb order.noun .idle ⟨s.state, {}⟩ =
      (.executed, phase, p)
  /-- Where rows answer and the conditions of none hold, the player is told so and nothing else. -/
  refused : ∀ order, Order.ofLine? s.world s.settings input = some order →
    ¬order.IsMove s.settings →
    (∃ row ∈ s.world.rows, row.answers order.verb order.noun = true) →
    (∀ row ∈ s.world.rows, row.answers order.verb order.noun = true →
      row.holds s.world s.state = false) →
    p.visible = ⟨s.state, { events := [.line Builtin.notYet] }⟩
  /-- Where no row answers, an order about an item moves one item at most. -/
  item : ∀ order, Order.ofLine? s.world s.settings input = some order →
    ¬order.IsMove s.settings → s.world.Silent order.verb order.noun →
    order.NamesItem s.settings →
    p.state = s.state ∨ ∃ item location, p.state = s.state.moveItem item location
  /-- Any other line changes nothing, and its first word selects the answer. -/
  answered : (∀ order, Order.ofLine? s.world s.settings input = some order →
      ¬order.IsMove s.settings ∧ s.world.Silent order.verb order.noun ∧
        ¬order.NamesItem s.settings) →
    p.visible = ⟨s.state, s.reply input⟩

/-- An order that moves the player is carried out as a move. -/
theorem playerPhase_of_isMove (horder : Order.ofLine? s.world s.settings input = some order)
    (hmove : order.IsMove s.settings) :
    ∃ d, ∀ rows pass, { s with world := { s.world with rows } }.playerPhase input pass =
      Builtin.go s.context d pass := by
  obtain ⟨d, hd⟩ := Option.isSome_iff_exists.1 (Order.isMove_iff.1 hmove)
  refine ⟨d, fun rows pass => ?_⟩
  simp only [playerPhase, Order.ofLine?_withRows, horder, obey, hd]
  exact Builtin.go_withRows s.context d rows pass

/-- Any other order is looked up in the table. -/
theorem playerPhase_of_not_isMove (horder : Order.ofLine? s.world s.settings input = some order)
    (hmove : ¬order.IsMove s.settings) :
    (s.playerPhase input s.opening).progress = s.consult order input ⟨s.state, {}⟩ := by
  simp only [playerPhase, horder, obey, Order.direction?_eq_none_iff.2 hmove]
  rfl

/-- A line that nothing else answers is answered as its first word selects. -/
theorem visible_answer {p : Progress} (h : p.visible = ⟨s.state, {}⟩) :
    (Builtin.answer s.context input p).visible = ⟨s.state, s.reply input⟩ := by
  obtain ⟨st, events, halted, lookPending, journal⟩ := p
  cases h
  unfold Builtin.answer reply
  dsimp only
  simp only [List.mem_cons, List.not_mem_nil, or_false]
  split_ifs <;> rfl

/-- An order about an item moves the item that is found, or none. -/
theorem state_unanswered_of_namesItem (p : Progress) (hitem : order.NamesItem s.settings) :
    (s.unanswered order input p).state = p.state ∨
      ∃ item location, (s.unanswered order input p).state = p.state.moveItem item location := by
  obtain ⟨hverb, hnoun⟩ := hitem
  obtain ⟨noun, hnoun⟩ := Option.ne_none_iff_exists'.1 hnoun
  have hget : (Builtin.get s.context noun p).state = p.state ∨
      ∃ item location, (Builtin.get s.context noun p).state = p.state.moveItem item location := by
    unfold Builtin.get
    split
    · exact Or.inl rfl
    · split_ifs
      · exact Or.inl rfl
      · exact Or.inr ⟨_, _, rfl⟩
  have hdrop : (Builtin.drop s.context noun p).state = p.state ∨
      ∃ item location, (Builtin.drop s.context noun p).state = p.state.moveItem item location := by
    unfold Builtin.drop
    split
    · exact Or.inl rfl
    · exact Or.inr ⟨_, _, rfl⟩
  simp only [unanswered, hnoun]
  split_ifs with hpick hput
  · exact hget
  · exact hdrop
  · exact absurd (hverb.resolve_left hpick) hput

/-- Any other order that no row answers is answered like a line that orders nothing. -/
theorem unanswered_of_not_namesItem (p : Progress) (hitem : ¬order.NamesItem s.settings) :
    s.unanswered order input p = Builtin.answer s.context input p := by
  unfold unanswered
  cases hnoun : order.noun? with
  | none => rfl
  | some noun =>
    have hverb : ¬(order.verb = s.settings.getVerb ∨ order.verb = s.settings.dropVerb) := by
      intro hverb
      exact hitem ⟨hverb, by simp [hnoun]⟩
    obtain ⟨hpick, hput⟩ := not_or.1 hverb
    simp only [if_neg hpick, if_neg hput]

/-- What comes of a line, where no row has asked to be continued. -/
theorem outcome_of_settled (hsettled : s.state.chaining = false) (input : String) :
    s.Outcome input (s.playerPhase input s.opening).progress := by
  have hstate : s.state.settled = s.state := State.settled_eq_self hsettled
  have hopening : (⟨s.state, {}⟩ : Progress).settle = ⟨s.state, {}⟩ := by
    rw [Progress.settle, Progress.mapState, hstate]
  constructor
  case moved =>
    intro order horder hmove
    obtain ⟨d, hd⟩ := playerPhase_of_isMove horder hmove
    have hgo : s.playerPhase input s.opening = Builtin.go s.context d s.opening :=
      hd s.world.rows s.opening
    refine ⟨?_, fun rows => ?_, fun entry hentry => ?_⟩
    · rw [hgo]
      exact Builtin.exists_state_go s.context d s.opening
    · rw [hgo]
      exact hd rows s.opening
    · rw [hgo] at hentry
      rcases Builtin.mem_journal_go s.context d hentry with hold | hdrew
      · cases hold
      · exact hdrew
  case executed =>
    intro order horder hmove hresponds
    rw [playerPhase_of_not_isMove horder hmove]
    obtain ⟨phase, q, hpass⟩ : ∃ phase q, playerPass (s.contextOf order) order.verb order.noun
        .idle ⟨s.state, {}⟩ = (.executed, phase, q) := exists_playerPass_executed hresponds
    refine ⟨phase, ?_⟩
    simp only [consult, hpass]
  case refused =>
    intro order horder hmove hanswers hrefuses
    rw [playerPhase_of_not_isMove horder hmove]
    obtain ⟨phase, q, hpass, hvisible⟩ : ∃ phase q, playerPass (s.contextOf order) order.verb
        order.noun .idle ⟨s.state, {}⟩ = (.conditionsFailed, phase, q) ∧
        q.visible = Progress.settle ⟨s.state, {}⟩ :=
      exists_playerPass_conditionsFailed hanswers hrefuses
    simp only [consult, hpass, Progress.visible_line, hvisible, hopening]
    rfl
  case item =>
    intro order horder hmove hsilent hitem
    rw [playerPhase_of_not_isMove horder hmove, consult_of_silent hsilent, hopening]
    exact state_unanswered_of_namesItem _ hitem
  case answered =>
    intro hother
    cases horder : Order.ofLine? s.world s.settings input with
    | none =>
      simp only [playerPhase, horder]
      exact visible_answer rfl
    | some order =>
      obtain ⟨hmove, hsilent, hitem⟩ := hother order horder
      rw [playerPhase_of_not_isMove horder hmove, consult_of_silent hsilent, hopening,
        unanswered_of_not_namesItem _ hitem]
      exact visible_answer rfl

/-- In a world that has been read, with its own action table or with any other rows, and after any
operations, a line of the player comes to a move, to what the table makes of it, to an answer, or to
an order about an item.  A row that answers to the words comes before all built-in orders but
moves. -/
theorem outcome_playerPhase {text : String} {world : World} (hread : World.read text = .ok world)
    (rows : List Row) (settings : Settings) (dice : Dice) (operations : List Operation)
    (input : String) :
    let s := (new { world with rows } settings dice).afterAll operations
    s.Outcome input (s.playerPhase input s.opening).progress := by
  intro s
  have hs : s.Sound { world with rows } := sound_of_read hread rows settings dice operations
  exact outcome_of_settled hs.settled input

/-- In a small world the player is told that the jar cannot be picked up yet, as a row answers that
asks for the jar to be held.  Without the row the jar is picked up. -/
theorem outcome_playerPhase_pantry :
    let rows : List Row := [⟨301, .replicate 5 21, .replicate 2 0⟩]
    let s := new { pantry with rows } { getVerb := 2 } (Dice.ofSeed 0)
    let t := new pantry { getVerb := 2 } (Dice.ofSeed 0)
    s.Outcome "get jam" (s.playerPhase "get jam" s.opening).progress ∧
      t.Outcome "get jam" (t.playerPhase "get jam" t.opening).progress ∧
      (s.playerPhase "get jam" s.opening).progress.visible =
        ⟨t.state, { events := [.line Builtin.notYet] }⟩ ∧
      (t.playerPhase "get jam" t.opening).progress.state = t.state.moveItem 1 carried := by
  intro rows s t
  exact ⟨outcome_playerPhase read_pantry rows { getVerb := 2 } (Dice.ofSeed 0) [] "get jam",
    outcome_playerPhase read_pantry pantry.rows { getVerb := 2 } (Dice.ofSeed 0) [] "get jam",
    by decide +kernel, by decide +kernel⟩

end Session

end TextAdventure

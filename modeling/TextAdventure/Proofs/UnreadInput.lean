import Mathlib.Tactic.SplitIfs
import TextAdventure.Console.Replay
import TextAdventure.Proofs.EncodedText
import TextAdventure.Proofs.RowReferences

/-!
# Input that is not read

A session at the prompt ends with a line: the player quits, or the turn of the line stops the game.
What is typed behind that line is not read, whether it is text or not.  Two inputs that agree as far
as this line therefore lead to the same run, and where the opening of a game stops it, all inputs
do.  That takes a seed for the dice: without one, the dice of two runs differ.

Main results:

- Definition `Ends`: the lines that end a session.
- Definition `reachesEnd`: one of some lines ends the session.
- Theorem `run_playAll_append`: nothing behind such a line matters at the prompt.
- Theorem `replay_of_agreement`: two runs whose inputs agree as far as the end of the session.
-/

namespace TextAdventure.Console

open Text

variable {m : Type → Type} [Monad m]

/-! ## Lines that end a session -/

/-- Prompt for a line and answer it. -/
def ask (host : Host m) (s : Session) (line : String) : m (Option Session) := do
  host.print prompt
  answer host s line

/-- The line ends the session: the player quits, or the turn of the line stops the game. -/
def Ends (s : Session) (line : String) : Prop :=
  upper (trim line) = "QUIT" ∨
    Request.ofLine line = .play ∧ (s.turn line).1.halted.isSome = true

instance (s : Session) (line : String) : Decidable (Ends s line) :=
  inferInstanceAs (Decidable (_ ∨ _))

/-- Answer lines until one of them ends the session, and say whether one does.  A line that cannot
be read ends it as well. -/
def reachesEnd (host : Host m) : List (Option String) → Session → m Bool
  | [], _ => pure false
  | none :: _, _ => pure true
  | some line :: rest, s =>
    if Ends s line then pure true
    else do
      match ← ask host s line with
      | some next => reachesEnd host rest next
      | none => pure false

/-- The player quits with one word alone. -/
theorem Request.ofLine_eq_quit_iff (line : String) :
    Request.ofLine line = .quit ↔ upper (trim line) = "QUIT" := by
  unfold Request.ofLine
  dsimp only
  split_ifs with hquit
  · simp [hquit]
  all_goals simp [hquit]

/-- Show the output of a turn, and save the game if it asks for that. -/
def report (host : Host m) (turn : Session × Output) : m Unit := do
  turn.2.events.forM host.render
  if turn.2.events.contains .save then save host turn.1

section Prompt

variable (host : Host m) {s : Session} {line : String}

/-- A game that has stopped is not played on. -/
theorem playAll_of_halted (h : s.halted.isSome = true) (typed : List (Option String)) :
    playAll host typed s = pure 0 := by
  rw [playAll.eq_def]
  dsimp only
  rw [if_pos h]

/-- Nothing behind a line that cannot be read matters. -/
theorem playAll_cons_none (rest rest' : List (Option String)) :
    playAll host (none :: rest) s = playAll host (none :: rest') s := by
  rw [playAll.eq_def, playAll.eq_def]

variable [LawfulMonad m]

/-- Once its output has been shown, a turn leads to its session. -/
theorem conclude_eq (turn : Session × Output) :
    conclude host turn = (do report host turn; pure turn.1) := by
  by_cases hsave : Event.save ∈ turn.2.events
  · simp [conclude, report, hsave]
  · simp [conclude, report, hsave]

/-- A game that goes on asks for a line, and goes on with what the line leads to. -/
theorem playAll_cons (h : ¬s.halted.isSome = true) (rest : List (Option String)) :
    playAll host (some line :: rest) s =
      ask host s line >>= fun next? => next?.elim (pure 0) (playAll host rest) := by
  rw [playAll.eq_def]
  dsimp only
  rw [if_neg h, ask, bind_assoc]
  congr 1
  funext _
  congr 1
  funext next?
  cases next? with
  | none => rfl
  | some next => rfl

/-- Nothing behind a line that ends the session matters. -/
theorem playAll_cons_of_ends (h : Ends s line) (rest rest' : List (Option String)) :
    playAll host (some line :: rest) s = playAll host (some line :: rest') s := by
  by_cases hhalted : s.halted.isSome = true
  · rw [playAll_of_halted host hhalted, playAll_of_halted host hhalted]
  · rw [playAll_cons host hhalted, playAll_cons host hhalted]
    rcases h with hquit | ⟨hplay, hstops⟩
    · have hrequest := (Request.ofLine_eq_quit_iff line).2 hquit
      simp [ask, answer, hrequest]
    · simp [ask, answer, hplay, conclude_eq, playAll_of_halted host hstops]

/-- Once one of the lines has ended the session, the lines behind them do not matter. -/
theorem run_playAll_append {σ : Type} {host : Host (StateM σ)} {read : List (Option String)} {r : σ}
    (h : ((reachesEnd host read s).run r).1 = true) (rest rest' : List (Option String)) :
    (playAll host (read ++ rest) s).run r = (playAll host (read ++ rest') s).run r := by
  -- Before the line that ends the session, both runs answer the same line in the same state.
  induction read generalizing s r with
  | nil => cases h
  | cons line? read ih =>
    rw [List.cons_append, List.cons_append]
    cases line? with
    | none => rw [playAll_cons_none]
    | some line =>
      by_cases hends : Ends s line
      · rw [playAll_cons_of_ends host hends]
      by_cases hhalted : s.halted.isSome = true
      · rw [playAll_of_halted host hhalted, playAll_of_halted host hhalted]
      · rw [reachesEnd, if_neg hends, StateT.run_bind] at h
        rw [playAll_cons host hhalted, playAll_cons host hhalted, StateT.run_bind, StateT.run_bind]
        generalize (ask host s line).run r = answered at h ⊢
        obtain ⟨next?, r'⟩ := answered
        cases next? with
        | none => rfl
        | some next => exact ih h

end Prompt

/-! ## What an opening prints -/

/-- What the player is told after the game has been saved. -/
def saveReport (disk : Disk) (s : Session) : String :=
  match disk.write s.settings.saveFile s.save with
  | .ok _ => "Game saved.\n"
  | .error e => s!"Cannot save game: {(SaveError.file e).message}\n"

/-- What is printed for the output of a turn. -/
def turnReport (disk : Disk) (turn : Session × Output) : String :=
  turn.2.text ++ if turn.2.events.contains .save then saveReport disk turn.1 else ""

namespace Replay

/-- A step of a run is followed by the next one, from the outside that it leaves. -/
theorem run_bind {α β : Type} (x : StateM Replay α) (f : α → StateM Replay β) (r : Replay) :
    (x >>= f).run r = (f (x.run r).1).run (x.run r).2 := rfl

theorem run_read (path : String) (r : Replay) :
    (host.read path).run r = (r.disk.read path, r) := rfl

theorem run_write (path text : String) (r : Replay) :
    (host.write path text).run r = write path text r := rfl

theorem run_render (e : Event) (r : Replay) :
    (host.render e).run r = ((), { r with printed := r.printed ++ e.printed }) := by
  cases e with
  | line t | text t => rfl
  | clear | delay millis | save =>
    rw [Event.printed, String.append_empty]
    rfl

/-- Events are printed one after the other. -/
theorem run_forM_render (events : List Event) (r : Replay) :
    (events.forM host.render).run r =
      ((), { r with printed := r.printed ++ Event.printedAll events }) := by
  induction events generalizing r with
  | nil =>
    rw [show Event.printedAll [] = "" from rfl, String.append_empty]
    rfl
  | cons e events ih =>
    have hcons : Event.printedAll (e :: events) = e.printed ++ Event.printedAll events := by
      simp [Event.printedAll]
    have hrest := ih ((host.render e).run r).2
    rw [List.forM_eq_forM] at hrest ⊢
    rw [List.forM_cons, run_bind, hrest, run_render, hcons, String.append_assoc]

/-- Saving a game prints a report. -/
theorem printed_save (s : Session) (r : Replay) :
    ((save host s).run r).2.printed = r.printed ++ saveReport r.disk s := by
  rw [save, run_bind, run_write, write, saveReport]
  cases r.disk.write s.settings.saveFile s.save with
  | ok disk => rfl
  | error e => rfl

/-- The output of a turn is shown, and leads to the session of the turn. -/
theorem run_conclude (turn : Session × Output) (r : Replay) :
    ((conclude host turn).run r).1 = turn.1 ∧
      ((conclude host turn).run r).2.printed = r.printed ++ turnReport r.disk turn := by
  have hshown := run_forM_render turn.2.events r
  rw [conclude_eq, report, turnReport, run_bind, run_bind, hshown]
  refine ⟨rfl, ?_⟩
  split_ifs
  · exact (printed_save turn.1 _).trans String.append_assoc
  · rw [String.append_empty]
    rfl

/-- Settings are looked up without a trace. -/
theorem run_settings? (options : Options) (r : Replay) :
    ((settings? host options).run r).2 = r := by
  unfold settings?
  cases options.settings? with
  | none => rfl
  | some path =>
    dsimp only
    rw [run_bind, run_read]
    cases r.disk.read path with
    | ok text | error e => rfl

/-- A world is looked up without a trace, if there is one. -/
theorem run_world? {path : String} {r : Replay} {world : World}
    (h : ((world? host path).run r).1 = some world) : ((world? host path).run r).2 = r := by
  unfold world? at h ⊢
  rw [run_bind, run_read] at h ⊢
  cases hread : r.disk.read path with
  | error e =>
    rw [hread] at h
    cases e with
    | notFound | notDirectory | isDirectory | nameTooLong | nulInName | notText =>
      cases h
  | ok text =>
    rw [hread] at h
    dsimp only at h ⊢
    cases hworld : World.read text with
    | error e =>
      rw [hworld] at h
      cases h
    | ok world => rfl

/-- A seed is looked up without a trace. -/
theorem run_dice (options : Options) (r : Replay) :
    (dice host options).run r = (Dice.ofSeed (UInt64.ofNat (options.seed?.getD 0)), r) := by
  unfold dice
  cases options.seed? with
  | none | some n => rfl

/-- A game that is launched is a new game that has been opened, and its opening is what has been
printed. -/
theorem run_launchGame {options : Options} {path : String} {r : Replay} {s : Session}
    (h : ((launchGame host options path).run r).1 = .play s) :
    ∃ world settings,
      let opening :=
        (Session.new world settings (Dice.ofSeed (UInt64.ofNat (options.seed?.getD 0)))).start
      s = opening.1 ∧
        ((launchGame host options path).run r).2.printed =
          r.printed ++ turnReport r.disk opening := by
  unfold launchGame at h ⊢
  rw [run_bind, run_settings?] at h ⊢
  cases hsettings : ((settings? host options).run r).1 with
  | none =>
    rw [hsettings] at h
    cases h
  | some settings =>
    rw [hsettings] at h
    dsimp only at h ⊢
    rw [run_bind] at h ⊢
    cases hworld : ((world? host path).run r).1 with
    | none =>
      rw [hworld] at h
      cases h
    | some world =>
      rw [hworld, run_world? hworld] at h
      rw [run_world? hworld]
      dsimp only at h ⊢
      split_ifs at h ⊢
      · cases h
      · rw [run_bind, run_dice, run_bind] at h ⊢
        dsimp only at h ⊢
        have hopening := run_conclude
          (Session.new world settings (Dice.ofSeed (UInt64.ofNat (options.seed?.getD 0)))).start r
        refine ⟨world, settings, ?_, hopening.2⟩
        rw [← hopening.1]
        exact (Opening.play.inj h).symm

end Replay

/-! ## Runs -/

namespace Replay

/-- The outside of a run that is given in advance but for the seed of a game whose seed is not
given. -/
def hostWith (fresh : UInt64) : Host (StateM Replay) :=
  { host with seed := pure fresh }

end Replay

/-- Run the program on typed lines, with a seed for the game whose seed is not given. -/
def replayedWith (fresh : UInt64) (program : String) (arguments : List String)
    (typed : List (Option String)) : StateM Replay UInt8 := do
  match ← launch (Replay.hostWith fresh) program arguments with
  | .exit code => return code
  | .play s => playAll (Replay.hostWith fresh) typed s

/-- Run the program on a disk and a given input, with a seed for the game whose seed is not
given. -/
def replayWith (fresh : UInt64) (program : String) (arguments : List String) (disk : Disk)
    (input : ByteArray) : UInt8 × Replay :=
  (replayedWith fresh program arguments (typedLines input)).run { disk }

/-- The command line gives a seed, if it is one to play a game. -/
def FixesSeed (arguments : List String) : Prop :=
  ∀ options, Options.ofArguments {} arguments = .ok (some options) → options.seed?.isSome = true

theorem ask_hostWith (fresh : UInt64) (s : Session) (line : String) :
    ask (Replay.hostWith fresh) s line = ask Replay.host s line := by
  unfold ask answer
  cases Request.ofLine line with
  | quit | save | load | play => rfl

theorem playAll_hostWith (fresh : UInt64) (typed : List (Option String)) (s : Session) :
    playAll (Replay.hostWith fresh) typed s = playAll Replay.host typed s := by
  induction typed generalizing s with
  | nil => rfl
  | cons line? rest ih =>
    cases line? with
    | none => rfl
    | some line =>
      by_cases hhalted : s.halted.isSome = true
      · rw [playAll_of_halted _ hhalted, playAll_of_halted _ hhalted]
      · rw [playAll_cons _ hhalted, playAll_cons _ hhalted, ask_hostWith, funext ih]

theorem launchGame_hostWith (fresh : UInt64) {options : Options}
    (h : options.seed?.isSome = true) (path : String) :
    launchGame (Replay.hostWith fresh) options path = launchGame Replay.host options path := by
  obtain ⟨n, hn⟩ := Option.isSome_iff_exists.1 h
  have hdice : dice (Replay.hostWith fresh) options = dice Replay.host options := by
    simp [dice, hn]
  -- Only the dice ask for a seed.
  unfold launchGame
  rw [hdice]
  rfl

theorem launch_hostWith (fresh : UInt64) (program : String) {arguments : List String}
    (h : FixesSeed arguments) :
    launch (Replay.hostWith fresh) program arguments = launch Replay.host program arguments := by
  unfold launch
  cases hoptions : Options.ofArguments {} arguments with
  | error e => rfl
  | ok options? =>
    cases options? with
    | none => rfl
    | some options =>
      dsimp only
      cases options.game? with
      | none => rfl
      | some path => exact launchGame_hostWith fresh (h options hoptions) path

section Runs

variable {program : String} {arguments : List String} {disk : Disk} {s : Session} {r : Replay}

/-- Where the command line gives a seed, no other one matters. -/
theorem replayWith_eq_replayBytes (fresh : UInt64) (h : FixesSeed arguments) (input : ByteArray) :
    replayWith fresh program arguments disk input = replayBytes program arguments disk input := by
  rw [replayWith, replayBytes, replayedWith, replayed, Replay.run_bind, Replay.run_bind,
    launch_hostWith fresh program h]
  cases ((launch Replay.host program arguments).run { disk }).1 with
  | exit code => rfl
  | play s =>
    dsimp only
    rw [playAll_hostWith]

/-- A run that is launched plays on at the prompt. -/
theorem replayBytes_of_launch
    (h : (launch Replay.host program arguments).run { disk } = (.play s, r)) (input : ByteArray) :
    replayBytes program arguments disk input =
      (playAll Replay.host (typedLines input) s).run r := by
  rw [replayBytes, replayed, Replay.run_bind, h]

/-- A run that is over at once does not look at its input. -/
theorem replayBytes_of_exit {code : UInt8}
    (h : (launch Replay.host program arguments).run { disk } = (.exit code, r))
    (input : ByteArray) : replayBytes program arguments disk input = (code, r) := by
  rw [replayBytes, replayed, Replay.run_bind, h]
  rfl

/-- A run that is launched is a new game that has been opened, and its opening is what has been
printed. -/
theorem exists_opening_of_launch
    (h : (launch Replay.host program arguments).run { disk } = (.play s, r)) :
    ∃ world settings seed, s = (Session.new world settings (Dice.ofSeed seed)).start.1 ∧
      r.printed = turnReport disk (Session.new world settings (Dice.ofSeed seed)).start := by
  unfold launch at h
  cases hoptions : Options.ofArguments {} arguments with
  | error e =>
    rw [hoptions] at h
    cases h
  | ok options? =>
    rw [hoptions] at h
    cases options? with
    | none => cases h
    | some options =>
      dsimp only at h
      cases hgame : options.game? with
      | none =>
        rw [hgame] at h
        cases h
      | some path =>
        rw [hgame] at h
        dsimp only at h
        obtain ⟨world, settings, hopened, hprinted⟩ :=
          Replay.run_launchGame (congrArg Prod.fst h)
        rw [h, String.empty_append] at hprinted
        exact ⟨world, settings, _, hopened, hprinted⟩

/-- The inputs agree as far as the end of the session: one of the lines that they begin with alike
ends it. -/
def AgreeToEnd (s : Session) (r : Replay) (input input' : ByteArray) : Prop :=
  ∃ read, read <+: typedLines input ∧ read <+: typedLines input' ∧
    ((reachesEnd Replay.host read s).run r).1 = true

/-- Nothing behind the end of a session matters.  Take any files, a command line that gives a seed,
and two inputs that agree up to and including the first line with which the player quits or whose
turn stops the game, if there is a game to play at the prompt.  The inputs are any bytes, and need
not be text behind this line.  The two runs have the same exit code, the same output and the same
files at the end.  Where the opening stops the game, that is so for all inputs: the opening is all
that is printed, without a prompt. -/
theorem replay_of_agreement (hseed : FixesSeed arguments) {input input' : ByteArray}
    (hagree : ∀ s r, (launch Replay.host program arguments).run { disk } = (.play s, r) →
      s.halted = none → AgreeToEnd s r input input') (fresh fresh' : UInt64) :
    replayWith fresh program arguments disk input =
        replayWith fresh' program arguments disk input' ∧
      ∀ s r, (launch Replay.host program arguments).run { disk } = (.play s, r) →
        s.halted ≠ none →
          replayWith fresh program arguments disk input = (0, r) ∧
          ∃ world settings seed, s = (Session.new world settings (Dice.ofSeed seed)).start.1 ∧
            r.printed = turnReport disk (Session.new world settings (Dice.ofSeed seed)).start := by
  rw [replayWith_eq_replayBytes fresh hseed, replayWith_eq_replayBytes fresh' hseed]
  have hstopped (s : Session) (r : Replay)
      (h : (launch Replay.host program arguments).run { disk } = (.play s, r))
      (hhalted : s.halted ≠ none) (input : ByteArray) :
      replayBytes program arguments disk input = (0, r) := by
    rw [replayBytes_of_launch h, playAll_of_halted _ (Option.isSome_iff_ne_none.2 hhalted)]
    rfl
  constructor
  · cases hlaunch : (launch Replay.host program arguments).run { disk } with
    | mk opening r =>
      cases opening with
      | exit code => rw [replayBytes_of_exit hlaunch, replayBytes_of_exit hlaunch]
      | play s =>
        by_cases hhalted : s.halted = none
        · obtain ⟨read, hread, hread', hend⟩ := hagree s r hlaunch hhalted
          obtain ⟨rest, hrest⟩ := hread
          obtain ⟨rest', hrest'⟩ := hread'
          rw [replayBytes_of_launch hlaunch, replayBytes_of_launch hlaunch, ← hrest, ← hrest',
            run_playAll_append hend rest rest']
        · rw [hstopped s r hlaunch hhalted, hstopped s r hlaunch hhalted]
  · exact fun s r hlaunch hhalted =>
      ⟨hstopped s r hlaunch hhalted input, exists_opening_of_launch hlaunch⟩

end Runs

/-- A disk with an adventure that the word END stops. -/
def diskOfHall : Disk :=
  ⟨[(["g"], "0 0 1 1 1 5 1 0 3 10 0 0 0 0 0 0 0 0 0 0 150 0 0 0 0 0 9450 0
\"AUT\" \"ANY\" \"END\" \"X\" 0 0 0 0 0 0 \"\" 0 0 0 0 0 0 \"hall\" \"\" \"lamp\" 1 1 2 3")]⟩

/-- In this adventure the player saves the game and stops it.  What follows is not read, even if it
is not text. -/
theorem replay_of_agreement_hall :
    let arguments := ["g", "--seed", "1"]
    let input := "SAVE\nend\n".toUTF8
    let input' := input.push 0xFF
    FixesSeed arguments ∧
      (∀ s r, (launch Replay.host "lamplight" arguments).run { disk := diskOfHall } = (.play s, r) →
        s.halted = none → AgreeToEnd s r input input') ∧
      typedLines input' = [some "SAVE", some "end", none] ∧
      replayWith 5 "lamplight" arguments diskOfHall input =
        replayWith 8 "lamplight" arguments diskOfHall input' := by
  intro arguments input input'
  have hseed : FixesSeed arguments := by
    intro options h
    cases h
    rfl
  have hend : (match (launch Replay.host "lamplight" arguments).run { disk := diskOfHall } with
      | (.play s, r) => ((reachesEnd Replay.host [some "SAVE", some "end"] s).run r).1
      | (.exit _, _) => false) = true := by
    decide +kernel
  have hagree : ∀ s r,
      (launch Replay.host "lamplight" arguments).run { disk := diskOfHall } = (.play s, r) →
        s.halted = none → AgreeToEnd s r input input' := by
    intro s r hlaunch _
    rw [hlaunch] at hend
    refine ⟨[some "SAVE", some "end"], ?_, by decide +kernel, hend⟩
    rw [typedLines_toUTF8]
    decide +kernel
  exact ⟨hseed, hagree, by decide +kernel, (replay_of_agreement hseed hagree 5 8).1⟩

end TextAdventure.Console

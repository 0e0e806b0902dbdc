import Mathlib.Logic.Function.Iterate
import TextAdventure.Game.Light
import TextAdventure.Proofs.RowRuns

/-!
# How long the light lasts

A light source that the player holds, with `n` turns of light, burns for `n` turns, each of which
takes one turn of light.  The turn after finds none left: only then does the light run out, and from
there on nothing happens any more.  While the light burns, the player is told how much remains as
soon as that is within the limit for warnings.

Main results:

- Definition `Progress.burnFor`: some turns of light in a row.
- Definitions `Settings.warnings` and `Settings.lightReport`: what is printed in these turns.
- Theorems `visible_burn_of_light` and `visible_burn_of_no_light`: one turn of light.
- Theorem `Progress.light_lasts`: any number of turns.
-/

namespace TextAdventure

/-! ## The light of a state -/

namespace State

variable (s : State)

/-- A light source burns as long as the player holds it and it has not run out. -/
theorem burns_eq_true_iff {lamp : Nat} :
    s.burns lamp = true ↔ s.isCarried lamp = true ∧ s.flags.get Flags.lightOut = false := by
  simp [burns]

@[simp]
theorem light_setLight (turns : Int) : (s.setLight turns).light = turns := by
  simp [light, setLight]

/-- Of two amounts of light that are set, the second one counts. -/
@[simp]
theorem setLight_setLight (first second : Int) :
    (s.setLight first).setLight second = s.setLight second := by
  simp [setLight]

/-- Setting the light to what it is has no effect. -/
@[simp]
theorem setLight_light : s.setLight s.light = s := by
  simp [setLight, light]

@[simp]
theorem burns_setLight (turns : Int) (lamp : Nat) : (s.setLight turns).burns lamp = s.burns lamp :=
  rfl

/-- The state in which the light has run out: no light is left, the flag says so, and the light
source is in the storeroom if the settings take it out of play. -/
def lightless (settings : Settings) : State :=
  let unlit := (s.setLight 0).setFlag Flags.lightOut true
  if settings.destroyLamp then unlit.moveItem settings.lamp storeroom else unlit

@[simp]
theorem lightless_setLight (turns : Int) (settings : Settings) :
    (s.setLight turns).lightless settings = s.lightless settings := by
  simp [lightless]

@[simp]
theorem light_lightless (settings : Settings) : (s.lightless settings).light = 0 := by
  have hunlit := s.light_setLight 0
  unfold lightless
  dsimp only
  split_ifs <;> exact hunlit

@[simp]
theorem lightOut_lightless (settings : Settings) :
    (s.lightless settings).flags.get Flags.lightOut = true := by
  have hunlit : (s.flags.set Flags.lightOut true).get Flags.lightOut = true :=
    Flags.get_set_same _ _ (by decide)
  unfold lightless
  dsimp only
  split_ifs <;> exact hunlit

/-- A light source that has run out does not burn. -/
theorem burns_lightless (settings : Settings) (lamp : Nat) :
    (s.lightless settings).burns lamp = false := by
  simp [burns]

/-- A light source that the player held is in the storeroom afterwards if the settings take it out
of play, and is still held if they do not. -/
theorem location?_lightless {settings : Settings} (h : s.isCarried settings.lamp = true) :
    (s.lightless settings).location? settings.lamp =
      some (if settings.destroyLamp then storeroom else carried) := by
  have hheld : s.location? settings.lamp = some carried := by simpa [isCarried] using h
  unfold lightless
  dsimp only
  split_ifs
  · exact location?_moveItem_same _ _ (List.getElem?_eq_some_iff.1 hheld).1
  · exact hheld

end State

/-! ## What is printed -/

namespace Settings

variable (settings : Settings)

/-- The amounts of light that the player is warned of in `k` turns that begin with `n` turns of
light: those from `n - k` on that are below `n` and within the limit for warnings, in descending
order. -/
def warnings (n k : Nat) : List Nat :=
  ((List.range n).filter fun r => n - k ≤ r ∧ (r : Int) ≤ settings.lightWarning).reverse

/-- The lines that are printed in `k` turns that begin with `n` turns of light. -/
def lightReport (n k : Nat) : List String :=
  (settings.warnings n k).map (fun r => s!"Light runs out in {r} turns!") ++
    if n < k then ["Light has run out!"] else []

/-- Nothing is printed in no turns. -/
@[simp]
theorem lightReport_zero_turns (n : Nat) : settings.lightReport n 0 = [] := by
  have hnone : settings.warnings n 0 = [] := by
    simp only [warnings, List.reverse_eq_nil_iff, List.filter_eq_nil_iff, List.mem_range,
      decide_eq_true_eq]
    omega
  simp [lightReport, hnone]

/-- Without light, the first turn says that the light has run out. -/
@[simp]
theorem lightReport_no_light (k : Nat) :
    settings.lightReport 0 (k + 1) = ["Light has run out!"] := by
  simp [lightReport, warnings]

/-- The first turn warns of the light that it leaves, and the other turns begin with that. -/
theorem lightReport_succ (n k : Nat) :
    settings.lightReport (n + 1) (k + 1) =
      (if (n : Int) ≤ settings.lightWarning then [s!"Light runs out in {n} turns!"] else []) ++
        settings.lightReport n k := by
  have hrest : settings.warnings (n + 1) (k + 1) =
      (if (n : Int) ≤ settings.lightWarning then [n] else []) ++ settings.warnings n k := by
    have hlast : n + 1 - (k + 1) ≤ n := by omega
    simp only [warnings, List.range_succ, List.filter_append, List.reverse_append,
      Nat.add_sub_add_right]
    congr 1
    split_ifs with hwarned
    · simp [hwarned]
    · simp [hwarned]
  simp only [lightReport, hrest, List.map_append, List.append_assoc, Nat.add_lt_add_iff_right,
    apply_ite (List.map _), List.map_cons, List.map_nil]

end Settings

/-! ## Turns of light -/

namespace Progress

variable {p : Progress} {settings : Settings} {n : Nat}

/-- Some turns of light in a row. -/
def burnFor (p : Progress) (settings : Settings) (k : Nat) : Progress :=
  (fun q : Progress => q.burn settings)^[k] p

/-- Printing no lines has no effect. -/
@[simp]
theorem lines_nil (p : Progress) : p.lines [] = p := by
  simp [lines, mapOutput, Output.lines]

/-- Lines that are printed one group after the other are printed in that order. -/
theorem lines_lines (p : Progress) (first second : List String) :
    (p.lines first).lines second = p.lines (first ++ second) := by
  simp [lines, mapOutput, Output.lines]

/-- Lines do not depend on the state. -/
theorem mapState_lines (p : Progress) (texts : List String) (f : State → State) :
    (p.lines texts).mapState f = (p.mapState f).lines texts := rfl

/-- A turn of light takes one from the light that is left, and warns of the rest. -/
theorem visible_burn_of_light (hburns : p.state.burns settings.lamp = true)
    (hlight : p.state.light = (n + 1 : Nat)) :
    (p.burn settings).visible = (p.visible.mapState (·.setLight n)).lines
      (if (n : Int) ≤ settings.lightWarning then [s!"Light runs out in {n} turns!"] else []) := by
  have hleft : p.state.light - 1 = n := by omega
  have hsome : ¬p.state.light ≤ 0 := by omega
  simp only [burn, hburns, if_true, if_neg hsome, lightBurns, state_note, hleft]
  split_ifs
  · rfl
  · rw [lines_nil]
    rfl

/-- A turn that finds no light left makes the light run out. -/
theorem visible_burn_of_no_light (hburns : p.state.burns settings.lamp = true)
    (hlight : p.state.light = 0) :
    (p.burn settings).visible =
      (p.visible.mapState (·.lightless settings)).lines ["Light has run out!"] := by
  have hunlit : p.state.setLight 0 = p.state := by rw [← hlight, State.setLight_light]
  have hnone : p.state.light ≤ 0 := Int.le_of_eq hlight
  simp only [burn, hburns, if_true, if_pos hnone, lightRunsOut, State.lightless]
  unfold mapState
  simp only [state_visible, hunlit]
  split_ifs <;> rfl

/-- Turns without a light that burns have no effect. -/
theorem burnFor_of_not_burning (h : p.state.burns settings.lamp = false) (k : Nat) :
    p.burnFor settings k = p :=
  Function.iterate_fixed (f := fun q : Progress => q.burn settings) (burn_of_not_burning h) k

/-- Turns of light that begin with `n` turns of light: the light that is left is the difference, or
it has run out, and the report is printed. -/
theorem visible_burnFor (hburns : p.state.burns settings.lamp = true) (hlight : p.state.light = n)
    (k : Nat) :
    (p.burnFor settings k).visible =
      (p.visible.mapState fun s =>
        if k ≤ n then s.setLight (n - k : Nat) else s.lightless settings).lines
          (settings.lightReport n k) := by
  induction k generalizing p n with
  | zero =>
    have hsame : p.state.setLight n = p.state := by rw [← hlight, State.setLight_light]
    simp [burnFor, mapState, hsame]
    rfl
  | succ k ih =>
    have hfirst : p.burnFor settings (k + 1) = (p.burn settings).burnFor settings k := rfl
    rw [hfirst]
    cases n with
    | zero =>
      have hturn := visible_burn_of_no_light hburns hlight
      have hstate : (p.burn settings).state = p.state.lightless settings :=
        congrArg Progress.state hturn
      -- The light has run out, and the other turns have no effect.
      rw [burnFor_of_not_burning (by rw [hstate, State.burns_lightless]), hturn]
      simp
    | succ n =>
      have hturn := visible_burn_of_light hburns hlight
      have hstate : (p.burn settings).state = p.state.setLight n := congrArg Progress.state hturn
      rw [ih (by rw [hstate, State.burns_setLight, hburns]) (by rw [hstate, State.light_setLight]),
        hturn, Settings.lightReport_succ, ← lines_lines, mapState_lines]
      have hlast : ∀ s : State, (if k ≤ n then (s.setLight n).setLight (n - k : Nat)
          else (s.setLight n).lightless settings) =
            if k + 1 ≤ n + 1 then s.setLight (n + 1 - (k + 1) : Nat) else s.lightless settings := by
        intro s
        simp
      simp only [← hlast]
      rfl

/-- Take any turns of light in a row, beginning with `n` turns of light in a light source that the
player holds and that has not run out.  For `n` turns the light goes down by one in each of them,
and nothing else in the state changes.  From the turn after on, no light is left, the flag says that
it has run out, and the light source is in the storeroom exactly when the settings take it out of
play; nothing else in the state has changed.  The lines that are printed are those of the report,
and the output is the same in all other respects. -/
theorem light_lasts (hheld : p.state.isCarried settings.lamp = true)
    (hlit : p.state.flags.get Flags.lightOut = false) (hlight : p.state.light = n) (k : Nat) :
    let q := p.burnFor settings k
    (k ≤ n →
      q.state = p.state.setLight (n - k : Nat) ∧
        q.state.light = (n - k : Nat) ∧ q.state.flags.get Flags.lightOut = false ∧
          q.state.isCarried settings.lamp = true) ∧
      (n < k →
        q.state = p.state.lightless settings ∧
          q.state.light = 0 ∧ q.state.flags.get Flags.lightOut = true ∧
            q.state.isStored settings.lamp = settings.destroyLamp) ∧
      q.output.visible = (p.output.lines (settings.lightReport n k)).visible := by
  intro q
  have hburns : p.state.burns settings.lamp = true := p.state.burns_eq_true_iff.2 ⟨hheld, hlit⟩
  have hturns := visible_burnFor hburns hlight k
  have hstate : q.state = if k ≤ n then p.state.setLight (n - k : Nat)
      else p.state.lightless settings := congrArg Progress.state hturns
  refine ⟨fun hle => ?_, fun hlt => ?_, congrArg Progress.output hturns⟩
  · rw [if_pos hle] at hstate
    rw [hstate]
    exact ⟨rfl, State.light_setLight _ _, hlit, hheld⟩
  · rw [if_neg (Nat.not_le_of_lt hlt)] at hstate
    rw [hstate]
    refine ⟨rfl, State.light_lightless _ _, State.lightOut_lightless _ _, ?_⟩
    rw [State.isStored, State.location?_lightless _ hheld]
    cases settings.destroyLamp <;> rfl

/-- Four turns that begin with three turns of light, in a game that warns of the last one only and
takes the light source out of play. -/
theorem light_lasts_four :
    let settings : Settings := { lamp := 0, lightWarning := 1 }
    let s : State := { State.blank with locations := [carried, 1] }
    let p : Progress := ⟨s.setLight 3, {}⟩
    let q := p.burnFor settings 4
    (p.state.isCarried settings.lamp = true ∧ p.state.flags.get Flags.lightOut = false ∧
        p.state.light = (3 : Nat)) ∧
      (q.state = p.state.lightless settings ∧ q.state.light = 0 ∧
          q.state.flags.get Flags.lightOut = true ∧
            q.state.isStored settings.lamp = settings.destroyLamp) ∧
      q.output.visible = (p.output.lines ["Light runs out in 1 turns!",
        "Light runs out in 0 turns!", "Light has run out!"]).visible := by
  intro settings s p q
  have hrun := @light_lasts p settings 3 rfl (by decide) rfl 4
  exact ⟨⟨rfl, by decide, rfl⟩, hrun.2.1 (by decide), hrun.2.2⟩

end Progress

end TextAdventure

import TextAdventure.Proofs.RowReferences

/-!
# The four positions of a row

A row holds its commands in one part and their operands in another.  The opcodes of its four
positions are packed into two numbers.  The command at a position works on the parameters of the
condition slot at that position and of the next one, whatever these slots are there for.  A position
without an opcode is passed over, and the commands behind it keep their operands.

Main results:

- Definition `Progress.runOpcode`: what is done at one position.
- Theorem `Command.executeAll_ofPositions`: the commands of any positions run one after the other.
- Theorem `Row.run_by_positions`: a row runs its four positions in order.
-/

namespace TextAdventure

namespace Progress

/-- Deal with one position: execute the command of the opcode.  Nothing is done once the game has
stopped, and an opcode of zero is passed over. -/
def runOpcode (p : Progress) (ctx : Context) (opcode : Nat) (o : Operands) : Progress :=
  if p.isHalted || opcode == 0 then p else p.perform ctx (Command.ofOpcode opcode) o

/-- Nothing is done once the game has stopped. -/
theorem runOpcode_of_isHalted {p : Progress} (h : p.isHalted = true) (ctx : Context) (opcode : Nat)
    (o : Operands) : p.runOpcode ctx opcode o = p := by
  simp [runOpcode, h]

/-- An opcode of zero is passed over. -/
@[simp]
theorem runOpcode_zero (p : Progress) (ctx : Context) (o : Operands) :
    p.runOpcode ctx 0 o = p := by
  simp [runOpcode]

/-- As long as the game goes on, any other opcode runs its command. -/
theorem runOpcode_of_ne {p : Progress} (h : p.isHalted = false) (ctx : Context) {opcode : Nat}
    (hne : opcode ≠ 0) (o : Operands) :
    p.runOpcode ctx opcode o = p.perform ctx (Command.ofOpcode opcode) o := by
  simp [runOpcode, h, hne]

/-- Deal with some positions, one after the other. -/
def runPositions (p : Progress) (ctx : Context) (positions : List (Nat × Operands)) : Progress :=
  positions.foldl (fun p position => p.runOpcode ctx position.1 position.2) p

theorem runPositions_of_isHalted {p : Progress} (h : p.isHalted = true) (ctx : Context)
    (positions : List (Nat × Operands)) : p.runPositions ctx positions = p := by
  induction positions with
  | nil => rfl
  | cons position rest ih => rw [runPositions, List.foldl_cons, runOpcode_of_isHalted h]; exact ih

end Progress

namespace Command

/-- The commands of some positions, where an opcode of zero stands for none. -/
def ofPositions (positions : List (Nat × Operands)) : List (Command × Operands) :=
  (positions.filter fun (opcode, _) => opcode != 0).map
    fun (opcode, operands) => (ofOpcode opcode, operands)

/-- The commands of some positions, up to the one that stops the game, are executed one position
after the other. -/
theorem executeAll_ofPositions (ctx : Context) (positions : List (Nat × Operands)) {p : Progress}
    (h : p.isHalted = false) :
    executeAll ctx (ofPositions positions) p = p.runPositions ctx positions := by
  induction positions generalizing p with
  | nil => rfl
  | cons position rest ih =>
    obtain ⟨opcode, o⟩ := position
    by_cases hzero : opcode = 0
    · subst hzero
      simpa [ofPositions, Progress.runPositions] using ih h
    · have hstep := Progress.runOpcode_of_ne h ctx hzero o
      have hcons :
          ofPositions ((opcode, o) :: rest) = (ofOpcode opcode, o) :: ofPositions rest := by
        simp [ofPositions, hzero]
      rw [hcons, executeAll_cons, Progress.runPositions, List.foldl_cons, ← hstep]
      split_ifs with hhalt
      · exact (Progress.runPositions_of_isHalted hhalt ctx rest).symm
      · exact ih (by simpa using hhalt)

end Command

namespace Row

/-- A row runs its four positions, in order and up to the command that stops the game.  The opcodes
are read off the two numbers for commands, where the first of a number keeps 16 bits.  The operands
depend on the position alone: they are the parameters of the condition slot there and of the next
one. -/
theorem run_by_positions (ctx : Context) (row : Row) {p : Progress} (h : p.isHalted = false) :
    let commands (slot : Fin 2) : Nat := row.commands[slot].toNat
    let operands (position : Fin 4) : Operands :=
      ⟨row.conditions[position.castSucc].toNat / 20, row.conditions[position.succ].toNat / 20⟩
    row.run ctx p = p.runPositions ctx [
      (commands 0 / 150 % 0x10000, operands 0), (commands 0 % 150, operands 1),
      (commands 1 / 150 % 0x10000, operands 2), (commands 1 % 150, operands 3)] := by
  intro commands operands
  have hrun : row.run ctx p = p.runPositions ctx row.opcodes :=
    Command.executeAll_ofPositions ctx row.opcodes h
  rw [hrun, opcodes_eq_ofFn]
  simp only [List.ofFn_succ, List.ofFn_zero]
  rfl

/-- A row whose first position has no opcode.  The second one sets flag 4, which its own slot tests
as well, and not flag 3.  The third one stops the game, before the fourth one sets flag 9. -/
theorem run_by_positions_gap :
    let ctx : Context := { world := .larder, settings := {} }
    let row : Row := ⟨0, #v[60, 89, 0, 180, 0], #v[58, 9508]⟩
    let p : Progress := ⟨State.initial .larder, {}⟩
    p.isHalted = false ∧
      row.run ctx p =
        p.runPositions ctx [(0, ⟨3, 4⟩), (58, ⟨4, 0⟩), (63, ⟨0, 9⟩), (58, ⟨9, 0⟩)] ∧
      (row.run ctx p).state.flags.get 3 = false ∧ (row.run ctx p).state.flags.get 4 = true ∧
      (row.run ctx p).state.flags.get 9 = false ∧ (row.run ctx p).isHalted = true := by
  intro ctx row p
  have hgoes : p.isHalted = false := rfl
  have hrun := run_by_positions ctx row hgoes
  exact ⟨hgoes, hrun.trans (congrArg (p.runPositions ctx) (by decide)), by decide +kernel,
    by decide +kernel, by decide +kernel, by decide +kernel⟩

end Row

end TextAdventure

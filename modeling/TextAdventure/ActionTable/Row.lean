import TextAdventure.ActionTable.Packed

/-!
# Rows of the action table

A row says when it runs and what it does: the words it answers to, five condition slots and two
pairs of commands.  It is kept as packed as in the data.

Main results:

- Structure `Row` with `Row.trigger`: the words a row answers to.
- Definition `Row.opcodes`: its four opcodes with the operands of their positions.
-/

namespace TextAdventure

/-- A row of the action table, packed as in the data. -/
structure Row where
  vocab : UInt32
  conditions : Vector UInt32 5
  commands : Vector UInt32 2
deriving Repr, DecidableEq

namespace Row

/-- The words the row answers to. -/
def trigger (row : Row) : Trigger :=
  Trigger.decode row.vocab

/-- The four opcodes of the row with the operands of their positions. -/
def opcodes (row : Row) : List (Nat × Operands) :=
  let parameters := Parameters.ofConditions row.conditions
  (row.commands.toList.flatMap fun raw => (OpcodePair.decode raw).toList).zipIdx.map
    fun (opcode, position) => (opcode, parameters.operands position)

end Row

end TextAdventure

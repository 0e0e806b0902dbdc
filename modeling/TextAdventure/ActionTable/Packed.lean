/-!
# Packed numbers of the action table

A row of the action table holds its fields as numbers of 32 bits, each of which packs two smaller
ones: a trigger is `verb * 150 + noun`, a condition is `parameter * 20 + code`, and a pair of
commands is `first * 150 + second`, whose first opcode keeps 16 bits.

Main results:

- Structures `Trigger`, `CodedCondition` and `OpcodePair`, each with `decode` and `encode`.
- Definition `Parameters.operands`: the operands that a command takes from the condition slots.
-/

namespace TextAdventure

/-! ## Triggers -/

/-- The words that a row of the action table answers to. -/
structure Trigger where
  verb : Nat
  noun : Nat
deriving Repr, DecidableEq

namespace Trigger

/-- The trigger packed into a number. -/
def decode (raw : UInt32) : Trigger :=
  ⟨raw.toNat / 150, raw.toNat % 150⟩

/-- A trigger as a number. -/
def encode (t : Trigger) : UInt32 :=
  UInt32.ofNat (t.verb * 150 + t.noun)

/-- A row without a verb runs by itself. -/
def isAutomatic (t : Trigger) : Bool :=
  t.verb == 0

/-- A row with neither verb nor noun can continue the row before it. -/
def isContinuation (t : Trigger) : Bool :=
  t.verb == 0 && t.noun == 0

end Trigger

/-! ## Conditions -/

/-- A condition slot, split into what it tests and the number it tests with. -/
structure CodedCondition where
  code : Nat
  parameter : Nat
deriving Repr, DecidableEq

namespace CodedCondition

/-- The condition slot packed into a number. -/
def decode (raw : UInt32) : CodedCondition :=
  ⟨raw.toNat % 20, raw.toNat / 20⟩

/-- A condition slot as a number. -/
def encode (c : CodedCondition) : UInt32 :=
  UInt32.ofNat (c.parameter * 20 + c.code)

end CodedCondition

/-! ## Pairs of commands -/

/-- The two opcodes of a command slot. -/
structure OpcodePair where
  first : Nat
  second : Nat
deriving Repr, DecidableEq

namespace OpcodePair

/-- The opcodes packed into a number; the first one keeps 16 bits. -/
def decode (raw : UInt32) : OpcodePair :=
  ⟨raw.toNat / 150 % 0x10000, raw.toNat % 150⟩

/-- A pair of opcodes as a number. -/
def encode (p : OpcodePair) : UInt32 :=
  UInt32.ofNat (p.first * 150 + p.second)

/-- The opcodes in the order they run. -/
def toList (p : OpcodePair) : List Nat :=
  [p.first, p.second]

end OpcodePair

/-! ## Operands -/

/-- The two numbers that a command can work on. -/
structure Operands where
  first : Nat
  second : Nat
deriving Repr, DecidableEq

/-- The parameters of the five condition slots, from which the commands take their operands. -/
abbrev Parameters := Vector Nat 5

/-- The parameters of five packed conditions. -/
def Parameters.ofConditions (raw : Vector UInt32 5) : Parameters :=
  raw.map fun r => (CodedCondition.decode r).parameter

/-- The command at a position takes the parameter of that slot and of the one after it; slots past
the last one hold zero. -/
def Parameters.operands (parameters : Parameters) (position : Nat) : Operands :=
  ⟨parameters[position]?.getD 0, parameters[position + 1]?.getD 0⟩

end TextAdventure

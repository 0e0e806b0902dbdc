import TextAdventure.Game.State

/-!
# Conditions

Each row of the action table carries five condition slots, all of which have to hold before the row
runs.  Ten conditions test the location of an item; on an item that does not exist every one of
them fails, also those worded negatively.

Main results:

- Inductives `ItemTest`, `CounterTest` and `Condition`.
- Definitions `Condition.ofCode` and `Condition.code`: what a condition slot tests.
- Definition `Condition.holds`: the test itself.
- Definition `Row.holds`: all conditions of a row hold.
-/

namespace TextAdventure

/-! ## What can be tested -/

/-- The tests on the location of an item. -/
inductive ItemTest where
  | carried | here | available | notHere | notCarried | notAvailable | inPlay | stored
  | atHome | notAtHome
deriving Repr, DecidableEq

/-- The tests on the counter. -/
inductive CounterTest where
  | atMost | above | equal
deriving Repr, DecidableEq

/-- A condition on the state of the game. -/
inductive Condition where
  /-- Always holds; the slot carries an operand for a command. -/
  | operand (value : Nat)
  | item (test : ItemTest) (number : Nat)
  | inRoom (room : Nat)
  | notInRoom (room : Nat)
  | flagSet (flag : Nat)
  | flagClear (flag : Nat)
  | carryingAny
  | carryingNone
  | counter (test : CounterTest) (value : Nat)
deriving Repr, DecidableEq

/-! ## Codes -/

namespace Condition

/-- The largest number that the counter is compared with. -/
def counterLimit : Nat := 0x7FFFFFFF

/-- The condition of a slot.  Codes without a test of their own carry an operand. -/
def ofCode (slot : CodedCondition) : Condition :=
  let p := slot.parameter
  let n := min p counterLimit
  match slot.code with
  | 1 => item .carried p
  | 2 => item .here p
  | 3 => item .available p
  | 4 => inRoom p
  | 5 => item .notHere p
  | 6 => item .notCarried p
  | 7 => notInRoom p
  | 8 => flagSet p
  | 9 => flagClear p
  | 10 => carryingAny
  | 11 => carryingNone
  | 12 => item .notAvailable p
  | 13 => item .inPlay p
  | 14 => item .stored p
  | 15 => counter .atMost n
  | 16 => counter .above n
  | 17 => item .atHome p
  | 18 => item .notAtHome p
  | 19 => counter .equal n
  | _ => operand p

/-- The condition packed into a number. -/
def decode (raw : UInt32) : Condition :=
  ofCode (CodedCondition.decode raw)

/-- The code under which a condition is stored. -/
def code : Condition → Nat
  | operand _ => 0
  | item .carried _ => 1
  | item .here _ => 2
  | item .available _ => 3
  | inRoom _ => 4
  | item .notHere _ => 5
  | item .notCarried _ => 6
  | notInRoom _ => 7
  | flagSet _ => 8
  | flagClear _ => 9
  | carryingAny => 10
  | carryingNone => 11
  | item .notAvailable _ => 12
  | item .inPlay _ => 13
  | item .stored _ => 14
  | counter .atMost _ => 15
  | counter .above _ => 16
  | item .atHome _ => 17
  | item .notAtHome _ => 18
  | counter .equal _ => 19

/-- The mnemonics of the condition codes, in order. -/
def mnemonics : List String :=
  ["PAR", "HAS", "IN/W", "AVL", "IN", "-IN/W", "-HAVE", "-IN", "BIT", "-BIT", "ANY", "-ANY",
    "-AVL", "-RM0", "RM0", "CT<=", "CT>", "ORIG", "-ORIG", "CT="]

/-- The mnemonic of a condition code. -/
def mnemonic (code : Nat) : String :=
  mnemonics[code]?.getD "unknown_condition"

/-- The number a condition tests with. -/
def parameter? : Condition → Option Nat
  | operand p | item _ p | inRoom p | notInRoom p | flagSet p | flagClear p | counter _ p => some p
  | carryingAny | carryingNone => none

/-- A condition as error messages name it. -/
def text (c : Condition) : String :=
  match c.parameter? with
  | some p => s!"{mnemonic c.code} {p}"
  | none => mnemonic c.code

/-- What a condition names, if anything. -/
def reference? : Condition → Option Reference
  | item _ i => some (.item i)
  | inRoom r | notInRoom r => some (.room r)
  | flagSet f | flagClear f => some (.flag f)
  | operand _ | carryingAny | carryingNone | counter _ _ => none

end Condition

/-! ## Testing -/

/-- An item at the given location, which starts at the given home, passes the test in a room. -/
def ItemTest.holds (test : ItemTest) (location room : Nat) (home? : Option Nat) : Bool :=
  match test with
  | carried => location == TextAdventure.carried
  | here => location == room
  | available => location == TextAdventure.carried || location == room
  | notHere => location != room
  | notCarried => location != TextAdventure.carried
  | notAvailable => location != TextAdventure.carried && location != room
  | inPlay => location != storeroom
  | stored => location == storeroom
  | atHome => home?.any (location == ·)
  | notAtHome => home?.any (location != ·)

/-- A counter passes the test against a number. -/
def CounterTest.holds (test : CounterTest) (counter : Int) (value : Nat) : Bool :=
  match test with
  | atMost => counter ≤ value
  | above => counter > value
  | equal => counter == value

/-- A condition holds in a state; a test on an unknown item fails. -/
def Condition.holds (world : World) (s : State) : Condition → Bool
  | operand _ => true
  | item test i =>
    (s.location? i).any fun l => test.holds l s.room (world.items[i]?.map Item.home)
  | inRoom r => s.room == r
  | notInRoom r => s.room != r
  | flagSet f => s.flags.get f
  | flagClear f => !s.flags.get f
  | carryingAny => s.carriedCount > 0
  | carryingNone => s.carriedCount == 0
  | counter test n => test.holds s.counter n

/-! ## Rows -/

namespace Row

/-- The conditions of a row; a slot that holds zero is not in use. -/
def tests (row : Row) : List Condition :=
  (row.conditions.toList.filter (· != 0)).map Condition.decode

/-- All conditions of a row hold. -/
def holds (row : Row) (world : World) (s : State) : Bool :=
  row.tests.all (Condition.holds world s)

end Row

/-- A slot that holds zero would hold in every state. -/
theorem Condition.holds_decode_zero (world : World) (s : State) :
    (Condition.decode 0).holds world s = true := by
  rfl

/-- Every condition on an unknown item fails. -/
theorem Condition.holds_item_of_unknown {world : World} {s : State} {i : Nat} (test : ItemTest)
    (h : s.location? i = none) : (Condition.item test i).holds world s = false := by
  simp [Condition.holds, h]

end TextAdventure

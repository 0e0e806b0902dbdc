import TextAdventure.Data.LoadError
import TextAdventure.World

/-!
# The check of the action table

Everything that the conditions and commands of a row name has to be there, before a game begins.

Main results:

- Definition `World.missingIn?`: the first thing a row names that the world does not have.
- Definition `World.checkRows`: the world, unless some row names something it does not have.
-/

namespace TextAdventure.World

/-- What a condition names that the world does not have. -/
def missingInCondition? (world : World) (c : Condition) : Option (Reference × LoadError.Site) :=
  (c.reference?.filter fun r => !world.admits r).map (·, .condition c)

/-- What a command names that the world does not have. -/
def missingInCommand? (world : World) (c : Command) (o : Operands) :
    Option (Reference × LoadError.Site) :=
  (c.missing? o world).map (·, .command c)

/-- The first thing a row names that the world does not have, conditions before commands. -/
def missingIn? (world : World) (row : Row) : Option (Reference × LoadError.Site) :=
  (row.tests.findSome? world.missingInCondition?).or
    (row.program.findSome? fun (c, o) => world.missingInCommand? c o)

/-- The first row that names something the world does not have. -/
def faultyRow? (world : World) : Option (Nat × Reference × LoadError.Site) :=
  world.rows.zipIdx.findSome? fun (row, number) =>
    (world.missingIn? row).map fun (reference, site) => (number, reference, site)

/-- Refuse a world in which some row names something it does not have. -/
def checkRows (world : World) : Except LoadError World :=
  match world.faultyRow? with
  | some (number, reference, site) => .error (.invalidReference number reference site)
  | none => .ok world

end TextAdventure.World

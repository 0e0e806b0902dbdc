import TextAdventure.Disk
import TextAdventure.Game.Output

/-!
# Hosts

Everything by which the console program touches the outside.  The same program runs at a terminal
and against files and input that are given in advance.

How a terminal clears its screen and waits, and where a seed comes from that nobody has chosen, is
up to the host.  The program keeps no log.

Main results:

- Structure `Host`: files, output and chance.
- Definition `Host.render`: how an event is shown.
-/

namespace TextAdventure.Console

/-- What the program needs from the outside. -/
structure Host (m : Type → Type) where
  read : String → m (Except FileError String)
  write : String → String → m (Except FileError Unit)
  print : String → m Unit
  complain : String → m Unit
  clear : m Unit
  pause : Nat → m Unit
  /-- A seed for a game whose seed is not given. -/
  seed : m UInt64

variable {m : Type → Type} [Monad m]

/-- Show an event. -/
def Host.render (host : Host m) : Event → m Unit
  | .line text => host.print (text ++ "\n")
  | .text text => host.print text
  | .clear => host.clear
  | .delay millis => host.pause millis
  | .save => pure ()

/-- Print a line. -/
def Host.line (host : Host m) (text : String) : m Unit :=
  host.print (text ++ "\n")

end TextAdventure.Console

import Logline.Level.Registry
import Logline.Redactor
import Logline.Time.Instant

/-! # Environment

What the engines of a program find around them: the known levels, the terminal, the directories
that are shown by signs, and the local time.
-/

namespace Logline

structure Environment where
  registry : LevelRegistry
  terminalColors : Bool
  workingDirectory : String
  homeDirectory : String
  /-- The zone of the place where the program runs; at another time it may have another offset. -/
  localZone : Instant → Zone
  deriving Inhabited

/-- The redactor of the directories of the program. -/
def Environment.redactor (env : Environment) : Redactor :=
  (Redactor.empty.withWorkingDirectory env.workingDirectory).withHome env.homeDirectory

end Logline

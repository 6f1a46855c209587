import Logline.Level.Basic

/-! # Escalations

A record of the level of panics or of fatal errors has an effect on the program after it is
written. The level itself decides, not the one that stands for it in comparisons.
-/

namespace Logline

inductive Escalation where
  | panic (message : String)
  | exit (code : Int)
  deriving DecidableEq, Repr, Inhabited

namespace Escalation

def fatalExitCode : Int := 70

/-- What a record owes after it is written. -/
def ofLevel (level : Level) (message : String) : Option Escalation :=
  if level = .panic then some (.panic message)
  else if level = .fatal then some (.exit fatalExitCode)
  else none

end Escalation

end Logline

import Stencil.Host.Basic

/-!
# The log on the standard error output

Of the log, the command shows the records that reach a threshold, one a line. `threshold?` reads the
threshold from the name of a level.
-/

namespace Stencil

namespace Level

/-- The name of a level. -/
def name : Level → Text
  | .debug => "DEBUG"
  | .info => "INFO"
  | .warning => "WARNING"
  | .error => "ERROR"
  | .critical => "CRITICAL"

/-- How much a level matters. -/
def rank : Level → Nat
  | .debug => 10
  | .info => 20
  | .warning => 30
  | .error => 40
  | .critical => 50

end Level

namespace CommandLine

/-- The ranks by name, with the names that are short or out of use. -/
def ranks : List (String × Nat) :=
  [("CRITICAL", 50), ("FATAL", 50), ("ERROR", 40), ("WARN", 30), ("WARNING", 30), ("INFO", 20),
    ("DEBUG", 10), ("NOTSET", 0)]

/-- The rank from which on records are shown, by the name of a level. -/
def threshold? (name : Text) : Option Nat :=
  (ranks.find? fun e => e.1.toList = name).map Prod.snd

/-- A record as a line, behind the time. -/
def logLine (time : Text) (r : LogRecord) : Text :=
  time ++ ' ' :: r.level.name ++ ' ' :: r.logger ++ ": " ++ r.message ++ ['\n']

/-- The lines of the records that reach a threshold. -/
def logLines (time : Text) (threshold : Nat) (log : List LogRecord) : Text :=
  (log.filter fun r => threshold ≤ r.level.rank).flatMap (logLine time)

end CommandLine

end Stencil

import Stencil.Error
import Stencil.Host.Basic

/-!
# Runs

A run changes the host and may fail; what it changed before a failure stays.
-/

namespace Stencil

/-- A computation that changes the host and may fail. -/
abbrev Run := ExceptT Failure (StateM Host)

namespace Run

/-- Fails with an error of the tool. -/
def error {α : Type} (e : Error) : Run α := throw (.error e)

/-- Changes the host. -/
def change (f : Host → Host) : Run Unit := fun h => (.ok (), f h)

/-- Adds a record to the log. -/
def note (level : Level) (logger message : Text) : Run Unit :=
  change (Host.note level logger message)

/-- Calls a program; its answer, unless it is missing. -/
def call (c : Call) : Run (Option Answer) := fun h =>
  match h.call c with
  | (answer, h) => ((c.answered answer).mapError .crash, h)

/-- Looks at the host. -/
def look {α : Type} (f : Host → Except Failure α) : Run α := fun h => (f h, h)

end Run

end Stencil

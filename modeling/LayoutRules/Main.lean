import LayoutRules.Command.Program

/-!
# The command line program

Reads the standard input where the command needs it, runs the command, and
prints what it leaves behind.
-/

namespace LayoutRules

/-- The bytes of the standard input, unless it is a terminal or not needed. -/
def readInput (arguments : List String) : IO (Option ByteArray) := do
  match Command.Invocation.ofArguments? (arguments.map String.toList) with
  | none => return none
  | some invocation =>
      let stdin ← IO.getStdin
      if invocation.needsInput && !(← stdin.isTty) then
        return some (← stdin.readBinToEnd)
      else
        return none

/-- The lines of the events that a command logs. -/
def logLines (outcome : Command.Outcome) : String :=
  String.join (outcome.log.map fun event => Command.asLine event.message)

end LayoutRules

/-- Runs the command that the arguments name. -/
def main (arguments : List String) : IO UInt32 := do
  let input ← LayoutRules.readInput arguments
  let outcome := LayoutRules.Command.run arguments input
  IO.eprint (LayoutRules.logLines outcome)
  IO.print outcome.output
  IO.eprint outcome.diagnostics
  return outcome.status

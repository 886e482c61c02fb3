import LayoutRules.Command.Arguments

/-!
# The program

A command line and the bytes of the standard input determine the status and
the texts of both outputs. A failing command prints nothing but its error.
-/

namespace LayoutRules
namespace Command

/-- What a run of the program leaves behind. -/
structure Outcome where
  status : UInt32
  output : String
  diagnostics : String
  log : List Event
deriving DecidableEq, Repr

/-- The program's name and version. -/
def versionLine : String :=
  "ccslayout 0.1.0"

/-- How the program is to be called. -/
def usage : String :=
  "usage: check [--json] [--pretty] [--trace] [--max-len N] [RULE] | tokens [RULE]"

/-- The reason why bytes are no text. -/
def notText : String :=
  "stream did not contain valid UTF-8"

/-- Text on a line of its own. -/
def asLine (text : String) : String :=
  text ++ "\n"

namespace Outcome

/-- A command that succeeds with some lines. -/
def success (lines : List String) (log : List Event) : Outcome :=
  ⟨0, String.join (lines.map asLine), "", log⟩

/-- A command that fails. -/
def failure (error : CommandError) (log : List Event) : Outcome :=
  ⟨1, "", asLine error.message, log⟩

/-- A command line that is not well formed. -/
def misuse : Outcome :=
  ⟨2, "", asLine usage, []⟩

end Outcome

/--
The rule of a command: its argument, or else the whole input, which is absent
when nobody but a person at a terminal could give it.
-/
def ruleText
    (argument : Option String)
    (input : Option ByteArray) :
    Except CommandError (Option String) :=
  match argument, input with
  | some rule, _ => .ok (some rule)
  | none, none => .ok none
  | none, some bytes =>
      match String.fromUTF8? bytes with
      | some text => .ok (some text)
      | none => .error (.input notText)

/-- The events that a check logs: all of them if it is traced. -/
def Check.log (check : Check) (events : List Event) : List Event :=
  if check.settings.trace then events else []

/-- Runs a check whose rule may be the input. -/
def Check.outcome (check : Check) (input : Option ByteArray) : Outcome :=
  match ruleText check.rule input with
  | .error error => .failure error []
  | .ok rule =>
      match { check with rule }.run with
      | (.error error, events) => .failure error (check.log events)
      | (.ok report, events) => .success [report.text] (check.log events)

/-- Runs a listing whose rule may be the input. -/
def listOutcome (argument : Option String) (input : Option ByteArray) : Outcome :=
  match ruleText argument input with
  | .error error => .failure error []
  | .ok none => .failure .noRule []
  | .ok (some rule) =>
      match list rule with
      | .error error => .failure error []
      | .ok lines => .success lines []

/-- Runs what a command line asks for. -/
def Invocation.run
    (invocation : Invocation)
    (input : Option ByteArray) :
    Outcome :=
  match invocation with
  | .version => .success [versionLine] []
  | .check request => request.outcome input
  | .list argument => listOutcome argument input

/-- Whether a command reads its rule from the input. -/
def Invocation.needsInput : Invocation → Bool
  | .version => false
  | .check request => request.rule.isNone
  | .list argument => argument.isNone

/-- Runs the program on a command line. -/
def run (arguments : List String) (input : Option ByteArray) : Outcome :=
  match Invocation.ofArguments? (arguments.map String.toList) with
  | none => .misuse
  | some invocation => invocation.run input

end Command
end LayoutRules

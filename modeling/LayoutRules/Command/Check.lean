import LayoutRules.Command.Error
import LayoutRules.Rule.Reader
import LayoutRules.Tree.Document

/-!
# Checking a rule and listing its pieces

A check writes a rule in its canonical form or as a document. A listing
shows each piece of a rule on a line. Both pass over the blanks around a rule.
-/

namespace LayoutRules
namespace Command

/-- What is to be checked, and how the answer is written. -/
structure Check where
  rule : Option String
  json : Bool
  pretty : Bool
  settings : Settings
deriving DecidableEq, Repr

/-- The answer to a check. -/
inductive Report where
  | canonical (text : String)
  | json (text : String)
deriving DecidableEq, Repr

/-- The text of an answer. -/
def Report.text : Report → String
  | .canonical text => text
  | .json text => text

/-- A rule without the blanks around it. -/
def trimmed (rule : String) : String :=
  String.ofList (Text.trim rule.toList)

/-- How the tree of a rule is written. -/
def Check.report
    (check : Check)
    (tree : Tree Unit) :
    Report :=
  if check.json then
    .json (if check.pretty then tree.prettyJson else tree.json)
  else
    .canonical tree.text

/-- The answer to a check, and what happened meanwhile. -/
def Check.run (check : Check) : Except CommandError Report × List Event :=
  match check.rule with
  | none => (.error .noRule, [])
  | some rule =>
      match Tree.ofText check.settings (trimmed rule) with
      | (.error error, events) => (.error (.rule error), events)
      | (.ok tree, events) =>
          (.ok (check.report tree), events ++ [.treeReleased tree.released])

/-- A text of at least a width, filled up in front. -/
def padLeft (width : Nat) (text : String) : String :=
  String.ofList (List.replicate (width - text.length) ' ') ++ text

/-- A text of at least a width, filled up behind. -/
def padRight (width : Nat) (text : String) : String :=
  text ++ String.ofList (List.replicate (width - text.length) ' ')

/-- The line of one token: its number, its category and its text. -/
def line (token : Token) : String :=
  padLeft 3 (String.ofList (Decimal.text token.code)) ++ " " ++
    padRight 28 token.describe ++ " " ++ token.text

/-- The lines of a rule's pieces. -/
def list (rule : String) : Except CommandError (List String) :=
  match Scanner.scan (trimmed rule) with
  | .error error => .error (.source error)
  | .ok contents => .ok ((contents.map .piece).map line)

end Command
end LayoutRules

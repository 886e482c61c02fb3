import LayoutRules.Command.Check

/-!
# Command lines

A command line names a command and gives its options and its rule. An option
is given at most once, a rule too, and behind a lone pair of hyphens every
argument is a rule.
-/

namespace LayoutRules
namespace Command

/-- What a command line asks for. -/
inductive Invocation where
  | version
  | check (check : Check)
  | list (rule : Option String)
deriving DecidableEq, Repr

/-- An argument by its outer form. -/
inductive Argument where
  | separator
  | long (name : List Char) (value : Option (List Char))
  | short (letters : List Char)
  | plain (text : List Char)
deriving DecidableEq, Repr

/-- The outer form of an argument; a lone hyphen is plain. -/
def Argument.ofList : List Char → Argument
  | ['-', '-'] => .separator
  | '-' :: '-' :: option =>
      match option.dropWhile (· != '=') with
      | [] => .long option none
      | _ :: value => .long (option.takeWhile (· != '=')) (some value)
  | '-' :: letter :: letters => .short (letter :: letters)
  | text => .plain text

/-- The options of a check that are on or off. -/
inductive Switch where
  | json
  | pretty
  | trace
deriving DecidableEq, Repr

/-- The switch of a long name. -/
def Switch.ofName? (name : List Char) : Option Switch :=
  if name = "json".toList then some .json
  else if name = "pretty".toList then some .pretty
  else if name = "trace".toList then some .trace
  else none

/-- The switch of a letter. -/
def Switch.ofLetter? (letter : Char) : Option Switch :=
  if letter = 'j' then some .json
  else if letter = 'p' then some .pretty
  else none

/-- A natural number below 2 ^ 64 in decimal digits, which a plus sign may precede. -/
def readLength? (text : List Char) : Option Nat :=
  let digits :=
    match text with
    | '+' :: rest => rest
    | _ => text
  if digits ≠ [] ∧ digits.all Char.isDigit ∧ Decimal.read digits < Nat.pow 2 64 then
    some (Decimal.read digits)
  else
    none

namespace Check

/-- A check with no rule and no option. -/
def bare : Check :=
  ⟨none, false, false, Settings.default⟩

/-- The check with a switch on that was off. -/
def turnOn (check : Check) : Switch → Option Check
  | .json => if check.json then none else some { check with json := true }
  | .pretty => if check.pretty then none else some { check with pretty := true }
  | .trace =>
      if check.settings.trace then
        none
      else
        some { check with settings := check.settings.withTrace true }

/-- The check with the switches of some letters on. -/
def turnOnAll (check : Check) (letters : List Char) : Option Check :=
  letters.foldlM (fun check letter => (Switch.ofLetter? letter).bind check.turnOn) check

/-- The check with a greatest length where there was none. -/
def limit (check : Check) (text : List Char) : Option Check :=
  match check.settings.maxLength, readLength? text with
  | none, some length =>
      some { check with settings := check.settings.withMaxLength length }
  | _, _ => none

/-- The check with a rule where there was none. -/
def takeRule (check : Check) (text : List Char) : Option Check :=
  match check.rule with
  | none => some { check with rule := some (String.ofList text) }
  | some _ => none

/-- The check with the options and the rule that its arguments give. -/
def ofArguments (check : Check) : List (List Char) → Option Check
  | [] => some check
  | argument :: rest =>
      match Argument.ofList argument with
      | .separator => rest.foldlM takeRule check
      | .plain text =>
          match check.takeRule text with
          | some check => check.ofArguments rest
          | none => none
      | .short letters =>
          match check.turnOnAll letters with
          | some check => check.ofArguments rest
          | none => none
      | .long name value =>
          if name = "max-len".toList then
            match value, rest with
            | some text, rest =>
                match check.limit text with
                | some check => check.ofArguments rest
                | none => none
            | none, next :: rest =>
                match Argument.ofList next with
                | .plain text =>
                    match check.limit text with
                    | some check => check.ofArguments rest
                    | none => none
                | _ => none
            | none, [] => none
          else
            match Switch.ofName? name, value with
            | some switch, none =>
                match check.turnOn switch with
                | some check => check.ofArguments rest
                | none => none
            | _, _ => none

end Check

/-- The rule of a listing, if its arguments give at most one and nothing else. -/
def listArguments
    (rule : Option (List Char)) :
    List (List Char) → Option (Option (List Char))
  | [] => some rule
  | argument :: rest =>
      match Argument.ofList argument, rule with
      | .separator, rule =>
          match rule, rest with
          | rule, [] => some rule
          | none, [text] => some (some text)
          | _, _ => none
      | .plain text, none => listArguments (some text) rest
      | _, _ => none

/-- What a command line asks for, if it is well formed. -/
def Invocation.ofArguments? : List (List Char) → Option Invocation
  | [] => none
  | command :: rest =>
      if command = "check".toList then
        (Check.bare.ofArguments rest).map .check
      else if command = "tokens".toList then
        (listArguments none rest).map fun rule => .list (rule.map String.ofList)
      else if command = "--version".toList ∨ command.take 2 = ['-', 'V'] then
        some .version
      else
        none

end Command
end LayoutRules

import LayoutRules.Queue
import LayoutRules.Rule.Event
import LayoutRules.Scanner

/-!
# Reading rules

A rule is an attribute, an operator and a value. A reader holds one token in
advance of its source and can be asked for a rule again and again: a request
goes on where the one before it stopped.

A token is given up only once the next one is there, so an error of the source
leaves the reader with the token that it had.
-/

namespace LayoutRules

/-- A source with the token in advance of it, and the number of tokens given up. -/
structure Reader (σ : Type) where
  source : σ
  current : Token
  position : Nat
  trace : Bool
deriving DecidableEq, Repr

/-- What a reading comes to: its outcome, the reader after it, and what happened. -/
structure Step (σ α : Type) where
  outcome : Except RuleError α
  reader : Reader σ
  events : List Event

/-- A reading acts on a reader. -/
def Reading (σ α : Type) : Type :=
  Reader σ → Step σ α

namespace Reading

variable {σ α β δ : Type}

instance : Monad (Reading σ) where
  pure a := fun reader => ⟨.ok a, reader, []⟩
  bind first second := fun reader =>
    match first reader with
    | ⟨.error e, after, events⟩ => ⟨.error e, after, events⟩
    | ⟨.ok a, after, events⟩ =>
        let step := second a after
        ⟨step.outcome, step.reader, events ++ step.events⟩

/-- The token in advance. -/
def current : Reading σ Token :=
  fun reader => ⟨.ok reader.current, reader, []⟩

/-- A failing reading. -/
def fail (error : RuleError) : Reading σ α :=
  fun reader => ⟨.error error, reader, []⟩

/-- The failure of finding something else than what a rule needs. -/
def unexpected (expected : Expectation) : Reading σ α :=
  fun reader =>
    ⟨.error (.unexpected expected reader.current.label reader.position), reader, []⟩

/-- An event that only a traced reading shows. -/
def note (event : Event) : Reading σ Unit :=
  fun reader => ⟨.ok (), reader, if reader.trace then [event] else []⟩

/-- Gives the current token up for the source's next one. -/
def shift [Source σ] : Reading σ Token :=
  fun reader =>
    match Source.next reader.source with
    | (.error e, source) => ⟨.error (.ofSource e), { reader with source }, []⟩
    | (.ok next, source) =>
        ⟨.ok reader.current,
          { reader with source, current := next, position := reader.position + 1 },
          if reader.trace then [.shifted reader.current reader.position] else []⟩

/-- The node of a content over its operands; a refusal is always shown. -/
def node
    (content : Content)
    (left right : Option (Tree δ)) :
    Reading σ (Tree δ) :=
  fun reader =>
    match Tree.create content left right with
    | .ok tree => ⟨.ok tree, reader, []⟩
    | .error refusal =>
        ⟨.error (.shape refusal.error), reader, [.nodeRejected refusal]⟩

/-- The leaf of a token that was given up. -/
def reduce : Token → Reading σ (Tree δ)
  | .piece content => do
      let leaf ← node content none none
      note (.reduced leaf.category)
      pure leaf
  | .finish =>
      fun reader =>
        ⟨.error (.unexpected .literal Token.finish.label reader.position), reader, []⟩

/-- The attribute at the start of a rule. -/
def attr [Source σ] : Reading σ (Tree δ) := do
  let token ← current
  if token.isAttribute then
    let token ← shift
    reduce token
  else
    unexpected .attr

/-- The operator of a rule. -/
def operator [Source σ] : Reading σ Operator := do
  let token ← current
  match token.operator? with
  | some op =>
      let _ ← shift
      pure op
  | none => unexpected .operator

/-- The value at the end of a rule. -/
def value [Source σ] : Reading σ (Tree δ) := do
  let token ← current
  if token.isValue then
    let token ← shift
    reduce token
  else
    unexpected .value

/-- The end behind a rule. -/
def finish : Reading σ Unit :=
  fun reader =>
    if reader.current = .finish then
      ⟨.ok (), reader, []⟩
    else
      ⟨.error (.trailing reader.current.label reader.position), reader, []⟩

/-- A reading whose failure gives back the leaves that were built before it. -/
def orAbandon
    (reading : Reading σ α)
    (built : List (Tree δ)) :
    Reading σ α :=
  fun reader =>
    match reading reader with
    | ⟨.ok a, after, events⟩ => ⟨.ok a, after, events⟩
    | ⟨.error e, after, events⟩ =>
        let released := built.foldl (fun sum tree => sum + tree.released) .nothing
        ⟨.error e, after, events ++ if after.trace then [.abandoned released] else []⟩

/-- A whole rule and the end behind it. -/
def rule [Source σ] : Reading σ (Tree δ) := do
  let token ← current
  if token = .finish then
    fail .empty
  else
    let left ← attr
    let op ← orAbandon operator [left]
    let right ← orAbandon value [left]
    orAbandon finish [left, right]
    let root ← node (.operator op) (some left) (some right)
    note (.accepted root.category)
    pure root

/-- A reading whose failure is always shown. -/
def shown (reading : Reading σ α) : Reading σ α :=
  fun reader =>
    match reading reader with
    | ⟨.ok a, after, events⟩ => ⟨.ok a, after, events⟩
    | ⟨.error e, after, events⟩ => ⟨.error e, after, events ++ [.ruleRejected e]⟩

end Reading

namespace Reader

variable {σ δ : Type}

/-- A reader that has taken its first token from a source. -/
def start [Source σ]
    (source : σ)
    (trace : Bool) :
    Except RuleError (Reader σ) :=
  match Source.next source with
  | (.error e, _) => .error (.ofSource e)
  | (.ok first, source) => .ok ⟨source, first, 0, trace⟩

/-- One request for a rule. -/
def read [Source σ] (reader : Reader σ) : Step σ (Tree δ) :=
  Reading.shown Reading.rule reader

end Reader

/-- How a text is read: whether its reading is traced, and how many bytes it may have. -/
structure Settings where
  trace : Bool
  maxLength : Option Nat
deriving DecidableEq, Repr

namespace Settings

/-- Nothing is traced and nothing is too long. -/
def default : Settings :=
  ⟨false, none⟩

/-- The settings with a traced reading or an untraced one. -/
def withTrace (settings : Settings) (trace : Bool) : Settings :=
  { settings with trace }

/-- The settings with a greatest length in bytes. -/
def withMaxLength (settings : Settings) (length : Nat) : Settings :=
  { settings with maxLength := some length }

/-- The excess of a text over the greatest length. -/
def lengthError? (settings : Settings) (rule : String) : Option RuleError :=
  match settings.maxLength with
  | none => none
  | some limit =>
      if limit < rule.utf8ByteSize then
        some (.tooLong rule.utf8ByteSize limit)
      else
        none

end Settings

namespace Tree

variable {δ : Type}

/-- The tree of the first rule that a source delivers, and what happened meanwhile. -/
def ofSource
    {σ : Type} [Source σ]
    (trace : Bool)
    (source : σ) :
    Except RuleError (Tree δ) × List Event :=
  match Reader.start source trace with
  | .error error => (.error error, [])
  | .ok reader =>
      let step := reader.read
      (step.outcome, step.events)

/-- The events of a reading that was announced. -/
def announce (rule : String) (events : List Event) : List Event :=
  .announced rule :: .entered :: (events ++ [.exited])

/--
The tree of the one rule in a text, and what happened meanwhile. The length is
looked at before anything is read.
-/
def ofText
    (settings : Settings)
    (rule : String) :
    Except RuleError (Tree δ) × List Event :=
  match settings.lengthError? rule with
  | some error => (.error error, [])
  | none =>
      let (outcome, events) := ofSource settings.trace (Scanner.ofString rule)
      (outcome, if settings.trace then announce rule events else events)

/-- The tree of the one rule in a text. -/
def parse (rule : String) : Except RuleError (Tree δ) :=
  (ofText Settings.default rule).1

end Tree

end LayoutRules

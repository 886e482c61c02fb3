/-!
# Outlines of values

An outline shows how a value is built: a name with its parts. It is written
on one line, or with every part on a line of its own.
-/

namespace LayoutRules
namespace Text

mutual

/-- How a value is built. -/
inductive Outline where
  | atom (text : String)
  | wrapped (name : String) (part : Outline)
  | record (name : String) (fields : Fields)

/-- The labelled parts of a record. -/
inductive Fields where
  | none
  | cons (label : String) (part : Outline) (rest : Fields)

end

namespace Fields

/-- One labelled part. -/
def one (label : String) (part : Outline) : Fields :=
  .cons label part .none

end Fields

/-- The blanks in front of a line that stands inside a number of open parts. -/
def outlineMargin (depth : Nat) : String :=
  String.ofList (List.replicate (4 * depth) ' ')

mutual

/-- The outline on one line. -/
def Outline.inline : Outline → String
  | .atom text => text
  | .wrapped name part => name ++ "(" ++ part.inline ++ ")"
  | .record name .none => name
  | .record name (.cons label part rest) =>
      name ++ " \x7b " ++ label ++ ": " ++ part.inline ++ rest.inline ++ " \x7d"

/-- The parts that follow the first one on a line. -/
def Fields.inline : Fields → String
  | .none => ""
  | .cons label part rest =>
      ", " ++ label ++ ": " ++ part.inline ++ rest.inline

end

mutual

/-- The outline with each part on a line of its own, four columns deeper. -/
def Outline.indented (depth : Nat) : Outline → String
  | .atom text => text
  | .wrapped name part =>
      name ++ "(\n" ++ outlineMargin (depth + 1) ++ part.indented (depth + 1) ++ ",\n" ++
        outlineMargin depth ++ ")"
  | .record name .none => name
  | .record name (.cons label part rest) =>
      name ++ " \x7b\n" ++
        outlineMargin (depth + 1) ++ label ++ ": " ++ part.indented (depth + 1) ++ ",\n" ++
        rest.indented (depth + 1) ++ outlineMargin depth ++ "\x7d"

/-- The lines of the parts that follow the first one. -/
def Fields.indented (depth : Nat) : Fields → String
  | .none => ""
  | .cons label part rest =>
      outlineMargin depth ++ label ++ ": " ++ part.indented depth ++ ",\n" ++
        rest.indented depth

end

/-- The outline over several lines. -/
def Outline.lines (outline : Outline) : String :=
  outline.indented 0

end Text
end LayoutRules

import LayoutRules.Decimal.Style
import LayoutRules.Json.Basic

/-!
# The text of a document

A document is written without any blank, or over several lines with two
columns for each open object. The two differ in blanks outside texts alone.
-/

namespace LayoutRules
namespace Json

/-- Numbers keep a point, and have a signed exponent from 1e+16 on and below 1e-5. -/
def numberStyle : NumberStyle where
  scientific := some ⟨-5, 15, true⟩
  wholePoint := true
  tie := .even

/-- A control character by its code point in four hexadecimal digits. -/
def controlCharacter (c : Char) : List Char :=
  let digits := Nat.toDigits 16 c.toNat
  '\\' :: 'u' :: (List.replicate (4 - digits.length) '0' ++ digits)

/-- One character as it stands inside a text. -/
def textCharacter (c : Char) : List Char :=
  if c = '"' then ['\\', '"']
  else if c = '\\' then ['\\', '\\']
  else if c = '\x08' then ['\\', 'b']
  else if c = '\x0c' then ['\\', 'f']
  else if c = '\n' then ['\\', 'n']
  else if c = '\r' then ['\\', 'r']
  else if c = '\t' then ['\\', 't']
  else if c < ' ' then controlCharacter c
  else [c]

/-- A text between quotes. -/
def quote (characters : List Char) : List Char :=
  '"' :: (characters.flatMap textCharacter ++ ['"'])

/-- The start of a line inside a number of open objects. -/
def margin (depth : Nat) : List Char :=
  '\n' :: List.replicate (2 * depth) ' '

mutual

/-- The document on one line. -/
def Value.compact : Value → List Char
  | .natural n => Decimal.text n
  | .number x => numberStyle.number x
  | .text characters => quote characters
  | .object .none => ['\x7b', '\x7d']
  | .object (.cons key value rest) =>
      '\x7b' :: (quote key ++ ':' :: (value.compact ++ (rest.compact ++ ['\x7d'])))

/-- The members that follow another one on a line. -/
def Members.compact : Members → List Char
  | .none => []
  | .cons key value rest =>
      ',' :: (quote key ++ ':' :: (value.compact ++ rest.compact))

end

mutual

/-- The document over several lines, inside a number of open objects. -/
def Value.pretty (depth : Nat) : Value → List Char
  | .natural n => Decimal.text n
  | .number x => numberStyle.number x
  | .text characters => quote characters
  | .object .none => ['\x7b', '\x7d']
  | .object (.cons key value rest) =>
      '\x7b' :: (margin (depth + 1) ++ (quote key ++ ':' :: ' ' ::
        (value.pretty (depth + 1) ++ (rest.pretty (depth + 1) ++
          (margin depth ++ ['\x7d'])))))

/-- The members that follow another one, each on a line. -/
def Members.pretty (depth : Nat) : Members → List Char
  | .none => []
  | .cons key value rest =>
      ',' :: (margin depth ++ (quote key ++ ':' :: ' ' ::
        (value.pretty depth ++ rest.pretty depth)))

end

end Json
end LayoutRules

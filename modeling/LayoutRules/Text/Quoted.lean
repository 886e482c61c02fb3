import LayoutRules.Text.Combining
import LayoutRules.Text.Ignorable
import LayoutRules.Text.Unprintable

/-!
# Quoted text

A text between double quotes in which every character can be told apart: a
quote and a backslash are escaped, the common controls have letters, and what
cannot be printed, may show nothing or joins its neighbour is written by its
code point.
-/

namespace LayoutRules
namespace Text

/-- A code point in lower-case hexadecimal between braces. -/
def codePoint (c : Char) : List Char :=
  "\\u\x7b".toList ++ Nat.toDigits 16 c.toNat ++ ['\x7d']

/-- One character as it stands inside quotes. -/
def quotedCharacter (c : Char) : List Char :=
  if c = '"' then ['\\', '"']
  else if c = '\\' then ['\\', '\\']
  else if c = '\t' then ['\\', 't']
  else if c = '\n' then ['\\', 'n']
  else if c = '\r' then ['\\', 'r']
  else if c = '\x00' then ['\\', '0']
  else if ' ' ≤ c ∧ c ≤ '~' then [c]
  else if isUnprintable c || isIgnorable c || isCombining c then codePoint c
  else [c]

/-- The text between quotes. -/
def quoted (text : String) : String :=
  String.ofList ('"' :: text.toList.flatMap quotedCharacter ++ ['"'])

end Text
end LayoutRules

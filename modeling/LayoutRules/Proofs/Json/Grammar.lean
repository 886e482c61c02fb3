import LayoutRules.Binary64.Nearest
import LayoutRules.Json.Basic
import LayoutRules.Proofs.Literal.Numeral

/-!
# The texts of documents

The grammar of Json for the documents that there are: objects, texts and
numbers, with blanks between any two of their parts. A text may write each of
its characters as it is or by an escape. A number that is a plain run of
digits is a natural, and every other one is the binary64 number nearest to it.
-/

namespace LayoutRules
namespace Json

/-- The blanks between the parts of a document. -/
def isSpace (c : Char) : Bool :=
  c == ' ' || c == '\t' || c == '\n' || c == '\r'

section Texts

/-- The value of a hexadecimal digit, whose letters have either case. -/
def hexDigit? (c : Char) : Option Nat :=
  if c.isDigit then
    some (c.toNat - '0'.toNat)
  else if 'a' ≤ c ∧ c ≤ 'f' then
    some (c.toNat - 'a'.toNat + 10)
  else if 'A' ≤ c ∧ c ≤ 'F' then
    some (c.toNat - 'A'.toNat + 10)
  else
    none

/-- The code unit that four hexadecimal digits write. -/
def unit? : List Char → Option Nat
  | [a, b, c, d] => do
      let a ← hexDigit? a
      let b ← hexDigit? b
      let c ← hexDigit? c
      let d ← hexDigit? d
      return ((a * 16 + b) * 16 + c) * 16 + d
  | _ => none

/-- The character that a letter behind a backslash stands for. -/
def shorthand? : Char → Option Char
  | '"' => some '"'
  | '\\' => some '\\'
  | '/' => some '/'
  | 'b' => some '\x08'
  | 'f' => some '\x0c'
  | 'n' => some '\n'
  | 'r' => some '\r'
  | 't' => some '\t'
  | _ => none

/-- The ways to write one character of a text; beyond the first plane a pair of units does. -/
inductive Character.Spelling : List Char → Char → Prop
  | plain
      {c : Char}
      (hcontrol : ' ' ≤ c)
      (hquote : c ≠ '"')
      (hbackslash : c ≠ '\\') :
      Character.Spelling [c] c
  | short
      {letter c : Char}
      (h : shorthand? letter = some c) :
      Character.Spelling ['\\', letter] c
  | unit
      {digits : List Char} {c : Char}
      (h : unit? digits = some c.toNat) :
      Character.Spelling ('\\' :: 'u' :: digits) c
  | pair
      {high low : List Char} {first second : Nat} {c : Char}
      (hhigh : unit? high = some (0xD800 + first))
      (hfirst : first < 0x400)
      (hlow : unit? low = some (0xDC00 + second))
      (hsecond : second < 0x400)
      (hcode : c.toNat = 0x10000 + first * 0x400 + second) :
      Character.Spelling ('\\' :: 'u' :: (high ++ '\\' :: 'u' :: low)) c

/-- The ways to write the characters of a text between its quotes. -/
inductive Characters.Spelling : List Char → List Char → Prop
  | nil : Characters.Spelling [] []
  | cons
      {front back : List Char} {c : Char} {rest : List Char}
      (hfirst : Character.Spelling front c)
      (hrest : Characters.Spelling back rest) :
      Characters.Spelling (front ++ back) (c :: rest)

end Texts

/-- The parts of a number's text; the power of ten keeps its mark and its sign. -/
structure Number where
  negative : Bool
  whole : List Char
  fraction : List Char
  power : List Char

namespace Number

/-- Digits behind a point, which does not stand without digits. -/
def pointed : List Char → List Char
  | [] => []
  | digit :: rest => '.' :: digit :: rest

/-- The text that the parts make up. -/
def characters (number : Number) : List Char :=
  (if number.negative then ['-'] else []) ++
    (number.whole ++ (pointed number.fraction ++ number.power))

/-- Digits with no superfluous zero in front. -/
inductive IsWhole : List Char → Prop
  | zero : IsWhole ['0']
  | digits
      {digit : Char} {rest : List Char}
      (hdigit : digit.isDigit = true)
      (hne : digit ≠ '0')
      (hrest : Text.Within Char.isDigit rest) :
      IsWhole (digit :: rest)

theorem IsWhole.within
    {whole : List Char}
    (h : IsWhole whole) :
    Text.Within Char.isDigit whole := by
  cases h with
  | zero => exact Text.within_cons.mpr ⟨by decide, Text.within_nil⟩
  | digits hdigit hne hrest => exact Text.within_cons.mpr ⟨hdigit, hrest⟩

/-- An e of either case, a sign or none, and digits; or nothing at all. -/
inductive IsPower : List Char → Prop
  | absent : IsPower []
  | present
      {mark : Char} {sign digits : List Char} {negative : Bool}
      (hmark : mark = 'e' ∨ mark = 'E')
      (hsign : Numeral.Sign sign negative)
      (hdigits : Text.Within Char.isDigit digits)
      (hne : digits ≠ []) :
      IsPower (mark :: (sign ++ digits))

/-- The parts are as the grammar has them. -/
structure IsNumber (number : Number) : Prop where
  whole : IsWhole number.whole
  fraction : Text.Within Char.isDigit number.fraction
  power : IsPower number.power

/-- The exponent of ten that a power denotes. -/
def exponent : List Char → Int
  | [] => 0
  | _ :: amount =>
      let magnitude := Decimal.read (Numeral.unsigned amount)
      if Numeral.isNegative amount then -magnitude else magnitude

/-- The decimal of the digits, without the sign. -/
def decimal (number : Number) : Decimal :=
  ⟨Decimal.read (number.whole ++ number.fraction),
    exponent number.power - number.fraction.length⟩

/-- The binary64 number nearest to the number. -/
def nearest (number : Number) : Binary64 :=
  .ofDecimal number.negative number.decimal

/-- The number is a run of digits and nothing else. -/
def isNatural (number : Number) : Bool :=
  !number.negative && number.fraction.isEmpty && number.power.isEmpty

/-- The value of the number, unless it rounds to an infinity. -/
def value? (number : Number) : Option Value :=
  if number.isNatural then
    some (.natural (Decimal.read number.whole))
  else if number.nearest.isFinite then
    some (.number number.nearest)
  else
    none

end Number

/-- The texts of values that have no parts of their own. -/
inductive Scalar.Spelling : List Char → Value → Prop
  | number
      {number : Number} {value : Value}
      (h : number.IsNumber)
      (hvalue : number.value? = some value) :
      Scalar.Spelling number.characters value
  | text
      {characters text : List Char}
      (h : Characters.Spelling characters text) :
      Scalar.Spelling ('"' :: (characters ++ ['"'])) (.text text)

/-- The texts up to a member's value: the key between quotes, and a colon. -/
inductive Key.Spelling : List Char → List Char → Prop
  | key
      {before characters between behind key : List Char}
      (hbefore : Text.Within isSpace before)
      (hkey : Characters.Spelling characters key)
      (hbetween : Text.Within isSpace between)
      (hbehind : Text.Within isSpace behind) :
      Key.Spelling (before ++ '"' :: (characters ++ '"' :: (between ++ ':' :: behind))) key

mutual

/-- The texts of values. -/
inductive Value.Spelling : List Char → Value → Prop
  | scalar
      {text : List Char} {value : Value}
      (h : Scalar.Spelling text value) :
      Value.Spelling text value
  | empty
      {space : List Char}
      (hspace : Text.Within isSpace space) :
      Value.Spelling ('\x7b' :: (space ++ ['\x7d'])) (.object .none)
  | object
      {front text rest space key : List Char} {value : Value} {members : Members}
      (hkey : Key.Spelling front key)
      (hvalue : Value.Spelling text value)
      (hrest : Members.Spelling rest members)
      (hspace : Text.Within isSpace space) :
      Value.Spelling
        ('\x7b' :: (front ++ (text ++ (rest ++ (space ++ ['\x7d'])))))
        (.object (.cons key value members))

/-- The texts of the members that follow another one. -/
inductive Members.Spelling : List Char → Members → Prop
  | none : Members.Spelling [] .none
  | cons
      {space front text rest key : List Char} {value : Value} {members : Members}
      (hspace : Text.Within isSpace space)
      (hkey : Key.Spelling front key)
      (hvalue : Value.Spelling text value)
      (hrest : Members.Spelling rest members) :
      Members.Spelling
        (space ++ ',' :: (front ++ (text ++ rest)))
        (.cons key value members)

end

/-- A text is a document of a value: the value's text between blanks. -/
def IsDocument (text : List Char) (value : Value) : Prop :=
  ∃ before characters behind,
    Text.Within isSpace before ∧
    Value.Spelling characters value ∧
    Text.Within isSpace behind ∧
    text = before ++ (characters ++ behind)

end Json
end LayoutRules

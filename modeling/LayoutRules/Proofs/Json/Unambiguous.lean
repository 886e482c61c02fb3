import LayoutRules.Proofs.Json.Grammar

/-!
# A text is a document of one value only

Each rule of the grammar fixes how far its text goes once it is known what may
follow it. So a text that begins with a spelled value begins with no other
one, and what is behind the value is fixed with it.
-/

namespace LayoutRules
namespace Json

section Texts

theorem length_of_unit?
    {digits : List Char} {unit : Nat}
    (h : unit? digits = some unit) :
    digits.length = 4 := by
  unfold unit? at h
  split at h
  case h_1 => rfl
  case h_2 => cases h

/-- Four digits are where they are, whatever follows. -/
theorem unit_unique
    {digits digits' back back' : List Char} {unit unit' : Nat}
    (h : unit? digits = some unit)
    (h' : unit? digits' = some unit')
    (heq : digits ++ back = digits' ++ back') :
    unit = unit' ∧ back = back' := by
  obtain ⟨rfl, rfl⟩ :=
    List.append_inj heq ((length_of_unit? h).trans (length_of_unit? h').symm)
  rw [h] at h'
  exact ⟨Option.some.inj h', rfl⟩

/-- A character is no surrogate. -/
theorem toNat_ne_surrogate
    (c : Char)
    {first : Nat}
    (hfirst : first < 0x400) :
    c.toNat ≠ 0xD800 + first := by
  have hvalid : c.toNat < 0xD800 ∨ (0xDFFF < c.toNat ∧ c.toNat < 0x110000) := c.valid
  omega

/-- A written character neither is nor begins with a quote. -/
theorem Character.Spelling.exists_cons
    {front : List Char} {c : Char}
    (h : Character.Spelling front c) :
    ∃ d tail, front = d :: tail ∧ d ≠ '"' := by
  cases h with
  | plain hcontrol hquote hbackslash => exact ⟨c, [], rfl, hquote⟩
  | short hshort => exact ⟨'\\', _, rfl, by decide⟩
  | unit hunit => exact ⟨'\\', _, rfl, by decide⟩
  | pair hhigh hfirst hlow hsecond hcode => exact ⟨'\\', _, rfl, by decide⟩

/-- The letter in front of four digits is short for nothing. -/
theorem ne_u_of_shorthand?
    {letter c : Char}
    (h : shorthand? letter = some c) :
    letter ≠ 'u' := by
  rintro rfl
  cases h

theorem Character.Spelling.unique
    {front front' back back' : List Char} {c c' : Char}
    (h : Character.Spelling front c)
    (h' : Character.Spelling front' c')
    (heq : front ++ back = front' ++ back') :
    c = c' ∧ back = back' := by
  cases h with
  | plain hcontrol hquote hbackslash =>
      cases h' with
      | plain => exact List.cons.inj heq
      | _ => exact absurd (List.cons.inj heq).1 hbackslash
  | short hshort =>
      cases h' with
      | plain _ _ hbackslash => exact absurd (List.cons.inj heq).1.symm hbackslash
      | short hshort' =>
          obtain ⟨rfl, rfl⟩ := List.cons.inj (List.cons.inj heq).2
          rw [hshort] at hshort'
          exact ⟨Option.some.inj hshort', rfl⟩
      | _ => exact absurd (List.cons.inj (List.cons.inj heq).2).1 (ne_u_of_shorthand? hshort)
  | unit hunit =>
      cases h' with
      | plain _ _ hbackslash => exact absurd (List.cons.inj heq).1.symm hbackslash
      | short hshort =>
          exact absurd (List.cons.inj (List.cons.inj heq).2).1.symm (ne_u_of_shorthand? hshort)
      | unit hunit' =>
          obtain ⟨hcode, rfl⟩ :=
            unit_unique hunit hunit' (List.cons.inj (List.cons.inj heq).2).2
          exact ⟨Char.toNat_inj.mp hcode, rfl⟩
      | pair hhigh hfirst hlow hsecond hcode =>
          simp only [List.cons_append, List.append_assoc, List.cons.injEq, true_and] at heq
          exact absurd (unit_unique hunit hhigh heq).1 (toNat_ne_surrogate c hfirst)
  | pair hhigh hfirst hlow hsecond hcode =>
      cases h' with
      | plain _ _ hbackslash => exact absurd (List.cons.inj heq).1.symm hbackslash
      | short hshort =>
          exact absurd (List.cons.inj (List.cons.inj heq).2).1.symm (ne_u_of_shorthand? hshort)
      | unit hunit =>
          simp only [List.cons_append, List.append_assoc, List.cons.injEq, true_and] at heq
          exact absurd (unit_unique hunit hhigh heq.symm).1 (toNat_ne_surrogate c' hfirst)
      | pair hhigh' hfirst' hlow' hsecond' hcode' =>
          simp only [List.cons_append, List.append_assoc, List.cons.injEq, true_and] at heq
          obtain ⟨hunit, htail⟩ := unit_unique hhigh hhigh' heq
          simp only [List.cons.injEq, true_and] at htail
          obtain ⟨hunit', rfl⟩ := unit_unique hlow hlow' htail
          exact ⟨Char.toNat_inj.mp (by omega), rfl⟩

/-- The quote behind a text is the first one that no escape has taken. -/
theorem Characters.Spelling.unique
    {front front' back back' text text' : List Char}
    (h : Characters.Spelling front text)
    (h' : Characters.Spelling front' text')
    (heq : front ++ '"' :: back = front' ++ '"' :: back') :
    text = text' ∧ back = back' := by
  induction h generalizing front' text' with
  | nil =>
      cases h' with
      | nil => simpa using heq
      | cons hfirst hrest =>
          obtain ⟨d, tail, rfl, hd⟩ := hfirst.exists_cons
          exact absurd (List.cons.inj heq).1.symm hd
  | cons hfirst hrest ih =>
      cases h' with
      | nil =>
          obtain ⟨d, tail, rfl, hd⟩ := hfirst.exists_cons
          exact absurd (List.cons.inj heq).1 hd
      | cons hfirst' hrest' =>
          rw [List.append_assoc, List.append_assoc] at heq
          obtain ⟨rfl, htail⟩ := hfirst.unique hfirst' heq
          obtain ⟨rfl, rfl⟩ := ih hrest' htail
          exact ⟨rfl, rfl⟩

end Texts

namespace Number

/-- The characters that numbers are written with. -/
def isCharacter (c : Char) : Bool :=
  c.isDigit || c == '-' || c == '+' || c == '.' || c == 'e' || c == 'E'

theorem isCharacter_of_isDigit
    {c : Char}
    (h : c.isDigit = true) :
    isCharacter c = true := by
  simp [isCharacter, h]

theorem within_isCharacter
    {digits : List Char}
    (h : Text.Within Char.isDigit digits) :
    Text.Within isCharacter digits :=
  fun c hc => isCharacter_of_isDigit (h c hc)

theorem IsWhole.exists_cons
    {whole : List Char}
    (h : IsWhole whole) :
    ∃ digit rest, whole = digit :: rest ∧ digit.isDigit = true := by
  cases h with
  | zero => exact ⟨'0', [], rfl, by decide⟩
  | digits hdigit hne hrest => exact ⟨_, _, rfl, hdigit⟩

/-- The digits of a number do not begin with its sign. -/
theorem IsWhole.ne_minus
    {whole back tail : List Char}
    (h : IsWhole whole) :
    whole ++ back ≠ '-' :: tail := by
  obtain ⟨digit, rest, rfl, hdigit⟩ := h.exists_cons
  intro hcons
  rw [(List.cons.inj hcons).1] at hdigit
  exact absurd hdigit (by decide)

theorem IsPower.within
    {power : List Char}
    (h : IsPower power) :
    Text.Within isCharacter power := by
  cases h with
  | absent => exact Text.within_nil
  | present hmark hsign hdigits hne =>
      refine Text.within_cons.mpr ⟨?_, Text.within_append.mpr ⟨?_, within_isCharacter hdigits⟩⟩
      · rcases hmark with rfl | rfl <;> decide
      · cases hsign with
        | absent => exact Text.within_nil
        | plus => exact Text.within_cons.mpr ⟨by decide, Text.within_nil⟩
        | minus => exact Text.within_cons.mpr ⟨by decide, Text.within_nil⟩

/-- A power begins with its mark, so the digits in front of it end there. -/
theorem IsPower.stops
    {power : List Char}
    (h : IsPower power) :
    Text.Stops Char.isDigit power := by
  cases h with
  | absent => exact Text.stops_nil
  | present hmark hsign hdigits hne =>
      rcases hmark with rfl | rfl <;> exact Text.stops_cons.mpr rfl

theorem IsPower.ne_point
    {power rest : List Char}
    (h : IsPower power) :
    power ≠ '.' :: rest := by
  rintro rfl
  cases h with
  | present hmark hsign hdigits hne =>
      rcases hmark with hmark | hmark <;> exact absurd hmark (by decide)

theorem within_pointed
    {fraction : List Char}
    (h : Text.Within Char.isDigit fraction) :
    Text.Within isCharacter (pointed fraction) := by
  cases fraction with
  | nil => exact Text.within_nil
  | cons digit rest => exact Text.within_cons.mpr ⟨by decide, within_isCharacter h⟩

theorem stops_pointed_append
    {fraction power : List Char}
    (hpower : IsPower power) :
    Text.Stops Char.isDigit (pointed fraction ++ power) := by
  cases fraction with
  | nil => exact hpower.stops
  | cons digit rest => exact Text.stops_cons.mpr rfl

theorem IsNumber.within
    {number : Number}
    (h : number.IsNumber) :
    Text.Within isCharacter number.characters := by
  refine Text.within_append.mpr ⟨?_, Text.within_append.mpr
    ⟨within_isCharacter h.whole.within, Text.within_append.mpr
      ⟨within_pointed h.fraction, h.power.within⟩⟩⟩
  split
  · exact Text.within_cons.mpr ⟨by decide, Text.within_nil⟩
  · exact Text.within_nil

/-- A number has a character, which is one of those that numbers are written with. -/
theorem IsNumber.exists_cons
    {number : Number}
    (h : number.IsNumber) :
    ∃ c tail, number.characters = c :: tail ∧ isCharacter c = true := by
  obtain ⟨c, tail, htext⟩ : ∃ c tail, number.characters = c :: tail := by
    apply List.exists_cons_of_ne_nil
    obtain ⟨digit, rest, hwhole, -⟩ := h.whole.exists_cons
    simp [characters, hwhole]
  have hwithin := h.within
  rw [htext, Text.within_cons] at hwithin
  exact ⟨c, tail, htext, hwithin.1⟩

/-- A point tells digits behind it from none. -/
theorem pointed_unique
    {fraction fraction' power power' : List Char}
    (hfraction : Text.Within Char.isDigit fraction)
    (hfraction' : Text.Within Char.isDigit fraction')
    (hpower : IsPower power)
    (hpower' : IsPower power')
    (heq : pointed fraction ++ power = pointed fraction' ++ power') :
    fraction = fraction' ∧ power = power' := by
  cases fraction with
  | nil =>
      cases fraction' with
      | nil => exact ⟨rfl, heq⟩
      | cons digit rest => exact absurd heq hpower.ne_point
  | cons digit rest =>
      cases fraction' with
      | nil => exact absurd heq.symm hpower'.ne_point
      | cons digit' rest' =>
          exact Text.split_unique hfraction hfraction' hpower.stops hpower'.stops
            (List.cons.inj heq).2

/-- The parts of a number are fixed by its text. -/
theorem eq_of_characters_eq
    {number number' : Number}
    (h : number.IsNumber)
    (h' : number'.IsNumber)
    (heq : number.characters = number'.characters) :
    number = number' := by
  obtain ⟨negative, whole, fraction, power⟩ := number
  obtain ⟨negative', whole', fraction', power'⟩ := number'
  have hsign :
      negative = negative' ∧
        whole ++ (pointed fraction ++ power) = whole' ++ (pointed fraction' ++ power') := by
    cases negative with
    | false =>
        cases negative' with
        | false => exact ⟨rfl, heq⟩
        | true => exact absurd heq h.whole.ne_minus
    | true =>
        cases negative' with
        | false => exact absurd heq.symm h'.whole.ne_minus
        | true => exact ⟨rfl, (List.cons.inj heq).2⟩
  obtain ⟨rfl, hunsigned⟩ := hsign
  obtain ⟨rfl, htail⟩ :=
    Text.split_unique h.whole.within h'.whole.within (stops_pointed_append h.power)
      (stops_pointed_append h'.power) hunsigned
  obtain ⟨rfl, rfl⟩ := pointed_unique h.fraction h'.fraction h.power h'.power htail
  rfl

end Number

section Scalars

variable {front front' back back' text : List Char} {value value' : Value}

/-- A scalar begins with a quote or as a number. -/
theorem Scalar.Spelling.exists_cons
    (h : Scalar.Spelling text value) :
    ∃ c tail, text = c :: tail ∧ (c = '"' ∨ Number.isCharacter c = true) := by
  cases h with
  | number hnumber hvalue =>
      obtain ⟨c, tail, htext, hc⟩ := hnumber.exists_cons
      exact ⟨c, tail, htext, Or.inr hc⟩
  | text hcharacters => exact ⟨'"', _, rfl, Or.inl rfl⟩

theorem Scalar.Spelling.ne_brace
    {tail : List Char}
    (h : Scalar.Spelling text value) :
    text ++ back ≠ '\x7b' :: tail := by
  obtain ⟨c, rest, rfl, hc⟩ := h.exists_cons
  intro hcons
  rw [(List.cons.inj hcons).1] at hc
  exact absurd hc (by decide)

theorem Number.IsNumber.ne_quote
    {number : Number} {tail : List Char}
    (h : number.IsNumber) :
    number.characters ++ back ≠ '"' :: tail := by
  obtain ⟨c, rest, hrest, hc⟩ := h.exists_cons
  rw [hrest]
  intro hcons
  rw [(List.cons.inj hcons).1] at hc
  exact absurd hc (by decide)

theorem Scalar.Spelling.unique
    (h : Scalar.Spelling front value)
    (h' : Scalar.Spelling front' value')
    (hback : Text.Stops Number.isCharacter back)
    (hback' : Text.Stops Number.isCharacter back')
    (heq : front ++ back = front' ++ back') :
    value = value' ∧ back = back' := by
  cases h with
  | number hnumber hvalue =>
      cases h' with
      | number hnumber' hvalue' =>
          obtain ⟨hcharacters, rfl⟩ :=
            Text.split_unique hnumber.within hnumber'.within hback hback' heq
          obtain rfl := Number.eq_of_characters_eq hnumber hnumber' hcharacters
          rw [hvalue] at hvalue'
          exact ⟨Option.some.inj hvalue', rfl⟩
      | text hcharacters => exact absurd heq hnumber.ne_quote
  | text hcharacters =>
      cases h' with
      | number hnumber' hvalue' => exact absurd heq.symm hnumber'.ne_quote
      | text hcharacters' =>
          simp only [List.cons_append, List.append_assoc, List.nil_append, List.cons.injEq,
            true_and] at heq
          obtain ⟨rfl, rfl⟩ := hcharacters.unique hcharacters' heq
          exact ⟨rfl, rfl⟩

end Scalars

section Values

variable {front front' back back' text space space' : List Char}

/-- Blanks go up to the first character that is none. -/
theorem eq_of_space_append
    {c c' : Char}
    (hspace : Text.Within isSpace space)
    (hspace' : Text.Within isSpace space')
    (hc : isSpace c = false)
    (hc' : isSpace c' = false)
    (heq : space ++ c :: back = space' ++ c' :: back') :
    c = c' ∧ back = back' :=
  List.cons.inj
    (Text.split_unique hspace hspace' (Text.stops_cons.mpr hc) (Text.stops_cons.mpr hc') heq).2

theorem Key.Spelling.unique
    {key key' : List Char}
    (h : Key.Spelling front key)
    (h' : Key.Spelling front' key')
    (hback : Text.Stops isSpace back)
    (hback' : Text.Stops isSpace back')
    (heq : front ++ back = front' ++ back') :
    key = key' ∧ back = back' := by
  cases h with
  | key hbefore hkey hbetween hbehind =>
      cases h' with
      | key hbefore' hkey' hbetween' hbehind' =>
          simp only [List.cons_append, List.append_assoc] at heq
          obtain ⟨-, hopen⟩ := eq_of_space_append hbefore hbefore' rfl rfl heq
          obtain ⟨rfl, hclosed⟩ := hkey.unique hkey' hopen
          obtain ⟨-, hvalue⟩ := eq_of_space_append hbetween hbetween' rfl rfl hclosed
          obtain ⟨-, rfl⟩ := Text.split_unique hbehind hbehind' hback hback' hvalue
          exact ⟨rfl, rfl⟩

/-- No number is written with a blank. -/
theorem isCharacter_eq_false_of_isSpace
    {c : Char}
    (h : isSpace c = true) :
    Number.isCharacter c = false := by
  simp only [isSpace, Bool.or_eq_true, beq_iff_eq] at h
  rcases h with ((rfl | rfl) | rfl) | rfl
  all_goals rfl

theorem isSpace_eq_false_of_isCharacter
    {c : Char}
    (h : Number.isCharacter c = true) :
    isSpace c = false := by
  by_contra hspace
  rw [isCharacter_eq_false_of_isSpace (by simpa using hspace)] at h
  cases h

/-- A value does not begin with a blank. -/
theorem Value.Spelling.stops
    {value : Value}
    (h : Value.Spelling text value)
    (back : List Char) :
    Text.Stops isSpace (text ++ back) := by
  cases h with
  | scalar hscalar =>
      obtain ⟨c, tail, rfl, hc⟩ := hscalar.exists_cons
      refine Text.stops_cons.mpr ?_
      rcases hc with rfl | hnumber
      · rfl
      · exact isSpace_eq_false_of_isCharacter hnumber
  | empty hspace => exact Text.stops_cons.mpr rfl
  | object hkey hvalue hrest hspace => exact Text.stops_cons.mpr rfl

theorem stops_brace
    (hspace : Text.Within isSpace space) :
    Text.Stops Number.isCharacter (space ++ '\x7d' :: back) :=
  hspace.stops_append (Text.stops_cons.mpr (by decide)) fun _ => isCharacter_eq_false_of_isSpace

/-- Behind the value of a member a number does not go on. -/
theorem Members.Spelling.stops
    {members : Members}
    (h : Members.Spelling text members)
    (hspace : Text.Within isSpace space) :
    Text.Stops Number.isCharacter (text ++ (space ++ '\x7d' :: back)) := by
  cases h with
  | none => exact stops_brace hspace
  | cons hcomma hkey hvalue hrest =>
      rw [List.append_assoc]
      exact hcomma.stops_append (Text.stops_cons.mpr (by decide))
        fun _ => isCharacter_eq_false_of_isSpace

/-- An object with members does not close at once. -/
theorem Key.Spelling.ne_brace
    {key : List Char}
    (h : Key.Spelling front key)
    (hspace : Text.Within isSpace space) :
    front ++ back ≠ space ++ '\x7d' :: back' := by
  cases h with
  | key hbefore hkey hbetween hbehind =>
      intro heq
      rw [List.append_assoc] at heq
      have hbrace : '"' = '\x7d' := (eq_of_space_append hbefore hspace rfl rfl heq).1
      exact absurd hbrace (by decide)

/-- Members with another one in front of them do not end at once. -/
theorem comma_ne_brace
    (hspace : Text.Within isSpace space)
    (hspace' : Text.Within isSpace space') :
    space ++ ',' :: back ≠ space' ++ '\x7d' :: back' := by
  intro heq
  have hbrace : ',' = '\x7d' := (eq_of_space_append hspace hspace' rfl rfl heq).1
  exact absurd hbrace (by decide)

end Values

mutual

/-- A text that begins with a value begins with no other one. -/
theorem Value.Spelling.unique
    (value : Value)
    {front front' back back' : List Char} {value' : Value}
    (h : Value.Spelling front value)
    (h' : Value.Spelling front' value')
    (hback : Text.Stops Number.isCharacter back)
    (hback' : Text.Stops Number.isCharacter back')
    (heq : front ++ back = front' ++ back') :
    value = value' ∧ back = back' := by
  cases h with
  | scalar hscalar =>
      cases h' with
      | scalar hscalar' => exact hscalar.unique hscalar' hback hback' heq
      | empty hspace' => exact absurd heq hscalar.ne_brace
      | object hkey' hvalue' hrest' hspace' => exact absurd heq hscalar.ne_brace
  | empty hspace =>
      cases h' with
      | scalar hscalar' => exact absurd heq.symm hscalar'.ne_brace
      | empty hspace' =>
          simp only [List.cons_append, List.append_assoc, List.nil_append, List.cons.injEq,
            true_and] at heq
          exact ⟨rfl, (eq_of_space_append hspace hspace' rfl rfl heq).2⟩
      | object hkey' hvalue' hrest' hspace' =>
          simp only [List.cons_append, List.append_assoc, List.nil_append, List.cons.injEq,
            true_and] at heq
          exact absurd heq.symm (hkey'.ne_brace hspace)
  | @object _ _ _ _ key value members hkey hvalue hrest hspace =>
      cases h' with
      | scalar hscalar' => exact absurd heq.symm hscalar'.ne_brace
      | empty hspace' =>
          simp only [List.cons_append, List.append_assoc, List.nil_append, List.cons.injEq,
            true_and] at heq
          exact absurd heq (hkey.ne_brace hspace')
      | object hkey' hvalue' hrest' hspace' =>
          simp only [List.cons_append, List.append_assoc, List.nil_append, List.cons.injEq,
            true_and] at heq
          obtain ⟨rfl, hfirst⟩ := hkey.unique hkey' (hvalue.stops _) (hvalue'.stops _) heq
          obtain ⟨rfl, hothers⟩ :=
            Value.Spelling.unique value hvalue hvalue' (hrest.stops hspace)
              (hrest'.stops hspace') hfirst
          obtain ⟨rfl, rfl⟩ :=
            Members.Spelling.unique members hrest hrest' hspace hspace' hothers
          exact ⟨rfl, rfl⟩

/-- The members up to a closing brace are fixed by their text. -/
theorem Members.Spelling.unique
    (members : Members)
    {front front' space space' back back' : List Char} {members' : Members}
    (h : Members.Spelling front members)
    (h' : Members.Spelling front' members')
    (hspace : Text.Within isSpace space)
    (hspace' : Text.Within isSpace space')
    (heq : front ++ (space ++ '\x7d' :: back) = front' ++ (space' ++ '\x7d' :: back')) :
    members = members' ∧ back = back' := by
  cases h with
  | none =>
      cases h' with
      | none => exact ⟨rfl, (eq_of_space_append hspace hspace' rfl rfl heq).2⟩
      | cons hcomma' hkey' hvalue' hrest' =>
          rw [List.append_assoc] at heq
          exact absurd heq.symm (comma_ne_brace hcomma' hspace)
  | @cons _ _ _ _ key value rest hcomma hkey hvalue hrest =>
      cases h' with
      | none =>
          rw [List.append_assoc] at heq
          exact absurd heq (comma_ne_brace hcomma hspace')
      | cons hcomma' hkey' hvalue' hrest' =>
          simp only [List.cons_append, List.append_assoc] at heq
          obtain ⟨-, hmember⟩ := eq_of_space_append hcomma hcomma' rfl rfl heq
          obtain ⟨rfl, hfirst⟩ := hkey.unique hkey' (hvalue.stops _) (hvalue'.stops _) hmember
          obtain ⟨rfl, hothers⟩ :=
            Value.Spelling.unique value hvalue hvalue' (hrest.stops hspace)
              (hrest'.stops hspace') hfirst
          obtain ⟨rfl, rfl⟩ :=
            Members.Spelling.unique rest hrest hrest' hspace hspace' hothers
          exact ⟨rfl, rfl⟩

end

/-- A text is a document of at most one value. -/
theorem IsDocument.unique
    {text : List Char} {value value' : Value}
    (h : IsDocument text value)
    (h' : IsDocument text value') :
    value = value' := by
  obtain ⟨before, characters, behind, hbefore, hvalue, hbehind, rfl⟩ := h
  obtain ⟨before', characters', behind', hbefore', hvalue', hbehind', heq⟩ := h'
  have hstops {behind : List Char} (hbehind : Text.Within isSpace behind) :
      Text.Stops Number.isCharacter behind := by
    have hend := hbehind.stops_append (Text.stops_nil (p := Number.isCharacter))
      fun _ => isCharacter_eq_false_of_isSpace
    rwa [List.append_nil] at hend
  obtain ⟨-, hcharacters⟩ :=
    Text.split_unique hbefore hbefore' (hvalue.stops behind) (hvalue'.stops behind') heq
  exact (Value.Spelling.unique value hvalue hvalue' (hstops hbehind) (hstops hbehind')
    hcharacters).1

end Json
end LayoutRules

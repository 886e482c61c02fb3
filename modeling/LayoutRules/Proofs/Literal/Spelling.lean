import LayoutRules.Proofs.Binary64.Rounding
import LayoutRules.Proofs.Literal.Numeral

/-!
# The texts of components and literals

A component is a numeral with a mark behind it. A literal is one component
with a value, or two components joined by a comma, which are measured in one
thing together. The readers accept exactly these texts, and none of their
characters is blank, so a literal runs to the next blank.
-/

namespace LayoutRules

namespace Basis

/-- The marks (px|%w|%h|%)? behind a numeral. -/
inductive Mark : List Char → Basis → Prop
  | bare : Mark [] .absolute
  | pixels : Mark ['p', 'x'] .absolute
  | own : Mark ['%'] .own
  | width : Mark ['%', 'w'] .width
  | height : Mark ['%', 'h'] .height

theorem ofMark?_eq_some_iff
    {text : List Char} {basis : Basis} :
    ofMark? text = some basis ↔ Mark text basis := by
  constructor
  · intro h
    unfold ofMark? at h
    split at h <;> cases h <;> constructor
  · intro h
    cases h <;> rfl

/-- The canonical mark of a basis is one of its marks. -/
theorem mark_spells
    (basis : Basis) :
    Mark basis.mark basis :=
  ofMark?_eq_some_iff.mp (ofMark?_mark basis)

/-- No mark goes on with the digits or with the point of a numeral. -/
theorem Mark.stops
    {text : List Char} {basis : Basis}
    (h : Mark text basis) :
    Text.Stops Text.isDecimalDigit text ∧ Text.Stops (· == '.') text := by
  cases h with
  | bare => exact ⟨Text.stops_nil, Text.stops_nil⟩
  | pixels => exact ⟨Text.stops_cons.mpr (by decide), Text.stops_cons.mpr (by decide)⟩
  | own => exact ⟨Text.stops_cons.mpr (by decide), Text.stops_cons.mpr (by decide)⟩
  | width => exact ⟨Text.stops_cons.mpr (by decide), Text.stops_cons.mpr (by decide)⟩
  | height => exact ⟨Text.stops_cons.mpr (by decide), Text.stops_cons.mpr (by decide)⟩

/-- One component of a pair is measured on a basis, the other one on the same or in plain units. -/
def Prevails
    (basis first second : Basis) :
    Prop :=
  (first = basis ∧ (second = basis ∨ second = .absolute)) ∨
    (second = basis ∧ (first = basis ∨ first = .absolute))

/-- What a pair is measured in, by what its components are measured in. -/
structure Joint
    (first second joint : Basis) :
    Prop where
  absolute : joint = .absolute ↔ first = .absolute ∧ second = .absolute
  width : joint = .width ↔ Prevails .width first second
  height : joint = .height ↔ Prevails .height first second
  own :
    joint = .own ↔
      ¬ (first = .absolute ∧ second = .absolute) ∧
      ¬ Prevails .width first second ∧
      ¬ Prevails .height first second

theorem joint_join
    (first second : Basis) :
    Joint first second (join first second) := by
  cases first <;> cases second <;> constructor <;> simp [Prevails, join]

/-- A pair is measured in one thing only. -/
theorem Joint.eq_join
    {first second joint : Basis}
    (h : Joint first second joint) :
    joint = join first second := by
  have hjoin := joint_join first second
  cases joint with
  | absolute => exact (hjoin.absolute.mpr (h.absolute.mp rfl)).symm
  | own => exact (hjoin.own.mpr (h.own.mp rfl)).symm
  | width => exact (hjoin.width.mpr (h.width.mp rfl)).symm
  | height => exact (hjoin.height.mpr (h.height.mp rfl)).symm

theorem Joint.symm
    {first second joint : Basis}
    (h : Joint first second joint) :
    Joint second first joint := by
  rw [h.eq_join, join_comm]
  exact joint_join second first

end Basis

namespace Component

/-- The texts of a component: a numeral and a mark behind it. -/
inductive Spelling : List Char → Component → Prop
  | marked
      {front mark : List Char} {numeral : Numeral} {basis : Basis}
      (hnumeral : Numeral.Spelling front numeral)
      (hmark : Basis.Mark mark basis) :
      Spelling (front ++ mark) ⟨numeral, basis⟩

/-- A text is read as a component exactly when it spells that component. -/
theorem ofList?_eq_some_iff
    {text : List Char} {component : Component} :
    ofList? text = some component ↔ Spelling text component := by
  constructor
  · intro h
    unfold ofList? at h
    split at h
    case h_1 =>
      cases h
    case h_2 numeral mark hread =>
      split at h
      case h_1 =>
        cases h
      case h_2 basis hmark =>
        cases h
        obtain ⟨front, rfl, hfront⟩ := Numeral.exists_spelling_of_read? hread
        exact Spelling.marked hfront (Basis.ofMark?_eq_some_iff.mp hmark)
  · rintro ⟨hnumeral, hmark⟩
    obtain ⟨hdigit, hpoint⟩ := hmark.stops
    simp only [ofList?, hnumeral.read?_append hdigit hpoint,
      Basis.ofMark?_eq_some_iff.mpr hmark]

/-- The characters that occur in components. -/
def isCharacter (c : Char) : Bool :=
  Text.isDecimalDigit c || ['+', '-', '.', 'p', 'x', '%', 'w', 'h'].contains c

theorem isBlank_eq_false_of_isCharacter
    {c : Char}
    (h : isCharacter c = true) :
    Text.isBlank c = false := by
  rw [isCharacter, Bool.or_eq_true, List.contains_iff_mem] at h
  rcases h with hdigit | hmem
  · exact Text.isBlank_eq_false_of_isDecimalDigit hdigit
  · have hall :
        ['+', '-', '.', 'p', 'x', '%', 'w', 'h'].all (fun c => !Text.isBlank c) = true := by
      decide
    simpa using List.all_eq_true.mp hall c hmem

theorem within_of_sign
    {sign : List Char} {negative : Bool}
    (h : Numeral.Sign sign negative) :
    Text.Within isCharacter sign := by
  cases h with
  | absent => exact Text.within_nil
  | plus => exact Text.within_cons.mpr ⟨by decide, Text.within_nil⟩
  | minus => exact Text.within_cons.mpr ⟨by decide, Text.within_nil⟩

theorem within_of_digits
    {digits : List Char}
    (h : Text.Within Text.isDecimalDigit digits) :
    Text.Within isCharacter digits := by
  intro c hc
  simp [isCharacter, h c hc]

theorem within_of_numeral
    {text : List Char} {numeral : Numeral}
    (h : Numeral.Spelling text numeral) :
    Text.Within isCharacter text := by
  have hpoint : isCharacter '.' = true := by decide
  cases h with
  | whole hsign hwhole hne =>
      simp [within_of_sign hsign, within_of_digits hwhole]
  | pointed hsign hwhole hfraction hne =>
      simp [within_of_sign hsign, within_of_digits hwhole, within_of_digits hfraction, hpoint]
  | fraction hsign hfraction hne =>
      simp [within_of_sign hsign, within_of_digits hfraction, hpoint]

theorem within_of_mark
    {text : List Char} {basis : Basis}
    (h : Basis.Mark text basis) :
    Text.Within isCharacter text := by
  cases h <;> simp [isCharacter]

/-- A component has no other characters than those of components. -/
theorem Spelling.within
    {text : List Char} {component : Component}
    (h : Spelling text component) :
    Text.Within isCharacter text := by
  cases h with
  | marked hnumeral hmark =>
      exact Text.within_append.mpr ⟨within_of_numeral hnumeral, within_of_mark hmark⟩

/-- A component has no blank in it. -/
theorem Spelling.solid
    {text : List Char} {component : Component}
    (h : Spelling text component) :
    Text.Within (fun c => !Text.isBlank c) text := by
  intro c hc
  simp [isBlank_eq_false_of_isCharacter (h.within c hc)]

end Component

namespace Numeral

/--
A numeral of ASCII digits denotes a finite number with its sign, which is the
nearest one to the natural number that the digits write over a power of ten.
-/
structure Denotes
    (numeral : Numeral)
    (value : Binary64) :
    Prop where
  digits : Text.Within Char.isDigit (numeral.whole ++ numeral.fraction)
  negative : value.negative = numeral.negative
  finite : value.isFinite = true
  nearest :
    Binary64.IsNearest
      (Nat.ofDigitChars 10 (numeral.whole ++ numeral.fraction) 0)
      (10 ^ numeral.fraction.length)
      value.magnitude

/-- A numeral has a value. -/
def HasValue (numeral : Numeral) : Prop :=
  ∃ value, numeral.Denotes value

section Values

variable {numeral : Numeral} {value : Binary64}

/-- A finite magnitude is the one of the decimal exactly when it is nearest to what is written. -/
theorem nearest_decimal_iff
    (hfinite : value.isFinite = true) :
    Binary64.nearest numeral.decimal.numerator numeral.decimal.denominator = value.magnitude ↔
      Binary64.IsNearest
        (Nat.ofDigitChars 10 (numeral.whole ++ numeral.fraction) 0)
        (10 ^ numeral.fraction.length)
        value.magnitude := by
  have hnumerator :
      numeral.decimal.numerator =
        Nat.ofDigitChars 10 (numeral.whole ++ numeral.fraction) 0 := by
    simp [decimal, Decimal.numerator, Decimal.read]
  have hdenominator : numeral.decimal.denominator = 10 ^ numeral.fraction.length := by
    simp [decimal, Decimal.denominator]
  rw [hnumerator, hdenominator]
  exact Binary64.nearest_eq_iff (Nat.pow_pos (by decide)) (of_decide_eq_true hfinite)

/-- What a numeral denotes is the number made from its decimal, if that is finite. -/
theorem denotes_iff :
    numeral.Denotes value ↔
      Text.Within Char.isDigit (numeral.whole ++ numeral.fraction) ∧
      value.isFinite = true ∧
      value = Binary64.ofDecimal numeral.negative numeral.decimal := by
  constructor
  · rintro ⟨hdigits, hnegative, hfinite, hnearest⟩
    have hmagnitude := (nearest_decimal_iff hfinite).mpr hnearest
    refine ⟨hdigits, hfinite, ?_⟩
    rw [← hnegative]
    exact (Binary64.ofDecimal_eq hmagnitude).symm
  · rintro ⟨hdigits, hfinite, rfl⟩
    exact ⟨hdigits, rfl, hfinite, (nearest_decimal_iff hfinite).mp rfl⟩

theorem hasValue_iff :
    numeral.HasValue ↔
      Text.Within Char.isDigit (numeral.whole ++ numeral.fraction) ∧
      (Binary64.ofDecimal numeral.negative numeral.decimal).isFinite = true := by
  constructor
  · rintro ⟨value, hdenotes⟩
    obtain ⟨hdigits, hfinite, rfl⟩ := denotes_iff.mp hdenotes
    exact ⟨hdigits, hfinite⟩
  · rintro ⟨hdigits, hfinite⟩
    exact ⟨_, denotes_iff.mpr ⟨hdigits, hfinite, rfl⟩⟩

/-- The value that is read from a numeral is the one that it denotes. -/
theorem value?_eq_some_iff :
    numeral.value? = some value ↔ numeral.Denotes value := by
  rw [denotes_iff]
  unfold value?
  simp only [Bool.and_eq_true, List.all_eq_true]
  constructor
  · intro h
    split at h
    case isTrue hvalue =>
      cases h
      exact ⟨hvalue.1, hvalue.2, rfl⟩
    case isFalse =>
      cases h
  · rintro ⟨hdigits, hfinite, rfl⟩
    rw [if_pos ⟨hdigits, hfinite⟩]

theorem value?_eq_none_iff :
    numeral.value? = none ↔ ¬ numeral.HasValue := by
  simp only [Option.eq_none_iff_forall_ne_some, ne_eq, value?_eq_some_iff, HasValue, not_exists]

end Values

end Numeral

namespace Literal

/-- The texts of a literal: a component with a value, or two components joined by a comma. -/
inductive Spelling : List Char → Content → Prop
  | amount
      {text : List Char} {component : Component} {value : Binary64}
      (hcomponent : Component.Spelling text component)
      (hdenotes : component.numeral.Denotes value) :
      Spelling text (.amount component.basis value)
  | coordinate
      {first second : List Char} {a b : Component} {joint : Basis}
      (hfirst : Component.Spelling first a)
      (hsecond : Component.Spelling second b)
      (hjoint : Basis.Joint a.basis b.basis joint) :
      Spelling (first ++ ',' :: second)
        (.coordinate joint (String.ofList (first ++ ',' :: second)))

/-- A text without a comma is not split. -/
theorem halves_of_within
    {text : List Char}
    (h : Text.Within (· != ',') text) :
    halves text = (text, none) := by
  unfold halves
  rw [List.dropWhile_eq_nil_iff.mpr h]

/-- A text with a comma is split at the first one. -/
theorem halves_append
    {first : List Char}
    (second : List Char)
    (h : Text.Within (· != ',') first) :
    halves (first ++ ',' :: second) = (first, some second) := by
  have hcomma : Text.Stops (· != ',') (',' :: second) :=
    Text.stops_cons.mpr (by decide)
  simp only [halves, Text.dropWhile_append h hcomma, Text.takeWhile_append h hcomma]

theorem within_ne_comma
    {text : List Char}
    (h : Text.Within Component.isCharacter text) :
    Text.Within (· != ',') text := by
  intro c hc
  rw [bne_iff_ne]
  rintro rfl
  exact absurd (h ',' hc) (by decide)

/-- The parts into which a text is split make it up again. -/
theorem eq_of_halves
    {text first : List Char} {second? : Option (List Char)}
    (h : halves text = (first, second?)) :
    text = first ++ (second?.map (',' :: ·)).getD [] := by
  have hsplit := (List.takeWhile_append_dropWhile (p := (· != ',')) (l := text)).symm
  have hstops := Text.stops_dropWhile (· != ',') text
  unfold halves at h
  split at h
  case h_1 =>
    obtain ⟨rfl, rfl⟩ := Prod.mk.inj h
    simp
  case h_2 c second hdrop =>
    obtain ⟨rfl, rfl⟩ := Prod.mk.inj h
    rw [hdrop] at hsplit hstops
    have hc : c = ',' := by simpa using hstops
    rw [hc] at hsplit
    exact hsplit

/-- What a component denotes by itself is the value of its numeral on its basis. -/
theorem content?_of_component
    {text : List Char} {component : Component}
    (h : Component.Spelling text component) :
    content? text = component.numeral.value?.map (.amount component.basis) := by
  simp only [content?, halves_of_within (within_ne_comma h.within),
    Component.ofList?_eq_some_iff.mpr h]

/-- A text denotes a content exactly when it spells that content. -/
theorem content?_eq_some_iff
    {text : List Char} {content : Content} :
    content? text = some content ↔ Spelling text content := by
  constructor
  · intro h
    unfold content? at h
    split at h
    case h_1 single hhalves =>
      have htext : text = single := by simpa using eq_of_halves hhalves
      subst htext
      split at h
      case h_1 =>
        cases h
      case h_2 component hcomponent =>
        obtain ⟨value, hvalue, rfl⟩ := Option.map_eq_some_iff.mp h
        exact Spelling.amount (Component.ofList?_eq_some_iff.mp hcomponent)
          (Numeral.value?_eq_some_iff.mp hvalue)
    case h_2 first second hhalves =>
      have htext : text = first ++ ',' :: second := eq_of_halves hhalves
      subst htext
      split at h
      case h_1 a b ha hb =>
        cases h
        exact Spelling.coordinate (Component.ofList?_eq_some_iff.mp ha)
          (Component.ofList?_eq_some_iff.mp hb) (Basis.joint_join _ _)
      case h_2 =>
        cases h
  · intro h
    cases h with
    | amount hcomponent hdenotes =>
        rw [content?_of_component hcomponent, Numeral.value?_eq_some_iff.mpr hdenotes,
          Option.map_some]
    | @coordinate first second a b joint hfirst hsecond hjoint =>
        simp only [content?, halves_append second (within_ne_comma hfirst.within),
          Component.ofList?_eq_some_iff.mpr hfirst, Component.ofList?_eq_some_iff.mpr hsecond,
          hjoint.eq_join]

/-- A literal has no blank in it. -/
theorem Spelling.within
    {text : List Char} {content : Content}
    (h : Spelling text content) :
    Text.Within (fun c => !Text.isBlank c) text := by
  cases h with
  | amount hcomponent hdenotes => exact hcomponent.solid
  | coordinate hfirst hsecond hjoint =>
      have hcomma : (!Text.isBlank ',') = true := by decide
      simp [hfirst.solid, hsecond.solid, hcomma]

/-- What opens a number is no sign. -/
theorem isSign_eq_false_of_opensNumber
    {c : Char}
    (h : opensNumber c = true) :
    Numeral.isSign c = false := by
  rcases Bool.or_eq_true _ _ ▸ h with hdigit | hpoint
  · exact Numeral.isSign_eq_false_of_isDecimalDigit (Text.isDecimalDigit_of_isDigit hdigit)
  · rw [beq_iff_eq.mp hpoint]
    decide

/-- Whether a text starts a literal is decided by the character behind its sign. -/
theorem startsIn_sign_append
    {sign : List Char} {negative : Bool} {c : Char}
    (rest : List Char)
    (hsign : Numeral.Sign sign negative)
    (hc : Numeral.isSign c = false) :
    startsIn (sign ++ c :: rest) = opensNumber c := by
  have hstops : Text.Stops Numeral.isSign (c :: rest) := Text.stops_cons.mpr hc
  rw [startsIn, (hsign.unsigned_append hstops).1]

/-- A text starts a literal when a digit of ASCII or a point follows its sign. -/
theorem startsIn_iff
    {text : List Char} :
    startsIn text = true ↔
      ∃ sign negative c rest,
        Numeral.Sign sign negative ∧ opensNumber c = true ∧ text = sign ++ c :: rest := by
  constructor
  · intro h
    obtain ⟨sign, hsign, htext⟩ := Numeral.exists_sign text
    unfold startsIn at h
    split at h
    case h_1 =>
      cases h
    case h_2 c rest hunsigned =>
      exact ⟨sign, _, c, rest, hsign, h, hunsigned ▸ htext⟩
  · rintro ⟨sign, negative, c, rest, hsign, hopens, rfl⟩
    rw [startsIn_sign_append rest hsign (isSign_eq_false_of_opensNumber hopens), hopens]

/-- The text begins with a digit of ASCII or a point, which a sign may precede. -/
def Opens (text : List Char) : Prop :=
  ∃ sign negative c rest,
    Numeral.Sign sign negative ∧
    (c.isDigit = true ∨ c = '.') ∧
    text = sign ++ c :: rest

theorem Opens.ne_nil
    {text : List Char}
    (h : Opens text) :
    text ≠ [] := by
  obtain ⟨sign, negative, c, rest, -, -, rfl⟩ := h
  exact List.append_ne_nil_of_right_ne_nil sign (List.cons_ne_nil c rest)

/-- A digit of ASCII opens a literal. -/
theorem opens_of_isDigit
    {c : Char}
    (rest : List Char)
    (h : c.isDigit = true) :
    Opens (c :: rest) :=
  ⟨[], false, c, rest, .absent, .inl h, rfl⟩

theorem startsIn_iff_opens
    {text : List Char} :
    startsIn text = true ↔ Opens text := by
  simp only [startsIn_iff, Opens, opensNumber, Bool.or_eq_true, beq_iff_eq]

theorem startsIn_append
    {text : List Char}
    (rest : List Char)
    (h : startsIn text = true) :
    startsIn (text ++ rest) = true := by
  obtain ⟨sign, negative, c, tail, hsign, hopens, rfl⟩ := startsIn_iff.mp h
  exact startsIn_iff.mpr ⟨sign, negative, c, tail ++ rest, hsign, hopens, by simp⟩

end Literal

end LayoutRules

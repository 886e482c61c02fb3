/-!
# Binary64 numbers

A binary64 number is a sign and a 63-bit magnitude. The magnitudes below
the infinite one count the finite numbers in ascending order, so neighbours on
the number line are neighbours as naturals; above it stand the NaNs.

No hardware arithmetic is involved: a finite magnitude denotes a natural
number of units, a unit being 2 to the power -1074.
-/

namespace LayoutRules

/-- A binary64 number by its sign bit and its other 63 bits. -/
structure Binary64 where
  negative : Bool
  magnitude : Nat
  magnitude_lt : magnitude < Nat.pow 2 63
deriving DecidableEq, Repr

namespace Binary64

/-- The magnitude of the two infinities. -/
def infinite : Nat :=
  0x7FF * Nat.pow 2 52

/-- The binary places of a unit behind the point. -/
def unitPlaces : Nat :=
  1074

/-- The number of units in one. -/
def unitsPerOne : Nat :=
  Nat.pow 2 unitPlaces

/-- The units that a finite magnitude denotes. -/
def units (magnitude : Nat) : Nat :=
  let exponent := magnitude / Nat.pow 2 52
  let fraction := magnitude % Nat.pow 2 52
  if exponent = 0 then
    fraction
  else
    (Nat.pow 2 52 + fraction) * Nat.pow 2 (exponent - 1)

/-- A finite number is neither an infinity nor a NaN. -/
def isFinite (x : Binary64) : Bool :=
  decide (x.magnitude < infinite)

/-- A NaN stands above the infinities. -/
def isNaN (x : Binary64) : Bool :=
  decide (infinite < x.magnitude)

/-- Numeric equality: a NaN differs from all, and the two zeros agree. -/
def same (x y : Binary64) : Bool :=
  !x.isNaN && !y.isNaN &&
    (decide (x = y) || (x.magnitude == 0 && y.magnitude == 0))

/-- The number with the given 64 bits, the sign first. -/
def ofBits (bits : UInt64) : Binary64 where
  negative := decide (Nat.pow 2 63 ≤ bits.toNat)
  magnitude := bits.toNat % Nat.pow 2 63
  magnitude_lt := Nat.mod_lt _ (by decide)

/-- The natural number that a number's 64 bits write. -/
def word (x : Binary64) : Nat :=
  (if x.negative then Nat.pow 2 63 else 0) + x.magnitude

/-- The 64 bits of a number, the sign first. -/
def toBits (x : Binary64) : UInt64 :=
  UInt64.ofNat x.word

theorem word_lt
    (x : Binary64) :
    x.word < UInt64.size := by
  have h := x.magnitude_lt
  unfold word
  simp only [Nat.pow_eq, UInt64.size] at h ⊢
  split <;> omega

theorem toNat_toBits
    (x : Binary64) :
    x.toBits.toNat = x.word :=
  Nat.mod_eq_of_lt x.word_lt

/-- A number is found again from its bits. -/
theorem ofBits_toBits
    (x : Binary64) :
    ofBits x.toBits = x := by
  have hword := x.toNat_toBits
  obtain ⟨negative, magnitude, h⟩ := x
  simp only [ofBits, hword, mk.injEq]
  simp only [word, Nat.pow_eq] at h ⊢
  cases negative with
  | false =>
      rw [if_neg Bool.false_ne_true]
      exact ⟨decide_eq_false (by omega), by omega⟩
  | true =>
      rw [if_pos rfl]
      exact ⟨decide_eq_true (by omega), by omega⟩

end Binary64

end LayoutRules

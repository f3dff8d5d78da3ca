import Mathlib.Data.Nat.Cast.Field
import Mathlib.Data.Rat.Cast.Order
import Mathlib.Tactic.NormNum.Basic
import Stencil.Number.Decimal

/-!
# Numbers that are integers

`toInt?_eq_some_iff`: the integer of a number is the rational that it is, if that is an integer.
`ofInt_of_toInt?`: the number nearest to this integer is the number itself, but for the sign of a
zero. For an integer that is a number has a logarithm from which the exponent of the number is
found, and at this exponent nothing is rounded.
-/

namespace Stencil.Number

/-! ## Codes -/

/-- The bits without the sign. -/
def code (x : Number) : Nat :=
  x.bits.toNat % Nat.pow 2 63

theorem ofCode_code (x : Number) : ofCode x.isNegative x.code = x := by
  have hbits := x.bits.toNat_lt
  unfold ofCode code isNegative
  have hsum : (if decide (Nat.pow 2 63 ≤ x.bits.toNat) = true then Nat.pow 2 63 else 0) +
      x.bits.toNat % Nat.pow 2 63 = x.bits.toNat := by
    simp only [Nat.pow_eq, decide_eq_true_eq]
    split <;> omega
  rw [hsum, UInt64.ofNat_toNat]

/-- How a finite magnitude `m * 2 ^ e` is coded: the significand has its full width, unless the
exponent is the least one. -/
structure Encodes (m : Nat) (e : Int) (code : Nat) : Prop where
  least : -1074 ≤ e
  narrow : m < 2 ^ 53
  full : 2 ^ 52 ≤ m ∨ e = -1074
  code_eq : code = (e + 1074).toNat * 2 ^ 52 + m
  finite : code < infinityCode

theorem encodes_of_magnitude {x : Number} {m : Nat} {e : Int} (h : x.magnitude = .finite m e) :
    Encodes m e x.code := by
  have hbits := x.bits.toNat_lt
  unfold magnitude at h
  unfold code
  simp only [Nat.pow_eq] at h ⊢
  generalize x.bits.toNat = bits at hbits h ⊢
  have hinfinity : infinityCode = 2047 * 2 ^ 52 := rfl
  split at h
  · split at h <;> cases h
  · split at h
    · obtain ⟨rfl, rfl⟩ := Magnitude.finite.inj h
      refine ⟨?_, ?_, ?_, ?_, ?_⟩ <;> omega
    · obtain ⟨rfl, rfl⟩ := Magnitude.finite.inj h
      refine ⟨?_, ?_, ?_, ?_, ?_⟩ <;> omega

/-! ## Rounding what needs no rounding -/

theorem divNearest_mul (m : Nat) {d : Nat} (hd : 0 < d) : divNearest (m * d) d = m := by
  unfold divNearest
  rw [Nat.mul_div_cancel m hd, Nat.mul_mod_left]
  exact if_pos (.inl hd)

theorem log2_mul_two_pow {n : Nat} (hn : n ≠ 0) (k : Nat) : (n * 2 ^ k).log2 = n.log2 + k := by
  have hlow := Nat.mul_le_mul_right (2 ^ k) (Nat.log2_self_le hn)
  have hhigh := Nat.mul_lt_mul_of_pos_right (Nat.lt_log2_self (n := n)) (Nat.two_pow_pos k)
  rw [← Nat.pow_add] at hlow hhigh
  rw [Nat.add_right_comm] at hhigh
  exact (Nat.log2_eq_iff (Nat.mul_ne_zero hn (Nat.two_pow_pos k).ne')).2 ⟨hlow, hhigh⟩

section Integers

-- the positive integer `n` is the magnitude `m * 2 ^ e`
variable {n m code : Nat} {e : Int} (hn : n ≠ 0) (h : n * 2 ^ (-e).toNat = m * 2 ^ e.toNat)
  (henc : Encodes m e code)

include hn h henc

/-- A magnitude of less than the full width is less than 1. -/
theorem Encodes.full_of_integer : 2 ^ 52 ≤ m := by
  refine henc.full.elim id fun he => ?_
  have hright : e.toNat = 0 := by omega
  rw [hright, Nat.pow_zero, Nat.mul_one] at h
  calc 2 ^ 52 ≤ 2 ^ (-e).toNat := Nat.pow_le_pow_right (by omega) (by omega)
    _ ≤ n * 2 ^ (-e).toNat := Nat.le_mul_of_pos_left _ (Nat.pos_of_ne_zero hn)
    _ = m := h

theorem Encodes.log2_eq : (n.log2 : Int) = 52 + e := by
  have hm := henc.full_of_integer hn h
  have hlog : m.log2 = 52 :=
    (Nat.log2_eq_iff (by omega)).2 ⟨hm, henc.narrow⟩
  have hsum := congrArg Nat.log2 h
  rw [log2_mul_two_pow hn, log2_mul_two_pow (by omega), hlog] at hsum
  omega

theorem Encodes.roundingExponent_eq : roundingExponent n 1 = e := by
  have hlog := henc.log2_eq hn h
  have hleast := henc.least
  have hfirst : (n.log2 : Int) - (1 : Nat).log2 - 53 = e - 1 := by
    have hone : (1 : Nat).log2 = 0 := by decide
    omega
  -- one exponent below, the significand would be too wide
  have hwide : 2 ^ 53 * (1 * 2 ^ (e - 1).toNat) ≤ n * 2 ^ (-(e - 1)).toNat := by
    have hpow := Nat.mul_le_mul_right (2 ^ (-(e - 1)).toNat) (Nat.log2_self_le hn)
    rw [← Nat.pow_add] at hpow
    rw [Nat.one_mul, ← Nat.pow_add]
    have hsum : 53 + (e - 1).toNat = n.log2 + (-(e - 1)).toNat := by omega
    rwa [hsum]
  unfold roundingExponent scaled
  simp only [hfirst, Nat.pow_eq]
  rw [if_neg (Nat.not_lt.2 hwide)]
  omega

theorem Encodes.nearestCode_eq : nearestCode n 1 = code := by
  have hfinite := henc.finite
  unfold nearestCode scaled
  simp only [henc.roundingExponent_eq hn h, Nat.pow_eq, h, Nat.one_mul,
    divNearest_mul m (Nat.two_pow_pos e.toNat), ← henc.code_eq]
  exact Nat.min_eq_right (Nat.le_of_lt hfinite)

end Integers

/-! ## Integers and rationals -/

def sign (x : Number) : Int :=
  if x.isNegative then -1 else 1

theorem sign_mul_sign (x : Number) : x.sign * x.sign = 1 := by
  unfold sign
  split <;> rfl

/-- The rational that a finite number is. -/
def toRat? (x : Number) : Option ℚ :=
  x.ratio?.map fun (a, b) => x.sign * ((a : ℚ) / b)

section Finite

variable {x : Number} {m : Nat} {e : Int} (h : x.magnitude = .finite m e)

include h

theorem toRat?_of_magnitude :
    x.toRat? = some (x.sign * (((m * 2 ^ e.toNat : Nat) : ℚ) / ((2 ^ (-e).toNat : Nat) : ℚ))) := by
  unfold toRat? ratio?
  rw [h]
  rfl

/-- The integer of a number is a quotient without a remainder. -/
theorem toInt?_of_magnitude :
    x.toInt? =
      if 2 ^ (-e).toNat ∣ m * 2 ^ e.toNat then
        some (x.sign * (m * 2 ^ e.toNat / 2 ^ (-e).toNat : Nat))
      else none := by
  unfold toInt?
  rw [h]
  simp only [Nat.pow_eq]
  by_cases he : 0 ≤ e
  · have hright : (-e).toNat = 0 := by omega
    rw [if_pos he, hright, Nat.pow_zero, if_pos (Nat.one_dvd _), Nat.div_one]
    rfl
  · have hright : e.toNat = 0 := by omega
    rw [if_neg he, hright, Nat.pow_zero, Nat.mul_one]
    simp only [Nat.dvd_iff_mod_eq_zero]
    rfl

end Finite

/-- A quotient of natural numbers is an integer just if it has no remainder. -/
theorem sign_mul_div_eq_iff {a b : Nat} (hb : b ≠ 0) (x : Number) (i : Int) :
    (x.sign : ℚ) * ((a : ℚ) / b) = i ↔ b ∣ a ∧ x.sign * (a / b : Nat) = i := by
  have hb : (b : ℚ) ≠ 0 := Nat.cast_ne_zero.2 hb
  have hcast (hdvd : b ∣ a) :
      (x.sign : ℚ) * ((a : ℚ) / b) = ((x.sign * (a / b : Nat) : Int) : ℚ) := by
    rw [Int.cast_mul, Int.cast_natCast, Nat.cast_div hdvd hb]
  constructor
  · intro h
    have hproduct : (a : Int) = x.sign * i * b := by
      have hquotient : (a : ℚ) = (x.sign * x.sign : Int) * (a / b) * b := by
        rw [x.sign_mul_sign, Int.cast_one, one_mul, div_mul_cancel₀ _ hb]
      rw [Int.cast_mul, mul_assoc (x.sign : ℚ), h] at hquotient
      exact_mod_cast hquotient
    have hdvd : b ∣ a := Int.natCast_dvd_natCast.1 (Dvd.intro_left _ hproduct.symm)
    rw [hcast hdvd] at h
    exact ⟨hdvd, Int.cast_injective h⟩
  · rintro ⟨hdvd, rfl⟩
    exact hcast hdvd

/-- The integer of a number is the rational that the number is. -/
theorem toInt?_eq_some_iff {x : Number} {i : Int} :
    x.toInt? = some i ↔ x.toRat? = some (i : ℚ) := by
  cases h : x.magnitude with
  | finite m e =>
    rw [toInt?_of_magnitude h, toRat?_of_magnitude h, Option.some_inj,
      sign_mul_div_eq_iff (Nat.two_pow_pos _).ne']
    split
    · rename_i hdvd
      simp [hdvd]
    · rename_i hdvd
      simp [hdvd]
  | _ => simp [toInt?, toRat?, ratio?, h]

def isFinite (x : Number) : Bool :=
  x.magnitude matches .finite _ _

theorem isSome_toRat? (x : Number) : x.toRat?.isSome = x.isFinite := by
  unfold toRat? ratio? isFinite
  cases x.magnitude <;> rfl

theorem isFinite_of_toInt? {x : Number} {i : Int} (h : x.toInt? = some i) : x.isFinite = true := by
  rw [← isSome_toRat?, toInt?_eq_some_iff.1 h, Option.isSome_some]

/-! ## Back to numbers -/

/-- The number without the sign that a zero may have. -/
def unsignedZero (x : Number) : Number :=
  if x.isZero then ofCode false 0 else x

theorem isZero_of_magnitude {x : Number} {m : Nat} {e : Int} (h : x.magnitude = .finite m e) :
    x.isZero = decide (m = 0) := by
  unfold isZero
  rw [h]
  cases m <;> rfl

theorem sign_ne_zero (x : Number) : x.sign ≠ 0 := by
  unfold sign
  split <;> decide

theorem toInt?_eq_zero_iff {x : Number} : x.toInt? = some 0 ↔ x.isZero = true := by
  cases hmagnitude : x.magnitude with
  | finite m e =>
    rw [toInt?_of_magnitude hmagnitude, isZero_of_magnitude hmagnitude, decide_eq_true_iff]
    constructor
    · intro h
      split at h
      · rename_i hdvd
        have hproduct := Nat.div_mul_cancel hdvd
        have hquotient := (Int.mul_eq_zero.1 (Option.some.inj h)).resolve_left x.sign_ne_zero
        rw [Int.natCast_eq_zero.1 hquotient, Nat.zero_mul] at hproduct
        exact (Nat.mul_eq_zero.1 hproduct.symm).resolve_right (Nat.two_pow_pos _).ne'
      · cases h
    · rintro rfl
      rw [Nat.zero_mul, if_pos (Nat.dvd_zero _), Nat.zero_div, Int.natCast_zero, Int.mul_zero]
  | _ => simp [toInt?, isZero, hmagnitude]

/-- An integer that is written with the sign of `x` has this sign, unless it is zero. -/
theorem ofInt_sign_mul (x : Number) {n : Nat} (hn : n ≠ 0) :
    ofInt (x.sign * n) = ofCode x.isNegative (nearestCode n 1) := by
  have habs : (x.sign * n).natAbs = n := by
    unfold sign
    split <;> omega
  have hneg : decide (x.sign * (n : Int) < 0) = x.isNegative := by
    unfold sign
    cases x.isNegative with
    | false => simp
    | true => simpa using Nat.pos_of_ne_zero hn
  unfold ofInt ofRatio
  rw [habs, hneg, if_neg hn]

/-- The number nearest to the integer that a number is. -/
theorem ofInt_of_toInt? {x : Number} {i : Int} (h : x.toInt? = some i) :
    ofInt i = x.unsignedZero := by
  unfold unsignedZero
  by_cases hzero : x.isZero = true
  · obtain rfl := Option.some.inj (h.symm.trans (toInt?_eq_zero_iff.2 hzero))
    rw [if_pos hzero]
    rfl
  · have hi : i ≠ 0 := fun hi => hzero (toInt?_eq_zero_iff.1 (hi ▸ h))
    cases hmagnitude : x.magnitude with
    | finite m e =>
      rw [toInt?_of_magnitude hmagnitude] at h
      split at h
      · rename_i hdvd
        obtain rfl := Option.some.inj h
        have hproduct := Nat.div_mul_cancel hdvd
        generalize m * 2 ^ e.toNat / 2 ^ (-e).toNat = n at hproduct hi ⊢
        have hn : n ≠ 0 := by
          rintro rfl
          exact hi (Int.mul_zero _)
        -- the quotient is exact, so that nothing is rounded
        have hcode := (encodes_of_magnitude hmagnitude).nearestCode_eq hn hproduct
        rw [if_neg hzero, ofInt_sign_mul x hn, hcode, ofCode_code]
      · cases h
    | _ => simp [toInt?, hmagnitude] at h

theorem unsignedZero_of_toInt?_ne {x : Number} (h : x.toInt? ≠ some 0) : x.unsignedZero = x :=
  if_neg fun hzero => h (toInt?_eq_zero_iff.2 hzero)

theorem unsignedZero_of_toRat? {x : Number} {q : ℚ} (h : x.toRat? = some q) :
    x.unsignedZero = if q = 0 then ofCode false 0 else x := by
  have hzero : x.isZero = true ↔ q = 0 := by
    rw [← toInt?_eq_zero_iff, toInt?_eq_some_iff, h, Option.some_inj, Int.cast_zero]
  unfold unsignedZero
  simp only [hzero]

/-- Without the sign of a zero a number is the same rational. -/
theorem toRat?_unsignedZero (x : Number) : x.unsignedZero.toRat? = x.toRat? := by
  unfold unsignedZero
  by_cases hzero : x.isZero = true
  · have hint : (ofCode false 0).toInt? = some 0 := toInt?_eq_zero_iff.2 rfl
    rw [if_pos hzero, toInt?_eq_some_iff.1 hint,
      toInt?_eq_some_iff.1 (toInt?_eq_zero_iff.2 hzero)]
  · rw [if_neg hzero]

end Stencil.Number

import Mathlib.Algebra.Group.Int.Defs
import Stencil.Json.Reader
import Stencil.Json.Writer
import Stencil.Proofs.Outcome

/-!
# Strings and integers as JSON

Written strings and integers of sixty-four bits are read back, whatever follows them within
bounds: `readString_stringText`, `readScalar_integerText`.
-/

namespace Stencil.Json

/-! ## Strings -/

theorem hexValue?_hexDigit : ∀ n < 16, hexValue? (hexDigit n) = some n := by
  decide

theorem hexUnit?_hexDigit {n : Nat} (h : n < 32) :
    hexUnit? '0' '0' (hexDigit (n / 16)) (hexDigit (n % 16)) = some n := by
  have hzero : hexValue? '0' = some 0 := by decide
  have hhigh := hexValue?_hexDigit (n / 16) (by omega)
  have hlow := hexValue?_hexDigit (n % 16) (by omega)
  simp only [hexUnit?, hzero, hhigh, hlow, Option.bind_eq_bind, Option.bind_some, Option.pure_def,
    Option.some.injEq]
  omega

/-- An escape for which there is a letter. -/
theorem readStringChars_letter (rigour : Rigour) {letter c : Char} (hu : letter ≠ 'u')
    (h : letterEscape? letter = some c) (cs : List Char) :
    readStringChars rigour ('\\' :: letter :: cs) = prepend c (readStringChars rigour cs) := by
  rw [readStringChars]
  · rw [h]
  · intro _ _ _ _ _ heq
    exact absurd heq hu
  · intro heq
    exact absurd heq hu

theorem readStringChars_control (rigour : Rigour) {c : Char} (h : c.toNat < 32) (cs : List Char) :
    readStringChars rigour ('\\' :: 'u' :: '0' :: '0' :: hexDigit (c.toNat / 16) ::
      hexDigit (c.toNat % 16) :: cs) = prepend c (readStringChars rigour cs) := by
  have hhigh : isHighSurrogate c.toNat = false := by
    simp only [isHighSurrogate, decide_eq_false_iff_not]
    omega
  have hlow : isLowSurrogate c.toNat = false := by
    simp only [isLowSurrogate, decide_eq_false_iff_not]
    omega
  rw [readStringChars, hexUnit?_hexDigit h]
  simp only [hhigh, hlow, Bool.false_and, Bool.false_eq_true, if_false, Char.ofNat_toNat]

theorem readStringChars_plain (rigour : Rigour) {c : Char} (hquote : c ≠ '"') (hslash : c ≠ '\\')
    (h : ¬ c.toNat < 32) (cs : List Char) :
    readStringChars rigour (c :: cs) = prepend c (readStringChars rigour cs) := by
  rw [readStringChars]
  · rw [if_neg h]
  all_goals intros; simp_all

/-- One written character is read as that character. -/
theorem readStringChars_escapedChar (rigour : Rigour) (c : Char) (cs : List Char) :
    readStringChars rigour (escapedChar c ++ cs) = prepend c (readStringChars rigour cs) := by
  unfold escapedChar
  split
  · rename_i hc
    refine readStringChars_letter rigour ?_ ?_ cs
    · rcases hc with rfl | rfl <;> decide
    · rcases hc with rfl | rfl <;> rfl
  split
  · subst c
    exact readStringChars_letter rigour (by decide) rfl cs
  split
  · subst c
    exact readStringChars_letter rigour (by decide) rfl cs
  split
  · subst c
    exact readStringChars_letter rigour (by decide) rfl cs
  split
  · subst c
    exact readStringChars_letter rigour (by decide) rfl cs
  split
  · subst c
    exact readStringChars_letter rigour (by decide) rfl cs
  split
  · rename_i hcontrol
    exact readStringChars_control rigour hcontrol cs
  · rename_i hspecial _ _ _ _ _ hcontrol
    rw [not_or] at hspecial
    exact readStringChars_plain rigour hspecial.1 hspecial.2 hcontrol cs

theorem readStringChars_flatMap (rigour : Rigour) (s rest : List Char) :
    readStringChars rigour (s.flatMap escapedChar ++ '"' :: rest) = .ok (s, rest) := by
  induction s with
  | nil => rfl
  | cons c s ih =>
    rw [List.flatMap_cons, List.append_assoc, readStringChars_escapedChar, ih]
    rfl

theorem stringText_append (s : String) (rest : List Char) :
    stringText s ++ rest = '"' :: (s.toList.flatMap escapedChar ++ '"' :: rest) := by
  unfold stringText
  rw [List.append_assoc]
  rfl

theorem readString_stringText (rigour : Rigour) (s : String) (rest : List Char) :
    readString rigour (s.toList.flatMap escapedChar ++ '"' :: rest) = .ok (s, rest) := by
  unfold readString
  rw [readStringChars_flatMap]
  show Except.ok (String.ofList s.toList, rest) = _
  rw [String.ofList_toList]

/-! ## Integers -/

/-- No number goes on with `rest`. -/
def EndsNumber (rest : List Char) : Prop :=
  ∀ c ∈ rest.head?, c.isDigit = false ∧ c ∉ ['.', 'e', 'E']

theorem digitsValue_toDigits (n : Nat) : digitsValue (Nat.toDigits 10 n) = n := by
  have h : digitsValue (Nat.toDigits 10 n) = Nat.ofDigitChars 10 (Nat.toDigits 10 n) 0 := by
    unfold digitsValue
    rw [Nat.ofDigitChars_eq_foldl]
    congr 1
    funext m d
    rw [Nat.mul_comm]
    rfl
  rw [h, Nat.ofDigitChars_ten_toDigits]

theorem exists_toDigits_cons (n : Nat) :
    ∃ d ds, Nat.toDigits 10 n = d :: ds ∧ d.isDigit = true := by
  obtain ⟨d, ds, hds⟩ := List.exists_cons_of_ne_nil (Nat.toDigits_ne_nil (n := n) (b := 10))
  refine ⟨d, ds, hds, Nat.isDigit_of_mem_toDigits (b := 10) (n := n) (by omega) (by omega) ?_⟩
  rw [hds]
  exact List.mem_cons_self

theorem ne_of_isDigit {c d : Char} (hd : d.isDigit = true) (hc : c.isDigit = false) : d ≠ c := by
  rintro rfl
  rw [hd] at hc
  cases hc

theorem head?_toDigits_ne_zero (n : Nat) (h : 0 < n) : (Nat.toDigits 10 n).head? ≠ some '0' := by
  rw [Nat.toDigits_eq_if (by omega)]
  by_cases hn : n < 10
  · rw [if_pos hn, List.head?_cons, ne_eq, Option.some.injEq, Nat.digitChar_eq_zero]
    omega
  · rw [if_neg hn, List.head?_append]
    have ih := head?_toDigits_ne_zero (n / 10) (by omega)
    cases hdigits : (Nat.toDigits 10 (n / 10)).head? with
    | none => exact absurd (List.head?_eq_none_iff.1 hdigits) Nat.toDigits_ne_nil
    | some d => rwa [hdigits] at ih

theorem readDigits_toDigits (n : Nat) {rest : List Char}
    (h : ∀ c ∈ rest.head?, c.isDigit = false) :
    readDigits (Nat.toDigits 10 n ++ rest) = (Nat.toDigits 10 n, rest) := by
  have hdigits : ∀ c ∈ Nat.toDigits 10 n, c.isDigit = true :=
    fun c hc => Nat.isDigit_of_mem_toDigits (by omega) (by omega) hc
  unfold readDigits
  rw [List.takeWhile_append_of_pos hdigits, List.dropWhile_append_of_pos hdigits]
  cases rest with
  | nil => simp
  | cons c rest =>
    rw [List.takeWhile_cons, List.dropWhile_cons, h c rfl]
    simp

theorem readWhole_toDigits (n : Nat) {rest : List Char}
    (h : ∀ c ∈ rest.head?, c.isDigit = false) :
    readWhole (Nat.toDigits 10 n ++ rest) = .ok (Nat.toDigits 10 n, rest) := by
  unfold readWhole
  rw [readDigits_toDigits n h]
  split
  · rename_i heq
    exact absurd (Prod.mk.inj heq).1 Nat.toDigits_ne_nil
  · rename_i heq
    have hdigits := (Prod.mk.inj heq).1
    by_cases hn : 0 < n
    · refine absurd ?_ (head?_toDigits_ne_zero n hn)
      rw [hdigits, List.head?_cons]
    · obtain rfl : n = 0 := by omega
      cases hdigits
  · rename_i heq
    obtain ⟨rfl, rfl⟩ := Prod.mk.inj heq
    rfl

theorem readNumeral_toDigits (negative : Bool) (n : Nat) {rest : List Char} (h : EndsNumber rest) :
    readNumeral negative (Nat.toDigits 10 n ++ rest) =
      .ok (⟨negative, Nat.toDigits 10 n, [], none⟩, rest) := by
  have hfraction : readFraction rest = .ok ([], rest) := by
    unfold readFraction
    split
    · exact absurd (by simp) (h '.' rfl).2
    · rfl
  have hexponent : readExponent rest = .ok (none, rest) := by
    unfold readExponent
    split
    · rename_i c cs
      have hc := (h c rfl).2
      rw [if_neg]
      rintro (rfl | rfl) <;> simp at hc
    · rfl
  unfold readNumeral
  rw [readWhole_toDigits n fun c hc => (h c hc).1, ok_bind]
  show (readFraction rest >>= _) = _
  rw [hfraction, ok_bind]
  show (readExponent rest >>= _) = _
  rw [hexponent]
  rfl

theorem readNumber_toDigits {negative : Bool} {n : Nat} {i : Int} {rest : List Char}
    (h : EndsNumber rest)
    (hi : (Numeral.mk negative (Nat.toDigits 10 n) [] none).toJson? = some (.integer i)) :
    readNumber .strict negative (Nat.toDigits 10 n ++ rest) = .ok (.integer i, rest) := by
  unfold readNumber
  rw [readNumeral_toDigits negative n h]
  simp only [hi]

theorem natPow_two_63 : Nat.pow 2 63 = 9223372036854775808 := rfl

theorem natPow_two_64 : Nat.pow 2 64 = 18446744073709551616 := rfl

/-- Integers of sixty-four bits, signed or not, are kept as such. -/
theorem toJson?_integer {i : Int} (hlow : -2 ^ 63 ≤ i) (hhigh : i < 2 ^ 64) :
    (Numeral.mk (decide (i < 0)) (Nat.toDigits 10 i.natAbs) [] none).toJson? =
      some (.integer i) := by
  unfold Numeral.toJson?
  simp only [Numeral.isInteger, List.isEmpty_nil, Option.isNone_none, digitsValue_toDigits,
    Bool.true_and, natPow_two_63, natPow_two_64]
  by_cases hi : i < 0
  · simp only [hi, decide_true, Bool.not_true, Bool.false_and, Bool.false_eq_true, if_false,
      Bool.true_and]
    rw [if_pos (by rw [decide_eq_true_eq]; omega)]
    congr 2
    omega
  · simp only [hi, decide_false, Bool.not_false, Bool.true_and]
    rw [if_pos (by rw [decide_eq_true_eq]; omega)]
    congr 2
    omega

theorem readScalar_integerText {i : Int} {rest : List Char} (hlow : -2 ^ 63 ≤ i)
    (hhigh : i < 2 ^ 64) (h : EndsNumber rest) :
    readScalar .strict (integerText i ++ rest) = .ok (.integer i, rest) := by
  have hjson := toJson?_integer hlow hhigh
  have hnumber := readNumber_toDigits h hjson
  unfold integerText
  by_cases hi : i < 0
  · rw [decide_eq_true hi] at hnumber
    rw [if_pos hi]
    exact hnumber
  · rw [decide_eq_false hi] at hnumber
    rw [if_neg hi, List.nil_append]
    obtain ⟨d, ds, hds, hdigit⟩ := exists_toDigits_cons i.natAbs
    rw [hds, List.cons_append] at hnumber ⊢
    rw [readScalar, if_neg (ne_of_isDigit hdigit rfl), if_neg (ne_of_isDigit hdigit rfl),
      if_neg (ne_of_isDigit hdigit rfl), if_neg (ne_of_isDigit hdigit rfl), if_pos hdigit, hnumber]

/-! ## Scalars -/

/-- What a scalar can be: no container, and an integer only from sixty-four bits on. -/
structure IsScalar (j : Json) : Prop where
  nesting : j.nesting = 0
  least : ∀ i, j = integer i → -2 ^ 63 ≤ i

theorem isScalar_of_toJson? {n : Numeral} {j : Json} (h : n.toJson? = some j) : j.IsScalar := by
  unfold Numeral.toJson? at h
  dsimp only at h
  split at h
  · obtain rfl := Option.some.inj h
    refine ⟨rfl, fun i hi => ?_⟩
    obtain rfl := Json.integer.inj hi
    omega
  split at h
  · rename_i hnegative
    simp only [Bool.and_eq_true, decide_eq_true_eq, natPow_two_63] at hnegative
    obtain rfl := Option.some.inj h
    refine ⟨rfl, fun i hi => ?_⟩
    obtain rfl := Json.integer.inj hi
    omega
  · obtain ⟨x, -, rfl⟩ := Option.map_eq_some_iff.1 h
    exact ⟨rfl, by simp⟩

theorem isScalar_of_readNumber {rigour : Rigour} {negative : Bool} {cs rest : List Char} {j : Json}
    (h : readNumber rigour negative cs = .ok (j, rest)) : j.IsScalar := by
  unfold readNumber at h
  split at h
  · obtain ⟨rfl, -⟩ := Prod.mk.inj (Except.ok.inj h)
    exact ⟨rfl, by simp⟩
  · cases h
  · cases h
  · split at h
    · rename_i hjson
      obtain ⟨rfl, -⟩ := Prod.mk.inj (Except.ok.inj h)
      exact isScalar_of_toJson? hjson
    · cases h

theorem isScalar_of_readScalar {rigour : Rigour} {cs rest : List Char} {j : Json}
    (h : readScalar rigour cs = .ok (j, rest)) : j.IsScalar := by
  cases cs with
  | nil => cases h
  | cons c cs =>
    rw [readScalar] at h
    split at h
    · obtain ⟨_, -, heq⟩ := map_eq_ok.1 h
      cases heq
      exact ⟨rfl, by simp⟩
    split at h
    · obtain ⟨_, -, heq⟩ := map_eq_ok.1 h
      cases heq
      exact ⟨rfl, by simp⟩
    split at h
    · obtain ⟨_, -, heq⟩ := map_eq_ok.1 h
      cases heq
      exact ⟨rfl, by simp⟩
    split at h
    · exact isScalar_of_readNumber h
    split at h
    · exact isScalar_of_readNumber h
    split at h
    · obtain ⟨_, -, heq⟩ := map_eq_ok.1 h
      cases heq
      exact ⟨rfl, by simp⟩
    · cases h

end Stencil.Json

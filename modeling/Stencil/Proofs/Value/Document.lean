import Stencil.Proofs.Entries
import Stencil.Proofs.Number.Integral
import Stencil.Value.Document

/-!
# Values that go through JSON

`Value.ofJson_toJson`: a value that is written as a document and read back is the value with null
for what JSON does not have, and without the signs of zeros; once that is so, nothing changes any
more. Numbers stay the rationals that they are, whether they are written as integers or not.
-/

namespace Stencil

/-! ## What JSON can hold -/

namespace Value

mutual

/-- The value with null for absent values, infinities and what is no number, and without the signs
of zeros, at every depth. -/
def kept : Value → Value
  | undefined => null
  | null => null
  | bool b => bool b
  | number x => if x.isFinite then number x.unsignedZero else null
  | string s => string s
  | array items => array (keptItems items)
  | object entries => object (keptEntries entries)

def keptItems : List Value → List Value
  | [] => []
  | v :: vs => v.kept :: keptItems vs

def keptEntries : List (String × Value) → List (String × Value)
  | [] => []
  | (key, v) :: es => (key, v.kept) :: keptEntries es

end

/-! ## Numbers -/

/-- How a number is written: as an integer, as it is, or as null. -/
theorem numberToJson_cases (x : Number) :
    (∃ i, x.toInt? = some i ∧ i.natAbs < 2 ^ 63 ∧ numberToJson x = .integer i) ∨
    ((∀ i, x.toInt? = some i → ¬ i.natAbs < 2 ^ 63) ∧ x.isFinite = true ∧
      numberToJson x = .float x) ∨
    (x.isFinite = false ∧ numberToJson x = .null) := by
  unfold numberToJson
  cases hint : x.toInt? with
  | some i =>
    by_cases hi : i.natAbs < 2 ^ 63
    · exact .inl ⟨i, rfl, hi, if_pos hi⟩
    · refine .inr (.inl ⟨fun j hj => ?_, Number.isFinite_of_toInt? hint, if_neg hi⟩)
      obtain rfl := Option.some.inj hj
      exact hi
  | none =>
    right
    unfold Number.isFinite
    cases x.magnitude with
    | finite m e => exact .inl ⟨by simp, rfl, rfl⟩
    | _ => exact .inr ⟨rfl, rfl⟩

theorem ofJson_numberToJson (x : Number) :
    ofJson (numberToJson x) = if x.isFinite then number x.unsignedZero else null := by
  rcases numberToJson_cases x with ⟨i, hint, -, hjson⟩ | ⟨hint, hfinite, hjson⟩ | ⟨hfinite, hjson⟩
  · rw [hjson, ofJson, Number.ofInt_of_toInt? hint, if_pos (Number.isFinite_of_toInt? hint)]
  · have hne : x.toInt? ≠ some 0 := fun hzero => hint 0 hzero (by decide)
    rw [hjson, ofJson, Number.unsignedZero_of_toInt?_ne hne, if_pos hfinite]
  · rw [hjson, ofJson, hfinite, if_neg Bool.false_ne_true]

/-! ## Values -/

mutual

theorem ofJson_toJson_eq_kept : ∀ v : Value, ofJson v.toJson = v.kept
  | undefined | null | bool _ | string _ => rfl
  | number x => ofJson_numberToJson x
  | array items => by
    rw [toJson, ofJson, kept, ofItems_itemsToJson items]
  | object entries => by
    rw [toJson, ofJson, kept, ofJsonEntries_entriesToJson entries]

theorem ofItems_itemsToJson : ∀ vs : List Value, ofItems (itemsToJson vs) = keptItems vs
  | [] => rfl
  | v :: vs => by
    rw [itemsToJson, ofItems, keptItems, ofJson_toJson_eq_kept v, ofItems_itemsToJson vs]

theorem ofJsonEntries_entriesToJson : ∀ es : List (String × Value),
    ofJsonEntries (entriesToJson es) = keptEntries es
  | [] => rfl
  | (key, v) :: es => by
    rw [entriesToJson, ofJsonEntries, keptEntries, ofJson_toJson_eq_kept v,
      ofJsonEntries_entriesToJson es]

end

/-! ## Once more -/

theorem numberToJson_unsignedZero (x : Number) :
    numberToJson x.unsignedZero = numberToJson x := by
  by_cases hzero : x.isZero = true
  · have hint : (Number.ofCode false 0).toInt? = some 0 := Number.toInt?_eq_zero_iff.2 rfl
    unfold Number.unsignedZero numberToJson
    rw [if_pos hzero, hint, Number.toInt?_eq_zero_iff.2 hzero]
    rfl
  · unfold Number.unsignedZero
    rw [if_neg hzero]

theorem toJson_kept_number (x : Number) : (number x).kept.toJson = numberToJson x := by
  rw [kept]
  by_cases hfinite : x.isFinite = true
  · rw [if_pos hfinite, toJson, numberToJson_unsignedZero]
  · rw [if_neg hfinite, toJson]
    rcases numberToJson_cases x with ⟨i, hint, -, -⟩ | ⟨-, h, -⟩ | ⟨-, hjson⟩
    · exact absurd (Number.isFinite_of_toInt? hint) hfinite
    · exact absurd h hfinite
    · exact hjson.symm

mutual

/-- What is lost is lost in the document already. -/
theorem toJson_kept : ∀ v : Value, v.kept.toJson = v.toJson
  | undefined | null | bool _ | string _ => rfl
  | number x => toJson_kept_number x
  | array items => by
    rw [kept, toJson, toJson, itemsToJson_keptItems items]
  | object entries => by
    rw [kept, toJson, toJson, entriesToJson_keptEntries entries]

theorem itemsToJson_keptItems : ∀ vs : List Value, itemsToJson (keptItems vs) = itemsToJson vs
  | [] => rfl
  | v :: vs => by
    rw [keptItems, itemsToJson, itemsToJson, toJson_kept v, itemsToJson_keptItems vs]

theorem entriesToJson_keptEntries : ∀ es : List (String × Value),
    entriesToJson (keptEntries es) = entriesToJson es
  | [] => rfl
  | (key, v) :: es => by
    rw [keptEntries, entriesToJson, entriesToJson, toJson_kept v, entriesToJson_keptEntries es]

end

/-! ## Objects that are maps -/

mutual

/-- The entries of every object are in the order of their keys, each key once. -/
def IsMapped : Value → Prop
  | array items => AllMapped items
  | object entries => Entries.Sorted entries ∧ EntriesMapped entries
  | _ => True

def AllMapped : List Value → Prop
  | [] => True
  | v :: vs => v.IsMapped ∧ AllMapped vs

def EntriesMapped : List (String × Value) → Prop
  | [] => True
  | (_, v) :: es => v.IsMapped ∧ EntriesMapped es

end

theorem entriesToJson_eq_map (es : List (String × Value)) :
    entriesToJson es = es.map fun e => (e.1, e.2.toJson) := by
  induction es with
  | nil => rw [entriesToJson, List.map_nil]
  | cons e es ih => rw [entriesToJson, ih, List.map_cons]

mutual

/-- Maps are written as maps. -/
theorem canonical_toJson : ∀ v : Value, v.IsMapped → v.toJson.canonical = v.toJson
  | undefined, _ | null, _ | bool _, _ | string _, _ => rfl
  | number x, _ => by
    rw [toJson]
    rcases numberToJson_cases x with ⟨i, -, -, hjson⟩ | ⟨-, -, hjson⟩ | ⟨-, hjson⟩ <;>
      rw [hjson, Json.canonical] <;> simp
  | array items, h => by
    rw [toJson, Json.canonical, canonicalItems_itemsToJson items h]
  | object entries, ⟨hsorted, hentries⟩ => by
    have hsorted : Entries.Sorted (entriesToJson entries) := by
      rw [entriesToJson_eq_map]
      exact List.pairwise_map.2 hsorted
    rw [toJson, Json.canonical, canonicalEntries_entriesToJson entries hentries,
      Entries.ofList_of_sorted hsorted]

theorem canonicalItems_itemsToJson : ∀ vs : List Value, AllMapped vs →
    Json.canonicalItems (itemsToJson vs) = itemsToJson vs
  | [], _ => rfl
  | v :: vs, ⟨hv, hvs⟩ => by
    rw [itemsToJson, Json.canonicalItems, canonical_toJson v hv, canonicalItems_itemsToJson vs hvs]

theorem canonicalEntries_entriesToJson : ∀ es : List (String × Value), EntriesMapped es →
    Json.canonicalEntries (entriesToJson es) = entriesToJson es
  | [], _ => rfl
  | (key, v) :: es, ⟨hv, hes⟩ => by
    rw [entriesToJson, Json.canonicalEntries, canonical_toJson v hv,
      canonicalEntries_entriesToJson es hes]

end

/-! ## There and back -/

section Rational

variable {x : Number} {q : ℚ} (h : x.toRat? = some q)

include h

theorem numberToJson_eq_integer_iff (i : Int) :
    numberToJson x = .integer i ↔ q = i ∧ |q| < 2 ^ 63 := by
  have hint : x.toInt? = some i ↔ q = i := by
    rw [Number.toInt?_eq_some_iff, h, Option.some_inj]
  have hbound : |(i : ℚ)| < 2 ^ 63 ↔ i.natAbs < 2 ^ 63 := by
    rw [← Int.cast_abs, Int.abs_eq_natAbs]
    exact_mod_cast Iff.rfl
  constructor
  · intro hjson
    rcases numberToJson_cases x with ⟨j, hj, hsmall, hj'⟩ | ⟨-, -, hj'⟩ | ⟨-, hj'⟩
    · obtain rfl := Json.integer.inj (hj'.symm.trans hjson)
      obtain rfl := hint.1 hj
      exact ⟨rfl, hbound.2 hsmall⟩
    · cases hj'.symm.trans hjson
    · cases hj'.symm.trans hjson
  · rintro ⟨rfl, hsmall⟩
    unfold numberToJson
    rw [hint.2 rfl]
    exact if_pos (hbound.1 hsmall)

theorem numberToJson_eq_float (hnot : ¬ ∃ i : Int, q = i ∧ |q| < 2 ^ 63) :
    numberToJson x = .float x := by
  rcases numberToJson_cases x with ⟨i, -, -, hjson⟩ | ⟨-, -, hjson⟩ | ⟨hfinite, -⟩
  · exact absurd ⟨i, (numberToJson_eq_integer_iff h i).1 hjson⟩ hnot
  · exact hjson
  · rw [← Number.isSome_toRat?, h] at hfinite
    cases hfinite

end Rational

theorem numberToJson_of_toRat?_eq_none {x : Number} (h : x.toRat? = none) :
    numberToJson x = .null := by
  have hfinite : x.isFinite = false := by rw [← Number.isSome_toRat?, h, Option.isSome_none]
  rcases numberToJson_cases x with ⟨i, hint, -, -⟩ | ⟨-, hfinite', -⟩ | ⟨-, hjson⟩
  · cases hfinite.symm.trans (Number.isFinite_of_toInt? hint)
  · cases hfinite.symm.trans hfinite'
  · exact hjson

/-- A value comes back from JSON with null for what JSON cannot hold and with unsigned zeros, and
from then on unchanged. A finite number is written as an integer just if it is one below `2 ^ 63`,
and comes back as the same rational on either way. -/
theorem ofJson_toJson :
    (∀ v : Value, ofJson v.toJson = v.kept ∧ ofJson v.kept.toJson = v.kept ∧
      v.kept.toJson = v.toJson ∧ (v.IsMapped → v.toJson.canonical = v.toJson)) ∧
    (∀ (x : Number) (q : ℚ), x.toRat? = some q →
      (∀ i : Int, (number x).toJson = .integer i ↔ q = i ∧ |q| < 2 ^ 63) ∧
      ((¬ ∃ i : Int, q = i ∧ |q| < 2 ^ 63) → (number x).toJson = .float x) ∧
      (number x).kept = number x.unsignedZero ∧ x.unsignedZero.toRat? = some q ∧
      x.unsignedZero = if q = 0 then .ofCode false 0 else x) ∧
    ∀ x : Number, x.toRat? = none → (number x).toJson = .null ∧ (number x).kept = .null := by
  refine ⟨fun v => ?_, fun x q h => ?_, fun x h => ?_⟩
  · have hagain : ofJson v.kept.toJson = v.kept := by
      rw [toJson_kept v, ofJson_toJson_eq_kept v]
    exact ⟨ofJson_toJson_eq_kept v, hagain, toJson_kept v, canonical_toJson v⟩
  · refine ⟨numberToJson_eq_integer_iff h, numberToJson_eq_float h, ?_,
      (Number.toRat?_unsignedZero x).trans h, Number.unsignedZero_of_toRat? h⟩
    rw [kept, ← Number.isSome_toRat?, h]
    rfl
  · have hjson := numberToJson_of_toRat?_eq_none h
    have hback := ofJson_toJson_eq_kept (number x)
    rw [toJson, hjson] at hback
    exact ⟨hjson, hback.symm⟩

/-- An absent value and a negative zero in an array, and `2 ^ 63`, the first integer that is written
as another number is. -/
theorem ofJson_toJson_nested :
    let large := Number.ofInt (2 ^ 63)
    let v := object [("a", array [undefined, number (.ofCode true 0)]), ("b", number large)]
    ofJson v.toJson = object [("a", array [null, number (.ofCode false 0)]), ("b", number large)] ∧
    v.IsMapped ∧ v.toJson.canonical = v.toJson ∧
    large.toRat? = some ((2 ^ 63 : Int) : ℚ) ∧ (number large).toJson = .float large ∧
    Number.nan.toRat? = none ∧ (number .nan).toJson = .null := by
  intro large v
  have hmapped : v.IsMapped :=
    ⟨List.pairwise_pair.2 (by decide), ⟨trivial, trivial, trivial⟩, trivial, trivial⟩
  have hrat : large.toRat? = some ((2 ^ 63 : Int) : ℚ) :=
    Number.toInt?_eq_some_iff.1 (by decide +kernel)
  have hnot : ¬ ∃ i : Int, ((2 ^ 63 : Int) : ℚ) = i ∧ |((2 ^ 63 : Int) : ℚ)| < 2 ^ 63 := by
    rintro ⟨i, -, hsmall⟩
    exact ((le_abs_self _).trans_lt hsmall).ne (by norm_num)
  obtain ⟨-, hfloat, hlarge, -, hunsigned⟩ := ofJson_toJson.2.1 large _ hrat
  have hkept : v.kept =
      object [("a", array [null, number (.ofCode false 0)]), ("b", (number large).kept)] := rfl
  obtain ⟨hback, -, -, hcanonical⟩ := ofJson_toJson.1 v
  rw [hkept, hlarge, hunsigned, if_neg (by norm_num)] at hback
  exact ⟨hback, hmapped, hcanonical hmapped, hrat, hfloat hnot, rfl,
    (ofJson_toJson.2.2 .nan rfl).1⟩

end Value

end Stencil

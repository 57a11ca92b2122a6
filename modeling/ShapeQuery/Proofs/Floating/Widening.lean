import Mathlib.Algebra.Order.Field.Rat
import Mathlib.Tactic.Ring
import ShapeQuery.Floating

/-!
# Exact conversions

A number that has a significand and an exponent of a format is the same number after it has
been converted into the format: rounding only moves factors of two from the exponent into the
significand.  All numbers of the single format are numbers of the double one, so they are
widened without a loss.
-/

namespace ShapeQuery

/-- The number has a significand and an exponent of the format. -/
def FloatFormat.Holds (format : FloatFormat) : Floating → Prop
  | .finite _ significand exponent =>
    significand < 2 ^ format.precision ∧ format.minExponent ≤ exponent ∧
      exponent ≤ format.maxExponent
  | .infinite _ | .nan => True

/-- Both are the same infinity, both not a number, or finite with the same sign and the same
magnitude. -/
inductive Floating.SameNumber : Floating → Floating → Prop
  | finite {negative : Bool} {left right : Nat} {leftExponent rightExponent : Int}
      (magnitude : (left : ℚ) * 2 ^ leftExponent = right * 2 ^ rightExponent) :
      SameNumber (.finite negative left leftExponent) (.finite negative right rightExponent)
  | infinite (negative : Bool) : SameNumber (.infinite negative) (.infinite negative)
  | nan : SameNumber .nan .nan

theorem Floating.SameNumber.isFinite_eq {left right : Floating} (same : left.SameNumber right) :
    left.isFinite = right.isFinite := by
  cases same <;> rfl

namespace FloatFormat

variable {format : FloatFormat} {negative : Bool} {significand : Nat} {exponent : Int}

theorem roundQuotient_mul (quotient : Nat) {denominator : Nat} (positive : 0 < denominator) :
    roundQuotient (quotient * denominator) denominator = quotient := by
  simp [roundQuotient, positive]

theorem log2_mul_two_pow (proper : significand ≠ 0) (power : Nat) :
    (significand * 2 ^ power).log2 = significand.log2 + power := by
  have positive : 0 < 2 ^ power := Nat.two_pow_pos power
  refine (Nat.log2_eq_iff (Nat.mul_ne_zero proper positive.ne')).mpr ⟨?_, ?_⟩
  · rw [Nat.pow_add]
    exact Nat.mul_le_mul_right _ (Nat.log2_self_le proper)
  · rw [Nat.add_right_comm, Nat.pow_add]
    exact Nat.mul_lt_mul_of_pos_right Nat.lt_log2_self positive

/-- The largest power of two in a finite number is that of its significand, moved by the
exponent. -/
theorem floorLog2_ratio (proper : significand ≠ 0) (exponent : Int) :
    floorLog2 (significand * 2 ^ exponent.toNat) (2 ^ (-exponent).toNat) =
      significand.log2 + exponent := by
  have estimate : ((significand * 2 ^ exponent.toNat).log2 : Int) -
      (2 ^ (-exponent).toNat).log2 = significand.log2 + exponent := by
    rw [log2_mul_two_pow proper, Nat.log2_two_pow]
    omega
  unfold floorLog2
  simp only [estimate, Nat.pow_eq]
  refine if_neg (Nat.not_lt.mpr ?_)
  calc 2 ^ (-exponent).toNat * 2 ^ (significand.log2 + exponent : Int).toNat
      = 2 ^ significand.log2 *
          (2 ^ exponent.toNat * 2 ^ (-(significand.log2 + exponent : Int)).toNat) := by
        rw [← Nat.pow_add, ← Nat.pow_add, ← Nat.pow_add]
        congr 1
        omega
    _ ≤ significand *
          (2 ^ exponent.toNat * 2 ^ (-(significand.log2 + exponent : Int)).toNat) :=
        Nat.mul_le_mul_right _ (Nat.log2_self_le proper)
    _ = significand * 2 ^ exponent.toNat *
          2 ^ (-(significand.log2 + exponent : Int)).toNat := (Nat.mul_assoc _ _ _).symm

/-- A number of the format is rounded by moving factors of two into its significand, as many
as there is room for. -/
theorem round_ratio (proper : significand ≠ 0)
    (held : format.Holds (.finite negative significand exponent)) :
    ∃ lower : Int, ∃ moved : Nat, exponent = lower + moved ∧ format.minExponent ≤ lower ∧
      significand * 2 ^ moved < 2 ^ format.precision ∧
      format.round negative (significand * 2 ^ exponent.toNat) (2 ^ (-exponent).toNat) =
        .finite negative (significand * 2 ^ moved) lower := by
  obtain ⟨fits, above, below⟩ := held
  have room : significand.log2 < format.precision := (Nat.log2_lt proper).mpr fits
  generalize chosen :
    max format.minExponent (significand.log2 + exponent - format.precision + 1) = lower
  obtain ⟨moved, rfl⟩ : ∃ moved : Nat, exponent = lower + moved :=
    ⟨(exponent - lower).toNat, by omega⟩
  have short : significand * 2 ^ moved < 2 ^ format.precision := by
    calc significand * 2 ^ moved
        < 2 ^ (significand.log2 + 1) * 2 ^ moved :=
          Nat.mul_lt_mul_of_pos_right Nat.lt_log2_self (Nat.two_pow_pos moved)
      _ = 2 ^ (significand.log2 + 1 + moved) := (Nat.pow_add ..).symm
      _ ≤ 2 ^ format.precision := Nat.pow_le_pow_right (by decide) (by omega)
  refine ⟨lower, moved, rfl, by omega, short, ?_⟩
  have nonzero : significand * 2 ^ (lower + moved : Int).toNat ≠ 0 :=
    Nat.mul_ne_zero proper (Nat.two_pow_pos _).ne'
  have factors : significand * 2 ^ (lower + moved : Int).toNat * 2 ^ (-lower).toNat =
      significand * 2 ^ moved * (2 ^ (-(lower + moved : Int)).toNat * 2 ^ lower.toNat) := by
    rw [Nat.mul_assoc, Nat.mul_assoc, ← Nat.pow_add, ← Nat.pow_add, ← Nat.pow_add]
    congr 2
    omega
  have positive : 0 < 2 ^ (-(lower + moved : Int)).toNat * 2 ^ lower.toNat :=
    Nat.mul_pos (Nat.two_pow_pos _) (Nat.two_pow_pos _)
  unfold round
  rw [if_neg nonzero]
  simp only [floorLog2_ratio proper, chosen, Nat.pow_eq, factors, roundQuotient_mul _ positive,
    if_neg short.ne]
  exact if_neg (by omega)

/-- A number of the format stays the same number when it is converted into the format. -/
theorem sameNumber_convert {value : Floating} (held : format.Holds value) :
    (format.convert value).SameNumber value ∧ format.Holds (format.convert value) := by
  cases value with
  | infinite negative => exact ⟨.infinite negative, trivial⟩
  | nan => exact ⟨.nan, trivial⟩
  | finite negative significand exponent =>
      by_cases zero : significand = 0
      · subst zero
        obtain ⟨fits, above, below⟩ := held
        have converted : format.convert (.finite negative 0 exponent) =
            .finite negative 0 format.minExponent := by
          simp [convert, round]
        rw [converted]
        exact ⟨.finite (by simp), fits, le_rfl, above.trans below⟩
      · obtain ⟨lower, moved, rfl, least, fits, rounded⟩ := round_ratio zero held
        have converted : format.convert (.finite negative significand (lower + moved)) =
            .finite negative (significand * 2 ^ moved) lower := rounded
        rw [converted]
        refine ⟨.finite ?_, fits, least, by have := held.2.2; omega⟩
        rw [zpow_add₀ (by norm_num), zpow_natCast]
        push_cast
        ring

/-- A number of the single format is one of the double format. -/
theorem holds_double_of_single {value : Floating} (held : single.Holds value) :
    double.Holds value := by
  cases value with
  | finite negative significand exponent =>
      obtain ⟨fits, above, below⟩ := held
      refine ⟨fits.trans_le (Nat.pow_le_pow_right (by decide) (by decide)), ?_, ?_⟩
      · exact le_trans (by decide) above
      · exact below.trans (by decide)
  | infinite | nan => trivial

end FloatFormat

end ShapeQuery

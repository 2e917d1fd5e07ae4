import SwarmChart.Decimal.Double

/-!
# Finite numbers

The parts of a number that are read off its bits tell whether it is finite, as the number itself
does (`Binary.isFinite_ofFloat`): what is not finite has all bits of its exponent set. A number that
is not finite is an infinity or no number at all (`isFinite_eq_false_iff`).
-/

set_option autoImplicit false

namespace SwarmChart.Decimal

open Float.Model (Format UnpackedFloat)

/-- The exponent that a number is unpacked to is the one read off its bits. -/
theorem toNat_unpackExponent (bits : BitVec 64) :
    (@UnpackedFloat.unpackExponent Format.binary64 bits).toNat =
      bits.toNat / fullSignificand % exponentLimit := by
  show (BitVec.cast _ (BitVec.extractLsb 62 52 bits)).toNat = _
  rw [BitVec.toNat_cast, BitVec.extractLsb_toNat, Nat.shiftRight_eq_div_pow]
  rfl

/-- What is not finite has all bits of its exponent set, and nothing else has. -/
theorem isFinite_unpack_iff (bits : BitVec 64) :
    (UnpackedFloat.unpack Format.binary64 bits).isFinite = true ↔
      bits.toNat / fullSignificand % exponentLimit + 1 ≠ exponentLimit := by
  have allSet : @UnpackedFloat.unpackExponent Format.binary64 bits = -1#11 ↔
      bits.toNat / fullSignificand % exponentLimit + 1 = exponentLimit := by
    rw [← BitVec.toNat_inj, toNat_unpackExponent]
    exact Nat.add_right_cancel_iff.symm
  rw [ne_eq, ← allSet]
  delta UnpackedFloat.unpack
  dsimp only
  by_cases set : @UnpackedFloat.unpackExponent Format.binary64 bits = -1#11
  -- An infinity, or what is no number.
  · rw [if_pos set]
    refine iff_of_false ?_ (not_not_intro set)
    by_cases infinite : @UnpackedFloat.unpackMantissa Format.binary64 bits = 0#52
    · rw [if_pos infinite]
      exact Bool.false_ne_true
    · rw [if_neg infinite]
      exact Bool.false_ne_true
  -- A zero, a subnormal number, or a normal one.
  · rw [if_neg set]
    refine iff_of_true ?_ set
    by_cases small : @UnpackedFloat.unpackExponent Format.binary64 bits = 0#11
    · rw [if_pos small]
      by_cases zero : @UnpackedFloat.unpackMantissa Format.binary64 bits = 0#52
      · rw [dif_pos zero]
        rfl
      · rw [dif_neg zero]
        rfl
    · rw [if_neg small]
      rfl

/-- The parts of a number tell whether it is finite, as the number itself does. -/
theorem Binary.isFinite_ofFloat (x : Float) : (Binary.ofFloat x).isFinite = x.isFinite := by
  rw [Bool.eq_iff_iff]
  refine Iff.trans ?_ (isFinite_unpack_iff x.toBits.toBitVec).symm
  rw [UInt64.toNat_toBitVec]
  simp only [Binary.ofFloat]
  split
  · next set => split <;> exact iff_of_false Bool.false_ne_true (not_not_intro set)
  · next unset => split <;> exact iff_of_true rfl unset

/-- Besides the finite numbers there are the infinities and what is no number. -/
theorem isFinite_eq_false_iff (x : Float) :
    x.isFinite = false ↔ x.isNaN = true ∨ x.isInf = true := by
  show x.toModel.unpack.isFinite = false ↔
    x.toModel.unpack.isNaN = true ∨ x.toModel.unpack.isInf = true
  cases x.toModel.unpack with
  | notANumber => exact ⟨fun _ => Or.inl rfl, fun _ => rfl⟩
  | infinity => exact ⟨fun _ => Or.inr rfl, fun _ => rfl⟩
  | zero => exact ⟨nofun, fun h => h.elim nofun nofun⟩
  | finite => exact ⟨nofun, fun h => h.elim nofun nofun⟩

end SwarmChart.Decimal

import MessageRouting.Number.Binary

/-!
# Numbers, infinities and what is no number

Which floats are numbers. The float of an integer is one, for nothing but the mark of no number itself is put into bits
that stand for it. Three floats are not finite, and each of them is clamped to an integer of its own.
-/

namespace MessageRouting.Number

open Float.Model UnpackedFloat

/-! ## What is no number -/

/-- A choice between numbers is a number. -/
theorem isNaN_dite {c : Prop} [Decidable c] {a : c → UnpackedFloat} {b : ¬c → UnpackedFloat}
    (first : ∀ yes, (a yes).isNaN = false) (second : ∀ no, (b no).isNaN = false) : (dite c a b).isNaN = false := by
  by_cases choice : c
  · rw [dif_pos choice, first]
  · rw [dif_neg choice, second]

/-- Bits stand for no number just if all bits of the exponent are set, and some of the fraction. -/
theorem isNaN_unpack (bits : BitVec Format.binary64.numBits) : (UnpackedFloat.unpack .binary64 bits).isNaN =
    (unpackExponent bits == -1#11 && unpackMantissa bits != 0#52) := by
  unfold UnpackedFloat.unpack
  dsimp only
  by_cases top : unpackExponent bits = -1#11
  · rw [if_pos top, beq_iff_eq.mpr top, Bool.true_and]
    by_cases whole : unpackMantissa bits = 0#52
    · rw [if_pos whole, bne_eq_false_iff_eq.mpr whole]
      rfl
    · rw [if_neg whole, bne_iff_ne.mpr whole]
      rfl
  · rw [if_neg top, beq_eq_false_iff_ne.mpr top, Bool.false_and]
    by_cases least : unpackExponent bits = 0#11
    · rw [if_pos least]
      exact isNaN_dite (fun _ => rfl) fun _ => rfl
    · rw [if_neg least]
      rfl

/-- A number that is put into bits is a number. -/
theorem isNaN_pack {a : UnpackedFloat} (number : a.isNaN = false) :
    (UnpackedFloat.unpack .binary64 (a.pack .binary64)).isNaN = false := by
  rw [isNaN_unpack]
  cases a with
  | notANumber => contradiction
  | infinity sign =>
    have packed : (UnpackedFloat.infinity sign).pack .binary64 = packComponents .binary64 sign (-1#11) 0 := rfl
    rw [packed, unpackMantissa_packComponents]
    exact Bool.and_false _
  | zero sign =>
    have packed : (UnpackedFloat.zero sign).pack .binary64 = packComponents .binary64 sign 0 0 := rfl
    rw [packed, unpackMantissa_packComponents]
    exact Bool.and_false _
  | finite sign mantissa exponent positive =>
    unfold UnpackedFloat.pack
    dsimp only
    split
    · simp [packedInfinity, unpackMantissa_packComponents]
    · rename_i below
      split
      · -- A biased exponent with all its bits set would have made an infinity.
        refine Bool.and_eq_false_imp.mpr fun top => ?_
        rw [unpackExponent_packComponents, beq_iff_eq] at top
        have full := congrArg BitVec.toNat top
        rw [BitVec.toNat_ofNat, Nat.mod_eq_of_lt (by omega)] at full
        exact absurd full (by simp at below ⊢; omega)
      · simp [unpackExponent_packComponents]

/-- Rounding gives a number. -/
theorem isNaN_round (sign : Sign) (mantissa : Nat) (exponent : Int) :
    (UnpackedFloat.round .binary64 sign mantissa exponent).isNaN = false := by
  unfold UnpackedFloat.round roundWithAccuracy
  exact isNaN_dite (fun _ => rfl) fun _ => rfl

/-- The float of a natural number is a number. -/
theorem isNaN_toFloat (n : UInt64) : n.toFloat.isNaN = false := by
  refine isNaN_pack (a := UnpackedFloat.ofUInt64 .binary64 n) ?_
  unfold UnpackedFloat.ofUInt64 UnpackedFloat.ofNat UnpackedFloat.ofInt UnpackedFloat.normalize
  split
  · exact isNaN_round ..
  · rfl
  · exact isNaN_round ..

/-- The opposite of a number is a number. -/
theorem isNaN_neg {x : Float} (number : x.isNaN = false) : (-x).isNaN = false := by
  refine isNaN_pack (a := x.toModel.unpack.neg) ?_
  have unpacked : x.toModel.unpack.isNaN = false := number
  generalize x.toModel.unpack = a at unpacked ⊢
  cases a with
  | notANumber => contradiction
  | _ => rfl

/-- The float of an integer is a number. -/
theorem isNaN_ofInt64 (i : Int64) : (ofInt64 i).isNaN = false := by
  rw [ofInt64]
  split
  · exact isNaN_neg (isNaN_toFloat _)
  · exact isNaN_toFloat _

/-! ## What is not finite -/

/-- The exponent among the bits of a float. -/
theorem toNat_exponent (bits : UInt64) : ((bits >>> 52) &&& 0x7FF).toNat = bits.toNat / 4503599627370496 % 2048 := by
  rw [UInt64.toNat_and, UInt64.toNat_shiftRight]
  exact (Nat.and_two_pow_sub_one_eq_mod _ 11).trans (congrArg (· % 2048) (Nat.shiftRight_eq_div_pow _ 52))

/-- The exponent that is unpacked from bits. -/
theorem toNat_unpackExponent (bits : BitVec Format.binary64.numBits) :
    (unpackExponent bits).toNat = bits.toNat / 4503599627370496 % 2048 := by
  simp [unpackExponent, Nat.shiftRight_eq_div_pow]

/-- The fraction that is unpacked from bits. -/
theorem toNat_unpackMantissa (bits : BitVec Format.binary64.numBits) :
    (unpackMantissa bits).toNat = bits.toNat % 4503599627370496 := by
  simp [unpackMantissa]

/-- Floats with the same bits are one. -/
theorem float_eq_of_toBits {x y : Float} (same : x.toBits.toNat = y.toBits.toNat) : x = y := by
  obtain ⟨⟨bits, _⟩⟩ := x
  obtain ⟨⟨others, _⟩⟩ := y
  obtain rfl : bits = others := UInt64.toNat_inj.mp same
  rfl

/-- A float that is not finite is the one that is no number, or one of the two infinities. -/
theorem eq_of_isFinite_eq_false {x : Float} (endless : isFinite x = false) :
    x = Float.ofBits 0x7FF8000000000000 ∨ x = Float.ofBits 0x7FF0000000000000 ∨ x = Float.ofBits 0xFFF0000000000000 := by
  have top : x.toBits.toNat / 4503599627370496 % 2048 = 2047 := by
    have field : (x.toBits >>> 52) &&& 0x7FF = 0x7FF := by
      refine Decidable.byContradiction fun below => ?_
      simp only [isFinite, decode, beq_eq_false_iff_ne.mpr below, Bool.false_eq_true, if_false, reduceCtorEq] at endless
    rw [← toNat_exponent, field]
    rfl
  by_cases whole : x.toBits.toNat % 4503599627370496 = 0
  · -- The sign is all that is left open.
    have below := x.toBits.toNat_lt
    have either : x.toBits.toNat = 0x7FF0000000000000 ∨ x.toBits.toNat = 0xFFF0000000000000 := by omega
    exact .inr (either.imp (fun same => float_eq_of_toBits same) fun same => float_eq_of_toBits same)
  · refine .inl (float_eq_of_toBits ?_)
    have exponent : @unpackExponent .binary64 x.toBits.toBitVec = -1#11 := BitVec.toNat_inj.mp ((toNat_unpackExponent _).trans top)
    have fraction : @unpackMantissa .binary64 x.toBits.toBitVec ≠ 0#52 := fun zero =>
      whole ((toNat_unpackMantissa _).symm.trans (congrArg BitVec.toNat zero))
    exact congrArg BitVec.toNat (x.toModel.valid.eq_packedNaN exponent fraction)

/-- What a float that is not finite is clamped to. -/
def clamped (x : Float) : Int64 :=
  if x.isNaN then 0 else if x < 0 then Int64.minValue else Int64.maxValue

/-- A float that is not finite is clamped: no number becomes zero, and an infinity the integer nearest to it. -/
theorem truncate_of_isFinite_eq_false {x : Float} (endless : isFinite x = false) : truncate x = clamped x := by
  rcases eq_of_isFinite_eq_false endless with rfl | rfl | rfl <;> decide +kernel

end MessageRouting.Number

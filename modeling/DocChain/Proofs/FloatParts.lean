import DocChain.Number.Binary64

/-!
# Floats and their parts

The parts of a float are those that the core library computes with (`unpack_ofFloat`), and they determine a
finite float. So what the library does with unpacked floats is known of the parts.
-/

namespace DocChain.Binary64

open Float.Model Float.Model.UnpackedFloat

/-! ### Taking apart -/

def sign (negative : Bool) : Sign :=
  if negative then .negative else .positive

/-- The parts as the core library keeps them. -/
def unpacked : Binary64 → UnpackedFloat
  | nan => .notANumber
  | infinite negative => .infinity (sign negative)
  | finite negative mantissa exponent =>
    if h : mantissa = 0 then .zero (sign negative)
    else .finite (sign negative) mantissa exponent (Nat.pos_of_ne_zero h)

theorem unpacked_zero (negative : Bool) (e : Int) : (finite negative 0 e).unpacked = .zero (sign negative) :=
  rfl

theorem unpacked_of_ne_zero {negative : Bool} {m : Nat} {e : Int} (nonzero : m ≠ 0) :
    (finite negative m e).unpacked = .finite (sign negative) m e (Nat.pos_of_ne_zero nonzero) :=
  dif_neg nonzero

theorem toNat_unpackMantissa (b : BitVec 64) : (@unpackMantissa .binary64 b).toNat = b.toNat % 2 ^ 52 := by
  simp [unpackMantissa, BitVec.extractLsb_toNat]

theorem toNat_unpackExponent (b : BitVec 64) :
    (@unpackExponent .binary64 b).toNat = b.toNat / 2 ^ 52 % 2048 := by
  simp [unpackExponent, BitVec.extractLsb_toNat]
  rw [Nat.shiftRight_eq_div_pow]

theorem toNat_unpackSign (b : BitVec 64) :
    (@unpackSign .binary64 b).toNat = b.toNat / 2 ^ 63 % 2 := by
  unfold unpackSign
  simp [BitVec.extractLsb_toNat]
  rw [Nat.shiftRight_eq_div_pow]

theorem ofBitVec_unpackSign (b : BitVec 64) :
    Sign.ofBitVec (@unpackSign .binary64 b) = sign (decide (2 ^ 63 ≤ b.toNat)) := by
  have digit := toNat_unpackSign b
  have := b.isLt
  unfold Sign.ofBitVec sign
  by_cases negative : 2 ^ 63 ≤ b.toNat
  · have other : @unpackSign .binary64 b ≠ 0#1 := fun zero => by
      rw [zero, BitVec.toNat_ofNat] at digit
      omega
    rw [if_neg other, decide_eq_true negative, if_pos rfl]
  · have zero : @unpackSign .binary64 b = 0#1 := by
      apply BitVec.eq_of_toNat_eq
      rw [digit, BitVec.toNat_ofNat]
      omega
    rw [if_pos zero, decide_eq_false negative, if_neg Bool.false_ne_true]

theorem finite_congr {s : Sign} {m m' : Nat} {e e' : Int} {m_pos : 0 < m} {m'_pos : 0 < m'} (mantissa : m = m')
    (exponent : e = e') : UnpackedFloat.finite s m e m_pos = .finite s m' e' m'_pos := by
  subst mantissa exponent
  rfl

/-- A float has the same parts here and in the core library. -/
theorem unpack_ofFloat (x : Float) : x.toModel.unpack = (ofFloat x).unpacked := by
  have bits : x.toBits.toNat = x.toModel.toBits.toBitVec.toNat := rfl
  unfold Float.Model.unpack UnpackedFloat.unpack ofFloat
  dsimp only
  rw [bits]
  generalize x.toModel.toBits.toBitVec = b
  have exponent := toNat_unpackExponent b
  have mantissa := toNat_unpackMantissa b
  have mantissa_zero : @unpackMantissa .binary64 b = 0#52 ↔ b.toNat % 2 ^ 52 = 0 := by
    rw [← BitVec.toNat_inj, mantissa]
    rfl
  have exponent_zero : @unpackExponent .binary64 b = 0#11 ↔ b.toNat / 2 ^ 52 % 2048 = 0 := by
    rw [← BitVec.toNat_inj, exponent]
    rfl
  have exponent_full : @unpackExponent .binary64 b = -1#11 ↔ b.toNat / 2 ^ 52 % 2048 = 2047 := by
    rw [← BitVec.toNat_inj, exponent]
    rfl
  have implicit : (1#1 ++ @unpackMantissa .binary64 b).toNat = 2 ^ 52 + b.toNat % 2 ^ 52 := by
    rw [BitVec.toNat_append, mantissa, ← Nat.shiftLeft_add_eq_or_of_lt (Nat.mod_lt _ (by decide))]
    rfl
  rw [ofBitVec_unpackSign]
  by_cases full : b.toNat / 2 ^ 52 % 2048 = 2047
  · rw [if_pos (exponent_full.mpr full), if_pos full]
    by_cases none : b.toNat % 2 ^ 52 = 0
    · rw [if_pos (mantissa_zero.mpr none), if_pos none]
      rfl
    · rw [if_neg (mt mantissa_zero.mp none), if_neg none]
      rfl
  · rw [if_neg (mt exponent_full.mp full), if_neg full]
    by_cases subnormal : b.toNat / 2 ^ 52 % 2048 = 0
    · rw [if_pos (exponent_zero.mpr subnormal), if_pos subnormal]
      by_cases none : b.toNat % 2 ^ 52 = 0
      · rw [dif_pos (mantissa_zero.mpr none), unpacked, dif_pos none]
      · rw [dif_neg (mt mantissa_zero.mp none), unpacked, dif_neg none]
        refine finite_congr mantissa ?_
        rw [exponent, subnormal]
        rfl
    · have some : ¬ 2 ^ 52 + b.toNat % 2 ^ 52 = 0 := by omega
      rw [if_neg (mt exponent_zero.mp subnormal), if_neg subnormal, unpacked, dif_neg some]
      refine finite_congr implicit ?_
      rw [exponent]
      rfl

/-- A float above the least exponent has 53 binary digits. -/
theorem normal_of_ofFloat {x : Float} {negative : Bool} {mantissa : Nat} {exponent : Int}
    (parts : ofFloat x = .finite negative mantissa exponent) (above : -1074 < exponent) : 2 ^ 52 ≤ mantissa := by
  unfold ofFloat at parts
  dsimp only at parts
  split at parts
  · split at parts <;> cases parts
  · split at parts
    · cases parts
      omega
    · cases parts
      omega

/-! ### Putting together -/

theorem toNat_packComponents (s : Sign) (exponent : BitVec 11) (mantissa : BitVec 52) :
    (packComponents .binary64 s exponent mantissa).toNat =
      (s.toBitVec.toNat * 2 ^ 11 + exponent.toNat) * 2 ^ 52 + mantissa.toNat := by
  have := mantissa.isLt
  have := exponent.isLt
  simp only [packComponents, BitVec.toNat_append]
  rw [← Nat.shiftLeft_add_eq_or_of_lt (by omega), ← Nat.shiftLeft_add_eq_or_of_lt (by omega),
    Nat.shiftLeft_eq, Nat.shiftLeft_eq]

/-- What the parts of a finite float can be. -/
structure Fits (m : Nat) (e : Int) : Prop where
  digits : m < 2 ^ 53
  least : -1074 ≤ e
  greatest : e ≤ 971
  normal : -1074 < e → 2 ^ 52 ≤ m

theorem fits_of_ofFloat {x : Float} {negative : Bool} {m : Nat} {e : Int} (parts : ofFloat x = .finite negative m e) :
    Fits m e := by
  obtain ⟨digits, least, greatest⟩ := range_of_ofFloat parts
  exact ⟨digits, least, greatest, normal_of_ofFloat parts⟩

/-- The bits of a finite float: the sign, the biased exponent and the digits behind the first. -/
def finiteBits (negative : Bool) (m : Nat) (e : Int) : Nat :=
  (if negative then 2 ^ 63 else 0) + (if m < 2 ^ 52 then m else (e + 1075).toNat * 2 ^ 52 + (m - 2 ^ 52))

theorem ofFloat_eq_finite_iff {x : Float} {negative : Bool} {m : Nat} {e : Int} :
    ofFloat x = .finite negative m e ↔ Fits m e ∧ x.toBits.toNat = finiteBits negative m e := by
  constructor
  · intro parts
    refine ⟨fits_of_ofFloat parts, ?_⟩
    have := x.toBits.toNat_lt
    unfold ofFloat at parts
    unfold finiteBits
    dsimp only at parts
    generalize x.toBits.toNat = bits at *
    have split : bits = bits / 2 ^ 63 * 2 ^ 63 + bits / 2 ^ 52 % 2048 * 2 ^ 52 + bits % 2 ^ 52 := by omega
    have sign : bits / 2 ^ 63 * 2 ^ 63 = if decide (2 ^ 63 ≤ bits) then 2 ^ 63 else 0 := by
      simp only [decide_eq_true_eq]
      split <;> omega
    split at parts
    · split at parts <;> cases parts
    · split at parts
      · cases parts
        rw [if_pos (Nat.mod_lt _ (by decide))]
        omega
      · cases parts
        rw [if_neg (show ¬ 2 ^ 52 + bits % 2 ^ 52 < 2 ^ 52 by omega)]
        omega
  · rintro ⟨⟨digits, least, greatest, normal⟩, bits⟩
    have sign : decide (2 ^ 63 ≤ finiteBits negative m e) = negative := by
      unfold finiteBits
      cases negative <;> simp only [if_true, Bool.false_eq_true, if_false, decide_eq_true_eq, decide_eq_false_iff_not] <;>
        split <;> omega
    have exponent : finiteBits negative m e / 2 ^ 52 % 2048 = if m < 2 ^ 52 then 0 else (e + 1075).toNat := by
      unfold finiteBits
      cases negative <;> simp only [if_true, Bool.false_eq_true, if_false] <;> split <;> omega
    have fraction : finiteBits negative m e % 2 ^ 52 = if m < 2 ^ 52 then m else m - 2 ^ 52 := by
      unfold finiteBits
      cases negative <;> simp only [if_true, Bool.false_eq_true, if_false] <;> split <;> omega
    unfold ofFloat
    dsimp only
    rw [bits, sign, exponent, fraction]
    by_cases subnormal : m < 2 ^ 52
    · have last : e = -1074 := by omega
      rw [if_pos subnormal, if_pos subnormal, if_neg (by decide), if_pos rfl, last]
    · have whole : 2 ^ 52 + (m - 2 ^ 52) = m := by omega
      have unbiased : ((e + 1075).toNat : Int) - 1075 = e := by omega
      rw [if_neg subnormal, if_neg subnormal, if_neg (by omega), if_neg (by omega), whole, unbiased]

/-- The core library puts the parts of a finite float together to these bits. -/
theorem toNat_pack {negative : Bool} {m : Nat} {e : Int} (fits : Fits m e) :
    (UnpackedFloat.pack .binary64 (finite negative m e).unpacked).toNat = finiteBits negative m e := by
  obtain ⟨digits, least, greatest, normal⟩ := fits
  have digit : (sign negative).toBitVec.toNat * 2 ^ 11 * 2 ^ 52 = if negative then 2 ^ 63 else 0 := by
    cases negative <;> rfl
  by_cases zero : m = 0
  · subst zero
    rw [unpacked_zero]
    unfold finiteBits
    rw [if_pos (show 0 < 2 ^ 52 by decide)]
    cases negative <;> rfl
  · have pack : UnpackedFloat.pack .binary64 (.finite (sign negative) m e (Nat.pos_of_ne_zero zero)) =
        if 2 ^ 11 ≤ (e + (Format.binary64.exponentBias : Nat) + (52 : Nat)).toNat + 1 then
          packedInfinity .binary64 (sign negative)
        else if m.log2 + 1 = Format.binary64.mantissaBits then
          packComponents .binary64 (sign negative)
            (BitVec.ofNat 11 (e + (Format.binary64.exponentBias : Nat) + (52 : Nat)).toNat) (BitVec.ofNat 52 m)
        else packComponents .binary64 (sign negative) 0#11 (BitVec.ofNat 52 m) := rfl
    have biased : (e + (Format.binary64.exponentBias : Nat) + (52 : Nat)).toNat = (e + 1075).toNat := by
      have bias : ((Format.binary64.exponentBias : Nat) : Int) = 1023 := by decide
      omega
    have precision : Format.binary64.mantissaBits = 53 := rfl
    rw [unpacked_of_ne_zero zero, pack, biased, precision, if_neg (by omega)]
    unfold finiteBits
    by_cases subnormal : m < 2 ^ 52
    · have short : m.log2 < 52 := (Nat.log2_lt zero).mpr subnormal
      rw [if_neg (by omega), if_pos subnormal, toNat_packComponents, BitVec.toNat_ofNat, BitVec.toNat_ofNat,
        Nat.mod_eq_of_lt subnormal, Nat.add_zero, digit]
    · have full : m.log2 = 52 := (Nat.log2_eq_iff zero).mpr ⟨by omega, digits⟩
      have exponent : (e + 1075).toNat % 2 ^ 11 = (e + 1075).toNat := Nat.mod_eq_of_lt (by omega)
      have fraction : m % 2 ^ 52 = m - 2 ^ 52 := by omega
      rw [if_pos (by omega), if_neg subnormal, toNat_packComponents, BitVec.toNat_ofNat, BitVec.toNat_ofNat, exponent,
        fraction, Nat.add_mul, digit, Nat.add_assoc]

theorem ofFloat_pack {negative : Bool} {m : Nat} {e : Int} (fits : Fits m e) :
    ofFloat (.ofModel (Float.Model.pack (finite negative m e).unpacked)) = .finite negative m e :=
  ofFloat_eq_finite_iff.mpr ⟨fits, toNat_pack fits⟩

/-- Negation only turns the sign. -/
theorem ofFloat_neg {x : Float} {negative : Bool} {m : Nat} {e : Int} (parts : ofFloat x = .finite negative m e) :
    ofFloat (-x) = .finite (!negative) m e := by
  have turned : x.toModel.unpack.neg = (finite (!negative) m e).unpacked := by
    rw [unpack_ofFloat, parts]
    by_cases zero : m = 0
    · subst zero
      rw [unpacked_zero, unpacked_zero]
      cases negative <;> rfl
    · rw [unpacked_of_ne_zero zero, unpacked_of_ne_zero zero]
      cases negative <;> rfl
  have neg : -x = .ofModel (Float.Model.pack x.toModel.unpack.neg) := rfl
  rw [neg, turned]
  exact ofFloat_pack (fits_of_ofFloat parts)

/-- The parts of a finite float determine it. -/
theorem eq_of_ofFloat {x y : Float} {negative : Bool} {mantissa : Nat} {exponent : Int}
    (first : ofFloat x = .finite negative mantissa exponent) (second : ofFloat y = .finite negative mantissa exponent) :
    x = y := by
  have bits : x.toBits.toNat = y.toBits.toNat := by
    rw [(ofFloat_eq_finite_iff.mp first).2, (ofFloat_eq_finite_iff.mp second).2]
  have model : x.toModel = y.toModel := by
    obtain ⟨⟨bitsX, validX⟩⟩ := x
    obtain ⟨⟨bitsY, validY⟩⟩ := y
    have same : bitsX = bitsY := UInt64.toNat_inj.mp bits
    subst same
    rfl
  obtain ⟨x⟩ := x
  obtain ⟨y⟩ := y
  cases model
  rfl

end DocChain.Binary64

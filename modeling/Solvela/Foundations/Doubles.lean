import Mathlib

/-
  Decimals that are read into 64-bit floats, scaled and
  rounded.

  The floats are those of the model that the standard library
  gives for its `Float`.  A `Normal` is a positive one with
  all 53 bits of its mantissa, and is `Near` a number if it
  is at most one unit in the last place away.  Reading and
  multiplying end near the exact result, so that a decimal
  which counts whole units is restored by one rounding.

  Main declarations:
    * `Normal`, `Normal.value`, `Normal.unpack_packed`
    * `exists_rounded`, `exists_mul`, `exists_div`
    * `exists_ofScientific`
    * `roundAway`, `toUInt64_roundAway`
    * `toUInt64_scaled`
-/

------------------------------------------------------------
-- Normal Floats
------------------------------------------------------------

namespace Doubles

open Float.Model Float.Model.UnpackedFloat

/- A positive float in full precision. -/
structure Normal where
  mantissa : Nat
  exponent : Int
  full : mantissa.log2 = 52
  lower : -1074 ≤ exponent
  upper : exponent ≤ 971

theorem unpackSign_packComponents
    {spec : Format}
    {sign : Sign}
    {exponent : BitVec spec.exponentBits}
    {mantissa : BitVec spec.mantissaBitsWithoutImplicit} :
    unpackSign (packComponents spec sign exponent mantissa) =
      sign.toBitVec := by
  ext i hi
  have hZero : i = 0 := by omega
  subst hZero
  simp only [unpackSign, packComponents, BitVec.getElem_cast,
    BitVec.extractLsb, BitVec.getElem_extractLsb',
    BitVec.getLsbD_append]
  rw [if_neg (by omega), if_neg (by omega), Nat.add_zero,
    Nat.add_sub_cancel_left, Nat.sub_self]
  exact BitVec.getLsbD_eq_getElem hi

namespace Normal

theorem mantissa_ne_zero
    (d : Normal) :
    d.mantissa ≠ 0 := by
  intro hZero
  have hFull := d.full
  rw [hZero] at hFull
  exact absurd hFull (by decide)

theorem bounds
    (d : Normal) :
    2 ^ 52 ≤ d.mantissa ∧ d.mantissa < 2 ^ 53 :=
  (Nat.log2_eq_iff d.mantissa_ne_zero).mp d.full

/- The number that it stands for. -/
def value
    (d : Normal) : ℚ :=
  d.mantissa * 2 ^ d.exponent

/- The unpacked float of this value. -/
def unpacked
    (d : Normal) : UnpackedFloat :=
  .finite .positive d.mantissa d.exponent
    (Nat.pos_of_ne_zero d.mantissa_ne_zero)

/- The float of this value. -/
def packed
    (d : Normal) : Float.Model :=
  Float.Model.pack d.unpacked

/- The leading bit, which is not stored, comes back. -/
theorem append_mantissa
    (d : Normal) :
    (1#1 ++ BitVec.ofNat 52 d.mantissa).toNat =
      d.mantissa := by
  have hBounds := d.bounds
  rw [BitVec.toNat_append, BitVec.toNat_ofNat 1 1,
    BitVec.toNat_ofNat d.mantissa 52,
    ← Nat.shiftLeft_add_eq_or_of_lt (by omega)]
  change 1 <<< 52 + _ = _
  rw [Nat.shiftLeft_eq]
  omega

/- What the 64 bits of a normal float say is the float. -/
@[simp] theorem unpack_packed
    (d : Normal) :
    d.packed.unpack = d.unpacked := by
  have hAppend := d.append_mantissa
  rcases d with ⟨m, e, hFull, hLower, hUpper⟩
  have hBiased :
      ∃ b : Nat, (b : Int) = e + 1075 ∧ 0 < b ∧ b < 2047 :=
    ⟨(e + 1075).toNat, by omega, by omega, by omega⟩
  rcases hBiased with ⟨b, hB, hPos, hLt⟩
  have hStored :
      (e + (Format.binary64.exponentBias : Int) +
        (Format.binary64.mantissaBitsWithoutImplicit : Int)
        ).toNat = b := by
    change (e + (1023 : Int) + (52 : Int)).toNat = b
    omega
  have hVec : (BitVec.ofNat 11 b).toNat = b := by
    rw [BitVec.toNat_ofNat]
    omega
  -- The exponent is neither that of zero nor that of infinity.
  have hNotMax : BitVec.ofNat 11 b ≠ -1#11 := by
    intro hMax
    have hNat := congrArg BitVec.toNat hMax
    rw [hVec, show (-1#11 : BitVec 11).toNat = 2047
      from rfl] at hNat
    omega
  have hNotMin : BitVec.ofNat 11 b ≠ 0#11 := by
    intro hMin
    have hNat := congrArg BitVec.toNat hMin
    rw [hVec, show (0#11 : BitVec 11).toNat = 0
      from rfl] at hNat
    omega
  unfold packed Float.Model.pack Float.Model.unpack unpacked
  simp only [UnpackedFloat.pack, hStored, hFull]
  rw [if_neg (by omega), if_pos (by rfl)]
  simp only [UnpackedFloat.unpack,
    unpackMantissa_packComponents,
    unpackExponent_packComponents, unpackSign_packComponents]
  rw [if_neg hNotMax, if_neg hNotMin]
  congr 1
  rw [hVec]
  change (b : Int) - (1023 + 52) = e
  omega

/- At most one unit in the last place away from `x`. -/
def Near
    (d : Normal)
    (x : ℚ) : Prop :=
  |d.value - x| ≤ x / 2 ^ 52

end Normal

end Doubles

------------------------------------------------------------
-- Rounding
------------------------------------------------------------

namespace Doubles

open Float.Model Float.Model.UnpackedFloat

theorem shiftRight_mantissa
    (em : ExtendedMantissa)
    (k : Nat) :
    (em >>> k).mantissa = em.mantissa / 2 ^ k := by
  change (k.repeat ExtendedMantissa.shiftRightOne
    em).mantissa = _
  induction k with
  | zero => exact (Nat.div_one _).symm
  | succ k ih =>
      change (k.repeat ExtendedMantissa.shiftRightOne
        em).mantissa / 2 = _
      rw [ih, Nat.div_div_eq_div_mul, Nat.pow_succ]

theorem roundedMantissa_bounds
    (em : ExtendedMantissa) :
    em.mantissa ≤ em.roundedMantissa ∧
      em.roundedMantissa ≤ em.mantissa + 1 := by
  unfold ExtendedMantissa.roundedMantissa
  cases em.accuracy with
  | exact => exact ⟨Nat.le_refl _, Nat.le_succ _⟩
  | inexact o =>
      cases o with
      | lt => exact ⟨Nat.le_refl _, Nat.le_succ _⟩
      | eq =>
          change em.mantissa ≤ em.mantissa + em.mantissa % 2 ∧
            em.mantissa + em.mantissa % 2 ≤ em.mantissa + 1
          omega
      | gt => exact ⟨Nat.le_succ _, Nat.le_refl _⟩

/- All but 53 bits of a mantissa are shifted out. -/
theorem shiftToTargetExponent_spec
    {m k : Nat}
    {e : Int}
    (acc : Accuracy)
    (hLog : m.log2 = 52 + k)
    (hLow : -1074 ≤ e + k) :
    (shiftToTargetExponent Format.binary64 m e
        acc).1.mantissa = m / 2 ^ k ∧
      (shiftToTargetExponent Format.binary64 m e acc).2 =
        e + k := by
  have hTarget :
      Format.binary64.targetExponent (totalExponent m e) =
        e + k := by
    unfold Format.targetExponent totalExponent
    rw [hLog]
    change max (((52 + k : Nat) : Int) + 1 + e - 53) (-1074) =
      e + k
    omega
  have hShift : (e + k - e).toNat = k := by omega
  unfold shiftToTargetExponent shiftToExponent
  rw [hTarget]
  simp only [hShift, shiftRight_mantissa, and_true]
  cases acc with
  | exact => rfl
  | inexact o => cases o <;> rfl

/- Numbers that are far from the ends of the range. -/
def Moderate
    (x : ℚ) : Prop :=
  2 ^ (-200 : Int) ≤ x ∧ x ≤ 2 ^ (200 : Int)

theorem exponent_of_moderate
    {m : Nat}
    {e : Int}
    {x : ℚ}
    (hNe : m ≠ 0)
    (hLow : m * 2 ^ e ≤ x)
    (hHigh : x ≤ (m + 1) * 2 ^ e)
    (hModerate : Moderate x) :
    -201 ≤ m.log2 + e ∧ m.log2 + e ≤ 200 := by
  have hPos : (0 : ℚ) ≤ 2 ^ e := (zpow_pos two_pos e).le
  constructor
  · have hBits : (m : ℚ) + 1 ≤ 2 ^ ((m.log2 : Int) + 1) := by
      exact_mod_cast Nat.lt_log2_self (n := m)
    have hLe :
        (2 : ℚ) ^ (-200 : Int) ≤
          2 ^ ((m.log2 : Int) + 1 + e) := by
      rw [zpow_add₀ two_ne_zero]
      exact (hModerate.1.trans hHigh).trans
        (mul_le_mul_of_nonneg_right hBits hPos)
    have hExp := (zpow_le_zpow_iff_right₀ one_lt_two).mp hLe
    omega
  · have hBits : (2 : ℚ) ^ (m.log2 : Int) ≤ m := by
      exact_mod_cast Nat.log2_self_le hNe
    have hLe :
        (2 : ℚ) ^ ((m.log2 : Int) + e) ≤
          2 ^ (200 : Int) := by
      rw [zpow_add₀ two_ne_zero]
      exact ((mul_le_mul_of_nonneg_right hBits hPos).trans
        hLow).trans hModerate.2
    exact (zpow_le_zpow_iff_right₀ one_lt_two).mp hLe

/- Whichever way a mantissa of 53 bits is rounded. -/
theorem near_of_floor
    {f r : Nat}
    {u x : ℚ}
    (hPos : 0 < u)
    (hFull : 2 ^ 52 ≤ f)
    (hBounds : f ≤ r ∧ r ≤ f + 1)
    (hLow : f * u ≤ x)
    (hHigh : x ≤ (f + 1) * u) :
    |r * u - x| ≤ x / 2 ^ 52 := by
  have hFrom : (f : ℚ) * u ≤ r * u :=
    mul_le_mul_of_nonneg_right
      (by exact_mod_cast hBounds.1) hPos.le
  have hTo : (r : ℚ) * u ≤ (f + 1) * u :=
    mul_le_mul_of_nonneg_right
      (by exact_mod_cast hBounds.2) hPos.le
  have hUnit : u ≤ x / 2 ^ 52 := by
    rw [le_div_iff₀ (by positivity), mul_comm]
    exact (mul_le_mul_of_nonneg_right
      (by exact_mod_cast hFull) hPos.le).trans hLow
  refine le_trans ?_ hUnit
  rw [abs_le]
  constructor <;> linarith

/- Rounding up can carry into one more bit. -/
theorem exists_carry
    {r : Nat}
    (hGe : 2 ^ 52 ≤ r)
    (hLe : r ≤ 2 ^ 53) :
    ∃ c : Nat, c ≤ 1 ∧
      r.log2 = 52 + c ∧
        (r / 2 ^ c).log2 = 52 ∧
          r / 2 ^ c * 2 ^ c = r := by
  by_cases hSmall : r < 2 ^ 53
  · have hLog :=
      (Nat.log2_eq_iff (by omega)).mpr ⟨hGe, hSmall⟩
    refine ⟨0, by omega, hLog, ?_, by omega⟩
    rw [Nat.pow_zero, Nat.div_one]
    exact hLog
  · have hIs : r = 2 ^ 53 := by omega
    refine ⟨1, by omega, ?_, ?_, by omega⟩
    · rw [hIs, Nat.log2_two_pow]
    · rw [hIs, Nat.pow_div (by decide) two_pos,
        Nat.log2_two_pow]

/-
  A number that lies between two neighbours is rounded to a
  float near it, whatever is known of where it lies.
-/
theorem exists_rounded
    {m : Nat}
    {e : Int}
    {x : ℚ}
    (acc : Accuracy)
    (hFull : 52 ≤ m.log2)
    (hLow : m * 2 ^ e ≤ x)
    (hHigh : x ≤ (m + 1) * 2 ^ e)
    (hModerate : Moderate x) :
    ∃ d : Normal,
      roundWithAccuracy Format.binary64 .positive m e acc =
          d.unpacked ∧
        d.Near x := by
  have hNe : m ≠ 0 := by
    intro hZero
    rw [hZero] at hFull
    exact absurd hFull (by decide)
  rcases Nat.exists_eq_add_of_le hFull with ⟨k, hLog⟩
  rcases exponent_of_moderate hNe hLow hHigh hModerate with
    ⟨hFrom, hTo⟩
  rw [hLog, Nat.cast_add] at hFrom hTo
  rcases shiftToTargetExponent_spec acc hLog
      (by omega : -1074 ≤ e + k) with
    ⟨hMantissa, hExponent⟩
  have hFloor : 2 ^ 52 ≤ m / 2 ^ k ∧ m / 2 ^ k < 2 ^ 53 := by
    rcases (Nat.log2_eq_iff hNe).mp hLog with ⟨hGe, hLt⟩
    constructor
    · rw [Nat.le_div_iff_mul_le (by positivity),
        ← Nat.pow_add]
      exact hGe
    · rw [Nat.div_lt_iff_lt_mul (by positivity),
        ← Nat.pow_add]
      exact hLt.trans_le
        (Nat.pow_le_pow_right two_pos (by omega))
  have hBounds := roundedMantissa_bounds
    (shiftToTargetExponent Format.binary64 m e acc).1
  rw [hMantissa] at hBounds
  generalize hRounded :
    (shiftToTargetExponent Format.binary64 m e
      acc).1.roundedMantissa = r at hBounds
  rcases exists_carry (by omega : 2 ^ 52 ≤ r) (by omega) with
    ⟨c, hCarry, hLogR, hFullR, hWhole⟩
  rcases shiftToTargetExponent_spec .exact hLogR
      (by omega : -1074 ≤ e + k + c) with
    ⟨hMantissa', hExponent'⟩
  refine ⟨⟨r / 2 ^ c, e + k + c, hFullR, by omega, by omega⟩,
    ?_, ?_⟩
  · have hNonzero : r / 2 ^ c ≠ 0 := by
      intro hZero
      rw [hZero] at hFullR
      exact absurd hFullR (by decide)
    unfold roundWithAccuracy
    simp only [hRounded, hExponent, hMantissa', hExponent']
    rw [dif_neg hNonzero]
    rfl
  · have hValue :
        Normal.value ⟨r / 2 ^ c, e + k + c, hFullR, by omega,
          by omega⟩ = r * 2 ^ (e + k) := by
      have hCast : ((r / 2 ^ c : Nat) : ℚ) * 2 ^ c = r := by
        exact_mod_cast hWhole
      unfold Normal.value
      simp only
      rw [zpow_add₀ two_ne_zero (e + k), zpow_natCast,
        ← hCast]
      ring
    have hUnit : (2 : ℚ) ^ (e + k) = 2 ^ k * 2 ^ e := by
      rw [zpow_add₀ two_ne_zero, zpow_natCast, mul_comm]
    have hPos : (0 : ℚ) ≤ 2 ^ e := (zpow_pos two_pos e).le
    have hDown : ((m / 2 ^ k : Nat) : ℚ) * 2 ^ k ≤ m := by
      exact_mod_cast Nat.div_mul_le_self m (2 ^ k)
    have hUp :
        (m : ℚ) + 1 ≤ ((m / 2 ^ k : Nat) + 1) * 2 ^ k := by
      exact_mod_cast Nat.lt_mul_of_div_lt
        (Nat.lt_succ_self (m / 2 ^ k)) (by positivity)
    unfold Normal.Near
    rw [hValue]
    apply near_of_floor (zpow_pos two_pos _) hFloor.1 hBounds
    · rw [hUnit, ← mul_assoc]
      exact (mul_le_mul_of_nonneg_right hDown hPos).trans hLow
    · rw [hUnit, ← mul_assoc]
      exact hHigh.trans (mul_le_mul_of_nonneg_right hUp hPos)

/- What fits is not changed. -/
theorem roundWithAccuracy_full
    {m : Nat}
    {e : Int}
    (hFull : m.log2 = 52)
    (hLow : -1074 ≤ e)
    (hPos : 0 < m) :
    roundWithAccuracy Format.binary64 .positive m e .exact =
      .finite .positive m e hPos := by
  have hTarget :
      Format.binary64.targetExponent (totalExponent m e) =
        e := by
    unfold Format.targetExponent totalExponent
    rw [hFull]
    change max (((52 : Nat) : Int) + 1 + e - 53) (-1074) = e
    omega
  have hShift :
      shiftToTargetExponent Format.binary64 m e .exact =
        (⟨m, false, false⟩, e) := by
    unfold shiftToTargetExponent shiftToExponent
    rw [hTarget]
    simp only [Int.sub_self, Int.toNat_zero, Nat.cast_zero,
      Int.add_zero]
    rfl
  have hRounded :
      ExtendedMantissa.roundedMantissa ⟨m, false, false⟩ = m :=
    rfl
  unfold roundWithAccuracy
  simp only [hShift, hRounded]
  rw [dif_neg hPos.ne']

/- So natural numbers of up to 53 bits are floats. -/
theorem exists_exact
    {k : Nat}
    (hPos : 0 < k)
    (hSmall : k < 2 ^ 53)
    (zero : Sign) :
    ∃ d : Normal,
      UnpackedFloat.normalize Format.binary64 k 0 zero =
          d.unpacked ∧
        d.value = k := by
  have hBits : k.log2 ≤ 52 :=
    Nat.lt_succ_iff.mp ((Nat.log2_lt hPos.ne').mpr hSmall)
  rcases Nat.exists_eq_add_of_le hBits with ⟨s, hS⟩
  have hFull : (k <<< s).log2 = 52 := by
    rw [Nat.shiftLeft_eq, Nat.log2_eq_iff (by positivity)]
    constructor
    · calc
        2 ^ 52 = 2 ^ k.log2 * 2 ^ s := by
          rw [← Nat.pow_add, ← hS]
        _ ≤ k * 2 ^ s :=
          Nat.mul_le_mul_right _ (Nat.log2_self_le hPos.ne')
    · calc
        k * 2 ^ s < 2 ^ (k.log2 + 1) * 2 ^ s :=
          Nat.mul_lt_mul_of_pos_right Nat.lt_log2_self
            (by positivity)
        _ = 2 ^ 53 := by
          rw [← Nat.pow_add]
          congr 1
          omega
  have hTarget :
      Format.binary64.targetExponent (totalExponent k 0) =
        -(s : Int) := by
    unfold Format.targetExponent totalExponent
    change max ((k.log2 : Int) + 1 + 0 - 53) (-1074) = -s
    omega
  have hShift : (0 - -(s : Int)).toNat = s := by omega
  have hLowered : (0 : Int) - s = -s := by omega
  refine ⟨⟨k <<< s, -s, hFull, by omega, by omega⟩, ?_, ?_⟩
  · unfold UnpackedFloat.normalize UnpackedFloat.round
      decreaseExponent
    rw [Int.compare_eq_gt.mpr (by omega)]
    simp only [Int.toNat_natCast, hTarget, hShift, hLowered]
    exact roundWithAccuracy_full hFull (by omega) _
  · unfold Normal.value
    simp only [Nat.shiftLeft_eq, zpow_neg, zpow_natCast]
    push_cast
    field_simp

end Doubles

------------------------------------------------------------
-- Arithmetic
------------------------------------------------------------

namespace Doubles

open Float.Model Float.Model.UnpackedFloat

theorem exists_mul
    {m n : Nat}
    {e f : Int}
    (hM : 0 < m)
    (hN : 0 < n)
    (hFull : 52 ≤ (m * n).log2)
    (hModerate : Moderate (m * 2 ^ e * (n * 2 ^ f))) :
    ∃ d : Normal,
      UnpackedFloat.mul Format.binary64
          (.finite .positive m e hM)
          (.finite .positive n f hN) = d.unpacked ∧
        d.Near (m * 2 ^ e * (n * 2 ^ f)) := by
  have hValue :
      ((m * n : Nat) : ℚ) * 2 ^ (e + f) =
        m * 2 ^ e * (n * 2 ^ f) := by
    rw [zpow_add₀ two_ne_zero]
    push_cast
    ring
  have hPos : (0 : ℚ) ≤ 2 ^ (e + f) :=
    (zpow_pos two_pos _).le
  rw [← hValue] at hModerate ⊢
  refine exists_rounded .exact hFull le_rfl ?_ hModerate
  exact mul_le_mul_of_nonneg_right (by linarith) hPos

/- A product of normal floats. -/
theorem exists_mul_packed
    {a b : Normal}
    (hModerate : Moderate (a.value * b.value)) :
    ∃ d : Normal,
      a.packed * b.packed = d.packed ∧
        d.Near (a.value * b.value) := by
  have hPos :=
    Nat.mul_ne_zero a.mantissa_ne_zero b.mantissa_ne_zero
  have hFull : 52 ≤ (a.mantissa * b.mantissa).log2 := by
    rw [Nat.le_log2 hPos]
    calc
      2 ^ 52 ≤ 2 ^ 52 * 2 ^ 52 := by norm_num
      _ ≤ a.mantissa * b.mantissa :=
        Nat.mul_le_mul a.bounds.1 b.bounds.1
  rcases exists_mul
      (Nat.pos_of_ne_zero a.mantissa_ne_zero)
      (Nat.pos_of_ne_zero b.mantissa_ne_zero)
      hFull hModerate with
    ⟨d, hMul, hNear⟩
  refine ⟨d, ?_, hNear⟩
  change Float.Model.pack (UnpackedFloat.mul Format.binary64
    a.packed.unpack b.packed.unpack) = _
  rw [a.unpack_packed, b.unpack_packed]
  exact congrArg Float.Model.pack hMul

/-
  A quotient of natural numbers.  The dividend is shifted
  until the quotient has 53 bits.
-/
theorem exists_div
    {m n : Nat}
    (hM : 0 < m)
    (hN : 0 < n)
    (hModerate : Moderate (m / n)) :
    ∃ d : Normal,
      UnpackedFloat.div Format.binary64
          (.finite .positive m 0 hM)
          (.finite .positive n 0 hN) = d.unpacked ∧
        d.Near (m / n) := by
  have hNPos : (0 : ℚ) < n := by exact_mod_cast hN
  have hRange : -201 ≤ (m.log2 : Int) - n.log2 := by
    have hLe :
        (2 : ℚ) ^ (-200 : Int) * 2 ^ (n.log2 : Int) ≤
          2 ^ ((m.log2 : Int) + 1) :=
      calc
        (2 : ℚ) ^ (-200 : Int) * 2 ^ (n.log2 : Int)
          ≤ 2 ^ (-200 : Int) * n :=
            mul_le_mul_of_nonneg_left
              (by exact_mod_cast Nat.log2_self_le hN.ne')
              (zpow_pos two_pos _).le
        _ ≤ m := (le_div_iff₀ hNPos).mp hModerate.1
        _ ≤ 2 ^ ((m.log2 : Int) + 1) := by
          exact_mod_cast (Nat.lt_log2_self (n := m)).le
    rw [← zpow_add₀ two_ne_zero] at hLe
    have hExp := (zpow_le_zpow_iff_right₀ one_lt_two).mp hLe
    omega
  have hTarget :
      ∃ s : Nat, (s : Int) = max 0 (n.log2 + 53 - m.log2) ∧
        min (0 - 0) (Format.binary64.targetExponent
          (totalExponent m 0 - totalExponent n 0)) =
            -(s : Int) := by
    refine ⟨(max 0 ((n.log2 : Int) + 53 - m.log2)).toNat,
      by omega, ?_⟩
    change min (0 - 0) (max ((m.log2 : Int) + 1 + 0 -
      (n.log2 + 1 + 0) - 53) (-1074)) = _
    omega
  rcases hTarget with ⟨s, hS, hTarget⟩
  have hShift : (0 - 0 - -(s : Int)).toNat = s := by omega
  have hFull : 52 ≤ ((m <<< s) / n).log2 := by
    have hGe : 2 ^ 52 ≤ (m <<< s) / n := by
      rw [Nat.le_div_iff_mul_le hN, Nat.shiftLeft_eq]
      calc
        2 ^ 52 * n ≤ 2 ^ 52 * 2 ^ (n.log2 + 1) :=
          Nat.mul_le_mul_left _ Nat.lt_log2_self.le
        _ = 2 ^ (n.log2 + 53) := by
          rw [← Nat.pow_add]
          congr 1
          omega
        _ ≤ 2 ^ (m.log2 + s) :=
          Nat.pow_le_pow_right two_pos (by omega)
        _ ≤ m * 2 ^ s := by
          rw [Nat.pow_add]
          exact Nat.mul_le_mul_right _
            (Nat.log2_self_le hM.ne')
    exact (Nat.le_log2 (by omega)).mpr hGe
  have hScale :
      (m : ℚ) / n =
        ((m <<< s : Nat) : ℚ) / n * 2 ^ (-(s : Int)) := by
    rw [Nat.shiftLeft_eq, zpow_neg, zpow_natCast]
    push_cast
    field_simp
  have hDown :
      (((m <<< s) / n : Nat) : ℚ) ≤
        ((m <<< s : Nat) : ℚ) / n :=
    Nat.cast_div_le
  have hUp :
      ((m <<< s : Nat) : ℚ) / n ≤
        ((m <<< s) / n : Nat) + 1 := by
    rw [div_le_iff₀ hNPos]
    exact_mod_cast (Nat.lt_mul_of_div_lt
      (Nat.lt_succ_self ((m <<< s) / n)) hN).le
  have hPos : (0 : ℚ) ≤ 2 ^ (-(s : Int)) :=
    (zpow_pos two_pos _).le
  rcases exists_rounded
      (accuracyOfFraction ((m <<< s) % n) n) hFull
      (hScale ▸ mul_le_mul_of_nonneg_right hDown hPos)
      (hScale ▸ mul_le_mul_of_nonneg_right hUp hPos)
      hModerate with
    ⟨d, hRound, hNear⟩
  refine ⟨d, ?_, hNear⟩
  rw [← hRound]
  simp only [UnpackedFloat.div, divCore, hTarget, hShift]
  rfl

end Doubles

------------------------------------------------------------
-- Decimals
------------------------------------------------------------

namespace Doubles

open Float.Model Float.Model.UnpackedFloat

theorem exponent_of_decimal
    {m : Nat}
    {e : Int}
    (hM : 0 < m)
    (hModerate : Moderate (m * 10 ^ e)) :
    -(201 + m.log2 : Int) ≤ e ∧ e ≤ 200 := by
  have hOne : (1 : ℚ) ≤ m := by exact_mod_cast hM
  have hBits : (m : ℚ) ≤ 2 ^ ((m.log2 : Int) + 1) := by
    exact_mod_cast (Nat.lt_log2_self (n := m)).le
  have hTenPos : (0 : ℚ) ≤ 10 ^ e :=
    (zpow_pos (by norm_num) e).le
  constructor
  · by_contra hNot
    rcases Int.exists_eq_neg_ofNat (by omega : e ≤ 0) with
      ⟨k, rfl⟩
    have hTen : (10 : ℚ) ^ (-(k : Int)) ≤ 2 ^ (-(k : Int)) := by
      rw [zpow_neg, zpow_neg, zpow_natCast, zpow_natCast]
      exact inv_anti₀ (by positivity)
        (pow_le_pow_left₀ (by norm_num) (by norm_num) k)
    have hLe :
        (2 : ℚ) ^ (-200 : Int) ≤
          2 ^ ((m.log2 : Int) + 1 + -(k : Int)) := by
      rw [zpow_add₀ two_ne_zero]
      exact hModerate.1.trans (mul_le_mul hBits hTen hTenPos
        (zpow_pos two_pos _).le)
    have hExp := (zpow_le_zpow_iff_right₀ one_lt_two).mp hLe
    omega
  · by_contra hNot
    rcases Int.eq_ofNat_of_zero_le (by omega : 0 ≤ e) with
      ⟨k, rfl⟩
    have hLe : (2 : ℚ) ^ (k : Int) ≤ 2 ^ (200 : Int) :=
      calc
        (2 : ℚ) ^ (k : Int) ≤ 10 ^ (k : Int) := by
          rw [zpow_natCast, zpow_natCast]
          exact pow_le_pow_left₀ (by norm_num) (by norm_num) k
        _ ≤ m * 10 ^ (k : Int) :=
          le_mul_of_one_le_left hTenPos hOne
        _ ≤ 2 ^ (200 : Int) := hModerate.2
    have hExp := (zpow_le_zpow_iff_right₀ one_lt_two).mp hLe
    omega

theorem ofScientific_zero
    (e : Int) :
    Float.Model.ofScientific 0 e =
      Float.Model.pack (.zero .positive) := by
  unfold Float.Model.ofScientific UnpackedFloat.ofScientific
  rw [dif_pos rfl]

/- A decimal is read to a float near it. -/
theorem exists_ofScientific
    {m : Nat}
    {e : Int}
    (hM : 0 < m)
    (hModerate : Moderate (m * 10 ^ e)) :
    ∃ d : Normal,
      Float.Model.ofScientific m e = d.packed ∧
        d.Near (m * 10 ^ e) := by
  rcases exponent_of_decimal hM hModerate with ⟨hFrom, hTo⟩
  have hNotBig : ¬ e > 2 ^ 11 := by omega
  have hNotTiny : ¬ e < -((2 ^ 11 : Int) + m.log2) := by omega
  unfold Float.Model.ofScientific UnpackedFloat.ofScientific
  rw [dif_neg hM.ne', if_neg hNotBig, if_neg hNotTiny]
  by_cases hSign : 0 ≤ e
  · rw [if_pos hSign]
    rcases Int.eq_ofNat_of_zero_le hSign with ⟨k, rfl⟩
    have hValue :
        ((m <<< 53 : Nat) : ℚ) * 2 ^ (-53 : Int) *
            ((10 ^ k : Nat) * 2 ^ (0 : Int)) =
          m * 10 ^ (k : Int) := by
      rw [Nat.shiftLeft_eq, zpow_zero, zpow_natCast, zpow_neg]
      push_cast
      norm_num
      ring
    have hFull : 52 ≤ (m <<< 53 * 10 ^ k).log2 := by
      have hOne : 1 ≤ m * 10 ^ k :=
        Nat.mul_pos hM (by positivity)
      rw [Nat.shiftLeft_eq, Nat.le_log2 (by positivity)]
      calc
        2 ^ 52 ≤ 1 * 2 ^ 53 := by norm_num
        _ ≤ m * 10 ^ k * 2 ^ 53 :=
          Nat.mul_le_mul_right _ hOne
        _ = m * 2 ^ 53 * 10 ^ k := by ring
    rw [← hValue] at hModerate ⊢
    rcases exists_mul (by rw [Nat.shiftLeft_eq]; positivity)
        (by positivity) hFull hModerate with
      ⟨d, hMul, hNear⟩
    exact ⟨d, congrArg Float.Model.pack hMul, hNear⟩
  · rw [if_neg hSign]
    rcases Int.exists_eq_neg_ofNat (by omega : e ≤ 0) with
      ⟨k, rfl⟩
    have hValue :
        (m : ℚ) / ((10 ^ k : Nat) : ℚ) =
          m * 10 ^ (-(k : Int)) := by
      rw [zpow_neg, zpow_natCast]
      push_cast
      rfl
    have hNat : (- -(k : Int)).toNat = k := by omega
    rw [← hValue] at hModerate ⊢
    rcases exists_div hM (by positivity) hModerate with
      ⟨d, hDiv, hNear⟩
    refine ⟨d, ?_, hNear⟩
    simp only [hNat]
    exact congrArg Float.Model.pack hDiv

end Doubles

------------------------------------------------------------
-- Rounding To Integers
------------------------------------------------------------

namespace Doubles

open Float.Model Float.Model.UnpackedFloat

/- The nearest integer, or the one farther from zero. -/
def roundAway
    (v : Float.Model) : Float.Model :=
  match v.unpack with
  | .finite s m e _ =>
      if 0 ≤ e then
        v
      else
        Float.Model.pack
          (UnpackedFloat.normalize Format.binary64
            (s.apply ((m + 2 ^ (-e - 1).toNat) /
              2 ^ (-e).toNat : Nat)) 0 s)
  | _ => v

/- The cast to an integer takes the floor. -/
theorem Normal.toUInt64_packed
    {d : Normal}
    {k : Nat}
    (hFrom : k ≤ d.value)
    (hTo : d.value < k + 1)
    (hRange : k < 2 ^ 64) :
    d.packed.toUInt64 = UInt64.ofNat k := by
  have hInt :
      roundToInt .positive d.mantissa d.exponent = k := by
    unfold Normal.value at hFrom hTo
    rcases Int.le_total 0 d.exponent with hSign | hSign
    · rcases Int.eq_ofNat_of_zero_le hSign with ⟨j, hE⟩
      rw [hE, zpow_natCast] at hFrom hTo
      have hWhole : d.mantissa * 2 ^ j = k :=
        Nat.le_antisymm
          (Nat.lt_succ_iff.mp (by exact_mod_cast hTo))
          (by exact_mod_cast hFrom)
      have hUp : ((j : Int) - 0).toNat = j := by omega
      have hDown : (0 - ((j : Int) - j)).toNat = 0 := by omega
      unfold roundToInt decreaseExponent shiftToExponent
      simp only [hE, hUp, hDown, shiftRight_mantissa,
        Sign.apply, ExtendedMantissa.ofMantissaAndAccuracy,
        Nat.shiftLeft_eq, hWhole, Nat.pow_zero, Nat.div_one]
    · rcases Int.exists_eq_neg_ofNat hSign with ⟨j, hE⟩
      rw [hE, zpow_neg, zpow_natCast, ← div_eq_mul_inv]
        at hFrom hTo
      rw [le_div_iff₀ (by positivity)] at hFrom
      rw [div_lt_iff₀ (by positivity)] at hTo
      have hFloor : d.mantissa / 2 ^ j = k :=
        Nat.div_eq_of_lt_le (by exact_mod_cast hFrom)
          (by exact_mod_cast hTo)
      have hUp : (-(j : Int) - 0).toNat = 0 := by omega
      have hDown :
          (0 - (-(j : Int) - (0 : Nat))).toNat = j := by
        omega
      unfold roundToInt decreaseExponent shiftToExponent
      simp only [hE, hUp, hDown, shiftRight_mantissa,
        Sign.apply, ExtendedMantissa.ofMantissaAndAccuracy,
        Nat.shiftLeft_zero, hFloor]
  unfold Float.Model.toUInt64
  rw [d.unpack_packed]
  unfold Normal.unpacked UnpackedFloat.toUInt64
    UnpackedFloat.toInt
  simp only [hInt, Int.toNat_natCast]
  exact UInt64.ofNatClamp_eq_ofNat _ hRange

/- Less than a half away, rounding restores an integer. -/
theorem toUInt64_roundAway
    {d : Normal}
    {k : Nat}
    (hPos : 0 < k)
    (hSmall : k < 2 ^ 53)
    (hClose : |d.value - k| < 1 / 2) :
    (roundAway d.packed).toUInt64 = UInt64.ofNat k := by
  rw [abs_lt] at hClose
  unfold roundAway
  rw [d.unpack_packed]
  simp only [Normal.unpacked]
  split
  · next hSign =>
      rcases Int.eq_ofNat_of_zero_le hSign with ⟨j, hE⟩
      have hWhole : d.value = (d.mantissa * 2 ^ j : Nat) := by
        unfold Normal.value
        rw [hE, zpow_natCast]
        push_cast
        rfl
      have hIs : d.mantissa * 2 ^ j = k := by
        rw [hWhole] at hClose
        have hLt :
            ((d.mantissa * 2 ^ j : Nat) : ℚ) <
              (k + 1 : Nat) := by
          push_cast at hClose ⊢
          linarith
        have hGt :
            (k : ℚ) < (d.mantissa * 2 ^ j + 1 : Nat) := by
          push_cast at hClose ⊢
          linarith
        exact Nat.le_antisymm
          (Nat.lt_succ_iff.mp (Nat.cast_lt.mp hLt))
          (Nat.lt_succ_iff.mp (Nat.cast_lt.mp hGt))
      rw [hIs] at hWhole
      exact Normal.toUInt64_packed hWhole.ge
        (by rw [hWhole]; linarith) (by omega)
  · next hSign =>
      have hNegative :
          ∃ j : Nat, d.exponent = -(j + 1 : Nat) :=
        ⟨(-d.exponent - 1).toNat, by omega⟩
      rcases hNegative with ⟨j, hE⟩
      have hHalf : (-d.exponent - 1).toNat = j := by omega
      have hUnit : (-d.exponent).toNat = j + 1 := by omega
      have hRound :
          (d.mantissa + 2 ^ j) / 2 ^ (j + 1) = k := by
        unfold Normal.value at hClose
        rw [hE, zpow_neg, zpow_natCast, ← div_eq_mul_inv]
          at hClose
        have hTwo : (2 : ℚ) ^ (j + 1) = 2 * 2 ^ j :=
          pow_succ' 2 j
        have hLow :
            ((k : ℚ) - 1 / 2) * 2 ^ (j + 1) < d.mantissa := by
          rw [← lt_div_iff₀ (by positivity)]
          linarith
        have hHigh :
            (d.mantissa : ℚ) <
              (k + 1 / 2) * 2 ^ (j + 1) := by
          rw [← div_lt_iff₀ (by positivity)]
          linarith
        rw [hTwo] at hLow hHigh
        apply Nat.div_eq_of_lt_le
        · have hLe :
              (k : ℚ) * 2 ^ (j + 1) ≤
                d.mantissa + 2 ^ j := by
            rw [hTwo]
            linarith
          exact_mod_cast hLe
        · have hLt :
              (d.mantissa : ℚ) + 2 ^ j <
                (k + 1) * 2 ^ (j + 1) := by
            rw [hTwo]
            linarith
          exact_mod_cast hLt
      rcases exists_exact hPos hSmall .positive with
        ⟨d', hExact, hValue⟩
      simp only [hHalf, hUnit, hRound, Sign.apply, hExact]
      exact Normal.toUInt64_packed hValue.ge
        (by rw [hValue]; linarith) (by omega)

/-
  A decimal that counts `k` units is read, scaled to units
  and rounded to `k`, though neither of the two results need
  be exact.
-/
theorem toUInt64_scaled
    {m unit k : Nat}
    {e : Int}
    (hUnit : 0 < unit)
    (hFine : unit < 2 ^ 53)
    (hCount : (m : ℚ) * 10 ^ e * unit = k)
    (hSmall : k < 2 ^ 50) :
    (roundAway (Float.Model.ofScientific m e *
      Float.Model.ofNat unit)).toUInt64 = UInt64.ofNat k := by
  rcases exists_exact hUnit hFine .positive with
    ⟨u, hExact, hUnitValue⟩
  have hOfNat : Float.Model.ofNat unit = u.packed :=
    congrArg Float.Model.pack hExact
  rw [hOfNat]
  rcases Nat.eq_zero_or_pos m with rfl | hM
  · have hNone : k = 0 := by
      rw [Nat.cast_zero, zero_mul, zero_mul] at hCount
      exact_mod_cast hCount.symm
    have hZero :
        Float.Model.pack (.zero .positive) * u.packed =
          Float.Model.pack (.zero .positive) := by
      change Float.Model.pack (UnpackedFloat.mul _
        (Float.Model.pack (.zero .positive)).unpack
          u.packed.unpack) = _
      rw [u.unpack_packed]
      rfl
    rw [ofScientific_zero, hZero, hNone]
    rfl
  have hUnitPos : (0 : ℚ) < unit := by exact_mod_cast hUnit
  have hTenPos : (0 : ℚ) < 10 ^ e := zpow_pos (by norm_num) e
  have hMPos : (0 : ℚ) < m := by exact_mod_cast hM
  have hKPos : 0 < k := by
    have hCast : (0 : ℚ) < k := by
      rw [← hCount]
      positivity
    exact_mod_cast hCast
  have hKOne : (1 : ℚ) ≤ k := by exact_mod_cast hKPos
  have hKSmall : (k : ℚ) + 1 ≤ 2 ^ 50 := by
    exact_mod_cast hSmall
  have hUnitFine : (unit : ℚ) ≤ 2 ^ 53 := by
    exact_mod_cast hFine.le
  have hUnitOne : (1 : ℚ) ≤ unit := by exact_mod_cast hUnit
  have hRead : Moderate ((m : ℚ) * 10 ^ e) := by
    have hQuotient : (m : ℚ) * 10 ^ e = k / unit := by
      rw [← hCount]
      field_simp
    rw [hQuotient]
    constructor
    · rw [le_div_iff₀ hUnitPos]
      calc
        (2 : ℚ) ^ (-200 : Int) * unit
          ≤ 2 ^ (-200 : Int) * 2 ^ 53 :=
            mul_le_mul_of_nonneg_left hUnitFine
              (zpow_pos two_pos _).le
        _ ≤ 1 := by norm_num
        _ ≤ k := hKOne
    · rw [div_le_iff₀ hUnitPos]
      calc
        (k : ℚ) ≤ 2 ^ (200 : Int) * 1 := by
          norm_num
          linarith
        _ ≤ 2 ^ (200 : Int) * unit :=
          mul_le_mul_of_nonneg_left hUnitOne
            (zpow_pos two_pos _).le
  rcases exists_ofScientific hM hRead with
    ⟨a, hDecimal, hNear⟩
  rw [hDecimal]
  -- Scaling keeps the relative error of the decimal.
  have hScaled : |a.value * u.value - k| ≤ k / 2 ^ 52 := by
    have hFactor :
        a.value * u.value - k =
          (a.value - m * 10 ^ e) * unit := by
      rw [hUnitValue, ← hCount]
      ring
    rw [hFactor, abs_mul, abs_of_pos hUnitPos, ← hCount]
    calc
      |a.value - m * 10 ^ e| * unit
        ≤ m * 10 ^ e / 2 ^ 52 * unit :=
          mul_le_mul_of_nonneg_right hNear hUnitPos.le
      _ = m * 10 ^ e * unit / 2 ^ 52 := by ring
  have hBand := abs_le.mp hScaled
  have hProduct : Moderate (a.value * u.value) := by
    constructor
    · calc
        (2 : ℚ) ^ (-200 : Int) ≤ 1 / 2 := by norm_num
        _ ≤ a.value * u.value := by
          norm_num at hBand ⊢
          linarith
    · calc
        a.value * u.value ≤ 2 ^ 51 := by
          norm_num at hBand hKSmall ⊢
          linarith
        _ ≤ 2 ^ (200 : Int) := by norm_num
  rcases exists_mul_packed hProduct with ⟨p, hMul, hNear'⟩
  rw [hMul]
  apply toUInt64_roundAway hKPos (by omega)
  have hBand' := abs_le.mp hNear'
  rw [abs_lt]
  norm_num at hBand hBand' hKSmall ⊢
  constructor <;> linarith

end Doubles

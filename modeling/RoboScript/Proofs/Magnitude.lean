import Mathlib
import RoboScript.Plane

/-! How large a double can get. A double is within `k` when it is a NaN, a zero, or finite with
its leading binary digit at place `k` or below, so of magnitude below `2 ^ k`; an infinity is
within no bound. Rounding to a double moves the leading digit up by one place at most, so a
product is within the sum of its factors' bounds and one more, and a sum within the addends'
bound and two more; packing a double into bits and reading it back keeps every bound short of
the overflow. The exact conversions round quotients, so the remainder by a small modulus and a
small integer give small doubles, while an integer of `2 ^ 1024` or more rounds to an infinity,
and an integer converts to an infinity exactly when its opposite does. This is what keeps a
heading's radians finite, a convertible integer printable, and its opposite convertible. -/

namespace RoboScript.Binary

open Float.Model UnpackedFloat

/-- A double that is a NaN, a zero, or finite with its leading binary digit at place `k` or
below, so of magnitude below `2 ^ k`; an infinity is within no bound. -/
def Within (k : Int) : UnpackedFloat → Prop
  | .notANumber | .zero _ => True
  | .infinity _ => False
  | .finite _ m e _ => totalExponent m e ≤ k

instance Within.decidable (k : Int) : (u : UnpackedFloat) → Decidable (Within k u)
  | .notANumber | .zero _ => isTrue trivial
  | .infinity _ => isFalse id
  | .finite _ m e _ => inferInstanceAs (Decidable (totalExponent m e ≤ k))

theorem Within.mono {k k' : Int} (le : k ≤ k') : ∀ {u : UnpackedFloat}, Within k u → Within k' u
  | .notANumber, _ | .zero _, _ => trivial
  | .infinity _, within => within.elim
  | .finite .., within => Int.le_trans within le

theorem targetExponent_eq (t : Int) : Format.binary64.targetExponent t = max (t - 53) (-1074) := by
  simp [Format.targetExponent, Format.mantissaBits, Format.minExponent]

theorem log2_div_pow_add_le {m n : Nat} (nonzero : m / 2 ^ n ≠ 0) : (m / 2 ^ n).log2 + n ≤ m.log2 := by
  have positive : m ≠ 0 := by
    rintro rfl
    exact nonzero (Nat.zero_div _)
  apply (Nat.le_log2 positive).2
  calc 2 ^ ((m / 2 ^ n).log2 + n) = 2 ^ (m / 2 ^ n).log2 * 2 ^ n := Nat.pow_add _ _ _
    _ ≤ m / 2 ^ n * 2 ^ n := Nat.mul_le_mul_right _ (Nat.log2_self_le nonzero)
    _ ≤ m := Nat.div_mul_le_self _ _

theorem log2_le_of_le_succ {a b : Nat} (le : a ≤ b + 1) : a.log2 ≤ b.log2 + 1 := by
  by_cases zero : a = 0
  · rw [zero, Nat.log2_zero]
    omega
  have below : a.log2 < b.log2 + 2 := by
    apply (Nat.log2_lt zero).2
    have := @Nat.lt_log2_self b
    rw [Nat.pow_succ]
    omega
  omega

theorem log2_mul_lt (a b : Nat) : (a * b).log2 < a.log2 + b.log2 + 2 := by
  by_cases zero : a * b = 0
  · rw [zero, Nat.log2_zero]
    omega
  apply (Nat.log2_lt zero).2
  rw [show a.log2 + b.log2 + 2 = (a.log2 + 1) + (b.log2 + 1) by omega, Nat.pow_add]
  exact Nat.mul_lt_mul'' Nat.lt_log2_self Nat.lt_log2_self

theorem shiftRight_mantissa (em : ExtendedMantissa) (n : Nat) :
    (em >>> n).mantissa = em.mantissa / 2 ^ n := by
  induction n generalizing em with
  | zero => simp [HShiftRight.hShiftRight, Nat.repeat]
  | succ n ih =>
    change (em >>> n).mantissa / 2 = _
    rw [ih, Nat.div_div_eq_div_mul, Nat.pow_succ]

theorem roundedMantissa_le (em : ExtendedMantissa) : em.roundedMantissa ≤ em.mantissa + 1 := by
  rcases em with ⟨m, _ | _, _ | _⟩ <;>
    simp [ExtendedMantissa.roundedMantissa, ExtendedMantissa.accuracy,
      Accuracy.roundToNearestEven]
  omega

theorem shiftToTargetExponent_mantissa (m : Nat) (e : Int) (acc : Accuracy) :
    (shiftToTargetExponent Format.binary64 m e acc).1.mantissa =
      m / 2 ^ (Format.binary64.targetExponent (totalExponent m e) - e).toNat := by
  simp only [shiftToTargetExponent, shiftToExponent, shiftRight_mantissa]
  cases acc with
  | exact => rfl
  | inexact o => cases o <;> rfl

theorem shiftToTargetExponent_exponent (m : Nat) (e : Int) (acc : Accuracy) :
    (shiftToTargetExponent Format.binary64 m e acc).2 =
      e + (Format.binary64.targetExponent (totalExponent m e) - e).toNat := rfl

theorem totalExponent_shift_le {m n : Nat} (e : Int) (nonzero : m / 2 ^ n ≠ 0) :
    totalExponent (m / 2 ^ n) (e + n) ≤ totalExponent m e := by
  have := log2_div_pow_add_le nonzero
  unfold totalExponent
  omega

theorem roundWithAccuracy_within {k : Int} (s : Sign) (m : Nat) (e : Int) (acc : Accuracy)
    (bound : totalExponent m e + 1 ≤ k) (low : -1073 ≤ k) :
    Within k (roundWithAccuracy Format.binary64 s m e acc) := by
  have mantissa₁ := shiftToTargetExponent_mantissa m e acc
  have exponent₁ := shiftToTargetExponent_exponent m e acc
  have rounded := roundedMantissa_le (shiftToTargetExponent Format.binary64 m e acc).1
  rw [roundWithAccuracy]
  generalize shiftToTargetExponent Format.binary64 m e acc = first at *
  rcases first with ⟨em, e₁⟩
  dsimp only at mantissa₁ exponent₁ rounded ⊢
  rw [targetExponent_eq] at mantissa₁ exponent₁
  have total : totalExponent m e = m.log2 + 1 + e := rfl
  generalize shift : (max (totalExponent m e - 53) (-1074) - e).toNat = n at mantissa₁ exponent₁
  -- the first shift drops bits down to the target exponent; rounding may carry one place up
  have carried : totalExponent em.roundedMantissa e₁ ≤ k := by
    show (em.roundedMantissa.log2 : Int) + 1 + e₁ ≤ k
    by_cases dropped : m / 2 ^ n = 0
    · have one : em.roundedMantissa.log2 = 0 := by
        by_cases zero : em.roundedMantissa = 0
        · rw [zero, Nat.log2_zero]
        · have := (Nat.log2_lt zero (k := 1)).2 (by omega)
          omega
      omega
    · have kept := log2_div_pow_add_le dropped
      have up := log2_le_of_le_succ rounded
      rw [mantissa₁] at up
      omega
  have mantissa₂ := shiftToTargetExponent_mantissa em.roundedMantissa e₁ .exact
  have exponent₂ := shiftToTargetExponent_exponent em.roundedMantissa e₁ .exact
  generalize shiftToTargetExponent Format.binary64 em.roundedMantissa e₁ .exact = second at *
  rcases second with ⟨em₂, e₂⟩
  dsimp only at mantissa₂ exponent₂ ⊢
  split
  · trivial
  · rename_i kept
    show totalExponent em₂.mantissa e₂ ≤ k
    rw [mantissa₂] at kept ⊢
    rw [exponent₂]
    exact Int.le_trans (totalExponent_shift_le e₁ kept) carried

theorem log2_le_log2 {a b : Nat} (le : a ≤ b) : a.log2 ≤ b.log2 := by
  by_cases zero : a = 0
  · rw [zero, Nat.log2_zero]
    exact Nat.zero_le _
  exact (Nat.le_log2 (by omega)).2 (Nat.le_trans (Nat.log2_self_le zero) le)

theorem log2_mul_pow {n : Nat} (nonzero : n ≠ 0) (d : Nat) : (n * 2 ^ d).log2 = n.log2 + d := by
  apply (Nat.log2_eq_iff (Nat.mul_ne_zero nonzero (Nat.pos_iff_ne_zero.1 (Nat.two_pow_pos d)))).2
  rw [Nat.pow_add, Nat.add_right_comm, Nat.pow_add]
  exact ⟨Nat.mul_le_mul_right _ (Nat.log2_self_le nonzero),
    Nat.mul_lt_mul_of_pos_right Nat.lt_log2_self (Nat.two_pow_pos d)⟩

theorem log2_add_le (a b : Nat) : (a + b).log2 ≤ max a.log2 b.log2 + 1 := by
  by_cases zero : a + b = 0
  · rw [zero, Nat.log2_zero]
    exact Nat.zero_le _
  have below : (a + b).log2 < max a.log2 b.log2 + 2 := by
    apply (Nat.log2_lt zero).2
    have left : a < 2 ^ (max a.log2 b.log2 + 1) :=
      Nat.lt_of_lt_of_le Nat.lt_log2_self (Nat.pow_le_pow_right (by decide) (by omega))
    have right : b < 2 ^ (max a.log2 b.log2 + 1) :=
      Nat.lt_of_lt_of_le Nat.lt_log2_self (Nat.pow_le_pow_right (by decide) (by omega))
    rw [Nat.pow_succ]
    omega
  omega

theorem mul_within {j k : Int} {x y : UnpackedFloat} (hx : Within j x) (hy : Within k y)
    (low : -1074 ≤ j + k) : Within (j + k + 1) (mul Format.binary64 x y) := by
  cases x with
  | notANumber => trivial
  | infinity => exact hx.elim
  | zero s =>
    cases y with
    | notANumber | zero | finite => trivial
    | infinity => exact hy.elim
  | finite s₁ m₁ e₁ _ =>
    cases y with
    | notANumber | zero => trivial
    | infinity => exact hy.elim
    | finite s₂ m₂ e₂ _ =>
      apply roundWithAccuracy_within _ _ _ _ _ (by omega)
      have := log2_mul_lt m₁ m₂
      simp only [Within, totalExponent] at hx hy ⊢
      omega

theorem round_within {k : Int} (s : Sign) (n : Nat) (e : Int) (bound : totalExponent n e + 1 ≤ k)
    (low : -1073 ≤ k) : Within k (UnpackedFloat.round Format.binary64 s n e) := by
  unfold UnpackedFloat.round decreaseExponent
  apply roundWithAccuracy_within _ _ _ _ _ low
  rw [Nat.shiftLeft_eq]
  unfold totalExponent at bound ⊢
  by_cases zero : n = 0
  · rw [zero, Nat.zero_mul, Nat.log2_zero]
    rw [zero, Nat.log2_zero] at bound
    omega
  · rw [log2_mul_pow zero]
    omega

theorem normalize_within {k : Int} (n e : Int) (z : Sign) (bound : totalExponent n.natAbs e + 1 ≤ k)
    (low : -1073 ≤ k) : Within k (UnpackedFloat.normalize Format.binary64 n e z) := by
  unfold UnpackedFloat.normalize
  split
  · rename_i negative
    have : (-n).toNat = n.natAbs := by
      have := Int.compare_eq_lt.1 negative
      omega
    rw [this]
    exact round_within _ _ _ bound low
  · trivial
  · rename_i positive
    have : n.toNat = n.natAbs := by
      have := Int.compare_eq_gt.1 positive
      omega
    rw [this]
    exact round_within _ _ _ bound low

theorem add_within {k : Int} {x y : UnpackedFloat} (hx : Within k x) (hy : Within k y)
    (low : -1075 ≤ k) : Within (k + 2) (add Format.binary64 x y) := by
  cases x with
  | notANumber => trivial
  | infinity => exact hx.elim
  | zero s₁ =>
    cases y with
    | notANumber => trivial
    | infinity => exact hy.elim
    | zero s₂ =>
      show Within (k + 2) (if s₁ == s₂ then .zero s₁ else .zero .positive)
      split <;> trivial
    | finite => exact hy.mono (by omega)
  | finite s₁ m₁ e₁ _ =>
    cases y with
    | notANumber => trivial
    | infinity => exact hy.elim
    | zero => exact hx.mono (by omega)
    | finite s₂ m₂ e₂ _ =>
      simp only [UnpackedFloat.add, decreaseExponent, Nat.shiftLeft_eq]
      apply normalize_within _ _ _ _ (by omega)
      have first := log2_mul_pow (Nat.pos_iff_ne_zero.1 ‹0 < m₁›) (e₁ - min e₁ e₂).toNat
      have second := log2_mul_pow (Nat.pos_iff_ne_zero.1 ‹0 < m₂›) (e₂ - min e₁ e₂).toNat
      have sum := log2_add_le (m₁ * 2 ^ (e₁ - min e₁ e₂).toNat) (m₂ * 2 ^ (e₂ - min e₁ e₂).toNat)
      have magnitude : (s₁.apply (m₁ * 2 ^ (e₁ - min e₁ e₂).toNat : Nat) +
          s₂.apply (m₂ * 2 ^ (e₂ - min e₁ e₂).toNat : Nat)).natAbs ≤
          m₁ * 2 ^ (e₁ - min e₁ e₂).toNat + m₂ * 2 ^ (e₂ - min e₁ e₂).toNat := by
        cases s₁ <;> cases s₂ <;> simp only [Sign.apply] <;> omega
      have := log2_le_log2 magnitude
      simp only [Within, totalExponent] at hx hy ⊢
      omega

theorem unpack_within (b : BitVec 64)
    (finite : (@unpackExponent Format.binary64 b).toNat < 2047) :
    Within (max ((@unpackExponent Format.binary64 b).toNat : Int) 1 - 1022)
      (unpack Format.binary64 b) := by
  have fraction := (@unpackMantissa Format.binary64 b).isLt
  change (@unpackMantissa Format.binary64 b).toNat < 2 ^ 52 at fraction
  unfold UnpackedFloat.unpack
  dsimp only
  split
  · rename_i allOnes
    rw [allOnes] at finite
    simp at finite
  · split
    · rename_i zero
      split
      · trivial
      · rename_i nonzero
        show (_ : Int) + 1 + _ ≤ _
        have := (Nat.log2_lt (fun h => nonzero (BitVec.eq_of_toNat_eq h))).2 fraction
        rw [zero]
        simp [Format.exponentBias]
        omega
    · rename_i nonzero
      show (_ : Int) + 1 + _ ≤ _
      have whole : (1#1 ++ @unpackMantissa Format.binary64 b).toNat =
          2 ^ 52 + (@unpackMantissa Format.binary64 b).toNat := by
        rw [BitVec.toNat_append, ← Nat.shiftLeft_add_eq_or_of_lt fraction]
        rfl
      have leading : (1#1 ++ @unpackMantissa Format.binary64 b).toNat.log2 = 52 := by
        rw [whole]
        exact (Nat.log2_eq_iff (by omega)).2 ⟨by omega, by omega⟩
      have field : (@unpackExponent Format.binary64 b).toNat ≠ 0 :=
        fun h => nonzero (BitVec.eq_of_toNat_eq h)
      rw [leading]
      simp [Format.exponentBias]
      omega

theorem unpackExponent_packComponents_toNat (s : Sign) (e : BitVec 11) (m : BitVec 52) :
    (@unpackExponent Format.binary64 (packComponents Format.binary64 s e m)).toNat =
      e.toNat := by
  rw [unpackExponent_packComponents]

theorem unpack_pack_within {k : Int} {u : UnpackedFloat} (within : Within k u) (low : -1021 ≤ k)
    (high : k ≤ 971) : Within k (unpack Format.binary64 (pack Format.binary64 u)) := by
  cases u with
  | notANumber => trivial
  | infinity => exact within.elim
  | zero s =>
    refine (unpack_within _ (by simp [UnpackedFloat.pack, packedZero])).mono ?_
    simpa [UnpackedFloat.pack, packedZero] using low
  | finite s m e _ =>
    simp only [Within, totalExponent] at within
    unfold UnpackedFloat.pack
    dsimp only
    split
    · rename_i overflow
      simp [Format.exponentBias] at overflow
      omega
    · split
      · rename_i normal
        simp only [Format.mantissaBits] at normal
        refine (unpack_within _ ?_).mono ?_ <;>
          simp only [unpackExponent_packComponents_toNat, BitVec.toNat_ofNat] <;>
          simp [Format.exponentBias] <;> omega
      · refine (unpack_within _ (by simp)).mono ?_
        simpa using low

/-- A double that is a NaN, a zero, or finite below `2 ^ k` in magnitude. -/
def Small (k : Int) (x : Float) : Prop := Within k x.toModel.unpack

instance Small.decidable (k : Int) (x : Float) : Decidable (Small k x) :=
  Within.decidable k _

theorem Small.mono {k k' : Int} {x : Float} (small : Small k x) (le : k ≤ k') : Small k' x :=
  Within.mono le small

theorem Small.isInf_eq_false {k : Int} {x : Float} (small : Small k x) : x.isInf = false := by
  unfold Small at small
  show x.toModel.unpack.isInf = false
  cases unpacked : x.toModel.unpack with
  | infinity =>
    rw [unpacked] at small
    exact small.elim
  | notANumber | zero | finite => rfl

theorem Small.mul {j k : Int} {x y : Float} (hx : Small j x) (hy : Small k y)
    (low : -1022 ≤ j + k) (high : j + k ≤ 970) : Small (j + k + 1) (x * y) :=
  unpack_pack_within (mul_within hx hy (by omega)) (by omega) (by omega)

theorem Small.add {k : Int} {x y : Float} (hx : Small k x) (hy : Small k y) (low : -1023 ≤ k)
    (high : k ≤ 969) : Small (k + 2) (x + y) :=
  unpack_pack_within (add_within hx hy (by omega)) (by omega) (by omega)

theorem ofBody_small {k : Int} (negative : Bool) (body : Nat) (bound : body / 2 ^ 52 ≤ k + 1022)
    (low : -1021 ≤ k) (high : k ≤ 971) : Small k (ofBody negative body) := by
  unfold Small ofBody
  apply unpack_pack_within _ low high
  have field : (@unpackExponent Format.binary64
      (UInt64.ofNat ((if negative then Nat.pow 2 63 else 0) + body)).toBitVec).toNat =
      body / 2 ^ 52 := by
    simp only [unpackExponent, BitVec.toNat_cast, BitVec.extractLsb_toNat, Nat.shiftRight_eq_div_pow,
      UInt64.toNat_toBitVec, UInt64.toNat_ofNat', Nat.pow_eq]
    split <;> omega
  refine (unpack_within _ (by omega)).mono ?_
  rw [field]
  omega

theorem roundHalfEven_le (num den : Nat) : roundHalfEven num den ≤ num / den + 1 := by
  unfold roundHalfEven
  dsimp only
  split <;> omega

theorem floorLog2Quot_le {num den j : Nat} (below : num < den * 2 ^ (j + 1)) :
    floorLog2Quot num den ≤ j := by
  have bits : num.log2 ≤ den.log2 + j + 1 := by
    by_cases zero : num = 0
    · rw [zero, Nat.log2_zero]
      exact Nat.zero_le _
    have := (Nat.log2_lt zero (k := den.log2 + j + 2)).2 (by
      calc num < den * 2 ^ (j + 1) := below
        _ < 2 ^ (den.log2 + 1) * 2 ^ (j + 1) :=
          Nat.mul_lt_mul_of_pos_right Nat.lt_log2_self (Nat.two_pow_pos _)
        _ = 2 ^ (den.log2 + j + 2) := by rw [← Nat.pow_add]; congr 1; omega)
    omega
  unfold floorLog2Quot atLeastPow2
  dsimp only
  split
  · split
    · rename_i reached
      have reached := of_decide_eq_true reached
      rw [Nat.pow_eq] at reached
      by_cases within : (num.log2 : Int) - den.log2 ≤ j
      · exact within
      · have : den * 2 ^ (j + 1) ≤ den * 2 ^ ((num.log2 : Int) - den.log2).toNat :=
          Nat.mul_le_mul_left _ (Nat.pow_le_pow_right (by decide) (by omega))
        omega
    · omega
  · split <;> omega

theorem scaled_lt {num den s : Nat} (denPos : den ≠ 0)
    (shift : (s : Int) ≤ 52 - floorLog2Quot num den) : num * 2 ^ s < den * 2 ^ 53 := by
  have bitLengths : (s : Int) ≤ 52 - ((num.log2 : Int) - den.log2) → num * 2 ^ s < den * 2 ^ 53 :=
    fun shift => calc
      num * 2 ^ s < 2 ^ (num.log2 + 1) * 2 ^ s :=
          Nat.mul_lt_mul_of_pos_right Nat.lt_log2_self (Nat.two_pow_pos _)
      _ = 2 ^ (num.log2 + 1 + s) := by rw [← Nat.pow_add]
      _ ≤ 2 ^ (den.log2 + 53) := Nat.pow_le_pow_right (by decide) (by omega)
      _ = 2 ^ den.log2 * 2 ^ 53 := by rw [Nat.pow_add]
      _ ≤ den * 2 ^ 53 := Nat.mul_le_mul_right _ (Nat.log2_self_le denPos)
  unfold floorLog2Quot atLeastPow2 at shift
  dsimp only at shift
  split at shift
  · split at shift
    · exact bitLengths shift
    · rename_i short
      have below := Nat.lt_of_not_le (fun h => short (decide_eq_true h))
      rw [Nat.pow_eq] at below
      calc num * 2 ^ s < den * 2 ^ ((num.log2 : Int) - den.log2).toNat * 2 ^ s :=
            Nat.mul_lt_mul_of_pos_right below (Nat.two_pow_pos _)
        _ = den * 2 ^ (((num.log2 : Int) - den.log2).toNat + s) := by
          rw [Nat.mul_assoc, ← Nat.pow_add]
        _ ≤ den * 2 ^ 53 := Nat.mul_le_mul_left _ (Nat.pow_le_pow_right (by decide) (by omega))
  · split at shift
    · exact bitLengths shift
    · rename_i short
      have below := Nat.lt_of_not_le (fun h => short (decide_eq_true h))
      rw [Nat.pow_eq] at below
      calc num * 2 ^ s ≤ num * 2 ^ ((-((num.log2 : Int) - den.log2)).toNat + 53) :=
            Nat.mul_le_mul_left _ (Nat.pow_le_pow_right (by decide) (by omega))
        _ = num * 2 ^ (-((num.log2 : Int) - den.log2)).toNat * 2 ^ 53 := by
          rw [Nat.pow_add, Nat.mul_assoc]
        _ < den * 2 ^ 53 := Nat.mul_lt_mul_of_pos_right below (Nat.two_pow_pos _)

theorem nearest_small {num den j : Nat} (below : num < den * 2 ^ (j + 1)) (small : j ≤ 50)
    (negative : Bool) : Small (j + 2) (nearest negative num den) := by
  unfold nearest
  split
  · exact ofBody_small _ _ (by omega) (by omega) (by omega)
  · rename_i nonzero
    have place := floorLog2Quot_le below
    dsimp only
    generalize shifted : min (52 - floorLog2Quot num den) 1074 = shift
    have scaled : num * 2 ^ shift.toNat < den * 2 ^ 53 := scaled_lt (by omega) (by omega)
    have rounded : scaledRound num den shift ≤ 2 ^ 53 := by
      unfold scaledRound
      rw [if_pos (by omega), Nat.pow_eq]
      have := roundHalfEven_le (num * 2 ^ shift.toNat) den
      have : num * 2 ^ shift.toNat / den < 2 ^ 53 :=
        (Nat.div_lt_iff_lt_mul (Nat.pos_of_ne_zero (by omega))).2 (by rw [Nat.mul_comm (2 ^ 53)]; exact scaled)
      omega
    by_cases carry : scaledRound num den shift = Nat.pow 2 53
    · rw [if_pos carry]
      dsimp only
      rw [if_neg (by omega)]
      exact ofBody_small _ _ (by simp only [Nat.pow_eq]; omega) (by omega) (by omega)
    · rw [if_neg carry]
      dsimp only
      rw [if_neg (by omega)]
      rw [Nat.pow_eq] at carry
      exact ofBody_small _ _ (by simp only [Nat.pow_eq]; omega) (by omega) (by omega)

theorem ofInt_small {n : Int} {j : Nat} (below : n.natAbs < 2 ^ (j + 1)) (small : j ≤ 50) :
    Small (j + 2) (ofInt n) :=
  nearest_small (by omega) small _

theorem Exact.truncRem_small (x : Exact) {divisor j : Nat} (positive : 0 < divisor)
    (below : divisor ≤ 2 ^ (j + 1)) (small : j ≤ 50) : Small (j + 2) (x.truncRem divisor) := by
  unfold Exact.truncRem
  split
  · exact nearest_small (Nat.lt_of_lt_of_le (Nat.mod_lt _ positive) (by omega)) small _
  · apply nearest_small _ small
    rw [Nat.pow_eq]
    calc x.significand % (divisor * 2 ^ (-x.exponent).toNat)
        < divisor * 2 ^ (-x.exponent).toNat :=
          Nat.mod_lt _ (Nat.mul_pos positive (Nat.two_pow_pos _))
      _ ≤ 2 ^ (j + 1) * 2 ^ (-x.exponent).toNat := Nat.mul_le_mul_right _ below
      _ = 2 ^ (-x.exponent).toNat * 2 ^ (j + 1) := Nat.mul_comm _ _

theorem floorLog2Quot_one {num : Nat} (nonzero : num ≠ 0) : floorLog2Quot num 1 = num.log2 := by
  unfold floorLog2Quot atLeastPow2
  have one : Nat.log2 1 = 0 := by decide
  have reached : 2 ^ num.log2 ≤ num := Nat.log2_self_le nonzero
  simp [one, reached]

theorem ofInt_isInf {n : Int} (huge : 2 ^ 1024 ≤ n.natAbs) : (ofInt n).isInf = true := by
  have place : 1024 ≤ n.natAbs.log2 := (Nat.le_log2 (by omega)).2 huge
  have infinite : ∀ negative : Bool, (infinity negative).isInf = true := by decide +kernel
  unfold ofInt nearest
  rw [if_neg (by omega), floorLog2Quot_one (by omega)]
  dsimp only
  split
  · rw [if_pos (by omega)]
    exact infinite _
  · rw [if_pos (by omega)]
    exact infinite _

/-! ### Infinities and the sign

Whether a double is an infinity is read off its exponent field and fraction alone, and packing a
double read off bits keeps it, so a sign changes nothing about it: an integer converts to a
finite double exactly when its opposite does. -/

theorem unpack_isInf (b : BitVec 64) :
    (unpack Format.binary64 b).isInf =
      (@unpackExponent Format.binary64 b == -1#_ && @unpackMantissa Format.binary64 b == 0#_) := by
  unfold UnpackedFloat.unpack
  dsimp only
  split
  · split <;> simp_all [UnpackedFloat.isInf]
  · split
    · split <;> simp_all [UnpackedFloat.isInf]
    · simp_all [UnpackedFloat.isInf]

theorem packComponents_isInf (s : Sign) {e : BitVec 11} (m : BitVec 52) (finite : e.toNat < 2047) :
    (unpack Format.binary64 (packComponents Format.binary64 s e m)).isInf = false := by
  have notAllOnes : e ≠ -1#11 := fun h => by rw [h] at finite; simp at finite
  rw [unpack_isInf, unpackExponent_packComponents, beq_eq_false_iff_ne.2 notAllOnes,
    Bool.false_and]

theorem pack_finite_isInf (s : Sign) (m : Nat) (e : Int) (positive : 0 < m) (fits : e ≤ 971) :
    (unpack Format.binary64 (pack Format.binary64 (.finite s m e positive))).isInf = false := by
  unfold UnpackedFloat.pack
  dsimp only
  rw [if_neg (by simp [Format.exponentBias]; omega)]
  split
  · apply packComponents_isInf
    simp [Format.exponentBias]
    omega
  · exact packComponents_isInf _ _ (by decide)

theorem unpack_finite_exponent {b : BitVec 64} {s : Sign} {m : Nat} {e : Int} {positive : 0 < m}
    (unpacked : unpack Format.binary64 b = .finite s m e positive) : e ≤ 971 := by
  have field := (@unpackExponent Format.binary64 b).isLt
  unfold UnpackedFloat.unpack at unpacked
  dsimp only at unpacked
  split at unpacked
  · split at unpacked <;> cases unpacked
  · split at unpacked
    · split at unpacked
      · cases unpacked
      · rename_i zero _
        cases unpacked
        rw [zero]
        simp [Format.exponentBias]
    · rename_i notAllOnes _
      cases unpacked
      have : (@unpackExponent Format.binary64 b).toNat ≠ 2047 := fun h =>
        notAllOnes (BitVec.eq_of_toNat_eq (by simpa using h))
      simp [Format.exponentBias]
      change _ < 2 ^ 11 at field
      omega

theorem unpack_pack_unpack_isInf (b : BitVec 64) :
    (unpack Format.binary64 (pack Format.binary64 (unpack Format.binary64 b))).isInf =
      (unpack Format.binary64 b).isInf := by
  cases unpacked : unpack Format.binary64 b with
  | infinity s => rw [UnpackedFloat.pack, packedInfinity, unpack_isInf]; simp [UnpackedFloat.isInf]
  | notANumber => rw [UnpackedFloat.pack, packedNaN, unpack_isInf]; simp [UnpackedFloat.isInf]
  | zero s => exact packComponents_isInf _ _ (by decide)
  | finite s m e positive => exact pack_finite_isInf s m e positive (unpack_finite_exponent unpacked)

theorem isInf_ofBits (x : UInt64) :
    (Float.ofBits x).isInf = (unpack Format.binary64 x.toBitVec).isInf :=
  unpack_pack_unpack_isInf x.toBitVec

theorem ofBody_isInf (negative : Bool) (body : Nat) :
    (ofBody negative body).isInf = (ofBody false body).isInf := by
  unfold ofBody
  rw [isInf_ofBits, isInf_ofBits, unpack_isInf, unpack_isInf]
  have exponent : @unpackExponent Format.binary64
      (UInt64.ofNat ((if negative then Nat.pow 2 63 else 0) + body)).toBitVec =
      @unpackExponent Format.binary64
        (UInt64.ofNat ((if false then Nat.pow 2 63 else 0) + body)).toBitVec := by
    apply BitVec.eq_of_toNat_eq
    simp only [unpackExponent, BitVec.toNat_cast, BitVec.extractLsb_toNat, Nat.shiftRight_eq_div_pow,
      UInt64.toNat_toBitVec, UInt64.toNat_ofNat', Nat.pow_eq, Bool.false_eq_true, if_false]
    split <;> omega
  have mantissa : @unpackMantissa Format.binary64
      (UInt64.ofNat ((if negative then Nat.pow 2 63 else 0) + body)).toBitVec =
      @unpackMantissa Format.binary64
        (UInt64.ofNat ((if false then Nat.pow 2 63 else 0) + body)).toBitVec := by
    apply BitVec.eq_of_toNat_eq
    simp only [unpackMantissa, BitVec.toNat_cast, BitVec.extractLsb_toNat, Nat.shiftRight_eq_div_pow,
      UInt64.toNat_toBitVec, UInt64.toNat_ofNat', Nat.pow_eq, Bool.false_eq_true, if_false]
    split <;> omega
  rw [exponent, mantissa]

theorem nearest_isInf (negative : Bool) (num den : Nat) :
    (nearest negative num den).isInf = (nearest false num den).isInf := by
  unfold nearest
  split
  · exact ofBody_isInf _ _
  · dsimp only
    split <;> split <;> exact ofBody_isInf _ _

theorem ofInt_neg_isInf (n : Int) : (ofInt (-n)).isInf = (ofInt n).isInf := by
  unfold ofInt
  rw [Int.natAbs_neg, nearest_isInf, nearest_isInf (decide (n < 0))]

end RoboScript.Binary

namespace RoboScript

open Binary

/-- A value that converts to a double prints: an integer that converts is below `2 ^ 1024`,
far below the digit limit. -/
theorem Value.text_of_toFloat {v : Value} {x : Float} (converts : v.toFloat = .ok x) :
    ∃ t, v.text = .ok t := by
  cases v with
  | none => cases converts
  | bool b => exact ⟨_, rfl⟩
  | float y => exact ⟨_, rfl⟩
  | int n =>
    have finite : (ofInt n).isInf = false := by
      simp only [Value.toFloat, Value.num?, Num.toFloat] at converts
      split at converts
      · cases converts
      · rename_i finite
        simpa using finite
    have below : n.natAbs < 2 ^ 1024 := by
      by_cases huge : 2 ^ 1024 ≤ n.natAbs
      · rw [ofInt_isInf huge] at finite
        cases finite
      · omega
    have limit : 2 ^ 1024 ≤ Nat.pow 10 digitLimit := by decide +kernel
    exact ⟨toString n, by
      simp only [Value.text, Value.intText]
      rw [if_neg (by omega)]⟩

theorem Value.floorMod_bounded {symbol : String} {v w : Value} {modulus j : Nat}
    (positive : 0 < modulus) (below : modulus ≤ 2 ^ (j + 1)) (small : j ≤ 49)
    (taken : Value.floorMod symbol v modulus = .ok w) :
    (∃ n, w = .int n ∧ 0 ≤ n ∧ n < modulus) ∨ (∃ x, w = .float x ∧ Small (j + 5) x) := by
  unfold Value.floorMod at taken
  split at taken
  · cases taken
    exact .inl ⟨_, rfl, Int.emod_nonneg _ (by omega), Int.emod_lt_of_pos _ (by omega)⟩
  · split at taken
    · cases taken
      exact .inr ⟨_, rfl, by trivial⟩
    · rename_i e _
      have remainder := e.truncRem_small positive below (by omega)
      have whole : Small (j + 3) (ofInt modulus) := by
        have : modulus < 2 ^ (j + 2) :=
          Nat.lt_of_le_of_lt below (Nat.pow_lt_pow_right (by decide) (by omega))
        exact ofInt_small (by simpa using this) (by omega)
      dsimp only at taken
      split at taken
      · cases taken
        exact .inr ⟨_, rfl, by trivial⟩
      · split at taken
        · cases taken
          exact .inr ⟨_, rfl, (remainder.mono (by omega)).add whole (by omega) (by omega)⟩
        · cases taken
          exact .inr ⟨_, rfl, remainder.mono (by omega)⟩
  · cases taken

end RoboScript

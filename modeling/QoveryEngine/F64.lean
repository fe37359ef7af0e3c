import Mathlib

/-!
# f64

The doubles of serde_json's number parser and of ryu's printer. serde_json reads a number's
digits into a `u64` and a power of ten, and `f64_from_parts` turns them into a double: it converts
the `u64` (`significand as f64`) and multiplies or divides by doubles of its `POW10` table. Each of
these operations rounds its exact result to the nearest double, ties to an even mantissa, which is
IEEE 754's default rounding. ryu writes a double with the fewest digits that read back as it.

Only non-negative doubles occur, since the sign is applied last. A finite one is a `Binary64`: a
mantissa of at most 53 bits at a power of two from `-1074` to `971`, normal (the mantissa from
`2^52`) except at `-1074`. Each value then has exactly one form, and equal values are equal
structures. `F64` adds infinity, which is what a product too large for a double becomes.
-/

namespace QoveryEngine

/-! ## Bit lengths -/

/-- The binary digits of `n` (none for `0`), counted by halving; `fuel` bounds the halvings. -/
def bitLengthAux : Nat → Nat → Nat
  | 0, _ => 0
  | fuel + 1, n => if n = 0 then 0 else bitLengthAux fuel (n / 2) + 1

/-- The number of binary digits of `n` (`Nat.size`, written so that the kernel evaluates it). -/
def bitLength (n : Nat) : Nat := bitLengthAux n n

theorem bitLengthAux_zero : ∀ fuel, bitLengthAux fuel 0 = 0
  | 0 => rfl
  | _ + 1 => rfl

theorem lt_two_pow_bitLengthAux : ∀ fuel n, n ≤ fuel → n < 2 ^ bitLengthAux fuel n
  | 0, n, h => by rw [bitLengthAux]; omega
  | fuel + 1, n, h => by
    rw [bitLengthAux]
    split_ifs with hn
    · omega
    · have ih := lt_two_pow_bitLengthAux fuel (n / 2) (by omega)
      rw [pow_succ]
      omega

theorem two_pow_le_bitLengthAux : ∀ fuel n, n ≤ fuel → 0 < n → 2 ^ (bitLengthAux fuel n - 1) ≤ n
  | 0, n, h, hn => by omega
  | fuel + 1, n, h, hn => by
    rw [bitLengthAux, if_neg (by omega), Nat.add_sub_cancel]
    rcases Nat.eq_zero_or_pos (n / 2) with h2 | h2
    · rw [h2, bitLengthAux_zero]
      omega
    · have ih := two_pow_le_bitLengthAux fuel (n / 2) (by omega) h2
      cases hb : bitLengthAux fuel (n / 2) with
      | zero => omega
      | succ b =>
        rw [hb, Nat.add_sub_cancel] at ih
        rw [pow_succ]
        omega

theorem lt_two_pow_bitLength (n : Nat) : n < 2 ^ bitLength n :=
  lt_two_pow_bitLengthAux n n le_rfl

theorem two_pow_pred_bitLength_le {n : Nat} (h : 0 < n) : 2 ^ (bitLength n - 1) ≤ n :=
  two_pow_le_bitLengthAux n n le_rfl h

theorem bitLength_pos {n : Nat} (h : 0 < n) : 0 < bitLength n := by
  have := lt_two_pow_bitLength n
  by_contra h0
  rw [Nat.eq_zero_of_not_pos h0] at this
  omega

theorem bitLength_le_of_lt_two_pow {n b : Nat} (h : n < 2 ^ b) : bitLength n ≤ b := by
  rcases Nat.eq_zero_or_pos n with rfl | hn
  · simp [bitLength, bitLengthAux_zero]
  · by_contra hb
    have := two_pow_pred_bitLength_le hn
    have := Nat.pow_le_pow_right two_pos (show b ≤ bitLength n - 1 by omega)
    omega

/-! Bounds on a number shifted by a power of two, from bounds on the number. -/

theorem mul_two_pow_lt {n L k b : Nat} (hn : n < 2 ^ L) (h : L + k ≤ b) : n * 2 ^ k < 2 ^ b :=
  calc n * 2 ^ k < 2 ^ L * 2 ^ k := Nat.mul_lt_mul_of_pos_right hn (Nat.two_pow_pos k)
    _ = 2 ^ (L + k) := (pow_add 2 L k).symm
    _ ≤ 2 ^ b := Nat.pow_le_pow_right two_pos h

theorem two_pow_le_mul {n a k b : Nat} (hn : 2 ^ a ≤ n) (h : b ≤ a + k) : 2 ^ b ≤ n * 2 ^ k :=
  calc 2 ^ b ≤ 2 ^ (a + k) := Nat.pow_le_pow_right two_pos h
    _ = 2 ^ a * 2 ^ k := pow_add 2 a k
    _ ≤ n * 2 ^ k := Nat.mul_le_mul_right _ hn

theorem div_two_pow_lt {n L p b : Nat} (hn : n < 2 ^ L) (h : L ≤ b + p) : n / 2 ^ p < 2 ^ b := by
  refine (Nat.div_lt_iff_lt_mul (Nat.two_pow_pos p)).mpr (lt_of_lt_of_le hn ?_)
  rw [← pow_add]
  exact Nat.pow_le_pow_right two_pos h

theorem two_pow_le_div {n a p b : Nat} (hn : 2 ^ a ≤ n) (h : b + p ≤ a) : 2 ^ b ≤ n / 2 ^ p := by
  refine (Nat.le_div_iff_mul_le (Nat.two_pow_pos p)).mpr (le_trans ?_ hn)
  rw [← pow_add]
  exact Nat.pow_le_pow_right two_pos h

/-! ## Finite doubles and rounding -/

/-- A non-negative finite `f64`: `mantissa × 2^exponent`, in the one form binary64 gives each
value. -/
structure Binary64 where
  /-- The significand, as an integer. -/
  mantissa : Nat
  /-- The power of two of the significand's last bit. -/
  exponent : Int
  /-- The significand has at most 53 bits. -/
  mantissa_lt : mantissa < 2 ^ 53
  /-- No exponent lies below that of the least subnormal. -/
  exponent_ge : -1074 ≤ exponent
  /-- None lies above that of `f64::MAX`, `(2^53 - 1) × 2^971`. -/
  exponent_le : exponent ≤ 971
  /-- The significand has all 53 bits (it is normal), except for the subnormals and zero. -/
  normal : 2 ^ 52 ≤ mantissa ∨ exponent = -1074
  deriving DecidableEq, Repr

/-- A non-negative `f64` other than NaN: finite, or infinity. -/
inductive F64
  | finite (x : Binary64)
  | infinity
  deriving DecidableEq, Repr

namespace Binary64

/-- `0.0`. -/
def zero : Binary64 := ⟨0, -1074, by norm_num, le_rfl, by norm_num, Or.inr rfl⟩

/-- The exponent of the last bit of `n × 2^e` rounded to 53 bits: 52 bits below its leading bit,
but not below `-1074`, where the subnormals have their fixed point. -/
def targetExponent (n : Nat) (e : Int) : Int := max ((bitLength n : Int) + e - 53) (-1074)

/-- `q + r / d` rounded half to even: `q`, or `q + 1` when the fraction is more than a half, or
exactly a half with something non-zero below it (`sticky`) or with `q` odd. -/
def roundHalfEven (q r d : Nat) (sticky : Bool) : Nat :=
  if d < 2 * r ∨ (2 * r = d ∧ (sticky = true ∨ q % 2 = 1)) then q + 1 else q

theorem roundHalfEven_bounds (q r d : Nat) (sticky : Bool) :
    q ≤ roundHalfEven q r d sticky ∧ roundHalfEven q r d sticky ≤ q + 1 := by
  unfold roundHalfEven
  split_ifs <;> omega

/-- `n × 2^e` rounded to nearest-even, as a mantissa and an exponent that may lie above `971`.
With `sticky`, the exact value is a little more than `n × 2^e`, by less than a unit of `n`.
Division sets it, and there `n` has more than 54 bits, so that the unit of `n` lies below the
rounding point. A mantissa that carries to `2^53` is renormalised. -/
def roundBits (n : Nat) (sticky : Bool) (e : Int) : Nat × Int :=
  if n = 0 then (0, -1074)
  else
    let t := targetExponent n e
    if t ≤ e then (n * 2 ^ (e - t).toNat, t)
    else
      let p := (t - e).toNat
      let q := roundHalfEven (n / 2 ^ p) (n % 2 ^ p) (2 ^ p) sticky
      if q = 2 ^ 53 then (2 ^ 52, t + 1) else (q, t)

/-- The target exponent lies between the two bounds it is the larger of. -/
theorem targetExponent_cases (n : Nat) (e : Int) :
    (bitLength n : Int) + e - 53 ≤ targetExponent n e ∧ -1074 ≤ targetExponent n e ∧
      (targetExponent n e = (bitLength n : Int) + e - 53 ∨ targetExponent n e = -1074) :=
  ⟨le_max_left _ _, le_max_right _ _, max_choice _ _⟩

/-- A rounded mantissa is in the form of `Binary64`. -/
theorem roundBits_valid (n : Nat) (sticky : Bool) (e : Int) :
    (roundBits n sticky e).1 < 2 ^ 53 ∧ -1074 ≤ (roundBits n sticky e).2 ∧
      (2 ^ 52 ≤ (roundBits n sticky e).1 ∨ (roundBits n sticky e).2 = -1074) := by
  unfold roundBits
  split_ifs with hn
  · simp
  have hlt := lt_two_pow_bitLength n
  have hle := two_pow_pred_bitLength_le (Nat.pos_of_ne_zero hn)
  have hL := bitLength_pos (Nat.pos_of_ne_zero hn)
  obtain ⟨ht₁, ht₂, ht₃⟩ := targetExponent_cases n e
  generalize targetExponent n e = t at ht₁ ht₂ ht₃ ⊢
  generalize bitLength n = L at hlt hle hL ht₁ ht₃
  dsimp only
  split_ifs with hte hq
  · -- exact: `n` shifted left
    have hk : ((e - t).toNat : Int) = e - t := Int.toNat_of_nonneg (by omega)
    refine ⟨mul_two_pow_lt hlt (by omega), ht₂, ?_⟩
    rcases ht₃ with ht | ht
    · exact Or.inl (two_pow_le_mul hle (by omega))
    · exact Or.inr ht
  · -- rounded up to `2^53`
    exact ⟨by norm_num, by omega, Or.inl le_rfl⟩
  · -- rounded, `n` shifted right
    have hp : ((t - e).toNat : Int) = t - e := Int.toNat_of_nonneg (by omega)
    have hq' := roundHalfEven_bounds (n / 2 ^ (t - e).toNat) (n % 2 ^ (t - e).toNat)
      (2 ^ (t - e).toNat) sticky
    have h53 : (2 : Nat) ^ 53 = 2 * 2 ^ 52 := by norm_num
    by_cases hnormal : -1074 ≤ (L : Int) + e - 53
    · have hq₁ := @div_two_pow_lt n L (t - e).toNat 53 hlt (by omega)
      have hq₂ := @two_pow_le_div n (L - 1) (t - e).toNat 52 hle (by omega)
      exact ⟨by omega, ht₂, Or.inl (by omega)⟩
    · have hq₁ := @div_two_pow_lt n L (t - e).toNat 52 hlt (by omega)
      exact ⟨by omega, ht₂, Or.inr (by omega)⟩

/-- Rounding moves the exponent at most one above the target, when the mantissa carries. -/
theorem roundBits_exponent_le (n : Nat) (sticky : Bool) (e : Int) :
    (roundBits n sticky e).2 ≤ targetExponent n e + 1 := by
  have := (targetExponent_cases n e).2.1
  unfold roundBits
  split_ifs with hn
  · dsimp only
    omega
  · dsimp only
    split_ifs <;> dsimp only <;> omega

/-- A natural number below `f64::MAX` rounds to a finite double: below `2^1023` its target
exponent is at most `970`, and from there its mantissa is below `2^53 - 1` before rounding, so
that it cannot carry. -/
theorem roundBits_exponent_le_of_lt {n : Nat} (h : n < (2 ^ 53 - 1) * 2 ^ 971) :
    (roundBits n false 0).2 ≤ 971 := by
  have hL : bitLength n ≤ 1024 := bitLength_le_of_lt_two_pow (lt_of_lt_of_le h (by norm_num))
  have hle := roundBits_exponent_le n false 0
  unfold targetExponent at hle
  rcases Nat.lt_or_eq_of_le hL with hL | hL
  · omega
  unfold roundBits
  split_ifs with hn
  · dsimp only
    omega
  have ht : targetExponent n 0 = 971 := by
    unfold targetExponent
    omega
  have hq₀ : n / 2 ^ 971 < 2 ^ 53 - 1 :=
    (Nat.div_lt_iff_lt_mul (by positivity)).mpr h
  have hq := roundHalfEven_bounds (n / 2 ^ 971) (n % 2 ^ 971) (2 ^ 971) false
  have hp : ((971 : Int) - 0).toNat = 971 := rfl
  dsimp only
  rw [ht, hp]
  split_ifs with h0 hq'
  · omega
  · rw [hq'] at hq
    omega
  · dsimp only
    omega

/-- The double `n × 2^e` rounds to, when it is finite. -/
def nearestFinite (n : Nat) (sticky : Bool) (e : Int) (h : (roundBits n sticky e).2 ≤ 971) :
    Binary64 :=
  ⟨_, _, (roundBits_valid n sticky e).1, (roundBits_valid n sticky e).2.1, h,
    (roundBits_valid n sticky e).2.2⟩

/-- `n × 2^e` (with `sticky` as for `roundBits`) rounded to the nearest double: infinity when
that lies beyond `f64::MAX`, since the rounded mantissa is then at least `2^1024`. -/
def nearest (n : Nat) (sticky : Bool) (e : Int) : F64 :=
  if h : (roundBits n sticky e).2 ≤ 971 then .finite (nearestFinite n sticky e h) else .infinity

/-- The double nearest `10^k` is finite for `k ≤ 308`. -/
theorem pow10_exponent_le {k : Nat} (hk : k ≤ 308) : (roundBits (10 ^ k) false 0).2 ≤ 971 :=
  roundBits_exponent_le_of_lt
    (lt_of_le_of_lt (Nat.pow_le_pow_right (by norm_num) hk) (by norm_num))

/-- `1e{k}` for `k ≤ 308`, the literals of `POW10`: the double nearest `10^k`. -/
def pow10 (k : Nat) (hk : k ≤ 308) : Binary64 :=
  nearestFinite (10 ^ k) false 0 (pow10_exponent_le hk)

/-- `POW10.get(k)`: `1e{k}` within the table's 309 entries, nothing beyond. -/
def pow10Table (k : Nat) : Option Binary64 := if hk : k ≤ 308 then some (pow10 k hk) else none

end Binary64

namespace F64

/-- `0.0`. -/
def zero : F64 := .finite Binary64.zero

/-- `significand as f64`: the double nearest a `u64`. -/
def ofU64 (n : Nat) : F64 := Binary64.nearest n false 0

/-- `f *= pow`, for a positive finite `pow`: the double nearest the product. -/
def mul : F64 → Binary64 → F64
  | .finite x, y => Binary64.nearest (x.mantissa * y.mantissa) false (x.exponent + y.exponent)
  | .infinity, _ => .infinity

/-- `f /= pow`, for a positive finite `pow`: the double nearest the quotient. The quotient of the
mantissas is taken with 108 more bits, so that it has at least 55 when `x` is not zero, and
whether the division left a remainder is the sticky bit of the rounding. -/
def div : F64 → Binary64 → F64
  | .finite x, y =>
    Binary64.nearest (x.mantissa * 2 ^ 108 / y.mantissa) (x.mantissa * 2 ^ 108 % y.mantissa != 0)
      (x.exponent - y.exponent - 108)
  | .infinity, _ => .infinity

/-- `f.is_infinite()`. -/
def isInfinite : F64 → Bool
  | .infinity => true
  | .finite _ => false

/-- `f == 0.0`. -/
def isZero : F64 → Bool
  | .finite x => x.mantissa = 0
  | .infinity => false

end F64

/-! ## ryu's digits -/

namespace Binary64

/-- The interval of reals that round to `x`, in units of `2^(exponent - 2)`, where `x` is
`4 × mantissa`: half a unit of the mantissa either side, but only a quarter below a power of two
above the subnormals, whose lower neighbour is twice as close. The ends are the midpoints between
`x` and its neighbours. -/
def roundingInterval (x : Binary64) : Nat × Nat :=
  (4 * x.mantissa - (if x.mantissa = 2 ^ 52 ∧ x.exponent ≠ -1074 then 1 else 2),
    4 * x.mantissa + 2)

/-- The factors `(a, b)` with `X × 2^(exponent - 2) = d × 10^k` exactly when `X × a = d × b`. -/
def decimalScale (x : Binary64) (k : Int) : Nat × Nat :=
  (2 ^ (x.exponent - 2).toNat * 10 ^ (-k).toNat, 2 ^ (2 - x.exponent).toNat * 10 ^ k.toNat)

/-- The decimal of `x` at `10^k`: of the multiples `d × 10^k` inside `x`'s rounding interval
(its ends included when the mantissa is even, as ties then round to `x`), the one nearest `x`,
ties to an even `d`; none when there is no such multiple. -/
def digitsAt (x : Binary64) (k : Int) : Option Nat :=
  let (a, b) := decimalScale x k
  let (lower, upper) := roundingInterval x
  let even := x.mantissa % 2 = 0
  let lo := if even then (lower * a + b - 1) / b else lower * a / b + 1
  let hi := if even then upper * a / b else (upper * a + b - 1) / b - 1
  let nearest := roundHalfEven (4 * x.mantissa * a / b) (4 * x.mantissa * a % b) b false
  if lo ≤ hi then some (min hi (max lo nearest)) else none

/-- The digits at the first power of ten, from `10^k` down over `n` more steps, at which a
decimal rounds to `x`; at the last step, whatever `digitsAt` gives there. -/
def digitsFrom (x : Binary64) : Nat → Int → Nat × Int
  | 0, k => ((digitsAt x k).getD 0, k)
  | n + 1, k =>
    match digitsAt x k with
    | some d => (d, k)
    | none => digitsFrom x n (k - 1)

/-- ryu's `d2d`, by what it computes: the shortest decimal that reads back as `x` and, of those,
the nearest to `x`, as its digits and power of ten; `(0, 0)` for zero. The search starts at
`10^k` with `k` the number of digits of the interval's upper end, where no multiple lies in the
interval, and ends at `10^min 0 (exponent - 2)`, a step below a quarter of the gap to `x`'s
neighbours, where some multiple always does. -/
def d2d (x : Binary64) : Nat × Int :=
  if x.mantissa = 0 then (0, 0)
  else
    let upper := (roundingInterval x).2
    let top : Int :=
      (Nat.repr ((upper * 2 ^ (x.exponent - 2).toNat + 2 ^ (2 - x.exponent).toNat - 1) /
        2 ^ (2 - x.exponent).toNat)).length
    digitsFrom x (top - min 0 (x.exponent - 2)).toNat top

end Binary64

end QoveryEngine

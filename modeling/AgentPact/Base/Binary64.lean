import Mathlib.Algebra.Order.Field.Basic
import Mathlib.Algebra.Order.Field.Rat

/-!
# Rounding to binary64

Numbers that are not negative, rounded to the nearest number of the format: 53
bits, the last of them no smaller than `2 ^ -1074`, and ties to the even one.
What is `2 ^ 1024` or more after rounding is infinite, and is `none` here.

The quotient of two integers is rounded once.  It is at most one when the first
is no more than the second (`quotient_le_one`).
-/

namespace Base

namespace Binary64

/-- The integer nearest to `n / d`, the even one of two. -/
def nearest (n d : Nat) : Nat :=
  if 2 * (n % d) < d ∨ 2 * (n % d) = d ∧ n / d % 2 = 0 then n / d else n / d + 1

/-- The exponent of the first bit of `n / d`. -/
def exponent (n d : Nat) : Int :=
  let e : Int := n.log2 - d.log2
  if d * 2 ^ e.toNat ≤ n * 2 ^ (-e).toNat then e else e - 1

/-- The exponent of the last bit that is kept. -/
def lastPlace (n d : Nat) : Int := max (exponent n d - 52) (-1074)

/-- What is as large as this after rounding is infinite. -/
def infinite : Nat := 2 ^ 1024

/-- `n / d`, rounded once. -/
def quotient (n d : Nat) : Option Rat :=
  let k := lastPlace n d
  let m := nearest (n * 2 ^ (-k).toNat) (d * 2 ^ k.toNat)
  if m * 2 ^ k.toNat < infinite * 2 ^ (-k).toNat then
    some (mkRat (m * 2 ^ k.toNat : Nat) (2 ^ (-k).toNat))
  else none

/-- A number that is not negative, rounded. -/
def round (q : Rat) : Option Rat := quotient q.num.toNat q.den

example : quotient 1 3 = some (mkRat 6004799503160661 (2 ^ 54)) := by decide +kernel

/-! ## Rates -/

theorem nearest_le {n d m : Nat} (hd : 0 < d) (h : n ≤ d * m) : nearest n d ≤ m := by
  have hdiv : n / d ≤ m := (Nat.div_le_div_right h).trans (Nat.mul_div_cancel_left m hd).le
  unfold nearest
  split
  case isTrue => exact hdiv
  case isFalse hup =>
    -- a quotient that is rounded up is not an integer
    by_contra hlt
    have heq : n / d = m := by omega
    have hmod := Nat.div_add_mod n d
    rw [heq] at hmod
    have hzero : n % d = 0 := by omega
    exact hup (.inl (by omega))

theorem log2_mono {n d : Nat} (h : n ≤ d) : n.log2 ≤ d.log2 := by
  by_cases hn : n = 0
  · rw [hn, Nat.log2_zero]
    exact Nat.zero_le _
  · exact (Nat.le_log2 (by omega)).mpr ((Nat.log2_self_le hn).trans h)

theorem lastPlace_nonpos {n d : Nat} (h : n ≤ d) : lastPlace n d ≤ 0 := by
  have hlog := log2_mono h
  unfold lastPlace exponent
  simp only
  split <;> omega

/-- A quotient that is no more than one is rounded to no more than one. -/
theorem quotient_le_one {n d : Nat} (hd : 0 < d) (h : n ≤ d) :
    ∃ q, quotient n d = some q ∧ 0 ≤ q ∧ q ≤ 1 := by
  have hplace : (lastPlace n d).toNat = 0 := Int.toNat_of_nonpos (lastPlace_nonpos h)
  obtain ⟨scale, hscale⟩ : ∃ scale, scale = 2 ^ (-lastPlace n d).toNat := ⟨_, rfl⟩
  have hpos : 0 < scale := by rw [hscale]; exact Nat.two_pow_pos _
  have hnearest : nearest (n * scale) d ≤ scale := nearest_le hd (Nat.mul_le_mul_right scale h)
  unfold quotient
  simp only [hplace, pow_zero, mul_one, ← hscale]
  have hlarge : 1 < infinite := by decide +kernel
  have hfinite : nearest (n * scale) d < infinite * scale :=
    hnearest.trans_lt (lt_mul_of_one_lt_left hpos hlarge)
  rw [if_pos hfinite]
  refine ⟨_, rfl, ?_, ?_⟩ <;> rw [Rat.mkRat_eq_div]
  · exact div_nonneg (by exact_mod_cast Nat.zero_le _) (by exact_mod_cast Nat.zero_le _)
  · refine (div_le_one ?_).mpr ?_
    · exact_mod_cast hpos
    · exact_mod_cast hnearest

end Binary64

end Base

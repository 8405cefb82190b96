import Mathlib.Data.Int.ModEq
import Mathlib.Tactic.Ring

set_option autoImplicit false

/-! # Signed numbers in unsigned arithmetic

A negative number converted to an unsigned type of `M` values becomes `M` less its size. Division
does not commute with that: the quotient is that of `M` less the one wanted, give or take one
(`emod_neg_ediv`). Narrowing to a signed type keeps a number up to multiples of its size
(`bmod_eq_iff`). -/

namespace Wrap

/-- One if the remainder of `m` has to be borrowed for. -/
def borrow (M m o : Int) : Int := if M % o < m % o then 1 else 0

/-- The quotient of a negative number after its conversion. -/
theorem emod_neg_ediv {M m o : Int} (hpos : 0 < m) (hle : m ≤ M) (ho : 0 < o) :
    (-m) % M / o = M / o - m / o - borrow M m o := by
  have hneg : (-m) % M = M - m := by
    rw [← Int.add_emod_right (-m) M, Int.emod_eq_of_lt (by omega) (by omega)]
    ring
  have hM := Int.emod_add_mul_ediv M o
  have hm := Int.emod_add_mul_ediv m o
  have hsplit : M - m = M % o - m % o + o * (M / o - m / o) := by
    rw [mul_sub]
    omega
  have hM_lt := Int.emod_lt_of_pos M ho
  have hM_nonneg := Int.emod_nonneg M ho.ne'
  have hm_lt := Int.emod_lt_of_pos m ho
  have hm_nonneg := Int.emod_nonneg m ho.ne'
  rw [hneg, hsplit, Int.add_mul_ediv_left _ _ ho.ne']
  unfold borrow
  split_ifs with hborrow
  · have hquot : (M % o - m % o) / o = -1 := by
      rw [Int.ediv_eq_iff_of_pos ho]
      omega
    omega
  · have hquot : (M % o - m % o) / o = 0 := Int.ediv_eq_zero_of_lt (by omega) (by omega)
    omega

/-- A number read back from a signed type is `b` exactly if it is `b` up to wrapping. -/
theorem bmod_eq_iff {a b : Int} {M : Nat} (hlo : -(M : Int) ≤ b * 2) (hhi : b * 2 < M) :
    a.bmod M = b ↔ (M : Int) ∣ a - b := by
  calc a.bmod M = b ↔ a.bmod M = b.bmod M := by
        rw [Int.bmod_eq_of_le_mul_two (x := b) hlo hhi]
    _ ↔ (a - b).bmod M = 0 := Int.bmod_eq_bmod_iff_bmod_sub_eq_zero
    _ ↔ (M : Int) ∣ a - b := Int.dvd_iff_bmod_eq_zero.symm

/-! ## Fixed widths -/

theorem toInt_narrow (v : UInt64) : v.toUInt16.toInt16.toInt = (v.toNat : Int).bmod (2 ^ 16) := by
  have hbmod : v.toUInt16.toInt16.toInt = (v.toUInt16.toNat : Int).bmod (2 ^ 16) :=
    BitVec.toInt_eq_toNat_bmod _
  rw [hbmod, UInt64.toNat_toUInt16, Int.natCast_mod, Int.emod_bmod]

theorem toNat_widen (v : Int32) : (v.toInt64.toUInt64.toNat : Int) = v.toInt % 2 ^ 64 := by
  have hbmod : v.toInt64.toInt = (v.toInt64.toUInt64.toNat : Int).bmod (2 ^ 64) :=
    BitVec.toInt_eq_toNat_bmod _
  have hlt : (v.toInt64.toUInt64.toNat : Int) < (2 ^ 64 : Nat) :=
    Int.ofNat_lt.2 v.toInt64.toUInt64.toNat_lt
  calc (v.toInt64.toUInt64.toNat : Int) = (v.toInt64.toUInt64.toNat : Int) % (2 ^ 64 : Nat) :=
        (Int.emod_eq_of_lt (Int.natCast_nonneg _) hlt).symm
    _ = (v.toInt64.toUInt64.toNat : Int).bmod (2 ^ 64) % (2 ^ 64 : Nat) := Int.bmod_emod.symm
    _ = v.toInt % 2 ^ 64 := by
        rw [← hbmod, Int32.toInt_toInt64, Int.natCast_pow]
        rfl

end Wrap

import Mathlib
import RadioLink.Bytes
/-! Big-endian numbers. Writing `n` in `w` bytes and reading them back gives `n` modulo `256 ^ w`
(`toNatBE_ofNatBE`); reading any byte string and writing it back in as many bytes gives the
string (`ofNatBE_toNatBE`). So a field of `w` bytes and a number below `256 ^ w` are the same
thing, which is how the response readers and the request writers meet. -/
namespace RadioLink
namespace Bytes

@[simp] theorem length_ofNatBE (w n : Nat) : (ofNatBE w n).length = w := by
  simp [ofNatBE]

@[simp] theorem ofNatBE_zero (n : Nat) : ofNatBE 0 n = [] := rfl

theorem ofNatBE_succ (w n : Nat) : ofNatBE (w + 1) n = ofNatBE w (n / 256) ++ [(n % 256).toUInt8] := by
  simp only [ofNatBE,List.range_succ_eq_map,List.reverse_cons,List.map_append,List.map_reverse,
    List.map_map]
  simp [Function.comp_def,Nat.pow_succ,Nat.div_div_eq_div_mul,Nat.mul_comm]

@[simp] theorem toNatBE_nil : toNatBE [] = 0 := rfl

theorem toNatBE_append_singleton (bs : Bytes) (b : UInt8) :
    toNatBE (bs ++ [b]) = toNatBE bs * 256 + b.toNat := by
  simp [toNatBE]

theorem toNatBE_ofNatBE (w n : Nat) : toNatBE (ofNatBE w n) = n % 256 ^ w := by
  induction w generalizing n with
  | zero => simp [Nat.mod_one]
  | succ w ih =>
    rw [ofNatBE_succ,toNatBE_append_singleton,ih,Nat.pow_succ,Nat.mul_comm (256 ^ w),Nat.mod_mul]
    simp only [Nat.toUInt8,UInt8.toNat_ofNat',Nat.mod_mod]
    ring

theorem toNatBE_lt (bs : Bytes) : toNatBE bs < 256 ^ bs.length := by
  induction bs using List.reverseRecOn with
  | nil => simp
  | append_singleton bs b ih =>
    rw [toNatBE_append_singleton,List.length_append,List.length_singleton,Nat.pow_succ]
    have hb := b.toNat_lt
    calc toNatBE bs * 256 + b.toNat < (toNatBE bs + 1) * 256 := by omega
      _ ≤ 256 ^ bs.length * 256 := Nat.mul_le_mul_right _ ih

theorem ofNatBE_toNatBE (bs : Bytes) : ofNatBE bs.length (toNatBE bs) = bs := by
  induction bs using List.reverseRecOn with
  | nil => rfl
  | append_singleton bs b ih =>
    have hb := b.toNat_lt
    rw [List.length_append,List.length_singleton,ofNatBE_succ,toNatBE_append_singleton]
    have hhigh : (toNatBE bs * 256 + b.toNat) / 256 = toNatBE bs := by omega
    have hlow : ((toNatBE bs * 256 + b.toNat) % 256).toUInt8 = b := by
      rw [show (toNatBE bs * 256 + b.toNat) % 256 = b.toNat by omega]
      simp
    rw [hhigh,hlow,ih]

theorem toNatBE_cons (b : UInt8) (bs : Bytes) :
    toNatBE (b :: bs) = b.toNat * 256 ^ bs.length + toNatBE bs := by
  induction bs using List.reverseRecOn with
  | nil => simp [toNatBE]
  | append_singleton bs x ih =>
    rw [← List.cons_append, toNatBE_append_singleton, ih, toNatBE_append_singleton,
      List.length_append, List.length_singleton, pow_succ]
    ring

theorem eq_of_toNatBE_eq {xs ys : Bytes} (hl : xs.length = ys.length)
    (hv : toNatBE xs = toNatBE ys) : xs = ys := by
  rw [← ofNatBE_toNatBE xs, ← ofNatBE_toNatBE ys, hl, hv]

theorem toNatBE_ofNatBE_of_lt {w n : Nat} (h : n < 256 ^ w) : toNatBE (ofNatBE w n) = n := by
  rw [toNatBE_ofNatBE,Nat.mod_eq_of_lt h]

theorem toUInt8_eq_zero_iff {x : Nat} (h : x < 256) : x.toUInt8 = 0 ↔ x = 0 := by
  constructor
  · intro h0
    have hx := congrArg UInt8.toNat h0
    simpa [Nat.toUInt8,UInt8.toNat_ofNat',Nat.mod_eq_of_lt h] using hx
  · rintro rfl
    rfl

end Bytes
end RadioLink

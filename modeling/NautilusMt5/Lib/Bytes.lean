import Mathlib.Data.List.TakeDrop
import Mathlib.Algebra.Ring.Nat

/-!
# Bytes

Numbers as bytes, lowest byte first, and bytes under a mask that is repeated.

* `ofLE_le`, `le_ofLE`: a number and its bytes;
* `mask_mask`: a mask that is applied twice is gone;
* `mask_append`: a mask may be applied in pieces.
-/

namespace Bytes

/-! ## Numbers -/

/-- The `k` lowest bytes of a number, the lowest first. -/
def le : ℕ → ℕ → List UInt8
  | 0, _ => []
  | k + 1, n => UInt8.ofNat n :: le k (n / 256)

/-- The number with these bytes, the lowest first. -/
def ofLE : List UInt8 → ℕ
  | [] => 0
  | b :: bs => b.toNat + 256 * ofLE bs

@[simp] theorem length_le (k n : ℕ) : (le k n).length = k := by
  induction k generalizing n with
  | zero => rfl
  | succ k ih => simp [le, ih]

theorem ofLE_le (k n : ℕ) : ofLE (le k n) = n % 256 ^ k := by
  induction k generalizing n with
  | zero => simp [le, ofLE, Nat.mod_one]
  | succ k ih =>
    have hpow : 256 ^ (k + 1) = 256 * 256 ^ k := by rw [Nat.pow_succ, Nat.mul_comm]
    rw [le, ofLE, ih, UInt8.toNat_ofNat', hpow, Nat.mod_mul]

theorem ofLE_le_of_lt {k n : ℕ} (h : n < 256 ^ k) : ofLE (le k n) = n := by
  rw [ofLE_le, Nat.mod_eq_of_lt h]

theorem ofLE_lt (bs : List UInt8) : ofLE bs < 256 ^ bs.length := by
  induction bs with
  | nil => simp [ofLE]
  | cons b bs ih =>
    have hb : b.toNat < 256 := b.toNat_lt
    simp only [ofLE, List.length_cons, Nat.pow_succ]
    omega

theorem le_ofLE (bs : List UInt8) : le bs.length (ofLE bs) = bs := by
  induction bs with
  | nil => rfl
  | cons b bs ih =>
    have hb : b.toNat < 256 := b.toNat_lt
    have hlow : UInt8.ofNat (b.toNat + 256 * ofLE bs) = b := by
      apply UInt8.toNat_inj.mp
      rw [UInt8.toNat_ofNat']
      omega
    have hhigh : (b.toNat + 256 * ofLE bs) / 256 = ofLE bs := by omega
    rw [List.length_cons, ofLE, le, hlow, hhigh, ih]

theorem le_ofLE_of_length {k : ℕ} {bs : List UInt8} (h : bs.length = k) : le k (ofLE bs) = bs := by
  subst h
  exact le_ofLE bs

/-! ## Masks -/

/-- The bytes under the key, whose bytes are taken from `offset` on. -/
def mask (key : ℕ → UInt8) (offset : ℕ) (data : List UInt8) : List UInt8 :=
  data.mapIdx fun i b => b ^^^ key (i + offset)

variable (key : ℕ → UInt8) (offset : ℕ)

@[simp] theorem mask_nil : mask key offset [] = [] := rfl

@[simp] theorem length_mask (data : List UInt8) : (mask key offset data).length = data.length := List.length_mapIdx

theorem mask_append (a b : List UInt8) :
    mask key offset (a ++ b) = mask key offset a ++ mask key (offset + a.length) b := by
  have hkey : ∀ i, i + a.length + offset = i + (offset + a.length) := fun i => by omega
  simp only [mask, List.mapIdx_append, hkey]

theorem mask_mask (data : List UInt8) : mask key offset (mask key offset data) = data := by
  apply List.ext_getElem
  · simp
  · intro i _ _
    simp only [mask, List.getElem_mapIdx, UInt8.xor_assoc, UInt8.xor_self, UInt8.xor_zero]

end Bytes

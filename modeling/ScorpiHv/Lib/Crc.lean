import Mathlib

/-!
# Reflected cyclic redundancy checks

The register and the bits still to come are one number, lowest bit first. A step is then
linear, shifts a number with a clear low bit, and keeps a register from becoming zero.
-/

namespace ScorpiHv.Crc

def step (p x : Nat) : Nat := if x.testBit 0 then (x >>> 1) ^^^ p else x >>> 1

variable {p n w x y : Nat}

lemma step_xor : step p (x ^^^ y) = step p x ^^^ step p y := by
  unfold step
  rw [Nat.testBit_xor, Nat.shiftRight_xor_distrib]
  cases x.testBit 0 <;> cases y.testBit 0 <;> simp [Nat.xor_left_comm, Nat.xor_comm]

lemma steps_xor (k : Nat) (x y : Nat) : (step p)^[k] (x ^^^ y) = (step p)^[k] x ^^^ (step p)^[k] y := by
  induction k generalizing x y with
  | zero => rfl
  | succ k ih =>
    rw [Function.iterate_succ_apply, step_xor, ih]
    rfl

lemma steps_shiftLeft (k x : Nat) : (step p)^[k] (x <<< k) = x := by
  induction k with
  | zero => rfl
  | succ k ih =>
    have hstep : step p (x <<< (k + 1)) = x <<< k := by
      rw [Nat.shiftLeft_succ]
      simp [step, Nat.shiftRight_one]
    rw [Function.iterate_succ_apply, hstep, ih]

-- the polynomial has its top bit, so no nonzero register is shifted out
variable (hp : 2 ^ w ≤ p) (hp' : p < 2 ^ (w + 1)) (hx : x ≠ 0 ∧ x < 2 ^ (w + 1))
include hp hp' hx

lemma step_pos : step p x ≠ 0 ∧ step p x < 2 ^ (w + 1) := by
  have hhalf : x >>> 1 < 2 ^ w := by
    rw [Nat.shiftRight_one]
    omega
  unfold step
  split
  · refine ⟨fun hzero => ?_, Nat.xor_lt_two_pow (by omega) hp'⟩
    have heq := Nat.xor_eq_zero_iff.mp hzero
    omega
  next hlow =>
    rw [Nat.testBit_zero, decide_eq_true_iff] at hlow
    rw [Nat.shiftRight_one] at hhalf ⊢
    omega

lemma steps_pos (k : Nat) : (step p)^[k] x ≠ 0 ∧ (step p)^[k] x < 2 ^ (w + 1) := by
  induction k with
  | zero => exact hx
  | succ k ih =>
    rw [Function.iterate_succ_apply']
    exact step_pos hp hp' ih

/-- A burst no longer than the register never cancels. -/
lemma steps_burst {s : Nat} (hn : x <<< s < 2 ^ n) : (step p)^[n] (x <<< s) ≠ 0 := by
  have hs : s ≤ n := by
    have hle : 2 ^ s ≤ x <<< s := by
      rw [Nat.shiftLeft_eq]
      exact Nat.le_mul_of_pos_left _ (Nat.pos_of_ne_zero hx.1)
    exact ((Nat.pow_lt_pow_iff_right (by decide)).mp (Nat.lt_of_le_of_lt hle hn)).le
  obtain ⟨k, rfl⟩ := Nat.exists_eq_add_of_le' hs
  rw [Function.iterate_add_apply, steps_shiftLeft]
  exact (steps_pos hp hp' hx k).1

end ScorpiHv.Crc

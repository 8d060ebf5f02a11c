import Mathlib

/-!
# Rings with a cycle bit

A producer marks each entry of a ring with its lap's phase. A reader that keeps its own
phase sees an entry exactly when it is unread.
-/

namespace ScorpiHv.CycleRing

/-- The phase of the lap in which position `k` is written, the first lap's being true. -/
def phase (size k : Nat) : Bool := k / size % 2 == 0

lemma phase_zero (size : Nat) : phase size 0 = true := by
  rw [phase, Nat.zero_div]
  rfl

lemma succ_even (n : Nat) : ((n + 1) % 2 == 0) = !(n % 2 == 0) := by
  rcases Nat.mod_two_eq_zero_or_one n with h | h
  · have h' : (n + 1) % 2 = 1 := by omega
    rw [h, h']
    rfl
  · have h' : (n + 1) % 2 = 0 := by omega
    rw [h, h']
    rfl

lemma phase_lap {size : Nat} (hsize : 0 < size) (k : Nat) : phase size (k + size) = !phase size k := by
  rw [phase, Nat.add_div_right k hsize, succ_even, phase]

lemma phase_succ (size k : Nat) :
    phase size (k + 1) = if (k + 1) % size = 0 then !phase size k else phase size k := by
  unfold phase
  rw [Nat.succ_div]
  split
  · rename_i h
    rw [if_pos (Nat.mod_eq_zero_of_dvd h), succ_even]
  · rename_i h
    rw [if_neg fun h0 => h (Nat.dvd_of_mod_eq_zero h0), Nat.add_zero]

lemma slot_ne {size a b : Nat} (hlt : a < b) (hlap : b < a + size) : a % size ≠ b % size := by
  intro heq
  have hdvd : size ∣ b - a := Nat.dvd_of_mod_eq_zero (Nat.sub_mod_eq_zero_of_mod_eq heq.symm)
  have hle := Nat.le_of_dvd (by omega) hdvd
  omega

variable {α : Type}

structure Holds (size : Nat) (slot : Nat → α × Bool) (events : List α) : Prop where
  written : ∀ k (h : k < events.length), events.length ≤ k + size →
    slot (k % size) = (events[k], phase size k)
  fresh : ∀ j < size, events.length ≤ j → (slot j).2 = false

namespace Holds
variable {size : Nat} {slot : Nat → α × Bool} {events : List α}

lemma next_unmarked (h : Holds size slot events) (hsize : 0 < size) :
    (slot (events.length % size)).2 = !phase size events.length := by
  by_cases hlap : events.length < size
  · have hfresh := h.fresh events.length hlap (Nat.le_refl _)
    have hphase : phase size events.length = true := by
      rw [phase, Nat.div_eq_of_lt hlap]
      rfl
    rw [Nat.mod_eq_of_lt hlap, hfresh, hphase]
    rfl
  · obtain ⟨k, hk⟩ := Nat.exists_eq_add_of_le' (Nat.le_of_not_lt hlap)
    have hslot := h.written k (by omega) (by omega)
    rw [hk, Nat.add_mod_right, hslot, phase_lap hsize, Bool.not_not]

lemma push (h : Holds size slot events) {slot' : Nat → α × Bool} (e : α)
    (hput : slot' (events.length % size) = (e, phase size events.length))
    (hkeep : ∀ j, j ≠ events.length % size → slot' j = slot j) : Holds size slot' (events ++ [e]) := by
  have hlen : (events ++ [e]).length = events.length + 1 := List.length_append
  constructor
  · intro k hk hlap
    by_cases hlast : k = events.length
    · subst hlast
      rw [hput, List.getElem_concat_length rfl]
    · have hlt : k < events.length := by omega
      rw [hkeep _ (slot_ne hlt (by omega)), h.written k hlt (by omega), List.getElem_append_left hlt]
  · intro j hj hnew
    have hne : j ≠ events.length % size := by
      rw [Nat.mod_eq_of_lt (by omega)]
      omega
    rw [hkeep j hne]
    exact h.fresh j hj (by omega)

lemma marked_iff (h : Holds size slot events) (hsize : 0 < size) {r : Nat} (hr : r ≤ events.length)
    (hlap : events.length ≤ r + size) : (slot (r % size)).2 = phase size r ↔ r < events.length := by
  constructor
  · intro hmark
    by_contra hend
    have heq : r = events.length := by omega
    rw [heq, h.next_unmarked hsize] at hmark
    cases hp : phase size events.length <;> rw [hp] at hmark <;> cases hmark
  · intro hlt
    rw [h.written r hlt hlap]

end Holds

end ScorpiHv.CycleRing

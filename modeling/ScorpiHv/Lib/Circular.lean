import Mathlib

/-!
# Circular buffers

The elements of a ring of `size` slots, `count` of them in use from `head` on, as a list.
-/

namespace ScorpiHv.Circular
open Function List

variable {α : Type} {size : Nat}

def contents (size : Nat) (slot : Nat → α) (head count : Nat) : List α :=
  (List.range count).map fun i => slot ((head + i) % size)

lemma length_contents (slot : Nat → α) (head count : Nat) :
    (contents size slot head count).length = count := by simp [contents]

lemma contents_succ (slot : Nat → α) (head count : Nat) :
    contents size slot head (count + 1) =
      contents size slot head count ++ [slot ((head + count) % size)] := by
  simp [contents, range_succ]

lemma contents_head (slot : Nat → α) {head : Nat} (count : Nat) (h : head < size) :
    contents size slot head (count + 1) = slot head :: contents size slot ((head + 1) % size) count := by
  have hhead : head % size = head := Nat.mod_eq_of_lt h
  simp only [contents, range_succ_eq_map, map_cons, map_map, add_zero, hhead]
  congr 1
  apply map_congr_left
  intro i _
  simp only [Function.comp, Nat.succ_eq_add_one]
  congr 1
  rw [Nat.mod_add_mod]
  congr 1
  omega

lemma index_ne {head i j : Nat} (hi : i < size) (hj : j < size) (hij : i ≠ j) :
    (head + i) % size ≠ (head + j) % size := by
  intro h
  have hmod : Nat.ModEq size i j := Nat.ModEq.add_left_cancel' head h
  exact hij (hmod.eq_of_lt_of_lt hi hj)

lemma contents_update_tail (slot : Nat → α) (head count : Nat) (a : α) (h : count < size) :
    contents size (update slot ((head + count) % size) a) head count = contents size slot head count := by
  apply map_congr_left
  intro i hi
  have hi := mem_range.1 hi
  exact update_of_ne (index_ne (by omega) h (by omega)) _ _

lemma contents_push (slot : Nat → α) (head count : Nat) (a : α) (h : count < size) :
    contents size (update slot ((head + count) % size) a) head (count + 1) =
      contents size slot head count ++ [a] := by
  rw [contents_succ, contents_update_tail slot head count a h, update_self]

lemma contents_update_head (slot : Nat → α) {head : Nat} (count : Nat) (a : α) (hhead : head < size)
    (h : count < size) : contents size (update slot head a)
    ((head + 1) % size) count = contents size slot ((head + 1) % size) count := by
  apply map_congr_left
  intro i hi
  have hi := mem_range.1 hi
  have hne : (head + (i + 1)) % size ≠ (head + 0) % size := index_ne (by omega) (by omega) (by omega)
  rw [Nat.mod_eq_of_lt (show head + 0 < size from hhead)] at hne
  apply update_of_ne
  rw [Nat.mod_add_mod]
  rw [show head + 1 + i = head + (i + 1) by omega]
  exact hne

end ScorpiHv.Circular

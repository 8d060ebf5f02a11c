import Mathlib

/-!
# A linked queue with a tail pointer

A queue is a chain of nodes in a heap of addresses, and its tail is meant to be
the last of them.
-/

namespace ScorpiHv
open Function List

structure Node (α : Type) where
  val : α
  next : Option Nat

structure LinkedQueue (α : Type) where
  heap : Nat → Node α
  head : Option Nat := none
  tail : Option Nat := none

namespace LinkedQueue
variable {α : Type}

def Linked (heap : Nat → Node α) : Option Nat → List Nat → Prop
  | p, [] => p = none
  | p, a :: as => p = some a ∧ Linked heap (heap a).next as

structure Holds (q : LinkedQueue α) (as : List Nat) : Prop where
  linked : Linked q.heap q.head as
  tail : q.tail = as.getLast?
  nodup : as.Nodup

def store (heap : Nat → Node α) (a : Nat) (x : α) : Nat → Node α :=
  update heap a ⟨x, none⟩

def link (heap : Nat → Node α) (t a : Nat) : Nat → Node α :=
  update heap t ⟨(heap t).val, some a⟩

def enqueue (q : LinkedQueue α) (a : Nat) (x : α) : LinkedQueue α :=
  match q.tail with
  | some t => { heap := link (store q.heap a x) t a, head := q.head, tail := some a }
  | none => { heap := store q.heap a x, head := some a, tail := some a }

def dequeue (q : LinkedQueue α) : Option (Nat × LinkedQueue α) :=
  match q.head with
  | none => none
  | some a =>
    let head := (q.heap a).next
    some (a, { q with head, tail := if head = none then none else q.tail })

def clear (q : LinkedQueue α) : LinkedQueue α := { q with head := none, tail := none }

def vals (q : LinkedQueue α) (as : List Nat) : List α := as.map fun a => (q.heap a).val

variable {heap : Nat → Node α} {p : Option Nat}

lemma Linked.congr {heap' : Nat → Node α} {as : List Nat} (h : Linked heap p as)
    (heq : ∀ a ∈ as, (heap' a).next = (heap a).next) : Linked heap' p as := by
  induction as generalizing p with
  | nil => exact h
  | cons a as ih =>
    refine ⟨h.1, ?_⟩
    rw [heq a mem_cons_self]
    exact ih h.2 fun b hb => heq b (mem_cons_of_mem a hb)

lemma link_val (heap : Nat → Node α) (t a b : Nat) : (link heap t a b).val = (heap b).val := by
  unfold link
  by_cases hb : b = t
  · rw [hb, update_self]
  · rw [update_of_ne hb]

variable {a : Nat}

lemma Linked.snoc {as : List Nat} {t : Nat} (h : Linked heap p (as ++ [t])) (hnd : (as ++ [t]).Nodup)
    (ha : a ∉ as ++ [t]) (hnext : (heap a).next = none) : Linked (link heap t a) p (as ++ [t] ++ [a]) := by
  unfold link
  induction as generalizing p with
  | nil =>
    have hne : a ≠ t := fun heq => ha (mem_singleton.mpr heq)
    refine ⟨h.1, ?_⟩
    rw [update_self]
    refine ⟨rfl, ?_⟩
    rw [update_of_ne hne]
    exact hnext
  | cons b as ih =>
    obtain ⟨hb, hnd⟩ := nodup_cons.mp hnd
    have hne : b ≠ t := fun heq => hb (mem_append_right as (mem_singleton.mpr heq))
    refine ⟨h.1, ?_⟩
    rw [update_of_ne hne]
    exact ih h.2 hnd fun hmem => ha (mem_cons_of_mem b hmem)

lemma enqueue_val (q : LinkedQueue α) (a b : Nat) (x : α) :
    ((q.enqueue a x).heap b).val = (store q.heap a x b).val := by
  unfold enqueue
  cases q.tail with
  | none => rfl
  | some => exact link_val _ _ _ _

lemma enqueue_val_of_ne (q : LinkedQueue α) {b : Nat} (x : α) (h : b ≠ a) :
    ((q.enqueue a x).heap b).val = (q.heap b).val := by rw [enqueue_val, store, update_of_ne h]

variable {as : List Nat} {q : LinkedQueue α}

lemma Holds.enqueue (h : q.Holds as) (x : α) (ha : a ∉ as) : (q.enqueue a x).Holds (as ++ [a]) := by
  have hnd : (as ++ [a]).Nodup := by
    refine nodup_append.mpr ⟨h.nodup, nodup_singleton a, fun b hb c hc heq => ?_⟩
    obtain rfl := mem_singleton.mp hc
    exact ha (heq ▸ hb)
  have hself : (store q.heap a x a).next = none := by rw [store, update_self]
  have hheap : Linked (store q.heap a x) q.head as := by
    refine h.linked.congr fun b hb => ?_
    have hne : b ≠ a := fun heq => ha (heq ▸ hb)
    rw [store, update_of_ne hne]
  unfold LinkedQueue.enqueue
  rcases eq_nil_or_concat as with rfl | ⟨bs, t, rfl⟩
  · rw [show q.tail = none from h.tail]
    exact ⟨⟨rfl, hself⟩, rfl, hnd⟩
  · rw [concat_eq_append] at *
    rw [show q.tail = some t from h.tail.trans List.getLast?_concat]
    exact ⟨hheap.snoc h.nodup ha hself, List.getLast?_concat.symm, hnd⟩

lemma vals_enqueue (q : LinkedQueue α) (x : α) (ha : a ∉ as) :
    (q.enqueue a x).vals (as ++ [a]) = q.vals as ++ [x] := by
  unfold vals
  have hself : ((q.enqueue a x).heap a).val = x := by rw [enqueue_val, store, update_self]
  rw [map_append, map_singleton, hself]
  congr 1
  refine map_congr_left fun b hb => ?_
  exact enqueue_val_of_ne q x fun heq => ha (heq ▸ hb)

lemma Holds.dequeue_none (h : q.Holds as) (hq : q.dequeue = none) : as = [] := by
  cases as with
  | nil => rfl
  | cons =>
    unfold LinkedQueue.dequeue at hq
    rw [h.linked.1] at hq
    cases hq

lemma Holds.dequeue_some {q' : LinkedQueue α} (h : q.Holds as)
    (hq : q.dequeue = some (a, q')) : ∃ bs, as = a :: bs ∧ q'.Holds bs ∧ q'.heap = q.heap := by
  unfold LinkedQueue.dequeue at hq
  cases as with
  | nil =>
    rw [h.linked] at hq
    cases hq
  | cons b bs =>
    rw [h.linked.1] at hq
    cases hq
    refine ⟨bs, rfl, ⟨h.linked.2, ?_, (nodup_cons.mp h.nodup).2⟩, rfl⟩
    cases bs with
    | nil => exact if_pos h.linked.2
    | cons c =>
      have hne : (q.heap a).next ≠ none := by
        rw [h.linked.2.1]
        exact Option.some_ne_none c
      rw [if_neg hne, h.tail, List.getLast?_cons_cons]

end LinkedQueue

end ScorpiHv

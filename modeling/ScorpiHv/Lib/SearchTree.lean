import Mathlib

/-!
# Search trees

A binary search tree seen through its in-order list. The comparison of a key with the
elements need only be monotone along it.
-/

namespace ScorpiHv
open List

inductive Tree (α : Type) where
  | leaf
  | node (l : Tree α) (a : α) (r : Tree α)

namespace Tree
variable {α : Type} {before : α → α → Prop} {cmp : α → Ordering} {t : Tree α} {a : α}

def toList : Tree α → List α
  | leaf => []
  | node l a r => l.toList ++ a :: r.toList

def find (cmp : α → Ordering) : Tree α → Option α
  | leaf => none
  | node l a r =>
    match cmp a with
    | .lt => l.find cmp
    | .gt => r.find cmp
    | .eq => some a

/-- The tree with a leaf for `a`, or the element that compares equal. -/
def insert (cmp : α → Ordering) (a : α) : Tree α → Except α (Tree α)
  | leaf => .ok (node leaf a leaf)
  | node l b r =>
    match cmp b with
    | .lt => (l.insert cmp a).map fun l => node l b r
    | .gt => (r.insert cmp a).map fun r => node l b r
    | .eq => .error b

def popMin : Tree α → Option (α × Tree α)
  | leaf => none
  | node l a r =>
    match l.popMin with
    | none => some (a, r)
    | some (m, l) => some (m, node l a r)

def remove (cmp : α → Ordering) : Tree α → Tree α
  | leaf => leaf
  | node l a r =>
    match cmp a with
    | .lt => node (l.remove cmp) a r
    | .gt => node l a (r.remove cmp)
    | .eq =>
      match r.popMin with
      | none => l
      | some (m, r) => node l m r

def Follows (cmp : α → Ordering) (before : α → α → Prop) : Prop :=
  ∀ a b, before a b → (cmp a = .lt → cmp b = .lt) ∧ (cmp b = .gt → cmp a = .gt)

lemma find_some (h : t.find cmp = some a) : a ∈ t.toList ∧ cmp a = .eq := by
  induction t with
  | leaf => cases h
  | node l b r ihl ihr =>
    rw [find] at h
    cases hb : cmp b with
    | lt =>
      rw [hb] at h
      exact ⟨mem_append_left _ (ihl h).1, (ihl h).2⟩
    | gt =>
      rw [hb] at h
      exact ⟨mem_append_right _ (mem_cons_of_mem _ (ihr h).1), (ihr h).2⟩
    | eq =>
      rw [hb] at h
      cases h
      exact ⟨mem_append_right _ mem_cons_self, hb⟩

lemma sorted_node {l r : Tree α} (h : (node l a r).toList.Pairwise before) : l.toList.Pairwise before ∧
    r.toList.Pairwise before ∧ (∀ x ∈ l.toList, before x a) ∧ ∀ x ∈ r.toList, before a x := by
  rw [toList, pairwise_append, pairwise_cons] at h
  exact ⟨h.1, h.2.1.2, fun x hx => h.2.2 x hx a mem_cons_self, h.2.1.1⟩

lemma find_none (hcmp : Follows cmp before) (ht : t.toList.Pairwise before)
    (h : t.find cmp = none) : ∀ x ∈ t.toList, cmp x ≠ .eq := by
  induction t with
  | leaf => exact fun x hx => nomatch hx
  | node l b r ihl ihr =>
    obtain ⟨hl, hr, hbefore, hafter⟩ := sorted_node ht
    intro x hx
    rw [find] at h
    rcases mem_append.1 hx with hx | hx
    · cases hb : cmp b with
      | lt => rw [hb] at h; exact ihl hl h x hx
      | gt => rw [(hcmp x b (hbefore x hx)).2 hb]; decide
      | eq => rw [hb] at h; cases h
    · cases hb : cmp b with
      | lt =>
        rcases mem_cons.1 hx with rfl | hx
        · rw [hb]; decide
        · rw [(hcmp b x (hafter x hx)).1 hb]; decide
      | gt =>
        rcases mem_cons.1 hx with rfl | hx
        · rw [hb]; decide
        · rw [hb] at h; exact ihr hr h x hx
      | eq => rw [hb] at h; cases h

lemma insert_ok {t' : Tree α} (hcmp : Follows cmp before) (ht : t.toList.Pairwise before)
    (h : t.insert cmp a = .ok t') : ∃ l r, t.toList = l ++ r ∧ t'.toList = l ++ a :: r ∧
    (∀ x ∈ l, cmp x = .gt) ∧ ∀ x ∈ r, cmp x = .lt := by
  induction t generalizing t' with
  | leaf =>
    cases h
    exact ⟨[], [], rfl, rfl, (fun x hx => nomatch hx), (fun x hx => nomatch hx)⟩
  | node l c r ihl ihr =>
    obtain ⟨hl, hr, hbefore, hafter⟩ := sorted_node ht
    rw [insert] at h
    cases hc : cmp c with
    | lt =>
      rw [hc] at h
      cases hins : l.insert cmp a with
      | error => rw [hins] at h; cases h
      | ok =>
        rw [hins] at h
        cases h
        obtain ⟨k, m, hsplit, hnew, hgt, hlt⟩ := ihl hl hins
        refine ⟨k, m ++ c :: r.toList, ?_, ?_, hgt, ?_⟩
        · rw [toList, hsplit, append_assoc]
        · rw [toList, hnew, append_assoc, cons_append]
        intro x hx
        rcases mem_append.1 hx with hx | hx
        · exact hlt x hx
        rcases mem_cons.1 hx with rfl | hx
        · exact hc
        · exact (hcmp c x (hafter x hx)).1 hc
    | gt =>
      rw [hc] at h
      cases hins : r.insert cmp a with
      | error => rw [hins] at h; cases h
      | ok =>
        rw [hins] at h
        cases h
        obtain ⟨k, m, hsplit, hnew, hgt, hlt⟩ := ihr hr hins
        refine ⟨l.toList ++ c :: k, m, ?_, ?_, ?_, hlt⟩
        · rw [toList, hsplit, append_assoc, cons_append]
        · rw [toList, hnew, append_assoc, cons_append]
        intro x hx
        rcases mem_append.1 hx with hx | hx
        · exact (hcmp x c (hbefore x hx)).2 hc
        rcases mem_cons.1 hx with rfl | hx
        · exact hc
        · exact hgt x hx
    | eq => rw [hc] at h; cases h

lemma popMin_none (h : t.popMin = none) : t.toList = [] := by
  cases t with
  | leaf => rfl
  | node l =>
    rw [popMin] at h
    cases hl : l.popMin with
    | none | some => rw [hl] at h; cases h

lemma popMin_some {t' : Tree α} (h : t.popMin = some (a, t')) : t.toList = a :: t'.toList := by
  induction t generalizing t' with
  | leaf => cases h
  | node l b r ihl =>
    rw [popMin] at h
    cases hl : l.popMin with
    | none =>
      rw [hl] at h
      cases h
      rw [toList, popMin_none hl, nil_append]
    | some =>
      rw [hl] at h
      cases h
      rw [toList, ihl hl, cons_append]
      rfl

lemma remove_found (h : t.find cmp = some a) :
    ∃ l r, t.toList = l ++ a :: r ∧ (t.remove cmp).toList = l ++ r := by
  induction t with
  | leaf => cases h
  | node l b r ihl ihr =>
    rw [find] at h
    cases hb : cmp b with
    | lt =>
      rw [hb] at h
      obtain ⟨k, m, hold, hnew⟩ := ihl h
      refine ⟨k, m ++ b :: r.toList, ?_, ?_⟩
      · rw [toList, hold, append_assoc, cons_append]
      · rw [remove, hb]
        rw [toList, hnew, append_assoc]
    | gt =>
      rw [hb] at h
      obtain ⟨k, m, hold, hnew⟩ := ihr h
      refine ⟨l.toList ++ b :: k, m, ?_, ?_⟩
      · rw [toList, hold, append_assoc, cons_append]
      · rw [remove, hb]
        rw [toList, hnew, append_assoc, cons_append]
    | eq =>
      rw [hb] at h
      cases h
      refine ⟨l.toList, r.toList, rfl, ?_⟩
      rw [remove, hb]
      cases hr : r.popMin with
      | none => rw [popMin_none hr, append_nil]
      | some =>
        rw [popMin_some hr]
        rfl

end Tree

end ScorpiHv

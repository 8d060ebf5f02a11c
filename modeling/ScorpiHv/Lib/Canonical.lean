import Mathlib

/-!
# Sorting to a canonical form

A list sorted by a comparator that is a total order depends on its elements only.
-/

namespace ScorpiHv.Canonical
open List

variable {α β : Type}

structure TotalOrder (cmp : α → α → Ordering) : Prop where
  eq_iff : ∀ a b, cmp a b = .eq ↔ a = b
  swap : ∀ a b, cmp b a = (cmp a b).swap
  trans : ∀ {a b c}, (cmp a b).isLE = true → (cmp b c).isLE = true → (cmp a c).isLE = true

def sortBy (cmp : α → α → Ordering) (l : List α) : List α :=
  l.insertionSort fun a b => (cmp a b).isLE = true

lemma sortBy_perm (cmp : α → α → Ordering) (l : List α) : (sortBy cmp l).Perm l :=
  perm_insertionSort _ l

section
variable {cmp : α → α → Ordering} (h : TotalOrder cmp)
include h

lemma TotalOrder.antisymm {a b : α} (hab : (cmp a b).isLE = true)
    (hba : (cmp b a).isLE = true) : a = b := by
  rw [h.swap] at hba
  rw [← h.eq_iff]
  cases hc : cmp a b with
  | lt => rw [hc] at hba; cases hba
  | eq => rfl
  | gt => rw [hc] at hab; cases hab

lemma TotalOrder.total (a b : α) : (cmp a b).isLE = true ∨ (cmp b a).isLE = true := by
  rw [h.swap a b]
  cases cmp a b with
  | lt | eq => exact .inl rfl
  | gt => exact .inr rfl

lemma sortBy_pairwise (l : List α) : (sortBy cmp l).Pairwise fun a b => (cmp a b).isLE = true := by
  have htotal : Std.Total fun a b => (cmp a b).isLE = true := ⟨h.total⟩
  have htrans : IsTrans α fun a b => (cmp a b).isLE = true := ⟨fun _ _ _ => h.trans⟩
  exact pairwise_insertionSort _ l

lemma eq_sortBy {l s : List α} (hs : s.Pairwise fun a b => (cmp a b).isLE = true)
    (hp : s.Perm l) : s = sortBy cmp l := by
  have hanti : Std.Antisymm fun a b => (cmp a b).isLE = true := ⟨fun _ _ => h.antisymm⟩
  exact List.Perm.eq_of_pairwise' hs (sortBy_pairwise h l) (hp.trans (sortBy_perm cmp l).symm)

lemma sortBy_eq_iff {l l' : List α} : sortBy cmp l = sortBy cmp l' ↔ l.Perm l' := by
  constructor
  · intro heq
    have hl := (sortBy_perm cmp l).symm
    rw [heq] at hl
    exact hl.trans (sortBy_perm cmp l')
  · intro hp
    exact eq_sortBy h (sortBy_pairwise h l) ((sortBy_perm cmp l).trans hp)

end

variable {l : List α} {R S : α → β → Prop} {m : List β}

lemma forall₂_imp_of_mem (hall : List.Forall₂ R l m) (h : ∀ a b, a ∈ l → b ∈ m → R a b → S a b) :
    List.Forall₂ S l m := by
  induction hall with
  | nil => exact .nil
  | cons hab _ ih =>
    refine .cons (h _ _ mem_cons_self mem_cons_self hab) (ih ?_)
    exact fun a b ha hb => h a b (mem_cons_of_mem _ ha) (mem_cons_of_mem _ hb)

lemma forall₂_iff_of_mem
    (h : ∀ a b, a ∈ l → b ∈ m → (R a b ↔ S a b)) : List.Forall₂ R l m ↔ List.Forall₂ S l m :=
  ⟨fun hall => forall₂_imp_of_mem hall fun a b ha hb => (h a b ha hb).mp,
    fun hall => forall₂_imp_of_mem hall fun a b ha hb => (h a b ha hb).mpr⟩

lemma exists_of_forall₂_right (hall : List.Forall₂ R l m) {b : β} (hb : b ∈ m) : ∃ a ∈ l, R a b := by
  induction hall with
  | nil => cases hb
  | cons hab _ ih =>
    rcases mem_cons.mp hb with rfl | hb
    · exact ⟨_, mem_cons_self, hab⟩
    · obtain ⟨a, ha, hr⟩ := ih hb
      exact ⟨a, mem_cons_of_mem _ ha, hr⟩

lemma map_perm_iff {f : α → β} {l' : List α} :
    (l.map f).Perm (l'.map f) ↔ ∃ m, List.Forall₂ (fun a b => f a = f b) l m ∧ m.Perm l' := by
  constructor
  · intro hp
    have himage : List.Forall₂ (fun b a => b = f a) (l'.map f) l' := by
      rw [forall₂_map_left_iff]
      exact forall₂_same.mpr fun _ _ => rfl
    obtain ⟨m, hm, hperm⟩ := perm_comp_forall₂ hp himage
    rw [forall₂_map_left_iff] at hm
    exact ⟨m, hm, hperm⟩
  · rintro ⟨m, hm, hperm⟩
    have heq : l.map f = m.map f := by
      clear hperm
      induction hm with
      | nil => rfl
      | cons hab _ ih => rw [map_cons, map_cons, hab, ih]
    rw [heq]
    exact hperm.map f

end ScorpiHv.Canonical

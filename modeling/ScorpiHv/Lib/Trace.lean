import Mathlib

/-!
# Labelled traces

A finite run of a labelled transition relation, with the rules that carry an invariant
along it, or a ledger of what its steps take in and give out.
-/

namespace ScorpiHv
open List

inductive Trace {σ ε : Type} (Step : σ → ε → σ → Prop) : σ → List ε → σ → Prop where
  | nil (s : σ) : Trace Step s [] s
  | cons {s t u : σ} {e : ε} {es : List ε} :
      Step s e t → Trace Step t es u → Trace Step s (e :: es) u

namespace Trace
variable {σ ε : Type} {Step : σ → ε → σ → Prop} {s t u : σ} {es es' : List ε} {e : ε}

lemma single (h : Step s e t) : Trace Step s [e] t := .cons h (.nil t)

lemma append (h : Trace Step s es t) (h' : Trace Step t es' u) : Trace Step s (es ++ es') u := by
  induction h with
  | nil => exact h'
  | cons hst _ ih => exact .cons hst (ih h')

/-- What every step whose label is `good` keeps, a trace of such labels keeps. -/
lemma invariant {inv : σ → Prop} (good : ε → Prop) (keep : ∀ s e t, inv s → good e → Step s e t → inv t)
    (h : Trace Step s es t) (hgood : ∀ e ∈ es, good e) (hs : inv s) : inv t := by
  induction h with
  | nil => exact hs
  | cons hst _ ih =>
    have ht := keep _ _ _ hs (hgood _ mem_cons_self) hst
    exact ih (fun e he => hgood e (mem_cons_of_mem _ he)) ht

lemma relates (inv : σ → Prop) (good : ε → Prop) {rel : σ → σ → Prop}
    (keep : ∀ s e t, inv s → good e → Step s e t → inv t) (refl : ∀ s, rel s s)
    (trans : ∀ s t u, rel s t → rel t u → rel s u) (step : ∀ s e t, inv s → good e → Step s e t → rel s t)
    (h : Trace Step s es t) (hgood : ∀ e ∈ es, good e) (hs : inv s) : rel s t := by
  induction h with
  | nil s => exact refl s
  | cons hst _ ih =>
    have hg := hgood _ mem_cons_self
    have hrest := ih (fun e he => hgood e (mem_cons_of_mem _ he)) (keep _ _ _ hs hg hst)
    exact trans _ _ _ (step _ _ _ hs hg hst) hrest

lemma simulate {τ : Type} {Step' : τ → ε → τ → Prop} (inv : σ → Prop) (f : σ → τ)
    (keep : ∀ s e t, inv s → Step s e t → inv t) (step : ∀ s e t, inv s → Step s e t → Step' (f s) e (f t))
    (h : Trace Step s es t) (hs : inv s) : Trace Step' (f s) es (f t) := by
  induction h with
  | nil s => exact .nil (f s)
  | cons hst _ ih => exact .cons (step _ _ _ hs hst) (ih (keep _ _ _ hs hst))

lemma balance {M : Type} [AddCommMonoid M] (inv : σ → Prop) (keep : ∀ s e t, inv s → Step s e t → inv t)
    (held : σ → M) (paid received : ε → M)
    (step : ∀ s e t, inv s → Step s e t → held t + paid e = held s + received e) (h : Trace Step s es t)
    (hs : inv s) : held t + (es.map paid).sum = held s + (es.map received).sum := by
  induction h with
  | nil => rfl
  | @cons s m u e es hst _ ih =>
    have hrest := ih (keep _ _ _ hs hst)
    calc held u + (paid e + (es.map paid).sum)
        = held u + (es.map paid).sum + paid e := by rw [add_comm (paid e), add_assoc]
      _ = held m + (es.map received).sum + paid e := by rw [hrest]
      _ = held m + paid e + (es.map received).sum := by rw [add_right_comm]
      _ = held s + received e + (es.map received).sum := by rw [step _ _ _ hs hst]
      _ = held s + (received e + (es.map received).sum) := by rw [add_assoc]

end Trace

namespace Ledger
variable {α : Type} [DecidableEq α]

def changes (l : List α) : List α := l.destutter (· ≠ ·)

lemma changes_cons_cons (a b : α) (l : List α) :
    changes (a :: b :: l) = if a = b then changes (b :: l) else a :: changes (b :: l) := by
  unfold changes
  by_cases h : a = b
  · subst h
    simp [destutter_cons']
  · simp [h, destutter_cons']

lemma head?_changes (l : List α) : (changes l).head? = l.head? := by
  match l with
  | [] => rfl
  | [a] => rfl
  | a :: b :: l =>
    rw [changes_cons_cons]
    split_ifs with h
    · rw [head?_changes (b :: l), h]
      rfl
    · rfl

lemma changes_cons_congr (a : α) {l m : List α} (h : changes l = changes m) :
    changes (a :: l) = changes (a :: m) := by
  have hhead : l.head? = m.head? := by rw [← head?_changes l, h, head?_changes]
  match l, m with
  | [], [] => rfl
  | [], _ :: _ => cases hhead
  | _ :: _, [] => cases hhead
  | b :: l, c :: m =>
    cases hhead
    rw [changes_cons_cons, changes_cons_cons, h]

lemma changes_append_congr (k : List α) {l m : List α} (h : changes l = changes m) :
    changes (k ++ l) = changes (k ++ m) := by
  induction k with
  | nil => exact h
  | cons a k ih => exact changes_cons_congr a ih

lemma changes_repeat (k : List α) (a : α) (l : List α) :
    changes (k ++ a :: a :: l) = changes (k ++ a :: l) := by
  apply changes_append_congr
  rw [changes_cons_cons, if_pos rfl]

lemma changes_prefix (k l : List α) : changes k <+: changes (k ++ l) := by
  match k with
  | [] => exact nil_prefix
  | [a] =>
    match l with
    | [] => exact prefix_rfl
    | b :: l =>
      have h : (changes ([a] ++ b :: l)).head? = some a := head?_changes _
      obtain ⟨m, hm⟩ := List.head?_eq_some_iff.1 h
      exact ⟨m, by rw [hm]; rfl⟩
  | a :: b :: k =>
    have ih := changes_prefix (b :: k) l
    rw [changes_cons_cons, cons_append, cons_append, changes_cons_cons]
    by_cases h : a = b
    · rw [if_pos h, if_pos h]
      exact ih
    · rw [if_neg h, if_neg h]
      exact (prefix_cons_inj a).2 ih

end Ledger

end ScorpiHv

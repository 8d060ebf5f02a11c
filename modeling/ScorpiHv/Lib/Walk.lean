import Mathlib

/-!
# Walks of a partial function

The walk from a state ends where the function has no value. Over finitely many states
it does exactly when it meets no state twice.
-/

namespace ScorpiHv.Walk

variable {α : Type} (f : α → Option α)

def walk : Nat → α → Option α
  | 0, a => some a
  | n + 1, a => (walk n a).bind f

def Ends (a : α) : Prop := ∃ n, walk f n a = none

variable {f}

lemma walk_add (n k : Nat) (a : α) : walk f (n + k) a = (walk f n a).bind (walk f k) := by
  induction k with
  | zero => exact (Option.bind_fun_some _).symm
  | succ k ih =>
    rw [← Nat.add_assoc, walk, ih, Option.bind_assoc]
    rfl

lemma walk_none_le {n k : Nat} {a : α} (h : walk f n a = none) (hle : n ≤ k) : walk f k a = none := by
  obtain ⟨d, rfl⟩ := Nat.exists_eq_add_of_le hle
  rw [walk_add, h, Option.bind_none]

lemma not_ends_of_repeat {a b : α} {i j : Nat} (hij : i < j) (hi : walk f i a = some b)
    (hj : walk f j a = some b) : ¬ Ends f a := by
  have hlap : ∀ k, walk f (i + k) a = walk f (j + k) a := by
    intro k
    rw [walk_add, walk_add, hi, hj]
  have hsome : ∀ n, walk f (i + n) a ≠ none := by
    intro n
    induction n using Nat.strong_induction_on with
    | _ n ih =>
      by_cases hn : i + n ≤ j
      · intro hnone
        rw [walk_none_le hnone hn] at hj
        cases hj
      · have hback : i + n = j + (n - (j - i)) := by omega
        rw [hback, ← hlap]
        exact ih _ (by omega)
  rintro ⟨n, hn⟩
  exact hsome n (walk_none_le hn (Nat.le_add_left n i))

lemma ends_iff [Finite α] (a : α) :
    Ends f a ↔ ∀ i j b, walk f i a = some b → walk f j a = some b → i = j := by
  constructor
  · intro hends i j b hi hj
    rcases Nat.lt_trichotomy i j with h | h | h
    · exact absurd hends (not_ends_of_repeat h hi hj)
    · exact h
    · exact absurd hends (not_ends_of_repeat h hj hi)
  · intro hinj
    by_contra hends
    have hsome : ∀ n, ∃ b, walk f n a = some b := by
      intro n
      exact Option.ne_none_iff_exists'.mp fun hn => hends ⟨n, hn⟩
    choose b hb using hsome
    apply not_injective_infinite_finite b
    intro i j heq
    exact hinj i j (b i) (hb i) (heq ▸ hb j)

lemma walk_congr {β : Type} {g : β → Option β} {p : β → α} {a : β}
    (h : ∀ n b, walk g n a = some b → (g b).map p = f (p b)) (n : Nat) :
    (walk g n a).map p = walk f n (p a) := by
  induction n with
  | zero => rfl
  | succ n ih =>
    rw [walk, walk, ← ih]
    cases hb : walk g n a with
    | none => rfl
    | some b => exact h n b hb

lemma ends_congr {β : Type} {g : β → Option β} {p : β → α} {a : β}
    (h : ∀ n b, walk g n a = some b → (g b).map p = f (p b)) : Ends g a ↔ Ends f (p a) := by
  apply exists_congr
  intro n
  rw [← walk_congr h, Option.map_eq_none_iff]

end ScorpiHv.Walk

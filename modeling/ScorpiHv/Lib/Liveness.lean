import Mathlib

/-!
# Infinite runs

An infinite run of a labelled transition relation, with the rules that turn
fairness into progress.
-/

namespace ScorpiHv
open List

structure Behaviour {σ ε : Type} (Step : σ → ε → σ → Prop) where
  state : Nat → σ
  label : Nat → ε
  step : ∀ n, Step (state n) (label n) (state (n + 1))

namespace Behaviour
variable {σ ε : Type} {Step : σ → ε → σ → Prop} (b : Behaviour Step) {p : σ → Prop} {n m : Nat}

lemma stable (keep : ∀ s e t, p s → Step s e t → p t)
    (h : p (b.state n)) (hle : n ≤ m) : p (b.state m) := by
  induction hle with
  | refl => exact h
  | @step m _ ih => exact keep _ _ _ ih (b.step m)

lemma invariant (keep : ∀ s e t, p s → Step s e t → p t) (h : p (b.state 0))
    (n : Nat) : p (b.state n) := b.stable keep h (Nat.zero_le n)

variable {q : σ → Prop}

/-- A helpful step at `m` leads from `p` to `q` if the steps before it do no harm. -/
lemma leads_to (good : ε → Prop) (hn : p (b.state n)) (hle : n ≤ m) (hm : good (b.label m))
    (keep : ∀ k, p (b.state k) → p (b.state (k + 1)) ∨ q (b.state (k + 1)))
    (reach : ∀ k, p (b.state k) → good (b.label k) → q (b.state (k + 1))) : ∃ k, n ≤ k ∧ q (b.state k) := by
  obtain ⟨d, rfl⟩ := Nat.exists_eq_add_of_le hle
  induction d generalizing n with
  | zero => exact ⟨n + 1, Nat.le_succ n, reach n hn hm⟩
  | succ d ih =>
    rcases keep n hn with hp | hq
    · have heq : n + (d + 1) = n + 1 + d := by omega
      rw [heq] at hm
      obtain ⟨k, hk, hgoal⟩ := ih hp (Nat.le_add_right _ _) hm
      exact ⟨k, Nat.le_of_succ_le hk, hgoal⟩
    · exact ⟨n + 1, Nat.le_succ n, hq⟩

lemma eventually_all {p : Nat → σ → Prop} (keep : ∀ i s e t, p i s → Step s e t → p i t) (n count : Nat)
    (h : ∀ i < count, ∃ m, n ≤ m ∧ p i (b.state m)) : ∃ m, n ≤ m ∧ ∀ i < count, p i (b.state m) := by
  induction count with
  | zero => exact ⟨n, Nat.le_refl n, fun i hi => absurd hi (Nat.not_lt_zero i)⟩
  | succ count ih =>
    obtain ⟨m, hm, hall⟩ := ih fun i hi => h i (Nat.lt_succ_of_lt hi)
    obtain ⟨m', hm', hlast⟩ := h count (Nat.lt_succ_self count)
    refine ⟨max m m', Nat.le_trans hm (Nat.le_max_left _ _), fun i hi => ?_⟩
    rcases Nat.lt_succ_iff_lt_or_eq.mp hi with hlt | rfl
    · exact b.stable (keep i) (hall i hlt) (Nat.le_max_left _ _)
    · exact b.stable (keep i) hlast (Nat.le_max_right _ _)

lemma goes_on (hn : p (b.state n)) (keep : ∀ k, p (b.state k) → p (b.state (k + 1)) ∨ q (b.state (k + 1)))
    (never : ∀ k, n ≤ k → ¬ q (b.state k)) (hle : n ≤ m) : p (b.state m) := by
  induction hle with
  | refl => exact hn
  | @step m hm ih => exact (keep m ih).resolve_right (never (m + 1) (Nat.le_succ_of_le hm))

lemma leads_to_rank (rank : σ → Nat) (good : ε → Prop)
    (fair : ∀ k, p (b.state k) → ∃ m, k ≤ m ∧ (good (b.label m) ∨ q (b.state m)))
    (keep : ∀ k, p (b.state k) → q (b.state (k + 1)) ∨ (p (b.state (k + 1)) ∧
      rank (b.state (k + 1)) ≤ rank (b.state k) ∧
      (good (b.label k) → rank (b.state (k + 1)) < rank (b.state k))))
    (hn : p (b.state n)) : ∃ m, n ≤ m ∧ q (b.state m) := by
  induction hr : rank (b.state n) using Nat.strongRecOn generalizing n with
  | _ r ih =>
    obtain ⟨m, hle, hgood | hq⟩ := fair n hn
    · have hlower : ∃ k, n ≤ k ∧
          (q (b.state k) ∨ (p (b.state k) ∧ rank (b.state k) < r)) := by
        refine b.leads_to (p := fun s => p s ∧ rank s ≤ r)
          (q := fun s => q s ∨ (p s ∧ rank s < r)) good ⟨hn, Nat.le_of_eq hr⟩ hle hgood ?_ ?_
        · rintro k ⟨hp, hk⟩
          rcases keep k hp with hq | ⟨hp', hle', -⟩
          · exact .inr (.inl hq)
          · exact .inl ⟨hp', Nat.le_trans hle' hk⟩
        · rintro k ⟨hp, hk⟩ hg
          rcases keep k hp with hq | ⟨hp', -, hlt⟩
          · exact .inl hq
          · exact .inr ⟨hp', Nat.lt_of_lt_of_le (hlt hg) hk⟩
      obtain ⟨k, hk, hq | ⟨hp, hlt⟩⟩ := hlower
      · exact ⟨k, hk, hq⟩
      · obtain ⟨m', hm', hq⟩ := ih _ hlt hp rfl
        exact ⟨m', Nat.le_trans hk hm', hq⟩
    · exact ⟨m, hle, hq⟩

lemma acts (good : ε → Prop) (fair : (∀ k, n ≤ k → p (b.state k)) → ∃ k, n ≤ k ∧ good (b.label k))
    (keep : ∀ k, p (b.state k) → ¬ good (b.label k) → p (b.state (k + 1)) ∨ q (b.state (k + 1)))
    (hn : p (b.state n)) : ∃ k, n ≤ k ∧ ((p (b.state k) ∧ good (b.label k)) ∨ q (b.state k)) := by
  apply Classical.byContradiction
  intro hnever
  have hon : ∀ k, n ≤ k → p (b.state k) := by
    intro k hk
    induction hk with
    | refl => exact hn
    | @step k hk ih =>
      have hgood : ¬ good (b.label k) := fun hg => hnever ⟨k, hk, .inl ⟨ih, hg⟩⟩
      refine (keep k ih hgood).resolve_right fun hq => ?_
      exact hnever ⟨k + 1, Nat.le_succ_of_le hk, .inr hq⟩
  obtain ⟨k, hk, hg⟩ := fair hon
  exact hnever ⟨k, hk, .inl ⟨hon k hk, hg⟩⟩

end Behaviour

variable {σ ε : Type} (next : σ → ε → Option σ)

def Behaviour.ofScript (idle : ε) (hidle : ∀ t, next t idle = some t) (script : List ε) (s : σ)
    (hrun : (script.foldlM next s).isSome = true) :
    Behaviour (fun s e t => next s e = some t) where
  state n := ((script.take n).foldlM next s).getD s
  label n := script.getD n idle
  step n := by
    have hpre : ∀ l l' : List ε, ((l ++ l').foldlM next s).isSome = true →
        (l.foldlM next s).isSome = true := by
      intro l l' h
      rw [foldlM_append] at h
      cases hl : l.foldlM next s with
      | none => rw [hl] at h; exact h
      | some => rfl
    by_cases hn : n < script.length
    · have htake := take_succ_eq_append_getElem hn
      have hnext : ((script.take (n + 1)).foldlM next s).isSome = true := by
        apply hpre _ (script.drop (n + 1))
        rwa [take_append_drop]
      rw [htake, foldlM_append] at hnext
      rw [htake, foldlM_append, getD_eq_getElem _ _ hn]
      cases hl : (script.take n).foldlM next s with
      | none => rw [hl] at hnext; cases hnext
      | some t =>
        rw [hl] at hnext
        obtain ⟨u, hu⟩ := Option.isSome_iff_exists.mp hnext
        have hstep : next t script[n] = some u := by simpa using hu
        simp [hstep]
    · have hlen : script.length ≤ n := Nat.le_of_not_lt hn
      rw [getD_eq_default _ _ hlen, take_of_length_le hlen,
        take_of_length_le (Nat.le_succ_of_le hlen)]
      exact hidle _

variable {next} {idle : ε} {hidle : ∀ t, next t idle = some t} {script : List ε} {s : σ}
  {hrun : (script.foldlM next s).isSome = true}

lemma Behaviour.ofScript_state_of_ge {n : Nat} (h : script.length ≤ n) :
    (ofScript next idle hidle script s hrun).state n = (script.foldlM next s).getD s := by
  change ((script.take n).foldlM next s).getD s = _
  rw [take_of_length_le h]

lemma Behaviour.ofScript_label_of_ge {n : Nat} (h : script.length ≤ n) :
    (ofScript next idle hidle script s hrun).label n = idle :=
  getD_eq_default _ _ h

end ScorpiHv

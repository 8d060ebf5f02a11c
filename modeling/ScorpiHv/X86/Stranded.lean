import ScorpiHv.X86.Barrier

/-!
# A vCPU that sleeps through a request

`vm_suspend` clears the bit that `vm_wait_for_vcpu_active` polls. A vCPU that
polls it then never reaches the barrier.
-/

namespace ScorpiHv.X86
open Function

variable {n : Nat} [NeZero n] {s t : State n} {i j : Fin n} {c : Choice}

/-- The vCPU waits to be active, or is about to, with its bit clear and a request pending. -/
def Stranded (s : State n) (j : Fin n) : Prop :=
  (s.pc j = .waitActive ∨ (s.pc j = .barrier ∧ s.resetCpus j = false)) ∧
    s.activeCpus j = false ∧ s.suspendReason ≠ none ∧ j < s.resumed

instance (s : State n) (j : Fin n) : Decidable (Stranded s j) := by
  unfold Stranded
  infer_instance

lemma Move.rounds (hm : Move s i c t) :
    t.rounds = s.rounds ∨ (s.pc i = .release ∧ t = vmexitResetRelease s i) := by
  cases hm with
  | release hpc => exact .inr ⟨hpc, rfl⟩
  | _ => exact .inl rfl

lemma Move.suspendReason (hm : Move s i c t) :
    t.suspendReason = s.suspendReason ∨ (s.phase i = .early ∧ t.suspendReason = none) ∨
      ∃ how, c = .request how ∧ t.suspendReason = some how := by
  cases hm with
  | @request how => exact .inr (.inr ⟨how, rfl, rfl⟩)
  | resetEnd hpc => exact .inr (.inl ⟨phase_of_pc hpc, rfl⟩)
  | _ => exact .inl rfl

lemma Move.resetCpus (hm : Move s i c t) (j : Fin n) :
    t.resetCpus j = s.resetCpus j ∨ (j = i ∧ s.pc i = .suspended .reset ∧ t.resetCpus j = true) ∨
      (s.phase i = .late ∧ t.resetCpus j = false) := by
  cases hm with
  | arrive hpc =>
    by_cases hj : j = i
    · subst hj
      exact .inr (.inl ⟨rfl, hpc, update_self ..⟩)
    · exact .inl (update_of_ne hj ..)
  | release hpc => exact .inr (.inr ⟨phase_of_pc hpc, rfl⟩)
  | _ => exact .inl rfl

lemma Move.exitStatus (hm : Move s i c t) (ho : Ordered s) : t.exitStatus = s.exitStatus ∨
    (s.pc i = .deleteWait ∧ (∀ j, s.cpumask j = false) ∧ t.exitStatus = some 0) := by
  cases hm with
  | exit hpc hmask => exact .inr ⟨hpc, hmask, rfl⟩
  | deleteUnknown hpc hmask =>
    have hstop : s.phase i = .stopping := phase_of_pc hpc
    have hdel := (ho.mask i).mp hmask
    simp [hstop] at hdel
  | _ => exact .inl rfl

section
variable (h : Stranded s j)
include h

omit [NeZero n] in
lemma Stranded.phase : s.phase j = .free ∨ s.phase j = .barrier := by
  rcases h.1 with hpc | ⟨hpc, -⟩
  · exact .inl (phase_of_pc hpc)
  · exact .inr (phase_of_pc hpc)

lemma Stranded.resetCpus (ho : Ordered s) : s.resetCpus j = false := by
  rcases h.1 with hpc | ⟨-, hout⟩
  · refine Bool.eq_false_iff.mpr fun hin => ?_
    have hphase : s.phase j = .free := phase_of_pc hpc
    have hcounted := ho.counted j hin
    simp [hphase] at hcounted
  · exact hout

lemma Stranded.no_round (ho : Ordered s) (i : Fin n) : s.phase i ≠ .early ∧ s.phase i ≠ .late := by
  have hout := h.resetCpus ho
  constructor
  · intro hp
    rw [(ho.early i hp).2.2 j] at hout
    cases hout
  · intro hp
    rw [(ho.late i hp).2.2 j] at hout
    cases hout

lemma Stranded.own_move (ho : Ordered s) (hm : Move s j c t) : t.pc j = .waitActive := by
  have hout := h.resetCpus ho
  rcases h.1 with hpc | ⟨hpc, -⟩
  · rcases hm.awake with hw | hw
    · exact absurd hpc hw
    · rw [h.2.1] at hw
      cases hw
  · cases hm with
    | leaveBarrier => exact update_self ..
    | pass hpc' hj =>
      subst hj
      rw [ho.bsp (phase_of_pc hpc)] at hout
      cases hout
    | stop htest =>
      rw [hpc] at htest
      cases htest
    | request hpc' => rcases hpc' with h' | h' <;> rw [hpc] at h' <;> cases h'
    | _ => simp_all

lemma Stranded.move (hinv : Inv s) (hm : Move s i c t) :
    Stranded t j ∧ t.rounds = s.rounds ∧ t.exitStatus = s.exitStatus := by
  have ho := hinv.ordered
  have hround := h.no_round ho i
  refine ⟨⟨?_, ?_, ?_, ?_⟩, ?_, ?_⟩
  · by_cases hij : j = i
    · subst hij
      exact .inl (h.own_move ho hm)
    rw [hm.pc_other hij]
    refine h.1.imp_right fun ⟨hpc, hout⟩ => ⟨hpc, ?_⟩
    rcases hm.resetCpus j with heq | ⟨heq, -⟩ | ⟨-, hfalse⟩
    · exact heq.trans hout
    · exact absurd heq hij
    · exact hfalse
  · rcases hm.activeCpus j with heq | ⟨hfalse, -⟩ | ⟨-, hlate⟩
    · exact heq.trans h.2.1
    · exact hfalse
    · exact absurd hlate hround.2
  · rcases hm.suspendReason with heq | ⟨hearly, -⟩ | ⟨how, -, hsome⟩
    · rw [heq]
      exact h.2.2.1
    · exact absurd hearly hround.1
    · rw [hsome]
      exact Option.some_ne_none how
  · rw [hm.resumed]
    exact h.2.2.2
  · rcases hm.rounds with heq | ⟨hpc, -⟩
    · exact heq
    · exact absurd (phase_of_pc hpc) hround.2
  · rcases hm.exitStatus ho with heq | ⟨-, hmask, -⟩
    · exact heq
    · have hdel := (ho.mask j).mp (hmask j)
      rcases h.phase with hp | hp <;> simp [hp] at hdel

lemma Stranded.step {l : Label n} (hinv : Inv s) (hstep : Step s l t) :
    Stranded t j ∧ t.rounds = s.rounds ∧ t.exitStatus = s.exitStatus := by
  rcases step_cases hstep with ⟨-, rfl⟩ | ⟨-, -, hlt, rfl⟩ | ⟨-, i, c, -, hm⟩
  · exact ⟨h, rfl, rfl⟩
  · obtain ⟨hpc, hactive, hreason, hres⟩ := h
    have hne : j ≠ ⟨s.resumed, hlt⟩ := fun heq => by
      rw [heq] at hres
      exact Nat.lt_irrefl _ hres
    have hout : (activateNext s hlt).activeCpus j = false := (update_of_ne hne ..).trans hactive
    exact ⟨⟨hpc, hout, hreason, Nat.lt_succ_of_lt hres⟩, rfl, rfl⟩
  · exact h.move hinv hm

end

lemma stranded_forever (b : Behaviour (Step (n := n))) (hinv : ∀ m, Inv (b.state m)) {m : Nat}
    (h : Stranded (b.state m) j) {k : Nat} (hle : m ≤ k) :
    Stranded (b.state k) j ∧ (b.state k).rounds = (b.state m).rounds ∧
      (b.state k).exitStatus = (b.state m).exitStatus := by
  induction hle with
  | refl => exact ⟨h, rfl, rfl⟩
  | @step k _ ih =>
    obtain ⟨hs, hr, he⟩ := ih.1.step (hinv k) (b.step k)
    exact ⟨hs, hr.trans ih.2.1, he.trans ih.2.2⟩

end ScorpiHv.X86

import ScorpiHv.X86.Stranded

/-!
# Requests are carried out

With fair threads every vCPU comes to a pending reset or power-off, unless one
is stranded or the other kind of request gets in the way.
-/

namespace ScorpiHv.X86
open Function

variable {n : Nat} [NeZero n] {s t : State n} {i j : Fin n} {c : Choice} {how : SuspendHow}

/-- A thread that can go on; in `KVM_RUN` it does so for sure only once it is kicked. -/
def Runnable (s : State n) (i : Fin n) : Prop :=
  (s.pc i = .guest → s.immediateExit i = true) ∧ ∃ c, (next s (.vcpu i c)).isSome = true

def ByVcpu (i : Fin n) (l : Label n) : Prop := ∃ c, l = .vcpu i c

structure Fair (b : Behaviour (Step (n := n))) : Prop where
  vcpu : ∀ m i, (∀ k, m ≤ k → Runnable (b.state k) i) → ∃ k, m ≤ k ∧ ByVcpu i (b.label k)
  main : ∀ m, (∀ k, m ≤ k → (next (b.state k) .main).isSome = true) →
    ∃ k, m ≤ k ∧ b.label k = .main

def Uniform (b : Behaviour (Step (n := n))) : Prop :=
  ∀ m i how, b.label m = .vcpu i (.request how) →
    ∀ how', (b.state m).suspendReason = some how' → how' = how

def Pc.kind : Pc → Option SuspendHow
  | .suspendCpus how _ _ | .suspended how => some how
  | .resetDevices | .resetVcpus _ => some .reset
  | .deleteWait | .gone => some .poweroff
  | _ => none

structure Kind (s : State n) : Prop where
  pc : ∀ how, s.suspendReason = some how → ∀ i how', (s.pc i).kind = some how' → how' = how
  counted : ∀ how, s.suspendReason = some how → ∀ i, s.resetCpus i = true → how = .reset

lemma Ordered.kind_none (h : Ordered s) (hnone : s.suspendReason = none) (i : Fin n) :
    (s.pc i).kind = none := by
  obtain ⟨hstop, hwait, hgone, -⟩ := h.quiet hnone i
  have hearly : s.phase i ≠ .early := fun he => (h.early i he).2.1 hnone
  unfold State.phase at hstop hwait hgone hearly
  cases hpc : s.pc i <;> rw [hpc] at hstop hwait hgone hearly <;>
    first | rfl | exact absurd rfl hstop | exact absurd rfl hwait | exact absurd rfl hgone |
      exact absurd rfl hearly

variable {how' : SuspendHow}

lemma Move.kind (hm : Move s i c t) (h : (t.pc i).kind = some how') : (s.pc i).kind = some how' ∨
    t.suspendReason = some how' ∨ (s.pc i = .barrier ∧ i = 0 ∧ how' = .reset) := by
  cases hm with
  | stop _ hreason =>
    rw [goto_pc_self] at h
    cases h
    exact .inr (.inl hreason)
  | request =>
    rw [vmSuspend, goto_pc_self] at h
    cases h
    exact .inr (.inl rfl)
  | pass hpc hi =>
    rw [goto_pc_self] at h
    cases h
    exact .inr (.inr ⟨hpc, hi, rfl⟩)
  | suspendCpu k hpc | devices hpc | resetVcpu k hpc =>
    rw [goto_pc_self] at h
    rw [hpc]
    exact .inl h
  | @suspendEnd how inIo k hpc =>
    rw [goto_pc_self] at h
    rw [hpc]
    cases inIo with
    | true => cases h
    | false => exact .inl h
  | delete hpc =>
    rw [goto_pc_self] at h
    rw [hpc]
    left
    split at h <;> exact h
  | @dispatch e =>
    rw [goto_pc_self] at h
    cases e <;> cases h
  | arrive => rw [vmexitResetBarrier, goto_pc_self] at h; cases h
  | release => rw [vmexitResetRelease, goto_pc_self] at h; cases h
  | deleteUnknown | exit => exact .inl h
  | _ => rw [goto_pc_self] at h; cases h

lemma Kind.move (h : Kind s) (ho : Ordered s) (hm : Move s i c t)
    (huni : ∀ how, c = .request how → ∀ how', s.suspendReason = some how' → how' = how) : Kind t := by
  have hrequest : ∀ how, c = .request how → s.phase i = .free := by
    rintro how rfl
    cases hm with
    | request hpc => rcases hpc with hpc | hpc <;> exact phase_of_pc hpc
  -- A new reason is the old one, or comes when nobody has a kind.
  have hreason : ∀ how, t.suspendReason = some how → s.suspendReason = some how ∨
      (s.suspendReason = none ∧ s.phase i = .free) := by
    intro how hsome
    rcases hm.suspendReason with heq | ⟨-, hnone⟩ | ⟨how', hc, hsome'⟩
    · exact .inl (heq.symm.trans hsome)
    · rw [hnone] at hsome
      cases hsome
    rw [hsome'] at hsome
    cases hsome
    cases hs : s.suspendReason with
    | none => exact .inr ⟨rfl, hrequest how hc⟩
    | some how'' => rw [huni how hc how'' hs]; exact .inl rfl
  have hkind : ∀ how, t.suspendReason = some how → ∀ j how', (s.pc j).kind = some how' →
      how' = how := by
    intro how hsome j how' hk
    rcases hreason how hsome with hs | ⟨hs, -⟩
    · exact h.pc how hs j how' hk
    · rw [ho.kind_none hs j] at hk
      cases hk
  have hcounted : ∀ how, t.suspendReason = some how → ∀ j, s.resetCpus j = true →
      how = .reset := by
    intro how hsome j hj
    rcases hreason how hsome with hs | ⟨hs, hfree⟩
    · exact h.counted how hs j hj
    have hlate := (ho.quiet hs j).2.2.2 hj
    have hi := ho.counted i ((ho.late 0 hlate).2.2 i)
    simp [hfree] at hi
  constructor
  · intro how hsome j how' hk
    by_cases hj : j = i
    · subst hj
      rcases hm.kind hk with hk' | hk' | ⟨hpc, rfl, rfl⟩
      · exact hkind how hsome j how' hk'
      · rw [hk'] at hsome
        exact Option.some.inj hsome
      · exact (hcounted how hsome 0 (ho.bsp (phase_of_pc hpc))).symm
    · rw [hm.pc_other hj] at hk
      exact hkind how hsome j how' hk
  · intro how hsome j hj
    rcases hm.resetCpus j with heq | ⟨-, hpc, -⟩ | ⟨-, hfalse⟩
    · exact hcounted how hsome j (heq ▸ hj)
    · exact (hkind how hsome i .reset (by rw [hpc]; rfl)).symm
    · rw [hfalse] at hj
      cases hj

def Arrived (how : SuspendHow) (i : Fin n) (s : State n) : Prop :=
  match how with
  | .reset => s.resetCpus i = true
  | .poweroff => s.cpumask i = false

structure Pending (how : SuspendHow) (r : Nat) (s : State n) : Prop where
  inv : Inv s
  kind : Kind s
  reason : s.suspendReason = some how
  running : s.exitStatus = none
  rounds : s.rounds = r

section
variable {r : Nat} (h : Pending how r s)
include h

lemma Pending.not_late (i : Fin n) : s.phase i ≠ .late := fun hl => by
  have hnone := (h.inv.ordered.late i hl).2.1
  rw [h.reason] at hnone
  cases hnone

lemma Pending.arrived_of_early (he : s.phase i = .early) : Arrived how j s := by
  have hall := (h.inv.ordered.early i he).2.2
  cases h.kind.counted how h.reason i (hall i)
  exact hall j

lemma Pending.arrived_of_deleted (hd : s.phase i = .deleteWait ∨ s.phase i = .gone) : Arrived how i s := by
  have hkind : (s.pc i).kind = some .poweroff := by
    unfold State.phase at hd
    cases hpc : s.pc i <;> rw [hpc] at hd <;> rcases hd with hd | hd <;> first | rfl | cases hd
  cases h.kind.pc how h.reason i _ hkind
  exact (h.inv.ordered.mask i).mpr hd

lemma Pending.arrived_of_counted (hi : s.resetCpus i = true) : Arrived how i s := by
  cases h.kind.counted how h.reason i hi
  exact hi

lemma Pending.not_arrived (hpc : s.pc i = .waitActive) : ¬ Arrived how i s := by
  have hphase : s.phase i = .free := phase_of_pc hpc
  cases how with
  | reset =>
    intro hin
    have hc := h.inv.ordered.counted i hin
    simp [hphase] at hc
  | poweroff =>
    intro hout
    have hd := (h.inv.ordered.mask i).mp hout
    simp [hphase] at hd

lemma Pending.move (hm : Move s i c t) (hwait : ¬ Arrived how j s)
    (huni : ∀ how, c = .request how → ∀ how', s.suspendReason = some how' → how' = how) :
    Pending how r t := by
  have ho := h.inv.ordered
  refine ⟨⟨ho.move hm, h.inv.booted.move ho hm, h.inv.kicked.move hm, h.inv.counted.move ho hm⟩,
    h.kind.move ho hm huni, ?_, ?_, ?_⟩
  · rcases hm.suspendReason with heq | ⟨hearly, -⟩ | ⟨how', hc, hsome⟩
    · exact heq.trans h.reason
    · exact absurd (h.arrived_of_early hearly) hwait
    · rw [hsome, huni how' hc how h.reason]
  · rcases hm.exitStatus ho with heq | ⟨-, hmask, -⟩
    · exact heq.trans h.running
    · exact absurd (h.arrived_of_deleted ((ho.mask j).mp (hmask j))) hwait
  · rcases hm.rounds with heq | ⟨hpc, -⟩
    · exact heq.trans h.rounds
    · exact absurd (phase_of_pc hpc) (h.not_late i)

def Pc.rank (n : Nat) : Pc → Nat
  | .handleIo | .systemEvent _ => n + 6
  | .suspendCpus _ k _ => n - k + 5
  | .barrier => 4
  | .waitActive | .guest => 3
  | .entering | .armed | .exited _ | .ioDone => 2
  | .suspended _ => 1
  | _ => 0

lemma Pending.rank (hm : Move s i c t) (hwait : ¬ Arrived how i s) :
    Arrived how i t ∨ (t.pc i).rank n < (s.pc i).rank n := by
  have ho := h.inv.ordered
  have hsome : s.suspendReason ≠ none := by
    rw [h.reason]
    exact Option.some_ne_none how
  cases hm with
  | arm _ hnone | run _ hnone | dispatch _ hnone | again _ hnone => exact absurd hnone hsome
  | wake hpc | leave hpc =>
    right
    rw [goto_pc_self, hpc]
    exact Nat.lt_succ_self 2
  | leaveBarrier hpc =>
    right
    rw [goto_pc_self, hpc]
    exact Nat.lt_succ_self 3
  | stop htest =>
    right
    rw [goto_pc_self]
    cases hpc : s.pc i <;> rw [hpc] at htest <;> first | exact Nat.one_lt_two | cases htest
  | ioEnd hpc | suspendCpu _ hpc =>
    right
    rw [goto_pc_self, hpc]
    simp only [Pc.rank]
    omega
  | request hpc =>
    right
    rw [vmSuspend, goto_pc_self]
    rcases hpc with hpc | hpc <;> rw [hpc] <;> simp only [Pc.rank] <;> omega
  | @suspendEnd how' inIo k hpc =>
    right
    rw [goto_pc_self, hpc]
    cases inIo <;> simp only [Pc.rank, if_true, if_false, Bool.false_eq_true] <;> omega
  | arrive hpc =>
    left
    cases h.kind.pc how h.reason i .reset (by rw [hpc]; rfl)
    exact update_self ..
  | delete hpc =>
    left
    cases h.kind.pc how h.reason i .poweroff (by rw [hpc]; rfl)
    exact update_self ..
  | deleteUnknown _ hmask => exact absurd (h.arrived_of_deleted ((ho.mask i).mp hmask)) hwait
  | pass hpc hi =>
    subst hi
    exact absurd (h.arrived_of_counted (ho.bsp (phase_of_pc hpc))) hwait
  | devices hpc | resetVcpu _ hpc | resetEnd hpc =>
    exact absurd (h.arrived_of_early (phase_of_pc hpc)) hwait
  | resumeCpu _ hpc | resumeEnd hpc | release hpc => exact absurd (phase_of_pc hpc) (h.not_late i)
  | exit hpc => exact absurd (h.arrived_of_deleted (.inl (phase_of_pc hpc))) hwait

lemma Pending.runnable (hwait : ¬ Arrived how i s) (hres : n ≤ s.resumed)
    (hkick : s.pc i = .guest → s.immediateExit i = true) (hfree : ¬ Stranded s i) : Runnable s i := by
  have ho := h.inv.ordered
  have hsome : s.suspendReason ≠ none := by
    rw [h.reason]
    exact Option.some_ne_none how
  have hout : s.resetCpus i = false := Bool.eq_false_iff.mpr fun hi => hwait (h.arrived_of_counted hi)
  have hlt : i < s.resumed := lt_of_lt_of_le i.isLt hres
  refine ⟨hkick, ?_⟩
  simp only [next, h.running, if_true]
  cases hpc : s.pc i with
  | waitActive =>
    have hactive : s.activeCpus i = true := by
      refine Bool.eq_true_of_not_eq_false fun hoff => hfree ?_
      exact ⟨.inl hpc, hoff, hsome, hlt⟩
    exact ⟨.go, by simp [vcpuNext, hpc, hactive]⟩
  | entering | armed | exited | ioDone | handleIo => exact ⟨.go, by simp [vcpuNext, hpc]⟩
  | guest => exact ⟨.exit .interrupted, by simp [vcpuNext, hpc]⟩
  | systemEvent how' => exact ⟨.request how', by simp [vcpuNext, hpc]⟩
  | suspendCpus how' k =>
    by_cases hk : k < n
    · exact ⟨.go, by simp [vcpuNext, hpc, hk]⟩
    · exact ⟨.go, by simp [vcpuNext, hpc, hk]⟩
  | suspended how' => cases how' <;> exact ⟨.go, by simp [vcpuNext, hpc]⟩
  | barrier =>
    have hi : i ≠ 0 := by
      rintro rfl
      rw [ho.bsp (phase_of_pc hpc)] at hout
      cases hout
    exact ⟨.go, by simp [vcpuNext, hpc, hi, hout]⟩
  | resetDevices | resetVcpus => exact absurd (h.arrived_of_early (phase_of_pc hpc)) hwait
  | resumeCpus | release => exact absurd (phase_of_pc hpc) (h.not_late i)
  | deleteWait => exact absurd (h.arrived_of_deleted (.inl (phase_of_pc hpc))) hwait
  | gone => exact absurd (h.arrived_of_deleted (.inr (phase_of_pc hpc))) hwait

end

def Full (s : State n) : Prop := ∀ j, s.resetCpus j = true

def Pc.roundRank (n : Nat) : Pc → Nat
  | .barrier => 2 * n + 6
  | .resetDevices => 2 * n + 5
  | .resetVcpus k => n - k + n + 4
  | .resumeCpus k => n - k + 3
  | .release => 1
  | _ => 0

omit [NeZero n] in
lemma seenCount_of_full (h : Full s) (hexp : s.resetExpected = n) : vmexitResetSeenCount s = n := by
  unfold vmexitResetSeenCount
  rw [List.countP_eq_length.mpr, List.length_finRange]
  intro i _
  rw [hexp, h i, decide_eq_true i.isLt]
  rfl

lemma Full.move (h : Full s) (ho : Ordered s) (hm : Move s i c t) :
    i = 0 ∧ (s.rounds < t.rounds ∨ (Full t ∧ t.rounds = s.rounds ∧
      (t.pc 0).roundRank n < (s.pc 0).roundRank n)) := by
  have hin := ho.counted i (h i)
  have hearly : s.phase i = .early → i = 0 := fun hp => (ho.early i hp).1
  have hlate : s.phase i = .late → i = 0 := fun hp => (ho.late i hp).1
  have hout : s.phase i = .free ∨ s.phase i = .stopping ∨ s.phase i = .deleteWait → False := by
    intro hp
    rcases hp with hp | hp | hp <;> simp [hp] at hin
  cases hm with
  | pass hpc hi =>
    subst hi
    refine ⟨rfl, .inr ⟨h, rfl, ?_⟩⟩
    rw [goto_pc_self, hpc]
    exact Nat.lt_succ_self _
  | devices hpc | resetVcpu _ hpc | resetEnd hpc =>
    cases hearly (phase_of_pc hpc)
    refine ⟨rfl, .inr ⟨h, rfl, ?_⟩⟩
    rw [goto_pc_self, hpc]
    simp only [Pc.roundRank]
    omega
  | resumeCpu _ hpc | resumeEnd hpc =>
    cases hlate (phase_of_pc hpc)
    refine ⟨rfl, .inr ⟨h, rfl, ?_⟩⟩
    rw [goto_pc_self, hpc]
    simp only [Pc.roundRank]
    omega
  | release hpc => exact ⟨hlate (phase_of_pc hpc), .inl (Nat.lt_succ_self _)⟩
  | leaveBarrier _ _ hoff =>
    rw [h i] at hoff
    cases hoff
  | stop htest => exact (hout (.inl (phase_of_testsReason htest))).elim
  | request hpc => rcases hpc with hpc | hpc <;> exact (hout (.inl (phase_of_pc hpc))).elim
  | wake hpc | arm hpc | run hpc | leave hpc | dispatch hpc | ioEnd hpc | again hpc =>
    exact (hout (.inl (phase_of_pc hpc))).elim
  | suspendCpu _ hpc | suspendEnd hpc | arrive hpc | delete hpc | deleteUnknown hpc =>
    exact (hout (.inr (.inl (phase_of_pc hpc)))).elim
  | exit hpc => exact (hout (.inr (.inr (phase_of_pc hpc)))).elim

lemma Full.runnable (h : Full s) (ho : Ordered s) (hrun : s.exitStatus = none) : Runnable s 0 := by
  have hin := ho.counted 0 (h 0)
  have hseen := seenCount_of_full h (ho.expected 0 (h 0))
  have hexp := ho.expected 0 (h 0)
  constructor
  · intro hg
    have hfree : s.phase 0 = .free := phase_of_pc hg
    simp [hfree] at hin
  refine ⟨.go, ?_⟩
  unfold State.phase at hin
  simp only [next, hrun, if_true]
  cases hpc : s.pc 0 with
  | barrier => simp [vcpuNext, hpc, hseen, hexp]
  | resetDevices | release => simp [vcpuNext, hpc]
  | resetVcpus k | resumeCpus k => by_cases hk : k < n <;> simp [vcpuNext, hpc, hk]
  | _ => simp [hpc, Pc.phase] at hin

lemma Move.counted_or_round (hm : Move s i c t) (h : s.resetCpus j = true) :
    t.resetCpus j = true ∨ s.rounds < t.rounds := by
  cases hm with
  | arrive =>
    left
    change update s.resetCpus i true j = true
    rw [update_apply, h, ite_self]
  | release => exact .inr (Nat.lt_succ_self _)
  | _ => exact .inl h

lemma Move.cpumask_false (hm : Move s i c t) (h : s.cpumask j = false) : t.cpumask j = false := by
  cases hm with
  | delete =>
    change update s.cpumask i false j = false
    rw [update_apply, h, ite_self]
  | _ => exact h

lemma Move.rounds_le (hm : Move s i c t) : s.rounds ≤ t.rounds := by
  rcases hm.rounds with heq | ⟨-, rfl⟩
  · exact le_of_eq heq.symm
  · exact Nat.le_succ _

variable {l : Label n}

lemma rounds_le_step (hs : Step s l t) : s.rounds ≤ t.rounds := by
  rcases step_cases hs with ⟨-, rfl⟩ | ⟨-, -, hlt, rfl⟩ | ⟨-, i, c, -, hm⟩
  · exact le_refl _
  · exact le_refl _
  · exact hm.rounds_le

lemma counted_or_round_step (hs : Step s l t) (h : s.resetCpus j = true) :
    t.resetCpus j = true ∨ s.rounds < t.rounds := by
  rcases step_cases hs with ⟨-, rfl⟩ | ⟨-, -, hlt, rfl⟩ | ⟨-, i, c, -, hm⟩
  · exact .inl h
  · exact .inl h
  · exact hm.counted_or_round h

def ExitedClean (s : State n) : Prop :=
  s.exitStatus = none ∨ (s.exitStatus = some 0 ∧ ∀ j, s.cpumask j = false)

lemma ExitedClean.step (h : ExitedClean s) (hinv : Inv s) (hstep : Step s l t) : ExitedClean t := by
  rcases step_cases hstep with ⟨-, rfl⟩ | ⟨hrun, -, hlt, rfl⟩ | ⟨hrun, i, c, -, hm⟩
  · exact h
  · exact .inl hrun
  rcases hm.exitStatus hinv.ordered with heq | ⟨-, hmask, hzero⟩
  · exact .inl (heq.trans hrun)
  · exact .inr ⟨hzero, fun j => hm.cpumask_false (hmask j)⟩

lemma Full.running (h : Full s) (ho : Ordered s) (he : ExitedClean s) : s.exitStatus = none := by
  rcases he with hrun | ⟨-, hmask⟩
  · exact hrun
  have hd := (ho.mask 0).mp (hmask 0)
  have hin := ho.counted 0 (h 0)
  rcases hd with hd | hd <;> simp [hd] at hin

lemma deleted_move (ho : Ordered s) (hmask : ∀ j, s.cpumask j = false) (hm : Move s i c t) :
    i = 0 ∧ t.exitStatus = some 0 := by
  have hd := (ho.mask i).mp (hmask i)
  cases hm with
  | exit hpc => exact ⟨ho.deleteWait i (phase_of_pc hpc), rfl⟩
  | stop htest => simp [State.phase, phase_of_testsReason htest] at hd
  | request hpc => rcases hpc with hpc | hpc <;> simp [State.phase, hpc, Pc.phase] at hd
  | wake hpc | arm hpc | run hpc | leave hpc | dispatch hpc | ioEnd hpc | again hpc
  | suspendCpu _ hpc | suspendEnd hpc | arrive hpc | delete hpc | deleteUnknown hpc | pass hpc
  | leaveBarrier hpc | devices hpc | resetVcpu _ hpc | resetEnd hpc | resumeCpu _ hpc
  | resumeEnd hpc | release hpc => simp [State.phase, hpc, Pc.phase] at hd

lemma deleted_runnable (ho : Ordered s) (hmask : ∀ j, s.cpumask j = false)
    (hrun : s.exitStatus = none) : Runnable s 0 := by
  have hpc : s.pc 0 = .deleteWait := by
    have hd := ((ho.mask 0).mp (hmask 0)).resolve_right fun hg => ho.gone 0 hg rfl
    unfold State.phase at hd
    cases hpc : s.pc 0 <;> rw [hpc] at hd <;> first | rfl | cases hd
  refine ⟨fun hg => ?_, .go, by simp [next, hrun, vcpuNext, hpc, hmask]⟩
  rw [hpc] at hg
  cases hg

variable {b : Behaviour (Step (n := n))} {r m : Nat}

lemma Fair.acts (hfair : Fair b) {p q : State n → Prop} (i : Fin n)
    (run : ∀ k, p (b.state k) → Runnable (b.state k) i)
    (keep : ∀ k, p (b.state k) → ¬ ByVcpu i (b.label k) → p (b.state (k + 1)) ∨ q (b.state (k + 1)))
    (hm : p (b.state m)) : ∃ k, m ≤ k ∧ (ByVcpu i (b.label k) ∨ q (b.state k)) := by
  obtain ⟨k, hk, hgoal⟩ := b.acts (ByVcpu i)
    (fun hon => hfair.vcpu m i fun k hk => run k (hon k hk)) keep hm
  exact ⟨k, hk, hgoal.imp_left And.right⟩

variable {k : Nat}

lemma move_of_label (hl : b.label k = .vcpu i c) : Move (b.state k) i c (b.state (k + 1)) := by
  rcases step_cases (b.step k) with ⟨hl', -⟩ | ⟨-, hl', -⟩ | ⟨-, j, c', hl', hm⟩ <;>
    rw [hl] at hl' <;> cases hl'
  exact hm

lemma pc_of_not_by (hl : ¬ ByVcpu i (b.label k)) : (b.state (k + 1)).pc i = (b.state k).pc i := by
  rcases step_cases (b.step k) with ⟨-, heq⟩ | ⟨-, -, hlt, heq⟩ | ⟨-, j, c, hlabel, hm⟩
  · rw [heq]
  · rw [heq]
    rfl
  · refine hm.pc_other fun hij => hl ⟨c, ?_⟩
    rw [hlabel, hij]

lemma Move.immediateExit_of_ne (hm : Move s j c t) (hij : i ≠ j)
    (h : s.immediateExit i = true) : t.immediateExit i = true := by
  cases hm with
  | arm => exact (update_of_ne hij ..).trans h
  | suspendCpu k =>
    change update s.immediateExit k true i = true
    rw [update_apply, h, ite_self]
  | _ => exact h

lemma immediateExit_of_not_by (hl : ¬ ByVcpu i (b.label k))
    (h : (b.state k).immediateExit i = true) : (b.state (k + 1)).immediateExit i = true := by
  rcases step_cases (b.step k) with ⟨-, heq⟩ | ⟨-, -, hlt, heq⟩ | ⟨-, j, c, hlabel, hm⟩
  · rw [heq]
    exact h
  · rw [heq]
    exact h
  · refine hm.immediateExit_of_ne (fun hij => hl ⟨c, ?_⟩) h
    rw [hlabel, hij]

lemma Pending.activateNext (h : Pending how r s) (hlt : s.resumed < n) :
    Pending how r (activateNext s hlt) where
  inv := h.inv.activateNext hlt
  kind := ⟨h.kind.pc, h.kind.counted⟩
  reason := h.reason
  running := h.running
  rounds := h.rounds

lemma Pending.next (huni : Uniform b) (h : Pending how r (b.state k))
    (hwait : ¬ Arrived how j (b.state k)) : Pending how r (b.state (k + 1)) := by
  rcases step_cases (b.step k) with ⟨-, heq⟩ | ⟨-, -, hlt, heq⟩ | ⟨-, i, c, hlabel, hm⟩
  · rw [heq]
    exact h
  · rw [heq]
    exact h.activateNext hlt
  · refine h.move hm hwait fun how' hc => ?_
    exact huni k i how' (by rw [hlabel, hc])

/-- A request that some vCPU has yet to come to, all vCPUs having been resumed at boot. -/
def Awaited (how : SuspendHow) (r : Nat) (i : Fin n) (s : State n) : Prop :=
  Pending how r s ∧ n ≤ s.resumed ∧ ¬ Arrived how i s

lemma Awaited.next (huni : Uniform b) (h : Awaited how r i (b.state k)) :
    Awaited how r i (b.state (k + 1)) ∨ Arrived how i (b.state (k + 1)) := by
  obtain ⟨hp, hres, hwait⟩ := h
  by_cases harr : Arrived how i (b.state (k + 1))
  · exact .inr harr
  refine .inl ⟨hp.next huni hwait, ?_, harr⟩
  rcases step_cases (b.step k) with ⟨-, heq⟩ | ⟨-, -, hlt, -⟩ | ⟨-, i, c, -, hm⟩
  · rw [heq]
    exact hres
  · exact absurd hlt (not_lt.mpr hres)
  · exact le_trans hres (le_of_eq hm.resumed.symm)

variable {inIo : Bool}

lemma runnable_suspendCpus
    (hrun : s.exitStatus = none) (hpc : s.pc j = .suspendCpus how' k inIo) : Runnable s j := by
  refine ⟨fun hg => ?_, .go, ?_⟩
  · rw [hpc] at hg
    cases hg
  · by_cases hk : k < n <;> simp [next, hrun, vcpuNext, hpc, hk]

lemma Move.kicks (hm : Move s j c t) (hpc : s.pc j = .suspendCpus how' k inIo) (hk : k ≤ i) :
    t.immediateExit i = true ∨ (t.pc j = .suspendCpus how' (k + 1) inIo ∧ k + 1 ≤ i) := by
  cases hm with
  | suspendCpu k' hpc' =>
    rw [hpc] at hpc'
    cases hpc'
    rcases Nat.eq_or_lt_of_le hk with heq | hlt
    · left
      rw [← Fin.ext heq]
      exact update_self ..
    · exact .inr ⟨update_self .., hlt⟩
  | suspendEnd hpc' hn =>
    rw [hpc] at hpc'
    cases hpc'
    exact absurd i.isLt (not_lt.mpr (le_trans hn hk))
  | stop htest =>
    rw [hpc] at htest
    cases htest
  | request hpc' => rcases hpc' with h' | h' <;> rw [hpc] at h' <;> cases h'
  | _ => simp_all

variable (hfair : Fair b) (huni : Uniform b)
include hfair huni

lemma eventually_kicked (h : Awaited how r i (b.state m)) :
    ∃ k, m ≤ k ∧ ((Awaited how r i (b.state k) ∧
      ((b.state k).pc i = .guest → (b.state k).immediateExit i = true)) ∨
      Arrived how i (b.state k)) := by
  by_cases hkick : (b.state m).pc i = .guest → (b.state m).immediateExit i = true
  · exact ⟨m, le_refl m, .inl ⟨h, hkick⟩⟩
  obtain ⟨hguest, hnot⟩ := Classical.not_imp.mp hkick
  have hsome : (b.state m).suspendReason ≠ none := by
    rw [h.1.reason]
    exact Option.some_ne_none how
  obtain ⟨j, how', k₀, inIo, hj, hk₀⟩ := (h.1.inv.kicked i hguest hsome).resolve_left hnot
  let p (s : State n) : Prop := Awaited how r i s ∧ ∃ k, s.pc j = .suspendCpus how' k inIo ∧ k ≤ i
  let q (s : State n) : Prop := (Awaited how r i s ∧
    (s.pc i = .guest → s.immediateExit i = true)) ∨ Arrived how i s
  have hother : ∀ k, p (b.state k) → ¬ ByVcpu j (b.label k) →
      p (b.state (k + 1)) ∨ q (b.state (k + 1)) := by
    rintro k ⟨haw, k', hpc, hk'⟩ hl
    rcases haw.next huni with haw' | harr
    · exact .inl ⟨haw', k', (pc_of_not_by hl).trans hpc, hk'⟩
    · exact .inr (.inr harr)
  refine b.leads_to_rank (p := p) (q := q) (fun s => (s.pc j).rank n) (ByVcpu j) ?_ ?_ ⟨h, k₀, hj, hk₀⟩
  · intro k hp
    refine hfair.acts j ?_ hother hp
    rintro k ⟨haw, k', hpc, -⟩
    exact runnable_suspendCpus haw.1.running hpc
  · intro k hp
    by_cases hl : ByVcpu j (b.label k)
    · obtain ⟨c, hc⟩ := hl
      obtain ⟨haw, k', hpc, hk'⟩ := hp
      have hm := move_of_label hc
      rcases haw.next huni with haw' | harr
      · rcases hm.kicks hpc hk' with himm | ⟨hpc', hlt⟩
        · exact .inl (.inl ⟨haw', fun _ => himm⟩)
        have hless : ((b.state (k + 1)).pc j).rank n < ((b.state k).pc j).rank n := by
          rw [hpc, hpc']
          simp only [Pc.rank]
          omega
        exact .inr ⟨⟨haw', k' + 1, hpc', hlt⟩, le_of_lt hless, fun _ => hless⟩
      · exact .inl (.inr harr)
    · rcases hother k hp hl with hp' | hq
      · exact .inr ⟨hp', le_of_eq (by rw [pc_of_not_by hl]), fun hl' => absurd hl' hl⟩
      · exact .inl hq

lemma eventually_resumed (h : Pending how r (b.state m)) :
    ∃ k, m ≤ k ∧ Pending how r (b.state k) ∧ n ≤ (b.state k).resumed := by
  by_cases hres : n ≤ (b.state m).resumed
  · exact ⟨m, le_refl m, h, hres⟩
  let p (s : State n) : Prop := Pending how r s ∧ s.resumed < n
  let q (s : State n) : Prop := Pending how r s ∧ n ≤ s.resumed
  have hnext : ∀ k, p (b.state k) → Pending how r (b.state (k + 1)) := by
    rintro k ⟨hp, hlt⟩
    have hpc := (hp.inv.booted ⟨_, hlt⟩ (le_refl _)).1
    exact hp.next huni (hp.not_arrived hpc)
  have hkeep : ∀ k, p (b.state k) → p (b.state (k + 1)) ∨ q (b.state (k + 1)) := by
    intro k hp
    rcases Nat.lt_or_ge (b.state (k + 1)).resumed n with hlt | hge
    · exact .inl ⟨hnext k hp, hlt⟩
    · exact .inr ⟨hnext k hp, hge⟩
  refine b.leads_to_rank (p := p) (q := q) (fun s => n - s.resumed) (· = .main) ?_ ?_
    ⟨h, Nat.lt_of_not_le hres⟩
  · intro k hp
    by_contra hnever
    have hon : ∀ k', k ≤ k' → p (b.state k') := fun k' hk' =>
      b.goes_on hp hkeep (fun l hl hq => hnever ⟨l, hl, .inr hq⟩) hk'
    obtain ⟨l, hl, hmain⟩ := hfair.main k fun k' hk' => by
      obtain ⟨hp', hlt⟩ := hon k' hk'
      simp [next, hp'.running, mainNext, hlt]
    exact hnever ⟨l, hl, .inl hmain⟩
  · intro k hp
    rcases hkeep k hp with hp' | hq
    · refine .inr ⟨hp', ?_⟩
      rcases step_cases (b.step k) with ⟨hl, heq⟩ | ⟨-, hl, hlt', heq⟩ | ⟨-, i, c, hl, hm⟩
      · rw [heq, hl]
        exact ⟨le_refl _, fun hmain => by cases hmain⟩
      · have hsucc : (b.state (k + 1)).resumed = (b.state k).resumed + 1 := by
          rw [heq]
          rfl
        exact ⟨by omega, fun _ => by omega⟩
      · rw [hm.resumed, hl]
        exact ⟨le_refl _, fun hmain => by cases hmain⟩
    · exact .inl hq

variable (hfree : ∀ m j, ¬ Stranded (b.state m) j)
include hfree

lemma awaited_acts (h : Awaited how r i (b.state m)) :
    ∃ k, m ≤ k ∧ (ByVcpu i (b.label k) ∨ Arrived how i (b.state k)) := by
  obtain ⟨m', hle, hkicked | harr⟩ := eventually_kicked hfair huni h
  · let p (s : State n) : Prop := Awaited how r i s ∧ (s.pc i = .guest → s.immediateExit i = true)
    have hkeep : ∀ k, p (b.state k) → ¬ ByVcpu i (b.label k) →
        p (b.state (k + 1)) ∨ Arrived how i (b.state (k + 1)) := by
      intro k hp hl
      refine (hp.1.next huni).imp_left fun haw => ⟨haw, fun hg => ?_⟩
      rw [pc_of_not_by hl] at hg
      exact immediateExit_of_not_by hl (hp.2 hg)
    obtain ⟨k, hk, hgoal⟩ := hfair.acts (p := p) i
      (fun k hp => hp.1.1.runnable hp.1.2.2 hp.1.2.1 hp.2 (hfree k i)) hkeep hkicked
    exact ⟨k, le_trans hle hk, hgoal⟩
  · exact ⟨m', hle, .inr harr⟩

lemma eventually_arrived (h : Awaited how r i (b.state m)) : ∃ k, m ≤ k ∧ Arrived how i (b.state k) := by
  refine b.leads_to_rank (fun s => (s.pc i).rank n) (ByVcpu i)
    (fun k hp => awaited_acts hfair huni hfree hp) (fun k hp => ?_) h
  rcases hp.next huni with haw | harr
  · by_cases hl : ByVcpu i (b.label k)
    · obtain ⟨c, hc⟩ := hl
      rcases hp.1.rank (move_of_label hc) hp.2.2 with harr | hlt
      · exact .inl harr
      · exact .inr ⟨haw, le_of_lt hlt, fun _ => hlt⟩
    · exact .inr ⟨haw, le_of_eq (by rw [pc_of_not_by hl]), fun hl' => absurd hl' hl⟩
  · exact .inl harr

lemma all_arrived (h : Pending how r (b.state m)) (i : Fin n) : ∃ k, m ≤ k ∧ Arrived how i (b.state k) := by
  obtain ⟨k, hk, hp, hres⟩ := eventually_resumed hfair huni h
  by_cases harr : Arrived how i (b.state k)
  · exact ⟨k, hk, harr⟩
  · obtain ⟨k', hk', hgoal⟩ := eventually_arrived hfair huni hfree ⟨hp, hres, harr⟩
    exact ⟨k', le_trans hk hk', hgoal⟩

variable (hinv : ∀ m, Inv (b.state m)) (hexit : ∀ m, ExitedClean (b.state m))
include hinv hexit

lemma eventually_round (h : Pending .reset r (b.state m)) : ∃ k, m ≤ k ∧ r < (b.state k).rounds := by
  have hmono : ∀ k, m ≤ k → r ≤ (b.state k).rounds := fun k hk =>
    b.stable (p := fun s => r ≤ s.rounds) (fun _ _ _ hr hs => le_trans hr (rounds_le_step hs))
      (le_of_eq h.rounds.symm) hk
  let p (i : Nat) (s : State n) : Prop :=
    r ≤ s.rounds ∧ ((∃ hi : i < n, s.resetCpus ⟨i, hi⟩ = true) ∨ r < s.rounds)
  have hkeep : ∀ i s e t, p i s → Step s e t → p i t := by
    rintro i s e t ⟨hr, hcount⟩ hs
    have hle := rounds_le_step hs
    refine ⟨le_trans hr hle, ?_⟩
    rcases hcount with ⟨hi, hbit⟩ | hlt
    · rcases counted_or_round_step hs hbit with hbit' | hlt
      · exact .inl ⟨hi, hbit'⟩
      · exact .inr (lt_of_le_of_lt hr hlt)
    · exact .inr (lt_of_lt_of_le hlt hle)
  obtain ⟨M, hM, hall⟩ := b.eventually_all hkeep m n fun i hi => by
    obtain ⟨k, hk, harr⟩ := all_arrived hfair huni hfree h ⟨i, hi⟩
    exact ⟨k, hk, hmono k hk, .inl ⟨hi, harr⟩⟩
  by_cases hlt : r < (b.state M).rounds
  · exact ⟨M, hM, hlt⟩
  have hfull : Full (b.state M) := by
    intro j
    obtain ⟨_, hbit⟩ := (hall j j.isLt).2.resolve_right hlt
    exact hbit
  let q (s : State n) : Prop := Full s ∧ s.rounds = r
  have hnext : ∀ k, q (b.state k) → r < (b.state (k + 1)).rounds ∨ (q (b.state (k + 1)) ∧
      ((b.state (k + 1)).pc 0).roundRank n ≤ ((b.state k).pc 0).roundRank n ∧
      (ByVcpu 0 (b.label k) → ((b.state (k + 1)).pc 0).roundRank n < ((b.state k).pc 0).roundRank n)) := by
    rintro k ⟨hk, hr⟩
    rcases step_cases (b.step k) with ⟨hl, heq⟩ | ⟨-, hl, hlt', heq⟩ | ⟨-, i, c, hl, hm⟩
    · rw [heq, hl]
      exact .inr ⟨⟨hk, hr⟩, le_refl _, fun ⟨c, hc⟩ => by cases hc⟩
    · rw [heq, hl]
      exact .inr ⟨⟨hk, hr⟩, le_refl _, fun ⟨c, hc⟩ => by cases hc⟩
    · obtain ⟨-, hround | ⟨hk', hr', hless⟩⟩ := hk.move (hinv k).ordered hm
      · exact .inl (hr ▸ hround)
      · exact .inr ⟨⟨hk', hr'.trans hr⟩, le_of_lt hless, fun _ => hless⟩
  obtain ⟨k, hk, hgoal⟩ := b.leads_to_rank (p := q) (q := fun s => r < s.rounds)
    (fun s => (s.pc 0).roundRank n) (ByVcpu 0)
    (fun k hq => hfair.acts (p := q) (q := fun s => r < s.rounds) 0
      (fun k hq => hq.1.runnable (hinv k).ordered (hq.1.running (hinv k).ordered (hexit k)))
      (fun k hq _ => (hnext k hq).symm.imp_left And.left) hq)
    hnext ⟨hfull, le_antisymm (Nat.le_of_not_lt hlt) (hmono M hM)⟩
  exact ⟨k, le_trans hM hk, hgoal⟩

lemma eventually_exit (h : Pending .poweroff r (b.state m)) :
    ∃ k, m ≤ k ∧ (b.state k).exitStatus = some 0 := by
  let p (i : Nat) (s : State n) : Prop := ∀ hi : i < n, s.cpumask ⟨i, hi⟩ = false
  have hkeep : ∀ i s e t, p i s → Step s e t → p i t := by
    intro i s e t hp hs hi
    rcases step_cases hs with ⟨-, rfl⟩ | ⟨-, -, hlt, rfl⟩ | ⟨-, i', c, -, hm⟩
    · exact hp hi
    · exact hp hi
    · exact hm.cpumask_false (hp hi)
  obtain ⟨M, hM, hall⟩ := b.eventually_all hkeep m n fun i hi => by
    obtain ⟨k, hk, harr⟩ := all_arrived hfair huni hfree h ⟨i, hi⟩
    exact ⟨k, hk, fun _ => harr⟩
  have hmask : ∀ j, (b.state M).cpumask j = false := fun j => hall j j.isLt j.isLt
  let q (s : State n) : Prop := s.exitStatus = none ∧ ∀ j, s.cpumask j = false
  have hnext : ∀ k, q (b.state k) →
      (q (b.state (k + 1)) ∧ ¬ ByVcpu 0 (b.label k)) ∨ (b.state (k + 1)).exitStatus = some 0 := by
    rintro k ⟨hrun, hk⟩
    rcases step_cases (b.step k) with ⟨hl, heq⟩ | ⟨-, hl, hlt', heq⟩ | ⟨-, i, c, hl, hm⟩
    · rw [heq, hl]
      exact .inl ⟨⟨hrun, hk⟩, fun ⟨c, hc⟩ => by cases hc⟩
    · rw [heq, hl]
      exact .inl ⟨⟨hrun, hk⟩, fun ⟨c, hc⟩ => by cases hc⟩
    · exact .inr (deleted_move (hinv k).ordered hk hm).2
  rcases hexit M with hrun | ⟨hzero, -⟩
  · obtain ⟨k, hk, hl⟩ := hfair.acts (p := q) (q := fun s => s.exitStatus = some 0) 0
      (fun k hq => deleted_runnable (hinv k).ordered hq.2 hq.1)
      (fun k hq _ => (hnext k hq).imp_left And.left) ⟨hrun, hmask⟩
    rcases hl with hl | hzero
    · obtain ⟨k', hk', hgoal⟩ := b.leads_to (p := q) (q := fun s => s.exitStatus = some 0)
        (ByVcpu 0) ⟨hrun, hmask⟩ hk hl (fun k hq => (hnext k hq).imp_left And.left)
        (fun k hq hl => (hnext k hq).resolve_left fun h => h.2 hl)
      exact ⟨k', le_trans hM hk', hgoal⟩
    · exact ⟨k, le_trans hM hk, hzero⟩
  · exact ⟨M, hM, hzero⟩

end ScorpiHv.X86

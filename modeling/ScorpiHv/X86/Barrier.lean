import ScorpiHv.X86.Reset

/-!
# The reset barrier

A vCPU counted in the barrier stays there until the boot CPU has reset the
machine.
-/

namespace ScorpiHv.X86
open Function

variable {n : Nat} [NeZero n]

/-- The places where `vm_run` tests `suspend_reason`. -/
def Pc.testsReason : Pc → Bool
  | .entering | .armed | .exited _ | .ioDone => true
  | _ => false

inductive Move (s : State n) (i : Fin n) : Choice → State n → Prop
  | wake : s.pc i = .waitActive → s.activeCpus i = true → Move s i .go (s.goto i .entering)
  | stop {how : SuspendHow} : (s.pc i).testsReason = true → s.suspendReason = some how →
      Move s i .go (s.goto i (.suspended how))
  | arm : s.pc i = .entering → s.suspendReason = none →
      Move s i .go
        (({ s with immediateExit := update s.immediateExit i false } : State n).goto i
          .armed)
  | run : s.pc i = .armed → s.suspendReason = none → Move s i .go (s.goto i .guest)
  | leave {e : KvmExit} : s.pc i = .guest → Move s i (.exit e) (s.goto i (.exited e))
  | dispatch {e : KvmExit} : s.pc i = .exited e → s.suspendReason = none →
      Move s i .go (s.goto i e.handler)
  | ioEnd : s.pc i = .handleIo → Move s i .go (s.goto i .ioDone)
  | again : s.pc i = .ioDone → s.suspendReason = none → Move s i .go (s.goto i .entering)
  | request {how : SuspendHow} {inIo : Bool} : s.pc i = .handleIo ∨ s.pc i = .systemEvent how →
      Move s i (.request how) (vmSuspend s i how inIo)
  | suspendCpu {how : SuspendHow} {inIo : Bool} (k : Fin n) : s.pc i = .suspendCpus how k inIo →
      Move s i .go ((vmSuspendCpu s k).goto i (.suspendCpus how (k + 1) inIo))
  | suspendEnd {how : SuspendHow} {inIo : Bool} {k : Nat} : s.pc i = .suspendCpus how k inIo →
      n ≤ k → Move s i .go (s.goto i (if inIo then .ioDone else .suspended how))
  | arrive : s.pc i = .suspended .reset → Move s i .go (vmexitResetBarrier s i)
  | delete : s.pc i = .suspended .poweroff → s.cpumask i = true →
      Move s i .go
        (({ s with cpumask := update s.cpumask i false } : State n).goto i
          (if i = 0 then .deleteWait else .gone))
  | deleteUnknown : s.pc i = .suspended .poweroff → s.cpumask i = false →
      Move s i .go { s with exitStatus := some 4 }
  | pass : s.pc i = .barrier → i = 0 → s.resetExpected ≤ vmexitResetSeenCount s →
      Move s i .go (s.goto i .resetDevices)
  | leaveBarrier : s.pc i = .barrier → i ≠ 0 → s.resetCpus i = false →
      Move s i .go (s.goto i .waitActive)
  | devices : s.pc i = .resetDevices →
      Move s i .go
        (({ s with deviceResets := s.deviceResets + 1 } : State n).goto i (.resetVcpus 0))
  | resetVcpu (k : Fin n) : s.pc i = .resetVcpus k →
      Move s i .go
        (({ s with vcpuResets := update s.vcpuResets k (s.vcpuResets k + 1) } :
          State n).goto i (.resetVcpus (k + 1)))
  | resetEnd {k : Nat} : s.pc i = .resetVcpus k → n ≤ k →
      Move s i .go (({ s with suspendReason := none } : State n).goto i (.resumeCpus 0))
  | resumeCpu (k : Fin n) : s.pc i = .resumeCpus k →
      Move s i .go ((vmActivateCpu s k).goto i (.resumeCpus (k + 1)))
  | resumeEnd {k : Nat} : s.pc i = .resumeCpus k → n ≤ k → Move s i .go (s.goto i .release)
  | release : s.pc i = .release → Move s i .go (vmexitResetRelease s i)
  | exit : s.pc i = .deleteWait → (∀ j, s.cpumask j = false) →
      Move s i .go { s with exitStatus := some 0 }

variable {s t : State n}

lemma unlessSuspended_move {i : Fin n} (hpc : (s.pc i).testsReason = true)
    (hmove : s.suspendReason = none → Move s i .go t) : Move s i .go (s.unlessSuspended i t) := by
  unfold State.unlessSuspended
  cases hreason : s.suspendReason with
  | some => exact .stop hpc hreason
  | none => exact hmove hreason

lemma vcpuNext_move {i : Fin n} {c : Choice} (h : vcpuNext s i c = some t) : Move s i c t := by
  unfold vcpuNext at h
  split at h
  case h_1 hpc =>
    split at h
    · cases h; exact .wake hpc ‹_›
    · cases h
  case h_2 hpc => cases h; exact unlessSuspended_move (by rw [hpc]; rfl) (.arm hpc)
  case h_3 hpc => cases h; exact unlessSuspended_move (by rw [hpc]; rfl) (.run hpc)
  case h_4 hpc => cases h; exact .leave hpc
  case h_5 hpc => cases h; exact unlessSuspended_move (by rw [hpc]; rfl) (.dispatch hpc)
  case h_6 hpc => cases h; exact .ioEnd hpc
  case h_7 hpc => cases h; exact .request (.inl hpc)
  case h_8 hpc => cases h; exact unlessSuspended_move (by rw [hpc]; rfl) (.again hpc)
  case h_9 hpc =>
    split at h
    · next heq => cases h; exact .request (.inr (heq ▸ hpc))
    · cases h
  case h_10 hpc =>
    split at h
    · next hk => cases h; exact .suspendCpu ⟨_, hk⟩ hpc
    · next hk => cases h; exact .suspendEnd hpc (Nat.le_of_not_lt hk)
  case h_11 hpc => cases h; exact .arrive hpc
  case h_12 hpc =>
    cases h
    unfold fbsdrunDeletecpu
    split
    · exact .delete hpc ‹_›
    · exact .deleteUnknown hpc (eq_false_of_ne_true ‹_›)
  case h_13 hpc =>
    split at h
    · next hi =>
      split at h
      · cases h; exact .pass hpc hi ‹_›
      · cases h
    · next hi =>
      split at h
      · cases h
      · cases h; exact .leaveBarrier hpc hi (eq_false_of_ne_true ‹_›)
  case h_14 hpc => cases h; exact .devices hpc
  case h_15 hpc =>
    split at h
    · next hk => cases h; exact .resetVcpu ⟨_, hk⟩ hpc
    · next hk => cases h; exact .resetEnd hpc (Nat.le_of_not_lt hk)
  case h_16 hpc =>
    split at h
    · next hk => cases h; exact .resumeCpu ⟨_, hk⟩ hpc
    · next hk => cases h; exact .resumeEnd hpc (Nat.le_of_not_lt hk)
  case h_17 hpc => cases h; exact .release hpc
  case h_18 hpc =>
    split at h
    · cases h; exact .exit hpc ‹_›
    · cases h
  case h_19 => cases h

/-- Until `suspend_reason` is cleared a round is early, then it is late. -/
inductive Phase
  | free
  | stopping
  | barrier
  | early
  | late
  | deleteWait
  | gone
  deriving DecidableEq

def Pc.phase : Pc → Phase
  | .suspendCpus _ _ _ | .suspended _ => .stopping
  | .barrier => .barrier
  | .resetDevices | .resetVcpus _ => .early
  | .resumeCpus _ | .release => .late
  | .deleteWait => .deleteWait
  | .gone => .gone
  | _ => .free

def State.phase (s : State n) (i : Fin n) : Phase := (s.pc i).phase

omit [NeZero n] in
lemma goto_pc_self (s : State n) (i : Fin n) (p : Pc) : (s.goto i p).pc i = p := by
  change update s.pc i p i = p
  rw [update_self]

omit [NeZero n] in
lemma phase_goto (s : State n) (i j : Fin n) (p : Pc) :
    (s.goto i p).phase j = if j = i then p.phase else s.phase j := by
  change (update s.pc i p j).phase = _
  rw [update_apply]
  split <;> rfl

variable {p : Pc}

omit [NeZero n] in
lemma phase_of_pc {i : Fin n} (h : s.pc i = p) : s.phase i = p.phase := by rw [State.phase, h]

lemma phase_of_testsReason (h : p.testsReason = true) : p.phase = .free := by
  cases p <;> first | rfl | cases h

lemma phase_handler (e : KvmExit) : e.handler.phase = .free := by cases e <;> rfl

structure Ordered (s : State n) : Prop where
  counted : ∀ i, s.resetCpus i = true →
    s.phase i = .barrier ∨ s.phase i = .early ∨ s.phase i = .late
  early : ∀ i, s.phase i = .early → i = 0 ∧ s.suspendReason ≠ none ∧ ∀ j, s.resetCpus j = true
  late : ∀ i, s.phase i = .late → i = 0 ∧ s.suspendReason = none ∧ ∀ j, s.resetCpus j = true
  expected : ∀ i, s.resetCpus i = true → s.resetExpected = n
  bsp : s.phase 0 = .barrier → s.resetCpus 0 = true
  deleteWait : ∀ i, s.phase i = .deleteWait → i = 0
  gone : ∀ i, s.phase i = .gone → i ≠ 0
  mask : ∀ i, s.cpumask i = false ↔ s.phase i = .deleteWait ∨ s.phase i = .gone
  quiet : s.suspendReason = none → ∀ i, s.phase i ≠ .stopping ∧ s.phase i ≠ .deleteWait ∧
    s.phase i ≠ .gone ∧ (s.resetCpus i = true → s.phase 0 = .late)

structure SameWords (s t : State n) : Prop where
  resetCpus : t.resetCpus = s.resetCpus
  resetExpected : t.resetExpected = s.resetExpected
  cpumask : t.cpumask = s.cpumask
  suspendReason : t.suspendReason = s.suspendReason

/-- The phase of `i` is now `p`, the other phases are as before. -/
def Enters (s t : State n) (i : Fin n) (p : Phase) : Prop :=
  ∀ j, t.phase j = if j = i then p else s.phase j

omit [NeZero n] in
lemma enters_goto (s : State n) (i : Fin n) (p : Pc) : Enters s (s.goto i p) i p.phase :=
  fun j => phase_goto s i j p

omit [NeZero n] in
lemma seenCount_full (hexp : s.resetExpected = n)
    (h : s.resetExpected ≤ vmexitResetSeenCount s) (i : Fin n) : s.resetCpus i = true := by
  have hle : vmexitResetSeenCount s ≤ (List.finRange n).length := List.countP_le_length
  have heq : vmexitResetSeenCount s = (List.finRange n).length := by
    rw [List.length_finRange] at hle ⊢
    omega
  have hall := List.countP_eq_length.mp heq i (List.mem_finRange i)
  exact (Bool.and_eq_true_iff.mp hall).2

section
variable {s t : State n} {i : Fin n}

lemma Ordered.same (h : Ordered s) {p : Phase} (hphase : s.phase i = p)
    (ht : Enters s t i p) (hw : SameWords s t) : Ordered t := by
  have heq : ∀ j, t.phase j = s.phase j := by
    intro j
    rw [ht j]
    split
    · next hj => rw [hj, hphase]
    · rfl
  obtain ⟨hcpus, hexp, hmask, hreason⟩ := hw
  constructor <;> simp only [heq, hcpus, hexp, hmask, hreason]
  exacts [h.counted, h.early, h.late, h.expected, h.bsp, h.deleteWait, h.gone, h.mask, h.quiet]

lemma Ordered.stop (h : Ordered s) (hfree : s.phase i = .free) (ht : Enters s t i .stopping)
    (hcpus : t.resetCpus = s.resetCpus) (hexp : t.resetExpected = s.resetExpected)
    (hmask : t.cpumask = s.cpumask) (hreason : t.suspendReason ≠ none) : Ordered t := by
  unfold Enters at ht
  constructor <;> simp only [ht, hcpus, hexp, hmask] <;> grind -ring -linarith [Ordered]

lemma Ordered.resume (h : Ordered s) (hstop : s.phase i = .stopping) (ht : Enters s t i .free)
    (hw : SameWords s t) : Ordered t := by
  unfold Enters at ht
  obtain ⟨hcpus, hexp, hmask, hreason⟩ := hw
  constructor <;> simp only [ht, hcpus, hexp, hmask, hreason] <;> grind -ring -linarith [Ordered]

lemma Ordered.arrive (h : Ordered s) (hstop : s.phase i = .stopping) (ht : Enters s t i .barrier)
    (hcpus : t.resetCpus = update s.resetCpus i true)
    (hexp : t.resetExpected = if ∀ j, s.resetCpus j = false then n else s.resetExpected)
    (hmask : t.cpumask = s.cpumask) (hreason : t.suspendReason = s.suspendReason) : Ordered t := by
  unfold Enters at ht
  have hfull : t.resetExpected = n := by
    rw [hexp]
    split
    · rfl
    next hsome =>
    obtain ⟨j, hj⟩ := not_forall.mp hsome
    exact h.expected j (Bool.eq_true_of_not_eq_false hj)
  constructor <;> simp only [ht, hcpus, hfull, hmask, hreason] <;> grind -ring -linarith [Ordered]

lemma Ordered.pass (h : Ordered s) (hpc : s.phase 0 = .barrier)
    (hseen : s.resetExpected ≤ vmexitResetSeenCount s) (ht : Enters s t 0 .early)
    (hw : SameWords s t) : Ordered t := by
  unfold Enters at ht
  obtain ⟨hcpus, hexp, hmask, hreason⟩ := hw
  have hall := seenCount_full (h.expected 0 (h.bsp hpc)) hseen
  constructor <;> simp only [ht, hcpus, hexp, hmask, hreason] <;> grind -ring -linarith [Ordered]

lemma Ordered.leaveBarrier (h : Ordered s) (hpc : s.phase i = .barrier) (hi : i ≠ 0)
    (hout : s.resetCpus i = false) (ht : Enters s t i .free) (hw : SameWords s t) : Ordered t := by
  unfold Enters at ht
  obtain ⟨hcpus, hexp, hmask, hreason⟩ := hw
  constructor <;> simp only [ht, hcpus, hexp, hmask, hreason] <;> grind -ring -linarith [Ordered]

lemma Ordered.clear (h : Ordered s) (hpc : s.phase i = .early) (ht : Enters s t i .late)
    (hcpus : t.resetCpus = s.resetCpus) (hexp : t.resetExpected = s.resetExpected)
    (hmask : t.cpumask = s.cpumask) (hreason : t.suspendReason = none) : Ordered t := by
  unfold Enters at ht
  constructor <;> simp only [ht, hcpus, hexp, hmask, hreason] <;> grind -ring -linarith [Ordered]

lemma Ordered.release (h : Ordered s) (hpc : s.phase i = .late) (ht : Enters s t i .free)
    (hcpus : t.resetCpus = fun _ => false) (hmask : t.cpumask = s.cpumask)
    (hreason : t.suspendReason = s.suspendReason) : Ordered t := by
  unfold Enters at ht
  constructor <;> simp only [ht, hcpus, hmask, hreason] <;> grind -ring -linarith [Ordered]

lemma Ordered.delete (h : Ordered s) (hstop : s.phase i = .stopping)
    (ht : Enters s t i (if i = 0 then .deleteWait else .gone)) (hcpus : t.resetCpus = s.resetCpus)
    (hexp : t.resetExpected = s.resetExpected) (hmask : t.cpumask = update s.cpumask i false)
    (hreason : t.suspendReason = s.suspendReason) : Ordered t := by
  unfold Enters at ht
  constructor <;> simp only [ht, hcpus, hexp, hmask, hreason] <;> grind -ring -linarith [Ordered]

variable {c : Choice}

lemma Ordered.move (h : Ordered s) (hm : Move s i c t) : Ordered t := by
  have hsame : ∀ {p : Phase}, s.phase i = p → Enters s t i p → SameWords s t → Ordered t :=
    fun hphase ht hw => h.same hphase ht hw
  cases hm with
  | stop htest hreason =>
    refine h.stop (phase_of_testsReason htest) (enters_goto s i _) rfl rfl rfl ?_
    exact fun hnone => Option.some_ne_none _ (hreason.symm.trans hnone)
  | @dispatch e hpc =>
    exact hsame ((phase_of_pc hpc).trans (phase_handler e).symm) (enters_goto s i _) ⟨rfl, rfl, rfl, rfl⟩
  | @request how inIo hpc =>
    have hfree : s.phase i = .free := by rcases hpc with hpc | hpc <;> exact phase_of_pc hpc
    exact h.stop hfree (enters_goto _ i _) rfl rfl rfl (Option.some_ne_none how)
  | @suspendEnd how inIo k hpc =>
    cases inIo with
    | true => exact h.resume (phase_of_pc hpc) (enters_goto s i _) ⟨rfl, rfl, rfl, rfl⟩
    | false => exact hsame (phase_of_pc hpc) (enters_goto s i _) ⟨rfl, rfl, rfl, rfl⟩
  | arrive hpc => exact h.arrive (phase_of_pc hpc) (enters_goto _ i _) rfl rfl rfl rfl
  | delete hpc =>
    refine h.delete (phase_of_pc hpc) (fun j => ?_) rfl rfl rfl rfl
    rw [phase_goto, apply_ite Pc.phase]
    rfl
  | pass hpc hi hseen =>
    subst hi
    exact h.pass (phase_of_pc hpc) hseen (enters_goto s 0 _) ⟨rfl, rfl, rfl, rfl⟩
  | leaveBarrier hpc hi hout =>
    exact h.leaveBarrier (phase_of_pc hpc) hi hout (enters_goto s i _) ⟨rfl, rfl, rfl, rfl⟩
  | resetEnd hpc => exact h.clear (phase_of_pc hpc) (enters_goto _ i _) rfl rfl rfl rfl
  | release hpc => exact h.release (phase_of_pc hpc) (enters_goto _ i _) rfl rfl rfl
  | deleteUnknown | exit => exact ⟨h.1, h.2, h.3, h.4, h.5, h.6, h.7, h.8, h.9⟩
  | wake hpc | arm hpc | run hpc | leave hpc | ioEnd hpc | again hpc | suspendCpu _ hpc
  | devices hpc | resetVcpu _ hpc | resumeCpu _ hpc | resumeEnd hpc =>
    exact hsame (phase_of_pc hpc) (enters_goto _ i _) ⟨rfl, rfl, rfl, rfl⟩

lemma Move.pc_other (hm : Move s i c t) {j : Fin n} (hj : j ≠ i) : t.pc j = s.pc j := by
  cases hm <;> first | rfl | exact update_of_ne hj _ _

lemma Move.activeCpus (hm : Move s i c t) (j : Fin n) : t.activeCpus j = s.activeCpus j ∨
    (t.activeCpus j = false ∧ s.phase i = .stopping) ∨ (t.activeCpus j = true ∧ s.phase i = .late) := by
  cases hm with
  | suspendCpu k hpc =>
    by_cases hj : j = k
    · subst hj
      exact .inr (.inl ⟨update_self .., phase_of_pc hpc⟩)
    · exact .inl (update_of_ne hj ..)
  | resumeCpu k hpc =>
    by_cases hj : j = k
    · subst hj
      exact .inr (.inr ⟨update_self .., phase_of_pc hpc⟩)
    · exact .inl (update_of_ne hj ..)
  | _ => exact .inl rfl

lemma Move.resumed (hm : Move s i c t) : t.resumed = s.resumed := by cases hm <;> rfl

def Booted (s : State n) : Prop :=
  ∀ i : Fin n, s.resumed ≤ i → s.pc i = .waitActive ∧ s.activeCpus i = false

lemma Move.awake (hm : Move s i c t) : s.pc i ≠ .waitActive ∨ s.activeCpus i = true := by
  cases hm with
  | wake _ hactive => exact .inr hactive
  | stop htest =>
    refine .inl fun hpc => ?_
    rw [hpc] at htest
    cases htest
  | request hpc => exact .inl fun h => by rcases hpc with hpc | hpc <;> rw [hpc] at h <;> cases h
  | _ => exact .inl fun h => by simp_all

lemma Ordered.all_late (h : Ordered s) (hlate : s.phase i = .late) (j : Fin n) : s.pc j ≠ .waitActive := by
  intro hpc
  have hfree : s.phase j = .free := phase_of_pc hpc
  have hin := h.counted j ((h.late i hlate).2.2 j)
  simp [hfree] at hin

lemma Booted.move (h : Booted s) (ho : Ordered s) (hm : Move s i c t) : Booted t := by
  intro j hj
  rw [hm.resumed] at hj
  obtain ⟨hpc, hactive⟩ := h j hj
  have hne : j ≠ i := by
    rintro rfl
    rcases hm.awake with hw | hw
    · exact hw hpc
    · rw [hactive] at hw
      cases hw
  refine ⟨(hm.pc_other hne).trans hpc, ?_⟩
  rcases hm.activeCpus j with ha | ⟨ha, -⟩ | ⟨-, hlate⟩
  · exact ha.trans hactive
  · exact ha
  · exact absurd hpc (ho.all_late hlate j)

/-- A vCPU in the guest is kicked once a suspend is asked for, or a thread is about to kick it. -/
def Kicked (s : State n) : Prop :=
  ∀ i : Fin n, s.pc i = .guest → s.suspendReason ≠ none → s.immediateExit i = true ∨
    ∃ j how k inIo, s.pc j = .suspendCpus how k inIo ∧ k ≤ i

lemma Kicked.keep (h : Kicked s) (hm : Move s i c t) (hpc : ∀ how k inIo, s.pc i ≠ .suspendCpus how k inIo)
    (hguest : t.pc i ≠ .guest) (hexit : ∀ j, j ≠ i → t.immediateExit j = s.immediateExit j)
    (hreason : t.suspendReason ≠ none → s.suspendReason ≠ none) : Kicked t := by
  intro g hg hsome
  have hgi : g ≠ i := fun heq => hguest (heq ▸ hg)
  rw [hm.pc_other hgi] at hg
  rcases h g hg (hreason hsome) with hkick | ⟨j, how, k, inIo, hj, hk⟩
  · exact .inl ((hexit g hgi).trans hkick)
  · have hji : j ≠ i := fun heq => hpc how k inIo (heq ▸ hj)
    exact .inr ⟨j, how, k, inIo, (hm.pc_other hji).trans hj, hk⟩

variable {how : SuspendHow} {inIo : Bool} {k : Fin n}

lemma Kicked.suspendCpu (h : Kicked s) (hpc : s.pc i = .suspendCpus how k inIo) :
    Kicked ((vmSuspendCpu s k).goto i (.suspendCpus how (k + 1) inIo)) := by
  intro g hg hsome
  have hm := Move.suspendCpu k hpc
  have hgi : g ≠ i := by
    rintro rfl
    simp [State.goto] at hg
  rw [hm.pc_other hgi] at hg
  rcases h g hg hsome with hkick | ⟨j, how', k', inIo', hj, hk⟩
  · left
    change update s.immediateExit k true g = true
    rw [update_apply, hkick, ite_self]
  by_cases hji : j = i
  · subst hji
    rw [hpc] at hj
    cases hj
    rcases Nat.eq_or_lt_of_le hk with heq | hlt
    · left
      have hgk : g = k := Fin.ext heq.symm
      rw [hgk]
      exact update_self ..
    · exact .inr ⟨j, how, k + 1, inIo, update_self .., hlt⟩
  · exact .inr ⟨j, how', k', inIo', (hm.pc_other hji).trans hj, hk⟩

lemma Kicked.suspendEnd (h : Kicked s) {k : Nat} (hpc : s.pc i = .suspendCpus how k inIo)
    (hk : n ≤ k) : Kicked (s.goto i (if inIo then .ioDone else .suspended how)) := by
  intro g hg hsome
  have hm := Move.suspendEnd hpc hk
  have hgi : g ≠ i := by
    rintro rfl
    cases inIo <;> simp [State.goto] at hg
  rw [hm.pc_other hgi] at hg
  rcases h g hg hsome with hkick | ⟨j, how', k', inIo', hj, hk'⟩
  · exact .inl hkick
  have hji : j ≠ i := by
    rintro rfl
    rw [hpc] at hj
    cases hj
    omega
  exact .inr ⟨j, how', k', inIo', (hm.pc_other hji).trans hj, hk'⟩

lemma Kicked.move (h : Kicked s) (hm : Move s i c t) : Kicked t := by
  have hkeep := h.keep hm
  cases hm with
  | @request how inIo => exact fun g _ _ => .inr ⟨i, how, 0, inIo, update_self .., Nat.zero_le g⟩
  | suspendCpu k hpc => exact h.suspendCpu hpc
  | suspendEnd hpc hk => exact h.suspendEnd hpc hk
  | run _ hnone | arm _ hnone | dispatch _ hnone | again _ hnone =>
    exact fun _ _ hsome => absurd hnone hsome
  | resetEnd => exact fun _ _ hsome => absurd rfl hsome
  | stop htest =>
    refine hkeep (fun how k inIo hpc => ?_) (by simp [State.goto]) (fun _ _ => rfl) id
    rw [hpc] at htest
    cases htest
  | delete hpc =>
    refine hkeep (by simp [hpc]) ?_ (fun _ _ => rfl) id
    by_cases hi : i = 0 <;> simp [State.goto, hi]
  | arrive hpc => exact hkeep (by simp [hpc]) (by simp [vmexitResetBarrier, State.goto]) (fun _ _ => rfl) id
  | release hpc =>
    exact hkeep (by simp [hpc]) (by simp [vmexitResetRelease, State.goto]) (fun _ _ => rfl) id
  | deleteUnknown hpc | exit hpc => exact hkeep (by simp [hpc]) (by simp [hpc]) (fun _ _ => rfl) id
  | wake hpc | leave hpc | ioEnd hpc | pass hpc | leaveBarrier hpc | devices hpc
  | resetVcpu _ hpc | resumeCpu _ hpc | resumeEnd hpc =>
    exact hkeep (by simp [hpc]) (by simp [State.goto]) (fun _ _ => rfl) id

def Pc.devicesReset : Pc → Nat
  | .resetVcpus _ | .resumeCpus _ | .release => 1
  | _ => 0

def Pc.vcpuReset (i : Nat) : Pc → Nat
  | .resetVcpus k => if i < k then 1 else 0
  | .resumeCpus _ | .release => 1
  | _ => 0

def Pc.resumed (i : Nat) : Pc → Prop
  | .resumeCpus k => i < k
  | .release => True
  | _ => False

/-- The resets counted are one for each round that is over, and those of the present one. -/
structure Counted (s : State n) : Prop where
  devices : s.deviceResets = s.rounds + (s.pc 0).devicesReset
  vcpus : ∀ i : Fin n, s.vcpuResets i = s.rounds + (s.pc 0).vcpuReset i
  active : ∀ i : Fin n, (s.pc 0).resumed i → s.activeCpus i = true

lemma Counted.keep (h : Counted s) (hdev : t.deviceResets = s.deviceResets)
    (hvcpu : t.vcpuResets = s.vcpuResets) (hrounds : t.rounds = s.rounds)
    (hactive : ∀ j : Fin n, (s.pc 0).resumed j → t.activeCpus j = s.activeCpus j)
    (h0 : t.pc 0 = s.pc 0 ∨ ((s.pc 0).devicesReset = 0 ∧ (t.pc 0).devicesReset = 0)) : Counted t := by
  rcases h0 with h0 | ⟨hs, ht⟩
  · constructor
    · rw [hdev, hrounds, h0, h.devices]
    · intro j
      rw [hvcpu, hrounds, h0, h.vcpus]
    · intro j hj
      rw [h0] at hj
      exact (hactive j hj).trans (h.active j hj)
  · have hnone : ∀ (p : Pc) (j : Nat), p.devicesReset = 0 → p.vcpuReset j = 0 ∧ ¬ p.resumed j := by
      intro p j hp
      cases p <;> first | exact ⟨rfl, not_false⟩ | cases hp
    constructor
    · rw [hdev, hrounds, ht, h.devices, hs]
    · intro j
      rw [hvcpu, hrounds, (hnone _ j ht).1, h.vcpus, (hnone _ j hs).1]
    · exact fun j hj => absurd hj (hnone _ j ht).2

section
variable (h : Counted s)
include h

lemma Counted.devicesStep (hpc : s.pc 0 = .resetDevices) :
    Counted (({ s with deviceResets := s.deviceResets + 1 } : State n).goto 0 (.resetVcpus 0)) := by
  obtain ⟨hdev, hvcpu, -⟩ := h
  rw [hpc] at hdev hvcpu
  constructor <;> simp only [State.goto, update_self]
  · rw [hdev]
    rfl
  · exact hvcpu
  · exact fun _ hj => hj.elim

lemma Counted.resetVcpu (hpc : s.pc 0 = .resetVcpus k) :
    Counted (({ s with vcpuResets := update s.vcpuResets k (s.vcpuResets k + 1) } :
      State n).goto 0 (.resetVcpus (k + 1))) := by
  obtain ⟨hdev, hvcpu, -⟩ := h
  rw [hpc] at hdev hvcpu
  constructor <;> simp only [State.goto, update_self]
  · exact hdev
  · intro j
    have hj := hvcpu j
    simp only [Pc.vcpuReset] at hj ⊢
    by_cases hjk : j = k
    · simp_all
    · rw [update_of_ne hjk, hj]
      split <;> split <;> omega
  · exact fun _ hj => hj.elim

lemma Counted.resetEnd {k : Nat} (hpc : s.pc 0 = .resetVcpus k) (hk : n ≤ k) :
    Counted (({ s with suspendReason := none } : State n).goto 0 (.resumeCpus 0)) := by
  obtain ⟨hdev, hvcpu, -⟩ := h
  rw [hpc] at hdev hvcpu
  constructor <;> simp only [State.goto, update_self]
  · exact hdev
  · intro j
    rw [hvcpu j, Pc.vcpuReset, if_pos (Nat.lt_of_lt_of_le j.isLt hk)]
    rfl
  · exact fun j hj => absurd hj (Nat.not_lt_zero j)

lemma Counted.resumeCpu (hpc : s.pc 0 = .resumeCpus k) :
    Counted ((vmActivateCpu s k).goto 0 (.resumeCpus (k + 1))) := by
  obtain ⟨hdev, hvcpu, hactive⟩ := h
  rw [hpc] at hdev hvcpu hactive
  constructor <;> simp only [State.goto, vmActivateCpu, update_self]
  · exact hdev
  · exact hvcpu
  intro j hj
  by_cases hjk : j = k
  · rw [hjk, update_self]
  have hne : j.val ≠ k.val := fun heq => hjk (Fin.ext heq)
  rw [update_of_ne hjk]
  exact hactive j (Nat.lt_of_le_of_ne (Nat.le_of_lt_succ hj) hne)

lemma Counted.resumeEnd {k : Nat} (hpc : s.pc 0 = .resumeCpus k) (hk : n ≤ k) :
    Counted (s.goto 0 .release) := by
  obtain ⟨hdev, hvcpu, hactive⟩ := h
  rw [hpc] at hdev hvcpu hactive
  constructor <;> simp only [State.goto, update_self]
  · exact hdev
  · exact hvcpu
  · exact fun j _ => hactive j (Nat.lt_of_lt_of_le j.isLt hk)

lemma Counted.release (hpc : s.pc 0 = .release) : Counted (vmexitResetRelease s 0) := by
  obtain ⟨hdev, hvcpu, -⟩ := h
  rw [hpc] at hdev hvcpu
  constructor <;> simp only [vmexitResetRelease, State.goto, update_self]
  · exact hdev
  · exact hvcpu
  · exact fun _ hj => hj.elim

end

lemma phase_of_resumed {j : Nat} (h : p.resumed j) : p.phase = .late := by
  cases p <;> first | rfl | exact h.elim

lemma Ordered.late_only (h : Ordered s) (hlate : s.phase 0 = .late) (j : Fin n) :
    s.phase j ≠ .stopping := by
  intro hstop
  have hin := h.counted j ((h.late 0 hlate).2.2 j)
  simp [hstop] at hin

lemma devicesReset_handler (e : KvmExit) : e.handler.devicesReset = 0 := by cases e <;> rfl

lemma devicesReset_of_testsReason (h : p.testsReason = true) : p.devicesReset = 0 := by
  cases p <;> first | rfl | cases h

lemma Counted.move (h : Counted s) (ho : Ordered s) (hm : Move s i c t) : Counted t := by
  -- Outside a round the counters stand still.
  have hkeep : t.deviceResets = s.deviceResets → t.vcpuResets = s.vcpuResets →
      t.rounds = s.rounds → (∀ j : Fin n, (s.pc 0).resumed j → t.activeCpus j = s.activeCpus j) →
      (s.pc i).devicesReset = 0 → (t.pc i).devicesReset = 0 → Counted t := by
    intro hdev hvcpu hrounds hactive hs ht
    refine h.keep hdev hvcpu hrounds hactive ?_
    by_cases hi : (0 : Fin n) = i
    · subst hi
      exact .inr ⟨hs, ht⟩
    · exact .inl (hm.pc_other hi)
  cases hm with
  | devices hpc =>
    obtain rfl := (ho.early i (phase_of_pc hpc)).1
    exact h.devicesStep hpc
  | resetVcpu k hpc =>
    obtain rfl := (ho.early i (phase_of_pc hpc)).1
    exact h.resetVcpu hpc
  | resetEnd hpc hk =>
    obtain rfl := (ho.early i (phase_of_pc hpc)).1
    exact h.resetEnd hpc hk
  | resumeCpu k hpc =>
    obtain rfl := (ho.late i (phase_of_pc hpc)).1
    exact h.resumeCpu hpc
  | resumeEnd hpc hk =>
    obtain rfl := (ho.late i (phase_of_pc hpc)).1
    exact h.resumeEnd hpc hk
  | release hpc =>
    obtain rfl := (ho.late i (phase_of_pc hpc)).1
    exact h.release hpc
  | suspendCpu k hpc =>
    refine hkeep rfl rfl rfl (fun j hj => ?_) (by rw [hpc]; rfl) (by rw [goto_pc_self]; rfl)
    exact absurd (phase_of_pc hpc) (ho.late_only (phase_of_resumed hj) i)
  | stop htest =>
    exact hkeep rfl rfl rfl (fun _ _ => rfl) (devicesReset_of_testsReason htest) (by rw [goto_pc_self]; rfl)
  | @dispatch e hpc =>
    refine hkeep rfl rfl rfl (fun _ _ => rfl) (by rw [hpc]; rfl) ?_
    rw [goto_pc_self, devicesReset_handler]
  | request hpc =>
    refine hkeep rfl rfl rfl (fun _ _ => rfl) ?_ (by rw [vmSuspend, goto_pc_self]; rfl)
    rcases hpc with hpc | hpc <;> rw [hpc] <;> rfl
  | @suspendEnd how inIo k hpc =>
    refine hkeep rfl rfl rfl (fun _ _ => rfl) (by rw [hpc]; rfl) ?_
    rw [goto_pc_self]
    cases inIo <;> rfl
  | delete hpc =>
    refine hkeep rfl rfl rfl (fun _ _ => rfl) (by rw [hpc]; rfl) ?_
    rw [goto_pc_self]
    split <;> rfl
  | deleteUnknown hpc | exit hpc =>
    exact hkeep rfl rfl rfl (fun _ _ => rfl) (by rw [hpc]; rfl) (by rw [hpc]; rfl)
  | arrive hpc =>
    exact hkeep rfl rfl rfl (fun _ _ => rfl) (by rw [hpc]; rfl)
      (by rw [vmexitResetBarrier, goto_pc_self]; rfl)
  | wake hpc | arm hpc | run hpc | leave hpc | ioEnd hpc | again hpc | pass hpc
  | leaveBarrier hpc =>
    exact hkeep rfl rfl rfl (fun _ _ => rfl) (by rw [hpc]; rfl) (by rw [goto_pc_self]; rfl)

end

structure Inv (s : State n) : Prop where
  ordered : Ordered s
  booted : Booted s
  kicked : Kicked s
  counted : Counted s

lemma inv_init : Inv (State.init n) where
  ordered := by constructor <;> simp [State.init, State.phase, Pc.phase]
  booted := fun _ _ => ⟨rfl, rfl⟩
  kicked := fun _ hg => by cases hg
  counted := ⟨rfl, fun _ => rfl, fun _ hj => hj.elim⟩

def activateNext (s : State n) (h : s.resumed < n) : State n :=
  { vmActivateCpu s ⟨s.resumed, h⟩ with resumed := s.resumed + 1 }

variable {l : Label n}

lemma step_cases (h : Step s l t) : (l = .idle ∧ t = s) ∨
    (s.exitStatus = none ∧ l = .main ∧ ∃ hlt : s.resumed < n, t = activateNext s hlt) ∨
    (s.exitStatus = none ∧ ∃ i c, l = .vcpu i c ∧ Move s i c t) := by
  cases l with
  | idle => exact .inl ⟨rfl, (Option.some.inj h).symm⟩
  | main =>
    simp only [Step, next, mainNext] at h
    split at h
    · next hrun =>
      split at h
      · next hlt => exact .inr (.inl ⟨hrun, rfl, hlt, (Option.some.inj h).symm⟩)
      · cases h
    · cases h
  | vcpu i c =>
    simp only [Step, next] at h
    split at h
    · next hrun => exact .inr (.inr ⟨hrun, i, c, rfl, vcpuNext_move h⟩)
    · cases h

lemma Inv.activateNext (h : Inv s) (hlt : s.resumed < n) : Inv (activateNext s hlt) where
  ordered := by
    have ho := h.ordered
    exact ⟨ho.1, ho.2, ho.3, ho.4, ho.5, ho.6, ho.7, ho.8, ho.9⟩
  booted := by
    intro i hi
    obtain ⟨hpc, hactive⟩ := h.booted i (Nat.le_of_succ_le hi)
    refine ⟨hpc, ?_⟩
    have hne : i ≠ ⟨s.resumed, hlt⟩ := fun heq => by
      rw [heq] at hi
      exact Nat.not_succ_le_self _ hi
    exact (update_of_ne hne ..).trans hactive
  kicked := h.kicked
  counted := by
    refine ⟨h.counted.devices, h.counted.vcpus, fun j hj => ?_⟩
    change update s.activeCpus ⟨s.resumed, hlt⟩ true j = true
    rw [update_apply, h.counted.active j hj, ite_self]

lemma Inv.step (h : Inv s) (hstep : Step s l t) : Inv t := by
  rcases step_cases hstep with ⟨-, rfl⟩ | ⟨-, -, hlt, rfl⟩ | ⟨-, i, c, -, hm⟩
  · exact h
  · exact h.activateNext hlt
  · exact ⟨h.ordered.move hm, h.booted.move h.ordered hm, h.kicked.move hm, h.counted.move h.ordered hm⟩

lemma Inv.stopped (h : Inv s) {i : Fin n} (hround : s.phase i = .early ∨ s.phase i = .late)
    {j : Fin n} (hj : j ≠ 0) : s.pc j = .barrier := by
  have hall : s.resetCpus j = true := by
    rcases hround with hp | hp
    · exact (h.ordered.early i hp).2.2 j
    · exact (h.ordered.late i hp).2.2 j
  rcases h.ordered.counted j hall with hb | he | hl
  · unfold State.phase at hb
    cases hpc : s.pc j <;> rw [hpc] at hb <;> first | rfl | cases hb
  · exact absurd (h.ordered.early j he).1 hj
  · exact absurd (h.ordered.late j hl).1 hj

end ScorpiHv.X86

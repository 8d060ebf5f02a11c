import ScorpiHv.X86.Completes

/-!
# What becomes of a reset or power-off request
-/

namespace ScorpiHv.X86

variable {n : Nat} [NeZero n] {s t : State n} {i j : Fin n} {b : Behaviour (Step (n := n))}

structure RoundOver (s t : State n) : Prop where
  rounds : t.rounds = s.rounds + 1
  devices : t.deviceResets = s.deviceResets + 1
  vcpus : ∀ j, t.vcpuResets j = s.vcpuResets j + 1
  active : ∀ j, t.activeCpus j = true
  released : ∀ j, t.resetCpus j = false
  reason : t.suspendReason = none

lemma counts_of_free (h : Inv s) (hfree : s.phase i = .free) :
    s.deviceResets = s.rounds ∧ ∀ j, s.vcpuResets j = s.rounds := by
  have hround : s.phase 0 ≠ .early ∧ s.phase 0 ≠ .late := by
    constructor
    · intro hp
      have hin := h.ordered.counted i ((h.ordered.early 0 hp).2.2 i)
      simp [hfree] at hin
    · intro hp
      have hin := h.ordered.counted i ((h.ordered.late 0 hp).2.2 i)
      simp [hfree] at hin
  have hzero : (s.pc 0).devicesReset = 0 ∧ ∀ j, (s.pc 0).vcpuReset j = 0 := by
    unfold State.phase at hround
    cases hpc : s.pc 0 <;> rw [hpc] at hround <;>
      first | exact ⟨rfl, fun _ => rfl⟩ | exact absurd rfl hround.1 | exact absurd rfl hround.2
  refine ⟨?_, fun j => ?_⟩
  · rw [h.counted.devices, hzero.1, Nat.add_zero]
  · rw [h.counted.vcpus, hzero.2, Nat.add_zero]

variable {how : SuspendHow}

lemma Move.request_free (hm : Move s i (.request how) t) :
    s.phase i = .free ∧ t.suspendReason = some how := by
  cases hm with
  | request hpc => rcases hpc with hpc | hpc <;> exact ⟨phase_of_pc hpc, rfl⟩

variable {m k : Nat}

lemma round_between {r : Nat} (hle : m ≤ k) (hr : (b.state m).rounds = r)
    (hk : r < (b.state k).rounds) : ∃ l i, m ≤ l ∧ (b.state l).rounds = r ∧
    (b.state l).pc i = .release ∧ b.state (l + 1) = vmexitResetRelease (b.state l) i := by
  induction hle with
  | refl => exact absurd hk (Nat.not_lt.mpr (Nat.le_of_eq hr))
  | @step k hm ih =>
    by_cases hlt : r < (b.state k).rounds
    · exact ih hlt
    rcases step_cases (b.step k) with ⟨-, heq⟩ | ⟨-, -, hlt', heq⟩ | ⟨-, i, c, -, hmove⟩
    · rw [heq] at hk
      exact absurd hk hlt
    · rw [heq] at hk
      exact absurd hk hlt
    rcases hmove.rounds with heq | ⟨hpc, heq⟩
    · rw [heq] at hk
      exact absurd hk hlt
    have hge : r ≤ (b.state k).rounds := b.stable (p := fun s => r ≤ s.rounds)
      (fun _ _ _ h hs => Nat.le_trans h (rounds_le_step hs)) (Nat.le_of_eq hr.symm) hm
    exact ⟨k, i, hm, Nat.le_antisymm (Nat.le_of_not_lt hlt) hge, hpc, heq⟩

lemma roundOver_release (hs : Inv s) (hfree : s.phase i = .free) (ht : Inv t) (hr : t.rounds = s.rounds)
    (hpc : t.pc j = .release) : RoundOver s (vmexitResetRelease t j) := by
  have hlate := ht.ordered.late j (phase_of_pc hpc)
  obtain rfl := hlate.1
  obtain ⟨hdev, hvcpu⟩ := counts_of_free hs hfree
  obtain ⟨hdev', hvcpu', hactive⟩ := ht.counted
  rw [hpc] at hdev' hvcpu' hactive
  constructor
  · exact congrArg (· + 1) hr
  · rw [hdev, ← hr]
    exact hdev'
  · intro k
    rw [hvcpu k, ← hr]
    exact hvcpu' k
  · exact fun k => hactive k trivial
  · exact fun _ => rfl
  · exact hlate.2.1

def Released (i : Fin n) (s : State n) : Prop :=
  (s.pc i = .waitActive ∨ (s.pc i = .barrier ∧ s.resetCpus i = false)) ∧
    s.activeCpus i = true ∧ i < s.resumed ∧ s.exitStatus = none

omit [NeZero n] in
lemma Released.phase (h : Released i s) : s.phase i = .free ∨ s.phase i = .barrier := by
  rcases h.1 with hpc | ⟨hpc, -⟩
  · exact .inl (phase_of_pc hpc)
  · exact .inr (phase_of_pc hpc)

variable {c : Choice}

lemma Released.own_move (h : Released i s) (ho : Ordered s) (hm : Move s i c t) :
    (t.pc i = .entering ∨ t.pc i = .waitActive ∧ t.activeCpus i = s.activeCpus i) ∧
      (t.pc i).rank n < (s.pc i).rank n := by
  rcases h.1 with hpc | ⟨hpc, hout⟩
  · cases hm with
    | wake =>
      rw [goto_pc_self, hpc]
      exact ⟨.inl rfl, Nat.lt_succ_self 2⟩
    | stop htest =>
      rw [hpc] at htest
      cases htest
    | request hpc' => rcases hpc' with h' | h' <;> rw [hpc] at h' <;> cases h'
    | _ => simp_all
  · cases hm with
    | leaveBarrier =>
      rw [goto_pc_self, hpc]
      exact ⟨.inr ⟨rfl, rfl⟩, Nat.lt_succ_self 3⟩
    | pass _ hi =>
      subst hi
      rw [ho.bsp (phase_of_pc hpc)] at hout
      cases hout
    | stop htest =>
      rw [hpc] at htest
      cases htest
    | request hpc' => rcases hpc' with h' | h' <;> rw [hpc] at h' <;> cases h'
    | _ => simp_all

lemma Released.move (h : Released i s) (ho : Ordered s) (hm : Move s j c t)
    (hfree : ¬ Stranded t i) : Released i t ∨ t.pc i = .entering := by
  have hrun : t.exitStatus = none := by
    rcases hm.exitStatus ho with heq | ⟨-, hmask, -⟩
    · exact heq.trans h.2.2.2
    · have hd := (ho.mask i).mp (hmask i)
      rcases h.phase with hp | hp <;> simp [hp] at hd
  have hres : i < t.resumed := by
    rw [hm.resumed]
    exact h.2.2.1
  by_cases hij : i = j
  · subst hij
    rcases (h.own_move ho hm).1 with hpc | ⟨hpc, hactive⟩
    · exact .inr hpc
    · exact .inl ⟨.inl hpc, hactive.trans h.2.1, hres, hrun⟩
  · have hplace : t.pc i = .waitActive ∨ (t.pc i = .barrier ∧ t.resetCpus i = false) := by
      rw [hm.pc_other hij]
      refine h.1.imp_right fun ⟨hpc, hout⟩ => ⟨hpc, ?_⟩
      rcases hm.resetCpus i with heq | ⟨heq, -⟩ | ⟨-, hfalse⟩
      · exact heq.trans hout
      · exact absurd heq hij
      · exact hfalse
    have hactive : t.activeCpus i = true := by
      rcases hm.activeCpus i with heq | ⟨hoff, hstop⟩ | ⟨hon, -⟩
      · exact heq.trans h.2.1
      · refine absurd ⟨hplace, hoff, ?_, hres⟩ hfree
        rcases hm.suspendReason with heq | ⟨hearly, -⟩ | ⟨how, -, hsome⟩
        · rw [heq]
          exact fun hnone => (ho.quiet hnone j).1 hstop
        · rw [hstop] at hearly
          cases hearly
        · rw [hsome]
          exact Option.some_ne_none how
      · exact hon
    exact .inl ⟨hplace, hactive, hres, hrun⟩

lemma Released.runnable (h : Released i s) (ho : Ordered s) : Runnable s i := by
  obtain ⟨hplace, hactive, -, hrun⟩ := h
  rcases hplace with hpc | ⟨hpc, hout⟩
  · refine ⟨fun hg => ?_, .go, by simp [next, hrun, vcpuNext, hpc, hactive]⟩
    rw [hpc] at hg
    cases hg
  have hi : i ≠ 0 := by
    rintro rfl
    rw [ho.bsp (phase_of_pc hpc)] at hout
    cases hout
  refine ⟨fun hg => ?_, .go, by simp [next, hrun, vcpuNext, hpc, hi, hout]⟩
  rw [hpc] at hg
  cases hg

lemma Released.next (hinv : ∀ m, Inv (b.state m)) (hfree : ∀ m j, ¬ Stranded (b.state m) j)
    (h : Released i (b.state k)) : Released i (b.state (k + 1)) ∨ (b.state (k + 1)).pc i = .entering := by
  rcases step_cases (b.step k) with ⟨-, heq⟩ | ⟨-, -, hlt, heq⟩ | ⟨-, j, c, -, hm⟩
  · rw [heq]
    exact .inl h
  · rw [heq]
    obtain ⟨hplace, hactive, hres, hrun⟩ := h
    refine .inl ⟨hplace, ?_, Nat.lt_succ_of_lt hres, hrun⟩
    change Function.update (b.state k).activeCpus _ true i = true
    rw [Function.update_apply, hactive, ite_self]
  · exact h.move (hinv k).ordered hm (hfree (k + 1) i)

lemma eventually_entering (hfair : Fair b) (hinv : ∀ m, Inv (b.state m))
    (hfree : ∀ m j, ¬ Stranded (b.state m) j) (h : Released i (b.state m)) :
    ∃ k, m ≤ k ∧ (b.state k).pc i = .entering := by
  refine b.leads_to_rank (q := fun s => s.pc i = .entering) (fun s => (s.pc i).rank n) (ByVcpu i)
    (fun k hp => hfair.acts (q := fun s => s.pc i = .entering) i
      (fun k hp => hp.runnable (hinv k).ordered) (fun k hp _ => hp.next hinv hfree) hp)
    (fun k hp => ?_) h
  rcases hp.next hinv hfree with hp' | hgoal
  · by_cases hl : ByVcpu i (b.label k)
    · obtain ⟨c, hc⟩ := hl
      have hlt := (hp.own_move (hinv k).ordered (move_of_label hc)).2
      exact .inr ⟨hp', Nat.le_of_lt hlt, fun _ => hlt⟩
    · exact .inr ⟨hp', Nat.le_of_eq (by rw [pc_of_not_by hl]), fun hl' => absurd hl' hl⟩
  · exact .inl hgoal

lemma released_of_roundOver (hs : Inv s) (hpc : s.pc j = .release)
    (hrun : s.exitStatus = none) (i : Fin n) : Released i (vmexitResetRelease s j) := by
  have hlate := hs.ordered.late j (phase_of_pc hpc)
  obtain rfl := hlate.1
  have hactive := hs.counted.active i
  rw [hpc] at hactive
  have hwait : s.pc i ≠ .waitActive := hs.ordered.all_late (phase_of_pc hpc) i
  refine ⟨?_, hactive trivial, Nat.lt_of_not_le fun hle => hwait (hs.booted i hle).1, hrun⟩
  by_cases hi : i = 0
  · subst hi
    exact .inl (goto_pc_self _ _ _)
  refine .inr ⟨?_, rfl⟩
  have hother := (Move.release hpc).pc_other hi
  rw [hother]
  exact hs.stopped (.inr (phase_of_pc hpc)) hi

lemma pending_of_request (hinv : ∀ m, Inv (b.state m))
    (hkind : ∀ m, Kind (b.state m)) (hl : b.label m = .vcpu i (.request how)) :
    (b.state m).phase i = .free ∧ Pending how (b.state m).rounds (b.state (m + 1)) := by
  have hm := move_of_label hl
  obtain ⟨hfree, hreason⟩ := hm.request_free
  refine ⟨hfree, hinv (m + 1), hkind (m + 1), hreason, ?_, ?_⟩
  · rcases step_cases (b.step m) with ⟨hl', -⟩ | ⟨-, hl', -⟩ | ⟨hrun, j, c, -, hm'⟩
    · rw [hl] at hl'
      cases hl'
    · rw [hl] at hl'
      cases hl'
    rcases hm.exitStatus (hinv m).ordered with heq | ⟨hpc, -⟩
    · exact heq.trans hrun
    · rw [phase_of_pc hpc] at hfree
      cases hfree
  · rcases hm.rounds with heq | ⟨hpc, -⟩
    · exact heq
    · rw [phase_of_pc hpc] at hfree
      cases hfree

lemma kind_of_uniform (huni : Uniform b) (hinv : ∀ m, Inv (b.state m))
    (hinit : b.state 0 = .init n) (m : Nat) : Kind (b.state m) := by
  induction m with
  | zero =>
    rw [hinit]
    exact ⟨fun _ h => (Option.some_ne_none _ h.symm).elim, fun _ h => (Option.some_ne_none _ h.symm).elim⟩
  | succ m ih =>
    rcases step_cases (b.step m) with ⟨-, heq⟩ | ⟨-, -, hlt, heq⟩ | ⟨-, i, c, hl, hm⟩
    · rw [heq]
      exact ih
    · rw [heq]
      exact ⟨ih.pc, ih.counted⟩
    · refine ih.move (hinv m).ordered hm fun how hc => ?_
      exact huni m i how (by rw [hl, hc])

/-- In every run the other vCPUs stand in the barrier while the boot CPU resets the machine. With
fair threads, no overlapping requests and no stranded vCPU, each reset request is followed by one
round and each power-off by the exit. A stranded vCPU blocks both. -/
theorem reset_and_poweroff_complete (b : Behaviour (Step (n := n))) (hinit : b.state 0 = .init n) :
    (∀ m i, (b.state m).phase i = .early ∨ (b.state m).phase i = .late →
      i = 0 ∧ ∀ j, j ≠ 0 → (b.state m).pc j = .barrier) ∧
    (Fair b → Uniform b → (∀ m j, ¬ Stranded (b.state m) j) →
      (∀ m i, b.label m = .vcpu i (.request .reset) →
        ∃ k, m < k ∧ RoundOver (b.state m) (b.state k) ∧
          ∀ j, ∃ k', k ≤ k' ∧ (b.state k').pc j = .entering) ∧
      (∀ m i, b.label m = .vcpu i (.request .poweroff) →
        ∃ k, m < k ∧ (b.state k).exitStatus = some 0)) ∧
    (∀ m j, Stranded (b.state m) j → ∀ k, m ≤ k →
      (b.state k).rounds = (b.state m).rounds ∧
        (b.state k).exitStatus = (b.state m).exitStatus) := by
  have hinv : ∀ m, Inv (b.state m) :=
    b.invariant (fun _ _ _ h hs => h.step hs) (by rw [hinit]; exact inv_init)
  have hexit : ∀ m, ExitedClean (b.state m) := by
    intro m
    induction m with
    | zero =>
      rw [hinit]
      exact .inl rfl
    | succ m ih => exact ih.step (hinv m) (b.step m)
  refine ⟨fun m i hround => ⟨?_, fun j hj => (hinv m).stopped hround hj⟩,
    fun hfair huni hfree => ⟨fun m i hl => ?_, fun m i hl => ?_⟩,
    fun m j hs k hk => (stranded_forever b hinv hs hk).2⟩
  · rcases hround with hp | hp
    · exact ((hinv m).ordered.early i hp).1
    · exact ((hinv m).ordered.late i hp).1
  · obtain ⟨hphase, hp⟩ := pending_of_request hinv (kind_of_uniform huni hinv hinit) hl
    obtain ⟨k, hk, hlt⟩ := eventually_round hfair huni hfree hinv hexit hp
    obtain ⟨l, j, hle, hr, hpc, heq⟩ := round_between hk hp.rounds hlt
    have hrun : (b.state l).exitStatus = none := by
      have hlate := (hinv l).ordered.late j (phase_of_pc hpc)
      exact Full.running hlate.2.2 (hinv l).ordered (hexit l)
    refine ⟨l + 1, Nat.lt_succ_of_lt hle, ?_, fun j' => ?_⟩
    · rw [heq]
      exact roundOver_release (hinv m) hphase (hinv l) hr hpc
    · refine eventually_entering hfair hinv hfree ?_
      rw [heq]
      exact released_of_roundOver (hinv l) hpc hrun j'
  · obtain ⟨-, hp⟩ := pending_of_request hinv (kind_of_uniform huni hinv hinit) hl
    obtain ⟨k, hk, hzero⟩ := eventually_exit hfair huni hfree hinv hexit hp
    exact ⟨k, hk, hzero⟩


private instance neZeroTwo : NeZero 2 := ⟨two_ne_zero⟩

private lemma next_idle (s : State 2) : next s .idle = some s := rfl

private def go (i : Fin 2) : Label 2 := .vcpu i .go

private def boot : List (Label 2) := [.main, .main]

private def enter (i : Fin 2) : List (Label 2) := [go i, go i, go i]

/-- vCPU 0 writes to a reset or shutdown register and comes to `vmexit_suspend`. -/
private def ask (how : SuspendHow) : List (Label 2) :=
  [.vcpu 0 (.exit .io), go 0, .vcpu 0 (.request how), go 0, go 0, go 0, go 0]

private def oneReset : List (Label 2) :=
  boot ++ enter 0 ++ enter 1 ++ ask .reset ++ [go 0, .vcpu 1 (.exit .interrupted), go 1, go 1] ++
    [go 0, go 0, go 0, go 0, go 0, go 0, go 0, go 0, go 0] ++ enter 0 ++ [go 1] ++ enter 1

private def sleptThrough (how : SuspendHow) : List (Label 2) :=
  boot ++ enter 0 ++ ask how ++ [go 0]

variable {script : List (Label 2)} {hrun : (script.foldlM next (State.init 2)).isSome = true}

private def played (script : List (Label 2))
    (hrun : (script.foldlM next (State.init 2)).isSome = true) : Behaviour (Step (n := 2)) :=
  .ofScript next .idle next_idle script (.init 2) hrun

private def final (script : List (Label 2)) : State 2 :=
  (script.foldlM next (State.init 2)).getD (.init 2)

private lemma fair_played (hmain : (next (final script) .main).isSome = false)
    (hvcpu : ∀ i, ¬ Runnable (final script) i) : Fair (played script hrun) where
  vcpu m i h := by
    refine absurd ?_ (hvcpu i)
    have hend := h (max m script.length) (Nat.le_max_left ..)
    rwa [played, Behaviour.ofScript_state_of_ge (Nat.le_max_right ..)] at hend
  main m h := by
    have hend := h (max m script.length) (Nat.le_max_left ..)
    rw [played, Behaviour.ofScript_state_of_ge (Nat.le_max_right ..)] at hend
    exact absurd (hmain.symm.trans hend) Bool.false_ne_true

private lemma oneReset_runs : (oneReset.foldlM next (State.init 2)).isSome = true := by
  decide +kernel

private def requestOk (l : Label 2) (s : State 2) : Bool :=
  match l with
  | .vcpu _ (.request how) => s.suspendReason == none || s.suspendReason == some how
  | _ => true

private lemma played_state {p : State 2 → Prop}
    (h : ∀ m : Fin (script.length + 1), p ((played script hrun).state m)) (m : Nat) :
    p ((played script hrun).state m) := by
  rcases Nat.lt_or_ge m script.length with hm | hm
  · exact h ⟨m, Nat.lt_succ_of_lt hm⟩
  have hlast := h ⟨script.length, Nat.lt_succ_self _⟩
  rw [played, Behaviour.ofScript_state_of_ge (Nat.le_refl _)] at hlast
  rwa [played, Behaviour.ofScript_state_of_ge hm]

private lemma uniform_played (h : ∀ m : Fin script.length,
    requestOk ((played script hrun).label m) ((played script hrun).state m) = true) :
    Uniform (played script hrun) := by
  intro m i how hl how' hreason
  rcases Nat.lt_or_ge m script.length with hm | hm
  · have hok := h ⟨m, hm⟩
    simp only [requestOk, hl, hreason] at hok
    simpa using hok
  · rw [played, Behaviour.ofScript_label_of_ge hm] at hl
    cases hl

private lemma oneReset_not_stranded (m : Nat) (j : Fin 2) :
    ¬ Stranded ((played oneReset oneReset_runs).state m) j :=
  played_state (p := fun s => ∀ j, ¬ Stranded s j) (by decide +kernel) m j

private lemma oneReset_fair : Fair (played oneReset oneReset_runs) := by
  refine fair_played (by decide +kernel) ?_
  have hguest : ∀ i, (final oneReset).pc i = .guest ∧ (final oneReset).immediateExit i = false := by
    decide +kernel
  intro i h
  have hkick := h.1 (hguest i).1
  rw [(hguest i).2] at hkick
  cases hkick

theorem reset_and_poweroff_complete_oneReset :
    ∃ k, 10 < k ∧ RoundOver ((played oneReset oneReset_runs).state 10)
      ((played oneReset oneReset_runs).state k) := by
  have h := (reset_and_poweroff_complete (played oneReset oneReset_runs) rfl).2.1
    oneReset_fair (uniform_played (by decide +kernel)) oneReset_not_stranded
  obtain ⟨k, hk, hover, -⟩ := h.1 10 0 (by decide +kernel)
  exact ⟨k, hk, hover⟩

private lemma sleptThrough_runs (how : SuspendHow) :
    ((sleptThrough how).foldlM next (State.init 2)).isSome = true := by cases how <;> decide +kernel

private lemma sleptThrough_fair (how : SuspendHow) :
    Fair (played (sleptThrough how) (sleptThrough_runs how)) := by
  refine fair_played (by cases how <;> decide +kernel) ?_
  rintro i ⟨-, c, hc⟩
  have hstuck : ∀ i : Fin 2, (next (final (sleptThrough how)) (.vcpu i .go)).isSome = false ∧
      ((final (sleptThrough how)).pc i = .waitActive ∨ (final (sleptThrough how)).pc i = .barrier ∨
        (final (sleptThrough how)).pc i = .deleteWait) := by
    cases how <;> decide +kernel
  obtain ⟨hgo, hpc⟩ := hstuck i
  cases c with
  | go => exact absurd (hgo.symm.trans hc) Bool.false_ne_true
  | exit e | request how' => rcases hpc with hpc | hpc | hpc <;> simp [next, vcpuNext, hpc] at hc

def Unanswered (n : Nat) [NeZero n] (how : SuspendHow) : Prop :=
  ∃ b : Behaviour (Step (n := n)), b.state 0 = .init n ∧ Fair b ∧ Uniform b ∧
    (∃ m i, b.label m = .vcpu i (.request how)) ∧
    ∀ k, (b.state k).rounds = 0 ∧ (b.state k).exitStatus = none

private lemma sleptThrough_unanswered (how : SuspendHow) : Unanswered 2 how := by
  refine ⟨played (sleptThrough how) (sleptThrough_runs how), rfl, sleptThrough_fair how,
    uniform_played ?_, ⟨7, 0, ?_⟩, fun k => ?_⟩
  · cases how <;> decide +kernel
  · cases how <;> decide +kernel
  · refine played_state (p := fun s => s.rounds = 0 ∧ s.exitStatus = none) ?_ k
    cases how <;> decide +kernel

/-- vCPU 1 has not yet seen that it is active when vCPU 0 asks: its bit is cleared again, and the
boot CPU waits for it. -/
theorem request_slept_through : Unanswered 2 .reset ∧ Unanswered 2 .poweroff :=
  ⟨sleptThrough_unanswered .reset, sleptThrough_unanswered .poweroff⟩

end ScorpiHv.X86

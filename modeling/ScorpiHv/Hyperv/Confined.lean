import ScorpiHv.Hyperv.Resume

/-!
# The register calls of a guest

What a call does to registers, memory and partition, what it looks at, and when two calls do the
work of one.
-/

namespace ScorpiHv.Hyperv
open Function Bytes

section
variable (map : Map) (cpu cpuCount : Nat) (clock : Nat → UInt64) (first : Nat) (c : Control)
  (s : CallState)

/-- How a call ends: refused before its first element, or after a number of elements. -/
inductive CallOutcome : CallState × UInt64 → Prop where
  | rejected {e : Status} (h : accept map cpu s first c = .error e) : CallOutcome (s, e.code)
  | set {input : List UInt8} {out : Output} {hv' : Partition} {st : Status} {done : Nat}
      {word : UInt64} (h : accept map cpu s first c = .ok (input, out)) (hset : c.set = true)
      (hword : word.toNat = done * 2 ^ 32 + st.code.toNat)
      (hr : SetReport map cpu clock input (c.count - c.start) c.start s.hv (hv', st, done)) :
      CallOutcome ({ s with hv := hv' }, word)
  | get {input : List UInt8} {out : Output} {s' : CallState} {st : Status} {done : Nat}
      {word : UInt64} (h : accept map cpu s first c = .ok (input, out)) (hget : c.set = false)
      (hword : word.toNat = done * 2 ^ 32 + st.code.toNat)
      (hr : GetReport cpu cpuCount clock input out (c.count - c.start) c.start s (s', st, done)) :
      CallOutcome (s', word)

/-- A byte that a call may write: one of the output range, or of a page that an element
registers. -/
def Writes (a : Nat) : Prop :=
  (c.set = false ∧ c.fast = false ∧ (s.x (first + 1)).toNat ≤ a ∧
      a < (s.x (first + 1)).toNat + c.outputSize) ∨
    ∃ input out i, accept map cpu s first c = .ok (input, out) ∧ c.set = true ∧ c.start ≤ i ∧
      i < c.count ∧ ZeroesByte map input i a

structure CallReport (r : CallState × UInt64) : Prop where
  regs : ∀ j, j < first ∨ first + 16 ≤ j → r.1.x j = s.x j
  bytes : ∀ a, r.1.hv.mem a ≠ s.hv.mem a → Writes map cpu first c s a
  outcome : CallOutcome map cpu cpuCount clock first c s r

end

section
variable {map : Map} {cpu cpuCount first : Nat} {clock : Nat → UInt64} {control : UInt64}
  {s : CallState} {input : List UInt8} {out : Output}

lemma registerCall_error {e : Status} (h : accept map cpu s first (Control.ofWord control) = .error e) :
    registerCall map cpu cpuCount clock first control s = (s, e.code) := by
  unfold registerCall
  dsimp only
  rw [h]

section
variable (h : accept map cpu s first (Control.ofWord control) = .ok (input, out))
include h

lemma registerCall_set (hset : (Control.ofWord control).set = true) :
    registerCall map cpu cpuCount clock first control s = let c := Control.ofWord control
      let r := setFrom map cpu clock input (c.count - c.start) c.start s.hv
      ({ s with hv := r.1 }, statusWord r.2.1 r.2.2) := by
  unfold registerCall
  dsimp only
  rw [h]
  dsimp only
  rw [if_pos hset]

lemma registerCall_get (hget : (Control.ofWord control).set = false) :
    registerCall map cpu cpuCount clock first control s = let c := Control.ofWord control
      let r := getFrom cpu cpuCount clock input out (c.count - c.start) c.start s
      (r.1, statusWord r.2.1 r.2.2) := by
  have hno : ¬ (Control.ofWord control).set = true := by simp [hget]
  unfold registerCall
  dsimp only
  rw [h]
  dsimp only
  rw [if_neg hno]

lemma set_report (hset : (Control.ofWord control).set = true) :
    CallReport map cpu cpuCount clock first (Control.ofWord control) s
      (registerCall map cpu cpuCount clock first control s) := by
  rw [registerCall_set h hset]
  have hlt := (accept_ok_iff.mp h).1.start_lt
  have hcount := Control.count_lt control
  generalize Control.ofWord control = c at h hset hlt hcount ⊢
  have hr : SetReport map cpu clock input (c.count - c.start) c.start s.hv
      (setFrom map cpu clock input (c.count - c.start) c.start s.hv) := setFrom_report _ _ _
  have hle := hr.to_count
  refine ⟨fun j _ => rfl, ?_, .set h hset (statusWord_toNat _ (by omega)) hr⟩
  intro a ha
  obtain ⟨i, hge, hi, hz⟩ := setFrom_mem _ _ _ ha
  exact .inr ⟨input, out, i, h, hset, hge, by omega, hz⟩

lemma get_report (hget : (Control.ofWord control).set = false) :
    CallReport map cpu cpuCount clock first (Control.ofWord control) s
      (registerCall map cpu cpuCount clock first control s) := by
  rw [registerCall_get h hget]
  have hlt := (accept_ok_iff.mp h).1.start_lt
  have hcount := Control.count_lt control
  generalize Control.ofWord control = c at h hget hlt hcount ⊢
  have hr : GetReport cpu cpuCount clock input out (c.count - c.start) c.start s
      (getFrom cpu cpuCount clock input out (c.count - c.start) c.start s) :=
    getFrom_report _ _ _
  have hle := hr.to_count
  refine ⟨?_, ?_, .get h hget (statusWord_toNat _ (by omega)) hr⟩
  · intro j hj
    apply hr.regs
    intro i _ hi hslot
    have hin := slots_regs hget h (by omega) hslot
    omega
  · intro a ha
    by_contra hno
    apply ha
    apply hr.bytes
    intro i _ hi hslot
    obtain ⟨hslow, hge, hlt⟩ := slots_bytes hget h (by omega) hslot
    exact hno (.inl ⟨hget, hslow, hge, hlt⟩)

end

lemma registerCall_report (control : UInt64) (s : CallState) :
    CallReport map cpu cpuCount clock first (Control.ofWord control) s
      (registerCall map cpu cpuCount clock first control s) := by
  cases h : accept map cpu s first (Control.ofWord control) with
  | error =>
    rw [registerCall_error h]
    exact ⟨fun _ _ => rfl, fun a ha => absurd rfl ha, .rejected h⟩
  | ok =>
    by_cases hset : (Control.ofWord control).set = true
    · exact set_report h hset
    · exact get_report h (Bool.eq_false_of_not_eq_true hset)

lemma registerCall_agrees {R B : Nat → Prop} {t : CallState} (hst : Agrees R B s t)
    (hR : ∀ j, first ≤ j → j < first + 16 → R j)
    (hB : (Control.ofWord control).fast = false → ∀ a, (s.x first).toNat ≤ a →
      a < (s.x first).toNat + (Control.ofWord control).inputSize → B a) :
    (registerCall map cpu cpuCount clock first control t).2 =
        (registerCall map cpu cpuCount clock first control s).2 ∧
      Agrees R B (registerCall map cpu cpuCount clock first control s).1
        (registerCall map cpu cpuCount clock first control t).1 := by
  have hacc : accept map cpu t first (Control.ofWord control) =
      accept map cpu s first (Control.ofWord control) := accept_agrees hst hR hB
  cases h : accept map cpu s first (Control.ofWord control) with
  | error =>
    rw [registerCall_error h, registerCall_error (hacc.trans h)]
    exact ⟨rfl, hst⟩
  | ok p =>
    obtain ⟨input, out⟩ := p
    by_cases hset : (Control.ofWord control).set = true
    · rw [registerCall_set h hset, registerCall_set (hacc.trans h) hset]
      dsimp only
      obtain ⟨hword, hstate⟩ := @setFrom_agrees map cpu clock input R B s t
        ((Control.ofWord control).count - (Control.ofWord control).start)
        (Control.ofWord control).start hst
      exact ⟨by rw [hword], hstate⟩
    · have hget := Bool.eq_false_of_not_eq_true hset
      rw [registerCall_get h hget, registerCall_get (hacc.trans h) hget]
      dsimp only
      obtain ⟨hword, hstate⟩ := @getFrom_agrees cpu cpuCount clock input out R B
        ((Control.ofWord control).count - (Control.ofWord control).start)
        (Control.ofWord control).start s t hst
      exact ⟨by rw [hword], hstate⟩

end

section
variable {map : Map} {cpu cpuCount first k : Nat} {clock : Nat → UInt64} {c : Control}
  {s s' : CallState} {input input' : List UInt8} {out out' : Output}

lemma resumed_accept (hslow : c.fast = false) (hk : k < c.count)
    (h : accept map cpu s first c = .ok (input, out)) (hx : s'.x = s.x)
    (hmem : ∀ a, (s.x first).toNat ≤ a → a < (s.x first).toNat + c.inputSize → s'.hv.mem a = s.hv.mem a) :
    accept map cpu s' first { c with start := k } = .ok (input, out) := by
  obtain ⟨hfits, hp, hheader⟩ := accept_ok_iff.mp h
  have hget : get s'.hv.mem (s.x first).toNat c.inputSize =
      get s.hv.mem (s.x first).toNat c.inputSize := get_congr hmem
  have hsame : parameters map s' first { c with start := k } = parameters map s first c := by
    have hno : ¬ c.fast = true := by simp [hslow]
    have hsize : Control.inputSize { c with start := k } = c.inputSize := rfl
    unfold parameters
    rw [if_neg hno, if_neg hno, hsize, hx, hget]
    rfl
  refine accept_ok_iff.mpr ⟨⟨hfits.code, hfits.clear, hk, hfits.input, hfits.output⟩, ?_, hheader⟩
  rw [hsame, hp]

lemma shorter_input (hslow : c.fast = false) (hk : k ≤ c.count)
    (h : accept map cpu s first c = .ok (input, out))
    (h' : accept map cpu s first { c with count := k } = .ok (input', out')) :
    input' = input.take (Control.inputSize { c with count := k }) ∧ (c.set = false → out' = out) := by
  obtain ⟨hin, hout⟩ := parameters_slow hslow (accept_ok_iff.mp h).2.1
  have hslow' : Control.fast { c with count := k } = false := hslow
  obtain ⟨hin', hout'⟩ := parameters_slow hslow' (accept_ok_iff.mp h').2.1
  have hle : Control.inputSize { c with count := k } ≤ c.inputSize := by
    have hmul : k * (if c.set then ELEMENT_SIZE else 4) ≤
        c.count * (if c.set then ELEMENT_SIZE else 4) := Nat.mul_le_mul_right _ hk
    exact Nat.add_le_add_left hmul HEADER_SIZE
  refine ⟨?_, ?_⟩
  · rw [hin, hin', get_take, min_eq_left hle]
  · intro hget
    rw [(hout hget).1, (hout' hget).1]

variable {w₁ w₂ w₃ : UInt64} (h₁ : Control.ofWord w₁ = c)
  (h₂ : Control.ofWord w₂ = { c with count := k }) (hslow : c.fast = false) (hs : c.start < k)
  (hk : k < c.count) (h : accept map cpu s first c = .ok (input, out))
  (hfirst : registerCall map cpu cpuCount clock first w₂ s = (s', statusWord .success k))
include h₁ h₂ hslow hs hk h hfirst

lemma first_set (h' : accept map cpu s first { c with count := k } = .ok (input', out'))
    (hset : c.set = true) : s'.x = s.x ∧
      setFrom map cpu clock input (k - c.start) c.start s.hv = (s'.hv, .success, k) := by
  have hcount := Control.count_lt w₁
  rw [h₁] at hcount
  have hacc : accept map cpu s first (Control.ofWord w₂) = .ok (input', out') := by rw [h₂, h']
  have hset₂ : (Control.ofWord w₂).set = true := by rw [h₂]; exact hset
  rw [registerCall_set hacc hset₂, h₂] at hfirst
  dsimp only at hfirst
  have hsame : setFrom map cpu clock input' (k - c.start) c.start s.hv =
      setFrom map cpu clock input (k - c.start) c.start s.hv := by
    apply setFrom_congr
    intro i _ hi
    rw [(shorter_input hslow hk.le h h').1]
    apply element_take
    have hik : (i + 1) * ELEMENT_SIZE ≤ k * ELEMENT_SIZE := Nat.mul_le_mul_right _ (by omega)
    have hsize : Control.inputSize { c with count := k } = HEADER_SIZE + k * ELEMENT_SIZE := by
      have hset' : Control.set { c with count := k } = true := hset
      unfold Control.inputSize
      rw [if_pos hset']
    omega
  rw [hsame] at hfirst
  have hr : SetReport map cpu clock input (k - c.start) c.start s.hv
      (setFrom map cpu clock input (k - c.start) c.start s.hv) := setFrom_report _ _ _
  have hle := hr.to_count
  obtain ⟨hstate, hword⟩ := Prod.mk.inj hfirst
  obtain ⟨hst, hdone⟩ := statusWord_inj (by omega) (by omega) hword
  have hx := congrArg CallState.x hstate
  have hhv := congrArg CallState.hv hstate
  exact ⟨hx.symm, Prod.ext hhv (Prod.ext hst hdone)⟩

lemma first_get (h' : accept map cpu s first { c with count := k } = .ok (input', out'))
    (hget : c.set = false) :
    getFrom cpu cpuCount clock input out (k - c.start) c.start s = (s', .success, k) := by
  have hcount := Control.count_lt w₁
  rw [h₁] at hcount
  have hacc : accept map cpu s first (Control.ofWord w₂) = .ok (input', out') := by rw [h₂, h']
  have hget₂ : (Control.ofWord w₂).set = false := by rw [h₂]; exact hget
  obtain ⟨hin, hout⟩ := shorter_input hslow hk.le h h'
  rw [registerCall_get hacc hget₂, h₂, hout hget] at hfirst
  dsimp only at hfirst
  have hsame : getFrom cpu cpuCount clock input' out (k - c.start) c.start s =
      getFrom cpu cpuCount clock input out (k - c.start) c.start s := by
    apply getFrom_congr
    intro i _ hi
    rw [hin]
    apply getName_take
    have hsize : Control.inputSize { c with count := k } = HEADER_SIZE + k * 4 := by
      have hget' : ¬ Control.set { c with count := k } = true := Bool.eq_false_iff.mp hget
      unfold Control.inputSize
      rw [if_neg hget']
    omega
  rw [hsame] at hfirst
  have hr : GetReport cpu cpuCount clock input out (k - c.start) c.start s
      (getFrom cpu cpuCount clock input out (k - c.start) c.start s) := getFrom_report _ _ _
  have hle := hr.to_count
  obtain ⟨hstate, hword⟩ := Prod.mk.inj hfirst
  obtain ⟨hst, hdone⟩ := statusWord_inj (by omega) (by omega) hword
  exact Prod.ext hstate (Prod.ext hst hdone)

lemma registerCall_resume (h₃ : Control.ofWord w₃ = { c with start := k })
    (hsafe : c.set = true → ∀ i a, c.start ≤ i → i < k → (s.x first).toNat ≤ a →
      a < (s.x first).toNat + c.inputSize → ¬ ZeroesByte map input i a) :
    registerCall map cpu cpuCount clock first w₃ s' = registerCall map cpu cpuCount clock first w₁ s := by
  have hcount := Control.count_lt w₁
  rw [h₁] at hcount
  have hwhole : accept map cpu s first (Control.ofWord w₁) = .ok (input, out) := by rw [h₁, h]
  have hlen : c.count - c.start = (k - c.start) + (c.count - k) := by omega
  have hnext : c.start + (k - c.start) = k := by omega
  obtain ⟨input', out', h'⟩ : ∃ input' out',
      accept map cpu s first { c with count := k } = .ok (input', out') := by
    cases hacc : accept map cpu s first { c with count := k } with
    | error e =>
      rw [registerCall_error (by rw [h₂, hacc])] at hfirst
      exact absurd (Prod.mk.inj hfirst).2 (code_ne_statusWord e .success (by omega) (by omega))
    | ok p => exact ⟨p.1, p.2, rfl⟩
  by_cases hset : c.set = true
  · obtain ⟨hx, hpart⟩ := first_set h₁ h₂ hslow hs hk h hfirst h' hset
    have hmem : ∀ a, (s.x first).toNat ≤ a → a < (s.x first).toNat + c.inputSize →
        s'.hv.mem a = s.hv.mem a := by
      intro a hge hlt
      by_contra hne
      have hchanged : (setFrom map cpu clock input (k - c.start) c.start s.hv).1.mem a ≠
          s.hv.mem a := by rw [hpart]; exact hne
      obtain ⟨i, hi, hik, hz⟩ := setFrom_mem _ _ _ hchanged
      rw [hpart] at hik
      exact hsafe hset i a hi hik hge hlt hz
    have hrest := resumed_accept hslow hk h hx hmem
    rw [← h₃] at hrest
    rw [registerCall_set hrest (by rw [h₃]; exact hset),
      registerCall_set hwhole (by rw [h₁]; exact hset), h₁, h₃]
    dsimp only
    rw [hlen, setFrom_append _ hpart, hnext, hx]
  · have hget := Bool.eq_false_of_not_eq_true hset
    have hpart := first_get h₁ h₂ hslow hs hk h hfirst h' hget
    obtain ⟨-, hout⟩ := parameters_slow hslow (accept_ok_iff.mp h).2.1
    obtain ⟨hout, hapart⟩ := hout hget
    have hr : GetReport cpu cpuCount clock input out (k - c.start) c.start s
        (getFrom cpu cpuCount clock input out (k - c.start) c.start s) := getFrom_report _ _ _
    rw [hpart] at hr
    have hx : s'.x = s.x := by
      funext j
      apply hr.regs
      intro i _ _ hslot
      rw [hout] at hslot
      exact hslot
    have hmem : ∀ a, (s.x first).toNat ≤ a → a < (s.x first).toNat + c.inputSize →
        s'.hv.mem a = s.hv.mem a := by
      intro a hge hlt
      apply hr.bytes
      intro i _ hi hslot
      have hik : i < k := hi
      have hin := slots_bytes hget h (hik.trans hk) hslot
      omega
    have hrest := resumed_accept hslow hk h hx hmem
    rw [← h₃] at hrest
    rw [registerCall_get hrest (by rw [h₃]; exact hget),
      registerCall_get hwhole (by rw [h₁]; exact hget), h₁, h₃]
    dsimp only
    rw [hlen, getFrom_append _ hpart, hnext]

end

variable {s t : CallState} {imm : Nat}

lemma uidCall_false (h : isRegisterCall imm s = true) : uidCall imm s = false := by
  simp only [isRegisterCall, decide_eq_true_eq] at h
  simp only [uidCall, decide_eq_false_iff_not]
  rintro ⟨rfl, hx⟩
  rcases h with h | ⟨-, h⟩
  · exact absurd h (by decide)
  · rw [h] at hx
    exact absurd hx (by decide)

lemma hypervCall_register {map : Map} {cpu cpuCount : Nat} {clock : Nat → UInt64}
    (h : isRegisterCall imm s = true) : hypervCall map cpu cpuCount clock imm s =
      if 64 ≤ cpu then some { s with x := update s.x 0 Status.invalidVp.code } else
        let r := registerCall map cpu cpuCount clock (controlReg imm + 1) (s.x (controlReg imm)) s
        some { r.1 with x := update r.1.x 0 r.2 } := by
  have huid := uidCall_false h
  unfold hypervCall
  rw [if_neg (by simp [h]), if_neg (by simp [huid])]

variable {R B : Nat → Prop}

lemma Agrees.update (h : Agrees R B s t) (w : UInt64) :
    Agrees R B { s with x := update s.x 0 w } { t with x := update t.x 0 w } := by
  refine ⟨h.state, ?_, h.bytes⟩
  intro j hj
  simp only [update_apply, h.regs j hj]

lemma isRegisterCall_congr (h : t.x 0 = s.x 0) : isRegisterCall imm t = isRegisterCall imm s := by
  unfold isRegisterCall
  rw [h]

lemma hypervCall_agrees {map : Map} {cpu cpuCount : Nat} {clock : Nat → UInt64}
    (hcall : isRegisterCall imm s = true) (h : Agrees R B s t) (h0 : R 0)
    (hR : ∀ j, controlReg imm ≤ j → j ≤ controlReg imm + 16 → R j)
    (hB : (Control.ofWord (s.x (controlReg imm))).fast = false →
      ∀ a, (s.x (controlReg imm + 1)).toNat ≤ a → a < (s.x (controlReg imm + 1)).toNat +
          (Control.ofWord (s.x (controlReg imm))).inputSize → B a) :
    ∃ s' t', hypervCall map cpu cpuCount clock imm s = some s' ∧
      hypervCall map cpu cpuCount clock imm t = some t' ∧ Agrees R B s' t' := by
  have hcall' : isRegisterCall imm t = true := by rw [isRegisterCall_congr (h.regs 0 h0), hcall]
  have hcontrol : t.x (controlReg imm) = s.x (controlReg imm) := h.regs _ (hR _ le_rfl (by omega))
  rw [hypervCall_register hcall, hypervCall_register hcall', hcontrol]
  by_cases hcpu : 64 ≤ cpu
  · rw [if_pos hcpu, if_pos hcpu]
    exact ⟨_, _, rfl, rfl, h.update _⟩
  rw [if_neg hcpu, if_neg hcpu]
  obtain ⟨hword, hstate⟩ := @registerCall_agrees map cpu cpuCount (controlReg imm + 1) clock
    (s.x (controlReg imm)) s R B t h (fun j hge hlt => hR j (by omega) (by omega)) hB
  dsimp only
  rw [hword]
  exact ⟨_, _, rfl, rfl, hstate.update _⟩

/-- A register call writes X0, its output and the pages it registers, looks at its parameters only,
and is refused unchanged or reports the elements before the first that fails. -/
theorem register_calls_confined (map : Map) (cpu cpuCount : Nat) (clock : Nat → UInt64) :
    (∀ imm s, isRegisterCall imm s = true →
      (64 ≤ cpu ∧ hypervCall map cpu cpuCount clock imm s =
        some { s with x := update s.x 0 Status.invalidVp.code }) ∨
      ∃ r : CallState × UInt64, hypervCall map cpu cpuCount clock imm s =
          some { r.1 with x := update r.1.x 0 r.2 } ∧
        CallReport map cpu cpuCount clock (controlReg imm + 1)
          (Control.ofWord (s.x (controlReg imm))) s r) ∧
    (∀ imm s t (R B : Nat → Prop), isRegisterCall imm s = true → Agrees R B s t → R 0 →
      (∀ j, controlReg imm ≤ j → j ≤ controlReg imm + 16 → R j) →
      ((Control.ofWord (s.x (controlReg imm))).fast = false →
        ∀ a, (s.x (controlReg imm + 1)).toNat ≤ a →
          a < (s.x (controlReg imm + 1)).toNat +
            (Control.ofWord (s.x (controlReg imm))).inputSize → B a) →
      ∃ s' t', hypervCall map cpu cpuCount clock imm s = some s' ∧
        hypervCall map cpu cpuCount clock imm t = some t' ∧ Agrees R B s' t') ∧
    (∀ first k s s' w₁ w₂ w₃ input out,
      let c := Control.ofWord w₁
      Control.ofWord w₂ = { c with count := k } → Control.ofWord w₃ = { c with start := k } →
      c.fast = false → c.start < k → k < c.count →
      accept map cpu s first c = .ok (input, out) →
      registerCall map cpu cpuCount clock first w₂ s = (s', statusWord .success k) →
      (c.set = true → ∀ i a, c.start ≤ i → i < k → (s.x first).toNat ≤ a →
        a < (s.x first).toNat + c.inputSize → ¬ ZeroesByte map input i a) →
      registerCall map cpu cpuCount clock first w₃ s' =
        registerCall map cpu cpuCount clock first w₁ s) := by
  refine ⟨?_, ?_, ?_⟩
  · intro imm s hcall
    rw [hypervCall_register hcall]
    split_ifs with hcpu
    · exact .inl ⟨hcpu, rfl⟩
    · exact .inr ⟨_, rfl, registerCall_report _ _⟩
  · intro imm s t R B hcall h h0 hR hB
    exact hypervCall_agrees hcall h h0 hR hB
  · intro first k s s' w₁ w₂ w₃ input out c h₂ h₃ hslow hs hk h hfirst hsafe
    exact registerCall_resume rfl h₂ hslow hs hk h hfirst h₃ hsafe

def listAt (elements : List (Nat × Nat)) : CallState where
  hv := { mem := put blank 0x1000 (leEnc 8 HV_PARTITION_SELF ++ leEnc 4 HV_VP_SELF ++ leEnc 4 0 ++
    elements.flatMap fun e => leEnc 4 e.1 ++ leEnc 12 0 ++ leEnc 8 e.2 ++ leEnc 8 0) }
  x := fun j => if j = 0 then 0x200000051 else if j = 1 then 0x1000 else 0

theorem register_calls_confined_split :
    let s := listAt [(0x90002, 7), (0x210, 9)]
    let part := registerCall (fun _ _ => true) 0 1 (fun _ => 0) 1 0x100000051 s
    isRegisterCall 1 s = true ∧ part.2 = statusWord .success 1 ∧
      registerCall (fun _ _ => true) 0 1 (fun _ => 0) 1 0x1000200000051 part.1 =
        registerCall (fun _ _ => true) 0 1 (fun _ => 0) 1 0x200000051 s := by
  intro s part
  have hword : part.2 = statusWord .success 1 := by decide +kernel
  refine ⟨by decide, hword, ?_⟩
  refine (register_calls_confined (fun _ _ => true) 0 1 (fun _ => 0)).2.2 1 1 s part.1 0x200000051
    0x100000051 0x1000200000051 (get s.hv.mem 0x1000 80) (.mem 0) (by decide) (by decide)
    (by decide) (by decide) (by decide) (by decide +kernel) (Prod.ext rfl hword) ?_
  intro _ i a _ hi _ _ hz
  obtain rfl : i = 0 := by omega
  exact absurd hz.1.2.1 (by decide +kernel)

/-- An element that fails leaves its name in the partition, and a first part that registers the
list's own page clears the list, so that the resumed call is refused. -/
theorem register_calls_leave_traces : (let s := listAt [(0x90002, 7), (0x1234, 0)]
     let input := get s.hv.mem 0x1000 80
     let r := registerCall (fun _ _ => true) 0 1 (fun _ => 0) 1 0x200000051 s
     r.2 = statusWord .invalidParameter 1 ∧ r.1.hv.failedRegisters = [0x1234] ∧
       (setFold (fun _ _ => true) 0 (fun _ => 0) input 0 1 s.hv).failedRegisters = []) ∧
    (let s := listAt [(0x90015, 0x1001), (0x90002, 7)]
     let one := registerCall (fun _ _ => true) 0 1 (fun _ => 0) 1 0x200000051 s
     let part := registerCall (fun _ _ => true) 0 1 (fun _ => 0) 1 0x100000051 s
     let rest := registerCall (fun _ _ => true) 0 1 (fun _ => 0) 1 0x1000200000051 part.1
     one.2 = statusWord .success 2 ∧ part.2 = statusWord .success 1 ∧
       rest.2 = Status.invalidPartition.code) := by
  refine ⟨?_, ?_⟩
  · decide +kernel
  · decide +kernel

end ScorpiHv.Hyperv

import ScorpiHv.Hyperv.Elements

/-!
# Register calls are confined and resumable

A list that is worked off in two calls has the effect of one call, unless the first part
registers a page that holds the list itself.
-/

namespace ScorpiHv.Hyperv
open Bytes

def Partition.withMem (hv : Partition) (m : Store) : Partition := { hv with mem := m }

def RegistersPage (map : Map) (name : UInt32) (v : Value) : Prop :=
  v.high = 0 ∧ name = 0x90015 ∧ v.low &&& (0xffe : UInt64) = 0 ∧ v.low &&& (1 : UInt64) ≠ 0 ∧
    map (pageOf v.low) HV_PAGE_SIZE = true

instance (map : Map) (name : UInt32) (v : Value) : Decidable (RegistersPage map name v) :=
  inferInstanceAs (Decidable (_ ∧ _))

def zeroPage (map : Map) (name : UInt32) (v : Value) (m : Store) : Store :=
  if RegistersPage map name v then
    put m (pageOf v.low).toNat (List.replicate HV_PAGE_SIZE 0)
  else m

section
variable (hv : Partition) (m : Store) (map : Map) (name : UInt32) (v : UInt64) (cpu : Nat)
  (now : UInt64)

lemma writeTimer_withMem : writeTimer (hv.withMem m) name v cpu now =
    ((writeTimer hv name v cpu now).1.withMem m, (writeTimer hv name v cpu now).2) := by
  unfold writeTimer
  by_cases hconfig : name &&& (1 : UInt32) = 0
  · split_ifs <;> rfl
  · rw [if_neg hconfig, if_neg hconfig]
    rfl

lemma writeSynthetic_withMem : writeSynthetic (hv.withMem m) map name v cpu now =
    (writeSynthetic hv map name v cpu now).map fun r => (r.1.withMem m, r.2) := by
  unfold writeSynthetic
  rw [writeTimer_withMem]
  split_ifs <;> rfl

lemma writeInfoPage_withMem : writeInfoPage (hv.withMem m) map v =
    ((writeInfoPage hv map v).1.withMem (zeroPage map 0x90015 ⟨v, 0⟩ m),
      (writeInfoPage hv map v).2) := by
  unfold writeInfoPage zeroPage
  by_cases hlow : v &&& (0xffe : UInt64) ≠ 0
  · have hno : ¬ RegistersPage map 0x90015 ⟨v, 0⟩ := fun h => hlow h.2.2.1
    rw [if_pos hlow, if_pos hlow, if_neg hno]
  rw [if_neg hlow, if_neg hlow]
  by_cases hon : v &&& (1 : UInt64) ≠ 0
  · rw [if_pos hon, if_pos hon]
    by_cases hmap : map (pageOf v) HV_PAGE_SIZE = false
    · have hno : ¬ RegistersPage map 0x90015 ⟨v, 0⟩ := by
        rintro ⟨-, -, -, -, hm⟩
        rw [hmap] at hm
        cases hm
      rw [if_pos hmap, if_pos hmap, if_neg hno]
    · have hyes : RegistersPage map 0x90015 ⟨v, 0⟩ :=
        ⟨rfl, rfl, not_not.mp hlow, hon, Bool.eq_true_of_not_eq_false hmap⟩
      rw [if_neg hmap, if_neg hmap, if_pos hyes]
      rfl
  · have hno : ¬ RegistersPage map 0x90015 ⟨v, 0⟩ := fun h => hon h.2.2.2.1
    rw [if_neg hon, if_neg hon, if_neg hno]
    rfl

lemma writeCommon_withMem : writeCommon (hv.withMem m) map name v cpu =
    ((writeCommon hv map name v cpu).1.withMem (zeroPage map name ⟨v, 0⟩ m),
      (writeCommon hv map name v cpu).2) := by
  by_cases hname : name = 0x90015
  · subst hname
    exact writeInfoPage_withMem hv m map v
  have hzero : zeroPage map name ⟨v, 0⟩ m = m := if_neg fun h => hname h.2.1
  rw [hzero]
  unfold writeCommon
  split_ifs <;> rfl

end

lemma writeRegister_withMem (hv : Partition) (m : Store) (map : Map) (name : UInt32) (v : Value)
    (cpu : Nat) (now : UInt64) : writeRegister (hv.withMem m) map name v cpu now =
      ((writeRegister hv map name v cpu now).1.withMem (zeroPage map name v m),
        (writeRegister hv map name v cpu now).2) := by
  obtain ⟨low, high⟩ := v
  have hcrash : (hv.withMem m).crashEnabled = hv.crashEnabled := rfl
  have htimers : (hv.withMem m).timersEnabled = hv.timersEnabled := rfl
  unfold writeRegister
  rw [hcrash, htimers]
  by_cases hhigh : high ≠ 0
  · have hzero : zeroPage map name ⟨low, high⟩ m = m := if_neg fun h => hhigh h.1
    rw [if_pos hhigh, if_pos hhigh, hzero]
  obtain rfl : high = 0 := not_not.mp hhigh
  rw [if_neg hhigh, if_neg hhigh]
  by_cases hoff : 0x210 ≤ name ∧ name ≤ 0x215 ∧ hv.crashEnabled = false
  · have hzero : zeroPage map name ⟨low, 0⟩ m = m := by
      apply if_neg
      rintro ⟨-, rfl, -⟩
      exact absurd hoff.2.1 (by decide)
    rw [if_pos hoff, if_pos hoff, hzero]
  · rw [if_neg hoff, if_neg hoff]
    by_cases hon : hv.timersEnabled = true
    · rw [if_pos hon, if_pos hon, writeSynthetic_withMem]
      cases hs : writeSynthetic hv map name low cpu now with
      | none => exact writeCommon_withMem hv m map name low cpu
      | some =>
        have hzero : zeroPage map name ⟨low, 0⟩ m = m := by
          apply if_neg
          rintro ⟨-, rfl, -⟩
          cases hs
        rw [hzero]
        rfl
    · rw [if_neg hon, if_neg hon]
      exact writeCommon_withMem hv m map name low cpu

lemma writeRegister_mem (hv : Partition) (map : Map) (name : UInt32) (v : Value) (cpu : Nat)
    (now : UInt64) : (writeRegister hv map name v cpu now).1.mem = zeroPage map name v hv.mem := by
  have h := writeRegister_withMem hv hv.mem map name v cpu now
  exact congrArg (fun r => r.1.mem) h

lemma zeroPage_outside {map : Map} {name : UInt32} {v : Value} {m : Store} {a : Nat}
    (h : zeroPage map name v m a ≠ m a) : RegistersPage map name v ∧
      (pageOf v.low).toNat ≤ a ∧ a < (pageOf v.low).toNat + HV_PAGE_SIZE := by
  unfold zeroPage at h
  split_ifs at h with hpage
  · refine ⟨hpage, ?_⟩
    by_contra hout
    apply h
    apply put_outside
    rw [List.length_replicate]
    omega
  · exact absurd rfl h

lemma zeroPage_congr {map : Map} {name : UInt32} {v : Value} {m m' : Store} {a : Nat}
    (h : m a = m' a) : zeroPage map name v m a = zeroPage map name v m' a := by
  unfold zeroPage
  split_ifs
  · unfold put
    rw [h]
  · exact h

/-- Two states with one partition, up to memory, that agree on registers and bytes. -/
structure Agrees (R B : Nat → Prop) (s t : CallState) : Prop where
  state : t.hv = s.hv.withMem t.hv.mem
  regs : ∀ j, R j → t.x j = s.x j
  bytes : ∀ a, B a → t.hv.mem a = s.hv.mem a

section
variable {map : Map} {cpu cpuCount : Nat} {clock : Nat → UInt64} {input : List UInt8}
  {out : Output}

def ZeroesByte (map : Map) (input : List UInt8) (i a : Nat) : Prop :=
  RegistersPage map (element input i).name (element input i).value ∧
    (pageOf (element input i).value.low).toNat ≤ a ∧
    a < (pageOf (element input i).value.low).toNat + HV_PAGE_SIZE

lemma setFailed_mem (hv : Partition) (i : Nat) : (setFailed input hv i).mem = hv.mem := by
  unfold setFailed
  split_ifs
  · rfl
  · exact (logFailure_same hv _).1

lemma setFrom_mem {a : Nat} (n : Nat) : ∀ (start : Nat) (hv : Partition),
    (setFrom map cpu clock input n start hv).1.mem a ≠ hv.mem a → ∃ i, start ≤ i ∧
    i < (setFrom map cpu clock input n start hv).2.2 ∧ ZeroesByte map input i a := by
  induction n with
  | zero =>
    intro start hv h
    exact absurd rfl h
  | succ n ih =>
    intro start hv h
    rw [setFrom_turn] at h ⊢
    by_cases hok : elementStatus map cpu clock input hv start = .success
    · rw [if_pos hok] at h ⊢
      have hreport : SetReport map cpu clock input n (start + 1)
          (setElement map cpu clock input hv start) _ := setFrom_report n _ _
      have hdone := hreport.from_start
      by_cases hlater : (setFrom map cpu clock input n (start + 1)
          (setElement map cpu clock input hv start)).1.mem a =
            (setElement map cpu clock input hv start).mem a
      · have hmem : (setElement map cpu clock input hv start).mem =
            zeroPage map (element input start).name (element input start).value hv.mem :=
          writeRegister_mem _ _ _ _ _ _
        rw [hlater, hmem] at h
        exact ⟨start, le_rfl, by omega, zeroPage_outside h⟩
      · obtain ⟨i, hi, hlt, hz⟩ := ih _ _ hlater
        exact ⟨i, by omega, hlt, hz⟩
    · rw [if_neg hok] at h
      exact absurd (congrFun (setFailed_mem hv start) a) h

lemma elementStatus_withMem (hv : Partition) (m : Store) (i : Nat) :
    elementStatus map cpu clock input (hv.withMem m) i = elementStatus map cpu clock input hv i := by
  unfold elementStatus
  rw [writeRegister_withMem]

lemma setElement_withMem (hv : Partition) (m : Store) (i : Nat) :
    setElement map cpu clock input (hv.withMem m) i =
      (setElement map cpu clock input hv i).withMem
        (zeroPage map (element input i).name (element input i).value m) := by
  unfold setElement
  rw [writeRegister_withMem]

lemma logFailure_withMem (hv : Partition) (m : Store) (name : UInt32) :
    logFailure (hv.withMem m) name = (logFailure hv name).withMem m := by
  have hkept : (hv.withMem m).failedRegisters = hv.failedRegisters := rfl
  unfold logFailure
  rw [hkept]
  split_ifs <;> rfl

lemma setFailed_withMem (hv : Partition) (m : Store) (i : Nat) :
    setFailed input (hv.withMem m) i = (setFailed input hv i).withMem m := by
  unfold setFailed
  rw [logFailure_withMem]
  split_ifs <;> rfl

lemma setFrom_withMem (n : Nat) : ∀ (start : Nat) (hv : Partition) (m : Store), ∃ m',
    setFrom map cpu clock input n start (hv.withMem m) =
        ((setFrom map cpu clock input n start hv).1.withMem m',
          (setFrom map cpu clock input n start hv).2) ∧
      ∀ a, m a = hv.mem a → m' a = (setFrom map cpu clock input n start hv).1.mem a := by
  induction n with
  | zero =>
    intro start hv m
    exact ⟨m, rfl, fun a ha => ha⟩
  | succ n ih =>
    intro start hv m
    rw [setFrom_turn, setFrom_turn, elementStatus_withMem]
    by_cases hok : elementStatus map cpu clock input hv start = .success
    · rw [if_pos hok, if_pos hok, setElement_withMem]
      obtain ⟨m', heq, hsame⟩ := ih (start + 1) (setElement map cpu clock input hv start)
        (zeroPage map (element input start).name (element input start).value m)
      refine ⟨m', heq, ?_⟩
      intro a ha
      apply hsame
      have hmem : (setElement map cpu clock input hv start).mem =
          zeroPage map (element input start).name (element input start).value hv.mem :=
        writeRegister_mem _ _ _ _ _ _
      rw [hmem]
      exact zeroPage_congr ha
    · rw [if_neg hok, if_neg hok, setFailed_withMem]
      refine ⟨m, rfl, ?_⟩
      intro a ha
      rw [ha]
      exact (congrFun (setFailed_mem hv start) a).symm

lemma getElement_withMem (hv : Partition) (m : Store) (i : Nat) :
    getElement cpu cpuCount clock input (hv.withMem m) i =
      (getElement cpu cpuCount clock input hv i).withMem m := by
  unfold getElement readRegister
  split_ifs <;> rfl

variable {R B : Nat → Prop} {s t : CallState}

lemma Agrees.store (h : Agrees R B s t) (i : Nat) (v : Value) :
    Agrees R B (out.store i v s) (out.store i v t) := by
  cases out with
  | regs =>
    refine ⟨h.state, ?_, h.bytes⟩
    intro j hj
    simp only [Output.store, Function.update_apply, h.regs j hj]
  | mem =>
    refine ⟨?_, h.regs, ?_⟩
    · have hstate := h.state
      simp only [Output.store, Partition.withMem] at hstate ⊢
      rw [hstate]
    · intro a ha
      simp only [Output.store, put, h.bytes a ha]

lemma Agrees.getElement (h : Agrees R B s t) (i : Nat) :
    Agrees R B { s with hv := getElement cpu cpuCount clock input s.hv i }
      { t with hv := getElement cpu cpuCount clock input t.hv i } := by
  have hs : (Hyperv.getElement cpu cpuCount clock input s.hv i).mem = s.hv.mem := getElement_mem s.hv i
  have ht : (Hyperv.getElement cpu cpuCount clock input t.hv i).mem = t.hv.mem := getElement_mem t.hv i
  refine ⟨?_, h.regs, ?_⟩
  · dsimp only
    rw [ht]
    conv_lhs => rw [h.state]
    exact getElement_withMem _ _ _
  · intro a ha
    dsimp only
    rw [hs, ht]
    exact h.bytes a ha

lemma getFrom_agrees (n : Nat) : ∀ (start : Nat) {s t : CallState}, Agrees R B s t →
    (getFrom cpu cpuCount clock input out n start t).2 =
        (getFrom cpu cpuCount clock input out n start s).2 ∧
      Agrees R B (getFrom cpu cpuCount clock input out n start s).1
        (getFrom cpu cpuCount clock input out n start t).1 := by
  induction n with
  | zero =>
    intro start s t h
    exact ⟨rfl, h⟩
  | succ n ih =>
    intro start s t h
    have hvalue : getValue cpu cpuCount clock input t.hv start =
        getValue cpu cpuCount clock input s.hv start := by
      rw [h.state]
      rfl
    rw [getFrom_turn, getFrom_turn, hvalue]
    cases hv : getValue cpu cpuCount clock input s.hv start with
    | none =>
      refine ⟨rfl, ?_, h.regs, ?_⟩
      · rw [(logFailure_same t.hv _).1]
        conv_lhs => rw [h.state]
        exact logFailure_withMem _ _ _
      · intro a ha
        rw [(logFailure_same t.hv _).1, (logFailure_same s.hv _).1]
        exact h.bytes a ha
    | some v => exact ih _ ((h.getElement start).store start v)

lemma setFrom_agrees (n start : Nat) (h : Agrees R B s t) :
    (setFrom map cpu clock input n start t.hv).2 = (setFrom map cpu clock input n start s.hv).2 ∧
    Agrees R B { s with hv := (setFrom map cpu clock input n start s.hv).1 }
        { t with hv := (setFrom map cpu clock input n start t.hv).1 } := by
  obtain ⟨m', heq, hsame⟩ := @setFrom_withMem map cpu clock input n start s.hv t.hv.mem
  rw [← h.state] at heq
  rw [heq]
  refine ⟨rfl, rfl, h.regs, ?_⟩
  intro a ha
  exact hsame a (h.bytes a ha)

end

structure Control.Fits (c : Control) : Prop where
  code : c.code = HV_GET_REGISTERS ∨ c.code = HV_SET_REGISTERS
  clear : c.clear = true
  start_lt : c.start < c.count
  input : c.inputSize ≤ HV_PAGE_SIZE
  output : c.outputSize ≤ HV_PAGE_SIZE

structure HeaderFits (cpu : Nat) (input : List UInt8) : Prop where
  partition : field input 0 8 = HV_PARTITION_SELF
  vp : field input 8 4 = HV_VP_SELF ∨ field input 8 4 = cpu
  vtl : field input 12 4 = 0

section
variable {map : Map} {cpu first : Nat} {s : CallState} {c : Control} {input : List UInt8}
  {out : Output}

lemma accept_ok_iff : accept map cpu s first c = .ok (input, out) ↔
    c.Fits ∧ parameters map s first c = .ok (input, out) ∧ HeaderFits cpu input := by
  constructor
  · intro h
    unfold accept at h
    split_ifs at h with hcode hcount hsize
    have hfits : c.Fits := by
      refine ⟨?_, ?_, ?_, ?_, ?_⟩
      · by_contra hc
        exact hcode (not_or.mp hc)
      · exact Bool.eq_true_of_not_eq_false fun hc => hcount (.inl hc)
      · by_contra hc
        exact hcount (.inr (.inr (not_lt.mp hc)))
      · exact not_lt.mp fun hc => hsize (.inl hc)
      · exact not_lt.mp fun hc => hsize (.inr hc)
    cases hp : parameters map s first c with
    | error =>
      rw [hp] at h
      cases h
    | ok =>
      rw [hp] at h
      dsimp only at h
      split_ifs at h with hpart hvp hvtl
      cases h
      refine ⟨hfits, rfl, not_not.mp hpart, ?_, not_not.mp hvtl⟩
      by_contra hc
      exact hvp (not_or.mp hc)
  · rintro ⟨hfits, hp, hpart, hvp, hvtl⟩
    have hcode : ¬ (c.code ≠ HV_GET_REGISTERS ∧ c.code ≠ HV_SET_REGISTERS) :=
      fun h => hfits.code.elim h.1 h.2
    have hcount : ¬ (c.clear = false ∨ c.count = 0 ∨ c.count ≤ c.start) := by
      have hlt := hfits.start_lt
      rw [hfits.clear]
      simp only [reduceCtorEq, false_or]
      omega
    have hsize : ¬ (HV_PAGE_SIZE < c.inputSize ∨ HV_PAGE_SIZE < c.outputSize) := by
      have hin := hfits.input
      have hout := hfits.output
      omega
    have hself : ¬ (field input 8 4 ≠ HV_VP_SELF ∧ field input 8 4 ≠ cpu) := fun h => hvp.elim h.1 h.2
    unfold accept
    rw [if_neg hcode, if_neg hcount, if_neg hsize, hp]
    dsimp only
    rw [if_neg (not_not.mpr hpart), if_neg hself, if_neg (not_not.mpr hvtl)]

lemma parameters_fast (hf : c.fast = true) (h : parameters map s first c = .ok (input, out)) :
    input = (regBytes s.x first).take c.inputSize ∧ (c.set = false → c.padded + c.outputSize ≤ 128) ∧
    out = .regs (first + (if c.set = false ∧ first = 1 then 128 - c.outputSize else c.padded) / 8) := by
  unfold parameters at h
  rw [if_pos hf] at h
  split at h
  · cases h
  rename_i hsize
  cases h
  exact ⟨rfl, fun hget => not_lt.mp fun hlt => hsize (.inr ⟨hget, hlt⟩), rfl⟩

lemma parameters_slow (hf : c.fast = false) (h : parameters map s first c = .ok (input, out)) :
    input = get s.hv.mem (s.x first).toNat c.inputSize ∧
      (c.set = false → out = .mem (s.x (first + 1)).toNat ∧
        ((s.x (first + 1)).toNat + c.outputSize ≤ (s.x first).toNat ∨
          (s.x first).toNat + c.inputSize ≤ (s.x (first + 1)).toNat)) := by
  have hslow : ¬ c.fast = true := by simp [hf]
  unfold parameters at h
  split_ifs at h with hin hset hout <;> cases h
  · exact ⟨rfl, fun hget => absurd hset (by simp [hget])⟩
  · refine ⟨rfl, fun _ => ⟨rfl, ?_⟩⟩
    omega

lemma slots_regs (hget : c.set = false) (h : accept map cpu s first c = .ok (input, out))
    {i j : Nat} (hi : i < c.count) (hj : out.InRegs i j) : first ≤ j ∧ j < first + 16 := by
  obtain ⟨-, hp, -⟩ := accept_ok_iff.mp h
  have hsize : c.outputSize = c.count * 16 := by simp [Control.outputSize, hget]
  by_cases hf : c.fast = true
  · obtain ⟨-, hfit, rfl⟩ := parameters_fast hf hp
    have hfit := hfit hget
    simp only [Output.InRegs] at hj
    split_ifs at hj <;> omega
  · have hslow := parameters_slow (Bool.eq_false_of_not_eq_true hf) hp
    rw [(hslow.2 hget).1] at hj
    exact absurd hj id

lemma slots_bytes (hget : c.set = false) (h : accept map cpu s first c = .ok (input, out))
    {i a : Nat} (hi : i < c.count) (ha : out.InBytes i a) : c.fast = false ∧
      (s.x (first + 1)).toNat ≤ a ∧ a < (s.x (first + 1)).toNat + c.outputSize := by
  obtain ⟨-, hp, -⟩ := accept_ok_iff.mp h
  have hsize : c.outputSize = c.count * 16 := by simp [Control.outputSize, hget]
  by_cases hf : c.fast = true
  · obtain ⟨-, -, rfl⟩ := parameters_fast hf hp
    exact absurd ha id
  have hf := Bool.eq_false_of_not_eq_true hf
  have hslow := parameters_slow hf hp
  rw [(hslow.2 hget).1] at ha
  simp only [Output.InBytes] at ha
  exact ⟨hf, by omega, by omega⟩

lemma regBytes_congr {x y : Nat → UInt64} (h : ∀ j, first ≤ j → j < first + 16 → x j = y j) :
    regBytes x first = regBytes y first := by
  apply List.flatMap_congr
  intro i hi
  have hlt := List.mem_range.mp hi
  rw [h (first + i) (by omega) (by omega)]

lemma accept_agrees {R B : Nat → Prop} {t : CallState} (h : Agrees R B s t)
    (hR : ∀ j, first ≤ j → j < first + 16 → R j)
    (hB : c.fast = false → ∀ a, (s.x first).toNat ≤ a → a < (s.x first).toNat + c.inputSize → B a) :
    accept map cpu t first c = accept map cpu s first c := by
  have hx : ∀ j, first ≤ j → j < first + 16 → t.x j = s.x j := fun j hge hlt => h.regs j (hR j hge hlt)
  have hp : parameters map t first c = parameters map s first c := by
    unfold parameters
    rw [regBytes_congr hx, hx first le_rfl (by omega), hx (first + 1) (by omega) (by omega)]
    by_cases hf : c.fast = true
    · rw [if_pos hf, if_pos hf]
    have hget : get t.hv.mem (s.x first).toNat c.inputSize =
        get s.hv.mem (s.x first).toNat c.inputSize :=
      get_congr fun a hge hlt => h.bytes a (hB (Bool.eq_false_of_not_eq_true hf) a hge hlt)
    rw [if_neg hf, if_neg hf, hget]
  unfold accept
  rw [hp]

end

lemma Status.code_lt (st : Status) : st.code.toNat < 2 ^ 32 := by cases st <;> decide

lemma statusWord_toNat (st : Status) {done : Nat} (h : done < 2 ^ 12) :
    (statusWord st done).toNat = done * 2 ^ 32 + st.code.toNat := by
  have hcode := st.code_lt
  have hshift : (UInt64.ofNat done <<< (32 : UInt64)).toNat = done <<< 32 := by
    rw [UInt64.toNat_shiftLeft, UInt64.toNat_ofNat']
    have hmod : done % 2 ^ 64 = done := Nat.mod_eq_of_lt (by omega)
    have h32 : (32 : UInt64).toNat % 64 = 32 := by decide
    rw [hmod, h32, Nat.shiftLeft_eq]
    exact Nat.mod_eq_of_lt (by omega)
  unfold statusWord
  rw [UInt64.toNat_or, hshift, Nat.or_comm, ← Nat.shiftLeft_add_eq_or_of_lt hcode, Nat.shiftLeft_eq]

lemma Status.code_inj {a b : Status} (h : a.code.toNat = b.code.toNat) : a = b := by
  cases a <;> cases b <;> first | rfl | exact absurd h (by decide)

lemma statusWord_inj {a b : Status} {m n : Nat} (hm : m < 2 ^ 12) (hn : n < 2 ^ 12)
    (h : statusWord a m = statusWord b n) : a = b ∧ m = n := by
  have heq := congrArg UInt64.toNat h
  rw [statusWord_toNat a hm, statusWord_toNat b hn] at heq
  have ha := a.code_lt
  have hb := b.code_lt
  have hdone : m = n := by omega
  exact ⟨Status.code_inj (by omega), hdone⟩

lemma code_ne_statusWord (a b : Status) {done : Nat} (hpos : 0 < done) (h : done < 2 ^ 12) :
    a.code ≠ statusWord b done := by
  intro heq
  have hnat := congrArg UInt64.toNat heq
  rw [statusWord_toNat b h] at hnat
  have ha := a.code_lt
  omega

lemma Control.count_lt (w : UInt64) : (Control.ofWord w).count < 2 ^ 12 := by
  have h : ((w >>> (32 : UInt64)) &&& (0xfff : UInt64)).toNat ≤ (0xfff : UInt64).toNat := by
    exact Nat.and_le_right
  have hmask : (0xfff : UInt64).toNat = 4095 := by decide
  have hcount : (Control.ofWord w).count = ((w >>> (32 : UInt64)) &&& (0xfff : UInt64)).toNat := rfl
  omega

variable {map : Map} {cpu cpuCount : Nat} {clock : Nat → UInt64} {input input' : List UInt8}
  {out : Output}

lemma field_take {n off len : Nat} (h : off + len ≤ n) :
    field (input.take n) off len = field input off len := by
  have hmin : min len (n - off) = len := by omega
  unfold field
  rw [List.drop_take, List.take_take, hmin]

lemma element_take {n i : Nat} (h : HEADER_SIZE + (i + 1) * ELEMENT_SIZE ≤ n) :
    element (input.take n) i = element input i := by
  simp only [HEADER_SIZE, ELEMENT_SIZE] at h
  have hfield : ∀ off len, off + len ≤ 16 + i * 32 + 32 →
      field (input.take n) off len = field input off len := fun off len hle => field_take (by omega)
  unfold element HEADER_SIZE ELEMENT_SIZE
  dsimp only
  rw [hfield _ _ (by omega), hfield _ _ (by omega), hfield _ _ (by omega), hfield _ _ (by omega),
    hfield _ _ (by omega), hfield _ _ (by omega)]

lemma getName_take {n i : Nat} (h : HEADER_SIZE + (i + 1) * 4 ≤ n) :
    getName (input.take n) i = getName input i := by
  unfold getName
  rw [field_take (by omega)]

lemma setFrom_congr (n : Nat) : ∀ (start : Nat) (hv : Partition),
    (∀ i, start ≤ i → i < start + n → element input i = element input' i) →
      setFrom map cpu clock input n start hv = setFrom map cpu clock input' n start hv := by
  induction n with
  | zero =>
    intro start hv _
    rfl
  | succ n ih =>
    intro start hv h
    have hfirst := h start le_rfl (by omega)
    have hrest : ∀ hv', setFrom map cpu clock input n (start + 1) hv' =
        setFrom map cpu clock input' n (start + 1) hv' :=
      fun hv' => ih (start + 1) hv' fun i hge hlt => h i (by omega) (by omega)
    rw [setFrom_turn, setFrom_turn, hrest]
    unfold elementStatus setElement setFailed
    rw [hfirst]

lemma getFrom_congr (n : Nat) : ∀ (start : Nat) (s : CallState),
    (∀ i, start ≤ i → i < start + n → getName input i = getName input' i) →
    getFrom cpu cpuCount clock input out n start s = getFrom cpu cpuCount clock input' out n start s := by
  induction n with
  | zero =>
    intro start s _
    rfl
  | succ n ih =>
    intro start s h
    have hfirst := h start le_rfl (by omega)
    have hrest : ∀ s', getFrom cpu cpuCount clock input out n (start + 1) s' =
        getFrom cpu cpuCount clock input' out n (start + 1) s' :=
      fun s' => ih (start + 1) s' fun i hge hlt => h i (by omega) (by omega)
    rw [getFrom_turn, getFrom_turn]
    unfold getValue getElement
    rw [hfirst]
    cases registerValue s.hv (getName input' start) cpu cpuCount (clock start) with
    | none => rfl
    | some => exact hrest _

end ScorpiHv.Hyperv

import ScorpiHv.Hyperv.Registers

/-!
# What a register call reports

The loops of `register_call` stop at the first element that fails. A SET is the fold of
`write_register` over those before it, a GET fills their slots and no others.
-/

namespace ScorpiHv.Hyperv
open Function Bytes

def HV_GET_REGISTERS : Nat := 0x50
def HV_SET_REGISTERS : Nat := 0x51
def HV_PARTITION_SELF : Nat := 0xffffffffffffffff
def HV_VP_SELF : Nat := 0xfffffffe

/-- `sizeof(struct hv_header)` -/
def HEADER_SIZE : Nat := 16

/-- `sizeof(struct hv_set_element)` -/
def ELEMENT_SIZE : Nat := 32

/-- A control word. `clear` is whether its other bits are zero. -/
structure Control where
  code : Nat
  count : Nat
  start : Nat
  fast : Bool
  clear : Bool
  deriving DecidableEq

def Control.ofWord (w : UInt64) : Control where
  code := (w &&& (0xffff : UInt64)).toNat
  count := ((w >>> (32 : UInt64)) &&& (0xfff : UInt64)).toNat
  start := ((w >>> (48 : UInt64)) &&& (0xfff : UInt64)).toNat
  fast := decide (w &&& (0x10000 : UInt64) ≠ 0)
  clear := decide (w &&& ~~~(0x0fff0fff0001ffff : UInt64) = 0)

namespace Control
variable (c : Control)

def set : Bool := decide (c.code = HV_SET_REGISTERS)
def inputSize : Nat := HEADER_SIZE + c.count * (if c.set then ELEMENT_SIZE else 4)
def outputSize : Nat := if c.set then 0 else c.count * 16

def padded : Nat := (c.inputSize + 15) / 16 * 16

end Control

/-- The registers X0..X17 and the partition. -/
structure CallState where
  hv : Partition
  x : Nat → UInt64

/-- Where the values go: the register of the first slot, or its address. -/
inductive Output where
  | regs (base : Nat)
  | mem (gpa : Nat)
  deriving DecidableEq

section
variable (map : Map) (cpu : Nat) (s : CallState) (first : Nat) (c : Control)

def mapParameters (gpa : UInt64) (size : Nat) : Bool :=
  decide (gpa &&& (7 : UInt64) = 0) && decide (size ≤ HV_PAGE_SIZE - gpa.toNat % HV_PAGE_SIZE) &&
    decide (gpa.toNat ≤ U64_MAX.toNat - size) && map gpa size

def regBytes (x : Nat → UInt64) (first : Nat) : List UInt8 :=
  (List.range 16).flatMap fun i => leEnc 8 (x (first + i)).toNat

def parameters : Except Status (List UInt8 × Output) :=
  if c.fast then
    if 128 < c.inputSize ∨ (c.set = false ∧ 128 < c.padded + c.outputSize) then
      .error .invalidInput
    else
      let offset := if c.set = false ∧ first = 1 then 128 - c.outputSize else c.padded
      .ok ((regBytes s.x first).take c.inputSize, .regs (first + offset / 8))
  else if mapParameters map (s.x first) c.inputSize = false then .error .invalidAlignment
  else
    let input := get s.hv.mem (s.x first).toNat c.inputSize
    if c.set then .ok (input, .mem 0)
    else if mapParameters map (s.x (first + 1)) c.outputSize = false ∨
        ((s.x first).toNat < (s.x (first + 1)).toNat + c.outputSize ∧
          (s.x (first + 1)).toNat < (s.x first).toNat + c.inputSize) then .error .invalidAlignment
    else .ok (input, .mem (s.x (first + 1)).toNat)

def field (input : List UInt8) (off len : Nat) : Nat := leDec ((input.drop off).take len)

def accept : Except Status (List UInt8 × Output) :=
  if c.code ≠ HV_GET_REGISTERS ∧ c.code ≠ HV_SET_REGISTERS then .error .invalidCode
  else if c.clear = false ∨ c.count = 0 ∨ c.count ≤ c.start then .error .invalidInput
  else if HV_PAGE_SIZE < c.inputSize ∨ HV_PAGE_SIZE < c.outputSize then .error .invalidInput
  else match parameters map s first c with
    | .error e => .error e
    | .ok (input, out) =>
      if field input 0 8 ≠ HV_PARTITION_SELF then .error .invalidPartition
      else if field input 8 4 ≠ HV_VP_SELF ∧ field input 8 4 ≠ cpu then .error .invalidVp
      else if field input 12 4 ≠ 0 then .error .invalidInput
      else .ok (input, out)

end

structure Element where
  name : UInt32
  reserved : Nat × Nat × Nat
  value : Value

def element (input : List UInt8) (i : Nat) : Element :=
  let off := HEADER_SIZE + i * ELEMENT_SIZE
  { name := UInt32.ofNat (field input off 4)
    reserved := (field input (off + 4) 4, field input (off + 8) 4, field input (off + 12) 4)
    value := ⟨UInt64.ofNat (field input (off + 16) 8), UInt64.ofNat (field input (off + 24) 8)⟩ }

def getName (input : List UInt8) (i : Nat) : UInt32 :=
  UInt32.ofNat (field input (HEADER_SIZE + i * 4) 4)

def logFailure (hv : Partition) (name : UInt32) : Partition :=
  if name ∈ hv.failedRegisters ∨ 16 ≤ hv.failedRegisters.length then hv
  else { hv with failedRegisters := hv.failedRegisters ++ [name] }

section
variable (map : Map) (cpu cpuCount : Nat) (clock : Nat → UInt64) (input : List UInt8)

/-- The loop of a SET over `n` elements from `done` on. -/
def setFrom : Nat → Nat → Partition → Partition × Status × Nat
  | 0, done, hv => (hv, .success, done)
  | n + 1, done, hv =>
    let e := element input done
    if e.reserved ≠ (0, 0, 0) then (hv, .invalidParameter, done)
    else
      let r := writeRegister hv map e.name e.value cpu (clock done)
      if r.2 ≠ .success then (logFailure r.1 e.name, r.2, done) else setFrom n (done + 1) r.1

def Output.store (out : Output) (i : Nat) (v : Value) (s : CallState) : CallState :=
  match out with
  | .regs base =>
    { s with x := update (update s.x (base + 2 * i) v.low) (base + 2 * i + 1) v.high }
  | .mem gpa =>
    { s with hv := { s.hv with
      mem := put s.hv.mem (gpa + 16 * i) (leEnc 8 v.low.toNat ++ leEnc 8 v.high.toNat) } }

def getFrom (out : Output) : Nat → Nat → CallState → CallState × Status × Nat
  | 0, done, s => (s, .success, done)
  | n + 1, done, s =>
    let name := getName input done
    let r := readRegister s.hv name cpu cpuCount (clock done)
    match r.2 with
    | none => ({ s with hv := logFailure r.1 name }, .invalidParameter, done)
    | some v => getFrom out n (done + 1) (out.store done v { s with hv := r.1 })

end

def statusWord (status : Status) (done : Nat) : UInt64 :=
  status.code ||| (UInt64.ofNat done <<< (32 : UInt64))

def registerCall (map : Map) (cpu cpuCount : Nat) (clock : Nat → UInt64) (first : Nat)
    (control : UInt64) (s : CallState) : CallState × UInt64 :=
  let c := Control.ofWord control
  match accept map cpu s first c with
  | .error e => (s, e.code)
  | .ok (input, out) =>
    if c.set then
      let r := setFrom map cpu clock input (c.count - c.start) c.start s.hv
      ({ s with hv := r.1 }, statusWord r.2.1 r.2.2)
    else
      let r := getFrom cpu cpuCount clock input out (c.count - c.start) c.start s
      (r.1, statusWord r.2.1 r.2.2)

def uidCall (imm : Nat) (s : CallState) : Bool :=
  decide (imm = 0 ∧ (s.x 0 = 0x8600ff01 ∨ s.x 0 = 0xc600ff01))

def isRegisterCall (imm : Nat) (s : CallState) : Bool :=
  decide (imm = 1 ∨ (imm = 0 ∧ s.x 0 = 0x46000001))

def controlReg (imm : Nat) : Nat := if imm = 1 then 0 else 1

/-- `arm64_hyperv_call`: nothing for a call that is not Hyper-V's. -/
def hypervCall (map : Map) (cpu cpuCount : Nat) (clock : Nat → UInt64) (imm : Nat)
    (s : CallState) : Option CallState :=
  if uidCall imm s = false ∧ isRegisterCall imm s = false then none
  else if uidCall imm s then
    let uid : List UInt64 := [0x4d32ba58, 0xcd244764, 0x8eef6c75, 0x16597024]
    some { hv := { s.hv with discovered := true }
           x := fun j => (uid[j]?).getD (s.x j) }
  else if 64 ≤ cpu then some { s with x := update s.x 0 Status.invalidVp.code }
  else
    let r := registerCall map cpu cpuCount clock (controlReg imm + 1) (s.x (controlReg imm)) s
    some { r.1 with x := update r.1.x 0 r.2 }

section
variable {hv : Partition} {map : Map} {name : UInt32} {v : UInt64} {cpu : Nat} {now : UInt64}

lemma writeTimer_failed (h : (writeTimer hv name v cpu now).2 ≠ .success) :
    (writeTimer hv name v cpu now).1 = hv := by
  unfold writeTimer at h ⊢
  split_ifs at h ⊢ <;> first | rfl | exact absurd rfl h

lemma writeSynthetic_failed {r : Partition × Status}
    (hr : writeSynthetic hv map name v cpu now = some r) (h : r.2 ≠ .success) : r.1 = hv := by
  unfold writeSynthetic at hr
  split_ifs at hr <;> cases hr
  all_goals first | rfl | exact absurd rfl h | exact writeTimer_failed h

lemma writeInfoPage_failed (h : (writeInfoPage hv map v).2 ≠ .success) :
    (writeInfoPage hv map v).1 = hv := by
  unfold writeInfoPage at h ⊢
  split_ifs at h ⊢ <;> first | rfl | exact absurd rfl h

lemma writeCommon_failed (h : (writeCommon hv map name v cpu).2 ≠ .success) :
    (writeCommon hv map name v cpu).1 = hv := by
  unfold writeCommon at h ⊢
  split_ifs at h ⊢
  all_goals first | rfl | exact absurd rfl h | exact writeInfoPage_failed h

lemma writeRegister_failed {w : Value} (h : (writeRegister hv map name w cpu now).2 ≠ .success) :
    (writeRegister hv map name w cpu now).1 = hv := by
  unfold writeRegister at h ⊢
  split_ifs at h ⊢
  · rfl
  · rfl
  · cases hr : writeSynthetic hv map name w.low cpu now with
    | none =>
      rw [hr] at h
      exact writeCommon_failed h
    | some =>
      rw [hr] at h
      exact writeSynthetic_failed hr h
  · exact writeCommon_failed h

end

section
variable (map : Map) (cpu : Nat) (clock : Nat → UInt64) (input : List UInt8)

def elementStatus (hv : Partition) (i : Nat) : Status :=
  if (element input i).reserved ≠ (0, 0, 0) then .invalidParameter
  else (writeRegister hv map (element input i).name (element input i).value cpu (clock i)).2

/-- `write_register` of an element. -/
def setElement (hv : Partition) (i : Nat) : Partition :=
  (writeRegister hv map (element input i).name (element input i).value cpu (clock i)).1

/-- The left fold of `write_register` over the elements `start..done-1`. -/
def setFold (start done : Nat) (hv : Partition) : Partition :=
  (List.range' start (done - start)).foldl (setElement map cpu clock input) hv

/-- What an element that fails leaves: a name refused by `write_register` is kept. -/
def setFailed (hv : Partition) (i : Nat) : Partition :=
  if (element input i).reserved ≠ (0, 0, 0) then hv else logFailure hv (element input i).name

lemma setFold_self (start : Nat) (hv : Partition) : setFold map cpu clock input start start hv = hv := by
  simp [setFold]

lemma setFold_cons {start done : Nat} (h : start < done) (hv : Partition) :
    setFold map cpu clock input start done hv =
      setFold map cpu clock input (start + 1) done (setElement map cpu clock input hv start) := by
  have hlen : done - start = (done - (start + 1)) + 1 := by omega
  unfold setFold
  rw [hlen, List.range'_succ, List.foldl_cons]

structure SetReport (n start : Nat) (hv : Partition) (r : Partition × Status × Nat) : Prop where
  from_start : start ≤ r.2.2
  to_count : r.2.2 ≤ start + n
  before : ∀ i, start ≤ i → i < r.2.2 →
    elementStatus map cpu clock input (setFold map cpu clock input start i hv) i = .success
  outcome : (r.2.1 = .success ∧ r.2.2 = start + n ∧
      r.1 = setFold map cpu clock input start r.2.2 hv) ∨
    (r.2.1 ≠ .success ∧ r.2.2 < start + n ∧
      r.2.1 = elementStatus map cpu clock input
        (setFold map cpu clock input start r.2.2 hv) r.2.2 ∧
      r.1 = setFailed input (setFold map cpu clock input start r.2.2 hv) r.2.2)

variable {map cpu clock input}

lemma setFrom_turn (n start : Nat) (hv : Partition) :
    setFrom map cpu clock input (n + 1) start hv =
      if elementStatus map cpu clock input hv start = .success then
        setFrom map cpu clock input n (start + 1) (setElement map cpu clock input hv start)
      else (setFailed input hv start, elementStatus map cpu clock input hv start, start) := by
  conv_lhs => unfold setFrom
  unfold elementStatus setElement setFailed
  by_cases hres : (element input start).reserved ≠ (0, 0, 0)
  · simp only [if_pos hres, reduceCtorEq, if_false]
  simp only [if_neg hres]
  by_cases hok : (writeRegister hv map (element input start).name (element input start).value
      cpu (clock start)).2 = .success
  · rw [if_neg (not_not.mpr hok), if_pos hok]
  · rw [if_pos hok, if_neg hok, writeRegister_failed hok]

lemma setFrom_report (n : Nat) : ∀ (start : Nat) (hv : Partition),
    SetReport map cpu clock input n start hv (setFrom map cpu clock input n start hv) := by
  induction n with
  | zero =>
    intro start hv
    refine ⟨le_rfl, le_rfl, ?_, .inl ⟨rfl, rfl, (setFold_self map cpu clock input start hv).symm⟩⟩
    intro i hge hlt
    exact absurd hlt (not_lt.mpr hge)
  | succ n ih =>
    intro start hv
    rw [setFrom_turn]
    split_ifs with hok
    · obtain ⟨hge, hle, hbefore, hout⟩ := ih (start + 1) (setElement map cpu clock input hv start)
      generalize setFrom map cpu clock input n (start + 1) _ = r at hge hle hbefore hout ⊢
      have hfold : setFold map cpu clock input start r.2.2 hv =
          setFold map cpu clock input (start + 1) r.2.2
            (setElement map cpu clock input hv start) := setFold_cons _ _ _ _ (by omega) hv
      refine ⟨by omega, by omega, ?_, ?_⟩
      · intro i hi hlt
        rcases Nat.eq_or_lt_of_le hi with rfl | hi
        · rw [setFold_self]
          exact hok
        · rw [setFold_cons _ _ _ _ hi]
          exact hbefore i hi hlt
      · rw [hfold]
        rcases hout with ⟨hs, hd, hr⟩ | ⟨hs, hd, hr⟩
        · exact .inl ⟨hs, by omega, hr⟩
        · exact .inr ⟨hs, by omega, hr⟩
    · refine ⟨le_rfl, by dsimp only; omega, ?_, .inr ⟨hok, by dsimp only; omega, ?_, ?_⟩⟩
      · intro i hge hlt
        exact absurd hlt (not_lt.mpr hge)
      · rw [setFold_self]
      · rw [setFold_self]

/-- A loop whose first `k` elements succeed goes on from the state they leave. -/
lemma setFrom_append {k : Nat} (n : Nat) : ∀ {start : Nat} {hv hv' : Partition} {done : Nat},
    setFrom map cpu clock input k start hv = (hv', .success, done) →
    setFrom map cpu clock input (k + n) start hv = setFrom map cpu clock input n (start + k) hv' := by
  induction k with
  | zero =>
    intro start hv hv' done h
    cases h
    rw [Nat.zero_add, Nat.add_zero]
  | succ k ih =>
    intro start hv hv' done h
    have hlen : k + 1 + n = k + n + 1 := by omega
    have hnext : start + (k + 1) = start + 1 + k := by omega
    rw [hlen, hnext, setFrom_turn]
    rw [setFrom_turn] at h
    by_cases hok : elementStatus map cpu clock input hv start = .success
    · rw [if_pos hok] at h ⊢
      exact ih h
    · rw [if_neg hok] at h
      exact absurd (congrArg (fun r => r.2.1) h) hok

end

namespace Output
variable {out : Output} {s t : CallState} {v : Value} {i k j a : Nat}

def slot (out : Output) (s : CallState) (i : Nat) : Value :=
  match out with
  | .regs base => ⟨s.x (base + 2 * i), s.x (base + 2 * i + 1)⟩
  | .mem gpa => ⟨UInt64.ofNat (leDec (get s.hv.mem (gpa + 16 * i) 8)),
      UInt64.ofNat (leDec (get s.hv.mem (gpa + 16 * i + 8) 8))⟩

def InRegs (out : Output) (i j : Nat) : Prop :=
  match out with
  | .regs base => j = base + 2 * i ∨ j = base + 2 * i + 1
  | .mem _ => False

def InBytes (out : Output) (i a : Nat) : Prop :=
  match out with
  | .regs _ => False
  | .mem gpa => gpa + 16 * i ≤ a ∧ a < gpa + 16 * i + 16

lemma inRegs_inj (hi : out.InRegs i j) (hk : out.InRegs k j) : i = k := by
  cases out with
  | regs => simp only [InRegs] at hi hk; omega
  | mem => exact absurd hi id

lemma inBytes_inj (hi : out.InBytes i a) (hk : out.InBytes k a) : i = k := by
  cases out with
  | regs => exact absurd hi id
  | mem => simp only [InBytes] at hi hk; omega

lemma slot_congr (hx : ∀ j, out.InRegs i j → s.x j = t.x j)
    (hm : ∀ a, out.InBytes i a → s.hv.mem a = t.hv.mem a) : out.slot s i = out.slot t i := by
  cases out with
  | regs => simp only [slot, hx _ (.inl rfl), hx _ (.inr rfl)]
  | mem gpa =>
    have hlow : get s.hv.mem (gpa + 16 * i) 8 = get t.hv.mem (gpa + 16 * i) 8 :=
      get_congr fun a hge hlt => hm a ⟨by omega, by omega⟩
    have hhigh : get s.hv.mem (gpa + 16 * i + 8) 8 = get t.hv.mem (gpa + 16 * i + 8) 8 :=
      get_congr fun a hge hlt => hm a ⟨by omega, by omega⟩
    simp only [slot, hlow, hhigh]

lemma store_x (h : ¬ out.InRegs k j) : (out.store k v s).x j = s.x j := by
  cases out with
  | regs =>
    simp only [InRegs, not_or] at h
    simp only [store, update_of_ne h.2, update_of_ne h.1]
  | mem => rfl

lemma store_mem (h : ¬ out.InBytes k a) : (out.store k v s).hv.mem a = s.hv.mem a := by
  cases out with
  | regs => rfl
  | mem =>
    simp only [InBytes] at h
    apply put_outside
    simp only [List.length_append, leEnc_length]
    omega

lemma store_hv (out : Output) (k : Nat) (v : Value) (s : CallState) :
    (out.store k v s).hv = { s.hv with mem := (out.store k v s).hv.mem } := by cases out <;> rfl

lemma ofNat_leDec_leEnc (w : UInt64) : UInt64.ofNat (leDec (leEnc 8 w.toNat)) = w := by
  have hlt : w.toNat < 256 ^ 8 := w.toNat_lt
  rw [leDec_leEnc hlt, UInt64.ofNat_toNat]

lemma store_slot (out : Output) (i : Nat) (v : Value) (s : CallState) :
    out.slot (out.store i v s) i = v := by
  cases out with
  | regs => simp [slot, store]
  | mem gpa =>
    simp only [slot, store]
    have hlow : get (put s.hv.mem (gpa + 16 * i) (leEnc 8 v.low.toNat ++ leEnc 8 v.high.toNat))
        (gpa + 16 * i) 8 = leEnc 8 v.low.toNat := by
      rw [← put_append, get_put_disjoint (.inl (by simp))]
      have h := get_put_same s.hv.mem (gpa + 16 * i) (leEnc 8 v.low.toNat)
      rwa [leEnc_length] at h
    have hhigh : get (put s.hv.mem (gpa + 16 * i) (leEnc 8 v.low.toNat ++ leEnc 8 v.high.toNat))
        (gpa + 16 * i + 8) 8 = leEnc 8 v.high.toNat := by
      rw [← put_append, leEnc_length]
      have h := get_put_same (put s.hv.mem (gpa + 16 * i) (leEnc 8 v.low.toNat))
        (gpa + 16 * i + 8) (leEnc 8 v.high.toNat)
      rwa [leEnc_length] at h
    rw [hlow, hhigh, ofNat_leDec_leEnc, ofNat_leDec_leEnc]

end Output

/-- Nothing of the partition changed but its memory, the log of failed registers and whether the
interface was announced. -/
def Partition.Quiet (a b : Partition) : Prop :=
  b = { a with
    discovered := b.discovered
    mem := b.mem
    failedRegisters := b.failedRegisters }

lemma Partition.Quiet.trans {a b c : Partition} (hab : a.Quiet b) (hbc : b.Quiet c) : a.Quiet c := by
  rw [hab] at hbc
  exact hbc

lemma features_readable (hv : Partition) (cpu cpuCount : Nat) (now : UInt64) :
    registerValue hv 0x200 cpu cpuCount now ≠ none := by
  have hcrash : ¬ ((0x210 : UInt32) ≤ 0x200 ∧ (0x200 : UInt32) ≤ 0x215 ∧
      hv.crashEnabled = false) := fun h => absurd h.1 (by decide)
  unfold registerValue
  split_ifs <;> nofun

variable (cpu cpuCount : Nat) (clock : Nat → UInt64) (input : List UInt8) (out : Output)

def getValue (hv : Partition) (i : Nat) : Option Value :=
  registerValue hv (getName input i) cpu cpuCount (clock i)

def getElement (hv : Partition) (i : Nat) : Partition :=
  (readRegister hv (getName input i) cpu cpuCount (clock i)).1

structure GetReport (n start : Nat) (s : CallState) (r : CallState × Status × Nat) : Prop where
  from_start : start ≤ r.2.2
  to_count : r.2.2 ≤ start + n
  before : ∀ i, start ≤ i → i < r.2.2 →
    getValue cpu cpuCount clock input s.hv i = some (out.slot r.1 i)
  regs : ∀ j, (∀ i, start ≤ i → i < r.2.2 → ¬ out.InRegs i j) → r.1.x j = s.x j
  bytes : ∀ a, (∀ i, start ≤ i → i < r.2.2 → ¬ out.InBytes i a) → r.1.hv.mem a = s.hv.mem a
  quiet : s.hv.Quiet r.1.hv
  announced : r.1.hv.discovered = true ↔
    s.hv.discovered = true ∨ ∃ i, start ≤ i ∧ i < r.2.2 ∧ getName input i = 0x200
  outcome : (r.2.1 = .success ∧ r.2.2 = start + n ∧
      r.1.hv.failedRegisters = s.hv.failedRegisters) ∨
    (r.2.1 = .invalidParameter ∧ r.2.2 < start + n ∧
      getValue cpu cpuCount clock input s.hv r.2.2 = none ∧
      r.1.hv.failedRegisters = (logFailure s.hv (getName input r.2.2)).failedRegisters)

variable {cpu cpuCount clock input out}

lemma getElement_quiet (hv : Partition) (i : Nat) :
    hv.Quiet (getElement cpu cpuCount clock input hv i) := by
  unfold getElement readRegister Partition.Quiet
  split_ifs <;> rfl

lemma getElement_discovered (hv : Partition) (i : Nat) :
    (getElement cpu cpuCount clock input hv i).discovered = true ↔
      hv.discovered = true ∨ getName input i = 0x200 := by
  unfold getElement readRegister
  split_ifs with h <;> simp [h]

lemma getElement_mem (hv : Partition) (i : Nat) :
    (getElement cpu cpuCount clock input hv i).mem = hv.mem := by
  unfold getElement readRegister
  split_ifs <;> rfl

lemma getElement_failed (hv : Partition) (i : Nat) :
    (getElement cpu cpuCount clock input hv i).failedRegisters = hv.failedRegisters := by
  unfold getElement readRegister
  split_ifs <;> rfl

lemma getElement_none {hv : Partition} {i : Nat} (h : getValue cpu cpuCount clock input hv i = none) :
    getName input i ≠ 0x200 ∧ getElement cpu cpuCount clock input hv i = hv := by
  have hname : getName input i ≠ 0x200 := by
    intro hname
    unfold getValue at h
    rw [hname] at h
    exact features_readable _ _ _ _ h
  refine ⟨hname, ?_⟩
  unfold getElement readRegister
  rw [if_neg hname]

lemma logFailure_quiet (hv : Partition) (name : UInt32) : hv.Quiet (logFailure hv name) := by
  unfold logFailure Partition.Quiet
  split_ifs <;> rfl

lemma logFailure_same (hv : Partition) (name : UInt32) :
    (logFailure hv name).mem = hv.mem ∧ (logFailure hv name).discovered = hv.discovered := by
  unfold logFailure
  split_ifs <;> exact ⟨rfl, rfl⟩

lemma getFrom_turn (n start : Nat) (s : CallState) :
    getFrom cpu cpuCount clock input out (n + 1) start s =
      match getValue cpu cpuCount clock input s.hv start with
      | none => ({ s with hv := logFailure s.hv (getName input start) }, .invalidParameter, start)
      | some v => getFrom cpu cpuCount clock input out n (start + 1)
          (out.store start v { s with hv := getElement cpu cpuCount clock input s.hv start }) := by
  have hunfold : getFrom cpu cpuCount clock input out (n + 1) start s =
      match getValue cpu cpuCount clock input s.hv start with
      | none => ({ s with
          hv := logFailure (getElement cpu cpuCount clock input s.hv start) (getName input start) },
          .invalidParameter, start)
      | some v => getFrom cpu cpuCount clock input out n (start + 1)
          (out.store start v { s with hv := getElement cpu cpuCount clock input s.hv start }) := rfl
  rw [hunfold]
  cases h : getValue cpu cpuCount clock input s.hv start with
  | none => rw [(getElement_none h).2]
  | some => rfl

lemma stored_quiet (s : CallState) (i : Nat) (v : Value) :
    s.hv.Quiet (out.store i v { s with
      hv := getElement cpu cpuCount clock input s.hv i }).hv := by
  have hstore := Output.store_hv out i v { s with hv := getElement cpu cpuCount clock input s.hv i }
  have hq : s.hv.Quiet (getElement cpu cpuCount clock input s.hv i) := getElement_quiet s.hv i
  rw [hstore]
  unfold Partition.Quiet at hq ⊢
  rw [hq]

lemma getValue_quiet {a b : Partition} (h : a.Quiet b) (i : Nat) :
    getValue cpu cpuCount clock input b i = getValue cpu cpuCount clock input a i := by
  rw [h]
  rfl

lemma GetReport.cons {n start : Nat} {s : CallState} {v : Value}
    {r : CallState × Status × Nat} (hv : getValue cpu cpuCount clock input s.hv start = some v)
    (h : GetReport cpu cpuCount clock input out n (start + 1)
      (out.store start v { s with hv := getElement cpu cpuCount clock input s.hv start }) r) :
    GetReport cpu cpuCount clock input out (n + 1) start s r := by
  set s₁ := out.store start v { s with hv := getElement cpu cpuCount clock input s.hv start } with hs₁
  have hq : s.hv.Quiet s₁.hv := stored_quiet s start v
  have hge := h.from_start
  have hle := h.to_count
  have hkept : s₁.hv.failedRegisters = s.hv.failedRegisters := by
    rw [hs₁, Output.store_hv]
    exact getElement_failed s.hv start
  have hlog : (logFailure s₁.hv (getName input r.2.2)).failedRegisters =
      (logFailure s.hv (getName input r.2.2)).failedRegisters := by
    unfold logFailure
    rw [hkept]
    split_ifs
    · exact hkept
    · rfl
  refine ⟨by omega, by omega, ?_, ?_, ?_, hq.trans h.quiet, ?_, ?_⟩
  · intro i hi hlt
    rcases Nat.eq_or_lt_of_le hi with rfl | hi
    · -- the later elements have slots of their own
      have hslot : out.slot r.1 start = out.slot s₁ start := by
        apply Output.slot_congr
        · intro j hj
          apply h.regs
          intro k hk _ hkj
          have := Output.inRegs_inj hj hkj
          omega
        · intro a ha
          apply h.bytes
          intro k hk _ hka
          have := Output.inBytes_inj ha hka
          omega
      rw [hv, hslot, hs₁, Output.store_slot]
    · rw [← getValue_quiet hq i]
      exact h.before i hi hlt
  · intro j hj
    rw [h.regs j fun i hi hlt => hj i (by omega) hlt, hs₁, Output.store_x (hj start le_rfl (by omega))]
  · intro a ha
    rw [h.bytes a fun i hi hlt => ha i (by omega) hlt, hs₁, Output.store_mem (ha start le_rfl (by omega))]
    have hmem : (getElement cpu cpuCount clock input s.hv start).mem = s.hv.mem := getElement_mem s.hv start
    exact congrFun hmem a
  · have hdisc : s₁.hv.discovered = true ↔
        s.hv.discovered = true ∨ getName input start = 0x200 := by
      rw [hs₁, Output.store_hv]
      exact getElement_discovered s.hv start
    rw [h.announced, hdisc]
    constructor
    · rintro ((hd | hd) | ⟨i, hi, hlt, hname⟩)
      · exact .inl hd
      · exact .inr ⟨start, le_rfl, by omega, hd⟩
      · exact .inr ⟨i, by omega, hlt, hname⟩
    · rintro (hd | ⟨i, hi, hlt, hname⟩)
      · exact .inl (.inl hd)
      rcases Nat.eq_or_lt_of_le hi with rfl | hi
      · exact .inl (.inr hname)
      · exact .inr ⟨i, hi, hlt, hname⟩
  · rcases h.outcome with ⟨hs, hd, hf⟩ | ⟨hs, hd, hnone, hf⟩
    · exact .inl ⟨hs, by omega, hf.trans hkept⟩
    refine .inr ⟨hs, by omega, ?_, hf.trans hlog⟩
    rw [← getValue_quiet hq]
    exact hnone

lemma getFrom_report (n : Nat) : ∀ (start : Nat) (s : CallState),
    GetReport cpu cpuCount clock input out n start s (getFrom cpu cpuCount clock input out n start s) := by
  induction n with
  | zero =>
    intro start s
    refine ⟨le_rfl, le_rfl, fun i hge hlt => absurd hlt (not_lt.mpr hge), fun _ _ => rfl,
      fun _ _ => rfl, rfl, ?_, .inl ⟨rfl, rfl, rfl⟩⟩
    constructor
    · exact .inl
    rintro (hd | ⟨i, hge, hlt, -⟩)
    · exact hd
    · exact absurd hlt (not_lt.mpr hge)
  | succ n ih =>
    intro start s
    rw [getFrom_turn]
    cases hv : getValue cpu cpuCount clock input s.hv start with
    | none =>
      obtain ⟨hmem, hdisc⟩ := logFailure_same s.hv (getName input start)
      refine ⟨le_rfl, by dsimp only; omega, fun i hge hlt => absurd hlt (not_lt.mpr hge), fun _ _ => rfl,
        fun a _ => congrFun hmem a, logFailure_quiet _ _, ?_, .inr ⟨rfl, by dsimp only; omega, hv, rfl⟩⟩
      rw [hdisc]
      constructor
      · exact .inl
      rintro (hd | ⟨i, hge, hlt, -⟩)
      · exact hd
      · exact absurd hlt (not_lt.mpr hge)
    | some => exact GetReport.cons hv (ih _ _)

lemma getFrom_append {k : Nat} (n : Nat) : ∀ {start : Nat} {s s' : CallState} {done : Nat},
    getFrom cpu cpuCount clock input out k start s = (s', .success, done) →
      getFrom cpu cpuCount clock input out (k + n) start s =
        getFrom cpu cpuCount clock input out n (start + k) s' := by
  induction k with
  | zero =>
    intro start s s' done h
    cases h
    rw [Nat.zero_add, Nat.add_zero]
  | succ k ih =>
    intro start s s' done h
    have hlen : k + 1 + n = k + n + 1 := by omega
    have hnext : start + (k + 1) = start + 1 + k := by omega
    rw [hlen, hnext, getFrom_turn]
    rw [getFrom_turn] at h
    cases hv : getValue cpu cpuCount clock input s.hv start with
    | none =>
      rw [hv] at h
      exact absurd (congrArg (fun r => r.2.1) h) nofun
    | some =>
      rw [hv] at h
      exact ih h

end ScorpiHv.Hyperv

import ScorpiHv.Lib.Bytes

/-!
# The firmware-variable flash

`bootrom_var_mem_handler` emulates a NOR flash, mapped as a segment in read-array mode.
The abstract device `Nor` states what a flash does with the same accesses.
-/

namespace ScorpiHv.Bootrom
open List

open ScorpiHv.Bytes


def BOOTROM_VAR_BLOCK_SIZE : Nat := 0x40000

def CFI_BCS_WRITE_BYTE : Nat := 0x10
def CFI_BCS_BLOCK_ERASE : Nat := 0x20
def CFI_BCS_PROGRAM : Nat := 0x40
def CFI_BCS_CLEAR_STATUS : Nat := 0x50
def CFI_INTEL_LBS : Nat := 0x60
def CFI_BCS_READ_STATUS : Nat := 0x70
def CFI_INTEL_READ_ID : Nat := 0x90
def CFI_BCS_CONFIRM : Nat := 0xd0
def CFI_BCS_BUF_PROG_SETUP : Nat := 0xe8
def CFI_BCS_READ_ARRAY2 : Nat := 0xf0
def CFI_BCS_READ_ARRAY : Nat := 0xff

def CFI_INTEL_STATUS_WSMS : Nat := 0x80

def CFI_DUAL_STATUS (status : Nat) : Nat := (status <<< 16) ||| status

inductive ReadState where
  | readArray
  | readStatus
  | readId
deriving DecidableEq

inductive WriteState where
  | writeIdle
  | writeByte
  | writeProgLen
  | writeEraseConfirm
  | writeConfirm
  | writeLockConfirm
deriving DecidableEq

structure BootromVarState where
  mmap : Store
  -- whether `var.ctx` is set
  ctx : Bool
  gpa : Nat
  size : Nat
  status : Nat
  readState : ReadState
  writeState : WriteState
  blockSize : Nat
  progLen : Nat
  memslotVisible : Bool

/-- How an access can end the VMM: a failed assertion, `exit`, or an emulation error, which makes
`vmexit_inst_emul` abort. -/
inductive Stop where
  | assertion
  | exit
  | einval
deriving DecidableEq

/-- `maps` is whether `vm_set_memory_segment_visible` succeeds; its failure is only logged. -/
def bootromVarSetMemslotVisible (v : BootromVarState) (visible maps : Bool) : BootromVarState :=
  if v.ctx = false ∨ v.size = 0 ∨ v.memslotVisible = visible then v
  else if maps then { v with memslotVisible := visible }
  else v

def bootromVarTrapReads (v : BootromVarState) (maps : Bool) : BootromVarState :=
  bootromVarSetMemslotVisible v false maps

def bootromVarFastReads (v : BootromVarState) (maps : Bool) : BootromVarState :=
  bootromVarSetMemslotVisible v true maps

def bootromReset (v : BootromVarState) (maps : Bool) : BootromVarState :=
  bootromVarFastReads
    { v with
      status := CFI_DUAL_STATUS CFI_INTEL_STATUS_WSMS
      readState := .readArray
      writeState := .writeIdle
      progLen := 0 } maps

def bootromVarMemRead (v : BootromVarState) (offset size : Nat) : List UInt8 :=
  match v.readState with
  | .readArray => get v.mmap offset size
  | .readStatus => leEnc size v.status
  | .readId => leEnc size 0

/-- The second `switch` of `bootrom_var_mem_write`. -/
def bootromVarCommand (v : BootromVarState) (cmd : Nat) (maps : Bool) :
    Except Stop BootromVarState :=
  let idleStatus := CFI_DUAL_STATUS CFI_INTEL_STATUS_WSMS
  if cmd = CFI_BCS_READ_STATUS then
    .ok { bootromVarTrapReads v maps with readState := .readStatus }
  else if cmd = CFI_INTEL_READ_ID then
    .ok { bootromVarTrapReads v maps with readState := .readId }
  else if cmd = CFI_BCS_CLEAR_STATUS then
    .ok { bootromVarTrapReads v maps with status := idleStatus }
  else if cmd = CFI_BCS_WRITE_BYTE ∨ cmd = CFI_BCS_PROGRAM then
    .ok { bootromVarTrapReads v maps with writeState := .writeByte, readState := .readStatus }
  else if cmd = CFI_BCS_BLOCK_ERASE then
    .ok { bootromVarTrapReads v maps with
      status := idleStatus, writeState := .writeEraseConfirm, readState := .readStatus }
  else if cmd = CFI_BCS_CONFIRM then .ok v
  else if cmd = CFI_BCS_BUF_PROG_SETUP then
    .ok { bootromVarTrapReads v maps with
      status := idleStatus, writeState := .writeProgLen, readState := .readStatus }
  else if cmd = CFI_INTEL_LBS then
    .ok { bootromVarTrapReads v maps with
      status := idleStatus, writeState := .writeLockConfirm, readState := .readStatus }
  else if cmd = CFI_BCS_READ_ARRAY ∨ cmd = CFI_BCS_READ_ARRAY2 then
    .ok (bootromVarFastReads { v with readState := .readArray } maps)
  else if cmd = 0 then .error .exit
  else .ok v

def bootromVarMemWrite (v : BootromVarState) (offset val size : Nat) (maps : Bool) :
    Except Stop BootromVarState :=
  let cmd := val % 256
  let idleStatus := CFI_DUAL_STATUS CFI_INTEL_STATUS_WSMS
  match v.writeState with
  | .writeByte =>
    .ok { v with
      mmap := put v.mmap offset (leEnc size val)
      status := idleStatus, writeState := .writeIdle, readState := .readStatus }
  | .writeProgLen =>
    .ok { v with
      progLen := val % 0x10000 + 1, writeState := .writeConfirm, readState := .readStatus }
  | .writeEraseConfirm =>
    -- another command than CONFIRM is logged, and the block is erased all the same
    .ok { v with
      mmap := put v.mmap offset (List.replicate (min v.blockSize (v.size - offset)) 0xff)
      status := idleStatus, writeState := .writeIdle, readState := .readStatus }
  | .writeConfirm =>
    if v.progLen = 0 then
      if cmd ≠ CFI_BCS_CONFIRM then bootromVarCommand v cmd maps
      else .ok { v with writeState := .writeIdle, readState := .readStatus }
    else if size ≠ 4 then .error .assertion
    else
      let v := { v with mmap := put v.mmap offset (leEnc size val), progLen := v.progLen - 1 }
      .ok (if v.progLen = 0 then { v with writeState := .writeIdle, readState := .readStatus }
        else v)
  | .writeLockConfirm =>
    .ok { v with status := idleStatus, writeState := .writeIdle, readState := .readStatus }
  | .writeIdle => bootromVarCommand v cmd maps

/-- A guest access; a value is passed as a `uint64_t`. -/
structure Access where
  addr : Nat
  size : Nat
  addr_lt : addr < 2 ^ 64
  size_le : size ≤ 8

inductive Op where
  | read (a : Access)
  | write (a : Access) (val : Nat)
  | reset

/-- `addr - var.gpa` as an `off_t`. -/
def BootromVarState.offset (v : BootromVarState) (a : Access) : Int :=
  Int.bmod ((a.addr : Int) - v.gpa) (2 ^ 64)

/-- The check of `bootrom_var_mem_handler`. -/
def BootromVarState.Rejects (v : BootromVarState) (a : Access) : Prop :=
  v.offset a + a.size > v.size ∨ v.offset a < 0 ∨ v.offset a + a.size ≤ v.offset a

instance (v : BootromVarState) (a : Access) : Decidable (v.Rejects a) :=
  inferInstanceAs (Decidable (_ ∨ _ ∨ _))

/-- `bootrom_var_mem_handler`, for both directions, with the bytes read. -/
def bootromVarMemHandler (v : BootromVarState) (maps : Bool) (a : Access) (val : Option Nat) :
    Except Stop (BootromVarState × List UInt8) :=
  if v.Rejects a then .error .einval
  else
    match val with
    | some val => (bootromVarMemWrite v (v.offset a).toNat val a.size maps).map fun v => (v, [])
    | none => .ok (v, bootromVarMemRead v (v.offset a).toNat a.size)

def BootromVarState.step (v : BootromVarState) (maps : Bool) :
    Op → Except Stop (BootromVarState × List UInt8)
  | .read a =>
    if v.memslotVisible = true ∧ ¬ v.Rejects a then
      .ok (v, get v.mmap (v.offset a).toNat a.size)
    else bootromVarMemHandler v maps a none
  | .write a val => bootromVarMemHandler v maps a (some val)
  | .reset => .ok (bootromReset v maps, [])

def BootromVarState.run (v : BootromVarState) :
    List (Op × Bool) → Except Stop (BootromVarState × List (List UInt8))
  | [] => .ok (v, [])
  | (op, maps) :: ops => do
    let (v, out) ← v.step maps op
    let (v, outs) ← v.run ops
    return (v, out :: outs)

inductive Phase where
  | ready
  | program
  | count
  | buffer (n : Nat)
  | erase
  | lock
deriving DecidableEq

structure Nor where
  base : Nat
  size : Nat
  array : Store
  mode : ReadState
  phase : Phase

namespace Nor

def Inside (n : Nor) (a : Access) : Prop :=
  0 < a.size ∧ n.base ≤ a.addr ∧ a.addr + a.size ≤ n.base + n.size

instance (n : Nor) (a : Access) : Decidable (n.Inside a) := inferInstanceAs (Decidable (_ ∧ _ ∧ _))

def eraseBlock (n : Nor) (offset : Nat) : Store := fun i =>
  if i / BOOTROM_VAR_BLOCK_SIZE = offset / BOOTROM_VAR_BLOCK_SIZE ∧ i < n.size then 0xff
  else n.array i

def command (n : Nor) (cmd : Nat) : Nor :=
  if cmd = CFI_BCS_READ_STATUS then { n with mode := .readStatus }
  else if cmd = CFI_INTEL_READ_ID then { n with mode := .readId }
  else if cmd = CFI_BCS_WRITE_BYTE ∨ cmd = CFI_BCS_PROGRAM then
    { n with mode := .readStatus, phase := .program }
  else if cmd = CFI_BCS_BLOCK_ERASE then { n with mode := .readStatus, phase := .erase }
  else if cmd = CFI_BCS_BUF_PROG_SETUP then { n with mode := .readStatus, phase := .count }
  else if cmd = CFI_INTEL_LBS then { n with mode := .readStatus, phase := .lock }
  else if cmd = CFI_BCS_READ_ARRAY ∨ cmd = CFI_BCS_READ_ARRAY2 then { n with mode := .readArray }
  else n

def afterBuffered (n : Nor) (k : Nat) : Nor :=
  if k = 1 then { n with mode := .readStatus, phase := .ready } else { n with phase := .buffer (k - 1) }

def write (n : Nor) (offset val size : Nat) : Nor :=
  match n.phase with
  | .ready => n.command (val % 256)
  | .program =>
    { n with array := put n.array offset (leEnc size val), mode := .readStatus, phase := .ready }
  | .count => { n with mode := .readStatus, phase := .buffer (val % 0x10000 + 1) }
  | .buffer k => { n with array := put n.array offset (leEnc size val) }.afterBuffered k
  | .erase =>
    { n with
      array := if val % 256 = CFI_BCS_CONFIRM then n.eraseBlock offset else n.array
      mode := .readStatus, phase := .ready }
  | .lock => { n with mode := .readStatus, phase := .ready }

def read (n : Nor) (offset size : Nat) : List UInt8 :=
  match n.mode with
  | .readArray => get n.array offset size
  | .readStatus => leEnc size (CFI_DUAL_STATUS CFI_INTEL_STATUS_WSMS)
  | .readId => leEnc size 0

def step (n : Nor) : Op → Nor × List UInt8
  | .read a => (n, if n.Inside a then n.read (a.addr - n.base) a.size else [])
  | .write a val => (if n.Inside a then n.write (a.addr - n.base) val a.size else n, [])
  | .reset => ({ n with mode := .readArray, phase := .ready }, [])

def run (n : Nor) : List Op → Nor × List (List UInt8)
  | [] => (n, [])
  | op :: ops => (((n.step op).1.run ops).1, (n.step op).2 :: ((n.step op).1.run ops).2)

/-- The writes that a flash in this phase and the code treat alike. -/
def Suits (phase : Phase) (offset val size : Nat) : Prop :=
  match phase with
  | .ready => val % 256 ≠ 0
  | .buffer _ => size = 4
  | .erase => val % 256 = CFI_BCS_CONFIRM ∧ offset % BOOTROM_VAR_BLOCK_SIZE = 0
  | _ => True

instance (phase : Phase) (offset val size : Nat) : Decidable (Suits phase offset val size) :=
  match phase with
  | .ready => inferInstanceAs (Decidable (_ ≠ _))
  | .buffer _ => inferInstanceAs (Decidable (_ = _))
  | .erase => inferInstanceAs (Decidable (_ ∧ _))
  | .program | .count | .lock => inferInstanceAs (Decidable True)

/-- The accesses the code treats as a flash does. -/
def Proper (n : Nor) : Op → Prop
  | .read a => n.Inside a
  | .write a val => n.Inside a ∧ Suits n.phase (a.addr - n.base) val a.size
  | .reset => True

instance (n : Nor) : (op : Op) → Decidable (n.Proper op)
  | .read a => inferInstanceAs (Decidable (n.Inside a))
  | .write _ _ => inferInstanceAs (Decidable (_ ∧ _))
  | .reset => inferInstanceAs (Decidable True)

def ProperRun (n : Nor) : List Op → Prop
  | [] => True
  | op :: ops => n.Proper op ∧ (n.step op).1.ProperRun ops

instance decidableProperRun (n : Nor) : (ops : List Op) → Decidable (n.ProperRun ops)
  | [] => inferInstanceAs (Decidable True)
  | op :: ops =>
    have := decidableProperRun (n.step op).1 ops
    inferInstanceAs (Decidable (_ ∧ _))

end Nor

namespace BootromVarState

def phase (v : BootromVarState) : Phase :=
  match v.writeState with
  | .writeIdle => .ready
  | .writeByte => .program
  | .writeProgLen => .count
  | .writeConfirm => .buffer v.progLen
  | .writeEraseConfirm => .erase
  | .writeLockConfirm => .lock

def toNor (v : BootromVarState) : Nor := ⟨v.gpa, v.size, v.mmap, v.readState, v.phase⟩

/-- What holds between accesses, as long as the segment follows. -/
structure Ok (v : BootromVarState) : Prop where
  ctx : v.ctx = true
  size_pos : 0 < v.size
  size_lt : v.size < 2 ^ 63
  end_le : v.gpa + v.size ≤ 2 ^ 64
  block : v.blockSize = BOOTROM_VAR_BLOCK_SIZE
  status : v.status = CFI_DUAL_STATUS CFI_INTEL_STATUS_WSMS
  buffered : v.writeState = .writeConfirm → 0 < v.progLen
  hidden : v.writeState ≠ .writeIdle → v.memslotVisible = false
  visible : v.memslotVisible = true → v.readState = .readArray

variable {v : BootromVarState} {a : Access} {offset val size : Nat}

namespace Ok

lemma rejects_iff (h : v.Ok) : v.Rejects a ↔ ¬ v.toNor.Inside a := by
  have haddr := a.addr_lt
  have hlt := h.size_lt
  have hend := h.end_le
  simp only [Rejects, BootromVarState.offset, Nor.Inside, toNor, Int.bmod_def]
  split <;> omega

lemma offset_eq (h : v.Ok) (hin : v.toNor.Inside a) : (v.offset a).toNat = a.addr - v.gpa := by
  have hlt := h.size_lt
  simp only [Nor.Inside, toNor] at hin
  simp only [BootromVarState.offset, Int.bmod_def]
  split <;> omega

lemma setVisible (h : v.Ok) (visible : Bool) :
    bootromVarSetMemslotVisible v visible true = { v with memslotVisible := visible } := by
  rw [bootromVarSetMemslotVisible]
  split
  case isTrue hc =>
    rcases hc with hctx | hsize | hvis
    · rw [h.ctx] at hctx
      cases hctx
    · exact absurd hsize (Nat.ne_of_gt h.size_pos)
    · rw [← hvis]
  case isFalse => rfl

lemma update (h : v.Ok) (m : Store) {st p : Nat} {rs : ReadState} {ws : WriteState} {vis : Bool}
    (hst : st = CFI_DUAL_STATUS CFI_INTEL_STATUS_WSMS) (hbuf : ws = .writeConfirm → 0 < p)
    (hhid : ws ≠ .writeIdle → vis = false) (hvis : vis = true → rs = .readArray) :
    Ok { v with
      mmap := m, status := st, readState := rs, writeState := ws, progLen := p,
      memslotVisible := vis } :=
  ⟨h.ctx, h.size_pos, h.size_lt, h.end_le, h.block, hst, hbuf, hhid, hvis⟩

lemma withArray (h : v.Ok) (m : Store) : Ok { v with mmap := m } :=
  h.update m h.status h.buffered h.hidden h.visible

lemma command (h : v.Ok) (hidle : v.writeState = .writeIdle) {cmd : Nat} (hcmd : cmd ≠ 0) :
    ∃ v', bootromVarCommand v cmd true = .ok v' ∧ v'.Ok ∧ v'.toNor = v.toNor.command cmd := by
  have hfast : Ok { v with readState := .readArray } :=
    h.update v.mmap h.status h.buffered h.hidden fun _ => rfl
  have hnot : v.writeState = .writeConfirm → 0 < v.progLen := h.buffered
  simp only [bootromVarCommand, bootromVarTrapReads, bootromVarFastReads, h.setVisible, hfast.setVisible]
  split_ifs with h1 h2 h3 h4 h5 h6 h7 h8 h9
  · subst h1
    exact ⟨_, rfl, h.update _ h.status hnot (fun _ => rfl) nofun, rfl⟩
  · subst h2
    exact ⟨_, rfl, h.update _ h.status hnot (fun _ => rfl) nofun, rfl⟩
  · subst h3
    exact ⟨_, rfl, h.update _ rfl hnot (fun _ => rfl) nofun, rfl⟩
  · refine ⟨_, rfl, h.update _ h.status nofun (fun _ => rfl) nofun, ?_⟩
    rcases h4 with rfl | rfl <;> rfl
  · subst h5
    exact ⟨_, rfl, h.update _ rfl nofun (fun _ => rfl) nofun, rfl⟩
  · subst h6
    exact ⟨_, rfl, h, rfl⟩
  · subst h7
    exact ⟨_, rfl, h.update _ rfl nofun (fun _ => rfl) nofun, rfl⟩
  · subst h8
    exact ⟨_, rfl, h.update _ rfl nofun (fun _ => rfl) nofun, rfl⟩
  · refine ⟨_, rfl, h.update _ h.status hnot (fun hne => absurd hidle hne) fun _ => rfl, ?_⟩
    rcases h9 with rfl | rfl <;> rfl
  · refine ⟨v, rfl, h, ?_⟩
    rw [Nor.command, if_neg h1, if_neg h2, if_neg h4, if_neg h5, if_neg h7, if_neg h8, if_neg h9]

end Ok

def erased (v : BootromVarState) (offset : Nat) : Nor :=
  { v.toNor with
    array := put v.mmap offset
      (List.replicate (min BOOTROM_VAR_BLOCK_SIZE (v.size - offset)) 0xff)
    mode := .readStatus, phase := .ready }

/-- The writes that end the VMM. -/
def Fatal (v : BootromVarState) (val size : Nat) : Prop :=
  (v.phase = .ready ∧ val % 256 = 0) ∨ ∃ k, v.phase = .buffer k ∧ size ≠ 4

lemma Ok.write_cases (h : v.Ok) (offset val size : Nat) :
    (v.Fatal val size ∧ ∃ e, bootromVarMemWrite v offset val size true = .error e) ∨
    (¬ v.Fatal val size ∧ ∃ v', bootromVarMemWrite v offset val size true = .ok v' ∧ v'.Ok ∧
      v'.toNor = if v.phase = .erase then v.erased offset else v.toNor.write offset val size) := by
  have hhidden : ∀ {st}, v.writeState = st → st ≠ .writeIdle → v.memslotVisible = false :=
    fun hst hne => h.hidden (hst ▸ hne)
  simp only [bootromVarMemWrite]
  split <;> rename_i hws
  case h_1 =>
    have hphase : v.phase = .program := by rw [phase, hws]
    refine .inr ⟨?_, _, rfl, h.update _ rfl nofun nofun fun hvis => absurd hvis (by simp [hhidden hws]), ?_⟩
    · simp [Fatal, hphase]
    · simp only [Nor.write, toNor, hphase]
      rfl
  case h_2 =>
    have hphase : v.phase = .count := by rw [phase, hws]
    refine .inr ⟨?_, _, rfl, h.update _ h.status (fun _ => Nat.succ_pos _)
      (fun _ => hhidden hws nofun) fun hvis => absurd hvis (by simp [hhidden hws]), ?_⟩
    · simp [Fatal, hphase]
    · simp only [Nor.write, toNor, hphase]
      rfl
  case h_3 =>
    have hphase : v.phase = .erase := by rw [phase, hws]
    refine .inr ⟨?_, _, rfl, h.update _ rfl nofun nofun fun hvis => absurd hvis (by simp [hhidden hws]), ?_⟩
    · simp [Fatal, hphase]
    · rw [hphase, if_pos rfl, h.block]
      rfl
  case h_4 =>
    have hphase : v.phase = .buffer v.progLen := by rw [phase, hws]
    have hpos := h.buffered hws
    rw [if_neg (Nat.ne_of_gt hpos)]
    by_cases hsize : size = 4
    · rw [if_neg (not_not.mpr hsize)]
      have hfatal : ¬ v.Fatal val size := by simp [Fatal, hphase, hsize]
      by_cases hlast : v.progLen - 1 = 0
      · refine .inr ⟨hfatal, _, rfl, ?_, ?_⟩
        · rw [if_pos hlast]
          exact h.update _ h.status nofun nofun fun hvis => absurd hvis (by simp [hhidden hws])
        rw [if_pos hlast, hphase, if_neg nofun]
        simp only [Nor.write, toNor, hphase, Nor.afterBuffered]
        rw [if_pos (by omega)]
        rfl
      · refine .inr ⟨hfatal, _, rfl, ?_, ?_⟩
        · rw [if_neg hlast]
          exact h.update _ h.status (fun _ => Nat.pos_of_ne_zero hlast) h.hidden h.visible
        rw [if_neg hlast, hphase, if_neg nofun]
        simp only [Nor.write, toNor, hphase, Nor.afterBuffered]
        rw [if_neg (by omega)]
        simp only [phase, hws]
    · rw [if_pos hsize]
      exact .inl ⟨.inr ⟨_, hphase, hsize⟩, _, rfl⟩
  case h_5 =>
    have hphase : v.phase = .lock := by rw [phase, hws]
    refine .inr ⟨?_, _, rfl, h.update _ rfl nofun nofun fun hvis => absurd hvis (by simp [hhidden hws]), ?_⟩
    · simp [Fatal, hphase]
    · simp only [Nor.write, toNor, hphase]
      rfl
  case h_6 =>
    have hphase : v.phase = .ready := by rw [phase, hws]
    by_cases hcmd : val % 256 = 0
    · rw [hcmd]
      exact .inl ⟨.inl ⟨hphase, hcmd⟩, _, rfl⟩
    obtain ⟨v', hv', hok, hnor⟩ := h.command hws hcmd
    refine .inr ⟨?_, v', hv', hok, ?_⟩
    · simp [Fatal, hphase, hcmd]
    · rw [hphase, if_neg nofun, hnor]
      simp only [Nor.write, toNor, hphase]

lemma put_replicate (m : Store) (offset n : Nat) (b : UInt8) (i : Nat) :
    put m offset (List.replicate n b) i = if offset ≤ i ∧ i < offset + n then b else m i := by
  split_ifs with hi
  · rw [put_at hi.1 (by rw [length_replicate]; exact hi.2), getD_replicate _ (by omega)]
  · rw [put_outside]
    rw [length_replicate]
    omega

/-- The code erases the right block, for every content, exactly at its first byte and when
confirmed. -/
lemma erased_iff (h : v.Ok) (hphase : v.phase = .erase) (hoff : offset < v.size) :
    (∀ m, erased { v with mmap := m } offset =
      ({ v with mmap := m } : BootromVarState).toNor.write offset val size) ↔
      val % 256 = CFI_BCS_CONFIRM ∧ offset % BOOTROM_VAR_BLOCK_SIZE = 0 := by
  have hwrite : ∀ m, ({ v with mmap := m } : BootromVarState).toNor.write offset val size =
      { v.toNor with
        array := if val % 256 = CFI_BCS_CONFIRM then { v.toNor with array := m }.eraseBlock offset else m
        mode := .readStatus, phase := .ready } := by
    intro m
    have hp : ({ v with mmap := m } : BootromVarState).phase = .erase := hphase
    simp only [Nor.write, toNor, hp]
    rfl
  have hcode : ∀ m i, (erased { v with mmap := m } offset).array i =
      if offset ≤ i ∧ i < offset + min 0x40000 (v.size - offset) then 0xff
      else m i := fun m i => put_replicate m offset _ 0xff i
  have hblock : ∀ m i, ({ v.toNor with array := m }.eraseBlock offset) i =
      if i / 0x40000 = offset / 0x40000 ∧ i < v.size then 0xff else m i := fun _ _ => rfl
  simp only [hwrite, BOOTROM_VAR_BLOCK_SIZE]
  constructor
  · intro hall
    have hzero : (erased { v with mmap := fun _ => 0 } offset).array =
        if val % 256 = CFI_BCS_CONFIRM then { v.toNor with array := fun _ => 0 }.eraseBlock offset
        else fun _ => 0 := congrArg Nor.array (hall fun _ => 0)
    by_cases hcmd : val % 256 = CFI_BCS_CONFIRM
    · refine ⟨hcmd, ?_⟩
      -- the first byte of the block is set by a flash, and by the code only if it starts there
      have hat := congrFun hzero (offset / 0x40000 * 0x40000)
      by_contra hmod
      rw [hcode, if_neg (by omega), if_pos hcmd, hblock, if_pos (by omega)] at hat
      exact absurd hat (by decide)
    · have hat := congrFun hzero offset
      rw [hcode, if_pos (by omega), if_neg hcmd] at hat
      exact absurd hat (by decide)
  · rintro ⟨hcmd, hmod⟩ m
    have harray : (erased { v with mmap := m } offset).array =
        { v.toNor with array := m }.eraseBlock offset := by
      funext i
      rw [hcode, hblock]
      exact if_congr (by omega) rfl rfl
    rw [if_pos hcmd, ← harray]
    rfl

def Ends (v : BootromVarState) : Op → Prop
  | .read a => ¬ v.toNor.Inside a
  | .write a val => ¬ v.toNor.Inside a ∨ v.Fatal val a.size
  | .reset => False

def after (v : BootromVarState) : Op → Nor
  | .write a val =>
    if v.phase = .erase then v.erased (a.addr - v.gpa) else (v.toNor.step (.write a val)).1
  | op => (v.toNor.step op).1

lemma Ok.read (h : v.Ok) (hin : v.toNor.Inside a) :
    v.step true (.read a) = .ok (v, v.toNor.read (a.addr - v.gpa) a.size) := by
  have hrej : ¬ v.Rejects a := fun hr => h.rejects_iff.mp hr hin
  simp only [step, bootromVarMemHandler, if_neg hrej, h.offset_eq hin]
  split
  case isTrue hvis => simp only [Nor.read, toNor, h.visible hvis.1]
  case isFalse => simp only [bootromVarMemRead, Nor.read, toNor, h.status]

lemma Ok.step_cases (h : v.Ok) (op : Op) :
    (v.Ends op ∧ ∃ e, v.step true op = .error e) ∨
    (¬ v.Ends op ∧ ∃ v', v.step true op = .ok (v', (v.toNor.step op).2) ∧ v'.Ok ∧
      v'.toNor = v.after op) := by
  cases op with
  | read a =>
    by_cases hin : v.toNor.Inside a
    · refine .inr ⟨not_not.mpr hin, v, ?_, h, rfl⟩
      simp only [h.read hin, Nor.step, if_pos hin]
      rfl
    · have hrej := h.rejects_iff.mpr hin
      refine .inl ⟨hin, .einval, ?_⟩
      rw [step, if_neg fun hv => hv.2 hrej, bootromVarMemHandler, if_pos hrej]
  | write a val =>
    by_cases hin : v.toNor.Inside a
    · have hrej : ¬ v.Rejects a := fun hr => h.rejects_iff.mp hr hin
      simp only [step, bootromVarMemHandler, if_neg hrej, h.offset_eq hin]
      rcases h.write_cases (a.addr - v.gpa) val a.size with ⟨hf, e, he⟩ | ⟨hf, v', hv', hok, hnor⟩
      · exact .inl ⟨.inr hf, e, by rw [he]; rfl⟩
      refine .inr ⟨fun hends => hends.elim (fun hout => hout hin) hf, v', ?_, hok, ?_⟩
      · rw [hv']
        rfl
      · rw [hnor, after]
        simp only [Nor.step, if_pos hin]
        rfl
    · have hrej := h.rejects_iff.mpr hin
      refine .inl ⟨.inl hin, .einval, ?_⟩
      rw [step, bootromVarMemHandler, if_pos hrej]
  | reset =>
    refine .inr ⟨id, bootromReset v true, rfl, ?_⟩
    have hreset : Ok { v with
        status := CFI_DUAL_STATUS CFI_INTEL_STATUS_WSMS
        readState := .readArray
        writeState := .writeIdle
        progLen := 0 } :=
      h.update _ rfl nofun (fun hne => absurd rfl hne) fun _ => rfl
    rw [bootromReset, bootromVarFastReads, hreset.setVisible]
    exact ⟨h.update _ rfl nofun (fun hne => absurd rfl hne) fun _ => rfl, rfl⟩

/-- The code agrees with a flash on an operation, whatever the array holds. -/
def Agrees (v : BootromVarState) (op : Op) : Prop :=
  ∀ m, ∃ v', ({ v with mmap := m } : BootromVarState).step true op =
      .ok (v', (({ v with mmap := m } : BootromVarState).toNor.step op).2) ∧
    v'.toNor = (({ v with mmap := m } : BootromVarState).toNor.step op).1

lemma Ok.agrees_after (h : v.Ok) (op : Op) : v.Agrees op ↔ ¬ v.Ends op ∧
    ∀ m, after { v with mmap := m } op = (({ v with mmap := m } : BootromVarState).toNor.step op).1 := by
  have hends : ∀ m, Ends { v with mmap := m } op ↔ v.Ends op := by
    intro m
    cases op <;> exact Iff.rfl
  constructor
  · intro hall
    have hnot : ∀ m, ¬ v.Ends op ∧
        after { v with mmap := m } op = (({ v with mmap := m } : BootromVarState).toNor.step op).1 := by
      intro m
      obtain ⟨v', hv', hnor⟩ := hall m
      rcases (h.withArray m).step_cases op with ⟨-, e, he⟩ | ⟨hne, v2, hv2, -, hafter⟩
      · rw [he] at hv'
        cases hv'
      · rw [hv2] at hv'
        obtain ⟨rfl, -⟩ := Prod.mk.inj (Except.ok.inj hv')
        exact ⟨fun hend => hne ((hends m).mpr hend), hafter.symm.trans hnor⟩
    exact ⟨(hnot v.mmap).1, fun m => (hnot m).2⟩
  · rintro ⟨hne, hafter⟩ m
    rcases (h.withArray m).step_cases op with ⟨hend, -⟩ | ⟨-, v', hv', -, hnor⟩
    · exact absurd ((hends m).mp hend) hne
    · exact ⟨v', hv', hnor.trans (hafter m)⟩

lemma Ok.agrees_iff (h : v.Ok) (op : Op) : v.Agrees op ↔ v.toNor.Proper op := by
  rw [h.agrees_after]
  cases op with
  | read => exact ⟨fun hc => not_not.mp hc.1, fun hin => ⟨not_not.mpr hin, fun _ => rfl⟩⟩
  | reset => exact ⟨fun _ => trivial, fun _ => ⟨id, fun _ => rfl⟩⟩
  | write a val =>
    have hsame : v.phase ≠ .erase → ∀ m, after { v with mmap := m } (.write a val) =
        (({ v with mmap := m } : BootromVarState).toNor.step (.write a val)).1 := by
      intro hne m
      exact if_neg hne
    have hphase : v.toNor.phase = v.phase := rfl
    simp only [Ends, Nor.Proper, Nor.Suits, not_or, not_not, hphase, and_assoc]
    refine and_congr_right fun hin => ?_
    rcases hp : v.phase with _ | _ | _ | k | _ | _
    case ready =>
      simp only [Fatal, hp]
      exact ⟨fun hc hz => hc.1 (.inl ⟨trivial, hz⟩), fun hz => ⟨by simpa using hz,
        hsame (by rw [hp]; nofun)⟩⟩
    case buffer =>
      simp only [Fatal, hp]
      exact ⟨fun hc => by simpa using hc.1, fun hz => ⟨by simpa using hz,
        hsame (by rw [hp]; nofun)⟩⟩
    case erase =>
      have hoff : a.addr - v.gpa < v.size := by
        simp only [Nor.Inside, toNor] at hin
        omega
      have hafter : ∀ m, (after { v with mmap := m } (.write a val) =
          (({ v with mmap := m } : BootromVarState).toNor.step (.write a val)).1) =
          (erased { v with mmap := m } (a.addr - v.gpa) =
            ({ v with mmap := m } : BootromVarState).toNor.write (a.addr - v.gpa) val a.size) := by
        intro m
        have hin' : ({ v with mmap := m } : BootromVarState).toNor.Inside a := hin
        have hp' : ({ v with mmap := m } : BootromVarState).phase = .erase := hp
        rw [after, if_pos hp', Nor.step, if_pos hin']
        rfl
      have hfatal : ¬ v.Fatal val a.size := by simp [Fatal, hp]
      simp only [hafter, hfatal, not_false_eq_true, true_and]
      exact erased_iff h hp hoff
    all_goals
      simp only [Fatal, hp]
      exact ⟨fun _ => trivial, fun _ => ⟨by simp, hsame (by rw [hp]; nofun)⟩⟩

end BootromVarState

def loaded (mmap : Store) (gpa size : Nat) : BootromVarState :=
  ⟨mmap, true, gpa, size, CFI_DUAL_STATUS CFI_INTEL_STATUS_WSMS, .readArray, .writeIdle,
    BOOTROM_VAR_BLOCK_SIZE, 0, true⟩

lemma loaded_ok {mmap : Store} {gpa size : Nat} (hpos : 0 < size) (hlt : size < 2 ^ 63)
    (hend : gpa + size ≤ 2 ^ 64) : (loaded mmap gpa size).Ok :=
  ⟨rfl, hpos, hlt, hend, rfl, rfl, nofun, fun hne => absurd rfl hne, fun _ => rfl⟩

variable {v v' : BootromVarState} {outs : List (List UInt8)}

lemma run_ok (h : v.Ok) {ops : List Op} (hrun : v.run (ops.map (·, true)) = .ok (v', outs)) : v'.Ok := by
  induction ops generalizing v outs with
  | nil =>
    obtain ⟨rfl, -⟩ := Prod.mk.inj (Except.ok.inj hrun)
    exact h
  | cons op ops ih =>
    rcases h.step_cases op with ⟨-, e, he⟩ | ⟨-, v1, hv1, hok, -⟩
    · simp only [map_cons, BootromVarState.run, he] at hrun
      cases hrun
    simp only [map_cons, BootromVarState.run, hv1] at hrun
    rcases hrest : v1.run (ops.map (·, true)) with e | ⟨v2, outs2⟩
    · simp only [hrest, bind, Except.bind] at hrun
      cases hrun
    · simp only [hrest, bind, Except.bind] at hrun
      obtain ⟨rfl, -⟩ := Prod.mk.inj (Except.ok.inj hrun)
      exact ih hok hrest

lemma run_proper (h : v.Ok) {ops : List Op} (hproper : v.toNor.ProperRun ops) : ∃ v',
    v.run (ops.map (·, true)) = .ok (v', (v.toNor.run ops).2) ∧ v'.toNor = (v.toNor.run ops).1 := by
  induction ops generalizing v with
  | nil => exact ⟨v, rfl, rfl⟩
  | cons op ops ih =>
    obtain ⟨hop, hops⟩ := hproper
    obtain ⟨v1, hv1, hnor⟩ := (h.agrees_iff op).mpr hop v.mmap
    have hok : v1.Ok := by
      rcases h.step_cases op with ⟨-, e, he⟩ | ⟨-, v2, hv2, hok, -⟩
      · cases he.symm.trans hv1
      · obtain ⟨rfl, -⟩ := Prod.mk.inj (Except.ok.inj (hv2.symm.trans hv1))
        exact hok
    rw [← hnor] at hops
    obtain ⟨v2, hv2, hnor2⟩ := ih hok hops
    refine ⟨v2, ?_, ?_⟩
    · simp only [map_cons, BootromVarState.run]
      rw [hv1]
      simp only [bind, Except.bind, hv2, Nor.run]
      rw [hnor]
      rfl
    · rw [hnor2, hnor]
      rfl

/-- The variable flash: proper accesses are handled as a flash handles them; after others that the
VMM survives, exactly the proper ones are, and exactly the ones listed end the VMM. -/
theorem flash_is_nor {mmap : Store} {gpa size : Nat} (hpos : 0 < size) (hlt : size < 2 ^ 63)
    (hend : gpa + size ≤ 2 ^ 64) (ops : List Op) :
    ((loaded mmap gpa size).toNor.ProperRun ops → ∃ v', (loaded mmap gpa size).run (ops.map (·, true)) =
        .ok (v', ((loaded mmap gpa size).toNor.run ops).2) ∧
      v'.toNor = ((loaded mmap gpa size).toNor.run ops).1) ∧
    ∀ v' outs, (loaded mmap gpa size).run (ops.map (·, true)) = .ok (v', outs) →
      (v'.memslotVisible = true → v'.readState = .readArray) ∧
      ∀ op, ((∃ e, v'.step true op = .error e) ↔ v'.Ends op) ∧
        (v'.Agrees op ↔ v'.toNor.Proper op) := by
  have hok : (loaded mmap gpa size).Ok := loaded_ok hpos hlt hend
  refine ⟨fun hproper => run_proper hok hproper, fun v' outs hrun => ?_⟩
  have hok' := run_ok hok hrun
  refine ⟨hok'.visible, fun op => ⟨?_, hok'.agrees_iff op⟩⟩
  rcases hok'.step_cases op with ⟨hends, he⟩ | ⟨hnot, v2, hv2, -⟩
  · exact ⟨fun _ => hends, fun _ => he⟩
  refine ⟨?_, fun hends => absurd hends hnot⟩
  rintro ⟨e, he⟩
  cases he.symm.trans hv2

def smallAccess (addr : Fin 0x80000) (size : Fin 9) : Access :=
  ⟨addr, size, by omega, by omega⟩

/-- Erase the second block, then read the status, and the array around the start of the block. -/
def eraseOps : List Op :=
  [.write (smallAccess 0x40000 4) 0x20, .write (smallAccess 0x40000 4) 0xd0,
    .read (smallAccess 0 4), .write (smallAccess 0 4) 0xff, .read (smallAccess 0x3fffe 4)]

theorem flash_is_nor_erase : ∃ v', (loaded blank 0 0x80000).run (eraseOps.map (·, true)) =
    .ok (v', [[], [], [0x80, 0, 0x80, 0], [], [0, 0, 0xff, 0xff]]) := by
  have hproper : (loaded blank 0 0x80000).toNor.ProperRun eraseOps := by decide +kernel
  have houts : ((loaded blank 0 0x80000).toNor.run eraseOps).2 =
      [[], [], [0x80, 0, 0x80, 0], [], [0, 0, 0xff, 0xff]] := by decide +kernel
  obtain ⟨v', hrun, -⟩ :=
    (flash_is_nor (by decide) (by decide) (by decide) eraseOps).1 hproper
  exact ⟨v', houts ▸ hrun⟩

def pageRun (ops : List Op) : Except Stop (List (List UInt8)) :=
  ((loaded blank 0 0x1000).run (ops.map (·, true))).map (·.2)

/-- A zero command, a buffered byte, an access across the end, an erase that is not confirmed and
one confirmed inside its block. -/
theorem flash_is_not_nor :
    pageRun [.write (smallAccess 0 4) 0] = .error .exit ∧
    pageRun [.write (smallAccess 0 4) 0xe8, .write (smallAccess 0 4) 0,
      .write (smallAccess 0 1) 7] = .error .assertion ∧
    pageRun [.write (smallAccess 0xffe 4) 0x70] = .error .einval ∧
    pageRun [.write (smallAccess 0xff8 4) 0x20, .write (smallAccess 0xff8 4) 0x70,
      .write (smallAccess 0 4) 0xff, .read (smallAccess 0xff8 4)] =
        .ok [[], [], [], [0xff, 0xff, 0xff, 0xff]] ∧
    pageRun [.write (smallAccess 0xffc 4) 0x20, .write (smallAccess 0xffc 4) 0xd0,
      .write (smallAccess 0 4) 0xff, .read (smallAccess 0xff8 8)] =
        .ok [[], [], [], [0, 0, 0, 0, 0xff, 0xff, 0xff, 0xff]] :=
  ⟨rfl, rfl, rfl, rfl, rfl⟩

end ScorpiHv.Bootrom

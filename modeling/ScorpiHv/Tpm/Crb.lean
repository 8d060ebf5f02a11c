import ScorpiHv.Lib.Bytes

/-!
# The TPM command response buffer

Guest accesses change the register page under a mutex and signal a thread that runs the
command. The thread waits without looking at the start bit.
-/

namespace ScorpiHv.Tpm

open ScorpiHv.Bytes


def TPM_CRB_ADDRESS : Nat := 0xfed40000
def TPM_CRB_REGS_SIZE : Nat := 0x1000
def TPM_CRB_DATA_BUFFER_OFFSET : Nat := 0x80
def TPM_CRB_DATA_BUFFER_ADDRESS : Nat := TPM_CRB_ADDRESS + TPM_CRB_DATA_BUFFER_OFFSET
def TPM_CRB_DATA_BUFFER_SIZE : Nat := 0xf80

-- offsets in `struct tpm_crb_regs`
def LOC_STATE : Nat := 0x00
def LOC_CTRL : Nat := 0x08
def LOC_STS : Nat := 0x0c
def CTRL_REQ : Nat := 0x40
def CTRL_STS : Nat := 0x44
def CTRL_CANCEL : Nat := 0x48
def CTRL_START : Nat := 0x4c
def INT_ENABLE : Nat := 0x50
def CMD_SIZE : Nat := 0x58
def CMD_ADDR_LO : Nat := 0x5c
def CMD_ADDR_HI : Nat := 0x60
def RSP_SIZE : Nat := 0x64
def RSP_ADDR : Nat := 0x68
def DATA_BUFFER : Nat := TPM_CRB_DATA_BUFFER_OFFSET

/-- The size of `struct tpm_cmd_hdr` and of `struct tpm_resp_hdr`. -/
def HDR_SIZE : Nat := 10

def testBit (b : UInt8) (i : UInt8) : Bool := b &&& (1 <<< i) != 0

def setBit (b : UInt8) (i : UInt8) (v : Bool) : UInt8 :=
  if v then b ||| (1 <<< i) else b &&& ~~~(1 <<< i)

def setRegBit (regs : Store) (off : Nat) (i : UInt8) (v : Bool) : Store :=
  put regs off [setBit (regs off) i v]

def reg (regs : Store) (off n : Nat) : Nat := leDec (get regs off n)

def startBit (regs : Store) : Bool := testBit (regs CTRL_START) 0

def setStart (regs : Store) (v : Bool) : Store := setRegBit regs CTRL_START 0 v

def crbCmdAddrRead (regs : Store) : Nat := reg regs CMD_ADDR_HI 4 * 2 ^ 32 + reg regs CMD_ADDR_LO 4
def crbRspAddrRead (regs : Store) : Nat := reg regs RSP_ADDR 8
def crbCmdSizeRead (regs : Store) : Nat := reg regs CMD_SIZE 4
def crbRspSizeRead (regs : Store) : Nat := reg regs RSP_SIZE 4

def tpmCrbInit : Store :=
  let regs := setRegBit blank LOC_STATE 7 true
  let regs := setRegBit regs CTRL_STS 1 true
  -- the interface identifier: type, version, transfer size, CRB and its selection, vendor
  let regs := put regs 0x30 (leEnc 8 (1 + 1 * 2 ^ 4 + 3 * 2 ^ 11 + 1 * 2 ^ 14 + 1 * 2 ^ 17 + 0x1014 * 2 ^ 32))
  let regs := put regs CMD_SIZE (leEnc 4 TPM_CRB_DATA_BUFFER_SIZE)
  let regs := put regs CMD_ADDR_LO (leEnc 8 TPM_CRB_DATA_BUFFER_ADDRESS)
  let regs := put regs RSP_SIZE (leEnc 4 TPM_CRB_DATA_BUFFER_SIZE)
  put regs RSP_ADDR (leEnc 8 TPM_CRB_DATA_BUFFER_ADDRESS)

/-- An access; `junk` is what an uninitialised local holds. -/
structure Access where
  isWrite : Bool
  addr : Nat
  size : Nat
  val : Nat
  junk : UInt8
deriving DecidableEq

def copies (size : Nat) : Bool := size == 1 || size == 2 || size == 4 || size == 8

/-- The first byte of a register local after `*val << shift` was copied to it. -/
def Access.low (a : Access) (off : Nat) : UInt8 :=
  if copies a.size then UInt8.ofNat (a.val * 2 ^ (8 * (off % 4)) % 2 ^ 64) else a.junk

def stored (word : Nat) : Bool :=
  word == CMD_SIZE || word == CMD_ADDR_LO || word == CMD_ADDR_HI || word == RSP_SIZE ||
    (decide (RSP_ADDR ≤ word) && decide (word ≤ RSP_ADDR + 4)) ||
    (decide (DATA_BUFFER ≤ word) && decide (word ≤ DATA_BUFFER + TPM_CRB_DATA_BUFFER_SIZE - 1))

def tpmCrbWrite (regs : Store) (a : Access) (off : Nat) : Store × Bool :=
  let word := off / 4 * 4
  if word = LOC_CTRL then
    if a.size > 4 then (regs, false)
    else if testBit (a.low off) 1 then
      (setRegBit (setRegBit regs LOC_STS 0 false) LOC_STATE 1 false, false)
    else if testBit (a.low off) 0 then
      (setRegBit (setRegBit regs LOC_STS 0 true) LOC_STATE 1 true, false)
    else (regs, false)
  else if word = CTRL_REQ then
    if a.size > 4 then (regs, false)
    else if testBit (a.low off) 0 && !testBit (a.low off) 1 then
      (setRegBit regs CTRL_STS 1 false, false)
    else if !testBit (a.low off) 0 && testBit (a.low off) 1 then
      (setRegBit regs CTRL_STS 1 true, false)
    else (regs, false)
  else if word = CTRL_CANCEL then (regs, false)
  else if word = INT_ENABLE then (regs, false)
  else if word = CTRL_START then
    if a.size > 4 then (regs, false)
    else if !testBit (a.low off) 0 || startBit regs then (regs, false)
    else (setStart regs true, true)
  else if stored word then
    if copies a.size then (put regs off (leEnc a.size a.val), false) else (regs, false)
  else (regs, false)

/-- `tpm_crb_mem_handler`; a rejected access and a read change nothing. -/
def tpmCrbMemHandler (regs : Store) (a : Access) : Store × Bool :=
  let off := (a.addr + 2 ^ 64 - TPM_CRB_ADDRESS) % 2 ^ 64
  if a.addr &&& ((a.size + 2 ^ 64 - 1) % 2 ^ 64) ≠ 0 then (regs, false)
  else if off ≥ TPM_CRB_REGS_SIZE ∨ off + a.size > TPM_CRB_REGS_SIZE then (regs, false)
  else if a.isWrite = false then (regs, false)
  else tpmCrbWrite regs a off

structure Job where
  cmdAddr : Nat
  cmd : List UInt8
  rspAddr : Nat
  rspSize : Nat
deriving DecidableEq

inductive Pc where
  -- the thread exists but has not taken the mutex
  | created
  | waiting
  | woken
  | sending (job : Job) (rest : List UInt8)
  | header (job : Job) (got : List UInt8)
  -- `got` has the header; `len` is the length it announces
  | body (job : Job) (got : List UInt8) (len : Nat)
  | storing (job : Job) (rsp : List UInt8)
  | exited
  -- an access outside of the arrays
  | stray
deriving DecidableEq

/-- The test of an address and a size, in 64-bit arithmetic. -/
def badBuffer (addr size : Nat) : Bool :=
  decide (addr < TPM_CRB_DATA_BUFFER_ADDRESS) || decide (size < HDR_SIZE) ||
    decide (size > TPM_CRB_DATA_BUFFER_SIZE) ||
    decide ((addr + size) % 2 ^ 64 > TPM_CRB_DATA_BUFFER_ADDRESS + TPM_CRB_DATA_BUFFER_SIZE)

inductive Taken where
  | refused
  | job (j : Job)
  | stray
deriving DecidableEq

def hdrLen (hdr : List UInt8) : Nat := beDec ((hdr.drop 2).take 4)

def take (regs : Store) : Taken :=
  let cmdAddr := crbCmdAddrRead regs
  let rspAddr := crbRspAddrRead regs
  let cmdSize := crbCmdSizeRead regs
  let rspSize := crbRspSizeRead regs
  if badBuffer cmdAddr cmdSize then .refused
  else if badBuffer rspAddr rspSize then .refused
  else
    let cmdOff := cmdAddr - TPM_CRB_DATA_BUFFER_ADDRESS
    let rspOff := rspAddr - TPM_CRB_DATA_BUFFER_ADDRESS
    if cmdOff + HDR_SIZE > TPM_CRB_DATA_BUFFER_SIZE then .stray
    else
      let len := hdrLen (get regs (DATA_BUFFER + cmdOff) HDR_SIZE)
      if len < HDR_SIZE ∨ len > cmdSize then .refused
      else if cmdOff + len > TPM_CRB_DATA_BUFFER_SIZE ∨
          rspOff + rspSize > TPM_CRB_DATA_BUFFER_SIZE then .stray
      else .job ⟨cmdAddr, get regs (DATA_BUFFER + cmdOff) len, rspAddr, rspSize⟩

def padded (rspSize : Nat) (rsp : List UInt8) : List UInt8 :=
  rsp ++ List.replicate (rspSize - rsp.length) 0

def storeReply (regs : Store) (job : Job) (rsp : List UInt8) : Store :=
  let regs := put regs DATA_BUFFER (List.replicate TPM_CRB_DATA_BUFFER_SIZE 0)
  let regs := put regs (DATA_BUFFER + (job.rspAddr - TPM_CRB_DATA_BUFFER_ADDRESS))
    (padded job.rspSize rsp)
  setStart regs false

/-- Where `tpm_swtpm_execute_cmd` goes once the header is complete. -/
def afterHeader (job : Job) (hdr : List UInt8) : Pc :=
  if hdrLen hdr < HDR_SIZE then .storing job []
  else if hdrLen hdr > job.rspSize then .storing job []
  else if hdrLen hdr = HDR_SIZE then .storing job hdr
  else .body job hdr (hdrLen hdr)

inductive Sock where
  | send (n : Nat)
  | sendFail
  | recv (n : Nat)
  | recvFail
deriving DecidableEq

/-- One call of `tpm_swtpm_write_full` or `tpm_swtpm_read_full`, with the bytes left to receive. A
call moves at least one byte and no more than it was asked for. -/
def Pc.work (unread : List UInt8) : Pc → Sock → Option (Pc × List UInt8)
  | .sending job rest, .send n =>
    if 0 < n ∧ n ≤ rest.length then
      some (if rest.length = n then .header job [] else .sending job (rest.drop n), unread)
    else none
  | .sending job _, .sendFail => some (.storing job [], unread)
  | .header job got, .recv n =>
    let hdr := got ++ unread.take n
    if 0 < n ∧ n ≤ unread.length ∧ got.length + n ≤ HDR_SIZE then
      some (if hdr.length = HDR_SIZE then afterHeader job hdr else .header job hdr, unread.drop n)
    else none
  | .header job _, .recvFail => some (.storing job [], unread)
  | .body job got len, .recv n =>
    let rsp := got ++ unread.take n
    if 0 < n ∧ n ≤ unread.length ∧ got.length + n ≤ len then
      some (if rsp.length = len then .storing job rsp else .body job rsp len, unread.drop n)
    else none
  | .body job got _, .recvFail => some (.storing job got, unread)
  | _, _ => none

structure Sys where
  regs : Store
  closing : Bool
  pc : Pc
  -- bytes of the emulator that were not received yet, and all bytes it sent
  unread : List UInt8
  arrived : List UInt8
  -- accepted starts, refused and executed commands, and the replies stored
  accepted : Nat
  refused : Nat
  executed : List Job
  replies : List (Job × List UInt8)

inductive Label where
  | access (a : Access)
  | threadStart
  | spurious
  | wake
  | sock (c : Sock)
  | store
  | emulSend (bs : List UInt8)
  | close
  | idle
deriving DecidableEq

def Sys.loop (s : Sys) : Sys := { s with pc := if s.closing then .exited else .waiting }

def Sys.signal (s : Sys) : Sys := if s.pc = .waiting then { s with pc := .woken } else s

def Sys.access (s : Sys) (a : Access) : Sys :=
  let (regs, start) := tpmCrbMemHandler s.regs a
  if start then ({ s with regs, accepted := s.accepted + 1 } : Sys).signal else { s with regs }

def Sys.wake (s : Sys) : Sys :=
  if s.closing then { s with pc := .exited }
  else
    match take s.regs with
    | .refused => ({ s with regs := setStart s.regs false, refused := s.refused + 1 } : Sys).loop
    | .job j => { s with pc := .sending j j.cmd, executed := s.executed ++ [j] }
    | .stray => { s with pc := .stray }

def next (s : Sys) : Label → Option Sys
  | .access a => some (s.access a)
  | .threadStart => if s.pc = .created then some s.loop else none
  | .spurious => if s.pc = .waiting then some { s with pc := .woken } else none
  | .wake => if s.pc = .woken then some s.wake else none
  | .sock c => (s.pc.work s.unread c).map fun (pc, unread) => { s with pc, unread }
  | .store =>
    match s.pc with
    | .storing job rsp =>
      some ({ s with
        regs := storeReply s.regs job rsp
        replies := s.replies ++ [(job, padded job.rspSize rsp)] } : Sys).loop
    | _ => none
  | .emulSend bs => some { s with unread := s.unread ++ bs, arrived := s.arrived ++ bs }
  | .close => some ({ s with closing := true } : Sys).signal
  | .idle => some s

abbrev Step (s : Sys) (l : Label) (t : Sys) : Prop := next s l = some t

def init : Sys := ⟨tpmCrbInit, false, .created, [], [], 0, 0, [], []⟩

end ScorpiHv.Tpm

import ScorpiHv.Lib.Host
import ScorpiHv.Virtio.Config
import ScorpiHv.Virtio.Used

/-!
# The virtio block device

`pci_vtblk_proc` takes one request off the ring and hands it to the block threads.
Requests live in slots selected by the guest's head index.
-/

namespace ScorpiHv.Virtio
open Bytes

def BLOCKIF_IOV_MAX : Nat := 128
def BLOCKIF_RING_MAX : Nat := 128
def BLOCKIF_NUMTHR : Nat := 8
def BLOCKIF_MAXREQ : Nat := BLOCKIF_RING_MAX + BLOCKIF_NUMTHR

def VTBLK_BSIZE : Nat := 512
def VTBLK_MAX_DISCARD_SECT : Nat := (16 <<< 20) / VTBLK_BSIZE

def VTBLK_S_OK : UInt8 := 0
def VTBLK_S_IOERR : UInt8 := 1
def VTBLK_S_UNSUPP : UInt8 := 2

def VBH_OP_READ : Nat := 0
def VBH_OP_WRITE : Nat := 1
def VBH_OP_FLUSH : Nat := 4
def VBH_OP_FLUSH_OUT : Nat := 5
def VBH_OP_IDENT : Nat := 8
def VBH_OP_DISCARD : Nat := 11
def VBH_FLAG_BARRIER : Nat := 0x80000000

/-- Why the hypervisor dies: an assertion fails, a NULL pointer is followed, or a value is
used that was never set. -/
inductive Abort where
  | chainCount
  | readable
  | headerLen
  | writable
  | statusLen
  | direction
  | enqueue
  | resid
  | null
  | unset
  deriving DecidableEq

inductive BlockOp where
  | read
  | write
  | flush
  | delete
  deriving DecidableEq

/-- `struct pci_vtblk_ioreq`, whose `io_idx` is its own index. -/
structure Ioreq where
  iov : List Iovec := []
  offset : Nat := 0
  resid : Int := 0
  status : Nat := 0

/-- Where a block thread is with a request: before `blockif_proc`, at an entry of the vectors, or
moving `len` bytes of one. -/
inductive Phase where
  | queued
  | running (i : Nat)
  | moving (i len : Nat)
  deriving DecidableEq

/-- A request the block threads hold. They know it by its slot only; the session it was
submitted in is for the reader. -/
structure Flight where
  slot : Nat
  op : BlockOp
  session : Nat
  phase : Phase := .queued
  deriving DecidableEq

/-- What the guest can see of a request, with the session it was submitted in and, for
what happens later, the session it happens in. -/
inductive BlkEvent where
  | submit (session head : Nat)
  | store (session now : Nat)
  | status (session now : Nat)
  | used (session now head : Nat)
  deriving DecidableEq

/-- `lingering` counts the elements of the block interface whose callback has run and that
are not free yet. `session` and `log` are history, read by no function. -/
structure VtblkSoftc where
  ring : Ring
  ios : Nat → Ioreq
  ident : List UInt8
  inflight : List Flight := []
  lingering : Nat := 0
  session : Nat := 0
  log : List BlkEvent := []

namespace VtblkSoftc

def mem (sc : VtblkSoftc) : Store := sc.ring.mem

def emit (sc : VtblkSoftc) (e : BlkEvent) : VtblkSoftc := { sc with log := sc.log ++ [e] }

def writeMem (sc : VtblkSoftc) (p : Nat) (bs : List UInt8) : VtblkSoftc :=
  { sc with ring := { sc.ring with mem := put sc.ring.mem p bs } }

end VtblkSoftc

/-- The status byte for an errno, where `none` is 0. -/
def vtblkStatus : Option Errno → UInt8
  | none => VTBLK_S_OK
  | some .eopnotsupp => VTBLK_S_UNSUPP
  | some .enosys => VTBLK_S_UNSUPP
  | some _ => VTBLK_S_IOERR

/-- `pci_vtblk_done_locked` for a request of the given session. -/
def pciVtblkDoneLocked (sc : VtblkSoftc) (slot session : Nat) (err : Option Errno) :
    Except Abort VtblkSoftc :=
  if (sc.ios slot).status = 0 then .error .null
  else
    let sc := (sc.writeMem (sc.ios slot).status [vtblkStatus err]).emit (.status session sc.session)
    if sc.ring.vq.used = 0 then .error .null
    else
      let ring := (sc.ring.relchain slot 1).endchains false false |>.1
      .ok ({ sc with ring }.emit (.used session sc.session slot))

/-- `blockif_request` and the assertion on its result. -/
def blockifRequest (sc : VtblkSoftc) (slot : Nat) (op : BlockOp) : Except Abort VtblkSoftc :=
  if sc.inflight.length + sc.lingering < BLOCKIF_MAXREQ then
    .ok { sc with inflight := sc.inflight ++ [{ slot, op, session := sc.session }] }
  else .error .enqueue

def VtblkSoftc.setIo (sc : VtblkSoftc) (slot : Nat) (io : Ioreq) : VtblkSoftc :=
  { sc with ios := Function.update sc.ios slot io }

/-- The threads inside `blockif_proc`. -/
def VtblkSoftc.busy (sc : VtblkSoftc) : Nat := sc.inflight.countP fun f => f.phase ≠ .queued

/-- A thread is somewhere else with the `k`th request. -/
def VtblkSoftc.setPhase (sc : VtblkSoftc) (k : Nat) (f : Flight) (phase : Phase) : VtblkSoftc :=
  { sc with inflight := sc.inflight.set k { f with phase } }

def VtblkSoftc.setResid (sc : VtblkSoftc) (slot : Nat) (resid : Int) : VtblkSoftc :=
  sc.setIo slot { sc.ios slot with resid }

/-- `blockif_proc` begins, with its assertion. -/
def blockifProc (sc : VtblkSoftc) (k : Nat) (f : Flight) : Except Abort VtblkSoftc :=
  if (sc.ios f.slot).resid < 0 then .error .resid else .ok (sc.setPhase k f (.running 0))

/-- The head of the loop of `blockif_read_iov` and `blockif_write_iov` at an entry, while bytes are
left. -/
def blockifLen (sc : VtblkSoftc) (k : Nat) (f : Flight) (i : Nat) (v : Iovec) : VtblkSoftc :=
  let len := min (sc.ios f.slot).resid.toNat v.len
  sc.setPhase k f (if len = 0 then .running (i + 1) else .moving i len)

/-- The end of a turn of that loop. -/
def blockifMoved (sc : VtblkSoftc) (k : Nat) (f : Flight) (i len : Nat) : VtblkSoftc :=
  (sc.setResid f.slot ((sc.ios f.slot).resid - len)).setPhase k f (.running (i + 1))

/-- `struct virtio_blk_hdr`, the barrier flag masked off. -/
structure BlkHdr where
  type : Nat
  sector : Nat

def BlkHdr.load (mem : Store) (p : Nat) : BlkHdr where
  type := leDec (get mem p 4) % VBH_FLAG_BARRIER
  sector := leDec (get mem (p + 8) 8)

structure BlkDiscard where
  sector : Nat
  numSectors : Nat
  flags : Nat

def BlkDiscard.load (mem : Store) (p : Nat) : BlkDiscard where
  sector := leDec (get mem p 8)
  numSectors := leDec (get mem (p + 8) 4)
  flags := leDec (get mem (p + 12) 4)

def isWriteop (type : Nat) : Bool := type == VBH_OP_WRITE || type == VBH_OP_DISCARD

def ViReq.facing (req : ViReq) (type : Nat) : Nat :=
  if isWriteop type then req.readable else req.writable

/-- The `VBH_OP_DISCARD` case. -/
def vtblkDiscard (sc : VtblkSoftc) (slot : Nat) (iov1 : Iovec) : Except Abort VtblkSoftc :=
  if iov1.len ≠ 16 then pciVtblkDoneLocked sc slot sc.session (some .einval)
  else if iov1.base = 0 then .error .null
  else
    let discard := BlkDiscard.load sc.mem iov1.base
    if discard.flags ≠ 0 then pciVtblkDoneLocked sc slot sc.session (some .enotsup)
    else if VTBLK_MAX_DISCARD_SECT < discard.numSectors then
      pciVtblkDoneLocked sc slot sc.session (some .einval)
    else
      blockifRequest (sc.setIo slot
        { sc.ios slot with
          offset := discard.sector * VTBLK_BSIZE % 2 ^ 64
          resid := (discard.numSectors * VTBLK_BSIZE : Nat) }) slot .delete

/-- The `VBH_OP_IDENT` case: the identifier, cut or padded to the buffer. -/
def vtblkIdent (sc : VtblkSoftc) (slot : Nat) (iov1 : Iovec) : Except Abort VtblkSoftc :=
  if iov1.base = 0 ∧ iov1.len ≠ 0 then .error .null
  else
    let text := (sc.ident.takeWhile (· ≠ 0)).take (min iov1.len 21)
    let bytes := text ++ List.replicate (iov1.len - text.length) 0
    pciVtblkDoneLocked (sc.writeMem iov1.base bytes) slot sc.session none

/-- The `switch` of `pci_vtblk_proc`. -/
def vtblkDispatch (sc : VtblkSoftc) (slot type : Nat) (iov1 : Iovec) :
    Except Abort VtblkSoftc :=
  if type = VBH_OP_READ then blockifRequest sc slot .read
  else if type = VBH_OP_WRITE then blockifRequest sc slot .write
  else if type = VBH_OP_DISCARD then vtblkDiscard sc slot iov1
  else if type = VBH_OP_FLUSH ∨ type = VBH_OP_FLUSH_OUT then blockifRequest sc slot .flush
  else if type = VBH_OP_IDENT then vtblkIdent sc slot iov1
  else pciVtblkDoneLocked sc slot sc.session (some .eopnotsupp)

/-- `pci_vtblk_proc` behind a `vq_getchain` that returned `n` entries. -/
def vtblkRequest (sc : VtblkSoftc) (n : Nat) (iov : Nat → Iovec) (req : ViReq) :
    Except Abort VtblkSoftc :=
  let sc := sc.emit (.submit sc.session req.idx)
  if req.readable = 0 then .error .readable
  else if (iov 0).len ≠ 16 then .error .headerLen
  else if (iov 0).base = 0 then .error .null
  else
    let vbh := BlkHdr.load sc.mem (iov 0).base
    let data := (List.range (n - 2)).map fun i => iov (i + 1)
    let io : Ioreq :=
      { iov := data
        offset := vbh.sector * VTBLK_BSIZE % 2 ^ 64
        resid := ((data.map (·.len)).sum : Nat)
        status := (iov (n - 1)).base }
    if req.writable = 0 then .error .writable
    else if (iov (n - 1)).len ≠ 1 then .error .statusLen
    else if n - 1 ≠ req.facing vbh.type then .error .direction
    else vtblkDispatch (sc.setIo req.idx io) req.idx vbh.type (iov 1)

/-- `pci_vtblk_proc`; `iov` is what the stack array holds before the call. Neither
capability word of the device has `VIRTIO_RING_F_EVENT_IDX`. -/
def pciVtblkProc (ram : Ram) (iov : Nat → Iovec) (sc : VtblkSoftc) : Except Abort VtblkSoftc :=
  let g := sc.ring.getchain ram true false (BLOCKIF_IOV_MAX + 2) iov
  let sc := { sc with ring := ⟨g.vq, g.mem⟩ }
  match g.ret with
  | none => .error .null
  | some n =>
    if n < 2 ∨ (BLOCKIF_IOV_MAX + 2 : Nat) < n then .error .chainCount
    else
      match g.req with
      | none => .error .unset
      | some req => vtblkRequest sc n.toNat g.iov req

end ScorpiHv.Virtio

import ScorpiHv.Lib.Bytes

/-!
# Walking a descriptor chain

Guest RAM is a list of segments mapped into the host. Ring pointers are host
addresses, with 0 for NULL, and a ring is whatever bytes stand there. `vq_getchain`
flattens the chain at the head of the available ring into an iovec, and its walk keeps a
log of the descriptors it reads. Names leave out `vq_`.
-/

namespace ScorpiHv.Virtio
open Bytes

def VRING_ALIGN : Nat := 4096

/-- A segment of guest RAM. Its host mapping comes from `mmap`. -/
structure Memseg where
  base : Nat
  size : Nat
  addr : Nat
  addr_pos : 0 < addr
  base_aligned : VRING_ALIGN ∣ base
  addr_aligned : VRING_ALIGN ∣ addr

abbrev Ram := List Memseg

def Memseg.Holds (seg : Memseg) (gaddr len : Nat) : Prop :=
  seg.base ≤ gaddr ∧ gaddr - seg.base < seg.size ∧ len ≤ seg.size - (gaddr - seg.base)

instance (seg : Memseg) (gaddr len : Nat) : Decidable (seg.Holds gaddr len) :=
  inferInstanceAs (Decidable (_ ∧ _ ∧ _))

/-- `paddr_guest2host`, which is `vm_map_gpa`. -/
def paddrGuest2host : Ram → Nat → Nat → Nat
  | [], _, _ => 0
  | seg :: segs, gaddr, len =>
    if seg.Holds gaddr len then seg.addr + (gaddr - seg.base) else paddrGuest2host segs gaddr len

lemma paddrGuest2host_aligned {ram : Ram} {gaddr len : Nat} (h : VRING_ALIGN ∣ gaddr) :
    VRING_ALIGN ∣ paddrGuest2host ram gaddr len := by
  induction ram with
  | nil => exact Nat.dvd_zero _
  | cons seg segs ih =>
    unfold paddrGuest2host
    split
    · exact Nat.dvd_add seg.addr_aligned (Nat.dvd_sub h seg.base_aligned)
    · exact ih

def onePage : Ram := [⟨0, 4096, 4096, by decide, by decide, by decide⟩]

def threePages : Ram := [⟨0, 12288, 4096, by decide, by decide, by decide⟩]

def VRING_DESC_F_NEXT : Nat := 1
def VRING_DESC_F_WRITE : Nat := 2
def VRING_DESC_F_INDIRECT : Nat := 4
def VRING_USED_F_NO_NOTIFY : Nat := 1
def VRING_AVAIL_F_NO_INTERRUPT : Nat := 1

def VIRTIO_RING_F_INDIRECT_DESC : UInt64 := (1 : UInt64) <<< 28
def VIRTIO_RING_F_EVENT_IDX : UInt64 := (1 : UInt64) <<< 29
def VIRTIO_MSI_NO_VECTOR : UInt16 := 0xFFFF

structure VringDesc where
  addr : Nat
  len : Nat
  flags : Nat
  next : Nat
  deriving DecidableEq

def VringDesc.size : Nat := 16

namespace VringDesc

def isIndirect (d : VringDesc) : Bool := d.flags &&& VRING_DESC_F_INDIRECT != 0
def isWrite (d : VringDesc) : Bool := d.flags &&& VRING_DESC_F_WRITE != 0
def hasNext (d : VringDesc) : Bool := d.flags &&& VRING_DESC_F_NEXT != 0

def load (mem : Store) (p : Nat) : VringDesc where
  addr := leDec (get mem p 8)
  len := leDec (get mem (p + 8) 4)
  flags := leDec (get mem (p + 12) 2)
  next := leDec (get mem (p + 14) 2)

end VringDesc

def load16 (mem : Store) (p : Nat) : UInt16 := UInt16.ofNat (leDec (get mem p 2))

def VQ_ALLOC : UInt16 := 1

/-- `struct vqueue_info`; `desc`, `avail` and `used` are host addresses. -/
structure VqueueInfo where
  qsize : Nat
  maxqsize : Nat
  flags : UInt16 := 0
  lastAvail : UInt16 := 0
  nextUsed : UInt16 := 0
  saveUsed : UInt16 := 0
  msixIdx : UInt16 := VIRTIO_MSI_NO_VECTOR
  pfn : UInt32 := 0
  desc : Nat := 0
  avail : Nat := 0
  used : Nat := 0
  descGpa : UInt64 := 0
  availGpa : UInt64 := 0
  usedGpa : UInt64 := 0
  enabled : Bool := false
  deriving DecidableEq

namespace VqueueInfo

def availIdx (vq : VqueueInfo) (mem : Store) : UInt16 := load16 mem (vq.avail + 2)

def availRing (vq : VqueueInfo) (mem : Store) (i : Nat) : Nat :=
  (load16 mem (vq.avail + 4 + 2 * i)).toNat

def usedRing (vq : VqueueInfo) (i : Nat) : Nat := vq.used + 4 + 8 * i

def descAt (vq : VqueueInfo) (mem : Store) (i : Nat) : VringDesc :=
  .load mem (vq.desc + VringDesc.size * i)

def ringReady (vq : VqueueInfo) : Bool :=
  vq.flags &&& VQ_ALLOC != 0 && vq.desc != 0 && vq.avail != 0 && vq.used != 0

def hasDescs (vq : VqueueInfo) (mem : Store) : Bool :=
  vq.ringReady && vq.lastAvail != vq.availIdx mem

/-- `VQ_AVAIL_EVENT_IDX`, the word behind the used ring. -/
def availEventIdx (vq : VqueueInfo) : Nat := vq.usedRing vq.qsize

/-- `VQ_USED_EVENT_IDX`, the word behind the available ring. -/
def usedEventIdx (vq : VqueueInfo) (mem : Store) : UInt16 :=
  load16 mem (vq.avail + 4 + 2 * vq.qsize)

end VqueueInfo

def VQ_MAX_DESCRIPTORS : Nat := 512

structure Iovec where
  base : Nat
  len : Nat
  deriving DecidableEq

@[ext] structure ViReq where
  readable : Nat := 0
  writable : Nat := 0
  idx : Nat := 0
  deriving DecidableEq

inductive DescRead where
  | main (i : Nat)
  | indirect (table size i : Nat)
  deriving DecidableEq

def DescRead.isMain : DescRead → Bool
  | .main _ => true
  | .indirect .. => false

/-- The loop variables of `vq_getchain`. -/
structure Walk where
  i : Nat
  iov : Nat → Iovec
  req : ViReq

def Walk.start (head : Nat) (iov : Nat → Iovec) : Walk := ⟨0, iov, { idx := head }⟩

@[simp] lemma Walk.start_i (head : Nat) (iov : Nat → Iovec) : (Walk.start head iov).i = 0 := rfl

@[simp] lemma Walk.start_iov (head : Nat) (iov : Nat → Iovec) : (Walk.start head iov).iov = iov := rfl

/-- What a walk reads besides the rings: guest RAM, the host's view of it, the caller's
room in `iov[]`, and whether the device offers indirect descriptors. -/
structure WalkEnv where
  ram : Ram
  mem : Store
  niov : Nat
  indirect : Bool

inductive WalkEnd where
  | done
  | invalid
  /-- The next read goes through a NULL indirect table. -/
  | nullTable
  deriving DecidableEq

def VringDesc.buffer (d : VringDesc) (ram : Ram) : Iovec :=
  ⟨paddrGuest2host ram d.addr d.len, d.len⟩

def vqRecord (env : WalkEnv) (d : VringDesc) (w : Walk) : Walk :=
  if env.niov ≤ w.i then w
  else
    { w with
      iov := Function.update w.iov w.i (d.buffer env.ram)
      req := if d.isWrite then { w.req with writable := w.req.writable + 1 }
        else { w.req with readable := w.req.readable + 1 } }

/-- `_vq_record` and the `i++` behind it. -/
def Walk.record (env : WalkEnv) (w : Walk) (d : VringDesc) : Walk :=
  { vqRecord env d w with i := w.i + 1 }

@[simp] lemma Walk.record_i (env : WalkEnv) (w : Walk) (d : VringDesc) : (w.record env d).i = w.i + 1 := rfl

def indirectLoop (env : WalkEnv) (table nIndir next : Nat) (w : Walk) (log : List DescRead) :
    WalkEnd × Walk × List DescRead :=
  let vp := VringDesc.load env.mem (table + VringDesc.size * next)
  let log := log ++ [.indirect table nIndir next]
  if vp.isIndirect then (.invalid, w, log)
  else if VQ_MAX_DESCRIPTORS < w.i + 1 then (.invalid, w.record env vp, log)
  else if !vp.hasNext then (.done, w.record env vp, log)
  else if nIndir ≤ vp.next then (.invalid, w.record env vp, log)
  else indirectLoop env table nIndir vp.next (w.record env vp) log
termination_by VQ_MAX_DESCRIPTORS + 1 - w.i
decreasing_by simp only [Walk.record_i]; omega

lemma indirectLoop_grows {env : WalkEnv} {table nIndir next : Nat} {w w' : Walk} {log log' : List DescRead}
    (h : indirectLoop env table nIndir next w log = (.done, w', log')) : w.i < w'.i := by
  fun_induction indirectLoop env table nIndir next w log with
  | case1 | case2 | case4 => simp at h
  | case3 =>
    have hw : _ = w' := congrArg (fun r => r.2.1) h
    rw [← hw]
    exact Nat.lt_succ_self _
  | case5 next w log vp log₁ hind hmax hnext hlt ih => exact (Nat.lt_succ_self _).trans (ih h)

def mainLoop (env : WalkEnv) (vq : VqueueInfo) (next : Nat) (w : Walk) (log : List DescRead) :
    WalkEnd × Walk × List DescRead :=
  if VQ_MAX_DESCRIPTORS ≤ w.i then (.invalid, w, log)
  else if vq.qsize ≤ next then (.invalid, w, log)
  else
    let vdir := vq.descAt env.mem next
    let log := log ++ [.main next]
    if !vdir.isIndirect then
      if vdir.hasNext then mainLoop env vq vdir.next (w.record env vdir) log
      else (.done, w.record env vdir, log)
    else if !env.indirect then (.invalid, w, log)
    else if vdir.len % 16 ≠ 0 ∨ vdir.len / 16 = 0 then (.invalid, w, log)
    else
      let vindir := paddrGuest2host env.ram vdir.addr vdir.len
      -- The source reads `vindir[0]` whatever the mapping returned.
      if vindir = 0 then (.nullTable, w, log)
      else
        match _h : indirectLoop env vindir (vdir.len / 16) 0 w log with
        | (.done, w', log') =>
          if vdir.hasNext then mainLoop env vq vdir.next w' log' else (.done, w', log')
        | r => r
termination_by VQ_MAX_DESCRIPTORS - w.i
decreasing_by
  · simp only [Walk.record_i]; omega
  · have := indirectLoop_grows _h; omega

/-- What a call leaves behind: its return value, where `none` is a read through NULL, the
queue, memory, `iov[]`, and `*reqp` where it was written. -/
structure Getchain where
  ret : Option Int
  vq : VqueueInfo
  mem : Store
  iov : Nat → Iovec
  req : Option ViReq := none
  log : List DescRead := []

def VqueueInfo.head (vq : VqueueInfo) (mem : Store) : Nat :=
  vq.availRing mem (vq.lastAvail.toNat &&& (vq.qsize - 1))

/-- The code of `vq_getchain` behind its loops. -/
def Getchain.finish (env : WalkEnv) (eventIdx : Bool) (vq : VqueueInfo) :
    WalkEnd × Walk × List DescRead → Getchain
  | (.done, w, log) =>
    let mem := if eventIdx then put env.mem vq.availEventIdx (leEnc 2 vq.lastAvail.toNat)
      else env.mem
    { ret := some w.i, vq, mem, iov := w.iov, req := some w.req, log }
  | (.invalid, w, log) => { ret := some (-1), vq, mem := env.mem, iov := w.iov, log }
  | (.nullTable, w, log) => { ret := none, vq, mem := env.mem, iov := w.iov, log }

def vqGetchain (env : WalkEnv) (eventIdx : Bool) (vq : VqueueInfo) (iov : Nat → Iovec) :
    Getchain :=
  let ndesc := (vq.availIdx env.mem - vq.lastAvail).toNat
  if ndesc = 0 then { ret := some 0, vq, mem := env.mem, iov }
  else if vq.qsize < ndesc then { ret := some (-1), vq, mem := env.mem, iov }
  else
    let head := vq.head env.mem
    .finish env eventIdx { vq with lastAvail := vq.lastAvail + 1 }
      (mainLoop env vq head (.start head iov) [])

end ScorpiHv.Virtio

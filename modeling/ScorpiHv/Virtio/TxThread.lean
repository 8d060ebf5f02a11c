import ScorpiHv.Virtio.Ready
import ScorpiHv.Virtio.Net

/-!
# The transmit thread of the network device

The thread sleeps on a condition variable while the ring is empty. Lock-protected
sections are single steps; one mutex serialises register writes.
-/

namespace ScorpiHv.Virtio
open Bytes

/-- Where `pci_vtnet_tx_thread` is. -/
inductive TxPc where
  /-- Created, not yet in its first wait. -/
  | start
  | waiting
  /-- On its way to the lock: woken, or done with a batch. -/
  | lock
  | proc
  | look
  | dead
  deriving DecidableEq

/-- `ping` is a `pci_vtnet_ping_txq` between its look at the ring and the lock. The driver is
`looking` from a publication to its look at the flag. -/
structure TxState where
  sc : VtnetSoftc
  pc : TxPc := .start
  inProgress : Bool := false
  resetting : Bool := false
  ping : Bool := false
  pending : Nat := 0
  looking : Bool := false

namespace TxState

def hasDescs (s : TxState) : Bool := s.sc.tx.hasDescs s.sc.mem

/-- `VRING_USED_F_NO_NOTIFY` as the driver sees it. -/
def noNotify (s : TxState) : Bool :=
  leDec (get s.sc.mem s.sc.tx.used 2) &&& VRING_USED_F_NO_NOTIFY != 0

def check (s : TxState) : TxState :=
  let work (s : TxState) : TxState :=
    { s with sc := s.sc.setTx s.sc.txRing.kickDisable, inProgress := true, pc := .proc }
  if s.resetting || !s.hasDescs then
    if s.sc.tx.used = 0 then { s with pc := .dead }
    else
      let s := { s with sc := s.sc.setTx s.sc.txRing.kickEnable }
      if !s.resetting && s.hasDescs then work s
      else { s with inProgress := false, pc := .waiting }
  else work s

/-- The locked section of `pci_vtnet_ping_txq`. A signal wakes nobody but a waiting thread. -/
def pingLock (s : TxState) : TxState :=
  { s with
    sc := s.sc.setTx s.sc.txRing.kickDisable
    ping := false
    pc := if !s.inProgress && s.pc = .waiting then .lock else s.pc }

/-- `vi_reset_dev` at the end of `pci_vtnet_reset`. -/
def resetDev (s : TxState) : TxState :=
  { s with
    sc := { s.sc with rx := s.sc.rx.reset, tx := s.sc.tx.reset, featuresNegotiated := false }
    resetting := false }

/-- The first locked section of `pci_vtnet_reset`. -/
def resetBegin (s : TxState) : TxState :=
  if s.inProgress then { s with resetting := true } else s.resetDev

end TxState

inductive TxLabel where
  | guest (mem : Store)
  | look
  | notify
  | pingCheck
  | pingLock
  | firstWait
  | spurious
  | check
  | proctx (iov : Nat → Iovec) (send : NetSend)
  | lookAgain
  | resetBegin
  | resetPoll
  | setup (pfn : UInt32) (mem : Store)

inductive TxStep (ram : Ram) (s : TxState) : TxLabel → TxState → Prop where
  /-- The driver writes memory, but not the flag. When the index moved it will look. -/
  | guest {mem : Store} : get mem s.sc.tx.used 2 = get s.sc.mem s.sc.tx.used 2 →
      TxStep ram s (.guest mem)
        { s with
          sc := { s.sc with mem }
          looking := s.looking || s.sc.tx.availIdx mem != s.sc.tx.availIdx s.sc.mem }
  | look : TxStep ram s .look
      { s with looking := false, pending := if s.noNotify then s.pending else s.pending + 1 }
  | notify : TxStep ram s .notify { s with pending := s.pending + 1 }
  | pingCheck : 0 < s.pending → s.ping = false → s.resetting = false →
      TxStep ram s .pingCheck { s with pending := s.pending - 1, ping := s.hasDescs }
  | pingLock : s.ping = true → TxStep ram s .pingLock s.pingLock
  | firstWait : s.pc = .start → TxStep ram s .firstWait { s with pc := .waiting }
  | spurious : s.pc = .waiting → TxStep ram s .spurious { s with pc := .lock }
  | check : s.pc = .lock → TxStep ram s .check s.check
  | proctx {sc : VtnetSoftc} (iov : Nat → Iovec) (send : NetSend) : s.pc = .proc →
      pciVtnetProctx ram iov send s.sc = .ok sc →
      TxStep ram s (.proctx iov send) { s with sc, pc := .look }
  | abort {a : Abort} (iov : Nat → Iovec) (send : NetSend) : s.pc = .proc →
      pciVtnetProctx ram iov send s.sc = .error a →
      TxStep ram s (.proctx iov send) { s with pc := .dead }
  /-- The loop condition behind `pci_vtnet_proctx`, and `vq_endchains` behind the loop. -/
  | lookAgain : s.pc = .look → TxStep ram s .lookAgain
      (if s.hasDescs then { s with pc := .proc }
       else { s with sc := s.sc.setTx (s.sc.txRing.endchains false true).1, pc := .lock })
  | resetBegin : s.ping = false → s.resetting = false → TxStep ram s .resetBegin s.resetBegin
  | resetPoll : s.resetting = true → s.inProgress = false → TxStep ram s .resetPoll s.resetDev
  /-- A driver sets the queue up, with the flag of its new ring clear. -/
  | setup {mem : Store} (pfn : UInt32) : s.ping = false → s.resetting = false →
      s.sc.tx.ringReady = false →
      leDec (get mem (viVqInit ram s.sc.tx pfn).used 2) &&& VRING_USED_F_NO_NOTIFY = 0 →
      TxStep ram s (.setup pfn mem)
        { s with sc := { s.sc with tx := viVqInit ram s.sc.tx pfn, mem }, looking := true }

/-- The transmit thread sleeps on a ring with an entry, and nobody is going to wake it. -/
structure TxState.Stuck (s : TxState) : Prop where
  pc : s.pc = .waiting
  hasDescs : s.hasDescs = true
  resetting : s.resetting = false
  pending : s.pending = 0
  ping : s.ping = false
  looking : s.looking = false

def TxPc.Parked (pc : TxPc) : Prop := pc = .start ∨ pc = .waiting

/-- While the thread is parked the driver may notify, and does when there is an entry. -/
structure TxInv (s : TxState) : Prop where
  layout : s.sc.tx.ringReady = true → s.sc.tx.avail + 4 ≤ s.sc.tx.used
  idle : s.pc.Parked → s.inProgress = false
  flag : s.pc.Parked → s.sc.tx.ringReady = true → s.noNotify = false
  wake : s.pc.Parked → s.resetting = false → s.hasDescs = true →
    s.looking = true ∨ 0 < s.pending ∨ s.ping = true

section

lemma Ring.kickEnable_flag (r : Ring) :
    leDec (get r.kickEnable.mem r.vq.used 2) &&& VRING_USED_F_NO_NOTIFY = 0 := by
  have hlt := leDec_get_lt r.mem r.vq.used 2
  have hget : get r.kickEnable.mem r.vq.used 2 =
      leEnc 2 (leDec (get r.mem r.vq.used 2) / 2 * 2) := by
    have hsame := get_put_same r.mem r.vq.used (leEnc 2 (leDec (get r.mem r.vq.used 2) / 2 * 2))
    rwa [leEnc_length] at hsame
  rw [hget, leDec_leEnc (by omega)]
  change _ &&& 1 = 0
  rw [Nat.and_one_is_mod]
  omega

lemma viVqInit_layout (ram : Ram) (vq : VqueueInfo) (pfn : UInt32) :
    (viVqInit ram vq pfn).avail + 4 ≤ (viVqInit ram vq pfn).used := by
  unfold viVqInit
  dsimp only
  refine le_trans ?_ (le_roundup2 (by decide))
  omega

lemma not_ready_hasDescs {vq : VqueueInfo} (mem : Store) (h : vq.ringReady = false) :
    vq.hasDescs mem = false := by
  unfold VqueueInfo.hasDescs
  rw [h, Bool.false_and]

end

section

variable {ram : Ram} {s t : TxState}

lemma TxInv.of_busy (hbusy : ¬ t.pc.Parked)
    (hlayout : t.sc.tx.ringReady = true → t.sc.tx.avail + 4 ≤ t.sc.tx.used) : TxInv t where
  layout := hlayout
  idle hp := absurd hp hbusy
  flag hp := absurd hp hbusy
  wake hp := absurd hp hbusy

lemma TxInv.of_not_ready (hidle : t.pc.Parked → t.inProgress = false)
    (hr : t.sc.tx.ringReady = false) : TxInv t where
  layout h := by rw [hr] at h; cases h
  idle := hidle
  flag _ h := by rw [hr] at h; cases h
  wake _ _ h := by
    rw [TxState.hasDescs, not_ready_hasDescs _ hr] at h
    cases h

lemma TxInv.resetDev (h : TxInv s) : TxInv s.resetDev :=
  .of_not_ready h.idle (not_ready_of_desc rfl)

lemma TxInv.check (h : TxInv s) : TxInv s.check := by
  have hwork : ∀ sc : VtnetSoftc, sc.tx = s.sc.tx →
      TxInv { s with sc := sc.setTx sc.txRing.kickDisable, inProgress := true, pc := .proc } := by
    intro sc hsc
    refine .of_busy (by rintro (h | h) <;> cases h) fun hr => ?_
    change sc.tx.avail + 4 ≤ sc.tx.used
    rw [hsc]
    exact h.layout (hsc ▸ hr)
  unfold TxState.check
  dsimp only
  split
  · split
    · exact .of_busy (by rintro (h | h) <;> cases h) h.layout
    split
    · exact hwork _ rfl
    next hempty =>
      -- The thread goes to sleep: the flag is clear, and the ring was empty behind it.
      refine ⟨h.layout, fun _ => rfl, fun _ _ => ?_, fun _ hres hdescs => ?_⟩
      · have hflag := s.sc.txRing.kickEnable_flag
        rw [TxState.noNotify, bne_eq_false_iff_eq]
        exact hflag
      · exact absurd (Bool.and_eq_true_iff.mpr ⟨by rw [hres]; rfl, hdescs⟩) hempty
  · exact hwork _ rfl

lemma TxInv.step {l : TxLabel} (h : TxInv s) (hstep : TxStep ram s l t)
    (hgood : l = .pingLock → s.pc ≠ .start) : TxInv t := by
  cases hstep with
  | @guest mem hflag =>
    refine ⟨h.layout, h.idle, fun hp hr => ?_, fun hp hres hdescs => ?_⟩
    · have hold := h.flag hp hr
      rw [TxState.noNotify] at hold ⊢
      rwa [hflag]
    by_cases hidx : s.sc.tx.availIdx mem = s.sc.tx.availIdx s.sc.mem
    · have hold : s.hasDescs = true := by
        rw [TxState.hasDescs, VqueueInfo.hasDescs] at hdescs ⊢
        rwa [← hidx]
      rcases h.wake hp hres hold with hw | hw
      · exact .inl (by simp [hw])
      · exact .inr hw
    · exact .inl (by simp [hidx])
  | look =>
    refine ⟨h.layout, h.idle, h.flag, fun hp hres hdescs => .inr (.inl ?_)⟩
    have hready : s.sc.tx.ringReady = true := (Bool.and_eq_true_iff.mp hdescs).1
    rw [h.flag hp hready, if_neg Bool.false_ne_true]
    exact Nat.succ_pos _
  | notify => exact ⟨h.layout, h.idle, h.flag, fun _ _ _ => .inr (.inl (Nat.succ_pos _))⟩
  | pingCheck => exact ⟨h.layout, h.idle, h.flag, fun _ _ hdescs => .inr (.inr hdescs)⟩
  | pingLock =>
    by_cases hw : s.pc = .waiting
    · have hidle := h.idle (.inr hw)
      refine .of_busy ?_ h.layout
      rw [TxState.pingLock]
      simp only [hidle, hw, Bool.not_false, decide_true, Bool.and_self, if_true]
      rintro (h | h) <;> cases h
    · have hbusy : ¬ s.pc.Parked := fun hp => hp.elim (hgood rfl) hw
      refine .of_busy ?_ h.layout
      rw [TxState.pingLock]
      simp only [hw, decide_false, Bool.and_false, Bool.false_eq_true, if_false]
      exact hbusy
  | firstWait hpc =>
    have hp : s.pc.Parked := .inl hpc
    exact ⟨h.layout, fun _ => h.idle hp, fun _ => h.flag hp, fun _ => h.wake hp⟩
  | spurious | abort => exact .of_busy (by rintro (h | h) <;> cases h) h.layout
  | check => exact h.check
  | proctx iov send _ hok =>
    obtain ⟨idx, len, r, lastAvail, hvq, rfl⟩ := pciVtnetProctx_eq hok
    refine .of_busy (by rintro (h | h) <;> cases h) fun hr => ?_
    change r.vq.ringReady = true at hr
    change r.vq.avail + 4 ≤ r.vq.used
    rw [hvq] at hr ⊢
    exact h.layout hr
  | lookAgain =>
    split
    · exact .of_busy (by rintro (h | h) <;> cases h) h.layout
    · exact .of_busy (by rintro (h | h) <;> cases h) h.layout
  | resetBegin =>
    unfold TxState.resetBegin
    split
    next hin =>
      have hbusy : ¬ s.pc.Parked := fun hp => by rw [h.idle hp] at hin; cases hin
      exact .of_busy hbusy h.layout
    · exact h.resetDev
  | resetPoll => exact h.resetDev
  | @setup mem pfn _ _ _ hflag =>
    refine ⟨fun _ => viVqInit_layout ram s.sc.tx pfn, h.idle, fun _ _ => ?_, fun _ _ _ => .inl rfl⟩
    rw [TxState.noNotify, bne_eq_false_iff_eq]
    exact hflag

/-- The device just after `pthread_create`: no queue is set up yet. -/
structure TxState.Fresh (s : TxState) : Prop where
  pc : s.pc = .start
  inProgress : s.inProgress = false
  ready : s.sc.tx.ringReady = false

def SettledTxStep (ram : Ram) (s : TxState) (l : TxLabel) (t : TxState) : Prop :=
  TxStep ram s l t ∧ (l = .pingLock → s.pc ≠ .start)

lemma TxInv.run {ls : List TxLabel} (hs : s.Fresh) (hrun : Trace (SettledTxStep ram) s ls t) : TxInv t := by
  have hstart : TxInv s := .of_not_ready (fun _ => hs.inProgress) hs.ready
  have keep : ∀ s l t, TxInv s → True → SettledTxStep ram s l t → TxInv t :=
    fun _ _ _ h _ hstep => h.step hstep.1 hstep.2
  exact hrun.invariant (fun _ => True) keep (fun _ _ => trivial) hstart

lemma TxInv.not_stuck (h : TxInv s) : ¬ s.Stuck := by
  intro hstuck
  rcases h.wake (.inr hstuck.pc) hstuck.resetting hstuck.hasDescs with hw | hw | hw
  · rw [hstuck.looking] at hw
    cases hw
  · rw [hstuck.pending] at hw
    cases hw
  · rw [hstuck.ping] at hw
    cases hw

lemma Ring.kickDisable_hasDescs (r : Ring) (h : r.vq.avail + 4 ≤ r.vq.used) :
    r.vq.hasDescs r.kickDisable.mem = r.vq.hasDescs r.mem := by
  have hidx : r.vq.availIdx r.kickDisable.mem = r.vq.availIdx r.mem := by
    unfold VqueueInfo.availIdx load16
    rw [Ring.kickDisable]
    rw [get_put_disjoint (.inl (by omega))]
  unfold VqueueInfo.hasDescs
  rw [hidx]

lemma early_ping_lost (h : TxInv s) (hpc : s.pc = .start) (hping : s.ping = true)
    (hdescs : s.hasDescs = true) (hres : s.resetting = false) (hpend : s.pending = 0)
    (hlook : s.looking = false) : ∃ t, Trace (TxStep ram) s [.pingLock, .firstWait] t ∧ t.Stuck := by
  have hready : s.sc.tx.ringReady = true := (Bool.and_eq_true_iff.mp hdescs).1
  have hpc' : s.pingLock.pc = .start := by
    rw [TxState.pingLock]
    simp [hpc]
  refine ⟨_, .cons (.pingLock hping) (.single (.firstWait hpc')), rfl, ?_, hres, hpend, rfl, hlook⟩
  have hsame : s.sc.tx.hasDescs s.sc.txRing.kickDisable.mem = s.sc.tx.hasDescs s.sc.mem :=
    s.sc.txRing.kickDisable_hasDescs (h.layout hready)
  exact hsame.trans hdescs

/-- If no notification gets to its signal before the thread's first wait, the thread never sleeps
on an entry with nobody about to wake it. -/
theorem tx_wakeup_not_lost {ls : List TxLabel} (hs : s.Fresh)
    (hrun : Trace (SettledTxStep ram) s ls t) :
    ¬ t.Stuck ∧ (t.pc = .start → t.ping = true → t.hasDescs = true → t.resetting = false →
      t.pending = 0 → t.looking = false →
      ∃ u, Trace (TxStep ram) t [.pingLock, .firstWait] u ∧ u.Stuck) := by
  have hinv := TxInv.run hs hrun
  exact ⟨hinv.not_stuck, early_ping_lost hinv⟩

end

lemma no_beVhdrlen : 0 = 0 ∨ 0 = VTNET_RXHDR - 2 := .inl rfl

def txFresh : TxState where
  sc := { rx := { qsize := 2, maxqsize := 2 }, tx := { qsize := 2, maxqsize := 2 }, mem := blank
          hdrlen := no_beVhdrlen }

lemma txFresh_fresh : txFresh.Fresh := ⟨rfl, rfl, rfl⟩

def publishedMem : Store := put blank 4130 (leEnc 2 1)

def notified : List TxLabel := [.setup 0 blank, .guest publishedMem, .look, .pingCheck, .pingLock]

theorem tx_wakeup_not_lost_first : ∃ t,
    Trace (SettledTxStep threePages) txFresh (.firstWait :: (notified ++ [.check])) t ∧
    t.pc = .proc ∧ ¬ t.Stuck := by
  have hrun : ∃ t, Trace (SettledTxStep threePages) txFresh
      (.firstWait :: (notified ++ [.check])) t ∧ t.pc = .proc := by
    refine ⟨_, .cons ⟨.firstWait rfl, by simp⟩ (.cons ⟨.setup 0 rfl rfl rfl (by decide), by simp⟩
      (.cons ⟨.guest (by decide +kernel), by simp⟩ (.cons ⟨.look, by simp⟩
      (.cons ⟨.pingCheck (by decide +kernel) rfl rfl, by simp⟩
      (.cons ⟨.pingLock (by decide +kernel), fun _ => by decide +kernel⟩
      (.single ⟨.check (by decide +kernel), by simp⟩)))))), ?_⟩
    decide +kernel
  obtain ⟨t, hrun, hpc⟩ := hrun
  exact ⟨t, hrun, hpc, (tx_wakeup_not_lost txFresh_fresh hrun).1⟩

/-- The driver notifies before the thread got to its first wait. -/
theorem early_ping_sleeps : txFresh.Fresh ∧ ∃ t,
    Trace (TxStep threePages) txFresh (notified ++ [.firstWait]) t ∧ t.Stuck := by
  refine ⟨txFresh_fresh, _, .cons (.setup 0 rfl rfl rfl (by decide))
    (.cons (.guest (by decide +kernel)) (.cons .look (.cons (.pingCheck (by decide +kernel) rfl rfl)
    (.cons (.pingLock (by decide +kernel)) (.single (.firstWait (by decide +kernel))))))), ?_⟩
  exact ⟨rfl, by decide +kernel, rfl, by decide +kernel, rfl, rfl⟩

end ScorpiHv.Virtio

import ScorpiHv.Virtio.BlockRun
import ScorpiHv.Virtio.Net

/-!
# Hostile rings

Which ring contents kill the block and the network device, and that nothing else
does.
-/

namespace ScorpiHv.Virtio
open Bytes List

/-- The step is none of the driver's set-up, and a chain it takes is accepted and under a head that
is not in flight. -/
def VtblkSoftc.Accepting (sc : VtblkSoftc) (ram : Ram) : VtblkLabel → Prop
  | .proc _ => (∃ ds, sc.Accepts ram ds) ∧ sc.NewHead
  | .reset => False
  | .setup _ => False
  | _ => True

/-- The ring is there, and every request in flight can be answered. -/
structure VtblkInv (sc : VtblkSoftc) : Prop where
  used : sc.ring.vq.used ≠ 0
  status : ∀ f ∈ sc.inflight, (sc.ios f.slot).status ≠ 0
  session : SessionInv sc []
  resid : ResidInv sc

section

variable {ram : Ram} {sc sc' : VtblkSoftc}

lemma Answers.status_ne_zero {slot session : Nat} (h : Answers sc sc' slot session)
    (hs : ∀ f ∈ sc.inflight, (sc.ios f.slot).status ≠ 0) :
    ∀ f ∈ sc'.inflight, (sc'.ios f.slot).status ≠ 0 := by
  intro f hf
  rw [h.inflight] at hf
  rw [h.ios]
  exact hs f hf

lemma Enqueues.status_ne_zero {slot : Nat} (h : Enqueues sc sc' slot)
    (hslot : (sc.ios slot).status ≠ 0) (hs : ∀ f ∈ sc.inflight, (sc.ios f.slot).status ≠ 0) :
    ∀ f ∈ sc'.inflight, (sc'.ios f.slot).status ≠ 0 := by
  intro f hf
  obtain ⟨op, hop⟩ := h.inflight
  rw [hop] at hf
  rw [h.status]
  rcases mem_append.mp hf with hf | hf
  · exact hs f hf
  · rw [mem_singleton.mp hf]
    exact hslot

lemma Submits.status_ne_zero {head : Nat} {io : Ioreq} (h : Submits sc sc' head io)
    (hstatus : io.status ≠ 0) (hs : ∀ f ∈ sc.inflight, (sc.ios f.slot).status ≠ 0) :
    ∀ f ∈ sc'.inflight, (sc'.ios f.slot).status ≠ 0 := by
  intro f hf
  rw [h.inflight] at hf
  by_cases hslot : f.slot = head
  · rw [hslot, h.io_eq]
    exact hstatus
  · rw [h.ios, Function.update_of_ne hslot]
    exact hs f hf

lemma VtblkInv.proc {ds : List VringDesc} {iov : Nat → Iovec} (h : VtblkInv sc)
    (hacc : sc.Accepts ram ds) (hok : pciVtblkProc ram iov sc = .ok sc') :
    sc'.ring.vq.used ≠ 0 ∧ ∀ f ∈ sc'.inflight, (sc'.ios f.slot).status ≠ 0 := by
  obtain ⟨sc₁, hsub, -, heq⟩ := hacc.dispatch iov
  have hs₁ := hsub.status_ne_zero hacc.status h.status
  have hu₁ : sc₁.ring.vq.used ≠ 0 := hsub.used ▸ h.used
  rcases vtblkDispatch_cases (heq.symm.trans hok) with ha | he
  · exact ⟨ha.used ▸ hu₁, ha.status_ne_zero hs₁⟩
  refine ⟨he.used ▸ hu₁, he.status_ne_zero ?_ hs₁⟩
  rw [hsub.io_eq]
  exact hacc.status

lemma setResid_status (sc : VtblkSoftc) (slot : Nat) (resid : Int) (i : Nat) :
    ((sc.setResid slot resid).ios i).status = (sc.ios i).status := by
  change (Function.update sc.ios slot _ i).status = _
  by_cases hi : i = slot
  · rw [hi, Function.update_self]
  · rw [Function.update_of_ne hi]

lemma VtblkInv.phase {k : Nat} {f : Flight} {phase : Phase} {ios : Nat → Ioreq} (h : VtblkInv sc)
    (hf : sc.inflight[k]? = some f) (hs : ∀ i, (ios i).status = (sc.ios i).status) :
    ∀ g ∈ sc.inflight.set k { f with phase }, (ios g.slot).status ≠ 0 := by
  intro g hg
  rw [hs]
  rcases mem_or_eq_of_mem_set hg with hg | rfl
  · exact h.status g hg
  · exact h.status f (mem_of_getElem? hf)

lemma VtblkInv.step {l : VtblkLabel} (h : VtblkInv sc) (hstep : VtblkStep ram sc l (.ok sc'))
    (hacc : sc.Accepting ram l) : VtblkInv sc' := by
  have hsession : SessionInv sc' [] := by
    refine h.session.step hstep fun hl => ?_
    subst hl
    exact hacc.elim
  have hresid : ResidInv sc' := by
    refine h.resid.step hstep fun iov hl => ?_
    subst hl
    exact hacc.2
  generalize hr : (Except.ok sc' : Except Abort VtblkSoftc) = r at hstep
  cases hstep with
  | guest | release | store =>
    cases hr
    exact ⟨h.used, h.status, hsession, hresid⟩
  | proc =>
    obtain ⟨⟨ds, hds⟩, -⟩ := hacc
    obtain ⟨hu, hs⟩ := h.proc hds hr.symm
    exact ⟨hu, hs, hsession, hresid⟩
  | start hf =>
    unfold blockifProc at hr
    split at hr
    · cases hr
    · cases hr
      exact ⟨h.used, h.phase hf fun _ => rfl, hsession, hresid⟩
  | pick hf =>
    cases hr
    exact ⟨h.used, h.phase hf fun _ => rfl, hsession, hresid⟩
  | moved hf | discarded hf =>
    cases hr
    refine ⟨h.used, h.phase hf fun i => ?_, hsession, hresid⟩
    exact setResid_status _ _ _ i
  | @callback k f err hf _ _ =>
    have ha := pciVtblkDoneLocked_answers hr.symm
    refine ⟨ha.used ▸ h.used, ha.status_ne_zero fun g hg => ?_, hsession, hresid⟩
    exact h.status g (mem_of_mem_eraseIdx hg)
  | reset | setup => exact hacc.elim

lemma VtblkStep.ok {l : VtblkLabel} {r : Except Abort VtblkSoftc} (h : VtblkInv sc)
    (hstep : VtblkStep ram sc l r) (hacc : sc.Accepting ram l) : ∃ sc', r = .ok sc' := by
  cases hstep with
  | guest | release | store | reset | setup | pick | moved | discarded => exact ⟨_, rfl⟩
  | proc iov =>
    obtain ⟨⟨ds, hds⟩, -⟩ := hacc
    exact hds.proc h.used iov
  | start hf hphase hidle => exact @ResidInv.start sc ram _ _ h.resid (.start hf hphase hidle)
  | @callback k f err hf _ _ => exact pciVtblkDoneLocked_ok _ _ (h.status f (mem_of_getElem? hf)) h.used

/-- The device is dead, or will be when the request it enqueued is answered. -/
def Doomed (r : Except Abort VtblkSoftc) : Prop :=
  (∃ a, r = .error a) ∨ ∃ sc k f, r = .ok sc ∧ sc.inflight[k]? = some f ∧
    ∀ err, pciVtblkDoneLocked
      { sc with inflight := sc.inflight.eraseIdx k, lingering := sc.lingering + 1 }
      f.slot f.session err = .error .null

lemma doomed_of_not_accepts (h : ¬ ∃ ds, sc.Accepts ram ds) (iov : Nat → Iovec) :
    Doomed (pciVtblkProc ram iov sc) := by
  cases hr : pciVtblkProc ram iov sc with
  | error a => exact .inl ⟨a, rfl⟩
  | ok sc' =>
    have hnull : ¬ ∀ f ∈ sc'.inflight, (sc'.ios f.slot).status ≠ 0 :=
      fun hs => h (VtblkSoftc.accepts_of_ok hr hs)
    simp only [not_forall, not_not] at hnull
    obtain ⟨f, hmem, hf⟩ := hnull
    obtain ⟨k, hk⟩ := List.getElem?_of_mem hmem
    exact .inr ⟨sc', k, f, rfl, hk, fun err => if_pos hf⟩

end

structure VtnetSoftc.Fresh (sc : VtnetSoftc) : Prop where
  rx : sc.rx.ringReady = true
  tx : sc.tx.ringReady = true
  log : sc.log = []

lemma VtnetInv.of_fresh {sc : VtnetSoftc} (h : sc.Fresh) : VtnetInv sc where
  rx := h.rx
  tx := h.tx
  counts q i := by rw [h.log]; rfl

def AcceptedStep (ram : Ram) (sc : VtblkSoftc) (l : VtblkLabel) (sc' : VtblkSoftc) : Prop :=
  VtblkStep ram sc l (.ok sc') ∧ sc.Accepting ram l

def OfferedStep (ram : Ram) (sc : VtnetSoftc) (l : VtnetLabel) (sc' : VtnetSoftc) : Prop :=
  VtnetStep ram sc l (.ok sc') ∧ sc.Offers ram l

lemma VtblkInv.run {ram : Ram} {sc sc' : VtblkSoftc} {ls : List VtblkLabel} (h : VtblkInv sc)
    (hrun : Trace (AcceptedStep ram) sc ls sc') : VtblkInv sc' :=
  hrun.invariant (fun _ => True) (fun _ _ _ h _ hstep => h.step hstep.1 hstep.2) (fun _ _ => trivial) h

lemma VtnetInv.run {ram : Ram} {sc sc' : VtnetSoftc} {ls : List VtnetLabel} (h : VtnetInv sc)
    (hrun : Trace (OfferedStep ram) sc ls sc') : VtnetInv sc' :=
  hrun.invariant (fun _ => True) (fun _ _ _ h _ hstep => h.step hstep.1) (fun _ _ => trivial) h

def sending : VtnetSoftc where
  rx := flushing.ring.vq
  tx := flushing.ring.vq
  mem := flushMem

def swallow : NetSend where
  run _ _ := some 0
  returns _ := by simp

lemma sending_fits : sending.txRing.Fits threePages flushChain :=
  ⟨flushing_accepts.takes, flushing_accepts.chain, by decide⟩

def lonelyMem : Store := put (put blank 4096 (leEnc 8 8192 ++ leEnc 4 16)) 4130 (leEnc 2 1)

def strayHeadMem : Store := put blank 4130 (leEnc 2 1 ++ leEnc 2 7)

end ScorpiHv.Virtio

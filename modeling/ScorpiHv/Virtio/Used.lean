import ScorpiHv.Virtio.Chain

/-!
# Returning chains

A queue and the guest memory behind it are kept together, as every call reads or
writes both.
-/

namespace ScorpiHv.Virtio
open Bytes

structure Ring where
  vq : VqueueInfo
  mem : Store

namespace Ring

def retchains (r : Ring) (n : UInt16) : Ring :=
  { r with vq := { r.vq with lastAvail := r.vq.lastAvail - n } }

def relchainPrepare (r : Ring) (idx len : Nat) : Ring where
  vq := { r.vq with nextUsed := r.vq.nextUsed + 1 }
  mem := put r.mem (r.vq.usedRing (r.vq.nextUsed.toNat &&& (r.vq.qsize - 1)))
    (leEnc 4 (idx % 2 ^ 16) ++ leEnc 4 (len % 2 ^ 32))

def relchainPublish (r : Ring) : Ring :=
  { r with mem := put r.mem (r.vq.used + 2) (leEnc 2 r.vq.nextUsed.toNat) }

def relchain (r : Ring) (idx len : Nat) : Ring := (r.relchainPrepare idx len).relchainPublish

def usedIdx (r : Ring) : UInt16 := load16 r.mem (r.vq.used + 2)

/-- `vq_endchains`; the flag is whether it interrupts the guest. -/
def endchains (r : Ring) (eventIdx usedAllAvail : Bool) : Ring × Bool :=
  let oldIdx := r.vq.saveUsed
  let newIdx := r.usedIdx
  let intr :=
    if usedAllAvail then true
    else if eventIdx then
      decide (newIdx - r.vq.usedEventIdx r.mem - 1 < newIdx - oldIdx)
    else newIdx != oldIdx && leDec (get r.mem r.vq.avail 2) &&& VRING_AVAIL_F_NO_INTERRUPT == 0
  ({ r with vq := { r.vq with saveUsed := newIdx } }, intr)

def kickEnable (r : Ring) : Ring where
  vq := r.vq
  mem := put r.mem r.vq.used (leEnc 2 (leDec (get r.mem r.vq.used 2) / 2 * 2))

def kickDisable (r : Ring) : Ring where
  vq := r.vq
  mem := put r.mem r.vq.used
    (leEnc 2 (leDec (get r.mem r.vq.used 2) ||| VRING_USED_F_NO_NOTIFY))

/-- `vq_getchain` with room for `niov` entries. -/
def getchain (r : Ring) (ram : Ram) (indirect eventIdx : Bool) (niov : Nat)
    (iov : Nat → Iovec) : Getchain :=
  vqGetchain ⟨ram, r.mem, niov, indirect⟩ eventIdx r.vq iov

end Ring

/-- What a device may rely on once `vq_getchain` has returned a positive count. -/
def Ring.Chain (r : Ring) (ram : Ram) (indirect : Bool) (ds : List VringDesc) : Prop :=
  FlatChain ⟨ram, r.mem, 0, indirect⟩ r.vq (r.vq.head r.mem) ds

variable {ds : List VringDesc} {indirect : Bool} {ram : Ram} {mem : Store} {n m : Nat}
  {d : VringDesc}

lemma Expands.niov (h : Expands ⟨ram, mem, n, indirect⟩ d ds) : Expands ⟨ram, mem, m, indirect⟩ d ds := by
  cases h with
  | direct hd => exact .direct hd
  | table ht hmap hds => exact .table ⟨ht.1, ht.2, ht.3, ht.4⟩ hmap hds

variable {vq : VqueueInfo} {i : Nat}

lemma FlatChain.niov (h : FlatChain ⟨ram, mem, n, indirect⟩ vq i ds) :
    FlatChain ⟨ram, mem, m, indirect⟩ vq i ds := by
  induction h with
  | last hi hx hlast => exact .last hi hx.niov hlast
  | next hi hx hmore _ ih => exact .next hi hx.niov hmore ih

variable {env : WalkEnv}

lemma FlatChain.last_direct (hi : i < vq.qsize) (hd : vq.descAt env.mem i = d)
    (hind : d.isIndirect = false) (hlast : d.hasNext = false) : FlatChain env vq i [d] := by
  subst hd
  exact .last hi (.direct hind) hlast

lemma FlatChain.next_direct (hi : i < vq.qsize) (hd : vq.descAt env.mem i = d) (hind : d.isIndirect = false)
    (hmore : d.hasNext = true) (h : FlatChain env vq d.next ds) : FlatChain env vq i (d :: ds) := by
  subst hd
  exact .next hi (.direct hind) hmore h

variable {r : Ring}

lemma Ring.getchain_isChain (eventIdx : Bool) (niov : Nat) (iov : Nat → Iovec)
    (ht : r.vq.Takes r.mem) (hds : r.Chain ram indirect ds) (hle : ds.length ≤ VQ_MAX_DESCRIPTORS) :
    (r.getchain ram indirect eventIdx niov iov).IsChain ⟨ram, r.mem, niov, indirect⟩ r.vq iov ds :=
  vqGetchain_isChain ht hds.niov hle

variable {eventIdx : Bool} {niov : Nat} {iov : Nat → Iovec}

lemma Ring.getchain_pos {n : Int} (hret : (r.getchain ram indirect eventIdx niov iov).ret = some n)
    (hn : 0 < n) : r.vq.Takes r.mem ∧ ∃ ds, r.Chain ram indirect ds ∧ n = (ds.length : Int) ∧
    (r.getchain ram indirect eventIdx niov iov).IsChain ⟨ram, r.mem, niov, indirect⟩ r.vq iov ds := by
  let env : WalkEnv := ⟨ram, r.mem, niov, indirect⟩
  have hcall : (vqGetchain env eventIdx r.vq iov).ret = some n := hret
  by_cases hidx : r.vq.availIdx r.mem = r.vq.lastAvail
  · rw [vqGetchain_empty hidx] at hcall
    cases hcall
    exact absurd hn (lt_irrefl _)
  by_cases ht : r.vq.Takes r.mem
  · have hcases := vqGetchain_takes eventIdx iov (show r.vq.Takes env.mem from ht)
    rcases hcases with ⟨ds, hds⟩ | ⟨hneg, -⟩ | ⟨hnone, -⟩
    · have hlen : n = (ds.length : Int) := Option.some.inj (hcall.symm.trans hds.ret)
      exact ⟨ht, ds, hds.flat.niov, hlen, hds⟩
    · rw [hneg] at hcall
      cases hcall
      exact absurd hn (by decide)
    · rw [hnone] at hcall
      cases hcall
  · rw [vqGetchain_confused hidx ht] at hcall
    cases hcall
    exact absurd hn (by decide)

lemma Ring.getchain_zero (hret : (r.getchain ram indirect eventIdx niov iov).ret = some 0) :
    r.vq.availIdx r.mem = r.vq.lastAvail := by
  let env : WalkEnv := ⟨ram, r.mem, niov, indirect⟩
  have hcall : (vqGetchain env eventIdx r.vq iov).ret = some 0 := hret
  by_contra hidx
  by_cases ht : r.vq.Takes r.mem
  · have hcases := vqGetchain_takes eventIdx iov (show r.vq.Takes env.mem from ht)
    rcases hcases with ⟨ds, hds⟩ | ⟨hneg, -⟩ | ⟨hnone, -⟩
    · have hlen : (0 : Int) = ds.length := Option.some.inj (hcall.symm.trans hds.ret)
      have hpos := hds.pos
      omega
    · rw [hneg] at hcall
      cases hcall
    · rw [hnone] at hcall
      cases hcall
  · rw [vqGetchain_confused hidx ht] at hcall
    cases hcall

lemma Ring.getchain_mem (r : Ring) (ram : Ram) (indirect : Bool) (niov : Nat)
    (iov : Nat → Iovec) : (r.getchain ram indirect false niov iov).mem = r.mem := by
  unfold Ring.getchain vqGetchain
  dsimp only
  split
  · rfl
  split
  · rfl
  rcases mainLoop _ _ _ _ _ with ⟨e, w, log⟩
  cases e <;> rfl

lemma VqueueInfo.used_ne_zero (h : vq.ringReady = true) : vq.used ≠ 0 := by
  unfold VqueueInfo.ringReady at h
  rw [Bool.and_eq_true, bne_iff_ne] at h
  exact h.2

end ScorpiHv.Virtio

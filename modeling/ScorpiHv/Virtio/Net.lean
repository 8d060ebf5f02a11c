import ScorpiHv.Lib.Trace
import ScorpiHv.Virtio.Block

/-!
# The virtio network device

`pci_vtnet_proctx` sends one chain to the backend and `pci_vtnet_rx` fills one
from it. Both run beside the guest.
-/

namespace ScorpiHv.Virtio
open Bytes List

def VTNET_MAXSEGS : Nat := 256

def VTNET_RXHDR : Nat := 12

inductive NetQueue where
  | rx
  | tx
  deriving DecidableEq

inductive NetEvent where
  | take (q : NetQueue) (head : Nat)
  | used (q : NetQueue) (head : Nat)
  deriving DecidableEq

/-- Where `pci_vtnet_rx` is in its loop, with the header length it computed on entry. -/
inductive RxPhase where
  | idle
  | get (prepend : Nat)
  | recheck (prepend : Nat)
  deriving DecidableEq

/-- The header length of the backend is 0 or that of the device, as
`pci_vtnet_neg_features` asserts. `log` is history. -/
structure VtnetSoftc where
  rx : VqueueInfo
  tx : VqueueInfo
  mem : Store
  featuresNegotiated : Bool := false
  rxMerge : Bool := false
  vhdrlen : Nat := VTNET_RXHDR - 2
  beVhdrlen : Nat := 0
  hdrlen : beVhdrlen = 0 ∨ beVhdrlen = vhdrlen := by decide
  rxPhase : RxPhase := .idle
  log : List NetEvent := []

def iovLen (vs : List Iovec) : Nat := (vs.map (·.len)).sum

/-- How `netbe_send` behaves in one call; `none` is a crash of the backend, which buffers in
guest RAM never cause. -/
structure NetSend where
  run : Store → List Iovec → Option Int
  returns : ∀ {mem vs}, (∀ v ∈ vs, v.base ≠ 0) → run mem vs ≠ none

/-- How `netbe_recv` behaves in one call. It never returns more than it was given room for. -/
structure NetRecv where
  run : Store → List Iovec → Option (Int × Store)
  returns : ∀ {mem vs}, (∀ v ∈ vs, v.base ≠ 0) → run mem vs ≠ none
  fits : ∀ {mem vs n mem'}, run mem vs = some (n, mem') → n ≤ (iovLen vs : Int)

namespace VtnetSoftc

def emit (sc : VtnetSoftc) (e : NetEvent) : VtnetSoftc := { sc with log := sc.log ++ [e] }

def rxRing (sc : VtnetSoftc) : Ring := ⟨sc.rx, sc.mem⟩
def txRing (sc : VtnetSoftc) : Ring := ⟨sc.tx, sc.mem⟩

def setRx (sc : VtnetSoftc) (r : Ring) : VtnetSoftc := { sc with rx := r.vq, mem := r.mem }
def setTx (sc : VtnetSoftc) (r : Ring) : VtnetSoftc := { sc with tx := r.vq, mem := r.mem }

end VtnetSoftc

def iovTrimHdr : List Iovec → Nat → Option (List Iovec)
  | [], _ => none
  | v :: vs, hlen =>
    if v.len < hlen then none
    else if v.len - hlen = 0 then if vs.isEmpty then none else some vs
    else some (⟨v.base + hlen, v.len - hlen⟩ :: vs)

/-- The entries of `iov[]` that a call of `vq_getchain` filled. -/
def Getchain.vec (g : Getchain) (n : Nat) : List Iovec := (List.range n).map g.iov

/-- What `pci_vtnet_proctx` hands back as the length of a chain. -/
def txLength (sc : VtnetSoftc) (send : NetSend) (vs : List Iovec) : Option Nat :=
  let siov := if sc.vhdrlen ≠ sc.beVhdrlen then iovTrimHdr vs sc.vhdrlen else some vs
  match siov with
  | none => some 0
  | some siov => (send.run sc.mem siov).map Int.toNat

def pciVtnetProctx (ram : Ram) (iov : Nat → Iovec) (send : NetSend) (sc : VtnetSoftc) :
    Except Abort VtnetSoftc :=
  let g := sc.txRing.getchain ram true false VTNET_MAXSEGS iov
  let sc := sc.setTx ⟨g.vq, g.mem⟩
  match g.ret with
  | none => .error .null
  | some n =>
    if n < 1 ∨ (VTNET_MAXSEGS : Nat) < n then .error .chainCount
    else
      match g.req with
      | none => .error .unset
      | some req =>
        match txLength sc send (g.vec n.toNat) with
        | none => .error .null
        | some len =>
          if sc.tx.used = 0 then .error .null
          else
            .ok (((sc.emit (.take .tx req.idx)).setTx (sc.txRing.relchain req.idx len)).emit
              (.used .tx req.idx))

/-- The loop that spreads a packet over the chains in `info[]`, of which only the listed
entries were set; it returns how many it used. -/
def mergeLoop (r : Ring) : List (Nat × Nat) → Nat → Except Abort (Ring × Nat)
  | [], _ => .error .unset
  | (idx, len) :: info, ulen =>
    let iolen := min len ulen
    let r := r.relchainPrepare idx iolen
    if ulen - iolen = 0 then .ok (r, 1)
    else (mergeLoop r info (ulen - iolen)).map fun (r, i) => (r, i + 1)

/-- The end of `pci_vtnet_rx`: a packet of `ulen` bytes is in the chain. -/
def rxPublish (sc : VtnetSoftc) (head hdr total ulen : Nat) : Except Abort VtnetSoftc :=
  if sc.rx.used = 0 then .error .null
  else if !sc.rxMerge then
    .ok ((sc.setRx ((sc.rxRing.relchain head ulen).endchains false false).1).emit (.used .rx head))
  else
    match mergeLoop sc.rxRing [(head, total % 2 ^ 32)] ulen with
    | .error a => .error a
    | .ok (r, i) =>
      if hdr = 0 then .error .null
      else
        let r : Ring := { r with mem := put r.mem (hdr + 10) (leEnc 2 i) }
        .ok ((sc.setRx (r.relchainPublish.endchains false false).1).emit (.used .rx head))

/-- `pci_vtnet_rx` behind a `vq_getchain` that filled `vs`. -/
def rxDeliver (sc : VtnetSoftc) (recv : NetRecv) (prepend head : Nat) (vs : List Iovec) :
    Except Abort VtnetSoftc :=
  let hdr := (vs.head?.map (·.base)).getD 0
  let riov := if 0 < prepend then iovTrimHdr vs prepend else some vs
  match riov with
  | none =>
    if sc.rx.used = 0 then .error .null
    else .ok ((sc.setRx (sc.rxRing.relchain head 0)).emit (.used .rx head))
  | some riov =>
    if 0 < prepend ∧ hdr = 0 then .error .null
    else
      match recv.run (put sc.mem hdr (List.replicate prepend 0)) riov with
      | none => .error .null
      | some (rlen, mem) =>
        if rlen < 0 then .ok (({ sc with mem }).setRx (Ring.retchains ⟨sc.rx, mem⟩ 1))
        else
          rxPublish { sc with mem } head hdr (iovLen vs) ((rlen.toNat + prepend) % 2 ^ 32)

/-- `pci_vtnet_rx` from `vq_getchain` on. -/
def rxGet (ram : Ram) (iov : Nat → Iovec) (recv : NetRecv) (prepend : Nat) (sc : VtnetSoftc) :
    Except Abort VtnetSoftc :=
  let g := sc.rxRing.getchain ram true false VTNET_MAXSEGS iov
  let sc := sc.setRx ⟨g.vq, g.mem⟩
  match g.ret with
  | none => .error .null
  | some n =>
    if n = 0 then
      if sc.rx.used = 0 then .error .null
      else .ok { sc.setRx sc.rxRing.kickEnable with rxPhase := .recheck prepend }
    else if n < 1 ∨ (VTNET_MAXSEGS : Nat) < n then .error .chainCount
    else
      match g.req with
      | none => .error .unset
      | some req =>
        rxDeliver { sc.emit (.take .rx req.idx) with rxPhase := .idle } recv prepend req.idx
          (g.vec n.toNat)

/-- `pci_vtnet_rx` after it enabled notifications. No chain was collected so far. -/
def rxRecheck (prepend : Nat) (sc : VtnetSoftc) : VtnetSoftc :=
  if !sc.rx.hasDescs sc.mem then
    { sc.setRx ((sc.rxRing.retchains 0).endchains false true).1 with rxPhase := .idle }
  else { sc.setRx sc.rxRing.kickDisable with rxPhase := .get prepend }

/-- `pci_vtnet_neg_features`; the flags are whether buffers merge and whether the backend
takes the header. -/
def pciVtnetNegFeatures (sc : VtnetSoftc) (merge backendHdr : Bool) : VtnetSoftc :=
  let vhdrlen := if merge then VTNET_RXHDR else VTNET_RXHDR - 2
  { sc with
    featuresNegotiated := true
    rxMerge := merge
    vhdrlen
    beVhdrlen := if backendHdr then vhdrlen else 0
    hdrlen := by cases backendHdr <;> simp }

inductive VtnetLabel where
  | guest (mem : Store)
  | negotiate (merge backendHdr : Bool)
  | pingRx
  | rxEnter
  | rxGet (iov : Nat → Iovec) (recv : NetRecv)
  | rxRecheck
  | tx (iov : Nat → Iovec) (send : NetSend)

/-- Before `proctx` the thread saw a ready ring with an entry. The guest may have taken the
entry back since. -/
inductive VtnetStep (ram : Ram) (sc : VtnetSoftc) : VtnetLabel → Except Abort VtnetSoftc → Prop where
  | guest (mem : Store) : VtnetStep ram sc (.guest mem) (.ok { sc with mem })
  | negotiate (merge backendHdr : Bool) :
      VtnetStep ram sc (.negotiate merge backendHdr) (.ok (pciVtnetNegFeatures sc merge backendHdr))
  | pingRx : sc.featuresNegotiated = true →
      VtnetStep ram sc .pingRx (.ok (sc.setRx sc.rxRing.kickDisable))
  | rxEnter : sc.rxPhase = .idle → sc.featuresNegotiated = true →
      VtnetStep ram sc .rxEnter (.ok { sc with rxPhase := .get (sc.vhdrlen - sc.beVhdrlen) })
  | rxGet {prepend : Nat} (iov : Nat → Iovec) (recv : NetRecv) : sc.rxPhase = .get prepend →
      VtnetStep ram sc (.rxGet iov recv) (rxGet ram iov recv prepend sc)
  | rxRecheck {prepend : Nat} : sc.rxPhase = .recheck prepend →
      VtnetStep ram sc .rxRecheck (.ok (rxRecheck prepend sc))
  | tx (iov : Nat → Iovec) (send : NetSend) : sc.tx.ringReady = true →
      VtnetStep ram sc (.tx iov send) (pciVtnetProctx ram iov send sc)

/-- The chain at the head of the ring fits `iov[]`. -/
structure Ring.Fits (r : Ring) (ram : Ram) (ds : List VringDesc) : Prop where
  takes : r.vq.Takes r.mem
  chain : r.Chain ram true ds
  length_le : ds.length ≤ VTNET_MAXSEGS

def Mapped (ram : Ram) (ds : List VringDesc) : Prop := ∀ d ∈ ds, (d.buffer ram).base ≠ 0

section

variable {r : Ring} {ram : Ram} {ds : List VringDesc} {iov : Nat → Iovec}

lemma Ring.Fits.getchain (h : r.Fits ram ds) (iov : Nat → Iovec) : ∃ req : ViReq,
    req.idx = r.vq.head r.mem ∧ (r.getchain ram true false VTNET_MAXSEGS iov).ret = some (ds.length : Int) ∧
    (r.getchain ram true false VTNET_MAXSEGS iov).req = some req ∧
    (r.getchain ram true false VTNET_MAXSEGS iov).vec ds.length = ds.map (·.buffer ram) := by
  have hg := Ring.getchain_isChain false VTNET_MAXSEGS iov h.takes h.chain (h.length_le.trans (by decide))
  refine ⟨_, ?_, hg.ret, hg.req_eq, ?_⟩
  · rfl
  have hle := h.length_le
  apply ext_getElem
  · simp [Getchain.vec]
  intro k hk hk'
  have hlt : k < ds.length := by simpa using hk'
  simp [Getchain.vec, hg.iov_eq k, hlt, lt_of_lt_of_le hlt hle]

lemma Ring.fits_of_ret {n : Int} (hret : (r.getchain ram true false VTNET_MAXSEGS iov).ret = some n)
    (hpos : 0 < n) (hle : n ≤ (VTNET_MAXSEGS : Nat)) : ∃ ds, r.Fits ram ds := by
  obtain ⟨ht, ds, hds, rfl, -⟩ := Ring.getchain_pos hret hpos
  exact ⟨ds, ht, hds, by omega⟩

lemma Ring.getchain_misfit (hsome : r.vq.availIdx r.mem ≠ r.vq.lastAvail) (h : ∀ ds, ¬ r.Fits ram ds)
    (iov : Nat → Iovec) : (r.getchain ram true false VTNET_MAXSEGS iov).ret = none ∨ ∃ n : Int,
    (r.getchain ram true false VTNET_MAXSEGS iov).ret = some n ∧ n ≠ 0 ∧
    (n < 1 ∨ (VTNET_MAXSEGS : Nat) < n) := by
  cases hret : (r.getchain ram true false VTNET_MAXSEGS iov).ret with
  | none => exact .inl rfl
  | some n =>
    refine .inr ⟨n, rfl, fun hzero => ?_, ?_⟩
    · exact hsome (Ring.getchain_zero (hzero ▸ hret))
    by_contra hn
    obtain ⟨ds, hds⟩ := Ring.fits_of_ret hret (by omega) (by omega)
    exact h ds hds

lemma Ring.Fits.pos (h : r.Fits ram ds) : 0 < ds.length := h.chain.ne_nil

lemma iovTrimHdr_some {vs vs' : List Iovec} {hlen : Nat} (h : iovTrimHdr vs hlen = some vs')
    (hmap : ∀ v ∈ vs, v.base ≠ 0) : (∀ v ∈ vs', v.base ≠ 0) ∧ iovLen vs' + hlen = iovLen vs := by
  cases vs with
  | nil => cases h
  | cons v =>
    rw [iovTrimHdr] at h
    split at h
    · cases h
    next hlt =>
    split at h
    next hzero =>
      split at h
      · cases h
      cases h
      refine ⟨fun w hw => hmap w (mem_cons_of_mem _ hw), ?_⟩
      simp only [iovLen, map_cons, sum_cons]
      omega
    next hrest =>
      cases h
      refine ⟨fun w hw => ?_, ?_⟩
      · rcases mem_cons.mp hw with rfl | hw
        · have hv := hmap v mem_cons_self
          show v.base + hlen ≠ 0
          omega
        · exact hmap w (mem_cons_of_mem _ hw)
      · simp only [iovLen, map_cons, sum_cons]
        omega

end

structure SameRings (sc sc' : VtnetSoftc) : Prop where
  rx : sc'.rx.ringReady = sc.rx.ringReady
  tx : sc'.tx.ringReady = sc.tx.ringReady

/-- The call that took `head` off its queue handed it back at most once. -/
structure Handles (sc sc' : VtnetSoftc) (q : NetQueue) (head : Nat) : Prop extends
    SameRings sc sc' where
  log : sc'.log = sc.log ++ [.take q head] ∨ sc'.log = sc.log ++ [.take q head, .used q head]

section

variable {ram : Ram} {sc sc' : VtnetSoftc} {iov : Nat → Iovec} {send : NetSend} {recv : NetRecv}
  {prepend head hdr total ulen : Nat} {vs : List Iovec}

lemma getchain_keeps (r : Ring) (ram : Ram) (iov : Nat → Iovec) :
    (r.getchain ram true false VTNET_MAXSEGS iov).vq.ringReady = r.vq.ringReady ∧
      r.vq.used = (r.getchain ram true false VTNET_MAXSEGS iov).vq.used := by
  obtain ⟨lastAvail, hvq⟩ := vqGetchain_vq ⟨ram, r.mem, VTNET_MAXSEGS, true⟩ false r.vq iov
  rw [show (r.getchain ram true false VTNET_MAXSEGS iov).vq = _ from hvq]
  exact ⟨rfl, rfl⟩

lemma mergeLoop_ringReady {r r' : Ring} {info : List (Nat × Nat)} {i : Nat}
    (h : mergeLoop r info ulen = .ok (r', i)) : r'.vq.ringReady = r.vq.ringReady := by
  induction info generalizing r r' ulen i with
  | nil => cases h
  | cons entry info ih =>
    rw [mergeLoop] at h
    split at h
    · cases h
      rfl
    cases hrest : mergeLoop (r.relchainPrepare entry.1 (min entry.2 ulen)) info
        (ulen - min entry.2 ulen) with
    | error a =>
      rw [hrest] at h
      cases h
    | ok p =>
      rw [hrest] at h
      cases h
      exact (ih hrest).trans rfl

lemma rxPublish_cases (h : rxPublish sc head hdr total ulen = .ok sc') :
    SameRings sc sc' ∧ sc'.log = sc.log ++ [.used .rx head] := by
  unfold rxPublish at h
  split at h
  · cases h
  split at h
  · cases h
    exact ⟨⟨rfl, rfl⟩, rfl⟩
  split at h
  · cases h
  next r i hloop =>
  split at h
  · cases h
  · cases h
    exact ⟨⟨mergeLoop_ringReady hloop, rfl⟩, rfl⟩

lemma rxDeliver_cases (h : rxDeliver sc recv prepend head vs = .ok sc') :
    SameRings sc sc' ∧ (sc'.log = sc.log ∨ sc'.log = sc.log ++ [.used .rx head]) := by
  unfold rxDeliver at h
  dsimp only at h
  split at h
  · split at h
    · cases h
    · cases h
      exact ⟨⟨rfl, rfl⟩, .inr rfl⟩
  split at h
  · cases h
  split at h
  · cases h
  split at h
  · cases h
    exact ⟨⟨rfl, rfl⟩, .inl rfl⟩
  · obtain ⟨hsame, hlog⟩ := rxPublish_cases h
    exact ⟨⟨hsame.rx, hsame.tx⟩, .inr hlog⟩

lemma rxGet_cases (h : rxGet ram iov recv prepend sc = .ok sc') :
    SameRings sc sc' ∧ sc'.log = sc.log ∨ ∃ head, Handles sc sc' .rx head := by
  have hready := (getchain_keeps sc.rxRing ram iov).1
  unfold rxGet at h
  dsimp only at h
  split at h
  · cases h
  split at h
  · split at h
    · cases h
    · cases h
      exact .inl ⟨⟨hready, rfl⟩, rfl⟩
  split at h
  · cases h
  split at h
  · cases h
  next req _ =>
    obtain ⟨hsame, hlog⟩ := rxDeliver_cases h
    refine .inr ⟨req.idx, ⟨hsame.rx.trans hready, hsame.tx⟩, ?_⟩
    rcases hlog with hlog | hlog
    · exact .inl hlog
    · exact .inr (by simpa [VtnetSoftc.emit, VtnetSoftc.setRx] using hlog)

lemma pciVtnetProctx_eq (h : pciVtnetProctx ram iov send sc = .ok sc') : ∃ (idx len : Nat) (r : Ring)
    (lastAvail : UInt16), r.vq = { sc.tx with lastAvail } ∧
    sc' = ((((sc.setTx r).emit (.take .tx idx)).setTx (r.relchain idx len)).emit (.used .tx idx)) := by
  obtain ⟨lastAvail, hvq⟩ := vqGetchain_vq ⟨ram, sc.mem, VTNET_MAXSEGS, true⟩ false sc.tx iov
  unfold pciVtnetProctx at h
  dsimp only at h
  iterate 4
    split at h
    · cases h
  next len _ =>
  split at h
  · cases h
  · cases h
    exact ⟨_, len, ⟨_, _⟩, lastAvail, hvq, rfl⟩

lemma pciVtnetProctx_cases (h : pciVtnetProctx ram iov send sc = .ok sc') :
    ∃ head, Handles sc sc' .tx head := by
  obtain ⟨idx, len, r, lastAvail, hvq, rfl⟩ := pciVtnetProctx_eq h
  refine ⟨idx, ⟨rfl, ?_⟩, .inr ?_⟩
  · change r.vq.ringReady = _
    rw [hvq]
    rfl
  · simp [VtnetSoftc.emit, VtnetSoftc.setTx]

lemma rxPublish_ok (hu : sc.rx.used ≠ 0) (hhdr : hdr ≠ 0) (hle : ulen ≤ total % 2 ^ 32) :
    ∃ sc', rxPublish sc head hdr total ulen = .ok sc' := by
  unfold rxPublish
  rw [if_neg hu]
  split
  · exact ⟨_, rfl⟩
  have hdone : ulen - min (total % 2 ^ 32) ulen = 0 := by omega
  have hloop : mergeLoop sc.rxRing [(head, total % 2 ^ 32)] ulen =
      .ok (sc.rxRing.relchainPrepare head (min (total % 2 ^ 32) ulen), 1) := by
    exact if_pos hdone
  rw [hloop]
  exact ⟨_, rfl⟩

lemma rxDeliver_ok (hu : sc.rx.used ≠ 0) (hne : vs ≠ []) (hmap : ∀ v ∈ vs, v.base ≠ 0)
    (hlen : iovLen vs < 2 ^ 32) : ∃ sc', rxDeliver sc recv prepend head vs = .ok sc' := by
  have hhdr : (vs.head?.map (·.base)).getD 0 ≠ 0 := by
    cases vs with
    | nil => exact absurd rfl hne
    | cons v => exact hmap v mem_cons_self
  unfold rxDeliver
  dsimp only
  split
  · exact ⟨_, if_neg hu⟩
  next riov hriov =>
  have htrim : (∀ v ∈ riov, v.base ≠ 0) ∧ iovLen riov + prepend = iovLen vs := by
    by_cases hp : 0 < prepend
    · rw [if_pos hp] at hriov
      exact iovTrimHdr_some hriov hmap
    · rw [if_neg hp] at hriov
      cases hriov
      exact ⟨hmap, by omega⟩
  rw [if_neg fun h => hhdr h.2]
  split
  next hnone => exact absurd hnone (recv.returns htrim.1)
  next rlen mem hsome =>
    have hfit := recv.fits hsome
    split
    · exact ⟨_, rfl⟩
    · refine rxPublish_ok hu hhdr ?_
      exact (Nat.mod_le _ _).trans (by omega)

lemma rxGet_empty (hu : sc.rx.used ≠ 0) (h : sc.rx.availIdx sc.mem = sc.rx.lastAvail) :
    ∃ sc', rxGet ram iov recv prepend sc = .ok sc' := by
  have hcall : sc.rxRing.getchain ram true false VTNET_MAXSEGS iov =
      { ret := some 0, vq := sc.rx, mem := sc.mem, iov } := vqGetchain_empty h
  unfold rxGet
  rw [hcall]
  exact ⟨_, if_neg hu⟩

lemma rxGet_ok {ds : List VringDesc} (hu : sc.rx.used ≠ 0) (h : sc.rxRing.Fits ram ds)
    (hmap : Mapped ram ds) (hlen : iovLen (ds.map (·.buffer ram)) < 2 ^ 32) :
    ∃ sc', rxGet ram iov recv prepend sc = .ok sc' := by
  obtain ⟨req, -, hret, hreq, hvec⟩ := h.getchain iov
  have hpos := h.pos
  have hle := h.length_le
  have hused := (getchain_keeps sc.rxRing ram iov).2
  unfold rxGet
  dsimp only
  rw [hret, hreq]
  dsimp only
  rw [if_neg (by omega), if_neg (by omega), Int.toNat_natCast, hvec]
  refine rxDeliver_ok (hused ▸ hu) ?_ ?_ hlen
  · intro hnil
    rw [map_eq_nil_iff.mp hnil] at hpos
    exact absurd hpos (lt_irrefl 0)
  · intro v hv
    obtain ⟨d, hd, rfl⟩ := mem_map.mp hv
    exact hmap d hd

lemma rxGet_error (hsome : sc.rx.availIdx sc.mem ≠ sc.rx.lastAvail)
    (h : ∀ ds, ¬ sc.rxRing.Fits ram ds) : ∃ a, rxGet ram iov recv prepend sc = .error a := by
  unfold rxGet
  dsimp only
  rcases Ring.getchain_misfit hsome h iov with hret | ⟨n, hret, hzero, hn⟩
  · rw [hret]
    exact ⟨_, rfl⟩
  · rw [hret]
    exact ⟨_, (if_neg hzero).trans (if_pos hn)⟩

lemma txLength_ok (sc : VtnetSoftc) (send : NetSend) (hmap : ∀ v ∈ vs, v.base ≠ 0) :
    ∃ len, txLength sc send vs = some len := by
  unfold txLength
  dsimp only
  split
  · exact ⟨0, rfl⟩
  next siov hsiov =>
  have hmap' : ∀ v ∈ siov, v.base ≠ 0 := by
    split at hsiov
    · exact (iovTrimHdr_some hsiov hmap).1
    · cases hsiov
      exact hmap
  cases hsend : send.run sc.mem siov with
  | none => exact absurd hsend (send.returns hmap')
  | some len => exact ⟨len.toNat, rfl⟩

lemma pciVtnetProctx_ok {ds : List VringDesc} (iov : Nat → Iovec) (send : NetSend)
    (hu : sc.tx.used ≠ 0) (h : sc.txRing.Fits ram ds) (hmap : Mapped ram ds) :
    ∃ sc', pciVtnetProctx ram iov send sc = .ok sc' := by
  obtain ⟨req, -, hret, hreq, hvec⟩ := h.getchain iov
  have hpos := h.pos
  have hle := h.length_le
  have hused := (getchain_keeps sc.txRing ram iov).2
  have hvs : ∀ v ∈ ds.map (·.buffer ram), v.base ≠ 0 := by
    intro v hv
    obtain ⟨d, hd, rfl⟩ := mem_map.mp hv
    exact hmap d hd
  unfold pciVtnetProctx
  dsimp only
  rw [hret, hreq]
  dsimp only
  rw [if_neg (by omega), Int.toNat_natCast, hvec]
  obtain ⟨len, hlen⟩ := txLength_ok _ send hvs
  rw [hlen]
  exact ⟨_, if_neg (hused ▸ hu)⟩

lemma pciVtnetProctx_error (iov : Nat → Iovec) (send : NetSend)
    (hsome : sc.tx.availIdx sc.mem ≠ sc.tx.lastAvail)
    (h : ∀ ds, ¬ sc.txRing.Fits ram ds) : ∃ a, pciVtnetProctx ram iov send sc = .error a := by
  unfold pciVtnetProctx
  dsimp only
  rcases Ring.getchain_misfit hsome h iov with hret | ⟨n, hret, -, hn⟩
  · rw [hret]
    exact ⟨_, rfl⟩
  · rw [hret]
    exact ⟨_, if_pos hn⟩

end

structure VtnetInv (sc : VtnetSoftc) : Prop where
  rx : sc.rx.ringReady = true
  tx : sc.tx.ringReady = true
  counts : ∀ q h, sc.log.count (.used q h) ≤ sc.log.count (.take q h)


variable {ram : Ram} {sc sc' : VtnetSoftc}

lemma VtnetInv.same (h : VtnetInv sc) (hs : SameRings sc sc') (hl : sc'.log = sc.log) : VtnetInv sc' where
  rx := hs.rx.trans h.rx
  tx := hs.tx.trans h.tx
  counts := hl ▸ h.counts

lemma VtnetInv.handles {q : NetQueue} {head : Nat} (h : VtnetInv sc)
    (hh : Handles sc sc' q head) : VtnetInv sc' where
  rx := hh.rx.trans h.rx
  tx := hh.tx.trans h.tx
  counts q' i := by
    have hc := h.counts q' i
    have htake : (NetEvent.take q head == .used q' i) = false := rfl
    have hused : (NetEvent.used q head == .take q' i) = false := rfl
    rcases hh.log with hlog | hlog
    · rw [hlog]
      simp only [count_append, count_singleton, htake, Bool.false_eq_true, if_false]
      omega
    rw [hlog]
    simp only [count_append, count_cons, count_nil, htake, hused, Bool.false_eq_true, if_false]
    by_cases he : q = q' ∧ head = i
    · obtain ⟨rfl, rfl⟩ := he
      simpa using hc
    · have hused' : (NetEvent.used q head == .used q' i) = false := by simpa using he
      simp only [hused', Bool.false_eq_true, if_false]
      omega

lemma VtnetInv.step {l : VtnetLabel} (h : VtnetInv sc) (hstep : VtnetStep ram sc l (.ok sc')) :
    VtnetInv sc' := by
  generalize hr : (Except.ok sc' : Except Abort VtnetSoftc) = r at hstep
  cases hstep with
  | guest | negotiate | pingRx | rxEnter =>
    cases hr
    exact h.same ⟨rfl, rfl⟩ rfl
  | rxGet =>
    rcases rxGet_cases hr.symm with ⟨hs, hl⟩ | ⟨head, hh⟩
    · exact h.same hs hl
    · exact h.handles hh
  | rxRecheck =>
    cases hr
    unfold rxRecheck
    split
    · exact h.same ⟨rfl, rfl⟩ rfl
    · exact h.same ⟨rfl, rfl⟩ rfl
  | tx =>
    obtain ⟨head, hh⟩ := pciVtnetProctx_cases hr.symm
    exact h.handles hh

/-- What the rings offer: to `pci_vtnet_rx` nothing or a chain of at most 256 buffers in guest RAM,
shorter than 4 GiB, to `pci_vtnet_proctx` such a chain of any length. -/
def VtnetSoftc.Offers (sc : VtnetSoftc) (ram : Ram) : VtnetLabel → Prop
  | .rxGet .. => sc.rx.availIdx sc.mem = sc.rx.lastAvail ∨
      ∃ ds, sc.rxRing.Fits ram ds ∧ Mapped ram ds ∧ iovLen (ds.map (·.buffer ram)) < 2 ^ 32
  | .tx .. => ∃ ds, sc.txRing.Fits ram ds ∧ Mapped ram ds
  | _ => True

lemma VtnetStep.ok {l : VtnetLabel} {r : Except Abort VtnetSoftc} (h : VtnetInv sc)
    (hstep : VtnetStep ram sc l r) (hoffer : sc.Offers ram l) : ∃ sc', r = .ok sc' := by
  cases hstep with
  | guest | negotiate | pingRx | rxEnter | rxRecheck => exact ⟨_, rfl⟩
  | rxGet =>
    have hu := VqueueInfo.used_ne_zero h.rx
    rcases hoffer with hempty | ⟨ds, hfits, hmap, hlen⟩
    · exact rxGet_empty hu hempty
    · exact rxGet_ok hu hfits hmap hlen
  | tx =>
    obtain ⟨ds, hfits, hmap⟩ := hoffer
    exact pciVtnetProctx_ok _ _ (VqueueInfo.used_ne_zero h.tx) hfits hmap

end ScorpiHv.Virtio

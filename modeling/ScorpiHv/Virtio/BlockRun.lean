import ScorpiHv.Lib.Trace
import ScorpiHv.Virtio.Block

/-!
# Runs of the virtio block device

The guest, the block threads and device resets interleave freely. What one step
does to the requests in flight is said once.
-/

namespace ScorpiHv.Virtio
open Function Bytes List

inductive VtblkLabel where
  /-- The guest, or anyone else, rewrites guest memory. -/
  | guest (mem : Store)
  | proc (iov : Nat → Iovec)
  /-- A block thread stores data of the `k`th request in flight. -/
  | store (k p : Nat) (bs : List UInt8)
  /-- A block thread takes the `k`th request up, chooses how much of an entry it moves, has moved it,
  and has discarded its range. -/
  | start (k : Nat)
  | pick (k : Nat)
  | moved (k : Nat)
  | discarded (k : Nat)
  | callback (k : Nat) (err : Option Errno)
  /-- `blockif_complete` frees an element. -/
  | release
  | reset
  | setup (pfn : UInt32)

/-- Before `pci_vtblk_proc` the device saw a ready ring with an entry. The guest may have
taken the entry back since. -/
inductive VtblkStep (ram : Ram) (sc : VtblkSoftc) :
    VtblkLabel → Except Abort VtblkSoftc → Prop where
  | guest (mem : Store) :
      VtblkStep ram sc (.guest mem) (.ok { sc with ring := { sc.ring with mem } })
  | proc (iov : Nat → Iovec) : sc.ring.vq.ringReady = true →
      VtblkStep ram sc (.proc iov) (pciVtblkProc ram iov sc)
  | store {k p : Nat} {bs : List UInt8} {f : Flight} {v : Iovec} : sc.inflight[k]? = some f →
      f.op = .read → v ∈ (sc.ios f.slot).iov → v.base ≠ 0 → v.base ≤ p →
      p + bs.length ≤ v.base + v.len →
      VtblkStep ram sc (.store k p bs) (.ok ((sc.writeMem p bs).emit (.store f.session sc.session)))
  | start {k : Nat} {f : Flight} : sc.inflight[k]? = some f → f.phase = .queued →
      sc.busy + sc.lingering < BLOCKIF_NUMTHR → VtblkStep ram sc (.start k) (blockifProc sc k f)
  | pick {k i : Nat} {f : Flight} {v : Iovec} : sc.inflight[k]? = some f → f.op = .read ∨ f.op = .write →
      f.phase = .running i → (sc.ios f.slot).iov[i]? = some v → 0 < (sc.ios f.slot).resid →
      VtblkStep ram sc (.pick k) (.ok (blockifLen sc k f i v))
  | moved {k i len : Nat} {f : Flight} : sc.inflight[k]? = some f → f.phase = .moving i len →
      VtblkStep ram sc (.moved k) (.ok (blockifMoved sc k f i len))
  | discarded {k i : Nat} {f : Flight} : sc.inflight[k]? = some f → f.op = .delete →
      f.phase = .running i →
      VtblkStep ram sc (.discarded k) (.ok ((sc.setResid f.slot 0).setPhase k f (.running (i + 1))))
  | callback {k : Nat} {f : Flight} (err : Option Errno) : sc.inflight[k]? = some f →
      f.phase ≠ .queued → sc.lingering < BLOCKIF_NUMTHR →
      VtblkStep ram sc (.callback k err) (pciVtblkDoneLocked
        { sc with inflight := sc.inflight.eraseIdx k, lingering := sc.lingering + 1 }
        f.slot f.session err)
  | release : 0 < sc.lingering →
      VtblkStep ram sc .release (.ok { sc with lingering := sc.lingering - 1 })
  /-- `pci_vtblk_reset` -/
  | reset : VtblkStep ram sc .reset
      (.ok { sc with ring := { sc.ring with vq := sc.ring.vq.reset }, session := sc.session + 1 })
  | setup (pfn : UInt32) : VtblkStep ram sc (.setup pfn)
      (.ok { sc with ring := { sc.ring with vq := viVqInit ram sc.ring.vq pfn } })

structure Answers (sc sc' : VtblkSoftc) (slot session : Nat) : Prop where
  mapped : (sc.ios slot).status ≠ 0
  log : sc'.log = sc.log ++ [.status session sc.session, .used session sc.session slot]
  inflight : sc'.inflight = sc.inflight
  lingering : sc'.lingering = sc.lingering
  session : sc'.session = sc.session
  ios : sc'.ios = sc.ios
  used : sc'.ring.vq.used = sc.ring.vq.used
  reset : sc'.ring.vq.reset = sc.ring.vq.reset

structure Enqueues (sc sc' : VtblkSoftc) (slot : Nat) : Prop where
  log : sc'.log = sc.log
  inflight : ∃ op, sc'.inflight = sc.inflight ++ [{ slot, op, session := sc.session }]
  lingering : sc'.lingering = sc.lingering
  session : sc'.session = sc.session
  status : ∀ i, (sc'.ios i).status = (sc.ios i).status
  other : ∀ i ≠ slot, sc'.ios i = sc.ios i
  resid : 0 ≤ (sc.ios slot).resid → 0 ≤ (sc'.ios slot).resid
  used : sc'.ring.vq.used = sc.ring.vq.used
  reset : sc'.ring.vq.reset = sc.ring.vq.reset

section

variable {sc sc' : VtblkSoftc} {slot session : Nat}

lemma pciVtblkDoneLocked_ok (session : Nat) (err : Option Errno) (hs : (sc.ios slot).status ≠ 0)
    (hu : sc.ring.vq.used ≠ 0) : ∃ sc', pciVtblkDoneLocked sc slot session err = .ok sc' := by
  unfold pciVtblkDoneLocked
  rw [if_neg hs]
  exact ⟨_, if_neg hu⟩

lemma pciVtblkDoneLocked_answers {err : Option Errno}
    (h : pciVtblkDoneLocked sc slot session err = .ok sc') : Answers sc sc' slot session := by
  unfold pciVtblkDoneLocked at h
  split at h
  · cases h
  next hs =>
  dsimp only at h
  split at h
  · cases h
  cases h
  exact
    { mapped := hs
      log := by simp [VtblkSoftc.emit, VtblkSoftc.writeMem]
      inflight := rfl
      lingering := rfl
      session := rfl
      ios := rfl
      used := rfl
      reset := rfl }

lemma blockifRequest_ok (slot : Nat) (op : BlockOp)
    (h : sc.inflight.length + sc.lingering < BLOCKIF_MAXREQ) :
    ∃ sc', blockifRequest sc slot op = .ok sc' := by
  unfold blockifRequest
  rw [if_pos h]
  exact ⟨_, rfl⟩

lemma blockifRequest_enqueues {op : BlockOp} (h : blockifRequest sc slot op = .ok sc') :
    Enqueues sc sc' slot := by
  unfold blockifRequest at h
  split at h
  · cases h
    exact
      { log := rfl
        inflight := ⟨op, rfl⟩
        lingering := rfl
        session := rfl
        status := fun _ => rfl
        other := fun _ _ => rfl
        resid := id
        used := rfl
        reset := rfl }
  · cases h

lemma Answers.of_eq {sc₁ : VtblkSoftc} (h : Answers sc₁ sc' slot session) (hl : sc₁.log = sc.log)
    (hi : sc₁.inflight = sc.inflight) (hg : sc₁.lingering = sc.lingering) (hn : sc₁.session = sc.session)
    (hs : sc₁.ios = sc.ios) (hu : sc₁.ring.vq.used = sc.ring.vq.used)
    (hr : sc₁.ring.vq.reset = sc.ring.vq.reset) : Answers sc sc' slot session where
  mapped := hs ▸ h.mapped
  log := by rw [h.log, hl, hn]
  inflight := h.inflight.trans hi
  lingering := h.lingering.trans hg
  session := h.session.trans hn
  ios := h.ios.trans hs
  used := h.used.trans hu
  reset := h.reset.trans hr

lemma Enqueues.setIo {io : Ioreq} (h : Enqueues (sc.setIo slot io) sc' slot)
    (hs : io.status = (sc.ios slot).status) (hres : 0 ≤ io.resid) : Enqueues sc sc' slot where
  log := h.log
  inflight := h.inflight
  lingering := h.lingering
  session := h.session
  used := h.used
  reset := h.reset
  status i := by
    rw [h.status i]
    change (update sc.ios slot io i).status = _
    by_cases hi : i = slot
    · subst hi
      rw [update_self, hs]
    · rw [update_of_ne hi]
  other i hi := (h.other i hi).trans (update_of_ne hi _ _)
  resid _ := by
    refine h.resid ?_
    change 0 ≤ (update sc.ios slot io slot).resid
    rw [update_self]
    exact hres

lemma vtblkDispatch_cases {type : Nat} {iov1 : Iovec} (h : vtblkDispatch sc slot type iov1 = .ok sc') :
    Answers sc sc' slot sc.session ∨ Enqueues sc sc' slot := by
  unfold vtblkDispatch at h
  split at h
  · exact Or.inr (blockifRequest_enqueues h)
  split at h
  · exact Or.inr (blockifRequest_enqueues h)
  split at h
  · unfold vtblkDiscard at h
    split at h
    · exact Or.inl (pciVtblkDoneLocked_answers h)
    split at h
    · cases h
    dsimp only at h
    split at h
    · exact Or.inl (pciVtblkDoneLocked_answers h)
    split at h
    · exact Or.inl (pciVtblkDoneLocked_answers h)
    · exact Or.inr ((blockifRequest_enqueues h).setIo rfl (Int.natCast_nonneg _))
  split at h
  · exact Or.inr (blockifRequest_enqueues h)
  split at h
  · unfold vtblkIdent at h
    split at h
    · cases h
    · exact Or.inl ((pciVtblkDoneLocked_answers h).of_eq rfl rfl rfl rfl rfl rfl rfl)
  · exact Or.inl (pciVtblkDoneLocked_answers h)

/-- The request is on record and its slot is filled in; nothing was decided yet. -/
structure Submits (sc sc' : VtblkSoftc) (head : Nat) (io : Ioreq) : Prop where
  log : sc'.log = sc.log ++ [.submit sc.session head]
  inflight : sc'.inflight = sc.inflight
  lingering : sc'.lingering = sc.lingering
  session : sc'.session = sc.session
  ios : sc'.ios = update sc.ios head io
  used : sc'.ring.vq.used = sc.ring.vq.used
  reset : sc'.ring.vq.reset = sc.ring.vq.reset

lemma Submits.of_setIo (sc : VtblkSoftc) (head : Nat) (io : Ioreq) :
    Submits sc ((sc.emit (.submit sc.session head)).setIo head io) head io where
  log := rfl
  inflight := rfl
  lingering := rfl
  session := rfl
  ios := rfl
  used := rfl
  reset := rfl

lemma Submits.io_eq {head : Nat} {io : Ioreq} (h : Submits sc sc' head io) : sc'.ios head = io := by
  rw [h.ios, update_self]

/-- The request that a chain of `n` entries makes. -/
def chainIo (mem : Store) (n : Nat) (iov : Nat → Iovec) : Ioreq where
  iov := (List.range (n - 2)).map fun i => iov (i + 1)
  offset := (BlkHdr.load mem (iov 0).base).sector * VTBLK_BSIZE % 2 ^ 64
  resid := ((((List.range (n - 2)).map fun i => iov (i + 1)).map (·.len)).sum : Nat)
  status := (iov (n - 1)).base

lemma chainIo_resid (mem : Store) (n : Nat) (iov : Nat → Iovec) : 0 ≤ (chainIo mem n iov).resid :=
  Int.natCast_nonneg _

/-- What the assertions of `pci_vtblk_proc` behind the count ask of a chain. -/
structure WellFormed (mem : Store) (n : Nat) (iov : Nat → Iovec) (req : ViReq) : Prop where
  readable : req.readable ≠ 0
  header_len : (iov 0).len = 16
  header : (iov 0).base ≠ 0
  writable : req.writable ≠ 0
  status_len : (iov (n - 1)).len = 1
  facing : n - 1 = req.facing (BlkHdr.load mem (iov 0).base).type

section

variable {n : Nat} {iov : Nat → Iovec} {req : ViReq}

lemma WellFormed.request_eq (h : WellFormed sc.mem n iov req) : vtblkRequest sc n iov req =
      vtblkDispatch ((sc.emit (.submit sc.session req.idx)).setIo req.idx (chainIo sc.mem n iov)) req.idx
        (BlkHdr.load sc.mem (iov 0).base).type (iov 1) := by
  rw [vtblkRequest]
  rw [if_neg h.readable, if_neg (not_not.mpr h.header_len), if_neg h.header, if_neg h.writable,
    if_neg (not_not.mpr h.status_len)]
  exact if_neg (not_not.mpr h.facing)

lemma vtblkRequest_wellFormed (h : vtblkRequest sc n iov req = .ok sc') : WellFormed sc.mem n iov req := by
  unfold vtblkRequest at h
  dsimp only at h
  iterate 6
    split at h
    · cases h
  next hr hl hb hw hs hf => exact ⟨hr, not_not.mp hl, hb, hw, not_not.mp hs, not_not.mp hf⟩

lemma vtblkRequest_cases (h : vtblkRequest sc n iov req = .ok sc') :
    ∃ sc₁, Submits sc sc₁ req.idx (chainIo sc.mem n iov) ∧
      (Answers sc₁ sc' req.idx sc₁.session ∨ Enqueues sc₁ sc' req.idx) := by
  rw [(vtblkRequest_wellFormed h).request_eq] at h
  exact ⟨_, .of_setIo sc req.idx _, vtblkDispatch_cases h⟩

end

end

/-- Entry `k` of `iov[]` once the chain is in it. -/
def iovAt (ram : Ram) (ds : List VringDesc) (k : Nat) : Iovec :=
  (ds[k]?.map (·.buffer ram)).getD ⟨0, 0⟩

def VtblkSoftc.Queues (sc : VtblkSoftc) (type : Nat) (iov1 : Iovec) : Prop :=
  type = VBH_OP_READ ∨ type = VBH_OP_WRITE ∨ type = VBH_OP_FLUSH ∨ type = VBH_OP_FLUSH_OUT ∨
  type = VBH_OP_DISCARD ∧ iov1.len = 16 ∧ (BlkDiscard.load sc.mem iov1.base).flags = 0 ∧
    (BlkDiscard.load sc.mem iov1.base).numSectors ≤ VTBLK_MAX_DISCARD_SECT

/-- What the `switch` needs: memory behind the buffer it looks into, and room. -/
structure VtblkSoftc.Serves (sc : VtblkSoftc) (type : Nat) (iov1 : Iovec) : Prop where
  ident : type = VBH_OP_IDENT → iov1.len ≠ 0 → iov1.base ≠ 0
  discard : type = VBH_OP_DISCARD → iov1.len = 16 → iov1.base ≠ 0
  room : sc.Queues type iov1 → sc.inflight.length + sc.lingering < BLOCKIF_MAXREQ

section

variable {sc sc' : VtblkSoftc} {slot type : Nat} {iov1 : Iovec}

lemma vtblkDispatch_queues (slot : Nat) (h : sc.Queues type iov1) (hserves : sc.Serves type iov1) :
    ∃ sc', vtblkDispatch sc slot type iov1 = .ok sc' ∧ Enqueues sc sc' slot := by
  have hroom := hserves.room h
  have hend : ∀ op, ∃ sc', blockifRequest sc slot op = .ok sc' ∧ Enqueues sc sc' slot := by
    intro op
    obtain ⟨sc', hok⟩ := blockifRequest_ok slot op hroom
    exact ⟨sc', hok, blockifRequest_enqueues hok⟩
  rcases h with rfl | rfl | rfl | rfl | ⟨rfl, hlen, hflags, hnum⟩
  · exact hend .read
  · exact hend .write
  · exact hend .flush
  · exact hend .flush
  have hbody : vtblkDispatch sc slot VBH_OP_DISCARD iov1 = vtblkDiscard sc slot iov1 := rfl
  rw [hbody, vtblkDiscard, if_neg (not_not.mpr hlen), if_neg (hserves.discard rfl hlen)]
  rw [if_neg (not_not.mpr hflags), if_neg (Nat.not_lt.mpr hnum)]
  have hroom₁ : ∀ io, (sc.setIo slot io).inflight.length + (sc.setIo slot io).lingering <
      BLOCKIF_MAXREQ := fun _ => hroom
  obtain ⟨sc', hok⟩ := blockifRequest_ok slot .delete (hroom₁ _)
  exact ⟨sc', hok, (blockifRequest_enqueues hok).setIo rfl (Int.natCast_nonneg _)⟩

lemma vtblkDispatch_answers (h : ¬ sc.Queues type iov1) (hserves : sc.Serves type iov1)
    (hs : (sc.ios slot).status ≠ 0) (hu : sc.ring.vq.used ≠ 0) :
    ∃ sc', vtblkDispatch sc slot type iov1 = .ok sc' := by
  unfold VtblkSoftc.Queues at h
  simp only [not_or] at h
  obtain ⟨hread, hwrite, hflush, hout, hdisc⟩ := h
  rw [vtblkDispatch, if_neg hread, if_neg hwrite]
  split
  · rename_i hd
    rw [vtblkDiscard]
    by_cases hlen : iov1.len = 16
    · rw [if_neg (not_not.mpr hlen), if_neg (hserves.discard hd hlen)]
      dsimp only
      split
      · exact pciVtblkDoneLocked_ok _ _ hs hu
      next hflags =>
        rw [if_pos (Nat.lt_of_not_le fun hle => hdisc ⟨hd, hlen, not_not.mp hflags, hle⟩)]
        exact pciVtblkDoneLocked_ok _ _ hs hu
    · rw [if_pos hlen]
      exact pciVtblkDoneLocked_ok _ _ hs hu
  rw [if_neg (not_or.mpr ⟨hflush, hout⟩)]
  split
  next hid =>
    rw [vtblkIdent, if_neg fun hnull => hserves.ident hid hnull.2 hnull.1]
    exact pciVtblkDoneLocked_ok _ _ hs hu
  · exact pciVtblkDoneLocked_ok _ _ hs hu

lemma vtblkDispatch_serves (h : vtblkDispatch sc slot type iov1 = .ok sc') : sc.Serves type iov1 where
  ident hid hlen hnull := by
    subst hid
    have hbody : vtblkIdent sc slot iov1 = .ok sc' := h
    rw [vtblkIdent, if_pos ⟨hnull, hlen⟩] at hbody
    cases hbody
  discard hd hlen hnull := by
    subst hd
    have hbody : vtblkDiscard sc slot iov1 = .ok sc' := h
    rw [vtblkDiscard, if_neg (not_not.mpr hlen), if_pos hnull] at hbody
    cases hbody
  room hq := by
    by_contra hroom
    have hfull : ∀ {sc₁ : VtblkSoftc} {op : BlockOp},
        sc₁.inflight.length + sc₁.lingering = sc.inflight.length + sc.lingering →
        blockifRequest sc₁ slot op ≠ .ok sc' := by
      intro sc₁ op heq hok
      rw [blockifRequest, if_neg (heq ▸ hroom)] at hok
      cases hok
    rcases hq with rfl | rfl | rfl | rfl | ⟨rfl, hlen, hflags, hnum⟩
    iterate 4 · exact hfull rfl h
    have hbody : vtblkDiscard sc slot iov1 = .ok sc' := h
    rw [vtblkDiscard, if_neg (not_not.mpr hlen)] at hbody
    split at hbody
    · cases hbody
    rw [if_neg (not_not.mpr hflags), if_neg (Nat.not_lt.mpr hnum)] at hbody
    refine hfull ?_ hbody
    rfl

/-- The chain at the head of the ring is a request the device takes without dying, now or
when the block threads answer. -/
structure VtblkSoftc.Accepts (sc : VtblkSoftc) (ram : Ram) (ds : List VringDesc) : Prop where
  takes : sc.ring.vq.Takes sc.ring.mem
  chain : sc.ring.Chain ram true ds
  two_le : 2 ≤ ds.length
  length_le : ds.length ≤ BLOCKIF_IOV_MAX + 2
  header_len : (iovAt ram ds 0).len = 16
  header : (iovAt ram ds 0).base ≠ 0
  status_len : (iovAt ram ds (ds.length - 1)).len = 1
  status : (iovAt ram ds (ds.length - 1)).base ≠ 0
  facing : ds.length - 1 = ds.countP fun d =>
    d.isWrite != isWriteop (BlkHdr.load sc.mem (iovAt ram ds 0).base).type
  serves : sc.Serves (BlkHdr.load sc.mem (iovAt ram ds 0).base).type (iovAt ram ds 1)

/-- The device behind `vq_getchain`, which consumed one available entry. -/
def VtblkSoftc.took (sc : VtblkSoftc) : VtblkSoftc :=
  { sc with ring.vq.lastAvail := sc.ring.vq.lastAvail + 1 }

def chainReq (sc : VtblkSoftc) (ds : List VringDesc) : ViReq where
  readable := ds.countP fun d => !d.isWrite
  writable := ds.countP (·.isWrite)
  idx := sc.ring.vq.head sc.ring.mem

variable {ram : Ram} {ds : List VringDesc} {iov : Nat → Iovec}

lemma pciVtblkProc_eq_request (iov : Nat → Iovec) (ht : sc.ring.vq.Takes sc.ring.mem)
    (hds : sc.ring.Chain ram true ds) (htwo : 2 ≤ ds.length) (hle : ds.length ≤ BLOCKIF_IOV_MAX + 2) :
    ∃ iov', (∀ k < ds.length, iov' k = iovAt ram ds k) ∧
      pciVtblkProc ram iov sc = vtblkRequest sc.took ds.length iov' (chainReq sc ds) := by
  have hmax : ds.length ≤ VQ_MAX_DESCRIPTORS := hle.trans (by decide)
  have hg := Ring.getchain_isChain false (BLOCKIF_IOV_MAX + 2) iov ht hds hmax
  refine ⟨(sc.ring.getchain ram true false (BLOCKIF_IOV_MAX + 2) iov).iov, fun k hk => ?_, ?_⟩
  · rw [hg.iov_eq k, if_pos (show k < BLOCKIF_IOV_MAX + 2 by omega), iovAt, List.getElem?_eq_getElem hk]
    rfl
  · have hreq := hg.req_eq
    rw [take_of_length_le hle] at hreq
    rw [pciVtblkProc, hg.ret, hreq, hg.vq_eq, Ring.getchain_mem]
    exact if_neg (by omega)

lemma chainReq_facing (sc : VtblkSoftc) (ds : List VringDesc) (type : Nat) :
    (chainReq sc ds).facing type = ds.countP fun d => d.isWrite != isWriteop type := by
  unfold ViReq.facing
  cases isWriteop type <;> simp [chainReq]

lemma VtblkSoftc.Accepts.wellFormed (h : sc.Accepts ram ds) {iov' : Nat → Iovec}
    (hiov : ∀ k < ds.length, iov' k = iovAt ram ds k) :
    WellFormed sc.took.mem ds.length iov' (chainReq sc ds) := by
  have htwo := h.two_le
  have h0 := hiov 0 (by omega)
  have hlast := hiov (ds.length - 1) (by omega)
  have hface := h.facing
  rw [← chainReq_facing sc] at hface
  have hboth : (chainReq sc ds).readable ≠ 0 ∧ (chainReq sc ds).writable ≠ 0 := by
    have hsplit : ds.length = (chainReq sc ds).writable + (chainReq sc ds).readable := by
      simpa [chainReq] using length_eq_countP_add_countP (l := ds) (fun d => d.isWrite)
    unfold ViReq.facing at hface
    split at hface <;> omega
  exact
    { readable := hboth.1
      header_len := h0 ▸ h.header_len
      header := h0 ▸ h.header
      writable := hboth.2
      status_len := hlast ▸ h.status_len
      facing := h0 ▸ hface }

lemma chainIo_congr {mem : Store} {n : Nat} {iov iov' : Nat → Iovec} (hn : 2 ≤ n)
    (h : ∀ k < n, iov k = iov' k) : chainIo mem n iov = chainIo mem n iov' := by
  have hdata : ((List.range (n - 2)).map fun i => iov (i + 1)) =
      (List.range (n - 2)).map fun i => iov' (i + 1) := by
    refine map_congr_left fun i hi => h _ ?_
    have := mem_range.mp hi
    omega
  simp only [chainIo, hdata, h 0 (by omega), h (n - 1) (by omega)]

lemma VtblkSoftc.Accepts.dispatch (h : sc.Accepts ram ds) (iov : Nat → Iovec) : ∃ sc₁,
    Submits sc sc₁ (sc.ring.vq.head sc.ring.mem) (chainIo sc.mem ds.length (iovAt ram ds)) ∧
    sc₁.mem = sc.mem ∧ pciVtblkProc ram iov sc = vtblkDispatch sc₁ (sc.ring.vq.head sc.ring.mem)
    (BlkHdr.load sc.mem (iovAt ram ds 0).base).type (iovAt ram ds 1) := by
  have htwo := h.two_le
  obtain ⟨iov', hiov, heq⟩ := pciVtblkProc_eq_request iov h.takes h.chain h.two_le h.length_le
  have hreq := (h.wellFormed hiov).request_eq
  rw [chainIo_congr htwo hiov, hiov 0 (by omega), hiov 1 (by omega)] at hreq
  have hsub := Submits.of_setIo sc.took (chainReq sc ds).idx (chainIo sc.mem ds.length (iovAt ram ds))
  exact ⟨_, ⟨hsub.log, hsub.inflight, hsub.lingering, hsub.session, hsub.ios, hsub.used,
    hsub.reset⟩, rfl, heq.trans hreq⟩

lemma VtblkSoftc.Serves.submits {head : Nat} {io : Ioreq} {sc₁ : VtblkSoftc}
    (h : sc.Serves type iov1) (hsub : Submits sc sc₁ head io) (hmem : sc₁.mem = sc.mem) : sc₁.Serves type iov1 where
  ident := h.ident
  discard := h.discard
  room hq := by
    rw [hsub.inflight, hsub.lingering]
    unfold VtblkSoftc.Queues at hq
    rw [hmem] at hq
    exact h.room hq

lemma VtblkSoftc.Accepts.queues (h : sc.Accepts ram ds) (iov : Nat → Iovec)
    (hq : sc.Queues (BlkHdr.load sc.mem (iovAt ram ds 0).base).type (iovAt ram ds 1)) : ∃ sc₁ sc',
    pciVtblkProc ram iov sc = .ok sc' ∧ Submits sc sc₁ (sc.ring.vq.head sc.ring.mem)
    (chainIo sc.mem ds.length (iovAt ram ds)) ∧ Enqueues sc₁ sc' (sc.ring.vq.head sc.ring.mem) := by
  obtain ⟨sc₁, hsub, hmem, heq⟩ := h.dispatch iov
  have hq₁ : sc₁.Queues (BlkHdr.load sc.mem (iovAt ram ds 0).base).type (iovAt ram ds 1) := by
    unfold VtblkSoftc.Queues
    rw [hmem]
    exact hq
  obtain ⟨sc', hok, he⟩ := vtblkDispatch_queues _ hq₁ (h.serves.submits hsub hmem)
  exact ⟨sc₁, sc', heq.trans hok, hsub, he⟩

lemma VtblkSoftc.Accepts.proc (h : sc.Accepts ram ds) (hu : sc.ring.vq.used ≠ 0)
    (iov : Nat → Iovec) : ∃ sc', pciVtblkProc ram iov sc = .ok sc' := by
  by_cases hq : sc.Queues (BlkHdr.load sc.mem (iovAt ram ds 0).base).type (iovAt ram ds 1)
  · obtain ⟨-, sc', hok, -⟩ := h.queues iov hq
    exact ⟨sc', hok⟩
  obtain ⟨sc₁, hsub, hmem, heq⟩ := h.dispatch iov
  have hq₁ : ¬ sc₁.Queues (BlkHdr.load sc.mem (iovAt ram ds 0).base).type (iovAt ram ds 1) := by
    unfold VtblkSoftc.Queues
    rw [hmem]
    exact hq
  rw [heq]
  refine vtblkDispatch_answers hq₁ (h.serves.submits hsub hmem) ?_ (hsub.used ▸ hu)
  rw [hsub.io_eq]
  exact h.status

lemma pciVtblkProc_chain (hok : pciVtblkProc ram iov sc = .ok sc') : ∃ ds iov',
    sc.ring.vq.Takes sc.ring.mem ∧ sc.ring.Chain ram true ds ∧ 2 ≤ ds.length ∧
      ds.length ≤ BLOCKIF_IOV_MAX + 2 ∧ (∀ k < ds.length, iov' k = iovAt ram ds k) ∧
      vtblkRequest sc.took ds.length iov' (chainReq sc ds) = .ok sc' := by
  obtain ⟨n, hret, htwo, hle⟩ : ∃ n : Int,
      (sc.ring.getchain ram true false (BLOCKIF_IOV_MAX + 2) iov).ret = some n ∧ 2 ≤ n ∧
      n ≤ (BLOCKIF_IOV_MAX + 2 : Nat) := by
    unfold pciVtblkProc at hok
    dsimp only at hok
    split at hok
    · cases hok
    next n hret =>
      split at hok
      · cases hok
      next hn => exact ⟨n, hret, by omega, by omega⟩
  obtain ⟨ht, ds, hds, rfl, -⟩ := Ring.getchain_pos hret (by omega)
  have htwo : 2 ≤ ds.length := by omega
  have hle : ds.length ≤ BLOCKIF_IOV_MAX + 2 := by omega
  obtain ⟨iov', hiov, heq⟩ := pciVtblkProc_eq_request iov ht hds htwo hle
  exact ⟨ds, iov', ht, hds, htwo, hle, hiov, heq.symm.trans hok⟩

/-- A request that is taken is on record under the head of the ring, and answered or enqueued. -/
lemma pciVtblkProc_cases (h : pciVtblkProc ram iov sc = .ok sc') :
    ∃ sc₁ io, Submits sc sc₁ (sc.ring.vq.head sc.ring.mem) io ∧ 0 ≤ io.resid ∧
      (Answers sc₁ sc' (sc.ring.vq.head sc.ring.mem) sc₁.session ∨
        Enqueues sc₁ sc' (sc.ring.vq.head sc.ring.mem)) := by
  obtain ⟨ds, iov', -, -, -, -, -, hreq⟩ := pciVtblkProc_chain h
  obtain ⟨sc₁, hsub, hend⟩ := vtblkRequest_cases hreq
  exact ⟨sc₁, _, ⟨hsub.log, hsub.inflight, hsub.lingering, hsub.session, hsub.ios, hsub.used, hsub.reset⟩,
    chainIo_resid _ _ _, hend⟩

lemma VtblkSoftc.accepts_of_ok (hok : pciVtblkProc ram iov sc = .ok sc')
    (hstatus : ∀ f ∈ sc'.inflight, (sc'.ios f.slot).status ≠ 0) : ∃ ds, sc.Accepts ram ds := by
  obtain ⟨ds, iov', ht, hds, htwo, hle, hiov, hok⟩ := pciVtblkProc_chain hok
  have h0 := hiov 0 (by omega)
  have h1 := hiov 1 (by omega)
  have hlast := hiov (ds.length - 1) (by omega)
  have hwf := vtblkRequest_wellFormed hok
  obtain ⟨sc₁, hsub, hend⟩ := vtblkRequest_cases hok
  have hface := hwf.facing
  rw [chainReq_facing, h0] at hface
  rw [hwf.request_eq, h0, h1] at hok
  have hserves := vtblkDispatch_serves hok
  refine ⟨ds,
    { takes := ht
      chain := hds
      two_le := htwo
      length_le := hle
      header_len := h0 ▸ hwf.header_len
      header := h0 ▸ hwf.header
      status_len := hlast ▸ hwf.status_len
      status := ?_
      facing := hface
      serves := ⟨hserves.ident, hserves.discard, hserves.room⟩ }⟩
  have hslot : (sc₁.ios (chainReq sc ds).idx).status = (iovAt ram ds (ds.length - 1)).base := by
    rw [hsub.io_eq, ← hlast]
    rfl
  rw [← hslot]
  rcases hend with ha | he
  · exact ha.mapped
  obtain ⟨op, hop⟩ := he.inflight
  rw [← he.status]
  exact hstatus ⟨_, op, _, .queued⟩ (by rw [hop]; exact mem_append_right _ mem_cons_self)

end

def Flight.key (f : Flight) : Nat × Nat := (f.slot, f.session)

def BlkEvent.Prompt : BlkEvent → Prop
  | .submit .. => True
  | .store session now => session = now
  | .status session now => session = now
  | .used session now _ => session = now

/-- Every submission is used once or still owed: it is in flight, or, in the middle of a
call, among `owed`. -/
structure SessionInv (sc : VtblkSoftc) (owed : List (Nat × Nat)) : Prop where
  current : ∀ p ∈ sc.inflight.map Flight.key ++ owed, p.2 = sc.session
  prompt : ∀ e ∈ sc.log, e.Prompt
  counts : ∀ s h, sc.log.count (.used s s h) +
    (sc.inflight.map Flight.key ++ owed).count (h, s) = sc.log.count (.submit s h)

section

variable {sc sc' : VtblkSoftc} {slot : Nat} {io : Ioreq}

lemma SessionInv.congr {owed owed' : List (Nat × Nat)} (h : SessionInv sc owed)
    (hl : sc'.log = sc.log) (hn : sc'.session = sc.session)
    (hp : (sc'.inflight.map Flight.key ++ owed').Perm (sc.inflight.map Flight.key ++ owed)) :
    SessionInv sc' owed' where
  current p hmem := by
    rw [hn]
    exact h.current p (hp.mem_iff.mp hmem)
  prompt := hl ▸ h.prompt
  counts s h' := by rw [hl, hp.count_eq]; exact h.counts s h'

lemma SessionInv.submits (h : SessionInv sc []) (hs : Submits sc sc' slot io) :
    SessionInv sc' [(slot, sc.session)] where
  current p hmem := by
    rw [hs.session]
    rw [hs.inflight] at hmem
    rcases mem_append.mp hmem with hmem | hmem
    · exact h.current p (mem_append_left _ hmem)
    · rw [mem_singleton.mp hmem]
  prompt e he := by
    rw [hs.log] at he
    rcases mem_append.mp he with he | he
    · exact h.prompt e he
    · rw [mem_singleton.mp he]
      trivial
  counts s i := by
    have hc := h.counts s i
    rw [hs.log, hs.inflight]
    simp only [count_append, count_singleton, count_nil] at hc ⊢
    by_cases hi : slot = i ∧ sc.session = s
    · obtain ⟨rfl, rfl⟩ := hi
      simp
      omega
    · have h1 : ((slot, sc.session) == (i, s)) = false := by simpa using hi
      have h2 : (BlkEvent.submit sc.session slot == .submit s i) = false := by simpa [and_comm] using hi
      simp [h1, h2]
      omega

lemma SessionInv.answers (h : SessionInv sc [(slot, sc.session)])
    (ha : Answers sc sc' slot sc.session) : SessionInv sc' [] where
  current p hmem := by
    rw [ha.session]
    rw [ha.inflight, append_nil] at hmem
    exact h.current p (mem_append_left _ hmem)
  prompt e he := by
    rw [ha.log] at he
    rcases mem_append.mp he with he | he
    · exact h.prompt e he
    rcases mem_cons.mp he with rfl | he
    · rfl
    · rw [mem_singleton.mp he]
      rfl
  counts s i := by
    have hc := h.counts s i
    rw [ha.log, ha.inflight]
    simp only [count_append, count_cons, count_nil] at hc ⊢
    by_cases hi : slot = i ∧ sc.session = s
    · obtain ⟨rfl, rfl⟩ := hi
      simp at hc ⊢
      omega
    have h1 : ((slot, sc.session) == (i, s)) = false := by simpa using hi
    have h2 : (BlkEvent.used sc.session sc.session slot == .used s s i) = false := by
      simp only [beq_eq_false_iff_ne, ne_eq, BlkEvent.used.injEq]
      exact fun h => hi ⟨h.2.2, h.1⟩
    simp [h1, h2] at hc ⊢
    omega

lemma SessionInv.enqueues (h : SessionInv sc [(slot, sc.session)])
    (he : Enqueues sc sc' slot) : SessionInv sc' [] := by
  obtain ⟨op, hop⟩ := he.inflight
  refine h.congr he.log he.session ?_
  rw [hop, map_append, append_nil]
  exact List.Perm.refl _

lemma SessionInv.inflight_current {owed : List (Nat × Nat)} (h : SessionInv sc owed) {k : Nat}
    {f : Flight} (hf : sc.inflight[k]? = some f) : f.session = sc.session :=
  h.current f.key (mem_append_left _ (mem_map_of_mem (mem_of_getElem? hf)))

lemma map_set_same {β : Type} {l : List Flight} {k : Nat} {f g : Flight} (hf : l[k]? = some f)
    (key : Flight → β) (h : key g = key f) : (l.set k g).map key = l.map key := by
  obtain ⟨hk, rfl⟩ := List.getElem?_eq_some_iff.mp hf
  rw [map_set, h, ← getElem_map key (h := by simpa using hk), set_getElem_self]

lemma SessionInv.phase {k : Nat} {f : Flight} (h : SessionInv sc []) (hf : sc.inflight[k]? = some f)
    (hl : sc'.log = sc.log) (hn : sc'.session = sc.session) {phase : Phase}
    (hi : sc'.inflight = sc.inflight.set k { f with phase }) : SessionInv sc' [] := by
  have hkey : ({ f with phase } : Flight).key = f.key := rfl
  refine h.congr hl hn ?_
  rw [hi, map_set_same hf Flight.key hkey]

lemma SessionInv.step {ram : Ram} {l : VtblkLabel} (h : SessionInv sc [])
    (hstep : VtblkStep ram sc l (.ok sc')) (hreset : l = .reset → sc.inflight = []) :
    SessionInv sc' [] := by
  generalize hr : (Except.ok sc' : Except Abort VtblkSoftc) = r at hstep
  cases hstep with
  | guest | release | setup =>
    cases hr
    exact h.congr rfl rfl (List.Perm.refl _)
  | proc =>
    obtain ⟨sc₁, io, hsub, -, hend⟩ := pciVtblkProc_cases hr.symm
    have h₁ := h.submits hsub
    rw [← hsub.session] at h₁
    rcases hend with ha | he
    · exact h₁.answers ha
    · exact h₁.enqueues he
  | @store k p bs f v hf =>
    cases hr
    have hcur := h.inflight_current hf
    refine ⟨h.current, fun e he => ?_, fun s i => ?_⟩
    · rcases mem_append.mp he with he | he
      · exact h.prompt e he
      · rw [mem_singleton.mp he]
        exact hcur
    · have hc := h.counts s i
      change List.count _ (sc.log ++ [_]) + List.count _ (sc.inflight.map Flight.key ++ []) =
        List.count _ (sc.log ++ [_])
      simpa [count_append, count_singleton] using hc
  | @start k f hf =>
    unfold blockifProc at hr
    split at hr
    · cases hr
    · cases hr
      exact h.phase hf rfl rfl rfl
  | pick hf | moved hf | discarded hf =>
    cases hr
    exact h.phase hf rfl rfl rfl
  | @callback k f err hf _ _ =>
    have hcur := h.inflight_current hf
    have ha := pciVtblkDoneLocked_answers hr.symm
    rw [hcur] at ha
    obtain ⟨hk, hget⟩ := List.getElem?_eq_some_iff.mp hf
    have hperm := (getElem_cons_eraseIdx_perm hk).map Flight.key
    rw [hget, map_cons, Flight.key, hcur] at hperm
    have hopen : SessionInv { sc with
        inflight := sc.inflight.eraseIdx k, lingering := sc.lingering + 1 }
        [(f.slot, sc.session)] := by
      refine h.congr rfl rfl ?_
      rw [append_nil]
      exact (perm_append_singleton _ _).trans hperm
    exact hopen.answers ha
  | reset =>
    cases hr
    have hnone := hreset rfl
    refine ⟨fun p hmem => ?_, h.prompt, h.counts⟩
    rw [hnone] at hmem
    simp at hmem

def IdleResetStep (ram : Ram) (sc : VtblkSoftc) (l : VtblkLabel) (sc' : VtblkSoftc) : Prop :=
  VtblkStep ram sc l (.ok sc') ∧ (l = .reset → sc.inflight = [])

/-- Just after `pci_vtblk_init`. -/
structure VtblkSoftc.Fresh (sc : VtblkSoftc) : Prop where
  inflight : sc.inflight = []
  log : sc.log = []

lemma SessionInv.of_fresh (h : sc.Fresh) : SessionInv sc [] where
  current p hmem := by
    rw [h.inflight] at hmem
    simp at hmem
  prompt e he := by
    rw [h.log] at he
    simp at he
  counts s i := by
    rw [h.log, h.inflight]
    rfl

lemma SessionInv.run {ram : Ram} {ls : List VtblkLabel} (hsc : sc.Fresh)
    (hrun : Trace (IdleResetStep ram) sc ls sc') : SessionInv sc' [] := by
  have keep : ∀ s l t, SessionInv s [] → True → IdleResetStep ram s l t → SessionInv t [] :=
    fun _ _ _ h _ hstep => h.step hstep.1 hstep.2
  have hinv := hrun.invariant (fun _ => True) keep (fun _ _ => trivial)
  exact hinv (.of_fresh hsc)

/-- What is left of a request covers what its thread is moving. -/
structure Flight.Covered (f : Flight) (resid : Int) : Prop where
  nonneg : 0 ≤ resid
  moving : ∀ i len, f.phase = .moving i len → (len : Int) ≤ resid

/-- Every request in flight has its slot to itself. -/
structure ResidInv (sc : VtblkSoftc) : Prop where
  alone : (sc.inflight.map Flight.slot).Nodup
  covered : ∀ f ∈ sc.inflight, f.Covered (sc.ios f.slot).resid

/-- The head at the ring is not that of a request in flight. -/
def VtblkSoftc.NewHead (sc : VtblkSoftc) : Prop :=
  ∀ f ∈ sc.inflight, f.slot ≠ sc.ring.vq.head sc.ring.mem

lemma mem_set_of_nodup {l : List Flight} {k : Nat} {f f' g : Flight} (hn : (l.map Flight.slot).Nodup)
    (hf : l[k]? = some f) (hg : g ∈ l.set k f') : g = f' ∨ g ∈ l ∧ g.slot ≠ f.slot := by
  obtain ⟨hk, hfk⟩ := List.getElem?_eq_some_iff.mp hf
  obtain ⟨j, hj⟩ := List.getElem?_of_mem hg
  rw [getElem?_set] at hj
  split at hj
  · exact .inl (Option.some.inj hj).symm
  next hjk =>
    refine .inr ⟨mem_of_getElem? hj, fun hslot => hjk ?_⟩
    refine (List.getElem?_inj (by simpa using hk) hn).mp ?_
    rw [getElem?_map, getElem?_map, hf, hj, Option.map_some, Option.map_some, hslot]

/-- A thread that goes on with its request, leaving `resid` bytes of it. -/
lemma ResidInv.goOn {k : Nat} {f : Flight} (h : ResidInv sc) (hf : sc.inflight[k]? = some f) {phase : Phase}
    {resid : Int} (hcov : ({ f with phase } : Flight).Covered resid) :
    ResidInv ((sc.setResid f.slot resid).setPhase k f phase) where
  alone := by
    have hslot : ({ f with phase } : Flight).slot = f.slot := rfl
    change ((sc.inflight.set k { f with phase }).map Flight.slot).Nodup
    rw [map_set_same hf Flight.slot hslot]
    exact h.alone
  covered g hg := by
    change g.Covered (update sc.ios f.slot _ g.slot).resid
    rcases mem_set_of_nodup h.alone hf hg with rfl | ⟨hmem, hne⟩
    · change Flight.Covered _ (update sc.ios f.slot _ f.slot).resid
      rw [update_self]
      exact hcov
    · rw [update_of_ne hne]
      exact h.covered g hmem

lemma setResid_self (sc : VtblkSoftc) (slot : Nat) : sc.setResid slot (sc.ios slot).resid = sc := by
  unfold VtblkSoftc.setResid VtblkSoftc.setIo
  rw [show ({ sc.ios slot with resid := (sc.ios slot).resid } : Ioreq) = sc.ios slot from rfl,
    update_eq_self]

lemma ResidInv.phase {k : Nat} {f : Flight} (h : ResidInv sc) (hf : sc.inflight[k]? = some f)
    {phase : Phase} (hcov : ({ f with phase } : Flight).Covered (sc.ios f.slot).resid) :
    ResidInv (sc.setPhase k f phase) := by
  have hgo := h.goOn hf hcov
  rwa [setResid_self] at hgo

lemma ResidInv.proc {ram : Ram} {iov : Nat → Iovec} (h : ResidInv sc) (hnew : sc.NewHead)
    (hok : pciVtblkProc ram iov sc = .ok sc') : ResidInv sc' := by
  obtain ⟨sc₁, io, hsub, hres, hend⟩ := pciVtblkProc_cases hok
  -- the requests in flight have other slots
  have hother : ∀ f ∈ sc.inflight, sc₁.ios f.slot = sc.ios f.slot := by
    intro f hf
    rw [hsub.ios, update_of_ne (hnew f hf)]
  rcases hend with ha | he
  · refine ⟨?_, fun f hf => ?_⟩
    · rw [ha.inflight, hsub.inflight]
      exact h.alone
    · rw [ha.inflight, hsub.inflight] at hf
      rw [ha.ios, hother f hf]
      exact h.covered f hf
  · obtain ⟨op, hop⟩ := he.inflight
    rw [hsub.inflight] at hop
    refine ⟨?_, fun f hf => ?_⟩
    · rw [hop, map_append, map_singleton, nodup_append]
      refine ⟨h.alone, nodup_singleton _, fun a ha b hb => ?_⟩
      obtain ⟨f, hf, rfl⟩ := mem_map.mp ha
      rw [mem_singleton.mp hb]
      exact hnew f hf
    · rw [hop] at hf
      rcases mem_append.mp hf with hf | hf
      · rw [he.other _ (hnew f hf), hother f hf]
        exact h.covered f hf
      · rw [mem_singleton.mp hf]
        refine ⟨he.resid ?_, fun i len hphase => by cases hphase⟩
        rw [hsub.io_eq]
        exact hres

lemma ResidInv.step {ram : Ram} {l : VtblkLabel} (h : ResidInv sc) (hstep : VtblkStep ram sc l (.ok sc'))
    (hnew : ∀ iov, l = .proc iov → sc.NewHead) : ResidInv sc' := by
  generalize hr : (Except.ok sc' : Except Abort VtblkSoftc) = r at hstep
  cases hstep with
  | guest | store | release | reset | setup =>
    cases hr
    exact ⟨h.alone, h.covered⟩
  | proc iov => exact h.proc (hnew iov rfl) hr.symm
  | start hf =>
    unfold blockifProc at hr
    split at hr
    · cases hr
    · cases hr
      have hcov := h.covered _ (mem_of_getElem? hf)
      exact h.phase hf ⟨hcov.nonneg, fun i len hphase => by cases hphase⟩
  | pick hf _ _ _ hpos =>
    cases hr
    refine h.phase hf ⟨hpos.le, fun i len hphase => ?_⟩
    dsimp only at hphase
    split at hphase
    · cases hphase
    · cases hphase
      omega
  | moved hf hphase =>
    cases hr
    have hcov := h.covered _ (mem_of_getElem? hf)
    have hle := hcov.moving _ _ hphase
    exact h.goOn hf ⟨by omega, fun i len hphase => by cases hphase⟩
  | discarded hf =>
    cases hr
    exact h.goOn hf ⟨le_rfl, fun i len hphase => by cases hphase⟩
  | @callback k f err hf _ _ =>
    have ha := pciVtblkDoneLocked_answers hr.symm
    refine ⟨?_, fun g hg => ?_⟩
    · rw [ha.inflight]
      exact h.alone.sublist ((eraseIdx_sublist _ _).map _)
    · rw [ha.inflight] at hg
      rw [ha.ios]
      exact h.covered g (mem_of_mem_eraseIdx hg)

lemma ResidInv.start {ram : Ram} {k : Nat} {r : Except Abort VtblkSoftc} (h : ResidInv sc)
    (hstep : VtblkStep ram sc (.start k) r) : ∃ sc', r = .ok sc' := by
  cases hstep with
  | start hf =>
    have hcov := h.covered _ (mem_of_getElem? hf)
    exact ⟨_, if_neg (not_lt.mpr hcov.nonneg)⟩

lemma ResidInv.of_fresh (h : sc.Fresh) : ResidInv sc where
  alone := by
    rw [h.inflight]
    exact nodup_nil
  covered f hf := by
    rw [h.inflight] at hf
    cases hf

def NewHeadStep (ram : Ram) (sc : VtblkSoftc) (l : VtblkLabel) (sc' : VtblkSoftc) : Prop :=
  VtblkStep ram sc l (.ok sc') ∧ ∀ iov, l = .proc iov → sc.NewHead

lemma ResidInv.run {ram : Ram} {ls : List VtblkLabel} (h : ResidInv sc)
    (hrun : Trace (NewHeadStep ram) sc ls sc') : ResidInv sc' :=
  hrun.invariant (fun _ => True) (fun _ _ _ h _ hstep => h.step hstep.1 hstep.2) (fun _ _ => trivial) h

lemma busy_setPhase {k : Nat} {f : Flight} (hf : sc.inflight[k]? = some f) {phase : Phase}
    (h : f.phase = .queued ↔ phase = .queued) : (sc.setPhase k f phase).busy = sc.busy := by
  have hmap := map_set_same (g := { f with phase }) hf (fun f => decide (f.phase ≠ .queued)) (by simp [h])
  have hcount : ∀ l : List Flight, (l.countP fun f => f.phase ≠ .queued) =
      (l.map fun f => decide (f.phase ≠ .queued)).count true := by
    intro l
    rw [count, countP_map]
    congr 1
    funext f
    simp
  rw [VtblkSoftc.busy, hcount, VtblkSoftc.busy, hcount]
  exact congrArg _ hmap

/-- A read published under a head whose request has more bytes under way than the read has: once
they are accounted, the thread that takes the read up finds less than nothing left. -/
lemma republished_head_aborts {ram : Ram} {ds : List VringDesc} {k i len : Nat} {f : Flight}
    (iov : Nat → Iovec) (hacc : sc.Accepts ram ds) (hready : sc.ring.vq.ringReady = true)
    (hread : (BlkHdr.load sc.mem (iovAt ram ds 0).base).type = VBH_OP_READ)
    (hf : sc.inflight[k]? = some f) (hmoving : f.phase = .moving i len)
    (hslot : f.slot = sc.ring.vq.head sc.ring.mem)
    (hshort : (chainIo sc.mem ds.length (iovAt ram ds)).resid < len)
    (hidle : sc.busy + sc.lingering < BLOCKIF_NUMTHR) : ∃ sc₁,
    Trace (fun s l t => VtblkStep ram s l (.ok t)) sc [.proc iov, .moved k] sc₁ ∧
      VtblkStep ram sc₁ (.start sc.inflight.length) (.error .resid) := by
  obtain ⟨sc₁, hsub, hmem, heq⟩ := hacc.dispatch iov
  have hroom := hacc.serves.room (.inl hread)
  obtain ⟨hk, -⟩ := List.getElem?_eq_some_iff.mp hf
  set head := sc.ring.vq.head sc.ring.mem with hhead
  let sc₂ : VtblkSoftc := { sc₁ with
    inflight := sc₁.inflight ++ [{ slot := head, op := .read, session := sc₁.session }] }
  have hproc : pciVtblkProc ram iov sc = .ok sc₂ := by
    have hroom₁ : sc₁.inflight.length + sc₁.lingering < BLOCKIF_MAXREQ := by
      rw [hsub.inflight, hsub.lingering]
      exact hroom
    rw [heq, hread]
    exact if_pos hroom₁
  have hstep : VtblkStep ram sc (.proc iov) (.ok sc₂) := hproc ▸ .proc iov hready
  have hf₂ : sc₂.inflight[k]? = some f := by
    change (sc₁.inflight ++ _)[k]? = _
    rw [hsub.inflight, getElem?_append_left hk, hf]
  have hbusy : (blockifMoved sc₂ k f i len).busy = sc.busy := by
    have hset : (blockifMoved sc₂ k f i len).busy = sc₂.busy := by
      have hsame : f.phase = .queued ↔ Phase.running (i + 1) = .queued := by simp [hmoving]
      exact @busy_setPhase (sc₂.setResid f.slot _) k f hf₂ _ hsame
    rw [hset, VtblkSoftc.busy, countP_append, hsub.inflight, VtblkSoftc.busy]
    rfl
  refine ⟨blockifMoved sc₂ k f i len, .cons hstep (.single (.moved hf₂ hmoving)), ?_⟩
  have hnew : (blockifMoved sc₂ k f i len).inflight[sc.inflight.length]? =
      some { slot := head, op := .read, session := sc₁.session } := by
    change (sc₂.inflight.set k _)[sc.inflight.length]? = _
    rw [getElem?_set_ne hk.ne]
    change (sc₁.inflight ++ _)[_]? = _
    rw [hsub.inflight, getElem?_append_right le_rfl, Nat.sub_self]
    rfl
  have hleft : ((blockifMoved sc₂ k f i len).ios head).resid < 0 := by
    change (update sc₁.ios f.slot _ head).resid < 0
    rw [hslot, update_self]
    change (sc₁.ios head).resid - len < 0
    rw [hsub.io_eq]
    omega
  have hthread : (blockifMoved sc₂ k f i len).busy + (blockifMoved sc₂ k f i len).lingering <
      BLOCKIF_NUMTHR := by
    rw [hbusy]
    change sc.busy + sc₁.lingering < _
    rw [hsub.lingering]
    exact hidle
  have habort := @VtblkStep.start ram _ _ _ hnew rfl hthread
  rwa [blockifProc, if_pos hleft] at habort

lemma reset_leaks {ram : Ram} {k : Nat} {f : Flight} {pfn : UInt32}
    (hf : sc.inflight[k]? = some f) (hphase : f.phase ≠ .queued) (hl : sc.lingering < BLOCKIF_NUMTHR)
    (hs : (sc.ios f.slot).status ≠ 0) (hr : (viVqInit ram sc.ring.vq.reset pfn).ringReady = true) :
    ∃ sc', Trace (fun s l t => VtblkStep ram s l (.ok t)) sc [.reset, .setup pfn, .callback k none]
      sc' ∧ .used f.session (sc.session + 1) f.slot ∈ sc'.log := by
  let sc₂ : VtblkSoftc :=
    { sc with
      ring := { sc.ring with vq := viVqInit ram sc.ring.vq.reset pfn }
      session := sc.session + 1 }
  let sc₃ : VtblkSoftc := { sc₂ with inflight := sc₂.inflight.eraseIdx k, lingering := sc₂.lingering + 1 }
  have hs₃ : (sc₃.ios f.slot).status ≠ 0 := hs
  have hu : sc₃.ring.vq.used ≠ 0 := VqueueInfo.used_ne_zero hr
  obtain ⟨sc', hok⟩ := pciVtblkDoneLocked_ok f.session none hs₃ hu
  have hstep : VtblkStep ram sc₂ (.callback k none)
      (pciVtblkDoneLocked sc₃ f.slot f.session none) := .callback none hf hphase hl
  rw [hok] at hstep
  refine ⟨sc', .cons .reset (.cons (.setup pfn) (.single hstep)), ?_⟩
  rw [(pciVtblkDoneLocked_answers hok).log]
  exact mem_append_right _ (mem_cons_of_mem _ mem_cons_self)

/-- One that waits for a thread is taken up first, or another request is under way. -/
lemma reset_leaks_any {ram : Ram} {pfn : UInt32} (hne : sc.inflight ≠ [])
    (hl : sc.lingering < BLOCKIF_NUMTHR) (hs : ∀ f ∈ sc.inflight, (sc.ios f.slot).status ≠ 0)
    (hres : ∀ f ∈ sc.inflight, 0 ≤ (sc.ios f.slot).resid)
    (hr : (viVqInit ram sc.ring.vq.reset pfn).ringReady = true) :
    ∃ f ∈ sc.inflight, ∃ ls sc', Trace (fun s l t => VtblkStep ram s l (.ok t)) sc ls sc' ∧
      .used f.session (sc.session + 1) f.slot ∈ sc'.log := by
  by_cases hbusy : ∃ f ∈ sc.inflight, f.phase ≠ .queued
  · obtain ⟨f, hf, hphase⟩ := hbusy
    obtain ⟨k, hk⟩ := List.getElem?_of_mem hf
    obtain ⟨sc', hrun, hmem⟩ := reset_leaks hk hphase hl (hs f hf) hr
    exact ⟨f, hf, _, sc', hrun, hmem⟩
  · obtain ⟨f, hf⟩ := List.exists_mem_of_ne_nil _ hne
    obtain ⟨k, hk⟩ := List.getElem?_of_mem hf
    obtain ⟨hlt, -⟩ := List.getElem?_eq_some_iff.mp hk
    have hidle : sc.busy = 0 := by
      rw [VtblkSoftc.busy, countP_eq_zero]
      exact fun g hg => by simpa using fun h => hbusy ⟨g, hg, h⟩
    have hqueued : f.phase = .queued := not_not.mp fun h => hbusy ⟨f, hf, h⟩
    have hstart := @VtblkStep.start ram _ _ _ hk hqueued (by omega)
    rw [blockifProc, if_neg (not_lt.mpr (hres f hf))] at hstart
    have hk₁ : (sc.setPhase k f (.running 0)).inflight[k]? =
        some { f with phase := .running 0 } := getElem?_set_self hlt
    obtain ⟨sc', hrun, hmem⟩ := @reset_leaks (sc.setPhase k f (.running 0)) _ _ _ _ hk₁
      (by rintro ⟨⟩) hl (hs f hf) hr
    exact ⟨f, hf, _, sc', .cons hstart hrun, hmem⟩

end

def flushChain : List VringDesc := [⟨8192, 16, 1, 1⟩, ⟨8208, 1, 2, 0⟩]

def flushMem : Store :=
  put (put (put blank 4096
    (leEnc 8 8192 ++ leEnc 4 16 ++ leEnc 2 1 ++ leEnc 2 1 ++
      leEnc 8 8208 ++ leEnc 4 1 ++ leEnc 2 2 ++ leEnc 2 0))
    4130 (leEnc 2 1)) 12288 (leEnc 4 VBH_OP_FLUSH)

def flushing : VtblkSoftc where
  ring := ⟨viVqInit threePages { qsize := 2, maxqsize := 2 } 0, flushMem⟩
  ios _ := {}
  ident := []

lemma flushing_accepts : flushing.Accepts threePages flushChain where
  takes := by decide +kernel
  chain := by
    exact .next_direct (by decide) (by decide +kernel) rfl rfl
      (.last_direct (by decide) (by decide +kernel) rfl rfl)
  two_le := by decide
  length_le := by decide
  header_len := rfl
  header := by decide
  status_len := rfl
  status := by decide
  facing := by decide +kernel
  serves :=
    { ident := by decide +kernel
      discard := by decide +kernel
      room := fun _ => by decide }

lemma flushing_in_flight {sc : VtblkSoftc}
    (h : pciVtblkProc threePages (fun _ => ⟨0, 0⟩) flushing = .ok sc) :
    ∃ op, sc.inflight = [⟨0, op, 0, .queued⟩] ∧ sc.lingering = 0 ∧ sc.session = 0 ∧
    (sc.ios 0).status = 12304 ∧ 0 ≤ (sc.ios 0).resid ∧
    sc.ring.vq.reset = flushing.ring.vq.reset := by
  obtain ⟨sc₁, sc', hok, hsub, he⟩ := flushing_accepts.queues (fun _ => ⟨0, 0⟩)
    (.inr (.inr (.inl (by decide +kernel))))
  obtain rfl : sc' = sc := Except.ok.inj (hok.symm.trans h)
  obtain ⟨op, hop⟩ := he.inflight
  have hhead : flushing.ring.vq.head flushing.ring.mem = 0 := by decide +kernel
  rw [hhead] at hsub he hop
  have hio := hsub.io_eq
  refine ⟨op, ?_, ?_, ?_, ?_, he.resid ?_, he.reset.trans hsub.reset⟩
  · rw [hop, hsub.inflight, hsub.session]
    rfl
  · rw [he.lingering, hsub.lingering]
    rfl
  · rw [he.session, hsub.session]
    rfl
  · rw [he.status, hio]
    decide
  · rw [hio]
    exact chainIo_resid _ _ _

lemma flushing_proc : ∃ sc, VtblkStep threePages flushing (.proc fun _ => ⟨0, 0⟩) (.ok sc) ∧
    pciVtblkProc threePages (fun _ => ⟨0, 0⟩) flushing = .ok sc := by
  obtain ⟨sc, hok⟩ := flushing_accepts.proc (by decide) fun _ => ⟨0, 0⟩
  have hstep : VtblkStep threePages flushing (.proc fun _ => ⟨0, 0⟩)
      (pciVtblkProc threePages (fun _ => ⟨0, 0⟩) flushing) := .proc _ (by decide +kernel)
  exact ⟨sc, hok ▸ hstep, hok⟩

/-- A request of `len` bytes to read under head 0, in available entry `n`. -/
def readMem (n len : Nat) : Store :=
  put (put blank 4096
    (leEnc 8 8192 ++ leEnc 4 16 ++ leEnc 2 1 ++ leEnc 2 1 ++
      leEnc 8 8256 ++ leEnc 4 len ++ leEnc 2 3 ++ leEnc 2 2 ++
      leEnc 8 8208 ++ leEnc 4 1 ++ leEnc 2 2 ++ leEnc 2 0))
    4162 (leEnc 2 n)

def reading : VtblkSoftc where
  ring := ⟨viVqInit threePages { qsize := 4, maxqsize := 4 } 0, readMem 1 512⟩
  ios _ := {}
  ident := []

def okAnd (r : Except Abort VtblkSoftc) (p : VtblkSoftc → Bool) : Bool :=
  match r with
  | .ok sc => p sc
  | .error _ => false

lemma exists_of_okAnd {r : Except Abort VtblkSoftc} {p : VtblkSoftc → Bool} (h : okAnd r p = true) :
    ∃ sc, r = .ok sc ∧ p sc = true := by
  cases r with
  | ok sc => exact ⟨sc, rfl, h⟩
  | error => cases h

/-- A thread moves the 512 bytes of the read, and the guest publishes one of a byte. -/
def underWay (sc : VtblkSoftc) : VtblkSoftc :=
  let sc := sc.setPhase 0 ⟨0, .read, 0, .queued⟩ (.running 0)
  let sc := blockifLen sc 0 ⟨0, .read, 0, .running 0⟩ 0 ⟨12352, 512⟩
  { sc with ring := { sc.ring with mem := readMem 2 1 } }

lemma reading_republished : okAnd (pciVtblkProc threePages (fun _ => ⟨0, 0⟩) reading) (fun sc =>
    decide (sc.inflight = [⟨0, .read, 0, .queued⟩] ∧ sc.lingering = 0 ∧
      (sc.ios 0).iov = [⟨12352, 512⟩] ∧ (sc.ios 0).resid = 512 ∧ sc.ring.vq.ringReady = true) &&
    okAnd (pciVtblkProc threePages (fun _ => ⟨0, 0⟩) (underWay sc)) fun sc =>
      decide (sc.inflight = [⟨0, .read, 0, .moving 0 512⟩, ⟨0, .read, 0, .queued⟩] ∧
        sc.lingering = 0 ∧ (sc.ios 0).resid = 1)) = true := by
  decide +kernel

end ScorpiHv.Virtio

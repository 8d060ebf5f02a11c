import ScorpiHv.Lib.Liveness
import ScorpiHv.Virtio.Block

/-!
# The block request scheduler

Requests wait in a queue for eight workers. One that starts where an earlier one
ends is held back until that one is through. Each locked section is one step.
-/

namespace ScorpiHv.BlockIf
open Function List
open Virtio (BlockOp BLOCKIF_NUMTHR BLOCKIF_MAXREQ)

def OFF_MAX : UInt64 := 0x7FFFFFFFFFFFFFFF

inductive Blockstat where
  | free
  | block
  | pend
  | busy
  | done
  deriving DecidableEq

/-- `struct blockif_elem`; `id` is its place in `bc_reqs`, `req` names the request object, and
`seq` is the number of the request. -/
structure BlockifElem where
  id : Nat
  seq : Nat := 0
  req : Nat := 0
  op : BlockOp := .read
  status : Blockstat := .free
  block : UInt64 := 0
  deriving DecidableEq

/-- Where `blockif_thr` is: on its way to the lock with nothing in hand, in
`pthread_cond_wait`, in `blockif_proc`, or behind it. -/
inductive Worker where
  | ready
  | waiting
  | busy (id : Nat)
  | done (id : Nat)
  deriving DecidableEq

inductive Outcome where
  | callback (seq : Nat)
  | cancelled (seq : Nat)
  deriving DecidableEq

def Outcome.seq : Outcome → Nat
  | .callback seq => seq
  | .cancelled seq => seq

/-- `struct blockif_ctxt` with `br_offset` of every request object; off_t wraps at 2⁶⁴.
`nextSeq` and `log` are history. -/
structure BlockifCtxt where
  offset : Nat → UInt64
  freeq : List BlockifElem
  pendq : List BlockifElem := []
  busyq : List BlockifElem := []
  workers : Fin BLOCKIF_NUMTHR → Worker
  nextSeq : Nat := 0
  log : List Outcome := []

/-- Just after `blockif_open`. -/
def BlockifCtxt.init (offset : Nat → UInt64) : BlockifCtxt where
  offset
  freeq := (List.range BLOCKIF_MAXREQ).reverse.map fun id => { id }
  workers _ := .ready

/-- `TAILQ_REMOVE` -/
def remove (q : List BlockifElem) (be : BlockifElem) : List BlockifElem :=
  q.filter fun e => e.id != be.id

/-- `be_block`: where the request ends. -/
def blockEnd (op : BlockOp) (offset : UInt64) (iov : List UInt64) : UInt64 :=
  match op with
  | .flush => OFF_MAX
  | _ => iov.foldl (· + ·) offset

/-- `blockif_enqueue`; the flag is whether the element is pending. -/
def blockifEnqueue (bc : BlockifCtxt) (req : Nat) (op : BlockOp) (iov : List UInt64) :
    BlockifCtxt × Bool :=
  match bc.freeq with
  | [] => (bc, false)
  | be :: freeq =>
    let blocked := (bc.pendq ++ bc.busyq).any fun tbe => tbe.block == bc.offset req
    let be : BlockifElem :=
      { be with
        seq := bc.nextSeq, req, op
        block := blockEnd op (bc.offset req) iov
        status := if blocked then .block else .pend }
    ({ bc with freeq, pendq := bc.pendq ++ [be], nextSeq := bc.nextSeq + 1 }, !blocked)

def blockifDequeue (bc : BlockifCtxt) : Option (BlockifElem × BlockifCtxt) :=
  match bc.pendq.find? (·.status = .pend) with
  | none => none
  | some be =>
    some (be, { bc with
      pendq := remove bc.pendq be
      busyq := bc.busyq ++ [{ be with status := .busy }] })

/-- The loop over `bc_pendq` in `blockif_complete`. -/
def release (bc : BlockifCtxt) (be : BlockifElem) (q : List BlockifElem) : List BlockifElem :=
  q.map fun tbe => if bc.offset tbe.req = be.block then { tbe with status := .pend } else tbe

def blockifComplete (bc : BlockifCtxt) (be : BlockifElem) : BlockifCtxt :=
  let inBusy := be.status = .done ∨ be.status = .busy
  let busyq := if inBusy then remove bc.busyq be else bc.busyq
  let pendq := if inBusy then bc.pendq else remove bc.pendq be
  { bc with
    busyq
    pendq := release bc be pendq
    freeq := bc.freeq ++ [{ be with status := .free }] }

/-- `pthread_cond_signal` -/
inductive Signals (ws : Fin BLOCKIF_NUMTHR → Worker) : (Fin BLOCKIF_NUMTHR → Worker) → Prop where
  | wake {w : Fin BLOCKIF_NUMTHR} : ws w = .waiting → Signals ws (update ws w .ready)
  | nobody : (∀ w, ws w ≠ .waiting) → Signals ws ws

/-- The locked section of a worker from `blockif_dequeue` on. -/
def workerLoop (bc : BlockifCtxt) (w : Fin BLOCKIF_NUMTHR) : BlockifCtxt :=
  match blockifDequeue bc with
  | some (be, bc) => { bc with workers := update bc.workers w (.busy be.id) }
  | none => { bc with workers := update bc.workers w .waiting }

/-- The end of `blockif_proc`: the element is done and the callback runs. -/
def callback (bc : BlockifCtxt) (w : Fin BLOCKIF_NUMTHR) (be : BlockifElem) : BlockifCtxt :=
  { bc with
    busyq := bc.busyq.map fun e => if e.id = be.id then { e with status := .done } else e
    workers := update bc.workers w (.done be.id)
    log := bc.log ++ [.callback be.seq] }

/-- `blockif_cancel` of a request that is still in the queue, which returns 0. -/
def cancelPending (bc : BlockifCtxt) (be : BlockifElem) : BlockifCtxt :=
  { blockifComplete bc be with log := bc.log ++ [.cancelled be.seq] }

inductive Label where
  | request (req : Nat) (offset : UInt64) (iov : List UInt64) (op : BlockOp)
  | run (w : Fin BLOCKIF_NUMTHR)
  | callback (w : Fin BLOCKIF_NUMTHR)
  | finish (w : Fin BLOCKIF_NUMTHR)
  | cancel (req : Nat)
  | spurious (w : Fin BLOCKIF_NUMTHR)
  | idle

/-- The owner fills a request object in and submits it; it is not waiting or being processed. -/
def Idle (bc : BlockifCtxt) (req : Nat) : Prop :=
  (∀ e ∈ bc.pendq, e.req ≠ req) ∧ ∀ e ∈ bc.busyq, e.status = .busy → e.req ≠ req

inductive Step (bc : BlockifCtxt) : Label → BlockifCtxt → Prop where
  /-- Accepted, and nobody is signalled unless the element is pending. -/
  | accept {req : Nat} {offset : UInt64} {iov : List UInt64} {op : BlockOp}
      {bc₁ : BlockifCtxt} {signal : Bool} {ws : Fin BLOCKIF_NUMTHR → Worker} :
      Idle bc req → bc.freeq ≠ [] →
      blockifEnqueue { bc with offset := update bc.offset req offset } req op iov =
        (bc₁, signal) →
      (if signal then Signals bc.workers ws else ws = bc.workers) →
      Step bc (.request req offset iov op) { bc₁ with workers := ws }
  /-- `E2BIG` -/
  | reject {req : Nat} {offset : UInt64} {iov : List UInt64} {op : BlockOp} :
      Idle bc req → bc.freeq = [] →
      Step bc (.request req offset iov op)
        { bc with offset := update bc.offset req offset }
  | run {w : Fin BLOCKIF_NUMTHR} : bc.workers w = .ready → Step bc (.run w) (workerLoop bc w)
  | callback {w : Fin BLOCKIF_NUMTHR} {be : BlockifElem} : bc.workers w = .busy be.id →
      be ∈ bc.busyq → Step bc (.callback w) (callback bc w be)
  | finish {w : Fin BLOCKIF_NUMTHR} {be : BlockifElem} : bc.workers w = .done be.id →
      be ∈ bc.busyq → Step bc (.finish w) (workerLoop (blockifComplete bc be) w)
  | cancel {req : Nat} {be : BlockifElem} : bc.pendq.find? (·.req = req) = some be →
      Step bc (.cancel req) (cancelPending bc be)
  /-- `EBUSY` or `EINVAL` -/
  | cancelNone {req : Nat} : bc.pendq.find? (·.req = req) = none → Step bc (.cancel req) bc
  | spurious {w : Fin BLOCKIF_NUMTHR} : bc.workers w = .waiting →
      Step bc (.spurious w) { bc with workers := update bc.workers w .ready }
  | idle : Step bc .idle bc

section

variable {q : List BlockifElem} {be e : BlockifElem}

lemma mem_remove : e ∈ remove q be ↔ e ∈ q ∧ e.id ≠ be.id := by
  unfold remove
  rw [mem_filter, bne_iff_ne]

lemma remove_perm (hnd : (q.map (·.id)).Nodup) (hbe : be ∈ q) : q.Perm (be :: remove q be) := by
  induction q with
  | nil => cases hbe
  | cons e q ih =>
    rw [map_cons, nodup_cons] at hnd
    unfold remove
    rcases mem_cons.mp hbe with rfl | hbe
    · have hself : (be.id != be.id) = false := bne_self_eq_false _
      have hall : ∀ e ∈ q, (e.id != be.id) = true := by
        intro e he
        rw [bne_iff_ne]
        exact fun h => hnd.1 (h ▸ mem_map_of_mem he)
      rw [filter_cons_of_neg (by rw [hself]; exact Bool.false_ne_true), filter_eq_self.mpr hall]
    · have hne : (e.id != be.id) = true := by
        rw [bne_iff_ne]
        exact fun h => hnd.1 (h ▸ mem_map_of_mem hbe)
      have hkeep : (e :: q).filter (fun e => e.id != be.id) = e :: remove q be := filter_cons_of_pos hne
      rw [hkeep]
      exact ((ih hnd.2 hbe).cons e).trans (List.Perm.swap _ _ _)

def mark (be e : BlockifElem) : BlockifElem :=
  if e.id = be.id then { e with status := .done } else e

lemma mark_perm (hnd : (q.map (·.id)).Nodup) (hbe : be ∈ q) :
    (q.map (mark be)).Perm ({ be with status := .done } :: remove q be) := by
  have hrest : (remove q be).map (mark be) = remove q be := by
    conv_rhs => rw [← map_id (remove q be)]
    refine map_congr_left fun e he => ?_
    exact if_neg (mem_remove.mp he).2
  have hperm := (remove_perm hnd hbe).map (mark be)
  rw [map_cons, hrest] at hperm
  have hself : mark be be = { be with status := .done } := if_pos rfl
  rwa [hself] at hperm

end

lemma mem_release {bc : BlockifCtxt} {be e : BlockifElem} {q : List BlockifElem}
    (h : e ∈ release bc be q) : ∃ t ∈ q, e.id = t.id ∧ e.seq = t.seq ∧ e.req = t.req ∧
      e.block = t.block ∧ (e.status = .pend ∨ e.status = t.status ∧ bc.offset t.req ≠ be.block) := by
  obtain ⟨t, ht, rfl⟩ := mem_map.mp h
  refine ⟨t, ht, ?_⟩
  split_ifs with heq
  · exact ⟨rfl, rfl, rfl, rfl, .inl rfl⟩
  · exact ⟨rfl, rfl, rfl, rfl, .inr ⟨rfl, heq⟩⟩

lemma release_of_mem (bc : BlockifCtxt) (be : BlockifElem) {t : BlockifElem} {q : List BlockifElem}
    (h : t ∈ q) : ∃ e ∈ release bc be q, e.seq = t.seq ∧ e.block = t.block := by
  refine ⟨_, mem_map_of_mem h, ?_⟩
  split <;> exact ⟨rfl, rfl⟩

lemma release_map {α : Type} (f : BlockifElem → α) (bc : BlockifCtxt) (be : BlockifElem)
    (q : List BlockifElem) (hf : ∀ e s, f { e with status := s } = f e) :
    (release bc be q).map f = q.map f := by
  unfold release
  rw [map_map]
  refine map_congr_left fun e _ => ?_
  rw [Function.comp_apply]
  split
  · exact hf e _
  · rfl

/-- The requests still owed an answer. -/
def live (bc : BlockifCtxt) : List Nat :=
  bc.pendq.map (·.seq) ++ (bc.busyq.filter (·.status = .busy)).map (·.seq)

/-- Another element, enqueued earlier, ends where this one starts. -/
def Blocked (bc : BlockifCtxt) (e : BlockifElem) : Prop :=
  ∃ b ∈ bc.pendq ++ bc.busyq, b.seq < e.seq ∧ b.block = bc.offset e.req

structure QueueInv (bc : BlockifCtxt) : Prop where
  ids : ((bc.freeq ++ bc.pendq ++ bc.busyq).map (·.id)).Perm (List.range BLOCKIF_MAXREQ)
  free : ∀ e ∈ bc.freeq, e.status = .free
  pend : ∀ e ∈ bc.pendq, e.status = .pend ∨ e.status = .block
  busy : ∀ e ∈ bc.busyq, e.status = .busy ∨ e.status = .done
  numbered : ∀ e ∈ bc.pendq ++ bc.busyq, e.seq < bc.nextSeq
  seqs : ((bc.pendq ++ bc.busyq).map (·.seq)).Nodup
  sorted : bc.pendq.Pairwise fun e e' => e.seq < e'.seq
  blocked : ∀ e ∈ bc.pendq, e.status = .block → Blocked bc e
  account : (bc.log.map Outcome.seq ++ live bc).Perm (List.range bc.nextSeq)

namespace QueueInv

variable {bc bc' : BlockifCtxt} {be : BlockifElem}

variable (h : QueueInv bc)
include h

lemma nodup : ((bc.freeq ++ bc.pendq ++ bc.busyq).map (·.id)).Nodup :=
  h.ids.nodup_iff.mpr nodup_range

lemma pend_nodup : (bc.pendq.map (·.id)).Nodup := by
  have hnd := h.nodup
  simp only [map_append, nodup_append] at hnd
  exact hnd.1.2.1

lemma busy_nodup : (bc.busyq.map (·.id)).Nodup := by
  have hnd := h.nodup
  simp only [map_append, nodup_append] at hnd
  exact hnd.2.1

lemma id_ne {e e' : BlockifElem} (he : e ∈ bc.pendq) (he' : e' ∈ bc.busyq) : e.id ≠ e'.id := by
  have hnd := h.nodup
  simp only [map_append, nodup_append] at hnd
  exact hnd.2.2 e.id (mem_append_right _ (mem_map_of_mem he)) e'.id (mem_map_of_mem he')

lemma id_inj {e e' : BlockifElem} (he : e ∈ bc.pendq ++ bc.busyq)
    (he' : e' ∈ bc.pendq ++ bc.busyq) (hid : e.id = e'.id) : e = e' := by
  have hnd : ((bc.pendq ++ bc.busyq).map (·.id)).Nodup := by
    have hnd := h.nodup
    rw [append_assoc, map_append, nodup_append] at hnd
    exact hnd.2.1
  exact inj_on_of_nodup_map hnd he he' hid

lemma setOffset {req : Nat} (hidle : Idle bc req) (offset : UInt64) :
    QueueInv { bc with offset := update bc.offset req offset } where
  ids := h.ids
  free := h.free
  pend := h.pend
  busy := h.busy
  numbered := h.numbered
  seqs := h.seqs
  sorted := h.sorted
  account := h.account
  blocked e he hs := by
    obtain ⟨b, hb, hlt, heq⟩ := h.blocked e he hs
    refine ⟨b, hb, hlt, ?_⟩
    change b.block = update bc.offset req offset e.req
    rw [update_of_ne (hidle.1 e he)]
    exact heq

lemma setWorkers (ws : Fin BLOCKIF_NUMTHR → Worker) : QueueInv { bc with workers := ws } :=
  ⟨h.ids, h.free, h.pend, h.busy, h.numbered, h.seqs, h.sorted, h.blocked, h.account⟩

lemma ids_of_count {free pend busy : List BlockifElem}
    (hc : ∀ i, ((free ++ pend ++ busy).map (·.id)).count i =
      ((bc.freeq ++ bc.pendq ++ bc.busyq).map (·.id)).count i) :
    ((free ++ pend ++ busy).map (·.id)).Perm (List.range BLOCKIF_MAXREQ) :=
  (perm_iff_count.mpr hc).trans h.ids

lemma enqueue {req : Nat} {op : BlockOp} {iov : List UInt64} {signal : Bool} (hfree : bc.freeq ≠ [])
    (heq : blockifEnqueue bc req op iov = (bc', signal)) : QueueInv bc' := by
  obtain ⟨be, free, hcons⟩ := exists_cons_of_ne_nil hfree
  unfold blockifEnqueue at heq
  rw [hcons] at heq
  cases heq
  generalize hblocked : (bc.pendq ++ bc.busyq).any (fun tbe => tbe.block == bc.offset req) = blocked
  refine
    { ids := ?_
      free := fun e he => h.free e (hcons ▸ mem_cons_of_mem _ he)
      pend := fun e he => ?_
      busy := h.busy
      numbered := fun e he => ?_
      seqs := ?_
      sorted := ?_
      blocked := fun e he hs => ?_
      account := ?_ }
  · refine h.ids_of_count fun i => ?_
    rw [hcons]
    simp only [map_append, map_cons, map_nil, count_append, count_cons, count_nil]
    omega
  · rcases mem_append.mp he with he | he
    · exact h.pend e he
    rw [mem_singleton.mp he]
    cases blocked
    · exact .inl rfl
    · exact .inr rfl
  · rcases mem_append.mp he with he | he
    · rcases mem_append.mp he with he | he
      · exact Nat.lt_succ_of_lt (h.numbered e (mem_append_left _ he))
      · rw [mem_singleton.mp he]
        exact Nat.lt_succ_self _
    · exact Nat.lt_succ_of_lt (h.numbered e (mem_append_right _ he))
  · have hfresh : bc.nextSeq ∉ (bc.pendq ++ bc.busyq).map (·.seq) := by
      intro hmem
      obtain ⟨e, he, hseq⟩ := mem_map.mp hmem
      exact absurd (h.numbered e he) (by omega)
    have hnd := nodup_cons.mpr ⟨hfresh, h.seqs⟩
    refine (List.Perm.nodup_iff ?_).mpr hnd
    rw [perm_iff_count]
    intro i
    simp only [map_append, map_cons, map_nil, count_append, count_cons, count_nil]
    omega
  · refine pairwise_append.mpr ⟨h.sorted, pairwise_singleton _ _, fun e he e' he' => ?_⟩
    rw [mem_singleton.mp he']
    exact h.numbered e (mem_append_left _ he)
  · have hsub : ∀ b ∈ bc.pendq ++ bc.busyq, ∀ be', b ∈ (bc.pendq ++ [be']) ++ bc.busyq := by
      intro b hb be'
      rcases mem_append.mp hb with hb | hb
      · exact mem_append_left _ (mem_append_left _ hb)
      · exact mem_append_right _ hb
    rcases mem_append.mp he with he | he
    · obtain ⟨b, hb, hlt, hend⟩ := h.blocked e he hs
      exact ⟨b, hsub b hb _, hlt, hend⟩
    rw [mem_singleton.mp he] at hs ⊢
    cases hb : blocked with
    | false => rw [hb] at hs; cases hs
    | true =>
      rw [hb] at hblocked
      obtain ⟨b, hmem, hend⟩ := any_eq_true.mp hblocked
      exact ⟨b, hsub b hmem _, h.numbered b hmem, beq_iff_eq.mp hend⟩
  · refine perm_iff_count.mpr fun i => ?_
    have hi := h.account.count_eq i
    simp only [live, range_succ, map_append, map_cons, map_nil, count_append] at hi ⊢
    omega

lemma dequeue (heq : blockifDequeue bc = some (be, bc')) : QueueInv bc' := by
  unfold blockifDequeue at heq
  split at heq
  · cases heq
  next be' hfind =>
  cases heq
  have hmem := mem_of_find?_eq_some hfind
  have hperm := remove_perm h.pend_nodup hmem
  have hsub : ∀ e ∈ remove bc.pendq be, e ∈ bc.pendq := fun e he => (mem_remove.mp he).1
  refine
    { ids := h.ids_of_count fun i => ?_
      free := h.free
      pend := fun e he => h.pend e (hsub e he)
      busy := fun e he => ?_
      numbered := fun e he => ?_
      seqs := ?_
      sorted := h.sorted.sublist filter_sublist
      blocked := fun e he hs => ?_
      account := ?_ }
  · have hi := (hperm.map (·.id)).count_eq i
    simp only [map_append, map_cons, map_nil, count_append, count_cons, count_nil] at hi ⊢
    omega
  · rcases mem_append.mp he with he | he
    · exact h.busy e he
    · rw [mem_singleton.mp he]
      exact .inl rfl
  · rcases mem_append.mp he with he | he
    · exact h.numbered e (mem_append_left _ (hsub e he))
    rcases mem_append.mp he with he | he
    · exact h.numbered e (mem_append_right _ he)
    · rw [mem_singleton.mp he]
      exact h.numbered be (mem_append_left _ hmem)
  · refine (List.Perm.nodup_iff ?_).mpr h.seqs
    rw [perm_iff_count]
    intro i
    have hi := (hperm.map (·.seq)).count_eq i
    simp only [map_append, map_cons, map_nil, count_append, count_cons, count_nil] at hi ⊢
    omega
  · obtain ⟨b, hb, hlt, hend⟩ := h.blocked e (hsub e he) hs
    by_cases hid : b.id = be.id
    · -- The blocker is the element that moved to the busy queue.
      have hbe := h.id_inj hb (mem_append_left _ hmem) hid
      refine ⟨{ be with status := .busy }, ?_, hbe ▸ hlt, hbe ▸ hend⟩
      exact mem_append_right _ (mem_append_right _ mem_cons_self)
    · refine ⟨b, ?_, hlt, hend⟩
      rcases mem_append.mp hb with hb | hb
      · exact mem_append_left _ (mem_remove.mpr ⟨hb, hid⟩)
      · exact mem_append_right _ (mem_append_left _ hb)
  · refine perm_iff_count.mpr fun i => ?_
    have hi := h.account.count_eq i
    have hp := (hperm.map (·.seq)).count_eq i
    simp only [live, map_append, map_cons, map_nil, count_append, count_cons, count_nil,
      filter_append, filter_cons, filter_nil, decide_true, if_true] at hi hp ⊢
    omega

lemma callback {w : Fin BLOCKIF_NUMTHR} (hbe : be ∈ bc.busyq)
    (hs : be.status = .busy) : QueueInv (callback bc w be) := by
  have hperm := remove_perm h.busy_nodup hbe
  have hmark : (bc.busyq.map (mark be)).Perm ({ be with status := .done } :: remove bc.busyq be) :=
    mark_perm h.busy_nodup hbe
  have hmem : ∀ {e}, e ∈ (BlockIf.callback bc w be).busyq → e = { be with status := .done } ∨
      e ∈ remove bc.busyq be := fun he => mem_cons.mp (hmark.mem_iff.mp he)
  refine
    { ids := h.ids_of_count fun i => ?_
      free := h.free
      pend := h.pend
      busy := fun e he => ?_
      numbered := fun e he => ?_
      seqs := ?_
      sorted := h.sorted
      blocked := fun e he hst => ?_
      account := ?_ }
  · have hi := (hperm.map (·.id)).count_eq i
    have hi' := (hmark.map (·.id)).count_eq i
    change List.count i ((bc.freeq ++ bc.pendq ++ bc.busyq.map (mark be)).map (·.id)) = _
    simp only [map_append, map_cons, count_append] at hi hi' ⊢
    omega
  · rcases hmem he with rfl | he
    · exact .inr rfl
    · exact h.busy e (mem_remove.mp he).1
  · rcases mem_append.mp he with he | he
    · exact h.numbered e (mem_append_left _ he)
    rcases hmem he with rfl | he
    · exact h.numbered be (mem_append_right _ hbe)
    · exact h.numbered e (mem_append_right _ (mem_remove.mp he).1)
  · have hsame : (BlockIf.callback bc w be).busyq.map (·.seq) = bc.busyq.map (·.seq) := by
      change (bc.busyq.map (mark be)).map (·.seq) = _
      rw [map_map]
      refine map_congr_left fun e _ => ?_
      rw [Function.comp_apply, mark]
      split <;> rfl
    rw [map_append, hsame, ← map_append]
    exact h.seqs
  · obtain ⟨b, hb, hlt, hend⟩ := h.blocked e he hst
    rcases mem_append.mp hb with hb | hb
    · exact ⟨b, mem_append_left _ hb, hlt, hend⟩
    refine ⟨mark be b, mem_append_right _ (mem_map_of_mem hb), ?_, ?_⟩
    · unfold mark
      split <;> exact hlt
    · unfold mark
      split <;> exact hend
  · refine perm_iff_count.mpr fun i => ?_
    have hi := h.account.count_eq i
    have hp := ((hperm.filter (·.status = .busy)).map (·.seq)).count_eq i
    have hp' := ((hmark.filter (·.status = .busy)).map (·.seq)).count_eq i
    change List.count i ((bc.log ++ [Outcome.callback be.seq]).map Outcome.seq ++
      (bc.pendq.map (·.seq) ++ ((bc.busyq.map (mark be)).filter (·.status = .busy)).map (·.seq))) =
      List.count i (List.range bc.nextSeq)
    simp only [live, hs, map_append, map_cons, map_nil, count_append,
      count_cons, count_nil, filter_cons, decide_true, if_true, Outcome.seq,
      reduceCtorEq, decide_false, Bool.false_eq_true, if_false] at hi hp hp' ⊢
    omega

lemma remove_pend_of_busy (hbe : be ∈ bc.busyq) : remove bc.pendq be = bc.pendq :=
  filter_eq_self.mpr fun _ he => bne_iff_ne.mpr (h.id_ne he hbe)

lemma remove_busy_of_pend (hbe : be ∈ bc.pendq) : remove bc.busyq be = bc.busyq :=
  filter_eq_self.mpr fun _ he => bne_iff_ne.mpr (h.id_ne hbe he).symm

lemma complete_eq (hbe : be ∈ bc.pendq ++ bc.busyq) :
    blockifComplete bc be = { bc with
      busyq := remove bc.busyq be
      pendq := release bc be (remove bc.pendq be)
      freeq := bc.freeq ++ [{ be with status := .free }] } := by
  unfold blockifComplete
  rcases mem_append.mp hbe with hbe | hbe
  · have hs : ¬ (be.status = .done ∨ be.status = .busy) := by
      rcases h.pend be hbe with hs | hs <;> rw [hs] <;> decide
    dsimp only
    rw [if_neg hs, if_neg hs, h.remove_busy_of_pend hbe]
  · have hs : be.status = .done ∨ be.status = .busy := (h.busy be hbe).symm
    dsimp only
    rw [if_pos hs, if_pos hs, h.remove_pend_of_busy hbe]

lemma complete (hbe : be ∈ bc.pendq ++ bc.busyq) {log : List Outcome}
    (hacc : (log.map Outcome.seq ++ live (blockifComplete bc be)).Perm (List.range bc.nextSeq)) :
    QueueInv { blockifComplete bc be with log } := by
  rw [h.complete_eq hbe] at hacc ⊢
  have hnd : ((bc.pendq ++ bc.busyq).map (·.id)).Nodup := by
    have hnd := h.nodup
    rw [append_assoc, map_append, nodup_append] at hnd
    exact hnd.2.1
  have hperm := remove_perm hnd hbe
  have hsplit : remove (bc.pendq ++ bc.busyq) be = remove bc.pendq be ++ remove bc.busyq be :=
    filter_append _ _
  rw [hsplit] at hperm
  refine
    { ids := h.ids_of_count fun i => ?_
      free := fun e he => ?_
      pend := fun e he => ?_
      busy := fun e he => h.busy e (mem_remove.mp he).1
      numbered := fun e he => ?_
      seqs := ?_
      sorted := ?_
      blocked := fun e he hs => ?_
      account := hacc }
  · have hi := (hperm.map (·.id)).count_eq i
    have hids := release_map (·.id) bc be (remove bc.pendq be) fun _ _ => rfl
    simp only [map_append, map_cons, map_nil, count_append, count_cons, count_nil, hids] at hi ⊢
    omega
  · rcases mem_append.mp he with he | he
    · exact h.free e he
    · rw [mem_singleton.mp he]
  · obtain ⟨t, ht, -, -, -, -, hs | ⟨hs, -⟩⟩ := mem_release he
    · exact .inl hs
    · rw [hs]
      exact h.pend t (mem_remove.mp ht).1
  · rcases mem_append.mp he with he | he
    · obtain ⟨t, ht, -, hseq, -⟩ := mem_release he
      rw [hseq]
      exact h.numbered t (mem_append_left _ (mem_remove.mp ht).1)
    · exact h.numbered e (mem_append_right _ (mem_remove.mp he).1)
  · have hseq := release_map (·.seq) bc be (remove bc.pendq be) fun _ _ => rfl
    rw [map_append, hseq, ← map_append, ← hsplit]
    exact h.seqs.sublist (filter_sublist.map _)
  · have hold : (remove bc.pendq be).Pairwise fun e e' => e.seq < e'.seq := h.sorted.sublist filter_sublist
    have hseq := release_map (·.seq) bc be (remove bc.pendq be) fun _ _ => rfl
    have hmap : ((remove bc.pendq be).map (·.seq)).Pairwise (· < ·) := pairwise_map.mpr hold
    rw [← hseq] at hmap
    exact pairwise_map.mp hmap
  · -- An element that stays blocked does not start where `be` ends, so its blocker is another.
    obtain ⟨t, ht, -, hseq, hreq, -, hst⟩ := mem_release he
    obtain ⟨hst, hoff⟩ := hst.resolve_left (by rw [hs]; decide)
    obtain ⟨b, hb, hlt, hend⟩ := h.blocked t (mem_remove.mp ht).1 (hst ▸ hs)
    have hid : b.id ≠ be.id := by
      intro hid
      rw [h.id_inj hb hbe hid] at hend
      exact hoff hend.symm
    rw [Blocked, hseq, hreq]
    rcases mem_append.mp hb with hb | hb
    · obtain ⟨b', hb', hseq', hblock'⟩ := release_of_mem bc be (mem_remove.mpr ⟨hb, hid⟩)
      exact ⟨b', mem_append_left _ hb', hseq' ▸ hlt, hblock' ▸ hend⟩
    · exact ⟨b, mem_append_right _ (mem_remove.mpr ⟨hb, hid⟩), hlt, hend⟩

lemma cancel (hbe : be ∈ bc.pendq) : QueueInv (cancelPending bc be) := by
  refine h.complete (mem_append_left _ hbe) ?_
  rw [h.complete_eq (mem_append_left _ hbe)]
  have hperm := remove_perm h.pend_nodup hbe
  refine perm_iff_count.mpr fun i => ?_
  have hi := h.account.count_eq i
  have hp := (hperm.map (·.seq)).count_eq i
  have hseq := release_map (·.seq) bc be (remove bc.pendq be) fun _ _ => rfl
  simp only [live, hseq, h.remove_busy_of_pend hbe, map_append, map_cons, map_nil,
    count_append, count_cons, count_nil, Outcome.seq] at hi hp ⊢
  omega

lemma retire (hbe : be ∈ bc.busyq) (hs : be.status = .done) : QueueInv (blockifComplete bc be) := by
  have hacc : (bc.log.map Outcome.seq ++ live (blockifComplete bc be)).Perm
      (List.range bc.nextSeq) := by
    rw [h.complete_eq (mem_append_right _ hbe)]
    have hperm := remove_perm h.busy_nodup hbe
    refine perm_iff_count.mpr fun i => ?_
    have hi := h.account.count_eq i
    have hp := ((hperm.filter (·.status = .busy)).map (·.seq)).count_eq i
    have hseq := release_map (·.seq) bc be bc.pendq fun _ _ => rfl
    simp only [live, hseq, hs, h.remove_pend_of_busy hbe, count_append, filter_cons,
      reduceCtorEq, decide_false, Bool.false_eq_true, if_false] at hi hp ⊢
    omega
  have hcomplete := h.complete (mem_append_right _ hbe) hacc
  exact hcomplete

end QueueInv

def Worker.held : Worker → Option Nat
  | .busy id => some id
  | .done id => some id
  | _ => none

def Worker.stage : Worker → Blockstat
  | .done _ => .done
  | _ => .busy

/-- Workers and busy elements are matched, and there is work only while somebody is awake. -/
structure WorkerInv (bc : BlockifCtxt) : Prop where
  holds : ∀ w id, (bc.workers w).held = some id →
    ∃ e ∈ bc.busyq, e.id = id ∧ e.status = (bc.workers w).stage
  owned : ∀ e ∈ bc.busyq, ∃ w, (bc.workers w).held = some e.id
  distinct : ∀ w w' id, (bc.workers w).held = some id → (bc.workers w').held = some id → w = w'
  awake : bc.pendq ++ bc.busyq ≠ [] → ∃ w, bc.workers w ≠ .waiting

lemma WorkerInv.assign {bc bc' : BlockifCtxt} (h : WorkerInv bc) {w : Fin BLOCKIF_NUMTHR}
    {v : Worker} (hws : bc'.workers = update bc.workers w v)
    (hkeep : ∀ e ∈ bc.busyq, (bc.workers w).held ≠ some e.id → e ∈ bc'.busyq)
    (hnew : ∀ e ∈ bc'.busyq,
      e ∈ bc.busyq ∧ (bc.workers w).held ≠ some e.id ∨ v.held = some e.id)
    (hheld : ∀ id, v.held = some id → (∃ e ∈ bc'.busyq, e.id = id ∧ e.status = v.stage) ∧
      ∀ w', w' ≠ w → (bc.workers w').held ≠ some id)
    (hawake : bc'.pendq ++ bc'.busyq ≠ [] → v ≠ .waiting ∨ ∃ w', w' ≠ w ∧ bc.workers w' ≠ .waiting) :
    WorkerInv bc' := by
  have hself : bc'.workers w = v := by rw [hws, update_self]
  have hother : ∀ w', w' ≠ w → bc'.workers w' = bc.workers w' := by
    intro w' hne
    rw [hws, update_of_ne hne]
  refine ⟨fun w' id hid => ?_, fun e he => ?_, fun w₁ w₂ id h₁ h₂ => ?_, fun hsome => ?_⟩
  · by_cases hne : w' = w
    · subst hne
      rw [hself] at hid ⊢
      exact (hheld id hid).1
    · rw [hother w' hne] at hid ⊢
      obtain ⟨e, he, heid, hs⟩ := h.holds w' id hid
      refine ⟨e, hkeep e he fun hw => hne ?_, heid, hs⟩
      exact h.distinct w' w id hid (heid ▸ hw)
  · rcases hnew e he with ⟨hold, hw⟩ | hv
    · obtain ⟨w', hw'⟩ := h.owned e hold
      have hne : w' ≠ w := fun heq => hw (heq ▸ hw')
      exact ⟨w', by rw [hother w' hne]; exact hw'⟩
    · exact ⟨w, by rw [hself]; exact hv⟩
  · by_cases e₁ : w₁ = w
    · by_cases e₂ : w₂ = w
      · rw [e₁, e₂]
      rw [e₁, hself] at h₁
      rw [hother w₂ e₂] at h₂
      exact absurd h₂ ((hheld id h₁).2 w₂ e₂)
    · by_cases e₂ : w₂ = w
      · rw [e₂, hself] at h₂
        rw [hother w₁ e₁] at h₁
        exact absurd h₁ ((hheld id h₂).2 w₁ e₁)
      · rw [hother w₁ e₁] at h₁
        rw [hother w₂ e₂] at h₂
        exact h.distinct w₁ w₂ id h₁ h₂
  · rcases hawake hsome with hv | ⟨w', hne, hw'⟩
    · exact ⟨w, by rw [hself]; exact hv⟩
    · exact ⟨w', by rw [hother w' hne]; exact hw'⟩

lemma WorkerInv.setPend {bc bc' : BlockifCtxt} (h : WorkerInv bc)
    (hbusy : bc'.busyq = bc.busyq) (hws : bc'.workers = bc.workers)
    (hawake : bc'.pendq ++ bc'.busyq ≠ [] → ∃ w, bc.workers w ≠ .waiting) : WorkerInv bc' where
  holds := by rw [hws, hbusy]; exact h.holds
  owned := by rw [hws, hbusy]; exact h.owned
  distinct := by rw [hws]; exact h.distinct
  awake := by rw [hws]; exact hawake

structure Inv (bc : BlockifCtxt) : Prop extends QueueInv bc, WorkerInv bc

lemma workerLoop_ready (bc : BlockifCtxt) (w : Fin BLOCKIF_NUMTHR) :
    workerLoop { bc with workers := update bc.workers w .ready } w = workerLoop bc w := by
  unfold workerLoop blockifDequeue
  cases bc.pendq.find? (·.status = .pend) with
  | none | some => simp only [update_idem]

namespace Inv

variable {bc bc' : BlockifCtxt} {be : BlockifElem} {w : Fin BLOCKIF_NUMTHR}

lemma status_of_held (h : Inv bc) (hbe : be ∈ bc.busyq)
    (hw : (bc.workers w).held = some be.id) : be.status = (bc.workers w).stage := by
  obtain ⟨e, he, hid, hs⟩ := h.holds w be.id hw
  rw [← h.id_inj (mem_append_right _ he) (mem_append_right _ hbe) hid]
  exact hs

lemma rest (h : WorkerInv bc) {v : Worker} (hw : (bc.workers w).held = none) (hv : v.held = none)
    (hawake : bc.pendq ++ bc.busyq ≠ [] → v ≠ .waiting ∨ ∃ w', w' ≠ w ∧ bc.workers w' ≠ .waiting) :
    WorkerInv { bc with workers := update bc.workers w v } := by
  refine h.assign rfl (fun e he _ => he) (fun e he => .inl ⟨he, ?_⟩) (fun id hid => ?_) hawake
  · rw [hw]
    exact (Option.some_ne_none _).symm
  · rw [hv] at hid
    cases hid

section
variable (h : Inv bc)
include h

lemma wake (hw : bc.workers w = .waiting) : WorkerInv { bc with workers := update bc.workers w .ready } :=
  rest h.toWorkerInv (by rw [hw]; rfl) rfl fun _ => .inl Worker.noConfusion

lemma signal {ws : Fin BLOCKIF_NUMTHR → Worker} (hsig : Signals bc.workers ws) :
    WorkerInv { bc with workers := ws } ∧ ∃ w, ws w ≠ .waiting := by
  cases hsig with
  | @wake w hw =>
    refine ⟨h.wake hw, w, ?_⟩
    rw [update_self]
    exact Worker.noConfusion
  | nobody hall => exact ⟨h.toWorkerInv, ⟨0, by decide⟩, hall _⟩

lemma accept {req : Nat} {op : BlockOp} {iov : List UInt64} {signal : Bool}
    {ws : Fin BLOCKIF_NUMTHR → Worker} (hfree : bc.freeq ≠ [])
    (heq : blockifEnqueue bc req op iov = (bc', signal))
    (hsig : if signal then Signals bc.workers ws else ws = bc.workers) :
    Inv { bc' with workers := ws } := by
  have hq := h.toQueueInv.enqueue hfree heq
  refine ⟨hq.setWorkers _, ?_⟩
  obtain ⟨be, free, hcons⟩ := exists_cons_of_ne_nil hfree
  unfold blockifEnqueue at heq
  rw [hcons] at heq
  cases heq
  cases hblocked : (bc.pendq ++ bc.busyq).any fun tbe => tbe.block == bc.offset req with
  | false =>
    rw [hblocked, Bool.not_false, if_pos rfl] at hsig
    obtain ⟨hw, hawake⟩ := h.signal hsig
    exact hw.setPend rfl rfl fun _ => hawake
  | true =>
    -- Nobody is signalled, but whoever it waits for is somebody's work.
    rw [hblocked, Bool.not_true, if_neg Bool.false_ne_true] at hsig
    obtain ⟨b, hb, -⟩ := any_eq_true.mp hblocked
    have hawake := h.awake (ne_nil_of_mem hb)
    subst hsig
    exact h.toWorkerInv.setPend rfl rfl fun _ => hawake

lemma busy_of_none (hnone : blockifDequeue bc = none)
    (hsome : bc.pendq ++ bc.busyq ≠ []) : ∃ e, e ∈ bc.busyq := by
  have hpend : ∀ e ∈ bc.pendq, e.status ≠ .pend := by
    unfold blockifDequeue at hnone
    split at hnone
    next hfind =>
      intro e he
      simpa using List.find?_eq_none.mp hfind e he
    · cases hnone
  by_contra hbusy
  have hnil : bc.busyq = [] := eq_nil_iff_forall_not_mem.mpr fun e he => hbusy ⟨e, he⟩
  rw [hnil, append_nil] at hsome
  obtain ⟨e, q, hq⟩ := exists_cons_of_ne_nil hsome
  have he : e ∈ bc.pendq := hq ▸ mem_cons_self
  have hs := (h.pend e he).resolve_left (hpend e he)
  obtain ⟨b, hb, hlt, -⟩ := h.blocked e he hs
  rw [hnil, append_nil, hq] at hb
  have hsorted := h.sorted
  rw [hq, pairwise_cons] at hsorted
  rcases mem_cons.mp hb with rfl | hb
  · exact lt_irrefl _ hlt
  · exact lt_asymm hlt (hsorted.1 b hb)

lemma loop (hw : bc.workers w = .ready) : Inv (workerLoop bc w) := by
  unfold workerLoop
  split
  next be bc' heq =>
    have hq := h.toQueueInv.dequeue heq
    refine ⟨hq.setWorkers _, ?_⟩
    unfold blockifDequeue at heq
    split at heq
    · cases heq
    next hfind =>
    cases heq
    have hmem := mem_of_find?_eq_some hfind
    refine h.toWorkerInv.assign rfl (fun e he _ => mem_append_left _ he) (fun e he => ?_)
      (fun id hid => ?_) fun _ => .inl Worker.noConfusion
    · rcases mem_append.mp he with he | he
      · refine .inl ⟨he, ?_⟩
        rw [hw]
        exact (Option.some_ne_none _).symm
      · rw [mem_singleton.mp he]
        exact .inr rfl
    · cases hid
      refine ⟨⟨_, mem_append_right _ mem_cons_self, rfl, rfl⟩, fun w' _ hw' => ?_⟩
      obtain ⟨e, he, hid, -⟩ := h.holds w' be.id hw'
      exact h.id_ne hmem he hid.symm
  next hnone =>
    refine ⟨h.toQueueInv.setWorkers _, ?_⟩
    refine rest h.toWorkerInv (by rw [hw]; rfl) rfl fun hsome => .inr ?_
    obtain ⟨e, he⟩ := h.busy_of_none hnone hsome
    obtain ⟨w', hw'⟩ := h.owned e he
    refine ⟨w', fun heq => ?_, fun hwait => ?_⟩
    · rw [heq, hw] at hw'
      cases hw'
    · rw [hwait] at hw'
      cases hw'

lemma called (hw : bc.workers w = .busy be.id) (hbe : be ∈ bc.busyq) : Inv (callback bc w be) := by
  have hheld : (bc.workers w).held = some be.id := by rw [hw]; rfl
  have hs : be.status = .busy := by
    rw [h.status_of_held hbe hheld, hw]
    rfl
  refine ⟨h.toQueueInv.callback hbe hs, ?_⟩
  refine h.toWorkerInv.assign rfl (fun e he hne => ?_) (fun e he => ?_) (fun id hid => ?_)
    fun _ => .inl Worker.noConfusion
  · rw [hheld] at hne
    refine mem_map.mpr ⟨e, he, if_neg fun hid => hne ?_⟩
    rw [hid]
  · obtain ⟨t, ht, rfl⟩ := mem_map.mp he
    split
    next hid => exact .inr (congrArg some hid.symm)
    next hid =>
      refine .inl ⟨ht, ?_⟩
      rw [hheld]
      exact fun heq => hid (Option.some.inj heq).symm
  · cases hid
    refine ⟨⟨{ be with status := .done }, ?_, rfl, rfl⟩, fun w' hne hw' => ?_⟩
    · exact mem_map.mpr ⟨be, hbe, if_pos rfl⟩
    · exact hne (h.distinct w' w be.id hw' hheld)

lemma putDown (hw : bc.workers w = .done be.id) (hbe : be ∈ bc.busyq) :
    Inv { blockifComplete bc be with workers := update bc.workers w .ready } := by
  have hheld : (bc.workers w).held = some be.id := by rw [hw]; rfl
  have hs : be.status = .done := by
    rw [h.status_of_held hbe hheld, hw]
    rfl
  have hq := h.toQueueInv.retire hbe hs
  refine ⟨hq.setWorkers _, ?_⟩
  rw [h.complete_eq (mem_append_right _ hbe)]
  refine h.toWorkerInv.assign rfl (fun e he hne => ?_) (fun e he => .inl ?_) (fun id hid => ?_)
    fun _ => .inl Worker.noConfusion
  · rw [hheld] at hne
    exact mem_remove.mpr ⟨he, fun hid => hne (congrArg some hid.symm)⟩
  · obtain ⟨he, hid⟩ := mem_remove.mp he
    refine ⟨he, ?_⟩
    rw [hheld]
    exact fun heq => hid (Option.some.inj heq).symm
  · cases hid

lemma finish (hw : bc.workers w = .done be.id) (hbe : be ∈ bc.busyq) :
    Inv (workerLoop (blockifComplete bc be) w) := by
  have hws : (blockifComplete bc be).workers = bc.workers := rfl
  have hloop := (h.putDown hw hbe).loop (w := w) (update_self ..)
  rwa [← hws, workerLoop_ready] at hloop

lemma cancelled (hbe : be ∈ bc.pendq) : Inv (cancelPending bc be) := by
  refine ⟨h.toQueueInv.cancel hbe, ?_⟩
  have hmem := mem_append_left bc.busyq hbe
  refine h.toWorkerInv.setPend ?_ ?_ fun _ => h.awake (ne_nil_of_mem hmem)
  · rw [cancelPending, h.complete_eq hmem]
    exact h.remove_busy_of_pend hbe
  · rw [cancelPending, h.complete_eq hmem]

lemma setOffset {req : Nat} (hidle : Idle bc req) (offset : UInt64) :
    Inv { bc with offset := update bc.offset req offset } :=
  ⟨h.toQueueInv.setOffset hidle offset, h.toWorkerInv.setPend rfl rfl h.awake⟩

end

lemma init (offset : Nat → UInt64) : Inv (.init offset) where
  ids := by
    have hids : (BlockifCtxt.init offset).freeq.map (·.id) = (List.range BLOCKIF_MAXREQ).reverse := by
      rw [BlockifCtxt.init, map_map]
      exact map_id _
    have hall : (BlockifCtxt.init offset).freeq ++ [] ++ [] = (BlockifCtxt.init offset).freeq := by
      rw [append_nil, append_nil]
    exact (congrArg (List.map BlockifElem.id) hall).trans hids ▸ reverse_perm _
  free e he := by
    obtain ⟨i, -, rfl⟩ := mem_map.mp he
    rfl
  pend e he := by cases he
  busy e he := by cases he
  numbered e he := by cases he
  seqs := nodup_nil
  sorted := List.Pairwise.nil
  blocked e he := by cases he
  account := List.Perm.refl _
  holds w id h := by cases h
  owned e he := by cases he
  distinct w w' id h := by cases h
  awake h := absurd rfl h

lemma step {l : Label} (h : Inv bc) (hstep : Step bc l bc') : Inv bc' := by
  cases hstep with
  | accept hidle hfree heq hsig => exact (h.setOffset hidle _).accept hfree heq hsig
  | reject hidle => exact h.setOffset hidle _
  | run hw => exact h.loop hw
  | callback hw hbe => exact h.called hw hbe
  | finish hw hbe => exact h.finish hw hbe
  | cancel hfind => exact h.cancelled (mem_of_find?_eq_some hfind)
  | cancelNone => exact h
  | spurious hw => exact ⟨h.toQueueInv.setWorkers _, h.wake hw⟩
  | idle => exact h

end Inv

end ScorpiHv.BlockIf

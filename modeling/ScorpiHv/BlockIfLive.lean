import ScorpiHv.BlockIf

/-!
# Every request is answered

With fair workers nothing holds the oldest request back, so a free worker takes it.
-/

namespace ScorpiHv.BlockIf
open Function List
open Virtio (BlockOp BLOCKIF_NUMTHR BLOCKIF_MAXREQ)

def Label.worker : Label → Option (Fin BLOCKIF_NUMTHR)
  | .run w => some w
  | .callback w => some w
  | .finish w => some w
  | _ => none

/-- A worker that is not asleep takes its next step eventually: the lock is handed out fairly
and `blockif_proc` returns. -/
def Fair (b : Behaviour Step) : Prop :=
  ∀ n w, (b.state n).workers w ≠ .waiting → ∃ m, n ≤ m ∧ (b.label m).worker = some w

def Gone (s : Nat) (bc : BlockifCtxt) : Prop :=
  s < bc.nextSeq ∧ ∀ e ∈ bc.pendq ++ bc.busyq, e.seq ≠ s

def Queued (s : Nat) (bc : BlockifCtxt) : Prop := ∃ e ∈ bc.pendq, e.seq = s

def Held (w : Fin BLOCKIF_NUMTHR) (stage : Nat → Worker) (s : Nat) (bc : BlockifCtxt) : Prop :=
  ∃ e ∈ bc.busyq, e.seq = s ∧ bc.workers w = stage e.id

/-- Nothing but numbers matters here: the requests in `bc'` were in `bc`. -/
structure Within (bc bc' : BlockifCtxt) : Prop where
  nextSeq : bc'.nextSeq = bc.nextSeq
  seqs : ∀ e ∈ bc'.pendq ++ bc'.busyq, ∃ e' ∈ bc.pendq ++ bc.busyq, e'.seq = e.seq

section

variable {bc bc' bc'' : BlockifCtxt} {be : BlockifElem} {w : Fin BLOCKIF_NUMTHR} {s : Nat}

lemma Within.trans (h : Within bc bc') (h' : Within bc' bc'') : Within bc bc'' where
  nextSeq := h'.nextSeq.trans h.nextSeq
  seqs e he := by
    obtain ⟨e', he', hseq⟩ := h'.seqs e he
    obtain ⟨e'', he'', hseq'⟩ := h.seqs e' he'
    exact ⟨e'', he'', hseq'.trans hseq⟩

lemma Within.gone (h : Within bc bc') (hg : Gone s bc) : Gone s bc' := by
  refine ⟨h.nextSeq ▸ hg.1, fun e he hs => ?_⟩
  obtain ⟨e', he', hseq⟩ := h.seqs e he
  exact hg.2 e' he' (hseq.trans hs)

lemma within_complete (h : QueueInv bc) (hbe : be ∈ bc.pendq ++ bc.busyq) :
    Within bc (blockifComplete bc be) := by
  rw [h.complete_eq hbe]
  refine ⟨rfl, fun e he => ?_⟩
  rcases mem_append.mp he with he | he
  · obtain ⟨t, ht, -, hseq, -⟩ := mem_release he
    exact ⟨t, mem_append_left _ (mem_remove.mp ht).1, hseq.symm⟩
  · exact ⟨e, mem_append_right _ (mem_remove.mp he).1, rfl⟩

lemma within_loop (bc : BlockifCtxt) (w : Fin BLOCKIF_NUMTHR) : Within bc (workerLoop bc w) := by
  unfold workerLoop blockifDequeue
  cases hfind : bc.pendq.find? (·.status = .pend) with
  | none => exact ⟨rfl, fun e he => ⟨e, he, rfl⟩⟩
  | some be =>
    refine ⟨rfl, fun e he => ?_⟩
    rcases mem_append.mp he with he | he
    · exact ⟨e, mem_append_left _ (mem_remove.mp he).1, rfl⟩
    rcases mem_append.mp he with he | he
    · exact ⟨e, mem_append_right _ he, rfl⟩
    · rw [mem_singleton.mp he]
      exact ⟨be, mem_append_left _ (mem_of_find?_eq_some hfind), rfl⟩

lemma within_callback : Within bc (callback bc w be) := by
  refine ⟨rfl, fun e he => ?_⟩
  rcases mem_append.mp he with he | he
  · exact ⟨e, mem_append_left _ he, rfl⟩
  obtain ⟨t, ht, rfl⟩ := mem_map.mp he
  refine ⟨t, mem_append_right _ ht, ?_⟩
  split <;> rfl

variable {l : Label}

lemma Gone.step (h : Inv bc) (hg : Gone s bc) (hstep : Step bc l bc') : Gone s bc' := by
  cases hstep with
  | @accept req offset iov op bc₁ signal ws hidle hfree heq =>
    obtain ⟨be, free, hcons⟩ := exists_cons_of_ne_nil hfree
    rw [hcons] at heq
    cases heq
    refine ⟨Nat.lt_succ_of_lt hg.1, fun e he => ?_⟩
    rcases mem_append.mp he with he | he
    · rcases mem_append.mp he with he | he
      · exact hg.2 e (mem_append_left _ he)
      · rw [mem_singleton.mp he]
        exact (Nat.ne_of_lt hg.1).symm
    · exact hg.2 e (mem_append_right _ he)
  | reject | cancelNone | spurious | idle => exact hg
  | run => exact (within_loop bc _).gone hg
  | callback => exact within_callback.gone hg
  | finish _ hbe =>
    have hw := within_complete h.toQueueInv (mem_append_right _ hbe)
    exact (hw.trans (within_loop _ _)).gone hg
  | cancel hfind =>
    have hmem := mem_append_left bc.busyq (mem_of_find?_eq_some hfind)
    exact (within_complete h.toQueueInv hmem).gone hg

lemma gone_of_complete (h : QueueInv bc) (hbe : be ∈ bc.pendq ++ bc.busyq) :
    Gone be.seq (blockifComplete bc be) := by
  have hw := within_complete h hbe
  refine ⟨hw.nextSeq ▸ h.numbered be hbe, fun e he hs => ?_⟩
  rw [h.complete_eq hbe] at he
  -- Numbers and ids are both unique, so an element with this number is `be`.
  have hold : ∃ t ∈ bc.pendq ++ bc.busyq, t.id ≠ be.id ∧ t.seq = be.seq := by
    rcases mem_append.mp he with he | he
    · obtain ⟨t, ht, -, hseq, -⟩ := mem_release he
      have ht := mem_remove.mp ht
      exact ⟨t, mem_append_left _ ht.1, ht.2, hseq.symm.trans hs⟩
    · have he := mem_remove.mp he
      exact ⟨e, mem_append_right _ he.1, he.2, hs⟩
  obtain ⟨t, ht, hid, hseq⟩ := hold
  exact hid (congrArg BlockifElem.id (inj_on_of_nodup_map h.seqs ht hbe hseq))

lemma workerLoop_other (bc : BlockifCtxt) {w' : Fin BLOCKIF_NUMTHR} (h : w ≠ w') :
    (workerLoop bc w').workers w = bc.workers w := by
  unfold workerLoop blockifDequeue
  cases bc.pendq.find? (·.status = .pend) with
  | none | some => exact update_of_ne h _ _

lemma mem_loop_busy (w : Fin BLOCKIF_NUMTHR) (h : be ∈ bc.busyq) : be ∈ (workerLoop bc w).busyq := by
  unfold workerLoop blockifDequeue
  cases bc.pendq.find? (·.status = .pend) with
  | none => exact h
  | some _ => exact mem_append_left _ h

lemma Step.other_worker (hstep : Step bc l bc') (hl : l.worker ≠ some w)
    (hw : bc.workers w ≠ .waiting) : bc'.workers w = bc.workers w := by
  cases hstep with
  | @accept req offset iov op bc₁ signal ws hidle hfree heq hsig =>
    cases signal with
    | true =>
      cases hsig with
      | @wake w' hw' =>
        have hne : w ≠ w' := fun heq => hw (heq ▸ hw')
        exact update_of_ne hne _ _
      | nobody => rfl
    | false => rw [hsig]
  | reject | cancelNone | idle => rfl
  | run => exact workerLoop_other bc fun heq => hl (congrArg some heq.symm)
  | callback => exact update_of_ne (fun heq => hl (congrArg some heq.symm)) _ _
  | finish => exact workerLoop_other _ fun heq => hl (congrArg some heq.symm)
  | cancel => rfl
  | @spurious w' hw' =>
    have hne : w ≠ w' := fun heq => hw (heq ▸ hw')
    exact update_of_ne hne _ _

lemma Held.other {stage : Nat → Worker} (hstage : ∀ id, (stage id).held = some id) (h : Inv bc)
    (hh : Held w stage s bc) (hstep : Step bc l bc') (hl : l.worker ≠ some w) : Held w stage s bc' := by
  obtain ⟨e, he, hseq, hwork⟩ := hh
  have hheld : (bc.workers w).held = some e.id := by rw [hwork]; exact hstage _
  have hwait : bc.workers w ≠ .waiting := fun heq => by rw [heq] at hheld; cases hheld
  have hwork' := (hstep.other_worker hl hwait).trans hwork
  have hne : ∀ {w' : Fin BLOCKIF_NUMTHR} {be : BlockifElem}, w' ≠ w →
      (bc.workers w').held = some be.id → e.id ≠ be.id := by
    intro w' be hne hw' hid
    exact hne (h.distinct w' w be.id hw' (hid ▸ hheld))
  refine ⟨e, ?_, hseq, hwork'⟩
  cases hstep with
  | accept hidle hfree heq =>
    obtain ⟨be, free, hcons⟩ := exists_cons_of_ne_nil hfree
    rw [hcons] at heq
    cases heq
    exact he
  | reject | cancelNone | spurious | idle => exact he
  | run => exact mem_loop_busy _ he
  | callback hw' =>
    have hid := hne (fun heq => hl (congrArg some heq)) (by rw [hw']; rfl)
    exact mem_map.mpr ⟨e, he, if_neg hid⟩
  | finish hw' hbe =>
    have hid := hne (fun heq => hl (congrArg some heq)) (by rw [hw']; rfl)
    refine mem_loop_busy _ ?_
    rw [h.complete_eq (mem_append_right _ hbe)]
    exact mem_remove.mpr ⟨he, hid⟩
  | cancel hfind =>
    have hmem := mem_of_find?_eq_some hfind
    rw [cancelPending, h.complete_eq (mem_append_left _ hmem)]
    rw [h.remove_busy_of_pend hmem]
    exact he

lemma Step.by_worker (hstep : Step bc l bc') (hl : l.worker = some w) : bc.workers w = .ready ∧
    bc' = workerLoop bc w ∨ (∃ be ∈ bc.busyq, bc.workers w = .busy be.id ∧ bc' = BlockIf.callback bc w be) ∨
    ∃ be ∈ bc.busyq, bc.workers w = .done be.id ∧ bc' = workerLoop (blockifComplete bc be) w := by
  cases hstep with
  | accept | reject | cancel | cancelNone | spurious | idle => cases hl
  | run hw =>
    cases hl
    exact .inl ⟨hw, rfl⟩
  | @callback w' be hw hbe =>
    cases hl
    exact .inr (.inl ⟨be, hbe, hw, rfl⟩)
  | @finish w' be hw hbe =>
    cases hl
    exact .inr (.inr ⟨be, hbe, hw, rfl⟩)

lemma Held.called (h : Inv bc) (hh : Held w .busy s bc) (hstep : Step bc l bc')
    (hl : l.worker = some w) : Held w .done s bc' := by
  obtain ⟨e, he, hseq, hwork⟩ := hh
  rcases hstep.by_worker hl with ⟨hw, -⟩ | ⟨be, hbe, hw, rfl⟩ | ⟨be, -, hw, -⟩
  · rw [hwork] at hw
    cases hw
  · have hid : e.id = be.id := Worker.busy.inj (hwork.symm.trans hw)
    obtain rfl := h.id_inj (mem_append_right _ he) (mem_append_right _ hbe) hid
    refine ⟨{ e with status := .done }, mem_map.mpr ⟨e, he, if_pos rfl⟩, hseq, ?_⟩
    exact update_self ..
  · rw [hwork] at hw
    cases hw

lemma Held.finished (h : Inv bc) (hh : Held w .done s bc) (hstep : Step bc l bc')
    (hl : l.worker = some w) : Gone s bc' := by
  obtain ⟨e, he, hseq, hwork⟩ := hh
  rcases hstep.by_worker hl with ⟨hw, -⟩ | ⟨be, -, hw, -⟩ | ⟨be, hbe, hw, rfl⟩
  · rw [hwork] at hw
    cases hw
  · rw [hwork] at hw
    cases hw
  have hid : e.id = be.id := Worker.done.inj (hwork.symm.trans hw)
  obtain rfl := h.id_inj (mem_append_right _ he) (mem_append_right _ hbe) hid
  rw [← hseq]
  exact (within_loop _ _).gone (gone_of_complete h.toQueueInv (mem_append_right _ he))

lemma Queued.loop (h : QueueInv bc) (hq : Queued s bc) (w : Fin BLOCKIF_NUMTHR) :
    Queued s (workerLoop bc w) ∨ Held w .busy s (workerLoop bc w) := by
  obtain ⟨e, he, hseq⟩ := hq
  unfold workerLoop blockifDequeue
  cases hfind : bc.pendq.find? (·.status = .pend) with
  | none => exact .inl ⟨e, he, hseq⟩
  | some be =>
    by_cases hid : e.id = be.id
    · have hmem := mem_append_left bc.busyq (mem_of_find?_eq_some hfind)
      obtain rfl := h.id_inj (mem_append_left _ he) hmem hid
      exact .inr ⟨{ e with status := .busy }, mem_append_right _ mem_cons_self, hseq, update_self ..⟩
    · exact .inl ⟨e, mem_remove.mpr ⟨he, hid⟩, hseq⟩

lemma Queued.complete (h : QueueInv bc) (hq : Queued s bc) (hbe : be ∈ bc.pendq ++ bc.busyq)
    (hne : be.seq ≠ s) : Queued s (blockifComplete bc be) := by
  obtain ⟨e, he, hseq⟩ := hq
  rw [h.complete_eq hbe]
  have hid : e.id ≠ be.id := by
    intro hid
    rw [h.id_inj (mem_append_left _ he) hbe hid] at hseq
    exact hne hseq
  obtain ⟨e', he', hseq', -⟩ := release_of_mem bc be (mem_remove.mpr ⟨he, hid⟩)
  exact ⟨e', he', hseq'.trans hseq⟩

lemma seq_ne_of_busy (h : QueueInv bc) (hq : Queued s bc) (hbe : be ∈ bc.busyq) : be.seq ≠ s := by
  obtain ⟨e, he, hseq⟩ := hq
  intro hs
  have heq := inj_on_of_nodup_map h.seqs (mem_append_left _ he)
    (mem_append_right _ hbe) (hseq.trans hs.symm)
  exact h.id_ne he hbe (congrArg BlockifElem.id heq)

lemma Queued.step (h : Inv bc) (hq : Queued s bc) (hstep : Step bc l bc') :
    Queued s bc' ∨ (∃ w, Held w .busy s bc') ∨ Gone s bc' := by
  have hloop : ∀ {bc : BlockifCtxt} (w), QueueInv bc → Queued s bc →
      Queued s (workerLoop bc w) ∨ (∃ w', Held w' .busy s (workerLoop bc w)) ∨
        Gone s (workerLoop bc w) := by
    intro bc w h hq
    rcases hq.loop h w with hq | hh
    · exact .inl hq
    · exact .inr (.inl ⟨w, hh⟩)
  cases hstep with
  | accept hidle hfree heq =>
    obtain ⟨be, free, hcons⟩ := exists_cons_of_ne_nil hfree
    rw [hcons] at heq
    cases heq
    obtain ⟨e, he, hseq⟩ := hq
    exact .inl ⟨e, mem_append_left _ he, hseq⟩
  | reject | cancelNone | spurious | idle => exact .inl hq
  | run => exact hloop _ h.toQueueInv hq
  | callback => exact .inl hq
  | finish hw hbe =>
    have hne := seq_ne_of_busy h.toQueueInv hq hbe
    have hs := h.status_of_held hbe (by rw [hw]; rfl)
    rw [hw] at hs
    exact hloop _ (h.toQueueInv.retire hbe hs) (hq.complete h.toQueueInv (mem_append_right _ hbe) hne)
  | @cancel req be hfind =>
    have hmem := mem_append_left bc.busyq (mem_of_find?_eq_some hfind)
    by_cases hs : be.seq = s
    · exact .inr (.inr (hs ▸ gone_of_complete h.toQueueInv hmem))
    · exact .inl (hq.complete h.toQueueInv hmem hs)

lemma find_oldest (h : QueueInv bc) (hq : Queued s bc) (hold : ∀ i < s, Gone i bc) :
    ∃ e, bc.pendq.find? (·.status = .pend) = some e ∧ e.seq = s := by
  obtain ⟨e, he, hseq⟩ := hq
  have hall : ∀ e' ∈ bc.pendq ++ bc.busyq, s ≤ e'.seq := by
    intro e' he'
    by_contra hlt
    exact (hold e'.seq (by omega)).2 e' he' rfl
  obtain ⟨e₀, q, hcons⟩ := exists_cons_of_ne_nil (ne_nil_of_mem he)
  have hsorted := h.sorted
  rw [hcons, pairwise_cons] at hsorted
  have hmem : e₀ ∈ bc.pendq := hcons ▸ mem_cons_self
  have hhead : e₀.seq = s := by
    have hge := hall e₀ (mem_append_left _ hmem)
    rw [hcons] at he
    rcases mem_cons.mp he with rfl | he
    · exact hseq
    · have hlt := hsorted.1 e he
      omega
  have hs : e₀.status = .pend := by
    refine (h.pend e₀ hmem).resolve_right fun hs => ?_
    obtain ⟨b, hb, hlt, -⟩ := h.blocked e₀ hmem hs
    have hge := hall b hb
    omega
  refine ⟨e₀, ?_, hhead⟩
  rw [hcons, List.find?_cons_of_pos]
  simpa using hs

lemma loop_takes (h : QueueInv bc) (hq : Queued s bc) (hold : ∀ i < s, Gone i bc)
    (w : Fin BLOCKIF_NUMTHR) : Held w .busy s (workerLoop bc w) := by
  obtain ⟨e, hfind, hseq⟩ := find_oldest h hq hold
  unfold workerLoop blockifDequeue
  rw [hfind]
  exact ⟨{ e with status := .busy }, mem_append_right _ mem_cons_self, hseq, update_self ..⟩

end

section

variable {b : Behaviour Step} {s : Nat} {w : Fin BLOCKIF_NUMTHR}

lemma Fair.leads (hfair : Fair b) {p q : BlockifCtxt → Prop} {n : Nat} (hn : p (b.state n))
    (hw : (b.state n).workers w ≠ .waiting)
    (keep : ∀ k, p (b.state k) → (b.label k).worker ≠ some w → p (b.state (k + 1)) ∨ q (b.state (k + 1)))
    (reach : ∀ k, p (b.state k) → (b.label k).worker = some w → q (b.state (k + 1))) : ∃ k, n ≤ k ∧
    q (b.state k) := by
  obtain ⟨m, hle, hm⟩ := hfair n w hw
  have hkeep : ∀ k, p (b.state k) → p (b.state (k + 1)) ∨ q (b.state (k + 1)) := by
    intro k hk
    by_cases hl : (b.label k).worker = some w
    · exact .inr (reach k hk hl)
    · exact keep k hk hl
  exact b.leads_to (fun l => l.worker = some w) hn hle hm hkeep reach

lemma Held.eventually_gone (hinv : ∀ n, Inv (b.state n)) (hfair : Fair b) {n : Nat}
    (h : Held w .busy s (b.state n) ∨ Held w .done s (b.state n)) : ∃ m, n ≤ m ∧ Gone s (b.state m) := by
  have hdone : ∀ n, Held w .done s (b.state n) → ∃ m, n ≤ m ∧ Gone s (b.state m) := by
    intro n hh
    obtain ⟨e, -, -, hwork⟩ := id hh
    refine hfair.leads (w := w) hh (by rw [hwork]; exact Worker.noConfusion) (fun k hk hl => ?_)
      fun k hk hl => hk.finished (hinv k) (b.step k) hl
    exact .inl (hk.other (fun _ => rfl) (hinv k) (b.step k) hl)
  rcases h with hh | hh
  · obtain ⟨e, -, -, hwork⟩ := id hh
    obtain ⟨m, hle, hm⟩ := hfair.leads (w := w) (q := Held w .done s) hh
      (by rw [hwork]; exact Worker.noConfusion)
      (fun k hk hl => .inl (hk.other (fun _ => rfl) (hinv k) (b.step k) hl))
      fun k hk hl => hk.called (hinv k) (b.step k) hl
    obtain ⟨m', hle', hm'⟩ := hdone m hm
    exact ⟨m', hle.trans hle', hm'⟩
  · exact hdone n hh

def Oldest (s : Nat) (bc : BlockifCtxt) : Prop := Queued s bc ∧ ∀ i < s, Gone i bc

def Taken (s : Nat) (bc : BlockifCtxt) : Prop := (∃ w, Held w .busy s bc) ∨ Gone s bc

variable {bc bc' : BlockifCtxt}

lemma Oldest.step (h : Inv bc) (ho : Oldest s bc) {l : Label}
    (hstep : Step bc l bc') : Oldest s bc' ∨ Taken s bc' := by
  rcases ho.1.step h hstep with hq | ht
  · exact .inl ⟨hq, fun i hi => (ho.2 i hi).step h hstep⟩
  · exact .inr ht

lemma Oldest.taken (h : Inv bc) (ho : Oldest s bc) {l : Label} (hstep : Step bc l bc')
    (hl : l.worker = some w) (hw : ∀ id, bc.workers w ≠ .busy id) : Taken s bc' := by
  rcases hstep.by_worker hl with ⟨-, rfl⟩ | ⟨be, -, hbusy, -⟩ | ⟨be, hbe, hdone, rfl⟩
  · exact .inl ⟨w, loop_takes h.toQueueInv ho.1 ho.2 w⟩
  · exact absurd hbusy (hw be.id)
  have hmem := mem_append_right bc.pendq hbe
  have hs := h.status_of_held hbe (by rw [hdone]; rfl)
  rw [hdone] at hs
  refine .inl ⟨w, loop_takes (h.toQueueInv.retire hbe hs) ?_ (fun i hi => ?_) w⟩
  · exact ho.1.complete h.toQueueInv hmem (seq_ne_of_busy h.toQueueInv ho.1 hbe)
  · exact (within_complete h.toQueueInv hmem).gone (ho.2 i hi)

lemma Oldest.eventually_taken (hinv : ∀ n, Inv (b.state n)) (hfair : Fair b) {n : Nat}
    (ho : Oldest s (b.state n)) : ∃ m, n ≤ m ∧ Taken s (b.state m) := by
  obtain ⟨e, he, -⟩ := ho.1
  obtain ⟨w, hw⟩ := (hinv n).awake (ne_nil_of_mem (mem_append_left _ he))
  let free (bc : BlockifCtxt) : Prop := bc.workers w ≠ .waiting ∧ ∀ id, bc.workers w ≠ .busy id
  -- Once the worker has nothing to process, its next step takes the request.
  have hfree : ∀ n, Oldest s (b.state n) → free (b.state n) →
      ∃ m, n ≤ m ∧ Taken s (b.state m) := by
    intro n ho hf
    refine hfair.leads (p := fun bc => Oldest s bc ∧ free bc) ⟨ho, hf⟩ hf.1 (fun k hk hl => ?_)
      fun k hk hl => hk.1.taken (hinv k) (b.step k) hl hk.2.2
    have hsame := (b.step k).other_worker hl hk.2.1
    rcases hk.1.step (hinv k) (b.step k) with ho' | ht
    · refine .inl ⟨ho', ?_, ?_⟩
      · rw [hsame]
        exact hk.2.1
      · rw [hsame]
        exact hk.2.2
    · exact .inr ht
  by_cases hbusy : ∃ id, (b.state n).workers w = .busy id
  · -- First it has to get through with the request it has.
    obtain ⟨id, hid⟩ := hbusy
    have hnext : ∃ k, n ≤ k ∧ ((Oldest s (b.state k) ∧ free (b.state k)) ∨ Taken s (b.state k)) := by
      refine hfair.leads (p := fun bc => Oldest s bc ∧ bc.workers w = .busy id)
        (q := fun bc => (Oldest s bc ∧ free bc) ∨ Taken s bc) ⟨ho, hid⟩ hw (fun k hk hl => ?_)
        fun k hk hl => ?_
      · have hsame := (b.step k).other_worker hl (by rw [hk.2]; exact Worker.noConfusion)
        rcases hk.1.step (hinv k) (b.step k) with ho' | ht
        · exact .inl ⟨ho', hsame.trans hk.2⟩
        · exact .inr (.inr ht)
      · rcases hk.1.step (hinv k) (b.step k) with ho' | ht
        · refine .inl ⟨ho', ?_⟩
          rcases (b.step k).by_worker hl with ⟨hready, -⟩ | ⟨be, -, -, heq⟩ | ⟨be, -, hdone, -⟩
          · rw [hk.2] at hready
            cases hready
          · have hdone : (b.state (k + 1)).workers w = .done be.id := by
              rw [heq]
              exact update_self ..
            refine ⟨?_, fun id => ?_⟩
            · rw [hdone]
              exact Worker.noConfusion
            · rw [hdone]
              exact Worker.noConfusion
          · rw [hk.2] at hdone
            cases hdone
        · exact .inr ht
    obtain ⟨k, hle, ⟨ho', hf⟩ | ht⟩ := hnext
    · obtain ⟨m, hle', ht⟩ := hfree k ho' hf
      exact ⟨m, hle.trans hle', ht⟩
    · exact ⟨k, hle, ht⟩
  · exact hfree n ho ⟨hw, fun id hid => hbusy ⟨id, hid⟩⟩

lemma Step.nextSeq_le (h : Inv bc) {l : Label} (hstep : Step bc l bc') : bc.nextSeq ≤ bc'.nextSeq := by
  cases hstep with
  | accept hidle hfree heq =>
    obtain ⟨be, free, hcons⟩ := exists_cons_of_ne_nil hfree
    rw [hcons] at heq
    cases heq
    exact Nat.le_succ _
  | reject | cancelNone | spurious | idle | callback => exact le_refl _
  | run => exact (within_loop bc _).nextSeq.ge
  | finish _ hbe =>
    have hw := within_complete h.toQueueInv (mem_append_right _ hbe)
    exact (hw.trans (within_loop _ _)).nextSeq.ge
  | cancel => exact le_refl _

lemma eventually_gone (hinv : ∀ n, Inv (b.state n)) (hfair : Fair b) (s n : Nat)
    (hs : s < (b.state n).nextSeq) : ∃ m, n ≤ m ∧ Gone s (b.state m) := by
  induction s using Nat.strong_induction_on generalizing n with
  | h s ih =>
    have hkeep : ∀ i s e t, Inv s ∧ Gone i s → Step s e t → Inv t ∧ Gone i t :=
      fun i s e t h hstep => ⟨h.1.step hstep, h.2.step h.1 hstep⟩
    obtain ⟨m, hle, hall⟩ := b.eventually_all hkeep n s fun i hi => by
      obtain ⟨m, hle, hg⟩ := ih i hi n (hi.trans hs)
      exact ⟨m, hle, hinv m, hg⟩
    have hold : ∀ i < s, Gone i (b.state m) := fun i hi => (hall i hi).2
    have hnext : Inv (b.state m) ∧ s < (b.state m).nextSeq :=
      b.stable (p := fun bc => Inv bc ∧ s < bc.nextSeq)
        (fun _ _ _ h hstep => ⟨h.1.step hstep, h.2.trans_le (hstep.nextSeq_le h.1)⟩) ⟨hinv n, hs⟩ hle
    have hheld : ∀ {w k}, m ≤ k → Held w .busy s (b.state k) ∨ Held w .done s (b.state k) →
        ∃ m', n ≤ m' ∧ Gone s (b.state m') := by
      intro w k hk hh
      obtain ⟨m', hle', hg⟩ := Held.eventually_gone hinv hfair hh
      exact ⟨m', (hle.trans hk).trans hle', hg⟩
    by_cases hg : Gone s (b.state m)
    · exact ⟨m, hle, hg⟩
    obtain ⟨e, he, hseq⟩ : ∃ e ∈ (b.state m).pendq ++ (b.state m).busyq, e.seq = s := by
      by_contra hnone
      exact hg ⟨hnext.2, fun e he hs => hnone ⟨e, he, hs⟩⟩
    rcases mem_append.mp he with he | he
    · obtain ⟨k, hk, ⟨w, hh⟩ | hg⟩ := Oldest.eventually_taken hinv hfair ⟨⟨e, he, hseq⟩, hold⟩
      · exact hheld hk (.inl hh)
      · exact ⟨k, hle.trans hk, hg⟩
    · obtain ⟨w, hw⟩ := (hinv m).owned e he
      cases hwork : (b.state m).workers w with
      | ready | waiting =>
        rw [hwork] at hw
        cases hw
      | busy =>
        rw [hwork] at hw
        cases hw
        exact hheld (le_refl m) (.inl ⟨e, he, hseq, hwork⟩)
      | done =>
        rw [hwork] at hw
        cases hw
        exact hheld (le_refl m) (.inr ⟨e, he, hseq, hwork⟩)

end

/-- Following the links from a blocked element to what it waits for comes to an end. -/
inductive Rooted (bc : BlockifCtxt) : BlockifElem → Prop where
  | free {e : BlockifElem} : e.status ≠ .block → Rooted bc e
  | link {e t : BlockifElem} : t ∈ bc.pendq ++ bc.busyq → t.block = bc.offset e.req →
      Rooted bc t → Rooted bc e

lemma Inv.rooted {bc : BlockifCtxt} (h : Inv bc) {e : BlockifElem}
    (he : e ∈ bc.pendq ++ bc.busyq) : Rooted bc e := by
  induction hn : e.seq using Nat.strong_induction_on generalizing e with
  | h n ih =>
    by_cases hs : e.status = .block
    · have hpend : e ∈ bc.pendq := by
        rcases mem_append.mp he with he | he
        · exact he
        · rcases h.busy e he with hb | hb <;> rw [hb] at hs <;> cases hs
      obtain ⟨t, ht, hlt, hend⟩ := h.blocked e hpend hs
      exact .link ht hend (ih t.seq (hn ▸ hlt) ht rfl)
    · exact .free hs

structure Scheduled (bc : BlockifCtxt) : Prop where
  partition : ((bc.freeq ++ bc.pendq ++ bc.busyq).map (·.id)).Perm (List.range BLOCKIF_MAXREQ)
  free : ∀ e ∈ bc.freeq, e.status = .free
  pend : ∀ e ∈ bc.pendq, e.status = .pend ∨ e.status = .block
  busy : ∀ e ∈ bc.busyq, e.status = .busy ∨ e.status = .done
  blocked : ∀ e ∈ bc.pendq, e.status = .block → Blocked bc e
  rooted : ∀ e ∈ bc.pendq ++ bc.busyq, Rooted bc e
  awake : (∃ e ∈ bc.pendq, e.status = .pend) → ∃ w, bc.workers w ≠ .waiting
  once : ∀ s, (bc.log.map Outcome.seq).count s + (live bc).count s =
    if s < bc.nextSeq then 1 else 0

lemma Inv.scheduled {bc : BlockifCtxt} (h : Inv bc) : Scheduled bc where
  partition := h.ids
  free := h.free
  pend := h.pend
  busy := h.busy
  blocked := h.blocked
  rooted _ he := h.rooted he
  awake := by
    rintro ⟨e, he, -⟩
    exact h.awake (ne_nil_of_mem (mem_append_left _ he))
  once s := by
    have hc := h.account.count_eq s
    rw [count_append, nodup_range.count] at hc
    simpa only [mem_range] using hc

lemma Gone.answered {bc : BlockifCtxt} (h : Inv bc) {s : Nat} (hg : Gone s bc) :
    s ∈ bc.log.map Outcome.seq := by
  have hmem := h.account.mem_iff.mpr (mem_range.mpr hg.1)
  refine (mem_append.mp hmem).resolve_right fun hlive => ?_
  rcases mem_append.mp hlive with hl | hl
  · obtain ⟨e, he, hseq⟩ := mem_map.mp hl
    exact hg.2 e (mem_append_left _ he) hseq
  · obtain ⟨e, he, hseq⟩ := mem_map.mp hl
    exact hg.2 e (mem_append_right _ (mem_filter.mp he).1) hseq

/-- The queues, links and wake-ups are sound in every run, each request is answered at most once,
and with fair workers each is answered. -/
theorem scheduler_sound (b : Behaviour Step) (offset : Nat → UInt64)
    (hinit : b.state 0 = .init offset) :
    (∀ n, Scheduled (b.state n)) ∧
    (Fair b → ∀ n s, s < (b.state n).nextSeq →
      ∃ m, n ≤ m ∧ s ∈ (b.state m).log.map Outcome.seq) := by
  have hinv : ∀ n, Inv (b.state n) := by
    refine b.invariant (fun _ _ _ h hstep => h.step hstep) ?_
    rw [hinit]
    exact .init offset
  refine ⟨fun n => (hinv n).scheduled, fun hfair n s hs => ?_⟩
  obtain ⟨m, hle, hg⟩ := eventually_gone hinv hfair s n hs
  exact ⟨m, hle, hg.answered (hinv m)⟩

/-- The step of a label, if it can be taken; a signal wakes the first worker that waits. -/
private def next (bc : BlockifCtxt) : Label → Option BlockifCtxt
  | .request req offset iov op =>
    let r := blockifEnqueue { bc with offset := update bc.offset req offset } req op iov
    if (∀ e ∈ bc.pendq ++ bc.busyq, e.req ≠ req) ∧ bc.freeq ≠ [] then
      if r.2 then
        ((finRange BLOCKIF_NUMTHR).find? fun w => bc.workers w = .waiting).map fun w =>
          { r.1 with workers := update bc.workers w .ready }
      else some { r.1 with workers := bc.workers }
    else none
  | .run w => if bc.workers w = .ready then some (workerLoop bc w) else none
  | .callback w => (bc.busyq.find? fun e => bc.workers w = .busy e.id).map (callback bc w)
  | .finish w => (bc.busyq.find? fun e => bc.workers w = .done e.id).map fun e =>
      workerLoop (blockifComplete bc e) w
  | .cancel _ | .spurious _ => none
  | .idle => some bc

private lemma next_step {bc bc' : BlockifCtxt} {l : Label} (h : next bc l = some bc') :
    Step bc l bc' := by
  cases l with
  | request req offset iov op =>
    rw [next] at h
    rcases hr : blockifEnqueue { bc with offset := update bc.offset req offset } req op iov with
      ⟨bc₁, signal⟩
    rw [hr] at h
    dsimp only at h
    split at h
    · rename_i hreq
      have hidle : Idle bc req :=
        ⟨fun e he => hreq.1 e (mem_append_left _ he), fun e he _ => hreq.1 e (mem_append_right _ he)⟩
      cases signal with
      | true =>
        obtain ⟨w, hw, rfl⟩ := Option.map_eq_some_iff.mp h
        have hwait : bc.workers w = .waiting := by simpa using List.find?_some hw
        exact .accept hidle hreq.2 hr (.wake hwait)
      | false =>
        cases h
        exact .accept hidle hreq.2 hr rfl
    · cases h
  | run =>
    rw [next] at h
    split at h
    · rename_i hready
      cases h
      exact .run hready
    · cases h
  | callback =>
    obtain ⟨e, he, rfl⟩ := Option.map_eq_some_iff.mp h
    exact .callback (by simpa using List.find?_some he) (mem_of_find?_eq_some he)
  | finish =>
    obtain ⟨e, he, rfl⟩ := Option.map_eq_some_iff.mp h
    exact .finish (by simpa using List.find?_some he) (mem_of_find?_eq_some he)
  | cancel | spurious => cases h
  | idle =>
    cases h
    exact .idle

private def first : Fin BLOCKIF_NUMTHR := ⟨0, by decide⟩

private def second : Fin BLOCKIF_NUMTHR := ⟨1, by decide⟩

/-- The second request is blocked behind the first; the third goes to another worker. -/
private def script : List Label :=
  (finRange BLOCKIF_NUMTHR).map .run ++
    [.request 0 512 [512] .read, .request 1 1024 [512] .read, .request 2 8192 [512] .write,
      .run first, .run second, .callback second, .callback first, .finish first, .finish second,
      .callback first, .finish first]

private def start : BlockifCtxt := .init fun _ => 0

private lemma script_runs : (script.foldlM next start).isSome = true := by decide +kernel

private def played : Behaviour Step :=
  let b := Behaviour.ofScript next .idle (fun _ => rfl) script start script_runs
  ⟨b.state, b.label, fun n => next_step (b.step n)⟩

private lemma played_fair : Fair played := by
  have hturn : ∀ n : Fin script.length, ∀ w, (played.state n).workers w ≠ .waiting →
      ∃ m : Fin script.length, n.val ≤ m.val ∧ (played.label m).worker = some w := by
    decide +kernel
  have hrest : ∀ w, (((script.foldlM next start).getD start).workers w) = .waiting := by
    decide +kernel
  intro n w hw
  rcases Nat.lt_or_ge n script.length with hlt | hge
  · obtain ⟨m, hle, hl⟩ := hturn ⟨n, hlt⟩ w hw
    exact ⟨m, hle, hl⟩
  · have hend : played.state n = (script.foldlM next start).getD start :=
      @Behaviour.ofScript_state_of_ge _ _ next .idle (fun _ => rfl) script start script_runs n hge
    rw [hend] at hw
    exact absurd (hrest w) hw

theorem three_requests_answered : (∀ n, Scheduled (played.state n)) ∧
    (∃ e ∈ (played.state 11).pendq, e.status = .block) ∧
    ∀ s < 3, ∃ m, 11 ≤ m ∧ s ∈ (played.state m).log.map Outcome.seq := by
  obtain ⟨hsafe, hlive⟩ := scheduler_sound played (fun _ => 0) rfl
  refine ⟨hsafe, by decide +kernel, fun s hs => hlive played_fair 11 s ?_⟩
  exact Nat.lt_of_lt_of_eq hs (by decide +kernel)

end ScorpiHv.BlockIf

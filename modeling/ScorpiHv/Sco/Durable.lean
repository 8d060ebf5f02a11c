import ScorpiHv.Sco.Persist

/-!
# What the last sync left

`DurableInv` ties an open image to its file as of the last completed sync: what was
issued since leaves every slot, page and cluster in use alone, apart from writes in
place.
-/

namespace ScorpiHv.Sco
open Bytes List

/-- What may be pending below the data area: a part or all of an inactive slot, or of
the inactive page. -/
def Image.PendingMeta (s : Image) (e : Effect) : Prop :=
  (∃ c < s.sb.clusterCount, ∃ bs, bs.length ≤ SCO_TABLE_SLOT_SIZE ∧
      e = .pwrite (scoTableSlotOffset s.sb c (s.table c).activeSlot.other) bs) ∨
    ∃ bs, bs.length ≤ SCO_SUPERBLOCK_SIZE ∧ e = .pwrite s.pageOffset bs ∧
      (bs.length = SCO_SUPERBLOCK_SIZE → PageOk s.sb (put blank 0 bs))

/-- Every touch of a mapped cluster by effect `e`, the `k`-th, is on record as in place. -/
def Image.OnRecord (s : Image) (k : Nat) (e : Effect) : Prop :=
  ∀ c < s.sb.clusterCount, (s.table c).state = .present → ∀ x < s.sb.clusterSize,
    e.Touches ((s.table c).physicalCluster * s.sb.clusterSize + x) →
    ∃ g ∈ s.guestWrites, g.logLength = k ∧ g.InPlace c x

structure DurableInv (s : Image) : Prop where
  durable : OnDisk s.fd.durable s
  stored : ∀ c < s.sb.clusterCount, (s.table c).state = .present →
    (s.table c).physicalCluster * s.sb.clusterSize + scoClusterStoredLength s.sb c ≤
      s.fd.durable.size
  pendingMeta : ∀ e ∈ pending s.fd.log, ∀ i < s.sb.dataAreaOffset, e.Touches i → s.PendingMeta e
  pendingData : ∀ k e, (synced s.fd.log).length ≤ k → s.fd.log[k]? = some e → s.OnRecord k e

variable {k : Nat} {e : Effect}

lemma Image.OnRecord.of_harmless {s : Image} (h : s.Harmless e) :
    s.OnRecord k e := fun c hc hp x hx ht => absurd ht (h c hc hp x hx)

namespace DurableInv
variable {s s' : Image}

lemma congr (h : DurableInv s) (hfd : s'.fd = s.fd) (hsb : s'.sb = s.sb) (htable : s'.table = s.table)
    (hbase : s'.base = s.base) (hactive : s'.activeSuperblockOffset = s.activeSuperblockOffset)
    (hguest : ∀ g ∈ s.guestWrites, g ∈ s'.guestWrites) : DurableInv s' := by
  refine ⟨?_, ?_, ?_, ?_⟩
  · rw [hfd]
    exact h.durable.congr hsb htable hbase hactive
  · rw [hfd, hsb, htable]
    exact h.stored
  · rw [hfd, hsb]
    intro e he i hi ht
    have := h.pendingMeta e he i hi ht
    simpa only [Image.PendingMeta, Image.pageOffset, hsb, htable, hactive] using this
  · rw [hfd]
    intro k e hk hlog
    rw [Image.OnRecord, hsb, htable]
    intro c hc hp x hx ht
    obtain ⟨g, hg, hrest⟩ := h.pendingData k e hk hlog c hc hp x hx ht
    exact ⟨g, hguest g hg, hrest⟩

lemma of_synced (hi : MemInv s) (hdisk : OnDisk s.fd.file s)
    (hlog : synced s.fd.log = s.fd.log) : DurableInv s := by
  have hpend : pending s.fd.log = [] := by
    have hsplit := synced_append_pending s.fd.log
    rw [hlog] at hsplit
    simpa using hsplit
  have hdur : s.fd.durable = s.fd.file := by rw [Handle.durable, Handle.file, ScorpiHv.durable, hlog]
  refine ⟨?_, ?_, ?_, ?_⟩
  · rw [hdur]
    exact hdisk
  · rw [hdur]
    exact hi.stored
  · rw [hpend]
    rintro _ ⟨⟩
  rw [hlog]
  intro k e hk hke
  rw [List.getElem?_eq_none hk] at hke
  cases hke

lemma push (h : DurableInv s) (hsync : e.isSync = false)
    (hmeta : ∀ i < s.sb.dataAreaOffset, e.Touches i → s.PendingMeta e)
    (hdata : s.OnRecord s.fd.log.length e) : DurableInv (s.push e) := by
  refine ⟨?_, ?_, ?_, ?_⟩
  · rw [push_fd, Handle.durable_push hsync]
    exact h.durable.congr rfl rfl rfl rfl
  · rw [push_fd, Handle.durable_push hsync]
    exact h.stored
  · intro e' he' i hi ht
    rw [push_fd, Handle.push_log, pending_snoc hsync] at he'
    rcases mem_append.mp he' with he' | he'
    · exact h.pendingMeta e' he' i hi ht
    · rw [mem_singleton.mp he'] at ht ⊢
      exact hmeta i hi ht
  · intro k e' hk hlog
    rw [push_fd, Handle.push_log, synced_snoc hsync] at hk
    rcases log_push hlog with hold | ⟨rfl, rfl⟩
    · exact h.pendingData k e' hk hold
    · exact hdata

lemma pushData (h : DurableInv s) (hsync : e.isSync = false)
    (hge : ∀ i, e.Touches i → s.sb.dataAreaOffset ≤ i)
    (hdata : s.OnRecord s.fd.log.length e) : DurableInv (s.push e) := by
  refine h.push hsync (fun i hi ht => ?_) hdata
  have := hge i ht
  omega

lemma failSlot (h : DurableInv s) (hi : MemInv s) {c : Nat} {e : TableEntry}
    (he : s.NextEntry c e) : DurableInv (s.failedSlot c e k) := by
  have hlen : ((slotBytes s.sb c e).take k).length ≤ SCO_TABLE_SLOT_SIZE := by simp [length_take]
  have hpush : DurableInv (s.push (.pwrite (s.slotOffset c e) ((slotBytes s.sb c e).take k))) := by
    refine h.push rfl (fun i _ _ => Or.inl ⟨c, he.lt, _, hlen, by rw [he.slot_ge]⟩) ?_
    exact .of_harmless (harmless_slot hi he.lt e.activeSlot hlen)
  exact hpush.congr rfl rfl rfl rfl rfl fun _ hg => hg

lemma failPage (h : DurableInv s) (hi : MemInv s) (hs : s.sb.Sound) {isSealed : Bool} :
    DurableInv (s.failedPage isSealed k) := by
  have hlen : ((superblockPage (s.sb.resealed isSealed)).take k).length ≤ SCO_SUPERBLOCK_SIZE := by
    rw [length_take, superblockPage_length]
    omega
  have hpush : DurableInv (s.push (.pwrite s.pageOffset
      ((superblockPage (s.sb.resealed isSealed)).take k))) := by
    refine h.push rfl (fun i _ _ => Or.inr ⟨_, hlen, rfl, fun hfull => ?_⟩)
      (.of_harmless (harmless_page hi hlen))
    have hall : (superblockPage (s.sb.resealed isSealed)).take k =
        superblockPage (s.sb.resealed isSealed) := by
      refine take_of_length_le ?_
      rw [length_take, superblockPage_length] at hfull
      rw [superblockPage_length]
      omega
    have hput := get_put_same blank 0 ((superblockPage (s.sb.resealed isSealed)).take k)
    rw [hfull] at hput
    exact resealed_pageOk hs (hput.trans hall)
  exact hpush.congr rfl rfl rfl rfl rfl fun _ hg => hg

end DurableInv

variable {ev : Event}

lemma step_durableInv {s s' : Image} (hi : MemInv s) (hd : DiskInv s)
    (h : DurableInv s) (hstep : Step s ev s') : DurableInv s' := by
  have hi' := step_memInv hi hstep
  obtain ⟨hen, rfl⟩ := hstep
  cases ev with
  | cursor n | mark index | extend n => exact h.congr rfl rfl rfl rfl rfl fun _ hg => hg
  | grow =>
    simp only [Event.apply, grow_eq]
    exact h.congr rfl rfl rfl rfl rfl fun _ hg => hg
  | fill c p buf done =>
    obtain ⟨hc, hspare, hlen, hdone⟩ := hen
    have hge := hi.data_le hspare.ge
    have hle := stored_le s.sb c
    have hrec : DurableInv (recordGuestWrite s c 0 (p * s.sb.clusterSize) buf.length true) :=
      h.congr rfl rfl rfl rfl rfl fun _ hg => mem_append_left _ hg
    have hharm : s.Harmless (.pwrite (p * s.sb.clusterSize) (buf.take done)) := by
      refine harmless_unnamed hspare.unnamed ?_
      rintro i ⟨hge, hlt⟩
      rw [length_take] at hlt
      exact ⟨i - p * s.sb.clusterSize, by omega, by omega⟩
    exact hrec.pushData rfl (fun i ht => Nat.le_trans hge ht.1) (.of_harmless hharm)
  | overwrite c off buf done =>
    obtain ⟨hc, hpres, hend, hdone⟩ := hen
    have hge := named_ge hi hc hpres
    have hle := stored_le s.sb c
    have hrec : DurableInv (recordGuestWrite s c off
        ((s.table c).physicalCluster * s.sb.clusterSize + off) buf.length false) :=
      h.congr rfl rfl rfl rfl rfl fun _ hg => mem_append_left _ hg
    refine hrec.pushData rfl (fun i ht => ?_) ?_
    · have := ht.1
      exact Nat.le_trans hge (by omega)
    intro d hd hp x hx ht
    obtain ⟨hge, hlt⟩ := ht
    change x < s.sb.clusterSize at hx
    change (s.table c).physicalCluster * s.sb.clusterSize + off ≤
      (s.table d).physicalCluster * s.sb.clusterSize + x at hge
    change (s.table d).physicalCluster * s.sb.clusterSize + x <
      (s.table c).physicalCluster * s.sb.clusterSize + off + (buf.take done).length at hlt
    rw [length_take] at hlt
    have hdc : d = c := by
      refine hi.distinct d hd c hc hp hpres (clusters_apart hx (y := (s.table d).physicalCluster *
        s.sb.clusterSize + x - (s.table c).physicalCluster * s.sb.clusterSize) ?_ ?_) <;> omega
    subst hdc
    refine ⟨_, mem_append_right _ (mem_singleton_self _), rfl, rfl, rfl, ?_, ?_⟩
    · change off ≤ x
      omega
    · change x < off + buf.length
      omega
  | sync => exact .of_synced hi' (hd.push (e := .sync) hd.current).current (synced_snoc_sync _)
  | failSlot => exact h.failSlot hi hen.1
  | commit => exact .of_synced hi' (hd.commit hi hen).current (synced_snoc_sync _)
  | release p =>
    obtain ⟨n, hr⟩ := release_eq s p
    simp only [Event.apply, hr]
    exact h.congr rfl rfl rfl rfl rfl fun _ hg => hg
  | punch c p =>
    obtain ⟨hbase, hc, hun⟩ := hen
    have hle := stored_le s.sb c
    refine h.pushData rfl (fun i ht => Nat.le_trans (hi.data_le hbase) ht.1) (.of_harmless ?_)
    refine harmless_unnamed hun ?_
    rintro i ⟨hge, hlt⟩
    exact ⟨i - p * s.sb.clusterSize, by omega, by omega⟩
  | failPage => exact h.failPage hi hd.sound
  | reseal isSealed => exact .of_synced hi' (hd.reseal isSealed).current (synced_snoc_sync _)

def Image.NoSlot (s : Image) : Prop :=
  ∀ c < s.sb.clusterCount, ∀ i bs, bs.length = SCO_TABLE_SLOT_SIZE →
    Effect.pwrite (scoTableSlotOffset s.sb c i) bs ∉ pending s.fd.log

namespace Image.NoSlot
variable {s s' : Image}

lemma congr (h : s.NoSlot) (hfd : s'.fd = s.fd) (hsb : s'.sb = s.sb) : s'.NoSlot := by
  rw [Image.NoSlot, hfd, hsb]
  exact h

lemma of_synced (h : pending s.fd.log = []) : s.NoSlot := by
  intro c _ i bs _ hmem
  rw [h] at hmem
  cases hmem

lemma push (h : s.NoSlot) (hsync : e.isSync = false)
    (he : ∀ c < s.sb.clusterCount, ∀ i bs, bs.length = SCO_TABLE_SLOT_SIZE →
      e ≠ .pwrite (scoTableSlotOffset s.sb c i) bs) : (s.push e).NoSlot := by
  intro c hc i bs hbs hmem
  rw [push_fd, Handle.push_log, pending_snoc hsync] at hmem
  rcases mem_append.mp hmem with hmem | hmem
  · exact h c hc i bs hbs hmem
  · exact he c hc i bs hbs (mem_singleton.mp hmem).symm

lemma pushData (h : s.NoSlot) (hi : MemInv s) {off : Nat} (bs : List UInt8)
    (hoff : s.sb.dataAreaOffset ≤ off) : (s.push (.pwrite off bs)).NoSlot := by
  refine h.push rfl fun c hc i bs' _ heq => ?_
  have hend := hi.layout.slot_end hc i
  have hoff' : off = scoTableSlotOffset s.sb c i := (Effect.pwrite.inj heq).1
  simp only [SCO_TABLE_SLOT_SIZE] at hend
  omega

end Image.NoSlot

lemma failedPage_noSlot {s : Image} (hi : MemInv s) (h : s.NoSlot) {isSealed : Bool} :
    (s.failedPage isSealed k).NoSlot := by
  refine Image.NoSlot.congr (h.push (e := .pwrite s.pageOffset
    ((superblockPage (s.sb.resealed isSealed)).take k)) rfl fun d _ i bs _ heq => ?_) rfl rfl
  have hin := page_inside (pageOffset_isPage s)
  have hge := hi.layout.slot_ge d i
  have hoff := (Effect.pwrite.inj heq).1
  simp only [SCO_SUPERBLOCK_SIZE] at hin
  omega

lemma step_noSlot {s s' : Image} (hi : MemInv s) (hd : DiskInv s) (h : s.NoSlot)
    (hstep : Step s ev s') (ht : s'.Tidy) : s'.NoSlot := by
  obtain ⟨hen, rfl⟩ := hstep
  cases ev with
  | grow =>
    simp only [Event.apply, grow_eq]
    exact h.congr rfl rfl
  | release p =>
    obtain ⟨n, hr⟩ := release_eq s p
    simp only [Event.apply, hr]
    exact h.congr rfl rfl
  | fill c p buf done =>
    have hpush := h.pushData hi (buf.take done) (hi.data_le hen.2.1.ge)
    exact hpush.congr rfl rfl
  | overwrite c off buf done =>
    have hpush := h.pushData hi (buf.take done)
      (Nat.le_trans (named_ge hi hen.1 hen.2.1) (Nat.le_add_right _ off))
    exact hpush.congr rfl rfl
  | sync => exact .of_synced (pending_push_sync s)
  | failSlot c e done =>
    have hshort := hd.failedSlot_short hi hen.1 ht
    refine Image.NoSlot.congr (h.push (e := .pwrite (s.slotOffset c e)
      ((slotBytes s.sb c e).take done)) rfl fun d _ i bs hbs heq => ?_) rfl rfl
    have hlen := congrArg List.length (Effect.pwrite.inj heq).2
    rw [length_take, hbs] at hlen
    omega
  | commit c e | reseal isSealed => exact .of_synced (pending_snoc_sync _)
  | punch => exact h.push rfl fun d _ i bs _ heq => by cases heq
  | failPage => exact failedPage_noSlot hi h
  | _ => exact h.congr rfl rfl

end ScorpiHv.Sco

import ScorpiHv.Lib.Trace
import ScorpiHv.Sco.Ops
import ScorpiHv.Sco.OpenSpec

/-!
# The allocator invariant

Whatever the operations do to an image is a sequence of the events below, so an invariant
is checked once for each event. Every cluster that the table maps lies in the data area, is
marked used, is stored in full and is named by one entry only.
-/

namespace ScorpiHv.Sco
open Bytes List

section
variable (s : Image) (e : Effect)

@[simp] lemma push_fd : (s.push e).fd = s.fd.push e := rfl
@[simp] lemma push_sb : (s.push e).sb = s.sb := rfl
@[simp] lemma push_table : (s.push e).table = s.table := rfl
end

structure Image.InUse (s : Image) (p : Nat) : Prop where
  ge : s.dataClusterBase ≤ p
  lt : p < s.dataClusterBase + s.dataClusterCount
  le : p ≤ UINT32_MAX
  used : s.dataClusterUsed (p - s.dataClusterBase) = true

lemma Image.InUse.congr {s s' : Image} {p : Nat} (h : s.InUse p)
    (hbase : s'.dataClusterBase = s.dataClusterBase) (hcount : s'.dataClusterCount = s.dataClusterCount)
    (hused : s'.dataClusterUsed = s.dataClusterUsed) : s'.InUse p := by
  refine ⟨?_, ?_, h.le, ?_⟩
  · rw [hbase]
    exact h.ge
  · rw [hbase, hcount]
    exact h.lt
  · rw [hbase, hused]
    exact h.used

def Image.Unnamed (s : Image) (p : Nat) : Prop :=
  ∀ c < s.sb.clusterCount, (s.table c).state = .present → (s.table c).physicalCluster ≠ p

/-- A physical cluster taken by the allocator and not yet in the table. -/
structure Image.Spare (s : Image) (p : Nat) : Prop extends s.InUse p where
  unnamed : s.Unnamed p

/-- What `sco_commit_table_entry` makes sure of before it writes the slot of `e`. -/
structure Image.NextEntry (s : Image) (c : Nat) (e : TableEntry) : Prop where
  lt : c < s.sb.clusterCount
  generation : e.generation = (s.table c).generation + 1
  generation_le : e.generation ≤ UINT32_MAX
  slot : e.activeSlot = (s.table c).activeSlot.other
  spare : e.state = .present → s.Spare e.physicalCluster
  stored : e.state = .present →
    e.physicalCluster * s.sb.clusterSize + scoClusterStoredLength s.sb c ≤ s.fd.file.size
  synced : e.state = .present → pending s.fd.log = []
  zero : e.state ≠ .present → e.physicalCluster = 0

inductive Event where
  | cursor (n : Nat)
  | grow
  | mark (index : Nat)
  /-- A new physical cluster `p` is written for cluster `c`; `done` bytes get through. -/
  | fill (c p : Nat) (buf : List UInt8) (done : Nat)
  /-- Cluster `c` is written in place from byte `off` of it on. -/
  | overwrite (c off : Nat) (buf : List UInt8) (done : Nat)
  | extend (n : Nat)
  | sync
  /-- A commit fails after `done` bytes of its slot. -/
  | failSlot (c : Nat) (e : TableEntry) (done : Nat)
  | commit (c : Nat) (e : TableEntry)
  | release (p : Nat)
  | punch (c p : Nat)
  | failPage (isSealed : Bool) (done : Nat)
  | reseal (isSealed : Bool)

def Image.slotOffset (s : Image) (c : Nat) (e : TableEntry) : Nat :=
  scoTableSlotOffset s.sb c e.activeSlot

def Image.pageOffset (s : Image) : Nat := scoInactiveSuperblockOffset s.activeSuperblockOffset

def Image.failed (s : Image) (r : FailedCommit) : Image :=
  { s with failedCommits := s.failedCommits ++ [r] }

def Image.failedSlot (s : Image) (c : Nat) (e : TableEntry) (done : Nat) : Image :=
  let t := s.push (.pwrite (s.slotOffset c e) ((slotBytes s.sb c e).take done))
  t.failed (.slot c e.activeSlot (get s.fd.file.byte (s.slotOffset c e) SCO_TABLE_SLOT_SIZE)
    (slotBytes s.sb c e) (get t.fd.file.byte (s.slotOffset c e) SCO_TABLE_SLOT_SIZE))

def Image.failedPage (s : Image) (isSealed : Bool) (done : Nat) : Image :=
  let page := superblockPage (s.sb.resealed isSealed)
  let t := s.push (.pwrite s.pageOffset (page.take done))
  t.failed (.superblock (get s.fd.file.byte s.pageOffset SCO_SUPERBLOCK_SIZE) page
    (get t.fd.file.byte s.pageOffset SCO_SUPERBLOCK_SIZE))

namespace Event

def apply (s : Image) : Event → Image
  | cursor n => { s with dataAllocCursor := n }
  | grow => scoDataAllocatorGrow s (s.dataClusterCount + 1)
  | mark index => { s with dataClusterUsed := setUsed s.dataClusterUsed index true }
  | fill c p buf done =>
    (recordGuestWrite s c 0 (p * s.sb.clusterSize) buf.length true).push
      (.pwrite (p * s.sb.clusterSize) (buf.take done))
  | overwrite c off buf done =>
    let pos := (s.table c).physicalCluster * s.sb.clusterSize + off
    (recordGuestWrite s c off pos buf.length false).push (.pwrite pos (buf.take done))
  | extend n => { s with fileSize := max s.fileSize n }
  | sync => s.push .sync
  | failSlot c e done => s.failedSlot c e done
  | commit c e =>
    { ((s.push (.pwrite (s.slotOffset c e) (slotBytes s.sb c e))).push .sync) with
      table := setEntry s.table c e }
  | release p => scoDataAllocatorRelease s p
  | punch c p => s.push (.punch (p * s.sb.clusterSize) (scoClusterStoredLength s.sb c))
  | failPage isSealed done => s.failedPage isSealed done
  | reseal isSealed =>
    { ((s.push (.pwrite s.pageOffset (superblockPage (s.sb.resealed isSealed)))).push .sync) with
      sb := s.sb.resealed isSealed
      activeSuperblockOffset := s.pageOffset }

def Enabled (s : Image) : Event → Prop
  | cursor _ => True
  | grow => True
  | mark index => index < s.dataClusterCount ∧ s.dataClusterUsed index = false
  | fill c p buf done =>
    c < s.sb.clusterCount ∧ s.Spare p ∧ buf.length = scoClusterStoredLength s.sb c ∧
      done ≤ buf.length
  | overwrite c off buf done =>
    c < s.sb.clusterCount ∧ (s.table c).state = .present ∧
      off + buf.length ≤ scoClusterStoredLength s.sb c ∧ done ≤ buf.length
  | extend _ => True
  | sync => True
  | failSlot c e done => s.NextEntry c e ∧ done ≤ SCO_TABLE_SLOT_SIZE
  | commit c e => s.NextEntry c e
  | release p => s.Unnamed p
  | punch c p => s.dataClusterBase ≤ p ∧ c < s.sb.clusterCount ∧ s.Unnamed p
  | failPage _ done => done ≤ SCO_SUPERBLOCK_SIZE
  | reseal _ => unsupported s.sb.readonlyCompatibleFeatures SCO_RO_COMPAT_SUPPORTED = 0

def isFailure : Event → Bool
  | fill _ _ buf done => done != buf.length
  | overwrite _ _ buf done => done != buf.length
  | failSlot _ _ _ => true
  | failPage _ _ => true
  | _ => false

def isAbort : Event → Bool
  | failSlot _ _ _ => true
  | failPage _ _ => true
  | _ => false

def isData : Event → Bool
  | failPage _ _ => false
  | reseal _ => false
  | _ => true

end Event

def Step (s : Image) (ev : Event) (s' : Image) : Prop := ev.Enabled s ∧ s' = ev.apply s

structure MemInv (s : Image) : Prop where
  layout : LayoutOk s.sb
  base_eq : s.dataClusterBase = s.sb.dataAreaOffset / s.sb.clusterSize
  generation_le : ∀ c < s.sb.clusterCount, (s.table c).generation ≤ UINT32_MAX
  inUse : ∀ c < s.sb.clusterCount, (s.table c).state = .present →
    s.InUse (s.table c).physicalCluster
  distinct : ∀ c < s.sb.clusterCount, ∀ d < s.sb.clusterCount,
    (s.table c).state = .present → (s.table d).state = .present →
    (s.table c).physicalCluster = (s.table d).physicalCluster → c = d
  stored : ∀ c < s.sb.clusterCount, (s.table c).state = .present →
    (s.table c).physicalCluster * s.sb.clusterSize + scoClusterStoredLength s.sb c ≤
      s.fd.file.size

namespace MemInv
variable {s s' : Image}

lemma data_le (h : MemInv s) {p : Nat} (hp : s.dataClusterBase ≤ p) :
    s.sb.dataAreaOffset ≤ p * s.sb.clusterSize := by
  rw [← h.layout.base_mul, ← h.base_eq]
  exact Nat.mul_le_mul_right _ hp

lemma of_inUse (h : MemInv s) (hsb : s'.sb = s.sb) (htable : s'.table = s.table)
    (hbase : s'.dataClusterBase = s.dataClusterBase) (hsize : s.fd.file.size ≤ s'.fd.file.size)
    (huse : ∀ p, ¬ s.Unnamed p → s.InUse p → s'.InUse p) : MemInv s' := by
  refine ⟨?_, ?_, ?_, ?_, ?_, ?_⟩
  · rw [hsb]
    exact h.layout
  · rw [hbase, hsb]
    exact h.base_eq
  · rw [hsb, htable]
    exact h.generation_le
  · rw [hsb, htable]
    intro c hc hpres
    refine huse _ ?_ (h.inUse c hc hpres)
    intro hun
    exact hun c hc hpres rfl
  · rw [hsb, htable]
    exact h.distinct
  · rw [hsb, htable]
    intro c hc hpres
    exact le_trans (h.stored c hc hpres) hsize

lemma push (h : MemInv s) (e : Effect) : MemInv (s.push e) := by
  refine h.of_inUse rfl rfl rfl ?_ fun _ _ hp => hp.congr rfl rfl rfl
  simp only [push_fd, Handle.push_file]
  exact e.size_le_apply _

end MemInv

lemma grow_eq (s : Image) : scoDataAllocatorGrow s (s.dataClusterCount + 1) =
    { s with
      dataClusterUsed := fun i => if i = s.dataClusterCount then false else s.dataClusterUsed i
      dataClusterCount := s.dataClusterCount + 1 } := by
  have hrange : ∀ i, (s.dataClusterCount ≤ i ∧ i < s.dataClusterCount + 1) ↔
      i = s.dataClusterCount := by omega
  simp only [scoDataAllocatorGrow, if_neg (Nat.not_succ_le_self _), hrange]

lemma release_eq (s : Image) (p : Nat) : ∃ n, scoDataAllocatorRelease s p =
    { s with
      dataClusterUsed := fun i => if s.dataClusterBase ≤ p ∧ i = p - s.dataClusterBase ∧
        i < s.dataClusterCount then false else s.dataClusterUsed i
      dataAllocCursor := n } := by
  unfold scoDataAllocatorRelease
  split
  · refine ⟨s.dataAllocCursor, ?_⟩
    simp only [show ¬ s.dataClusterBase ≤ p by omega, false_and, if_false]
  by_cases hi : p - s.dataClusterBase ≥ s.dataClusterCount
  · rw [if_pos hi]
    refine ⟨s.dataAllocCursor, ?_⟩
    have hnone : ∀ i, ¬ (s.dataClusterBase ≤ p ∧ i = p - s.dataClusterBase ∧
        i < s.dataClusterCount) := by omega
    simp only [hnone, if_false]
  · rw [if_neg hi]
    have hone : ∀ i, (s.dataClusterBase ≤ p ∧ i = p - s.dataClusterBase ∧
        i < s.dataClusterCount) ↔ i = p - s.dataClusterBase := by omega
    simp only [hone]
    split
    · exact ⟨_, rfl⟩
    · exact ⟨s.dataAllocCursor, rfl⟩

lemma inUse_grow {s : Image} {p : Nat} (h : s.InUse p) :
    (scoDataAllocatorGrow s (s.dataClusterCount + 1)).InUse p := by
  have hlt := h.lt
  rw [grow_eq]
  refine ⟨h.ge, ?_, h.le, ?_⟩
  · change p < s.dataClusterBase + (s.dataClusterCount + 1)
    omega
  change (if p - s.dataClusterBase = s.dataClusterCount then false else _) = true
  have hge := h.ge
  rw [if_neg (by omega)]
  exact h.used

lemma inUse_mark {s : Image} {p index : Nat} (h : s.InUse p) :
    ({ s with dataClusterUsed := setUsed s.dataClusterUsed index true } : Image).InUse p := by
  refine ⟨h.ge, h.lt, h.le, ?_⟩
  simp only [setUsed]
  split
  · rfl
  · exact h.used

lemma inUse_release {s : Image} {p q : Nat} (h : s.InUse q) (hne : q ≠ p) :
    (scoDataAllocatorRelease s p).InUse q := by
  obtain ⟨n, hr⟩ := release_eq s p
  have hge := h.ge
  have hother : ¬ (s.dataClusterBase ≤ p ∧ q - s.dataClusterBase = p - s.dataClusterBase ∧
      q - s.dataClusterBase < s.dataClusterCount) := by omega
  rw [hr]
  refine ⟨hge, h.lt, h.le, ?_⟩
  change (if _ then false else _) = true
  rw [if_neg hother]
  exact h.used

lemma entry_same (table : Nat → TableEntry) (c : Nat) (e : TableEntry) : setEntry table c e c = e := by
  simp [setEntry]

lemma entry_other {table : Nat → TableEntry} {c d : Nat} (h : d ≠ c) (e : TableEntry) :
    setEntry table c e d = table d := by simp [setEntry, h]

namespace MemInv
variable {s : Image}

lemma setTable (h : MemInv s) {c : Nat} {e : TableEntry} (he : s.NextEntry c e) :
    MemInv { s with table := setEntry s.table c e } := by
  refine ⟨h.layout, h.base_eq, ?_, ?_, ?_, ?_⟩
  · intro d hd
    by_cases hdc : d = c
    · subst hdc
      simpa only [entry_same] using he.generation_le
    · simpa only [entry_other hdc] using h.generation_le d hd
  · intro d hd
    by_cases hdc : d = c
    · subst hdc
      simp only [entry_same]
      exact fun hp => (he.spare hp).toInUse.congr rfl rfl rfl
    · simp only [entry_other hdc]
      exact fun hp => (h.inUse d hd hp).congr rfl rfl rfl
  · intro d hd d' hd'
    by_cases hdc : d = c <;> by_cases hdc' : d' = c
    · intro _ _ _
      rw [hdc, hdc']
    · subst hdc
      simp only [entry_same, entry_other hdc']
      intro hp hp' heq
      exact absurd heq.symm ((he.spare hp).unnamed d' hd' hp')
    · subst hdc'
      simp only [entry_same, entry_other hdc]
      intro hp hp' heq
      exact absurd heq ((he.spare hp').unnamed d hd hp)
    · simp only [entry_other hdc, entry_other hdc']
      exact h.distinct d hd d' hd'
  · intro d hd
    by_cases hdc : d = c
    · subst hdc
      simp only [entry_same]
      exact he.stored
    · simp only [entry_other hdc]
      exact h.stored d hd

lemma reseal (h : MemInv s) (isSealed : Bool) (active : Nat) :
    MemInv { s with sb := s.sb.resealed isSealed, activeSuperblockOffset := active } where
  layout := ⟨h.layout.cluster_pos, h.layout.cluster_le, h.layout.virtual_pos, h.layout.count_eq,
    h.layout.table_ge, h.layout.table_end, h.layout.data_aligned, h.layout.descriptor⟩
  base_eq := h.base_eq
  generation_le := h.generation_le
  inUse := fun c hc hp => (h.inUse c hc hp).congr rfl rfl rfl
  distinct := h.distinct
  stored := h.stored

end MemInv

lemma opened_memInv {f : File} {readonly : Bool} {s : Image} (h : Opened f readonly s) : MemInv s := by
  obtain ⟨uuid, -, hsel⟩ := h.superblock
  obtain ⟨-, hread⟩ := selectSuperblock_reads hsel
  obtain ⟨hl, -⟩ := readSuperblock_layout hread
  obtain ⟨hbase, -, hmark⟩ := allocatorInit_spec h.allocator
  obtain ⟨hrange, hdistinct⟩ := markPresent_markable hmark
  obtain ⟨-, hused⟩ := markPresent_used hmark
  have hfacts : ∀ c, SlotFacts s.sb f.size c (s.table c) := by
    intro c
    have htable := h.table
    obtain ⟨buf, -, htable⟩ := except_bind_ok.mp htable
    rw [← Except.ok.inj htable]
    exact loadEntry_facts f s.sb f.size c
  refine ⟨hl, hbase, fun c _ => (hfacts c).generation_le, ?_, ?_, ?_⟩
  · intro c hc hp
    obtain ⟨hge, hlt, -⟩ := hrange c (mem_range.mpr hc) hp
    exact ⟨hge, by omega, (hfacts c).cluster_le, hused c (mem_range.mpr hc) hp⟩
  · intro c hc d hd hpc hpd heq
    by_contra hne
    have hpair := pairwise_iff_getElem.mp hdistinct
    simp only [length_range, getElem_range] at hpair
    rcases Nat.lt_or_gt_of_ne hne with hlt | hgt
    · exact hpair c d hc hd hlt hpc hpd heq
    · exact hpair d c hd hc hgt hpd hpc heq.symm
  · intro c _ hp
    rw [h.fd_eq]
    exact (hfacts c).stored hp

lemma step_memInv {s s' : Image} {ev : Event} (h : MemInv s) (hstep : Step s ev s') :
    MemInv s' := by
  obtain ⟨hen, rfl⟩ := hstep
  cases ev with
  | cursor n | extend n =>
    exact h.of_inUse rfl rfl rfl (le_refl _) fun _ _ hp => hp.congr rfl rfl rfl
  | grow =>
    refine h.of_inUse ?_ ?_ ?_ ?_ fun p _ hp => inUse_grow hp <;> simp only [Event.apply, grow_eq]
    exact le_refl _
  | mark => exact h.of_inUse rfl rfl rfl (le_refl _) fun p _ hp => inUse_mark hp
  | fill c p buf =>
    have hrec : MemInv (recordGuestWrite s c 0 (p * s.sb.clusterSize) buf.length true) :=
      h.of_inUse rfl rfl rfl (le_refl _) fun _ _ hp => hp.congr rfl rfl rfl
    exact hrec.push _
  | overwrite c off buf =>
    have hrec : ∀ pos, MemInv (recordGuestWrite s c off pos buf.length false) := fun pos =>
      h.of_inUse rfl rfl rfl (le_refl _) fun _ _ hp => hp.congr rfl rfl rfl
    exact (hrec _).push _
  | sync => exact h.push _
  | failSlot c e done | failPage isSealed done =>
    exact (h.push _).of_inUse rfl rfl rfl (le_refl _)
      fun _ _ hp => hp.congr rfl rfl rfl
  | commit => exact ((h.setTable hen).push _).push _
  | release p =>
    refine h.of_inUse ?_ ?_ ?_ ?_ fun q hq hu => inUse_release hu ?_
    iterate 4
      obtain ⟨n, hr⟩ := release_eq s p
      simp only [Event.apply, hr, le_refl]
    rintro rfl
    exact hq hen
  | punch => exact h.push _
  | reseal isSealed => exact ((h.push _).push _).reseal isSealed _

end ScorpiHv.Sco

import ScorpiHv.Sco.Open

/-!
# What a successful open establishes

Inversion lemmas for the functions `sco_open` calls, and the facts under which
they succeed.
-/

namespace ScorpiHv.Sco
open Bytes List

/-- What `sco_slot_valid` accepts. -/
structure SlotFacts (sb : Superblock) (fileSize c : Nat) (e : TableEntry) : Prop where
  generation_le : e.generation ≤ UINT32_MAX
  cluster_le : e.physicalCluster ≤ UINT32_MAX
  cluster_ge : e.state = .present → sb.dataAreaOffset ≤ e.physicalCluster * sb.clusterSize
  stored : e.state = .present →
    e.physicalCluster * sb.clusterSize + scoClusterStoredLength sb c ≤ fileSize
  zero : e.state ≠ .present → e.physicalCluster = 0

lemma le32dec_le (buf : Store) (off : Nat) : le32dec buf off ≤ UINT32_MAX := by
  have h := leDec_get_lt buf off 4
  simp only [le32dec, UINT32_MAX]
  omega

variable {fileSize off : Nat} {sb : Superblock}

lemma slotValid_facts {c : Nat} {i : Slot} {slot : Store} {e : TableEntry}
    (h : scoSlotValid sb fileSize c i slot = some e) : SlotFacts sb fileSize c e ∧ e.activeSlot = i := by
  have hgen := le32dec_le slot 0x0
  have hpc := le32dec_le slot 0x4
  simp only [scoSlotValid] at h
  split at h
  · cases h
  split at h
  · cases h
  split_ifs at h with hflags hseal hpres hzero hbig hrange hnz
  · have hge : sb.dataAreaOffset ≤ le32dec slot 0x4 * sb.clusterSize := by omega
    have hend : le32dec slot 0x4 * sb.clusterSize + scoClusterStoredLength sb c ≤ fileSize := by omega
    cases h
    exact ⟨⟨hgen, hpc, fun _ => hge, fun _ => hend, fun hne => absurd hpres hne⟩, rfl⟩
  · cases h
    refine ⟨⟨hgen, hpc, fun hp => absurd hp hpres, fun hp => absurd hp hpres, fun _ => ?_⟩, rfl⟩
    simpa using hnz

lemma loadEntry_cases (f : File) (sb : Superblock) (fileSize c : Nat) :
    scoLoadEntry f sb fileSize c = .unmapped ∨ ∃ i,
    scoSlotValid sb fileSize c i (slotAt f sb c i) = some (scoLoadEntry f sb fileSize c) := by
  simp only [scoLoadEntry]
  rcases ha : scoSlotValid sb fileSize c .a (slotAt f sb c .a) with _ | a <;>
    rcases hb : scoSlotValid sb fileSize c .b (slotAt f sb c .b) with _ | b
  · exact .inl rfl
  · exact .inr ⟨.b, hb⟩
  · exact .inr ⟨.a, ha⟩
  simp only [newerSlot]
  split
  · exact .inr ⟨.b, hb⟩
  · exact .inr ⟨.a, ha⟩

lemma loadEntry_facts (f : File) (sb : Superblock) (fileSize c : Nat) :
    SlotFacts sb fileSize c (scoLoadEntry f sb fileSize c) := by
  rcases loadEntry_cases f sb fileSize c with h | ⟨i, h⟩
  · rw [h]
    exact ⟨Nat.zero_le _, Nat.zero_le _, nofun, nofun, fun _ => rfl⟩
  · exact (slotValid_facts h).1

section
variable (table : Nat → TableEntry) (base count : Nat)

structure Markable (is : List Nat) (used : Nat → Bool) : Prop where
  range : ∀ c ∈ is, (table c).state = .present →
    base ≤ (table c).physicalCluster ∧ (table c).physicalCluster - base < count ∧
      used ((table c).physicalCluster - base) = false
  distinct : is.Pairwise fun c d => (table c).state = .present → (table d).state = .present →
    (table c).physicalCluster ≠ (table d).physicalCluster

variable {table base count} {used : Nat → Bool} {is : List Nat} {used' : Nat → Bool}

lemma markPresent_used
    (h : markPresent table base count is used = .ok used') : (∀ i, used i = true → used' i = true) ∧
      ∀ c ∈ is, (table c).state = .present → used' ((table c).physicalCluster - base) = true := by
  induction is generalizing used with
  | nil =>
    cases h
    exact ⟨fun _ hi => hi, nofun⟩
  | cons c is ih =>
    simp only [markPresent] at h
    split_ifs at h with hst hlow hidx
    · obtain ⟨hmono, hmark⟩ := ih h
      refine ⟨hmono, fun d hd hp => ?_⟩
      rcases mem_cons.mp hd with rfl | hd
      · exact absurd hp hst
      · exact hmark d hd hp
    · obtain ⟨hmono, hmark⟩ := ih h
      have hset : ∀ i, used i = true → used' i = true := by
        intro i hi
        refine hmono i ?_
        simp only [setUsed]
        split
        · rfl
        · exact hi
      refine ⟨hset, fun d hd hp => ?_⟩
      rcases mem_cons.mp hd with rfl | hd
      · exact hmono _ (by simp [setUsed])
      · exact hmark d hd hp

lemma markPresent_markable
    (h : markPresent table base count is used = .ok used') : Markable table base count is used := by
  induction is generalizing used with
  | nil => exact ⟨nofun, .nil⟩
  | cons c is ih =>
    simp only [markPresent] at h
    split_ifs at h with hst hlow hidx
    · obtain ⟨hrange, hdist⟩ := ih h
      refine ⟨fun d hd hp => ?_, .cons (fun d _ hp => absurd hp hst) hdist⟩
      rcases mem_cons.mp hd with rfl | hd
      · exact absurd hp hst
      · exact hrange d hd hp
    · obtain ⟨hrange, hdist⟩ := ih h
      have hfree : ∀ d ∈ is, (table d).state = .present →
          (table d).physicalCluster - base ≠ (table c).physicalCluster - base := by
        intro d hd hp heq
        have := (hrange d hd hp).2.2
        simp [setUsed, heq] at this
      refine ⟨fun d hd hp => ?_, .cons (fun d hd _ hp => ?_) hdist⟩
      · rcases mem_cons.mp hd with rfl | hd
        · refine ⟨by omega, by omega, ?_⟩
          simpa using (not_or.mp hidx).2
        · obtain ⟨hge, hlt, hun⟩ := hrange d hd hp
          rw [setUsed, if_neg (hfree d hd hp)] at hun
          exact ⟨hge, hlt, hun⟩
      · intro heq
        exact hfree d hd hp (by rw [heq])

lemma markPresent_ok (h : Markable table base count is used) :
    ∃ used', markPresent table base count is used = .ok used' := by
  induction is generalizing used with
  | nil => exact ⟨used, rfl⟩
  | cons c is ih =>
    obtain ⟨hrange, hdist⟩ := h
    obtain ⟨hhead, hdist⟩ := pairwise_cons.mp hdist
    simp only [markPresent]
    by_cases hst : (table c).state = .present
    · obtain ⟨hge, hlt, hun⟩ := hrange c mem_cons_self hst
      rw [if_neg (by simpa using hst), if_neg (by omega), if_neg (by rw [hun]; simpa using hlt)]
      refine ih ⟨fun d hd hp => ?_, hdist⟩
      obtain ⟨hge', hlt', hun'⟩ := hrange d (mem_cons_of_mem c hd) hp
      have hne := hhead d hd hst hp
      refine ⟨hge', hlt', ?_⟩
      rw [setUsed, if_neg (by omega)]
      exact hun'
    · rw [if_pos hst]
      exact ih ⟨fun d hd => hrange d (mem_cons_of_mem c hd), hdist⟩

end

variable {uuid : List UInt8} {readonly : Bool} {f : File}

lemma selectSuperblock_reads (h : scoSelectSuperblock f readonly uuid fileSize = .ok (sb, off)) :
    (off = SCO_SUPERBLOCK_A_OFFSET ∨ off = SCO_SUPERBLOCK_B_OFFSET) ∧
      scoReadSuperblock f off readonly uuid fileSize = .ok sb := by
  simp only [scoSelectSuperblock] at h
  rcases ha : scoReadSuperblock f SCO_SUPERBLOCK_A_OFFSET readonly uuid fileSize with _ | a <;>
    rcases hb : scoReadSuperblock f SCO_SUPERBLOCK_B_OFFSET readonly uuid fileSize with _ | b <;>
    simp only [ha, hb] at h
  · cases h
  · cases h
    exact ⟨.inr rfl, hb⟩
  · cases h
    exact ⟨.inl rfl, ha⟩
  split_ifs at h
  · cases h
    exact ⟨.inr rfl, hb⟩
  · cases h
    exact ⟨.inl rfl, ha⟩

structure PageFacts (f : File) (off : Nat) (readonly : Bool) (uuid : List UInt8) (fileSize : Nat)
    (sb : Superblock) : Prop where
  inside : off + SCO_SUPERBLOCK_SIZE ≤ f.size
  valid : scoSuperblockPageValid (shift f.byte off) = true
  decoded : scoDecodeSuperblock (shift f.byte off) = sb
  uuid_eq : sb.imageUuid = uuid
  incompatible : unsupported sb.incompatibleFeatures SCO_INCOMPAT_SUPPORTED = 0
  readonlyCompatible : unsupported sb.readonlyCompatibleFeatures SCO_RO_COMPAT_SUPPORTED = 0 ∨
    readonly = true
  fixedTable : sb.incompatibleFeatures &&& SCO_INCOMPAT_FIXED_TABLE_V2 ≠ 0
  layout : scoSuperblockLayoutValid sb fileSize = true

lemma readSuperblock_iff : scoReadSuperblock f off readonly uuid fileSize = .ok sb ↔
      PageFacts f off readonly uuid fileSize sb := by
  constructor
  · intro h
    simp only [scoReadSuperblock] at h
    obtain ⟨buf, hbuf, h⟩ := except_bind_ok.mp h
    have hin : off + SCO_SUPERBLOCK_SIZE ≤ f.size ∧ shift f.byte off = buf := by
      simp only [readExact] at hbuf
      split_ifs at hbuf with hsize
      exact ⟨by simpa [SCO_SUPERBLOCK_SIZE] using hsize, Except.ok.inj hbuf⟩
    obtain ⟨hsize, rfl⟩ := hin
    split_ifs at h with hvalid huuid hinc hro hfix hlayout
    obtain rfl := Except.ok.inj h
    refine ⟨hsize, by simpa using hvalid, rfl, by simpa using huuid, by simpa using hinc, ?_,
      hfix, by simpa using hlayout⟩
    by_cases hz : unsupported (scoDecodeSuperblock (shift f.byte off)).readonlyCompatibleFeatures
        SCO_RO_COMPAT_SUPPORTED = 0
    · exact .inl hz
    · exact .inr (by simpa [hz] using hro)
  · rintro ⟨hsize, hvalid, rfl, huuid, hinc, hro, hfix, hlayout⟩
    have hread : readExact f off SCO_SUPERBLOCK_SIZE = .ok (shift f.byte off) := if_pos (.inr hsize)
    simp only [scoReadSuperblock, hread, except_ok_bind]
    rw [if_neg (by simpa using hvalid), if_neg (by simpa using huuid), if_neg (by simpa using hinc),
      if_neg (by rcases hro with h | h <;> simp [h]), if_neg hfix, if_neg (by simpa using hlayout)]

lemma readSuperblock_layout (h : scoReadSuperblock f off readonly uuid fileSize = .ok sb) :
    LayoutOk sb ∧ sb.dataAreaOffset ≤ fileSize := by
  have hf := readSuperblock_iff.mp h
  refine layoutOk_of_valid ?_ hf.layout
  rw [← hf.decoded]
  exact leDec_get_lt _ 0x20 8

lemma dataClusters_eq {count : Nat} (hl : LayoutOk sb) (hsize : sb.dataAreaOffset ≤ fileSize)
    (h : dataClusters sb fileSize = .ok count) :
    count = (fileSize + sb.clusterSize - 1) / sb.clusterSize - sb.dataAreaOffset / sb.clusterSize := by
  have hpos := hl.cluster_pos
  simp only [dataClusters] at h
  split_ifs at h with hle hbig hlow
  · cases h
    have hround : (fileSize + sb.clusterSize - 1) / sb.clusterSize =
        sb.dataAreaOffset / sb.clusterSize := by
      have hmul := hl.base_mul
      refine Nat.div_eq_of_lt_le ?_ ?_
      · omega
      · rw [Nat.succ_mul]
        omega
    omega
  · cases h
    rfl

lemma allocatorInit_spec {base count : Nat} {table : Nat → TableEntry} {used : Nat → Bool}
    (h : scoDataAllocatorInit sb fileSize table = .ok (base, count, used)) :
    base = sb.dataAreaOffset / sb.clusterSize ∧ dataClusters sb fileSize = .ok count ∧
      markPresent table base count (List.range sb.clusterCount) (fun _ => false) = .ok used := by
  simp only [scoDataAllocatorInit] at h
  split_ifs at h
  obtain ⟨n, hn, h⟩ := except_bind_ok.mp h
  obtain ⟨u, hu, h⟩ := except_bind_ok.mp h
  cases h
  exact ⟨rfl, hn, hu⟩

lemma cluster_lt_round {cs p n : Nat} (hn : 0 < n) (hcs : 0 < cs)
    (h : p * cs + n ≤ fileSize) : p < (fileSize + cs - 1) / cs := by
  rw [Nat.lt_iff_add_one_le, Nat.le_div_iff_mul_le hcs, Nat.add_mul]
  omega

structure Opened (f : File) (readonly : Bool) (s : Image) : Prop where
  size : SCO_MIN_FILE_SIZE ≤ f.size
  superblock : ∃ uuid, scoReadFileId f = .ok uuid ∧
    scoSelectSuperblock f readonly uuid f.size = .ok (s.sb, s.activeSuperblockOffset)
  writable : readonly = false → s.sb.isSealed = false
  table : scoLoadTable f s.sb f.size = .ok s.table
  allocator : scoDataAllocatorInit s.sb f.size s.table =
    .ok (s.dataClusterBase, s.dataClusterCount, s.dataClusterUsed)
  descriptor : scoReadBaseDescriptor f s.sb = .ok s.base
  fd_eq : s.fd = ⟨f, []⟩
  readonly_eq : s.readonly = readonly
  guestWrites_eq : s.guestWrites = []
  failedCommits_eq : s.failedCommits = []

lemma opened_of_scoOpen {s : Image} (h : scoOpen f readonly = .ok s) : Opened f readonly s := by
  simp only [scoOpen] at h
  split_ifs at h with hsize
  obtain ⟨uuid, huuid, h⟩ := except_bind_ok.mp h
  obtain ⟨⟨sb, active⟩, hsel, h⟩ := except_bind_ok.mp h
  split_ifs at h with hseal
  obtain ⟨table, htable, h⟩ := except_bind_ok.mp h
  obtain ⟨⟨base, count, used⟩, halloc, h⟩ := except_bind_ok.mp h
  obtain ⟨desc, hdesc, h⟩ := except_bind_ok.mp h
  cases h
  refine ⟨by omega, ⟨uuid, huuid, hsel⟩, ?_, htable, halloc, hdesc, rfl, rfl, rfl, rfl⟩
  intro hro
  simpa [hro] using hseal

lemma scoOpen_ok {active base count : Nat} {table : Nat → TableEntry} {used : Nat → Bool}
    {descriptor : Option BaseDescriptor} (hsize : SCO_MIN_FILE_SIZE ≤ f.size)
    (huuid : scoReadFileId f = .ok uuid)
    (hsel : scoSelectSuperblock f readonly uuid f.size = .ok (sb, active))
    (hseal : readonly = false → sb.isSealed = false) (htable : scoLoadTable f sb f.size = .ok table)
    (halloc : scoDataAllocatorInit sb f.size table = .ok (base, count, used))
    (hdesc : scoReadBaseDescriptor f sb = .ok descriptor) : ∃ s, scoOpen f readonly = .ok s ∧
    s.sb = sb ∧ s.table = table ∧ s.base = descriptor ∧ s.activeSuperblockOffset = active := by
  have hopen : ¬ (readonly = false ∧ sb.isSealed = true) := by
    rintro ⟨hro, hs⟩
    exact Bool.false_ne_true ((hseal hro).symm.trans hs)
  simp only [scoOpen, if_neg (Nat.not_lt.mpr hsize), huuid, hsel, if_neg hopen, htable, halloc,
    hdesc, except_ok_bind]
  exact ⟨_, rfl, rfl, rfl, rfl, rfl⟩

end ScorpiHv.Sco

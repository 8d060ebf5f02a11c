import ScorpiHv.Sco.Create

/-!
# A file that holds a given image

`DiskOk f sb table base` says that `sco_open` finds them in the file: the active
slot of each cluster is the one `sco_build_slot` makes, and the other slot is invalid
or older, whatever size the file may grow to.
-/

namespace ScorpiHv.Sco
open Bytes

def Superblock.retag (sb : Superblock) (generation features : Nat) : Superblock :=
  { sb with generation := generation, readonlyCompatibleFeatures := features }

/-- A superblock that a page can hold and that every open accepts. -/
structure Superblock.Sound (sb : Superblock) : Prop where
  fits : sb.Fits
  asRead_eq : sb.asRead = sb
  incompatible : unsupported sb.incompatibleFeatures SCO_INCOMPAT_SUPPORTED = 0
  fixedTable : sb.incompatibleFeatures &&& SCO_INCOMPAT_FIXED_TABLE_V2 ≠ 0
  readonlyCompatible : unsupported sb.readonlyCompatibleFeatures SCO_RO_COMPAT_SUPPORTED = 0
  layout : scoSuperblockLayoutValid sb sb.dataAreaOffset = true
  data_le : sb.dataAreaOffset ≤ 2 ^ 55
  descriptor_end : sb.baseDescriptorOffset + sb.baseDescriptorLength ≤ sb.tableOffset

variable {sb : Superblock}

lemma layoutValid_mono {n m : Nat} (hnm : n ≤ m)
    (h : scoSuperblockLayoutValid sb n = true) : scoSuperblockLayoutValid sb m = true := by
  simp only [scoSuperblockLayoutValid, Bool.and_eq_true] at h ⊢
  obtain ⟨⟨hrest, hdata⟩, hdesc⟩ := h
  refine ⟨⟨hrest, ?_⟩, hdesc⟩
  simp only [Bool.not_eq_true', Bool.or_eq_false_iff, decide_eq_false_iff_not] at hdata ⊢
  exact ⟨hdata.1, by omega⟩

lemma Superblock.Fits.retag (h : sb.Fits) {g r : Nat} (hg : g < 2 ^ 64)
    (hr : r < 2 ^ 32) : (sb.retag g r).Fits :=
  ⟨hg, h.virtualSize, h.logicalSectorSize, h.physicalSectorSize, h.clusterSize, h.clusterCount,
    h.dataAreaOffset, h.baseDescriptorOffset, h.baseDescriptorLength, h.tableOffset, h.tableLength,
    h.incompatibleFeatures, hr, h.compatibleFeatures, h.imageUuid, h.imageDigest⟩

namespace Superblock.Sound
variable {sb : Superblock}

lemma layoutOk (h : sb.Sound) : LayoutOk sb := (layoutOk_of_valid h.fits.virtualSize h.layout).1

lemma retag (h : sb.Sound) {g r : Nat} (hg : g < 2 ^ 64) (hr : r < 2 ^ 32)
    (hsup : unsupported r SCO_RO_COMPAT_SUPPORTED = 0) : (sb.retag g r).Sound where
  fits := h.fits.retag hg hr
  asRead_eq := congrArg (Superblock.retag · g r) h.asRead_eq
  incompatible := h.incompatible
  fixedTable := h.fixedTable
  readonlyCompatible := hsup
  layout := h.layout
  data_le := h.data_le
  descriptor_end := h.descriptor_end

end Superblock.Sound

structure SlotOk (f : File) (sb : Superblock) (c : Nat) (e : TableEntry) : Prop where
  active : e = .unmapped ∧ (∀ n, scoSlotValid sb n c .b (slotAt f sb c .b) = none) ∨
    EntryOk sb e ∧ get f.byte (scoTableSlotOffset sb c e.activeSlot) SCO_TABLE_SLOT_SIZE =
      slotBytes sb c e
  stale : ∀ n x, scoSlotValid sb n c e.activeSlot.other (slotAt f sb c e.activeSlot.other) =
    some x → x.generation < e.generation

lemma slotAt_get (f : File) (sb : Superblock) (c : Nat) (i : Slot) :
    get (slotAt f sb c i) 0 SCO_TABLE_SLOT_SIZE =
      get f.byte (scoTableSlotOffset sb c i) SCO_TABLE_SLOT_SIZE := by
  rw [slotAt, get_shift, Nat.add_zero]

lemma newerSlot_b {x : Option TableEntry} {e : TableEntry}
    (h : ∀ y, x = some y → y.generation < e.generation) : newerSlot x (some e) = e := by
  cases x with
  | none => rfl
  | some y => exact if_pos (h y rfl)

lemma newerSlot_a {x : Option TableEntry} {e : TableEntry}
    (h : ∀ y, x = some y → y.generation < e.generation) : newerSlot (some e) x = e := by
  cases x with
  | none => rfl
  | some y => exact if_neg (Nat.not_lt.mpr (h y rfl).le)

namespace SlotOk
variable {f f' : File} {sb : Superblock} {c : Nat} {e : TableEntry}

lemma load (h : SlotOk f sb c e) (hl : LayoutOk sb) {n : Nat}
    (hstored : e.state = .present → e.physicalCluster * sb.clusterSize + scoClusterStoredLength sb c ≤ n) :
    scoLoadEntry f sb n c = e := by
  rcases h.active with ⟨rfl, hb⟩ | ⟨he, hbytes⟩
  · have ha : scoSlotValid sb n c .a (slotAt f sb c .a) = none := by
      cases hx : scoSlotValid sb n c .a (slotAt f sb c .a) with
      | none => rfl
      | some x => exact absurd (h.stale n x hx) (Nat.not_lt_zero _)
    rw [scoLoadEntry, ha, hb]
    rfl
  · have hact : scoSlotValid sb n c e.activeSlot (slotAt f sb c e.activeSlot) = some e :=
      slotValid_built hl he hstored (by rw [slotAt_get, hbytes])
    have hstale := h.stale n
    cases hi : e.activeSlot with
    | a =>
      rw [hi] at hact hstale
      rw [scoLoadEntry, hact]
      exact newerSlot_a hstale
    | b =>
      rw [hi] at hact hstale
      rw [scoLoadEntry, hact]
      exact newerSlot_b hstale

lemma congr (h : SlotOk f sb c e)
    (hsame : ∀ i, get f'.byte (scoTableSlotOffset sb c i) SCO_TABLE_SLOT_SIZE =
      get f.byte (scoTableSlotOffset sb c i) SCO_TABLE_SLOT_SIZE) : SlotOk f' sb c e := by
  have hvalid : ∀ n i, scoSlotValid sb n c i (slotAt f' sb c i) =
      scoSlotValid sb n c i (slotAt f sb c i) := by
    intro n i
    exact slotValid_congr (by rw [slotAt_get, slotAt_get, hsame])
  refine ⟨?_, fun n x hx => h.stale n x (by rwa [hvalid] at hx)⟩
  rcases h.active with ⟨he, hb⟩ | ⟨he, hbytes⟩
  · exact .inl ⟨he, fun n => by rw [hvalid, hb]⟩
  · exact .inr ⟨he, by rw [hsame, hbytes]⟩

end SlotOk

lemma zero_slot_invalid {n c : Nat} {i : Slot} {m : Store}
    (h : ∀ j < SCO_TABLE_SLOT_SIZE, m j = 0) : scoSlotValid sb n c i m = none := by
  have hdec : ∀ off k, off + k ≤ SCO_TABLE_SLOT_SIZE → leDec (get m off k) = 0 := by
    intro off k hend
    have hzero : get m off k = List.replicate k 0 := by
      rw [← get_replicate_zero k]
      exact List.map_congr_left fun j hj => h _ (by have := List.mem_range.mp hj; omega)
    rw [hzero, leDec_replicate_zero]
  exact if_pos ⟨hdec 0x0 4 (by decide), hdec 0x4 4 (by decide), hdec 0x8 4 (by decide),
    h 0xc (by decide), h 0xd (by decide), hdec 0xe 2 (by decide)⟩

def IsPage (off : Nat) : Prop := off = SCO_SUPERBLOCK_A_OFFSET ∨ off = SCO_SUPERBLOCK_B_OFFSET

def PageOk (sb : Superblock) (m : Store) : Prop :=
  scoSuperblockPageValid m = false ∨
    ∃ g r, scoDecodeSuperblock m = sb.retag g r ∧ unsupported r SCO_RO_COMPAT_SUPPORTED = 0

lemma PageOk.congr {m m' : Store} (h : PageOk sb m)
    (hm : get m' 0 SCO_SUPERBLOCK_SIZE = get m 0 SCO_SUPERBLOCK_SIZE) : PageOk sb m' := by
  rwa [PageOk, superblockPageValid_congr hm, decodeSuperblock_congr hm]

lemma PageOk.retag {m : Store} (h : PageOk sb m) (g r : Nat) : PageOk (sb.retag g r) m := by
  rcases h with h | ⟨g', r', hdec, hsup⟩
  · exact .inl h
  · exact .inr ⟨g', r', hdec, hsup⟩

structure DiskOk (f : File) (sb : Superblock) (table : Nat → TableEntry)
    (base : Option BaseDescriptor) : Prop where
  size_ge : sb.dataAreaOffset ≤ f.size
  size_le : f.size ≤ 2 ^ 55
  fileId : scoReadFileId f = .ok sb.imageUuid
  pages : ∀ off, IsPage off → PageOk sb (shift f.byte off)
  readable : ∃ off, IsPage off ∧ scoSuperblockPageValid (shift f.byte off) = true
  slots : ∀ c < sb.clusterCount, SlotOk f sb c (table c)
  descriptor : scoReadBaseDescriptor f sb = .ok base

structure Mapped (fileSize : Nat) (sb : Superblock) (table : Nat → TableEntry) : Prop where
  ge : ∀ c < sb.clusterCount, (table c).state = .present →
    sb.dataAreaOffset ≤ (table c).physicalCluster * sb.clusterSize
  stored : ∀ c < sb.clusterCount, (table c).state = .present →
    (table c).physicalCluster * sb.clusterSize + scoClusterStoredLength sb c ≤ fileSize
  distinct : ∀ c < sb.clusterCount, ∀ d < sb.clusterCount,
    (table c).state = .present → (table d).state = .present →
    (table c).physicalCluster = (table d).physicalCluster → c = d

section
variable {f f' : File}

lemma readExact_ok {off len : Nat} (h : off + len ≤ f.size) :
    readExact f off len = .ok (shift f.byte off) := if_pos (.inr h)

lemma fileId_congr (hsize : SCO_FILE_ID_SIZE ≤ f.size) (hsize' : SCO_FILE_ID_SIZE ≤ f'.size)
    (h : get f'.byte 0 SCO_FILE_ID_SIZE = get f.byte 0 SCO_FILE_ID_SIZE) :
    scoReadFileId f' = scoReadFileId f := by
  have hm : get (shift f'.byte SCO_FILE_ID_OFFSET) 0 SCO_FILE_ID_SIZE =
      get (shift f.byte SCO_FILE_ID_OFFSET) 0 SCO_FILE_ID_SIZE := by
    rw [get_shift, get_shift]
    exact h
  have hoff : SCO_FILE_ID_OFFSET = 0 := rfl
  simp only [scoReadFileId, readExact_ok (by omega : SCO_FILE_ID_OFFSET + SCO_FILE_ID_SIZE ≤ f.size),
    readExact_ok (by omega : SCO_FILE_ID_OFFSET + SCO_FILE_ID_SIZE ≤ f'.size), except_ok_bind,
    get_agree hm (by decide : 0 + 8 ≤ _), le16dec_agree hm (by decide : 0x8 + 2 ≤ _),
    le32dec_agree hm (by decide : 0xc + 4 ≤ _), le32dec_agree hm (by decide : 0x20 + 4 ≤ _),
    le32dec_agree hm (by decide : 0x24 + 4 ≤ _), crc32cValid_congr hm,
    reservedZero_congr hm (by decide : 0x28 + (SCO_FILE_ID_SIZE - 0x28) ≤ _),
    get_agree hm (by decide : 0x10 + 16 ≤ _)]

variable {sb : Superblock}

lemma readBaseDescriptor_congr
    (hsize : sb.baseDescriptorOffset + sb.baseDescriptorLength ≤ f.size)
    (hsize' : sb.baseDescriptorOffset + sb.baseDescriptorLength ≤ f'.size)
    (hlen : sb.baseDescriptorOffset ≠ 0 → SCO_BASE_DESCRIPTOR_MIN_SIZE ≤ sb.baseDescriptorLength)
    (h : get f'.byte sb.baseDescriptorOffset sb.baseDescriptorLength =
      get f.byte sb.baseDescriptorOffset sb.baseDescriptorLength) :
    scoReadBaseDescriptor f' sb = scoReadBaseDescriptor f sb := by
  simp only [scoReadBaseDescriptor]
  by_cases hnone : sb.baseDescriptorOffset = 0
  · rw [if_pos hnone, if_pos hnone]
  rw [if_neg hnone, if_neg hnone, readExact_ok hsize, readExact_ok hsize']
  simp only [except_ok_bind]
  have hm : get (shift f'.byte sb.baseDescriptorOffset) 0 sb.baseDescriptorLength =
      get (shift f.byte sb.baseDescriptorOffset) 0 sb.baseDescriptorLength := by
    rw [get_shift, get_shift]
    exact h
  have hmin := hlen hnone
  generalize shift f'.byte sb.baseDescriptorOffset = buf' at hm ⊢
  generalize shift f.byte sb.baseDescriptorOffset = buf at hm ⊢
  have hd32 : ∀ off, off + 4 ≤ SCO_BASE_DESCRIPTOR_MIN_SIZE → le32dec buf' off = le32dec buf off :=
    fun off hend => le32dec_agree hm (by omega)
  simp only [hd32 0x0 (by decide), hd32 0x4 (by decide), hd32 0x8 (by decide), hd32 0xc (by decide),
    hd32 0x10 (by decide), hd32 0x14 (by decide), hd32 0x48 (by decide), hd32 0x4c (by decide)]
  -- past the first check the stored size is the one the superblock names
  split
  · rfl
  have hsz : le32dec buf 0x0 = sb.baseDescriptorLength := by omega
  have huri : SCO_BASE_DESCRIPTOR_MIN_SIZE + le32dec buf 0x10 ≤ sb.baseDescriptorLength := by omega
  rw [hsz, crc32cValid_congr hm, reservedZero_congr hm (by omega)]
  split
  · rfl
  split
  · rfl
  by_cases hshort : le32dec buf 0x10 < 5
  · rw [if_pos (.inl hshort), if_pos (.inl hshort)]
  rw [get_agree hm (by omega : SCO_BASE_DESCRIPTOR_MIN_SIZE + 5 ≤ _), get_agree hm huri,
    get_agree hm (by simp only [SCO_BASE_DESCRIPTOR_MIN_SIZE] at hmin; omega : 0x18 + 16 ≤ _),
    get_agree hm (by simp only [SCO_BASE_DESCRIPTOR_MIN_SIZE] at hmin; omega : 0x28 + 32 ≤ _)]

lemma descriptor_min {n : Nat} (h : scoSuperblockLayoutValid sb n = true)
    (hne : sb.baseDescriptorOffset ≠ 0) : SCO_BASE_DESCRIPTOR_MIN_SIZE ≤ sb.baseDescriptorLength := by
  simp only [scoSuperblockLayoutValid, Bool.and_eq_true] at h
  have hdesc := h.2
  rw [if_neg (by simpa using hne)] at hdesc
  simp only [rangeBeforeData, SCO_METADATA_PAGE_SIZE, Bool.and_eq_true, bne_iff_ne, beq_iff_eq] at hdesc
  simp only [SCO_BASE_DESCRIPTOR_MIN_SIZE]
  omega

lemma descriptor_none {n : Nat} (h : scoSuperblockLayoutValid sb n = true)
    (hnone : sb.baseDescriptorOffset = 0) : sb.baseDescriptorLength = 0 := by
  simp only [scoSuperblockLayoutValid, Bool.and_eq_true] at h
  have hlen := h.2
  rw [if_pos (by simpa using hnone)] at hlen
  simpa using hlen

end

lemma DiskOk.rewrite {f f' : File} {table table' : Nat → TableEntry} {base : Option BaseDescriptor}
    (h : DiskOk f sb table base) (hs : sb.Sound) (hge : f.size ≤ f'.size) (hle : f'.size ≤ 2 ^ 55)
    (hid : ∀ i < SCO_FILE_ID_SIZE, f'.byte i = f.byte i)
    (hdesc : ∀ i, SCO_METADATA_AREA_OFFSET ≤ i → i < sb.tableOffset → f'.byte i = f.byte i)
    (hpages : ∀ off, IsPage off → PageOk sb (shift f'.byte off))
    (hread : ∃ off, IsPage off ∧ scoSuperblockPageValid (shift f'.byte off) = true)
    (hslots : ∀ c < sb.clusterCount, SlotOk f' sb c (table' c)) : DiskOk f' sb table' base := by
  have hl := hs.layoutOk
  have hdata := hl.data_ge
  have hsize := h.size_ge
  have hend := hs.descriptor_end
  have htab := hl.table_end
  have hidsize : SCO_FILE_ID_SIZE ≤ SCO_METADATA_AREA_OFFSET := by decide
  refine ⟨by omega, hle, ?_, hpages, hread, hslots, ?_⟩
  · rw [fileId_congr (by omega) (by omega) (get_congr fun i _ hlt => hid i (by omega))]
    exact h.fileId
  rw [← h.descriptor]
  refine readBaseDescriptor_congr (by omega) (by omega) (descriptor_min hs.layout) ?_
  refine get_congr fun i hi hlt => ?_
  rcases hl.descriptor with hnone | ⟨hoff, -⟩
  · have := descriptor_none hs.layout hnone
    omega
  · exact hdesc i (by omega) (by omega)

section
variable {f : File} {sb : Superblock} {table : Nat → TableEntry} {base : Option BaseDescriptor}

lemma DiskOk.readPage (h : DiskOk f sb table base) (hs : sb.Sound) {off : Nat} (hoff : IsPage off)
    (hvalid : scoSuperblockPageValid (shift f.byte off) = true) (readonly : Bool) : ∃ g r,
    scoDecodeSuperblock (shift f.byte off) = sb.retag g r ∧ unsupported r SCO_RO_COMPAT_SUPPORTED = 0 ∧
    scoReadSuperblock f off readonly sb.imageUuid f.size = .ok (sb.retag g r) := by
  rcases h.pages off hoff with hbad | ⟨g, r, hdec, hsup⟩
  · rw [hvalid] at hbad
    cases hbad
  have hdata := hs.layoutOk.data_ge
  have hsize := h.size_ge
  refine ⟨g, r, hdec, hsup, readSuperblock_iff.mpr ?_⟩
  refine ⟨?_, hvalid, hdec, rfl, hs.incompatible, .inl hsup, hs.fixedTable,
    layoutValid_mono hsize hs.layout⟩
  simp only [SCO_METADATA_AREA_OFFSET] at hdata
  rcases hoff with rfl | rfl <;>
    simp only [SCO_SUPERBLOCK_A_OFFSET, SCO_SUPERBLOCK_B_OFFSET, SCO_SUPERBLOCK_SIZE] <;> omega

lemma DiskOk.select (h : DiskOk f sb table base) (hs : sb.Sound) (readonly : Bool) : ∃ g r off,
    scoSelectSuperblock f readonly sb.imageUuid f.size = .ok (sb.retag g r, off) ∧ IsPage off ∧
    scoSuperblockPageValid (shift f.byte off) = true ∧
    scoDecodeSuperblock (shift f.byte off) = sb.retag g r ∧ unsupported r SCO_RO_COMPAT_SUPPORTED = 0 := by
  obtain ⟨off, hoff, hvalid⟩ := h.readable
  obtain ⟨g, r, -, -, hread⟩ := h.readPage hs hoff hvalid readonly
  have hsel : ∃ sb' off', scoSelectSuperblock f readonly sb.imageUuid f.size =
      .ok (sb', off') := by
    simp only [scoSelectSuperblock]
    rcases ha :
      scoReadSuperblock f SCO_SUPERBLOCK_A_OFFSET readonly sb.imageUuid f.size with ea | a <;> rcases hb :
      scoReadSuperblock f SCO_SUPERBLOCK_B_OFFSET readonly sb.imageUuid f.size with eb | b
    · rcases hoff with rfl | rfl
      · rw [ha] at hread
        cases hread
      · rw [hb] at hread
        cases hread
    · exact ⟨_, _, rfl⟩
    · exact ⟨_, _, rfl⟩
    · dsimp only
      split
      · exact ⟨_, _, rfl⟩
      · exact ⟨_, _, rfl⟩
  obtain ⟨sb', off', hsel⟩ := hsel
  obtain ⟨hoff', hread'⟩ := selectSuperblock_reads hsel
  have hfacts := readSuperblock_iff.mp hread'
  obtain ⟨g', r', hdec, hsup, -⟩ := h.readPage hs hoff' hfacts.valid readonly
  have heq : sb' = sb.retag g' r' := by rw [← hfacts.decoded, hdec]
  rw [heq] at hsel
  exact ⟨g', r', off', hsel, hoff', hfacts.valid, hdec, hsup⟩

lemma dataClusters_ok (hl : LayoutOk sb) {n : Nat} (hle : n ≤ 2 ^ 55) :
    ∃ count, dataClusters sb n = .ok count := by
  have hcs := hl.cluster_le
  simp only [SCO_MAX_CLUSTER_SIZE] at hcs
  simp only [dataClusters]
  split
  · exact ⟨_, rfl⟩
  rw [if_neg (by simp only [UINT64_MAX]; omega)]
  have hbase : sb.dataAreaOffset / sb.clusterSize ≤ (n + sb.clusterSize - 1) / sb.clusterSize :=
    Nat.div_le_div_right (by omega)
  rw [if_neg (by omega)]
  exact ⟨_, rfl⟩

lemma allocatorInit_ok (hl : LayoutOk sb) {n : Nat} (hge : sb.dataAreaOffset ≤ n) (hle : n ≤ 2 ^ 55)
    (hm : Mapped n sb table) : ∃ r, scoDataAllocatorInit sb n table = .ok r := by
  obtain ⟨count, hcount⟩ := dataClusters_ok hl hle
  have hcount' := dataClusters_eq hl hge hcount
  have hpos := hl.cluster_pos
  have hmark : Markable table (sb.dataAreaOffset / sb.clusterSize) count
      (List.range sb.clusterCount) fun _ => false := by
    constructor
    · intro c hc hp
      have hc := List.mem_range.mp hc
      have hlow : sb.dataAreaOffset / sb.clusterSize ≤ (table c).physicalCluster :=
        Nat.div_le_of_le_mul (by rw [Nat.mul_comm]; exact hm.ge c hc hp)
      have hhigh := cluster_lt_round (hl.stored_pos hc) hpos (hm.stored c hc hp)
      exact ⟨hlow, by omega, rfl⟩
    · refine List.pairwise_iff_getElem.mpr fun i j hi hj hlt => ?_
      simp only [List.length_range, List.getElem_range] at hi hj ⊢
      intro hpi hpj heq
      have := hm.distinct i hi j hj hpi hpj heq
      omega
  obtain ⟨used, hused⟩ := markPresent_ok hmark
  refine ⟨(sb.dataAreaOffset / sb.clusterSize, count, used), ?_⟩
  simp only [scoDataAllocatorInit]
  rw [if_neg (by simpa using hl.data_aligned), hcount, except_ok_bind, hused, except_ok_bind]

lemma Mapped.congr {n : Nat} {table' : Nat → TableEntry} (h : Mapped n sb table)
    (heq : ∀ c < sb.clusterCount, table' c = table c) : Mapped n sb table' where
  ge := fun c hc => by rw [heq c hc]; exact h.ge c hc
  stored := fun c hc => by rw [heq c hc]; exact h.stored c hc
  distinct := fun c hc d hd => by rw [heq c hc, heq d hd]; exact h.distinct c hc d hd

section
variable (h : DiskOk f sb table base)
include h

lemma DiskOk.scoOpen_ok (hs : sb.Sound)
    (hm : Mapped f.size sb table) {readonly : Bool}
    (hseal : readonly = false → ∀ off, IsPage off →
      scoSuperblockPageValid (shift f.byte off) = true →
      (scoDecodeSuperblock (shift f.byte off)).isSealed = false) :
    ∃ s, scoOpen f readonly = .ok s := by
  have hl := hs.layoutOk
  have hdata := hl.data_ge
  have hsize := h.size_ge
  have htab := hl.table_end
  have hmin : SCO_MIN_FILE_SIZE = SCO_METADATA_AREA_OFFSET := rfl
  obtain ⟨g, r, off, hsel, hoff, hvalid, hdec, hsup⟩ := h.select hs readonly
  have hload : ∀ c < sb.clusterCount, scoLoadEntry f (sb.retag g r) f.size c = table c :=
    fun c hc => (h.slots c hc).load hl (hm.stored c hc)
  have htable : scoLoadTable f (sb.retag g r) f.size =
      .ok (scoLoadEntry f (sb.retag g r) f.size) := by
    have hread : readExact f (sb.retag g r).tableOffset
        ((sb.retag g r).clusterCount * SCO_TABLE_ENTRY_SIZE) = .ok (shift f.byte sb.tableOffset) :=
      readExact_ok (Nat.le_trans htab hsize)
    rw [scoLoadTable, hread, except_ok_bind]
  obtain ⟨⟨b, count, used⟩, halloc⟩ : ∃ a, scoDataAllocatorInit (sb.retag g r) f.size
      (scoLoadEntry f (sb.retag g r) f.size) = .ok a :=
    allocatorInit_ok hl hsize h.size_le (hm.congr hload)
  have hdesc : scoReadBaseDescriptor f (sb.retag g r) = .ok base := h.descriptor
  obtain ⟨s, hopen, -⟩ := Sco.scoOpen_ok (by omega) h.fileId hsel
    (fun hro => by rw [← hdec]; exact hseal hro off hoff hvalid) htable halloc hdesc
  exact ⟨s, hopen⟩

lemma DiskOk.readSuperblock_mode (hs : sb.Sound) {off : Nat}
    (hoff : IsPage off) :
    scoReadSuperblock f off false sb.imageUuid f.size =
      scoReadSuperblock f off true sb.imageUuid f.size := by
  cases hvalid : scoSuperblockPageValid (shift f.byte off) with
  | true =>
    obtain ⟨g, r, hdec, -, hrw⟩ := h.readPage hs hoff hvalid false
    obtain ⟨g', r', hdec', -, hro⟩ := h.readPage hs hoff hvalid true
    rw [hrw, hro, ← hdec, ← hdec']
  | false =>
    have hdata := hs.layoutOk.data_ge
    have hsize := h.size_ge
    have hread : readExact f off SCO_SUPERBLOCK_SIZE = .ok (shift f.byte off) := by
      refine readExact_ok ?_
      simp only [SCO_METADATA_AREA_OFFSET] at hdata
      rcases hoff with rfl | rfl <;>
        simp only [SCO_SUPERBLOCK_A_OFFSET, SCO_SUPERBLOCK_B_OFFSET, SCO_SUPERBLOCK_SIZE] <;> omega
    simp [scoReadSuperblock, hread, hvalid]

lemma DiskOk.scoOpen_writable (hs : sb.Sound) {t : Image} (ht : scoOpen f true = .ok t)
    (hun : t.sb.isSealed = false) : ∃ t', scoOpen f false = .ok t' := by
  have ho := opened_of_scoOpen ht
  obtain ⟨uuid, huuid, hsel⟩ := ho.superblock
  obtain rfl := Except.ok.inj (h.fileId.symm.trans huuid)
  have hmode : scoSelectSuperblock f false sb.imageUuid f.size =
      scoSelectSuperblock f true sb.imageUuid f.size := by
    simp only [scoSelectSuperblock, h.readSuperblock_mode hs (.inl rfl),
      h.readSuperblock_mode hs (.inr rfl)]
  obtain ⟨t', ht', -⟩ := Sco.scoOpen_ok ho.size huuid (hmode.trans hsel) (fun _ => hun) ho.table
    ho.allocator ho.descriptor
  exact ⟨t', ht'⟩

lemma DiskOk.opened (hs : sb.Sound) (hm : Mapped f.size sb table) {readonly : Bool} {s : Image}
    (ho : Opened f readonly s) : (∃ g r, s.sb = sb.retag g r ∧ (sb.retag g r).Sound) ∧
    (∀ c < sb.clusterCount, s.table c = table c) ∧ s.base = base ∧ IsPage s.activeSuperblockOffset ∧
    scoSuperblockPageValid (shift f.byte s.activeSuperblockOffset) = true ∧
    scoDecodeSuperblock (shift f.byte s.activeSuperblockOffset) = s.sb := by
  obtain ⟨uuid, huuid, hsel⟩ := ho.superblock
  obtain rfl := Except.ok.inj (h.fileId.symm.trans huuid)
  obtain ⟨hoff, hread⟩ := selectSuperblock_reads hsel
  have hfacts := readSuperblock_iff.mp hread
  obtain ⟨g, r, hdec, hsup, -⟩ := h.readPage hs hoff hfacts.valid readonly
  have hsb : s.sb = sb.retag g r := hfacts.decoded.symm.trans hdec
  have hsound : (sb.retag g r).Sound := by
    refine hs.retag ?_ ?_ hsup
    · have hg : g = (scoDecodeSuperblock (shift f.byte s.activeSuperblockOffset)).generation := by
        rw [hdec]
        rfl
      rw [hg]
      exact leDec_get_lt _ 0x18 8
    · have hr : r = (scoDecodeSuperblock
          (shift f.byte s.activeSuperblockOffset)).readonlyCompatibleFeatures := by
        rw [hdec]
        rfl
      rw [hr]
      exact leDec_get_lt _ 0x74 4
  refine ⟨⟨g, r, hsb, hsound⟩, fun c hc => ?_, ?_, hoff, hfacts.valid, hfacts.decoded⟩
  · have htable := ho.table
    rw [hsb] at htable
    obtain ⟨buf, -, htable⟩ := except_bind_ok.mp htable
    rw [← Except.ok.inj htable]
    exact (h.slots c hc).load hs.layoutOk (hm.stored c hc)
  · have hdesc := ho.descriptor
    rw [hsb] at hdesc
    exact Except.ok.inj (hdesc.symm.trans h.descriptor)

end

end

section
variable {opts : CreateOptions} {uuid : List UInt8} {l : CreateLayout}

section
variable (huuid : uuid.length = 16)
include huuid

lemma fileIdFields_apart : (fileIdFields uuid).Pairwise Field.Apart := by
  refine apart_of_chain ?_
  simp [fileIdFields, SCO_MAGIC, huuid]

lemma mem_fileIdFields {x : Field} (hx : x ∈ fileIdFields uuid) : x.1 + x.2.length ≤ 0x24 := by
  simp only [fileIdFields, List.mem_cons, List.not_mem_nil, or_false] at hx
  rcases hx with rfl | rfl | rfl | rfl | rfl <;> simp [SCO_MAGIC, huuid]

lemma fileId_built {f : File} (hsize : SCO_FILE_ID_SIZE ≤ f.size)
    (h : get f.byte 0 SCO_FILE_ID_SIZE = get (buildFileId uuid) 0 SCO_FILE_ID_SIZE) :
    scoReadFileId f = .ok uuid := by
  have hm : get (shift f.byte SCO_FILE_ID_OFFSET) 0 SCO_FILE_ID_SIZE =
      get (buildFileId uuid) 0 SCO_FILE_ID_SIZE := by
    rw [get_shift]
    exact h
  have hhole : ∀ x ∈ fileIdFields uuid, x.1 + x.2.length ≤ 0x24 ∨ 0x24 + 4 ≤ x.1 :=
    fun x hx => .inl (mem_fileIdFields huuid hx)
  have hd := fileIdFields_apart huuid
  have hmagic : get (buildFileId uuid) 0 8 = SCO_MAGIC :=
    (sealed_get hhole hd (by simp [fileIdFields]) : get _ 0 SCO_MAGIC.length = SCO_MAGIC)
  have hmajor : le16dec (buildFileId uuid) 0x8 = SCO_FORMAT_MAJOR :=
    sealed_dec hhole hd (by simp [fileIdFields]) (by decide)
  have hlen : le32dec (buildFileId uuid) 0xc = SCO_FILE_ID_SIZE :=
    sealed_dec hhole hd (by simp [fileIdFields]) (by decide)
  have htype : le32dec (buildFileId uuid) 0x20 = SCO_CHECKSUM_CRC32C :=
    sealed_dec hhole hd (by simp [fileIdFields]) (by decide)
  have hid : get (buildFileId uuid) 0x10 uuid.length = uuid := sealed_get hhole hd (by simp [fileIdFields])
  have hcrc : crc32cValid (buildFileId uuid) SCO_FILE_ID_SIZE 0x24
      (le32dec (buildFileId uuid) 0x24) = true := sealed_crc hhole
  have hrest : reservedZero (buildFileId uuid) 0x28 (SCO_FILE_ID_SIZE - 0x28) = true := by
    refine reservedZero_of_get (sealed_zero (by omega) fun x hx => ?_)
    have := mem_fileIdFields huuid hx
    omega
  rw [huuid] at hid
  have hoff : SCO_FILE_ID_OFFSET = 0 := rfl
  simp only [scoReadFileId, readExact_ok (by omega : SCO_FILE_ID_OFFSET + SCO_FILE_ID_SIZE ≤ f.size),
    except_ok_bind]
  rw [get_agree hm (by decide : 0 + 8 ≤ _), le16dec_agree hm (by decide : 0x8 + 2 ≤ _),
    le32dec_agree hm (by decide : 0xc + 4 ≤ _), le32dec_agree hm (by decide : 0x20 + 4 ≤ _),
    le32dec_agree hm (by decide : 0x24 + 4 ≤ _), crc32cValid_congr hm,
    reservedZero_congr hm (by decide : 0x28 + (SCO_FILE_ID_SIZE - 0x28) ≤ _),
    get_agree hm (by decide : 0x10 + 16 ≤ _), hmagic, hmajor, hlen, htype, hid, hcrc, hrest]
  rfl

lemma createdFile_decode (hl : createLayout opts = .ok l)
    (hsize : SCO_MIN_FILE_SIZE ≤ l.dataAreaOffset) :
    scoSuperblockPageValid (shift (createdFile opts uuid l).byte SCO_SUPERBLOCK_A_OFFSET) = true ∧
      scoDecodeSuperblock (shift (createdFile opts uuid l).byte SCO_SUPERBLOCK_A_OFFSET) =
        createdSuperblock opts uuid l := by
  have hfits := createdSuperblock_fits huuid hl
  have hm : get (shift (createdFile opts uuid l).byte SCO_SUPERBLOCK_A_OFFSET) 0
      SCO_SUPERBLOCK_SIZE = get (scoBuildSuperblock (createdSuperblock opts uuid l)) 0
        SCO_SUPERBLOCK_SIZE := by
    rw [get_shift]
    exact createdFile_pageA huuid hl hsize
  rw [superblockPageValid_congr hm, decodeSuperblock_congr hm, pageValid_built hfits, decode_built hfits]
  exact ⟨rfl, rfl⟩

end

lemma createdFile_page (hl : createLayout opts = .ok l) {off : Nat} (hoff : IsPage off)
    (hvalid : scoSuperblockPageValid (shift (createdFile opts uuid l).byte off) = true) :
    off = SCO_SUPERBLOCK_A_OFFSET := by
  rcases hoff with rfl | rfl
  · rfl
  have hzero : scoSuperblockPageValid (shift (createdFile opts uuid l).byte
      SCO_SUPERBLOCK_B_OFFSET) = false := zero_page_invalid fun i hi => createdFile_pageB hl hi
  rw [hzero] at hvalid
  cases hvalid

lemma created_diskOk (huuid : uuid.length = 16) (hl : createLayout opts = .ok l)
    (hlayout : scoSuperblockLayoutValid (createdSuperblock opts uuid l) l.dataAreaOffset = true)
    {base : Option BaseDescriptor}
    (hdesc : scoReadBaseDescriptor (createdFile opts uuid l) (createdSuperblock opts uuid l) = .ok base) :
    (createdSuperblock opts uuid l).Sound ∧ DiskOk (createdFile opts uuid l) (createdSuperblock opts uuid l)
    (fun _ => .unmapped) base := by
  obtain ⟨-, -, -, -, htab, hdata, hbase⟩ := createLayout_spec hl
  have hfits := createdSuperblock_fits huuid hl
  have hs : (createdSuperblock opts uuid l).Sound := by
    have hfixed : SCO_INCOMPAT_FIXED_TABLE_V2 &&& SCO_INCOMPAT_FIXED_TABLE_V2 ≠ 0 := by decide
    have hnone : unsupported 0 SCO_RO_COMPAT_SUPPORTED = 0 := by decide
    have hinc : unsupported SCO_INCOMPAT_FIXED_TABLE_V2 SCO_INCOMPAT_SUPPORTED = 0 := by decide
    refine ⟨hfits, rfl, hinc, hfixed, hnone, hlayout, hdata, ?_⟩
    simp only [createdSuperblock]
    rcases hbase with ⟨-, hoff, hlen⟩ | ⟨-, hoff⟩ <;> omega
  have hge : SCO_METADATA_AREA_OFFSET ≤ l.dataAreaOffset := hs.layoutOk.data_ge
  have hmin : SCO_MIN_FILE_SIZE = SCO_METADATA_AREA_OFFSET := rfl
  have hidsize : SCO_FILE_ID_SIZE ≤ SCO_METADATA_AREA_OFFSET := by decide
  have hA : SCO_FILE_ID_SIZE = SCO_SUPERBLOCK_A_OFFSET := rfl
  have hpageA := createdFile_decode huuid hl (by omega)
  refine ⟨hs, Nat.le_of_eq rfl, hdata, ?_, fun off hoff => ?_, ⟨_, .inl rfl, hpageA.1⟩, ?_, hdesc⟩
  · refine fileId_built huuid (Nat.le_trans hidsize hge) (get_congr fun i _ hi => ?_)
    rw [createdFile_byte hl (by omega), if_pos (by omega)]
  · rcases hoff with rfl | rfl
    · exact .inr ⟨_, _, hpageA.2, hs.readonlyCompatible⟩
    · exact .inl (zero_page_invalid fun i hi => createdFile_pageB hl hi)
  intro c hc
  have hzero : ∀ n i, scoSlotValid (createdSuperblock opts uuid l) n c i
      (slotAt (createdFile opts uuid l) (createdSuperblock opts uuid l) c i) = none := by
    refine fun n i => zero_slot_invalid fun j _ => createdFile_table hl ?_
    simp only [scoTableSlotOffset, createdSuperblock]
    omega
  refine ⟨.inl ⟨rfl, fun n => hzero n .b⟩, fun n x hx => ?_⟩
  rw [hzero] at hx
  cases hx

end

def smallOptions : CreateOptions := ⟨none, 2, 512, 0, by decide, by decide, by decide⟩

def smallLayout : CreateLayout := ⟨⟨0x40000, 1, 0x1000⟩, 0, 0, 0x10000, 0x40000⟩

lemma small_choice : scoChooseClusterSize smallOptions = .ok ⟨0x40000, 1, 0x1000⟩ := by
  simp [scoChooseClusterSize, smallOptions, growClusterSize, chooseClusterLoop, alignUpU64,
    SCO_DEFAULT_CLUSTER_SIZE, SCO_MIN_CLUSTER_SIZE, SCO_MAX_CLUSTER_SIZE, SCO_TABLE_SLOT_SIZE,
    SCO_METADATA_PAGE_SIZE, UINT64_MAX, SCO_MAX_SINGLE_TABLE_BYTES]

lemma small_layout : createLayout smallOptions = .ok smallLayout := by
  simp only [createLayout, small_choice, except_ok_bind]
  simp [smallOptions, smallLayout, isPowerOfTwoU64, baseDescriptorPlace, alignUpU64,
    SCO_METADATA_AREA_OFFSET, SCO_TABLE_SLOTS_PER_ENTRY, UINT64_MAX]

def smallSuperblock : Superblock :=
  createdSuperblock smallOptions (List.replicate 16 0) smallLayout

def smallFile : File := createdFile smallOptions (List.replicate 16 0) smallLayout

lemma small_created : createSco smallOptions (List.replicate 16 0) = .ok smallFile := by
  rw [createSco, small_layout, except_ok_bind, smallFile]

lemma small_valid : scoSuperblockLayoutValid smallSuperblock 0x40000 = true := by decide

lemma small_disk : smallSuperblock.Sound ∧ DiskOk smallFile smallSuperblock (fun _ => .unmapped) none :=
  created_diskOk (by decide) small_layout small_valid (if_pos rfl)

lemma small_opens (readonly : Bool) : ∃ s, scoOpen smallFile readonly = .ok s := by
  obtain ⟨hs, hdisk⟩ := small_disk
  refine hdisk.scoOpen_ok hs ⟨nofun, nofun, nofun⟩ fun _ off hoff hvalid => ?_
  obtain rfl := createdFile_page small_layout hoff hvalid
  have hdec : scoDecodeSuperblock (shift smallFile.byte SCO_SUPERBLOCK_A_OFFSET) =
      smallSuperblock := (createdFile_decode (by decide) small_layout (by decide)).2
  rw [hdec]
  decide

/-- Half-open ranges of file offsets without a common offset. -/
def Apart (r s : Nat × Nat) : Prop := r.2 ≤ s.1 ∨ s.2 ≤ r.1

instance : DecidableRel Apart := fun r s => inferInstanceAs (Decidable (r.2 ≤ s.1 ∨ s.2 ≤ r.1))

namespace Superblock
variable (sb : Superblock)

def tableRegion : Nat × Nat :=
  (sb.tableOffset, sb.tableOffset + SCO_TABLE_SLOTS_PER_ENTRY * sb.tableLength)

def descriptorRegion : Nat × Nat :=
  (sb.baseDescriptorOffset, sb.baseDescriptorOffset + sb.baseDescriptorLength)

def regions (fileEnd : Nat) : List (Nat × Nat) := [
  (SCO_FILE_ID_OFFSET, SCO_FILE_ID_OFFSET + SCO_FILE_ID_SIZE),
  (SCO_SUPERBLOCK_A_OFFSET, SCO_SUPERBLOCK_A_OFFSET + SCO_SUPERBLOCK_SIZE),
  (SCO_SUPERBLOCK_B_OFFSET, SCO_SUPERBLOCK_B_OFFSET + SCO_SUPERBLOCK_SIZE),
  sb.tableRegion, sb.descriptorRegion, (sb.dataAreaOffset, fileEnd)]

end Superblock

variable {sb : Superblock} {fileSize : Nat}

lemma table_of_valid (h : scoSuperblockLayoutValid sb fileSize = true) :
    sb.clusterCount * SCO_TABLE_SLOT_SIZE ≤ sb.tableLength ∧ sb.tableLength ≤ SCO_MAX_SINGLE_TABLE_BYTES ∧
    sb.tableRegion.2 ≤ sb.dataAreaOffset ∧ (sb.baseDescriptorOffset = 0 → sb.baseDescriptorLength = 0) := by
  simp only [scoSuperblockLayoutValid, Bool.and_eq_true, Bool.not_eq_true', Bool.or_eq_false_iff,
    decide_eq_false_iff_not] at h
  obtain ⟨⟨⟨⟨-, ⟨hlen, hmax⟩, -⟩, htable⟩, -⟩, hdesc⟩ := h
  have hend := (rangeBeforeData_spec htable).2
  have hnone (h0 : sb.baseDescriptorOffset = 0) : sb.baseDescriptorLength = 0 := by simpa [h0] using hdesc
  simp only [Superblock.tableRegion, SCO_TABLE_SLOTS_PER_ENTRY, SCO_MAX_SINGLE_TABLE_BYTES] at hmax hend ⊢
  exact ⟨by omega, by omega, by omega, hnone⟩

lemma LayoutOk.covers (hl : LayoutOk sb) : sb.virtualSize ≤ sb.clusterCount * sb.clusterSize := by
  have hdiv := Nat.div_add_mod' (sb.virtualSize + sb.clusterSize - 1) sb.clusterSize
  have hmod := Nat.mod_lt (sb.virtualSize + sb.clusterSize - 1) hl.cluster_pos
  rw [hl.count_eq]
  omega

/-- An accepted superblock maps its whole disk and keeps its slots in the table region.
Its regions are disjoint but for the table and the descriptor, which are not compared. -/
theorem accepted_regions (hfits : sb.Fits) (h : scoSuperblockLayoutValid sb fileSize = true) :
    sb.virtualSize ≤ sb.clusterCount * sb.clusterSize ∧
      sb.clusterCount * sb.clusterSize < 2 ^ 64 ∧
      (∀ c < sb.clusterCount, ∀ i, sb.tableRegion.1 ≤ scoTableSlotOffset sb c i ∧
        scoTableSlotOffset sb c i + SCO_TABLE_SLOT_SIZE ≤ sb.tableRegion.2 ∧
        sb.tableRegion.2 < 2 ^ 64) ∧
      ∀ fileEnd, (sb.regions fileEnd).Pairwise Apart ↔
        Apart sb.tableRegion sb.descriptorRegion := by
  obtain ⟨hl, -⟩ := layoutOk_of_valid hfits.virtualSize h
  obtain ⟨hlen, hmax, htable, hnone⟩ := table_of_valid h
  have hdata := hfits.dataAreaOffset
  simp only [SCO_TABLE_SLOT_SIZE, SCO_MAX_SINGLE_TABLE_BYTES] at hlen hmax
  refine ⟨hl.covers, ?_, fun c hc i => ?_, fun fileEnd => ⟨fun hall => ?_, fun hap => ?_⟩⟩
  · have hcount : sb.clusterCount ≤ 2 ^ 21 := by omega
    have hprod := Nat.mul_le_mul hcount hl.cluster_le
    simp only [SCO_MAX_CLUSTER_SIZE] at hprod
    omega
  · have hi := i.index_le
    simp only [Superblock.tableRegion, scoTableSlotOffset, SCO_TABLE_ENTRY_SIZE,
      SCO_TABLE_SLOT_SIZE, SCO_TABLE_SLOTS_PER_ENTRY] at htable ⊢
    omega
  · exact hall.rel_of_mem_take_of_mem_drop (i := 4) (by simp [Superblock.regions])
      (by simp [Superblock.regions])
  · have hge := hl.table_ge
    have hdesc := hl.descriptor
    simp only [Superblock.regions, List.pairwise_cons, List.forall_mem_cons, List.Pairwise.nil,
      List.not_mem_nil, IsEmpty.forall_iff, implies_true, and_true, Apart, Superblock.tableRegion, Superblock.descriptorRegion,
      SCO_FILE_ID_OFFSET, SCO_FILE_ID_SIZE, SCO_SUPERBLOCK_A_OFFSET, SCO_SUPERBLOCK_B_OFFSET,
      SCO_SUPERBLOCK_SIZE, SCO_METADATA_AREA_OFFSET, SCO_TABLE_SLOTS_PER_ENTRY]
      at hge hdesc hap htable ⊢
    omega

/-- The small image with a base descriptor of a page at the offset. -/
def basedSuperblock (offset : Nat) : Superblock :=
  { smallSuperblock with baseDescriptorOffset := offset, baseDescriptorLength := 0x1000 }

lemma basedSuperblock_fits {offset : Nat} (h : offset < 2 ^ 64) : (basedSuperblock offset).Fits :=
  { createdSuperblock_fits (by decide) small_layout with
    baseDescriptorOffset := h, baseDescriptorLength := (by decide : 0x1000 < 2 ^ 32) }

theorem accepted_regions_small : (basedSuperblock 0x12000).Fits ∧
    scoSuperblockLayoutValid (basedSuperblock 0x12000) 0x40000 = true ∧
    ((basedSuperblock 0x12000).regions 0x40000).Pairwise Apart := by
  have hfits := @basedSuperblock_fits 0x12000 (by decide)
  have hvalid : scoSuperblockLayoutValid (basedSuperblock 0x12000) 0x40000 = true := by decide
  exact ⟨hfits, hvalid, ((accepted_regions hfits hvalid).2.2.2 0x40000).mpr (by decide)⟩

/-- The first table slot lies in the base descriptor. -/
theorem table_over_descriptor : ∃ sb : Superblock, sb.Fits ∧
    scoSuperblockLayoutValid sb 0x40000 = true ∧ 0 < sb.clusterCount ∧
    scoTableSlotOffset sb 0 .a = sb.baseDescriptorOffset ∧ sb.baseDescriptorOffset ≠ 0 ∧
    ¬ (sb.regions 0x40000).Pairwise Apart :=
  ⟨basedSuperblock 0x10000, basedSuperblock_fits (by decide), by decide, by decide, by decide,
    by decide, by decide⟩

end ScorpiHv.Sco

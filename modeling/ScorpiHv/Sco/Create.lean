import ScorpiHv.Sco.Codec
import ScorpiHv.Sco.OpenSpec

/-!
# Creating an SCO image

`create_sco` of `scorpi_image_tool.c`: the choice of the cluster size, the layout
and the file it leaves. The host calls are taken to succeed.
-/

namespace ScorpiHv.Sco
open Bytes List

def SCO_DEFAULT_CLUSTER_SIZE : Nat := 0x40000

structure CreateOptions where
  baseUri : Option (List UInt8)
  virtualSize : Nat
  logicalSectorSize : Nat
  physicalSectorSize : Nat
  virtualSize_lt : virtualSize < 2 ^ 64
  logicalSectorSize_lt : logicalSectorSize < 2 ^ 32
  physicalSectorSize_lt : physicalSectorSize < 2 ^ 32

def alignUpU64 (value alignment : Nat) : Nat :=
  (value + alignment - 1) % 2 ^ 64 &&& (UINT64_MAX ^^^ (alignment - 1))

/-- `while (cluster_size < logical_sector_size) cluster_size <<= 1`; a 32-bit size
passes every sector size within 32 doublings. -/
def growClusterSize (logicalSectorSize : Nat) : Nat → Nat → Nat
  | 0, clusterSize => clusterSize
  | fuel + 1, clusterSize =>
    if clusterSize < logicalSectorSize then
      growClusterSize logicalSectorSize fuel (clusterSize * 2 % 2 ^ 32)
    else clusterSize

structure ClusterChoice where
  clusterSize : Nat
  clusterCount : Nat
  tableLength : Nat
deriving DecidableEq

/-- The loop of `sco_choose_cluster_size`, which doubles at most to the maximal size. -/
def chooseClusterLoop (virtualSize logicalSectorSize : Nat) : Nat → Nat → Except Errno ClusterChoice
  | 0, _ => .error .efbig
  | fuel + 1, clusterSize =>
    if clusterSize > SCO_MAX_CLUSTER_SIZE then .error .efbig
    else if clusterSize % logicalSectorSize ≠ 0 then .error .einval
    else
      let clusterCount := (virtualSize + clusterSize - 1) % 2 ^ 64 / clusterSize
      if clusterCount > UINT64_MAX / SCO_TABLE_SLOT_SIZE then .error .efbig
      else
        let tableLength := alignUpU64 (clusterCount * SCO_TABLE_SLOT_SIZE) SCO_METADATA_PAGE_SIZE
        if tableLength ≤ SCO_MAX_SINGLE_TABLE_BYTES then
          .ok ⟨clusterSize, clusterCount, tableLength % 2 ^ 32⟩
        else chooseClusterLoop virtualSize logicalSectorSize fuel (clusterSize * 2 % 2 ^ 32)

def scoChooseClusterSize (opts : CreateOptions) : Except Errno ClusterChoice :=
  if opts.virtualSize = 0 ∨ opts.logicalSectorSize = 0 then .error .einval
  else
    let clusterSize := growClusterSize opts.logicalSectorSize 32 SCO_DEFAULT_CLUSTER_SIZE
    chooseClusterLoop opts.virtualSize opts.logicalSectorSize 32
      (if clusterSize < SCO_MIN_CLUSTER_SIZE then SCO_MIN_CLUSTER_SIZE else clusterSize)

def fileIdFields (uuid : List UInt8) : List Field := [
  (0x0, SCO_MAGIC),
  (0x8, leEnc 2 SCO_FORMAT_MAJOR),
  (0xc, leEnc 4 SCO_FILE_ID_SIZE),
  (0x10, uuid),
  (0x20, leEnc 4 SCO_CHECKSUM_CRC32C)]

def buildFileId (uuid : List UInt8) : Store :=
  let buf := writeFields (fileIdFields uuid)
  put buf 0x24 (leEnc 4 (crc32c (get buf 0 SCO_FILE_ID_SIZE)))

def buildBaseDescriptor (size : Nat) (baseUri : List UInt8) : Store :=
  let buf := writeFields [
    (0x0, leEnc 4 size),
    (0x4, leEnc 4 SCO_CHECKSUM_CRC32C),
    (0x10, leEnc 4 (baseUri.length % 2 ^ 32)),
    (0x50, baseUri)]
  put buf 0x8 (leEnc 4 (crc32c (get buf 0 size)))

/-- Where `create_sco` puts things. -/
structure CreateLayout where
  choice : ClusterChoice
  baseDescriptorOffset : Nat
  baseDescriptorLength : Nat
  tableOffset : Nat
  dataAreaOffset : Nat

def createdFields (opts : CreateOptions) (uuid : List UInt8) (l : CreateLayout) : List Field := [
  (0x0, SCO_MAGIC),
  (0x8, leEnc 2 SCO_FORMAT_MAJOR),
  (0xc, leEnc 4 SCO_SUPERBLOCK_SIZE),
  (0x10, leEnc 4 SCO_CHECKSUM_CRC32C),
  (0x18, leEnc 8 1),
  (0x20, leEnc 8 opts.virtualSize),
  (0x28, leEnc 4 opts.logicalSectorSize),
  (0x2c, leEnc 4 opts.physicalSectorSize),
  (0x30, leEnc 4 l.choice.clusterSize),
  (0x38, leEnc 8 l.choice.clusterCount),
  (0x40, leEnc 8 SCO_METADATA_AREA_OFFSET),
  (0x48, leEnc 8 l.dataAreaOffset),
  (0x50, leEnc 8 l.baseDescriptorOffset),
  (0x58, leEnc 4 l.baseDescriptorLength),
  (0x60, leEnc 8 l.tableOffset),
  (0x68, leEnc 4 l.choice.tableLength),
  (0x6c, leEnc 4 SCO_TABLE_SLOT_SIZE),
  (0x70, leEnc 4 SCO_INCOMPAT_FIXED_TABLE_V2),
  (0x80, uuid)]

def buildSuperblock (opts : CreateOptions) (uuid : List UInt8) (l : CreateLayout) : Store :=
  let buf := writeFields (createdFields opts uuid l)
  put buf 0x14 (leEnc 4 (crc32c (get buf 0 SCO_SUPERBLOCK_SIZE)))

def baseDescriptorPlace : Option (List UInt8) → Nat × Nat
  | some uri => (SCO_METADATA_AREA_OFFSET,
      alignUpU64 (0x50 + uri.length) SCO_METADATA_PAGE_SIZE % 2 ^ 32)
  | none => (0, 0)

def createLayout (opts : CreateOptions) : Except Errno CreateLayout := do
  if opts.virtualSize = 0 ∨ opts.logicalSectorSize = 0 then .error .einval
  else if ¬ isPowerOfTwoU64 opts.logicalSectorSize then .error .einval
  else if opts.physicalSectorSize ≠ 0 ∧ (¬ isPowerOfTwoU64 opts.physicalSectorSize ∨
      opts.physicalSectorSize < opts.logicalSectorSize) then .error .einval
  else
    let choice ← scoChooseClusterSize opts
    let place := baseDescriptorPlace opts.baseUri
    -- the length is 32 bits wide, so the sum cannot overflow
    let tableOffset := SCO_METADATA_AREA_OFFSET + place.2
    if choice.tableLength > (UINT64_MAX - tableOffset) / SCO_TABLE_SLOTS_PER_ENTRY then
      .error .efbig
    else
      let metadataEnd := tableOffset + choice.tableLength * SCO_TABLE_SLOTS_PER_ENTRY
      if metadataEnd > UINT64_MAX - choice.clusterSize + 1 then .error .efbig
      else .ok {
        choice := choice
        baseDescriptorOffset := place.1
        baseDescriptorLength := place.2
        tableOffset := tableOffset
        dataAreaOffset := alignUpU64 metadataEnd choice.clusterSize }

/-- The file `create_sco` leaves, opened with `O_TRUNC` and written from its start. -/
def createdFile (opts : CreateOptions) (uuid : List UInt8) (l : CreateLayout) : File :=
  let f := File.empty.pwrite 0 (get (buildFileId uuid) 0 SCO_FILE_ID_SIZE)
  let f := f.pwrite SCO_SUPERBLOCK_A_OFFSET (get (buildSuperblock opts uuid l) 0 SCO_SUPERBLOCK_SIZE)
  let f := f.pwrite SCO_SUPERBLOCK_B_OFFSET (List.replicate SCO_SUPERBLOCK_SIZE 0)
  let f := match opts.baseUri with
    | some uri => f.pwrite l.baseDescriptorOffset
        (get (buildBaseDescriptor l.baseDescriptorLength uri) 0 l.baseDescriptorLength)
    | none => f
  f.truncate l.dataAreaOffset

def createSco (opts : CreateOptions) (uuid : List UInt8) : Except Errno File := do
  let l ← createLayout opts
  .ok (createdFile opts uuid l)

def createdSuperblock (opts : CreateOptions) (uuid : List UInt8) (l : CreateLayout) :
    Superblock where
  generation := 1
  virtualSize := opts.virtualSize
  logicalSectorSize := opts.logicalSectorSize
  physicalSectorSize := opts.physicalSectorSize
  clusterSize := l.choice.clusterSize
  clusterCount := l.choice.clusterCount
  dataAreaOffset := l.dataAreaOffset
  baseDescriptorOffset := l.baseDescriptorOffset
  baseDescriptorLength := l.baseDescriptorLength
  tableOffset := l.tableOffset
  tableLength := l.choice.tableLength
  incompatibleFeatures := SCO_INCOMPAT_FIXED_TABLE_V2
  readonlyCompatibleFeatures := 0
  compatibleFeatures := 0
  imageUuid := uuid
  imageDigest := List.replicate 32 0
  hasImageDigest := false

lemma chooseClusterLoop_fits {vs logical fuel cs : Nat} {c : ClusterChoice}
    (h : chooseClusterLoop vs logical fuel cs = .ok c) :
    c.clusterSize ≤ SCO_MAX_CLUSTER_SIZE ∧ c.clusterCount < 2 ^ 64 ∧ c.tableLength < 2 ^ 32 := by
  induction fuel generalizing cs with
  | zero => cases h
  | succ fuel ih =>
    simp only [chooseClusterLoop] at h
    split_ifs at h with hmax hmod hcount hlen
    · obtain rfl := Except.ok.inj h
      refine ⟨Nat.le_of_not_lt hmax, ?_, Nat.mod_lt _ (by decide)⟩
      exact Nat.lt_of_le_of_lt (Nat.div_le_self _ _) (Nat.mod_lt _ (by decide))
    · exact ih h

lemma createLayout_spec {opts : CreateOptions} {l : CreateLayout}
    (h : createLayout opts = .ok l) :
    l.choice.clusterSize ≤ SCO_MAX_CLUSTER_SIZE ∧ l.choice.clusterCount < 2 ^ 64 ∧
      l.choice.tableLength < 2 ^ 32 ∧ l.baseDescriptorLength < 2 ^ 32 ∧
      l.tableOffset = SCO_METADATA_AREA_OFFSET + l.baseDescriptorLength ∧
      l.dataAreaOffset ≤ 2 ^ 55 ∧
      (opts.baseUri = none ∧ l.baseDescriptorOffset = 0 ∧ l.baseDescriptorLength = 0 ∨
        opts.baseUri.isSome ∧ l.baseDescriptorOffset = SCO_METADATA_AREA_OFFSET) := by
  simp only [createLayout] at h
  split_ifs at h
  obtain ⟨choice, hchoice, h⟩ := except_bind_ok.mp h
  have hfits : choice.clusterSize ≤ SCO_MAX_CLUSTER_SIZE ∧ choice.clusterCount < 2 ^ 64 ∧
      choice.tableLength < 2 ^ 32 := by
    simp only [scoChooseClusterSize] at hchoice
    split_ifs at hchoice <;> exact chooseClusterLoop_fits hchoice
  split_ifs at h
  obtain rfl := Except.ok.inj h
  have hdesc : (baseDescriptorPlace opts.baseUri).2 < 2 ^ 32 := by
    cases opts.baseUri with
    | none => exact (by decide : 0 < 2 ^ 32)
    | some => exact Nat.mod_lt _ (by decide)
  refine ⟨hfits.1, hfits.2.1, hfits.2.2, hdesc, rfl, ?_, ?_⟩
  · refine (Nat.and_le_left.trans (Nat.mod_le _ _)).trans ?_
    have hcs := hfits.1
    simp only [SCO_METADATA_AREA_OFFSET, SCO_TABLE_SLOTS_PER_ENTRY, SCO_MAX_CLUSTER_SIZE] at hcs ⊢
    omega
  · cases opts.baseUri with
    | none => exact .inl ⟨rfl, rfl, rfl⟩
    | some => exact .inr ⟨rfl, rfl⟩

variable {opts : CreateOptions} {uuid : List UInt8} {l : CreateLayout}

lemma createdSuperblock_fits (huuid : uuid.length = 16) (hl : createLayout opts = .ok l) :
    (createdSuperblock opts uuid l).Fits := by
  obtain ⟨hcs, hcount, htable, hdesc, htab, hdata, hbase⟩ := createLayout_spec hl
  simp only [SCO_MAX_CLUSTER_SIZE, SCO_METADATA_AREA_OFFSET] at hcs htab hbase
  have hoff : l.baseDescriptorOffset < 2 ^ 64 := by rcases hbase with ⟨-, h, -⟩ | ⟨-, h⟩ <;> omega
  exact ⟨by simp [createdSuperblock], opts.virtualSize_lt, opts.logicalSectorSize_lt,
    opts.physicalSectorSize_lt, Nat.lt_of_le_of_lt hcs (by decide), hcount,
    Nat.lt_of_le_of_lt hdata (by decide), hoff, hdesc, by simp only [createdSuperblock]; omega,
    htable, by simp [createdSuperblock, SCO_INCOMPAT_FIXED_TABLE_V2], by simp [createdSuperblock],
    by simp [createdSuperblock], huuid, by simp [createdSuperblock]⟩

lemma buildSuperblock_eq (huuid : uuid.length = 16) (hl : createLayout opts = .ok l) :
    buildSuperblock opts uuid l = scoBuildSuperblock (createdSuperblock opts uuid l) := by
  have hd := superblockFields_apart (createdSuperblock_fits huuid hl)
  have heq : writeFields (createdFields opts uuid l) =
      writeFields (superblockFields (createdSuperblock opts uuid l)) := by
    have hfilter : (superblockFields (createdSuperblock opts uuid l)).filter
        (fun f => f.1 ∉ [0xa, 0x74, 0x78, 0x90, 0xb0]) = createdFields opts uuid l := rfl
    rw [← hfilter]
    refine writeFields_filter hd _ fun f hf hp i => ?_
    simp only [superblockFields, mem_cons, not_mem_nil, or_false] at hf
    rcases hf with rfl | rfl | rfl | rfl | rfl | rfl | rfl | rfl | rfl | rfl | rfl | rfl | rfl |
      rfl | rfl | rfl | rfl | rfl | rfl | rfl | rfl | rfl | rfl | rfl
    all_goals first
      | (simp at hp; done)
      | exact leEnc_zero_getD _ i
      | rfl
  rw [buildSuperblock, heq, scoBuildSuperblock]

lemma createdFile_size : (createdFile opts uuid l).size = l.dataAreaOffset := rfl

lemma createdFile_byte (hl : createLayout opts = .ok l) {i : Nat} (hi : i < l.dataAreaOffset) :
    (createdFile opts uuid l).byte i =
      if i < SCO_SUPERBLOCK_A_OFFSET then buildFileId uuid i
      else if i < SCO_SUPERBLOCK_B_OFFSET then
        buildSuperblock opts uuid l (i - SCO_SUPERBLOCK_A_OFFSET)
      else match opts.baseUri with
        | some uri => if SCO_METADATA_AREA_OFFSET ≤ i ∧ i < l.tableOffset then
            buildBaseDescriptor l.baseDescriptorLength uri (i - SCO_METADATA_AREA_OFFSET) else 0
        | none => 0 := by
  obtain ⟨-, -, -, -, htab, -, hbase⟩ := createLayout_spec hl
  simp only [createdFile, File.truncate, if_pos hi]
  have hpages : (((File.empty.pwrite 0 (get (buildFileId uuid) 0 SCO_FILE_ID_SIZE)).pwrite
      SCO_SUPERBLOCK_A_OFFSET (get (buildSuperblock opts uuid l) 0 SCO_SUPERBLOCK_SIZE)).pwrite
      SCO_SUPERBLOCK_B_OFFSET (List.replicate SCO_SUPERBLOCK_SIZE 0)).byte i =
      if i < SCO_SUPERBLOCK_A_OFFSET then buildFileId uuid i
      else if i < SCO_SUPERBLOCK_B_OFFSET then
        buildSuperblock opts uuid l (i - SCO_SUPERBLOCK_A_OFFSET) else 0 := by
    have hoffA : SCO_SUPERBLOCK_A_OFFSET = 0x1000 := rfl
    have hoffB : SCO_SUPERBLOCK_B_OFFSET = 0x2000 := rfl
    have hpage : SCO_SUPERBLOCK_SIZE = 0x1000 := rfl
    have hid : SCO_FILE_ID_SIZE = 0x1000 := rfl
    simp only [File.pwrite_byte]
    by_cases hB : SCO_SUPERBLOCK_B_OFFSET ≤ i ∧ i < SCO_SUPERBLOCK_B_OFFSET + SCO_SUPERBLOCK_SIZE
    · rw [put_at hB.1 (by rw [length_replicate]; omega), zeros_getD, if_neg (by omega), if_neg (by omega)]
    rw [put_outside (by rw [length_replicate]; omega)]
    by_cases hA : SCO_SUPERBLOCK_A_OFFSET ≤ i ∧ i < SCO_SUPERBLOCK_B_OFFSET
    · rw [put_at hA.1 (by rw [get_length]; omega), get_getD (by omega), if_neg (by omega),
        if_pos hA.2, Nat.zero_add]
    rw [put_outside (by rw [get_length]; omega)]
    by_cases hlow : i < SCO_SUPERBLOCK_A_OFFSET
    · rw [put_at (Nat.zero_le _) (by rw [get_length]; omega), get_getD (by omega), if_pos hlow,
        Nat.zero_add, Nat.sub_zero]
    · rw [put_outside (by rw [get_length]; omega), if_neg hlow, if_neg (by omega)]
      rfl
  rcases hbase with ⟨hnone, -, -⟩ | ⟨hsome, hoff⟩
  · rw [hnone]
    exact hpages
  obtain ⟨uri, huri⟩ := Option.isSome_iff_exists.mp hsome
  simp only [huri]
  by_cases hin : SCO_METADATA_AREA_OFFSET ≤ i ∧ i < l.tableOffset
  · have hpast : SCO_SUPERBLOCK_A_OFFSET ≤ i ∧ SCO_SUPERBLOCK_B_OFFSET ≤ i := by
      simp only [SCO_METADATA_AREA_OFFSET, SCO_SUPERBLOCK_A_OFFSET, SCO_SUPERBLOCK_B_OFFSET] at hin ⊢
      omega
    rw [if_neg (by omega), if_neg (by omega), if_pos hin, File.pwrite_byte, hoff]
    rw [put_at hin.1 (by rw [get_length]; omega), get_getD (by omega), Nat.zero_add]
  · rw [File.pwrite_byte, put_outside (by rw [get_length, hoff]; omega), hpages, if_neg hin]

lemma createdFile_table (hl : createLayout opts = .ok l) {i : Nat} (hi : l.tableOffset ≤ i) :
    (createdFile opts uuid l).byte i = 0 := by
  obtain ⟨-, -, -, -, htab, -, -⟩ := createLayout_spec hl
  by_cases hlt : i < l.dataAreaOffset
  · have hpast : SCO_SUPERBLOCK_A_OFFSET ≤ i ∧ SCO_SUPERBLOCK_B_OFFSET ≤ i := by
      simp only [SCO_METADATA_AREA_OFFSET, SCO_SUPERBLOCK_A_OFFSET, SCO_SUPERBLOCK_B_OFFSET] at htab ⊢
      omega
    rw [createdFile_byte hl hlt, if_neg (by omega), if_neg (by omega)]
    cases opts.baseUri with
    | none => rfl
    | some => exact if_neg (by omega)
  · exact (createdFile opts uuid l).beyond i (by rw [createdFile_size]; omega)

lemma createdFile_pageA (huuid : uuid.length = 16) (hl : createLayout opts = .ok l)
    (hsize : SCO_MIN_FILE_SIZE ≤ l.dataAreaOffset) :
    get (createdFile opts uuid l).byte SCO_SUPERBLOCK_A_OFFSET SCO_SUPERBLOCK_SIZE =
      superblockPage (createdSuperblock opts uuid l) := by
  rw [superblockPage, ← buildSuperblock_eq huuid hl]
  refine map_congr_left fun i hi => ?_
  have hlt := mem_range.mp hi
  simp only [SCO_SUPERBLOCK_SIZE, SCO_MIN_FILE_SIZE] at hlt hsize
  have hin : SCO_SUPERBLOCK_A_OFFSET + i < SCO_SUPERBLOCK_B_OFFSET := by
    simp only [SCO_SUPERBLOCK_A_OFFSET, SCO_SUPERBLOCK_B_OFFSET]
    omega
  have hdata : SCO_SUPERBLOCK_A_OFFSET + i < l.dataAreaOffset := by
    simp only [SCO_SUPERBLOCK_A_OFFSET]
    omega
  rw [createdFile_byte hl hdata, if_neg (by omega), if_pos hin, Nat.add_sub_cancel_left, Nat.zero_add]

lemma createdFile_pageB (hl : createLayout opts = .ok l) {i : Nat} (hi : i < SCO_SUPERBLOCK_SIZE) :
    (createdFile opts uuid l).byte (SCO_SUPERBLOCK_B_OFFSET + i) = 0 := by
  simp only [SCO_SUPERBLOCK_SIZE] at hi
  by_cases hlt : SCO_SUPERBLOCK_B_OFFSET + i < l.dataAreaOffset
  · have hpast : SCO_SUPERBLOCK_A_OFFSET ≤ SCO_SUPERBLOCK_B_OFFSET + i := by
      simp only [SCO_SUPERBLOCK_A_OFFSET, SCO_SUPERBLOCK_B_OFFSET]
      omega
    rw [createdFile_byte hl hlt, if_neg (by omega), if_neg (by omega)]
    cases opts.baseUri with
    | none => rfl
    | some =>
      refine if_neg ?_
      simp only [SCO_METADATA_AREA_OFFSET, SCO_SUPERBLOCK_B_OFFSET]
      omega
  · exact (createdFile opts uuid l).beyond _ (by rw [createdFile_size]; omega)

lemma zero_page_invalid {m : Store} (h : ∀ i < SCO_SUPERBLOCK_SIZE, m i = 0) :
    scoSuperblockPageValid m = false := by
  have hzero : get m 0 8 = List.replicate 8 0 := by
    exact get_congr fun i _ hlt => h i (Nat.lt_of_lt_of_le hlt (by decide))
  have hmagic : get m 0 8 ≠ SCO_MAGIC := by
    rw [hzero]
    decide
  simp [scoSuperblockPageValid, hmagic]

lemma opened_created (huuid : uuid.length = 16) (hl : createLayout opts = .ok l) {readonly : Bool}
    {s : Image} (h : Opened (createdFile opts uuid l) readonly s) :
    s.sb = createdSuperblock opts uuid l ∧ s.activeSuperblockOffset = SCO_SUPERBLOCK_A_OFFSET := by
  obtain ⟨u, -, hsel⟩ := h.superblock
  obtain ⟨hoff, hread⟩ := selectSuperblock_reads hsel
  have hfacts := readSuperblock_iff.mp hread
  have hnotB : s.activeSuperblockOffset ≠ SCO_SUPERBLOCK_B_OFFSET := by
    intro hB
    have hinvalid : scoSuperblockPageValid (shift (createdFile opts uuid l).byte
        SCO_SUPERBLOCK_B_OFFSET) = false := zero_page_invalid fun i hi => createdFile_pageB hl hi
    have hvalid := hfacts.valid
    rw [hB, hinvalid] at hvalid
    cases hvalid
  have hA : s.activeSuperblockOffset = SCO_SUPERBLOCK_A_OFFSET := hoff.resolve_right hnotB
  refine ⟨?_, hA⟩
  have hpage : get (shift (createdFile opts uuid l).byte SCO_SUPERBLOCK_A_OFFSET) 0
      SCO_SUPERBLOCK_SIZE = get (scoBuildSuperblock (createdSuperblock opts uuid l)) 0
        SCO_SUPERBLOCK_SIZE := by
    rw [get_shift]
    exact createdFile_pageA huuid hl h.size
  rw [← hfacts.decoded, hA, decodeSuperblock_congr hpage, decode_built (createdSuperblock_fits huuid hl)]
  rfl

end ScorpiHv.Sco

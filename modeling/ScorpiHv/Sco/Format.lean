import ScorpiHv.Lib.Fields
import ScorpiHv.Lib.Host

/-!
# The SCO file format

`scorpi_image_sco_format.h`, and the encoders and validators of table slots,
superblocks and base descriptors in `scorpi_image_sco.c`. `LayoutOk` collects what
`sco_superblock_layout_valid` establishes.
-/

namespace ScorpiHv

def crcBit (crc : UInt32) : UInt32 :=
  if crc &&& 1 ≠ 0 then (crc >>> 1) ^^^ 0x82f63b78 else crc >>> 1

def crcByte (crc : UInt32) (b : UInt8) : UInt32 :=
  (List.range 8).foldl (fun c _ => crcBit c) (crc ^^^ b.toUInt32)

/-- `scorpi_crc32c`, as a number below `2 ^ 32`. -/
def crc32c (bs : List UInt8) : Nat := (~~~ bs.foldl crcByte 0xffffffff).toNat

lemma crc32c_lt (bs : List UInt8) : crc32c bs < 256 ^ 4 :=
  UInt32.toNat_lt _

end ScorpiHv

namespace ScorpiHv.Sco
open Bytes

def UINT32_MAX : Nat := 2 ^ 32 - 1
def UINT64_MAX : Nat := 2 ^ 64 - 1

def SCO_MAGIC : List UInt8 := [0x53, 0x43, 0x4f, 0x49, 0x4d, 0x47, 0, 0]
def SCO_FORMAT_MAJOR : Nat := 2
def SCO_FILE_ID_OFFSET : Nat := 0
def SCO_FILE_ID_SIZE : Nat := 0x1000
def SCO_SUPERBLOCK_A_OFFSET : Nat := 0x1000
def SCO_SUPERBLOCK_B_OFFSET : Nat := 0x2000
def SCO_SUPERBLOCK_SIZE : Nat := 0x1000
def SCO_METADATA_AREA_OFFSET : Nat := 0x10000
def SCO_METADATA_PAGE_SIZE : Nat := 0x1000
def SCO_MIN_FILE_SIZE : Nat := 0x10000
def SCO_MIN_CLUSTER_SIZE : Nat := 0x10000
def SCO_MAX_CLUSTER_SIZE : Nat := 0x400000
def SCO_BASE_DESCRIPTOR_MIN_SIZE : Nat := 0x50
def SCO_CHECKSUM_CRC32C : Nat := 1
def SCO_TABLE_SLOT_SIZE : Nat := 16
def SCO_TABLE_SLOTS_PER_ENTRY : Nat := 2
def SCO_TABLE_ENTRY_SIZE : Nat := 32
def SCO_MAX_SINGLE_TABLE_BYTES : Nat := 32 * 1024 * 1024
def SCO_INCOMPAT_FIXED_TABLE_V2 : Nat := 1
def SCO_INCOMPAT_SUPPORTED : Nat := SCO_INCOMPAT_FIXED_TABLE_V2
def SCO_RO_COMPAT_SEALED : Nat := 1
def SCO_RO_COMPAT_SUPPORTED : Nat := SCO_RO_COMPAT_SEALED

def unsupported (features supported : Nat) : Nat := features &&& (UINT32_MAX ^^^ supported)

def le16dec (buf : Store) (off : Nat) : Nat := leDec (get buf off 2)
def le32dec (buf : Store) (off : Nat) : Nat := leDec (get buf off 4)
def le64dec (buf : Store) (off : Nat) : Nat := leDec (get buf off 8)

def isPowerOfTwoU64 (value : Nat) : Bool := value != 0 && value &&& (value - 1) == 0

def rangeFits (offset length limit : Nat) : Bool :=
  if length > UINT64_MAX - offset then false else offset + length ≤ limit

def rangeBeforeData (offset length dataAreaOffset : Nat) : Bool :=
  offset ≥ SCO_METADATA_AREA_OFFSET && offset % SCO_METADATA_PAGE_SIZE == 0 &&
    length != 0 && length % SCO_METADATA_PAGE_SIZE == 0 && rangeFits offset length dataAreaOffset

def reservedZero (buf : Store) (off len : Nat) : Bool :=
  (List.range len).all fun i => buf (off + i) == 0

def bufferAllZero (buf : List UInt8) : Bool := buf.all (· == 0)

/-- The checksum of `len` bytes whose own four checksum bytes count as zero. -/
def crc32cValid (buf : Store) (len checksumOffset expected : Nat) : Bool :=
  crc32c (get (put buf checksumOffset (List.replicate 4 0)) 0 len) == expected

structure Superblock where
  generation : Nat
  virtualSize : Nat
  logicalSectorSize : Nat
  physicalSectorSize : Nat
  clusterSize : Nat
  clusterCount : Nat
  dataAreaOffset : Nat
  baseDescriptorOffset : Nat
  baseDescriptorLength : Nat
  tableOffset : Nat
  tableLength : Nat
  incompatibleFeatures : Nat
  readonlyCompatibleFeatures : Nat
  compatibleFeatures : Nat
  imageUuid : List UInt8
  imageDigest : List UInt8
  hasImageDigest : Bool
deriving DecidableEq

inductive MapState where
  | absent | present | zero | discarded
deriving DecidableEq

namespace MapState

def code : MapState → UInt8
  | absent => 0
  | present => 1
  | zero => 2
  | discarded => 3

/-- `sco_state_valid` with the state it accepts. -/
def ofCode? (b : UInt8) : Option MapState :=
  if b = 0 then some absent
  else if b = 1 then some present
  else if b = 2 then some zero
  else if b = 3 then some discarded
  else none

@[simp] lemma ofCode?_code (st : MapState) : ofCode? st.code = some st := by cases st <;> rfl

end MapState

inductive Slot where
  | a | b
deriving DecidableEq

namespace Slot

def index : Slot → Nat
  | a => 0
  | b => 1

def other : Slot → Slot
  | a => b
  | b => a

@[simp] lemma other_other (i : Slot) : i.other.other = i := by cases i <;> rfl

lemma other_ne (i : Slot) : i.other ≠ i := by cases i <;> decide

lemma index_le (i : Slot) : i.index ≤ 1 := by cases i <;> decide

lemma index_inj (i j : Slot) (h : i.index = j.index) : i = j := by
  cases i <;> cases j <;> first | rfl | exact absurd h (by decide)

end Slot

structure TableEntry where
  generation : Nat
  physicalCluster : Nat
  state : MapState
  activeSlot : Slot
deriving DecidableEq

/-- The entry of a cluster neither of whose slots is valid. -/
def TableEntry.unmapped : TableEntry := ⟨0, 0, .absent, .b⟩

def scoInactiveSuperblockOffset (activeOffset : Nat) : Nat :=
  if activeOffset = SCO_SUPERBLOCK_A_OFFSET then SCO_SUPERBLOCK_B_OFFSET
  else SCO_SUPERBLOCK_A_OFFSET

def scoClusterStoredLength (sb : Superblock) (clusterIndex : Nat) : Nat :=
  let remaining := sb.virtualSize - clusterIndex * sb.clusterSize
  if remaining < sb.clusterSize then remaining else sb.clusterSize

def scoTableSlotOffset (sb : Superblock) (clusterIndex : Nat) (slot : Slot) : Nat :=
  sb.tableOffset + clusterIndex * SCO_TABLE_ENTRY_SIZE + slot.index * SCO_TABLE_SLOT_SIZE

def scoSlotCrc32c (sb : Superblock) (clusterIndex : Nat) (index : Slot) (slot : Store) : Nat :=
  crc32c (sb.imageUuid ++ leEnc 8 clusterIndex ++ leEnc 4 index.index ++
    get (put slot 0x8 (List.replicate 4 0)) 0 SCO_TABLE_SLOT_SIZE)

/-- A slot before its checksum is stored at `0x8`. -/
def slotFields (generation : Nat) (state : MapState) (physicalCluster : Nat) : List Field := [
  (0x0, leEnc 4 generation),
  (0x4, leEnc 4 physicalCluster),
  (0xc, [state.code]),
  (0xd, [0]),
  (0xe, leEnc 2 0)]

def scoBuildSlot (sb : Superblock) (clusterIndex : Nat) (index : Slot) (generation : Nat)
    (state : MapState) (physicalCluster : Nat) : Store :=
  let slot := writeFields (slotFields generation state physicalCluster)
  put slot 0x8 (leEnc 4 (scoSlotCrc32c sb clusterIndex index slot))

/-- The 16 bytes `sco_build_slot` makes of an entry of cluster `c`. -/
def slotBytes (sb : Superblock) (c : Nat) (e : TableEntry) : List UInt8 :=
  get (scoBuildSlot sb c e.activeSlot e.generation e.state e.physicalCluster) 0 SCO_TABLE_SLOT_SIZE

/-- Whether a slot's stored checksum is the one of its contents and place. -/
def scoSlotSealed (sb : Superblock) (clusterIndex : Nat) (index : Slot) (slot : Store) : Bool :=
  scoSlotCrc32c sb clusterIndex index slot == le32dec slot 0x8

def scoSlotValid (sb : Superblock) (fileSize clusterIndex : Nat) (index : Slot) (slot : Store) :
    Option TableEntry :=
  let generation := le32dec slot 0x0
  let physicalCluster := le32dec slot 0x4
  let expectedCrc := le32dec slot 0x8
  let flags := slot 0xd
  if generation = 0 ∧ physicalCluster = 0 ∧ expectedCrc = 0 ∧ slot 0xc = 0 ∧ flags = 0 ∧
      le16dec slot 0xe = 0 then none
  else match MapState.ofCode? (slot 0xc) with
  | none => none
  | some state =>
    if flags ≠ 0 ∨ le16dec slot 0xe ≠ 0 then none
    else if ¬ scoSlotSealed sb clusterIndex index slot then none
    else if state = .present then
      let physicalOffset := physicalCluster * sb.clusterSize
      if physicalCluster = 0 then none
      else if physicalCluster > UINT64_MAX / sb.clusterSize then none
      else if physicalOffset < sb.dataAreaOffset ∨ physicalOffset > fileSize ∨
          scoClusterStoredLength sb clusterIndex > fileSize - physicalOffset then none
      else some ⟨generation, physicalCluster, state, index⟩
    else if physicalCluster ≠ 0 then none
    else some ⟨generation, physicalCluster, state, index⟩

/-- A superblock page before its checksum is stored at `0x14`. -/
def superblockFields (sb : Superblock) : List Field := [
  (0x0, SCO_MAGIC),
  (0x8, leEnc 2 SCO_FORMAT_MAJOR),
  (0xa, leEnc 2 0),
  (0xc, leEnc 4 SCO_SUPERBLOCK_SIZE),
  (0x10, leEnc 4 SCO_CHECKSUM_CRC32C),
  (0x18, leEnc 8 sb.generation),
  (0x20, leEnc 8 sb.virtualSize),
  (0x28, leEnc 4 sb.logicalSectorSize),
  (0x2c, leEnc 4 sb.physicalSectorSize),
  (0x30, leEnc 4 sb.clusterSize),
  (0x38, leEnc 8 sb.clusterCount),
  (0x40, leEnc 8 SCO_METADATA_AREA_OFFSET),
  (0x48, leEnc 8 sb.dataAreaOffset),
  (0x50, leEnc 8 sb.baseDescriptorOffset),
  (0x58, leEnc 4 sb.baseDescriptorLength),
  (0x60, leEnc 8 sb.tableOffset),
  (0x68, leEnc 4 sb.tableLength),
  (0x6c, leEnc 4 SCO_TABLE_SLOT_SIZE),
  (0x70, leEnc 4 sb.incompatibleFeatures),
  (0x74, leEnc 4 sb.readonlyCompatibleFeatures),
  (0x78, leEnc 4 sb.compatibleFeatures),
  (0x80, sb.imageUuid),
  (0x90, if sb.hasImageDigest then sb.imageDigest else []),
  (0xb0, leEnc 4 (if sb.hasImageDigest then 1 else 0))]

def scoBuildSuperblock (sb : Superblock) : Store :=
  let buf := writeFields (superblockFields sb)
  put buf 0x14 (leEnc 4 (crc32c (get buf 0 SCO_SUPERBLOCK_SIZE)))

def superblockPage (sb : Superblock) : List UInt8 :=
  get (scoBuildSuperblock sb) 0 SCO_SUPERBLOCK_SIZE

def scoSuperblockLayoutValid (sb : Superblock) (fileSize : Nat) : Bool :=
  -- both wrap in the source: 64-bit sum, 32-bit product
  let expectedClusters := (sb.virtualSize + sb.clusterSize - 1) % 2 ^ 64 / sb.clusterSize
  let tableTotalLength := sb.tableLength * SCO_TABLE_SLOTS_PER_ENTRY % 2 ^ 32
  let requiredTableLength := sb.clusterCount * SCO_TABLE_SLOT_SIZE
  !(sb.virtualSize == 0 || sb.logicalSectorSize == 0 || sb.clusterSize == 0 ||
      sb.clusterCount == 0) &&
  isPowerOfTwoU64 sb.logicalSectorSize &&
  !(sb.physicalSectorSize != 0 && (!isPowerOfTwoU64 sb.physicalSectorSize ||
      sb.physicalSectorSize < sb.logicalSectorSize)) &&
  !(sb.clusterSize < SCO_MIN_CLUSTER_SIZE || sb.clusterSize > SCO_MAX_CLUSTER_SIZE ||
      !isPowerOfTwoU64 sb.clusterSize || sb.clusterSize % sb.logicalSectorSize != 0) &&
  sb.clusterCount == expectedClusters &&
  !(sb.clusterCount > UINT64_MAX / SCO_TABLE_SLOT_SIZE) &&
  !(requiredTableLength > SCO_MAX_SINGLE_TABLE_BYTES || requiredTableLength > UINT32_MAX) &&
  !(sb.tableLength < requiredTableLength || sb.tableLength > SCO_MAX_SINGLE_TABLE_BYTES ||
      sb.tableLength % SCO_METADATA_PAGE_SIZE != 0) &&
  rangeBeforeData sb.tableOffset tableTotalLength sb.dataAreaOffset &&
  !(sb.dataAreaOffset < SCO_METADATA_AREA_OFFSET || sb.dataAreaOffset % sb.clusterSize != 0 ||
      sb.dataAreaOffset > fileSize) &&
  (if sb.baseDescriptorOffset == 0 then sb.baseDescriptorLength == 0
    else rangeBeforeData sb.baseDescriptorOffset sb.baseDescriptorLength sb.dataAreaOffset)

structure LayoutOk (sb : Superblock) : Prop where
  cluster_pos : 0 < sb.clusterSize
  cluster_le : sb.clusterSize ≤ SCO_MAX_CLUSTER_SIZE
  virtual_pos : 0 < sb.virtualSize
  count_eq : sb.clusterCount = (sb.virtualSize + sb.clusterSize - 1) / sb.clusterSize
  table_ge : SCO_METADATA_AREA_OFFSET ≤ sb.tableOffset
  table_end : sb.tableOffset + sb.clusterCount * SCO_TABLE_ENTRY_SIZE ≤ sb.dataAreaOffset
  data_aligned : sb.dataAreaOffset % sb.clusterSize = 0
  descriptor : sb.baseDescriptorOffset = 0 ∨
    SCO_METADATA_AREA_OFFSET ≤ sb.baseDescriptorOffset ∧
      sb.baseDescriptorOffset + sb.baseDescriptorLength ≤ sb.dataAreaOffset

lemma rangeBeforeData_spec {off len data : Nat} (h : rangeBeforeData off len data = true) :
    SCO_METADATA_AREA_OFFSET ≤ off ∧ off + len ≤ data := by
  simp only [rangeBeforeData, rangeFits, Bool.and_eq_true, decide_eq_true_eq, ge_iff_le] at h
  obtain ⟨⟨⟨⟨hoff, -⟩, -⟩, -⟩, hfit⟩ := h
  split at hfit
  · exact absurd hfit (by simp)
  · exact ⟨hoff, by simpa using hfit⟩

lemma cluster_count_of_wrap {vs cs n : Nat} (hvs : vs < 2 ^ 64) (hcs : 0 < cs)
    (hcs' : cs ≤ SCO_MAX_CLUSTER_SIZE) (hn : n ≠ 0) (h : n = (vs + cs - 1) % 2 ^ 64 / cs) :
    n = (vs + cs - 1) / cs := by
  by_cases hw : vs + cs - 1 < 2 ^ 64
  · rwa [Nat.mod_eq_of_lt hw] at h
  have hmod : (vs + cs - 1) % 2 ^ 64 = vs + cs - 1 - 2 ^ 64 := by
    simp only [SCO_MAX_CLUSTER_SIZE] at hcs'
    omega
  rw [hmod, Nat.div_eq_of_lt (by omega)] at h
  exact absurd h hn

lemma layoutOk_of_valid {sb : Superblock} {fileSize : Nat} (hvs : sb.virtualSize < 2 ^ 64)
    (h : scoSuperblockLayoutValid sb fileSize = true) : LayoutOk sb ∧ sb.dataAreaOffset ≤ fileSize := by
  simp only [scoSuperblockLayoutValid, Bool.and_eq_true, Bool.not_eq_true', Bool.or_eq_false_iff,
    beq_eq_false_iff_ne, bne_eq_false_iff_eq, decide_eq_false_iff_not, beq_iff_eq] at h
  obtain ⟨⟨⟨⟨⟨⟨⟨⟨⟨⟨⟨⟨⟨hv, -⟩, hcs⟩, hn⟩, -⟩, -⟩, ⟨⟨⟨-, hcsle⟩, -⟩, -⟩⟩, hcount⟩, -⟩, -⟩,
    ⟨⟨hlen, hlenle⟩, -⟩⟩, htable⟩, ⟨⟨hdata, hal⟩, hsize⟩⟩, hdesc⟩ := h
  have hcsle' : sb.clusterSize ≤ SCO_MAX_CLUSTER_SIZE := by omega
  have hnowrap : sb.tableLength * SCO_TABLE_SLOTS_PER_ENTRY % 2 ^ 32 = sb.tableLength * 2 := by
    simp only [SCO_TABLE_SLOTS_PER_ENTRY, SCO_MAX_SINGLE_TABLE_BYTES] at hlenle ⊢
    omega
  obtain ⟨hge, hend⟩ := rangeBeforeData_spec htable
  refine ⟨⟨by omega, hcsle', by omega, ?_, hge, ?_, hal, ?_⟩, by omega⟩
  · exact cluster_count_of_wrap hvs (by omega) hcsle' hn hcount
  · simp only [SCO_TABLE_SLOT_SIZE, SCO_TABLE_ENTRY_SIZE] at hlen ⊢
    omega
  · split at hdesc
    · exact Or.inl (by assumption)
    · exact Or.inr (rangeBeforeData_spec hdesc)

lemma stored_le (sb : Superblock) (c : Nat) : scoClusterStoredLength sb c ≤ sb.clusterSize := by
  simp only [scoClusterStoredLength]
  split <;> omega

section
variable {sb : Superblock} (hl : LayoutOk sb)
include hl

lemma LayoutOk.data_ge : SCO_METADATA_AREA_OFFSET ≤ sb.dataAreaOffset := by
  have := hl.table_ge
  have := hl.table_end
  omega

lemma LayoutOk.base_mul : sb.dataAreaOffset / sb.clusterSize * sb.clusterSize = sb.dataAreaOffset :=
  Nat.div_mul_cancel (Nat.dvd_of_mod_eq_zero hl.data_aligned)

lemma LayoutOk.lt_count_iff {c : Nat} : c < sb.clusterCount ↔ c * sb.clusterSize < sb.virtualSize := by
  have hpos := hl.cluster_pos
  rw [hl.count_eq, Nat.lt_iff_add_one_le, Nat.le_div_iff_mul_le hpos, Nat.add_mul]
  omega

lemma LayoutOk.div_lt_count {b : Nat} (hb : b < sb.virtualSize) : b / sb.clusterSize < sb.clusterCount := by
  rw [hl.lt_count_iff]
  exact Nat.lt_of_le_of_lt (Nat.div_mul_le_self _ _) hb

lemma LayoutOk.stored_pos {c : Nat} (hc : c < sb.clusterCount) : 0 < scoClusterStoredLength sb c := by
  have hpos := hl.cluster_pos
  have hlt := hl.lt_count_iff.mp hc
  simp only [scoClusterStoredLength]
  split <;> omega

omit hl in
lemma stored_eq_min (c : Nat) :
    scoClusterStoredLength sb c = min (sb.virtualSize - c * sb.clusterSize) sb.clusterSize := by
  simp only [scoClusterStoredLength]
  split <;> omega

lemma LayoutOk.mod_lt_stored {b : Nat} :
    b % sb.clusterSize < scoClusterStoredLength sb (b / sb.clusterSize) ↔ b < sb.virtualSize := by
  have hmod := Nat.mod_lt b hl.cluster_pos
  have hsum := Nat.div_add_mod' b sb.clusterSize
  rw [stored_eq_min]
  omega

lemma LayoutOk.slot_ge (c : Nat) (i : Slot) : SCO_METADATA_AREA_OFFSET ≤ scoTableSlotOffset sb c i := by
  have := hl.table_ge
  simp only [scoTableSlotOffset]
  omega

lemma LayoutOk.slot_end {c : Nat} (hc : c < sb.clusterCount) (i : Slot) :
    scoTableSlotOffset sb c i + SCO_TABLE_SLOT_SIZE ≤ sb.dataAreaOffset := by
  have hend := hl.table_end
  have hi := i.index_le
  simp only [scoTableSlotOffset, SCO_TABLE_ENTRY_SIZE, SCO_TABLE_SLOT_SIZE] at hend ⊢
  omega

omit hl in
lemma slots_apart {c d : Nat} {i j : Slot} (h : c ≠ d ∨ i ≠ j) :
    scoTableSlotOffset sb c i + SCO_TABLE_SLOT_SIZE ≤ scoTableSlotOffset sb d j ∨
      scoTableSlotOffset sb d j + SCO_TABLE_SLOT_SIZE ≤ scoTableSlotOffset sb c i := by
  have hindex : c ≠ d ∨ i.index ≠ j.index := h.imp_right (mt (Slot.index_inj i j))
  have hi := i.index_le
  have hj := j.index_le
  simp only [scoTableSlotOffset, SCO_TABLE_ENTRY_SIZE, SCO_TABLE_SLOT_SIZE]
  omega

end

lemma clusters_apart {cs p q x y : Nat} (hx : x < cs) (hy : y < cs)
    (h : p * cs + x = q * cs + y) : p = q := by
  have hp := congrArg (· / cs) h
  have hcs : 0 < cs := by omega
  simp only [Nat.mul_comm _ cs, Nat.mul_add_div hcs, Nat.div_eq_of_lt hx, Nat.div_eq_of_lt hy] at hp
  simpa using hp

end ScorpiHv.Sco

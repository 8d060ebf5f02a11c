import ScorpiHv.Sco.Format

/-!
# Opening an SCO image

`sco_open`, and what every image backend shares (`scorpi_image.h`). Memory allocation and
lock initialisation are taken to succeed, and the trace counters are left out.
-/

namespace ScorpiHv

inductive ExtentState where
  | absent | present | zero | discarded
deriving DecidableEq

structure Extent where
  offset : Nat
  length : Nat
  state : ExtentState
deriving DecidableEq

end ScorpiHv

namespace ScorpiHv.Sco
open Bytes

structure BaseDescriptor where
  uri : List UInt8
  uuid : Option (List UInt8)
  digest : Option (List UInt8)
deriving DecidableEq

/-- Ghost record of one `pwrite` of guest data: its guest range, its place in the file, and the
mapping table and log length at that moment. -/
structure GuestWrite where
  cluster : Nat
  clusterOffset : Nat
  offset : Nat
  length : Nat
  fresh : Bool
  table : Nat → TableEntry
  logLength : Nat

/-- Ghost record of a failed commit: the bytes its place held before, those it meant to store and
those found there after. -/
inductive FailedCommit where
  | slot (clusterIndex : Nat) (index : Slot) (found meant left : List UInt8)
  | superblock (found meant left : List UInt8)

structure Image where
  fd : Handle
  readonly : Bool
  fileSize : Nat
  activeSuperblockOffset : Nat
  sb : Superblock
  table : Nat → TableEntry
  dataClusterUsed : Nat → Bool
  dataClusterBase : Nat
  dataClusterCount : Nat
  dataAllocCursor : Nat
  base : Option BaseDescriptor
  guestWrites : List GuestWrite
  failedCommits : List FailedCommit

/-- `read_exact`: the loop over short reads delivers every byte or none. -/
def readExact (f : File) (off len : Nat) : Except Errno Store :=
  if len = 0 ∨ off + len ≤ f.size then .ok (shift f.byte off) else .error .eio

def scoReadFileId (f : File) : Except Errno (List UInt8) := do
  let buf ← readExact f SCO_FILE_ID_OFFSET SCO_FILE_ID_SIZE
  if get buf 0 8 ≠ SCO_MAGIC then .error .einval
  else if le16dec buf 0x8 ≠ SCO_FORMAT_MAJOR then .error .einval
  else if le32dec buf 0xc ≠ SCO_FILE_ID_SIZE then .error .einval
  else if le32dec buf 0x20 ≠ SCO_CHECKSUM_CRC32C then .error .einval
  else if ¬ crc32cValid buf SCO_FILE_ID_SIZE 0x24 (le32dec buf 0x24) then .error .einval
  else if ¬ reservedZero buf 0x28 (SCO_FILE_ID_SIZE - 0x28) then .error .einval
  else .ok (get buf 0x10 16)

/-- The fields `sco_read_superblock` decodes from a page. -/
def scoDecodeSuperblock (buf : Store) : Superblock where
  generation := le64dec buf 0x18
  virtualSize := le64dec buf 0x20
  logicalSectorSize := le32dec buf 0x28
  physicalSectorSize := le32dec buf 0x2c
  clusterSize := le32dec buf 0x30
  clusterCount := le64dec buf 0x38
  dataAreaOffset := le64dec buf 0x48
  baseDescriptorOffset := le64dec buf 0x50
  baseDescriptorLength := le32dec buf 0x58
  tableOffset := le64dec buf 0x60
  tableLength := le32dec buf 0x68
  incompatibleFeatures := le32dec buf 0x70
  readonlyCompatibleFeatures := le32dec buf 0x74
  compatibleFeatures := le32dec buf 0x78
  imageUuid := get buf 0x80 16
  imageDigest := get buf 0x90 32
  hasImageDigest := le32dec buf 0xb0 ≠ 0

/-- The checks on a page before any of its fields is used. -/
def scoSuperblockPageValid (buf : Store) : Bool :=
  get buf 0 8 == SCO_MAGIC && le16dec buf 0x8 == SCO_FORMAT_MAJOR &&
    le32dec buf 0xc == SCO_SUPERBLOCK_SIZE && le32dec buf 0x10 == SCO_CHECKSUM_CRC32C &&
    crc32cValid buf SCO_SUPERBLOCK_SIZE 0x14 (le32dec buf 0x14) &&
    le64dec buf 0x40 == SCO_METADATA_AREA_OFFSET && le32dec buf 0x6c == SCO_TABLE_SLOT_SIZE &&
    le32dec buf 0x5c == 0 && le32dec buf 0x7c == 0 && le32dec buf 0xb4 == 0 &&
    reservedZero buf 0xb8 (SCO_SUPERBLOCK_SIZE - 0xb8) && le32dec buf 0xb0 ≤ 1

def scoReadSuperblock (f : File) (offset : Nat) (readonly : Bool) (fileIdUuid : List UInt8)
    (fileSize : Nat) : Except Errno Superblock := do
  let buf ← readExact f offset SCO_SUPERBLOCK_SIZE
  let sb := scoDecodeSuperblock buf
  if ¬ scoSuperblockPageValid buf then .error .einval
  else if sb.imageUuid ≠ fileIdUuid then .error .einval
  else if unsupported sb.incompatibleFeatures SCO_INCOMPAT_SUPPORTED ≠ 0 then .error .einval
  else if unsupported sb.readonlyCompatibleFeatures SCO_RO_COMPAT_SUPPORTED ≠ 0 ∧
      readonly = false then .error .einval
  else if sb.incompatibleFeatures &&& SCO_INCOMPAT_FIXED_TABLE_V2 = 0 then .error .einval
  else if ¬ scoSuperblockLayoutValid sb fileSize then .error .einval
  else .ok sb

def scoSelectSuperblock (f : File) (readonly : Bool) (fileIdUuid : List UInt8) (fileSize : Nat) :
    Except Errno (Superblock × Nat) :=
  match scoReadSuperblock f SCO_SUPERBLOCK_A_OFFSET readonly fileIdUuid fileSize,
      scoReadSuperblock f SCO_SUPERBLOCK_B_OFFSET readonly fileIdUuid fileSize with
  | .error _, .error _ => .error .einval
  | .ok a, .error _ => .ok (a, SCO_SUPERBLOCK_A_OFFSET)
  | .error _, .ok b => .ok (b, SCO_SUPERBLOCK_B_OFFSET)
  | .ok a, .ok b =>
    if b.generation > a.generation then .ok (b, SCO_SUPERBLOCK_B_OFFSET)
    else .ok (a, SCO_SUPERBLOCK_A_OFFSET)

def Superblock.isSealed (sb : Superblock) : Bool :=
  sb.readonlyCompatibleFeatures &&& SCO_RO_COMPAT_SEALED != 0

def slotAt (f : File) (sb : Superblock) (c : Nat) (i : Slot) : Store :=
  shift f.byte (scoTableSlotOffset sb c i)

def newerSlot : Option TableEntry → Option TableEntry → TableEntry
  | some a, some b => if b.generation > a.generation then b else a
  | some a, none => a
  | none, some b => b
  | none, none => .unmapped

def scoLoadEntry (f : File) (sb : Superblock) (fileSize c : Nat) : TableEntry :=
  newerSlot (scoSlotValid sb fileSize c .a (slotAt f sb c .a))
    (scoSlotValid sb fileSize c .b (slotAt f sb c .b))

def scoLoadTable (f : File) (sb : Superblock) (fileSize : Nat) :
    Except Errno (Nat → TableEntry) := do
  let _ ← readExact f sb.tableOffset (sb.clusterCount * SCO_TABLE_ENTRY_SIZE)
  .ok (scoLoadEntry f sb fileSize)

def setUsed (used : Nat → Bool) (index : Nat) (v : Bool) : Nat → Bool :=
  fun i => if i = index then v else used i

/-- The loop of `sco_data_allocator_init` over the clusters in `is`. -/
def markPresent (table : Nat → TableEntry) (base count : Nat) :
    List Nat → (Nat → Bool) → Except Errno (Nat → Bool)
  | [], used => .ok used
  | i :: is, used =>
    let entry := table i
    if entry.state ≠ .present then markPresent table base count is used
    else if entry.physicalCluster < base then .error .einval
    else
      let index := entry.physicalCluster - base
      if index ≥ count ∨ used index then .error .einval
      else markPresent table base count is (setUsed used index true)

def dataClusters (sb : Superblock) (fileSize : Nat) : Except Errno Nat :=
  if fileSize ≤ sb.dataAreaOffset then .ok 0
  else if fileSize > UINT64_MAX - sb.clusterSize + 1 then .error .efbig
  else
    let fileClusters := (fileSize + sb.clusterSize - 1) / sb.clusterSize
    let base := sb.dataAreaOffset / sb.clusterSize
    if fileClusters < base then .error .einval else .ok (fileClusters - base)

def scoDataAllocatorInit (sb : Superblock) (fileSize : Nat) (table : Nat → TableEntry) :
    Except Errno (Nat × Nat × (Nat → Bool)) := do
  if sb.dataAreaOffset % sb.clusterSize ≠ 0 then .error .einval
  else
    let base := sb.dataAreaOffset / sb.clusterSize
    let count ← dataClusters sb fileSize
    let used ← markPresent table base count (List.range sb.clusterCount) fun _ => false
    .ok (base, count, used)

def scoReadBaseDescriptor (f : File) (sb : Superblock) : Except Errno (Option BaseDescriptor) := do
  if sb.baseDescriptorOffset = 0 then .ok none
  else
    let buf ← readExact f sb.baseDescriptorOffset sb.baseDescriptorLength
    let descriptorSize := le32dec buf 0x0
    let baseUriLength := le32dec buf 0x10
    let paddingOffset := SCO_BASE_DESCRIPTOR_MIN_SIZE + baseUriLength
    if descriptorSize ≠ sb.baseDescriptorLength ∨
        descriptorSize < SCO_BASE_DESCRIPTOR_MIN_SIZE ∨
        descriptorSize % SCO_METADATA_PAGE_SIZE ≠ 0 ∨
        le32dec buf 0x4 ≠ SCO_CHECKSUM_CRC32C ∨ le32dec buf 0xc ≠ 0 ∨ le32dec buf 0x14 ≠ 0 ∨
        le32dec buf 0x48 > 1 ∨ le32dec buf 0x4c > 1 ∨ baseUriLength = 0 ∨
        baseUriLength > descriptorSize - SCO_BASE_DESCRIPTOR_MIN_SIZE then .error .einval
    else if ¬ crc32cValid buf descriptorSize 0x8 (le32dec buf 0x8) then .error .einval
    else if ¬ reservedZero buf paddingOffset (descriptorSize - paddingOffset) then .error .einval
    -- "file:"
    else if baseUriLength < 5 ∨
        get buf SCO_BASE_DESCRIPTOR_MIN_SIZE 5 ≠ [0x66, 0x69, 0x6c, 0x65, 0x3a] then
      .error .enotsup
    else .ok <| some {
      uri := get buf SCO_BASE_DESCRIPTOR_MIN_SIZE baseUriLength
      uuid := if le32dec buf 0x48 ≠ 0 then some (get buf 0x18 16) else none
      digest := if le32dec buf 0x4c ≠ 0 then some (get buf 0x28 32) else none }

def scoOpen (f : File) (readonly : Bool) : Except Errno Image := do
  if f.size < SCO_MIN_FILE_SIZE then .error .einval
  else
    let fileIdUuid ← scoReadFileId f
    let (sb, active) ← scoSelectSuperblock f readonly fileIdUuid f.size
    if readonly = false ∧ sb.isSealed then .error .erofs
    else
      let table ← scoLoadTable f sb f.size
      let (base, count, used) ← scoDataAllocatorInit sb f.size table
      let descriptor ← scoReadBaseDescriptor f sb
      .ok {
        fd := ⟨f, []⟩
        readonly := readonly
        fileSize := f.size
        activeSuperblockOffset := active
        sb := sb
        table := table
        dataClusterUsed := used
        dataClusterBase := base
        dataClusterCount := count
        dataAllocCursor := 0
        base := descriptor
        guestWrites := []
        failedCommits := [] }

end ScorpiHv.Sco

import ScorpiHv.Sco.Open

/-!
# Operations on an open SCO image

Each function is the one of the same name in `scorpi_image_sco.c`, and one program
where it runs under the image lock. Every call checks offsets and lengths against the
virtual size, below `2 ^ 64`, before it adds or multiplies.
-/

namespace ScorpiHv.Sco
open Bytes
open ScorpiHv (update)

def Image.push (s : Image) (e : Effect) : Image := { s with fd := s.fd.push e }

/-- `write_exact`: a failing write has got fewer than all its bytes through. -/
def writeExact (off : Nat) (bs : List UInt8) : Run Image Unit := do
  if bs = [] then pure ()
  else
    match ← nextFault with
    | .none => update fun s => s.push (.pwrite off bs)
    | .fail err done =>
      update fun s => s.push (.pwrite off (bs.take (min done (bs.length - 1))))
      throw err

def fsync : Run Image Unit := do
  match ← nextFault with
  | .none => update fun s => s.push .sync
  | .fail err _ => throw err

/-- `scorpi_host_punch_hole`, whose result every caller ignores. -/
def punchHole (off len : Nat) : Run Image Unit := do
  if len = 0 then pure ()
  else
    match ← nextFault with
    | .none => update fun s => s.push (.punch off len)
    | .fail _ _ => pure ()

def recordFailure (record : Image → FailedCommit) (x : Run Image Unit) : Run Image Unit :=
  tryCatch x fun err => do
    update fun s => { s with failedCommits := s.failedCommits ++ [record s] }
    throw err

structure Lookup where
  extent : Extent
  physicalOffset : Nat

def MapState.extent : MapState → ExtentState
  | absent => .absent
  | present => .present
  | zero => .zero
  | discarded => .discarded

def scoLookupExtent (s : Image) (offset length : Nat) : Except Errno Lookup :=
  if length = 0 ∨ offset ≥ s.sb.virtualSize then .error .einval
  else
    let clusterIndex := offset / s.sb.clusterSize
    if clusterIndex ≥ s.sb.clusterCount then .error .einval
    else
      let clusterOffset := offset - clusterIndex * s.sb.clusterSize
      let clusterLength := scoClusterStoredLength s.sb clusterIndex
      if clusterOffset ≥ clusterLength then .error .einval
      else
        let length := if length > clusterLength - clusterOffset then clusterLength - clusterOffset
          else length
        let entry := s.table clusterIndex
        .ok {
          extent := ⟨offset, length, entry.state.extent⟩
          physicalOffset := if entry.state = .present then
            entry.physicalCluster * s.sb.clusterSize else 0 }

def scoDataAllocatorGrow (s : Image) (count : Nat) : Image :=
  if count ≤ s.dataClusterCount then s
  else { s with
    dataClusterUsed := fun i => if s.dataClusterCount ≤ i ∧ i < count then false
      else s.dataClusterUsed i
    dataClusterCount := count }

/-- `sco_data_allocator_mark` with `used = false`, then the cursor moves back. -/
def scoDataAllocatorRelease (s : Image) (physicalCluster : Nat) : Image :=
  if physicalCluster < s.dataClusterBase then s
  else
    let index := physicalCluster - s.dataClusterBase
    if index ≥ s.dataClusterCount then s
    else
      let s := { s with dataClusterUsed := setUsed s.dataClusterUsed index false }
      if s.dataAllocCursor ≥ s.dataClusterCount ∨ index < s.dataAllocCursor then
        { s with dataAllocCursor := index }
      else s

/-- First unused cluster index, searched round from the cursor. -/
def findUnused (s : Image) : Option Nat :=
  ((List.range s.dataClusterCount).map fun checked =>
    (s.dataAllocCursor + checked) % s.dataClusterCount).find? fun index => !s.dataClusterUsed index

/-- The branch of `sco_alloc_data_cluster` that adds a cluster at the end. -/
def growDataArea : Run Image Nat := do
  let s ← state
  if s.dataClusterBase > UINT64_MAX - s.dataClusterCount then throw .efbig
  else
    let physicalCluster := s.dataClusterBase + s.dataClusterCount
    if physicalCluster = 0 ∨ physicalCluster > UINT32_MAX then throw .efbig
    else
      update fun s => scoDataAllocatorGrow s (s.dataClusterCount + 1)
      update fun s => { s with
        dataAllocCursor := (physicalCluster - s.dataClusterBase + 1) % s.dataClusterCount }
      pure physicalCluster

/-- The choice of a physical cluster in `sco_alloc_data_cluster`, before it is marked. -/
def chooseCluster : Run Image Nat := do
  let s ← state
  match findUnused s with
  | some index =>
    update fun s => { s with dataAllocCursor := (index + 1) % s.dataClusterCount }
    if s.dataClusterBase + index = 0 then growDataArea
    else pure (s.dataClusterBase + index)
  | none => growDataArea

def recordGuestWrite (s : Image) (cluster clusterOffset offset length : Nat) (fresh : Bool) : Image :=
  { s with guestWrites := s.guestWrites ++
      [⟨cluster, clusterOffset, offset, length, fresh, s.table, s.fd.log.length⟩] }

/-- The write of `sco_alloc_data_cluster`, once its cluster is marked used. -/
def writeDataCluster (clusterIndex physicalCluster : Nat) (buf : List UInt8) : Run Image Nat := do
  let s ← state
  let storedLength := scoClusterStoredLength s.sb clusterIndex
  let physicalOffset := physicalCluster * s.sb.clusterSize
  if storedLength > UINT64_MAX - physicalOffset then throw .efbig
  else
    update fun s => recordGuestWrite s clusterIndex 0 physicalOffset storedLength true
    writeExact physicalOffset (buf.take storedLength)
    update fun s => { s with fileSize := max s.fileSize (physicalOffset + storedLength) }
    pure physicalOffset

/-- Returns the physical offset the cluster's `buf` was written to. -/
def scoAllocDataCluster (clusterIndex : Nat) (buf : List UInt8) : Run Image Nat := do
  let s ← state
  if scoClusterStoredLength s.sb clusterIndex = 0 then throw .einval
  else
    let physicalCluster ← chooseCluster
    if physicalCluster = 0 ∨ physicalCluster > UINT32_MAX then throw .efbig
    else
      update fun s => { s with
        dataClusterUsed := setUsed s.dataClusterUsed (physicalCluster - s.dataClusterBase) true }
      writeDataCluster clusterIndex physicalCluster buf

/-- The check of `sco_commit_table_entry` on its arguments, giving the physical cluster. -/
def commitCluster (s : Image) (state : MapState) (physicalOffset : Nat) : Except Errno Nat :=
  if state = .present then
    if physicalOffset < s.sb.dataAreaOffset ∨ physicalOffset % s.sb.clusterSize ≠ 0 then
      .error .einval
    else
      let physicalCluster := physicalOffset / s.sb.clusterSize
      if physicalCluster = 0 ∨ physicalCluster > UINT32_MAX then .error .efbig
      else .ok physicalCluster
  else if physicalOffset ≠ 0 then .error .einval
  else .ok 0

def setEntry (table : Nat → TableEntry) (c : Nat) (e : TableEntry) : Nat → TableEntry :=
  fun i => if i = c then e else table i

/-- What follows a durable slot: the entry in memory, and the old cluster given back. -/
def publishEntry (clusterIndex : Nat) (e : TableEntry) : Run Image Unit := do
  let s ← state
  let old := s.table clusterIndex
  update fun s => { s with table := setEntry s.table clusterIndex e }
  if old.state = .present ∧ old.physicalCluster ≠ e.physicalCluster then
    update fun s => scoDataAllocatorRelease s old.physicalCluster
    punchHole (old.physicalCluster * s.sb.clusterSize) (scoClusterStoredLength s.sb clusterIndex)
  else pure ()

def commitEntry (clusterIndex : Nat) (e : TableEntry) : Run Image Unit := do
  let s ← state
  let off := scoTableSlotOffset s.sb clusterIndex e.activeSlot
  let slot := slotBytes s.sb clusterIndex e
  let found := get s.fd.file.byte off SCO_TABLE_SLOT_SIZE
  recordFailure (fun t => .slot clusterIndex e.activeSlot found slot
      (get t.fd.file.byte off SCO_TABLE_SLOT_SIZE)) do
    writeExact off slot
    fsync
  publishEntry clusterIndex e

def scoCommitTableEntry (clusterIndex : Nat) (mapState : MapState) (physicalOffset : Nat) :
    Run Image Unit := do
  let s ← state
  if clusterIndex ≥ s.sb.clusterCount then throw .einval
  else
    let physicalCluster ← MonadExcept.ofExcept (commitCluster s mapState physicalOffset)
    let old := s.table clusterIndex
    if old.generation = UINT32_MAX then throw .efbig
    else
      commitEntry clusterIndex
        ⟨old.generation + 1, physicalCluster, mapState, old.activeSlot.other⟩

def scoWritePresentCluster (lookup : Lookup) (clusterOffset : Nat) (buf : List UInt8) :
    Run Image Unit := do
  let s ← state
  let clusterIndex := lookup.extent.offset / s.sb.clusterSize
  let storedLength := scoClusterStoredLength s.sb clusterIndex
  if buf = [] then throw .einval
  else if clusterOffset > storedLength ∨ buf.length > storedLength - clusterOffset then
    throw .einval
  else if clusterOffset = 0 ∧ buf.length = storedLength ∧ bufferAllZero buf then
    scoCommitTableEntry clusterIndex .zero 0
  else
    update fun s => recordGuestWrite s clusterIndex clusterOffset
      (lookup.physicalOffset + clusterOffset) buf.length false
    writeExact (lookup.physicalOffset + clusterOffset) buf

def scoWritePresentClusterData (lookup : Lookup) (clusterOffset : Nat) (buf : List UInt8) :
    Run Image Unit := do
  let s ← state
  let clusterIndex := lookup.extent.offset / s.sb.clusterSize
  let storedLength := scoClusterStoredLength s.sb clusterIndex
  if buf = [] then throw .einval
  else if clusterOffset > storedLength ∨ buf.length > storedLength - clusterOffset then
    throw .einval
  else
    update fun s => recordGuestWrite s clusterIndex clusterOffset
      (lookup.physicalOffset + clusterOffset) buf.length false
    writeExact (lookup.physicalOffset + clusterOffset) buf

def allocAndCommit (clusterIndex : Nat) (buf : List UInt8) : Run Image Unit := do
  let physicalOffset ← scoAllocDataCluster clusterIndex buf
  fsync
  scoCommitTableEntry clusterIndex .present physicalOffset

def scoWriteMaterializedCluster (clusterIndex clusterOffset : Nat) (buf : List UInt8) :
    Run Image Unit := do
  let s ← state
  let storedLength := scoClusterStoredLength s.sb clusterIndex
  if buf = [] then throw .einval
  else if storedLength = 0 ∨ clusterOffset > storedLength ∨
      buf.length > storedLength - clusterOffset then throw .einval
  else if clusterOffset = 0 ∧ buf.length = storedLength then
    if bufferAllZero buf then scoCommitTableEntry clusterIndex .zero 0
    else allocAndCommit clusterIndex buf
  else
    -- calloc, then memcpy of the written part
    let cluster := get (put blank clusterOffset buf) 0 storedLength
    allocAndCommit clusterIndex cluster

def scoWriteClusterRange (clusterIndex clusterOffset : Nat) (buf : List UInt8) :
    Run Image Unit := do
  let s ← state
  let storedLength := scoClusterStoredLength s.sb clusterIndex
  if buf = [] then throw .einval
  -- past the cluster's end the 64-bit difference wraps, and the callees refuse instead
  else if storedLength = 0 ∨
      clusterOffset ≤ storedLength ∧ buf.length > storedLength - clusterOffset then throw .einval
  else
    let lookup ← MonadExcept.ofExcept
      (scoLookupExtent s (clusterIndex * s.sb.clusterSize) storedLength)
    match lookup.extent.state with
    | .present => scoWritePresentCluster lookup clusterOffset buf
    | .absent =>
      if s.base.isSome ∧ (clusterOffset ≠ 0 ∨ buf.length ≠ storedLength) then throw .eopnotsupp
      else scoWriteMaterializedCluster clusterIndex clusterOffset buf
    | .zero => scoWriteMaterializedCluster clusterIndex clusterOffset buf
    | .discarded => scoWriteMaterializedCluster clusterIndex clusterOffset buf

def scoDiscardClusterRange (clusterIndex clusterOffset len : Nat) : Run Image Unit := do
  let s ← state
  let storedLength := scoClusterStoredLength s.sb clusterIndex
  if len = 0 then throw .einval
  else if storedLength = 0 ∨ clusterOffset ≥ storedLength ∨
      len > storedLength - clusterOffset then throw .einval
  else
    let lookup ← MonadExcept.ofExcept
      (scoLookupExtent s (clusterIndex * s.sb.clusterSize) storedLength)
    if clusterOffset = 0 ∧ len = storedLength then
      scoCommitTableEntry clusterIndex .discarded 0
    else
      match lookup.extent.state with
      | .present => scoWritePresentCluster lookup clusterOffset (List.replicate len 0)
      | .absent =>
        if s.base.isSome then throw .eopnotsupp
        else scoCommitTableEntry clusterIndex .discarded 0
      | .zero => scoCommitTableEntry clusterIndex .discarded 0
      | .discarded => scoCommitTableEntry clusterIndex .discarded 0

def scoMap (s : Image) (offset length : Nat) : Except Errno Extent := do
  let lookup ← scoLookupExtent s offset length
  .ok lookup.extent

def scoValidateWriteLocked (s : Image) (offset len : Nat) : Except Errno Unit :=
  if s.readonly ∨ s.sb.isSealed then .error .erofs
  else if offset > s.sb.virtualSize ∨ len > s.sb.virtualSize - offset then .error .einval
  else .ok ()

def readData (off len : Nat) : Run Image (List UInt8) := do
  match ← nextFault with
  | .none =>
    let s ← state
    let buf ← MonadExcept.ofExcept (readExact s.fd.file off len)
    pure (get buf 0 len)
  | .fail err _ => throw err

def readExtent (s : Image) (lookup : Lookup) (offset : Nat) : Run Image (List UInt8) :=
  match lookup.extent.state with
  | .present =>
    readData (lookup.physicalOffset + offset % s.sb.clusterSize) lookup.extent.length
  | .absent => pure (List.replicate lookup.extent.length 0)
  | .zero => pure (List.replicate lookup.extent.length 0)
  | .discarded => pure (List.replicate lookup.extent.length 0)

/-- The loop of `sco_read`; `fuel` is at least the number of bytes left. -/
def scoReadLoop : Nat → Nat → Nat → Run Image (List UInt8)
  | 0, _, _ => pure []
  | fuel + 1, offset, len => do
    if len = 0 then pure []
    else
      let s ← state
      let lookup ← MonadExcept.ofExcept (scoLookupExtent s offset len)
      let n := lookup.extent.length
      if n = 0 then throw .eio
      else
        let part ← readExtent s lookup offset
        let rest ← scoReadLoop fuel (offset + n) (len - n)
        pure (part ++ rest)

def scoRead (offset len : Nat) : Run Image (List UInt8) := do
  let s ← state
  if offset > s.sb.virtualSize ∨ len > s.sb.virtualSize - offset then throw .einval
  else scoReadLoop len offset len

def scoWriteIsDataOnly (lookup : Lookup) (clusterOffset : Nat) (buf : List UInt8)
    (storedLength : Nat) : Bool :=
  if lookup.extent.state ≠ .present then false
  else if clusterOffset = 0 ∧ buf.length = storedLength ∧ bufferAllZero buf then false
  else true

def scoTryWritePresentDataOnly (clusterIndex clusterOffset : Nat) (buf : List UInt8) :
    Run Image Bool := do
  let s ← state
  if buf = [] then throw .einval
  else
    MonadExcept.ofExcept (scoValidateWriteLocked s
      (clusterIndex * s.sb.clusterSize + clusterOffset) buf.length)
    let storedLength := scoClusterStoredLength s.sb clusterIndex
    if storedLength = 0 ∨ clusterOffset ≥ storedLength ∨
        buf.length > storedLength - clusterOffset then throw .einval
    else
      let lookup ← MonadExcept.ofExcept
        (scoLookupExtent s (clusterIndex * s.sb.clusterSize) storedLength)
      if ¬ scoWriteIsDataOnly lookup clusterOffset buf storedLength then pure false
      else
        scoWritePresentClusterData lookup clusterOffset buf
        pure true

def scoWriteMetadataCluster (clusterIndex clusterOffset : Nat) (buf : List UInt8) :
    Run Image Unit := do
  let s ← state
  MonadExcept.ofExcept (scoValidateWriteLocked s
    (clusterIndex * s.sb.clusterSize + clusterOffset) buf.length)
  scoWriteClusterRange clusterIndex clusterOffset buf

def scoWriteChunk (clusterIndex clusterOffset : Nat) (buf : List UInt8) : Run Image Unit := do
  let done ← scoTryWritePresentDataOnly clusterIndex clusterOffset buf
  if done then pure ()
  else scoWriteMetadataCluster clusterIndex clusterOffset buf

/-- Where the loops of `sco_write` and `sco_discard` cut the next chunk. -/
structure Chunk where
  clusterIndex : Nat
  clusterOffset : Nat
  length : Nat
deriving DecidableEq

def nextChunk (clusterSize virtualSize offset len : Nat) : Except Errno Chunk :=
  let clusterIndex := offset / clusterSize
  let clusterOffset := offset % clusterSize
  let storedLength := min (virtualSize - clusterIndex * clusterSize) clusterSize
  if storedLength = 0 ∨ clusterOffset ≥ storedLength then .error .einval
  else .ok ⟨clusterIndex, clusterOffset, min (storedLength - clusterOffset) len⟩

def scoWriteLoop (clusterSize virtualSize : Nat) : Nat → Nat → List UInt8 → Run Image Unit
  | 0, _, _ => pure ()
  | fuel + 1, offset, p => do
    if p = [] then pure ()
    else
      let chunk ← MonadExcept.ofExcept (nextChunk clusterSize virtualSize offset p.length)
      scoWriteChunk chunk.clusterIndex chunk.clusterOffset (p.take chunk.length)
      scoWriteLoop clusterSize virtualSize fuel (offset + chunk.length) (p.drop chunk.length)

def scoWrite (buf : List UInt8) (offset : Nat) : Run Image Unit := do
  let s ← state
  MonadExcept.ofExcept (scoValidateWriteLocked s offset buf.length)
  scoWriteLoop s.sb.clusterSize s.sb.virtualSize buf.length offset buf

def scoDiscardLoop (clusterSize virtualSize : Nat) : Nat → Nat → Nat → Run Image Unit
  | 0, _, _ => pure ()
  | fuel + 1, offset, len => do
    if len = 0 then pure ()
    else
      let chunk ← MonadExcept.ofExcept (nextChunk clusterSize virtualSize offset len)
      scoDiscardClusterRange chunk.clusterIndex chunk.clusterOffset chunk.length
      scoDiscardLoop clusterSize virtualSize fuel (offset + chunk.length) (len - chunk.length)

def scoDiscard (offset length : Nat) : Run Image Unit := do
  let s ← state
  if s.readonly ∨ s.sb.isSealed then throw .erofs
  else if offset > s.sb.virtualSize ∨ length > s.sb.virtualSize - offset then throw .einval
  else scoDiscardLoop s.sb.clusterSize s.sb.virtualSize length offset length

def scoFlush : Run Image Unit := fsync

/-- The superblock `scorpi_image_sco_set_sealed` commits. -/
def Superblock.resealed (sb : Superblock) (isSealed : Bool) : Superblock :=
  { sb with
    generation := (sb.generation + 1) % 2 ^ 64
    readonlyCompatibleFeatures :=
      if isSealed then sb.readonlyCompatibleFeatures ||| SCO_RO_COMPAT_SEALED
      else unsupported sb.readonlyCompatibleFeatures SCO_RO_COMPAT_SEALED }

def scoCommitSuperblock (next : Superblock) : Run Image Unit := do
  let s ← state
  let off := scoInactiveSuperblockOffset s.activeSuperblockOffset
  let page := superblockPage next
  let found := get s.fd.file.byte off SCO_SUPERBLOCK_SIZE
  recordFailure (fun t => .superblock found page (get t.fd.file.byte off SCO_SUPERBLOCK_SIZE)) do
    writeExact off page
    fsync
  update fun s => { s with sb := next, activeSuperblockOffset := off }

def scorpiImageScoSetSealed (isSealed : Bool) : Run Image Unit := do
  let s ← state
  if unsupported s.sb.readonlyCompatibleFeatures SCO_RO_COMPAT_SUPPORTED ≠ 0 then throw .enotsup
  else if s.sb.isSealed = isSealed then pure ()
  else if isSealed ∧ s.readonly then throw .erofs
  else
    scoCommitSuperblock (s.sb.resealed isSealed)

end ScorpiHv.Sco

import ScorpiHv.Sco.Open

/-!
# QCOW2 headers

Which headers `qcow2_open` accepts, and whether the L1 table then has an entry for every offset
of the disk.
-/

namespace ScorpiHv.Qcow2
open Bytes

def be32dec (m : Store) (off : Nat) : UInt32 := .ofNat (beDec (get m off 4))

def be64dec (m : Store) (off : Nat) : UInt64 := .ofNat (beDec (get m off 8))

structure Header where
  version : UInt32
  clusterBits : UInt32
  size : UInt64
  cryptMethod : UInt32
  l1Size : UInt32
  l1TableOffset : UInt64
  incompatibleFeatures : UInt64 := 0
  headerLength : UInt32 := 72
  compressionType : UInt8 := 0
  deriving DecidableEq

def Header.clusterSize (header : Header) : Nat := 2 ^ header.clusterBits.toNat

/-- A read past the end of the file fails with `EIO`. -/
def qcow2DecodeHeader (fd : File) : Except Errno Header :=
  let buf := fd.byte
  let header : Header :=
    { version := be32dec buf 4, clusterBits := be32dec buf 20, size := be64dec buf 24
      cryptMethod := be32dec buf 32, l1Size := be32dec buf 36, l1TableOffset := be64dec buf 40 }
  let headerLength := be32dec buf 100
  if fd.size < 72 then .error .eio
  else if be32dec buf 0 ≠ 0x514649fb then .error .einval
  else if header.version ≠ 2 ∧ header.version ≠ 3 then .error .enotsup
  else if header.version = 2 then .ok header
  else if fd.size < 104 then .error .eio
  else if headerLength < 104 ∨ headerLength % 8 ≠ 0 then .error .einval
  else if 104 < headerLength ∧ fd.size < 105 then .error .eio
  else .ok { header with
    incompatibleFeatures := be64dec buf 72, headerLength
    compressionType := if 104 < headerLength then buf 104 else 0 }

-- Only the sum of `size` and `cluster_size` can exceed 64 bits.
def qcow2ValidateHeader (header : Header) : Except Errno Unit :=
  let clusterSize := header.clusterSize
  let l1Size := header.l1Size.toNat
  let l1TableOffset := header.l1TableOffset.toNat
  if header.clusterBits.toNat < 9 ∨ 21 < header.clusterBits.toNat then .error .enotsup
  else if clusterSize < header.headerLength.toNat then .error .einval
  else if header.cryptMethod ≠ 0 ∨ header.incompatibleFeatures ≠ 0 ∨ header.compressionType ≠ 0
  then .error .enotsup
  else if l1Size = 0 ∨ l1TableOffset = 0 then .error .einval
  else if 32 * 1024 * 1024 / 8 < l1Size then .error .efbig
  else if l1TableOffset % clusterSize ≠ 0 then .error .einval
  else if 2 ^ 64 - 1 - l1Size * 8 < l1TableOffset then .error .efbig
  else if 0 < header.size.toNat ∧ l1Size * (clusterSize / 8) <
    (header.size.toNat + clusterSize - 1) % 2 ^ 64 / clusterSize then .error .einval
  else .ok ()

def Header.l1Index (header : Header) (offset : UInt64) : Nat :=
  offset.toNat / header.clusterSize / (header.clusterSize / 8)

def Header.clusterStart (header : Header) (offset : UInt64) : Nat :=
  offset.toNat / header.clusterSize * header.clusterSize

/-- `qcow2_resolve_cluster`; `lookup` is what it does with an entry of the L1 table. -/
def qcow2ResolveCluster (header : Header) (lookup : Nat → Nat → Except Errno ExtentState)
    (offset : UInt64) : Except Errno ExtentState :=
  if header.size ≤ offset then .error .einval
  else if header.l1Size.toNat ≤ header.l1Index offset then .error .einval
  else lookup (header.l1Index offset)
    (offset.toNat / header.clusterSize % (header.clusterSize / 8))

def qcow2Map (header : Header) (lookup : Nat → Nat → Except Errno ExtentState)
    (offset length : UInt64) : Except Errno Extent := do
  if length = 0 ∨ header.size ≤ offset then throw .einval
  let length := min length.toNat (header.size.toNat - offset.toNat)
  let state ← qcow2ResolveCluster header lookup offset
  let clusterEnd := min ((header.clusterStart offset + header.clusterSize) % 2 ^ 64)
    header.size.toNat
  return ⟨offset.toNat, min length ((2 ^ 64 + clusterEnd - offset.toNat) % 2 ^ 64), state⟩

variable {header : Header}

lemma validate_ok (h : qcow2ValidateHeader header = .ok ()) :
    (9 ≤ header.clusterBits.toNat ∧ header.clusterBits.toNat ≤ 21) ∧
      header.l1Size.toNat ≤ 4194304 ∧ (0 < header.size.toNat →
        (header.size.toNat + header.clusterSize - 1) % 2 ^ 64 / header.clusterSize ≤
          header.l1Size.toNat * (header.clusterSize / 8)) := by
  unfold qcow2ValidateHeader at h
  dsimp only at h
  split_ifs at h
  omega

lemma covered_iff (h : qcow2ValidateHeader header = .ok ()) :
    header.size.toNat + header.clusterSize ≤ 2 ^ 64 ↔ ∀ offset < header.size,
      header.l1Index offset < header.l1Size.toNat ∧
        header.clusterStart offset + header.clusterSize < 2 ^ 64 := by
  obtain ⟨⟨hmin, hmax⟩, hl1, hcover⟩ := validate_ok h
  have hlast : 0 < header.size.toNat → (header.size - 1).toNat = header.size.toNat - 1 :=
    fun hpos => UInt64.toNat_sub_of_le _ _ (UInt64.le_iff_toNat_le.mpr hpos)
  unfold Header.l1Index Header.clusterStart
  unfold Header.clusterSize at hcover ⊢
  simp only [UInt64.lt_iff_toNat_lt]
  generalize header.clusterBits.toNat = bits at hmin hmax hcover ⊢
  have hsize := header.size.toNat_lt
  constructor
  · intro hfit offset hoff
    interval_cases bits <;> omega
  · intro hall
    by_contra hwrap
    have hpos : 0 < header.size.toNat := by interval_cases bits <;> omega
    have hend := (hall (header.size - 1) (by rw [hlast hpos]; omega)).2
    rw [hlast hpos] at hend
    interval_cases bits <;> omega

/-- The entry of an offset in its L2 table. -/
def Header.l2Index (header : Header) (offset : UInt64) : Nat :=
  offset.toNat / header.clusterSize % (header.clusterSize / 8)

/-- An offset of the disk is looked up in the tables, and mapped to the end of its cluster or of
the disk. -/
def Header.Maps (header : Header) (offset : UInt64) : Prop :=
  ∀ lookup, qcow2ResolveCluster header lookup offset =
      lookup (header.l1Index offset) (header.l2Index offset) ∧
    ∀ length state, length ≠ 0 → lookup (header.l1Index offset) (header.l2Index offset) = .ok state →
      qcow2Map header lookup offset length = .ok ⟨offset.toNat, min length.toNat
        (min (header.clusterStart offset + header.clusterSize) header.size.toNat - offset.toNat),
        state⟩

lemma maps_of_covered {offset : UInt64} (hoff : offset < header.size)
    (hl1 : header.l1Index offset < header.l1Size.toNat)
    (hend : header.clusterStart offset + header.clusterSize < 2 ^ 64) : header.Maps offset := by
  intro lookup
  have hresolve : qcow2ResolveCluster header lookup offset =
      lookup (header.l1Index offset) (header.l2Index offset) := by
    rw [qcow2ResolveCluster, if_neg (UInt64.not_le.mpr hoff), if_neg (by omega), Header.l2Index]
  refine ⟨hresolve, ?_⟩
  intro length state hlength hstate
  have hpos : 0 < header.clusterSize := Nat.two_pow_pos _
  have hin : offset.toNat < header.clusterStart offset + header.clusterSize := by
    have hdiv := Nat.div_add_mod offset.toNat header.clusterSize
    have hmod := Nat.mod_lt offset.toNat hpos
    rw [Nat.mul_comm] at hdiv
    unfold Header.clusterStart
    omega
  rw [UInt64.lt_iff_toNat_lt] at hoff
  have hsize := header.size.toNat_lt
  have hthrow : ¬(length = 0 ∨ header.size ≤ offset) := by
    rintro (hzero | hle)
    · exact hlength hzero
    · rw [UInt64.le_iff_toNat_le] at hle
      omega
  simp only [qcow2Map, if_neg hthrow, hresolve, hstate, Nat.mod_eq_of_lt hend]
  refine congrArg (fun n => Except.ok (Extent.mk offset.toNat n state)) ?_
  rw [Nat.mod_eq_sub_mod (by omega), Nat.mod_eq_of_lt (by omega)]
  omega

/-- The table covers the disk, and no cluster of it ends past 64 bits, exactly when the sum that
the check computes does not wrap. Then every offset is looked up and mapped. -/
theorem header_covers_disk (h : qcow2ValidateHeader header = .ok ()) :
    header.size.toNat + header.clusterSize ≤ 2 ^ 64 ↔ ∀ offset < header.size,
      header.l1Index offset < header.l1Size.toNat ∧
        header.clusterStart offset + header.clusterSize < 2 ^ 64 ∧ header.Maps offset := by
  rw [covered_iff h]
  constructor
  · exact fun hall offset hoff => ⟨(hall offset hoff).1, (hall offset hoff).2,
      maps_of_covered hoff (hall offset hoff).1 (hall offset hoff).2⟩
  · exact fun hall offset hoff => ⟨(hall offset hoff).1, (hall offset hoff).2.1⟩

def sizedFile (size : List UInt8) : File :=
  (((File.empty.pwrite 71 [0]).pwrite 0 [0x51, 0x46, 0x49, 0xfb, 0, 0, 0, 2]).pwrite 20
    ([0, 0, 0, 16] ++ size)).pwrite 36 [0, 0, 0, 1, 0, 0, 0, 0, 0, 1, 0, 0]

def sizedHeader (size : UInt64) : Header :=
  { version := 2, clusterBits := 16, size, cryptMethod := 0, l1Size := 1, l1TableOffset := 0x10000 }

/-- A disk of a cluster and a half, mapped across the end of each. -/
theorem header_covers_disk_small :
    qcow2DecodeHeader (sizedFile [0, 0, 0, 0, 0, 1, 0x80, 0]) = .ok (sizedHeader 0x18000) ∧
    qcow2Map (sizedHeader 0x18000) (fun _ _ => .ok .present) 0xffff 512 =
      .ok ⟨0xffff, 1, .present⟩ ∧
    qcow2Map (sizedHeader 0x18000) (fun _ l2 => .ok (if l2 = 1 then .zero else .present)) 0x17fff
      512 = .ok ⟨0x17fff, 1, .zero⟩ := by
  have hmaps := (@header_covers_disk (sizedHeader 0x18000) (by decide)).mp (by decide)
  refine ⟨by decide +kernel, ?_, ?_⟩
  · exact ((hmaps 0xffff (by decide)).2.2 _).2 512 .present (by decide) rfl
  · exact ((hmaps 0x17fff (by decide)).2.2 _).2 512 .zero (by decide) rfl

/-- The last offset of a disk of 2⁶⁴ - 1 bytes has no L1 entry, and its cluster ends at 2⁶⁴. -/
theorem huge_disk_uncovered :
    let header := sizedHeader 0xffffffffffffffff
    qcow2DecodeHeader (sizedFile (List.replicate 8 0xff)) = .ok header ∧
    qcow2ValidateHeader header = .ok () ∧
    (∀ lookup, qcow2ResolveCluster header lookup 0xfffffffffffffffe = .error .einval) ∧
    header.clusterStart 0xfffffffffffffffe + header.clusterSize = 2 ^ 64 := by
  refine ⟨by decide +kernel, by decide, fun lookup => ?_, by decide⟩
  rw [qcow2ResolveCluster, if_neg (by decide), if_pos (by decide)]

end ScorpiHv.Qcow2

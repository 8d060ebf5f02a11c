import ScorpiHv.Sco.Open

/-!
# What is written is read back

Round trips of the table slots, the superblock pages, the file id and the base
descriptor.
-/

namespace ScorpiHv.Sco
open Bytes List

section
variable {m m' : Store} {n off : Nat}

section
variable (h : get m 0 n = get m' 0 n)
include h

lemma agree_of_get {i : Nat} (hi : i < n) : m i = m' i := by simpa using get_inj h hi

lemma get_agree {len : Nat} (hend : off + len ≤ n) : get m off len = get m' off len :=
  get_congr fun _ _ hlt => agree_of_get h (by omega)

lemma le16dec_agree (hend : off + 2 ≤ n) : le16dec m off = le16dec m' off := by
  rw [le16dec, get_agree h hend, le16dec]

lemma le32dec_agree (hend : off + 4 ≤ n) : le32dec m off = le32dec m' off := by
  rw [le32dec, get_agree h hend, le32dec]

lemma le64dec_agree (hend : off + 8 ≤ n) : le64dec m off = le64dec m' off := by
  rw [le64dec, get_agree h hend, le64dec]

lemma put_agree (bs : List UInt8) : get (put m off bs) 0 n = get (put m' off bs) 0 n := by
  refine get_congr fun i _ hlt => ?_
  simp only [put, agree_of_get h (by omega : i < n)]

end

lemma le32dec_put {v : Nat} (hv : v < 2 ^ 32) : le32dec (put m off (leEnc 4 v)) off = v := by
  have hget : get (put m off (leEnc 4 v)) off 4 = leEnc 4 v := by simpa using get_put_same m off (leEnc 4 v)
  rw [le32dec, hget, leDec_leEnc (by simpa using hv)]

section
variable {fs : List Field} (hd : fs.Pairwise Field.Apart) {v : Nat}
include hd

lemma leDec_field {k : Nat} (hf : (off, leEnc k v) ∈ fs) (hv : v < 256 ^ k) :
    leDec (get (writeFields fs) off k) = v := by
  have hget := get_writeFields hd hf
  rw [leEnc_length] at hget
  rw [hget, leDec_leEnc hv]

lemma le32dec_field (hf : (off, leEnc 4 v) ∈ fs) (hv : v < 2 ^ 32) :
    le32dec (writeFields fs) off = v := leDec_field hd hf hv

lemma byte_field {b : UInt8} (hf : (off, [b]) ∈ fs) : writeFields fs off = b := by
  have hget := get_writeFields hd hf
  simpa [Bytes.get] using hget

end

variable {len : Nat}

lemma crc32cValid_put (hzero : ∀ i, off ≤ i → i < off + 4 → m i = 0) :
    crc32cValid (put m off (leEnc 4 (crc32c (get m 0 len)))) len off
      (le32dec (put m off (leEnc 4 (crc32c (get m 0 len)))) off) = true := by
  rw [le32dec_put (crc32c_lt _), crc32cValid, put_put_same (by simp), put_zero hzero]
  exact beq_self_eq_true _

lemma reservedZero_of_get (h : get m off len = List.replicate len 0) : reservedZero m off len = true := by
  have hall : (get m off len).all (· == 0) = true := by simp [h]
  simpa only [reservedZero, Bytes.get, all_map, Function.comp_def] using hall

/-! A record is sealed by the checksum of its first bytes, stored in a hole at `sum`. -/

section
variable {fs : List Field} {sum c : Nat}
  (hhole : ∀ f ∈ fs, f.1 + f.2.length ≤ sum ∨ sum + 4 ≤ f.1)
include hhole

lemma sealed_get (hd : fs.Pairwise Field.Apart) {bs : List UInt8} (hf : (off, bs) ∈ fs) :
    get (put (writeFields fs) sum (leEnc 4 c)) off bs.length = bs := by
  have hout := hhole _ hf
  rw [get_put_disjoint (by rw [leEnc_length]; omega), get_writeFields hd hf]

lemma sealed_dec (hd : fs.Pairwise Field.Apart) {k v : Nat} (hf : (off, leEnc k v) ∈ fs)
    (hv : v < 256 ^ k) : leDec (get (put (writeFields fs) sum (leEnc 4 c)) off k) = v := by
  have hget := sealed_get (c := c) hhole hd hf
  rw [leEnc_length] at hget
  rw [hget, leDec_leEnc hv]

lemma sealed_crc :
    crc32cValid (put (writeFields fs) sum (leEnc 4 (crc32c (get (writeFields fs) 0 len)))) len sum
      (le32dec (put (writeFields fs) sum (leEnc 4 (crc32c (get (writeFields fs) 0 len)))) sum) =
        true := by
  refine crc32cValid_put fun i hge hlt => writeFields_outside fun f hf => ?_
  have := hhole f hf
  omega

omit hhole in
lemma sealed_zero (hsum : sum + 4 ≤ off ∨ off + len ≤ sum)
    (h : ∀ f ∈ fs, f.1 + f.2.length ≤ off ∨ off + len ≤ f.1) :
    get (put (writeFields fs) sum (leEnc 4 c)) off len = List.replicate len 0 := by
  rw [get_put_disjoint (by rw [leEnc_length]; omega), get_writeFields_zero h]

end

end

section
variable {sb : Superblock} {fileSize c : Nat} {i : Slot}

lemma slotSealed_congr {m m' : Store} (h : get m 0 SCO_TABLE_SLOT_SIZE = get m' 0 SCO_TABLE_SLOT_SIZE) :
    scoSlotSealed sb c i m = scoSlotSealed sb c i m' := by
  rw [scoSlotSealed, scoSlotCrc32c, put_agree h, le32dec_agree h (by decide), scoSlotSealed, scoSlotCrc32c]

lemma slotValid_congr {m m' : Store} (h : get m 0 SCO_TABLE_SLOT_SIZE = get m' 0 SCO_TABLE_SLOT_SIZE) :
    scoSlotValid sb fileSize c i m = scoSlotValid sb fileSize c i m' := by
  have hst : m 0xc = m' 0xc := agree_of_get h (by decide)
  have hfl : m 0xd = m' 0xd := agree_of_get h (by decide)
  simp only [scoSlotValid, slotSealed_congr h, hst, hfl]
  rw [le32dec_agree h (by decide), le32dec_agree h (by decide), le32dec_agree h (by decide),
    le16dec_agree h (by decide)]

lemma slotFields_apart (generation : Nat) (state : MapState) (physicalCluster : Nat) :
    (slotFields generation state physicalCluster).Pairwise Field.Apart := by
  simp [slotFields, Field.Apart]

structure EntryOk (sb : Superblock) (e : TableEntry) : Prop where
  generation_pos : 0 < e.generation
  generation_le : e.generation ≤ UINT32_MAX
  cluster_le : e.physicalCluster ≤ UINT32_MAX
  cluster_pos : e.state = .present → e.physicalCluster ≠ 0
  cluster_ge : e.state = .present → sb.dataAreaOffset ≤ e.physicalCluster * sb.clusterSize
  zero : e.state ≠ .present → e.physicalCluster = 0

lemma buildSlot_sealed (i : Slot) (generation physicalCluster : Nat) (state : MapState) :
    scoSlotSealed sb c i (scoBuildSlot sb c i generation state physicalCluster) = true := by
  have hcrc : scoSlotCrc32c sb c i (scoBuildSlot sb c i generation state physicalCluster) =
      scoSlotCrc32c sb c i (writeFields (slotFields generation state physicalCluster)) := by
    rw [scoSlotCrc32c, scoBuildSlot, put_put_same (by simp), scoSlotCrc32c]
  rw [scoSlotSealed, hcrc, scoBuildSlot, le32dec_put]
  · exact beq_self_eq_true _
  · exact crc32c_lt _

lemma buildSlot_generation (i : Slot) {generation : Nat} (physicalCluster : Nat)
    (state : MapState) (h : generation ≤ UINT32_MAX) :
    le32dec (scoBuildSlot sb c i generation state physicalCluster) 0x0 = generation := by
  exact le32dec_field (slotFields_apart generation state physicalCluster) (by simp [slotFields])
    (by simp only [UINT32_MAX] at h; omega)

variable {e : TableEntry}

lemma slotValid_some {m : Store} (h : scoSlotValid sb fileSize c i m = some e) :
    scoSlotSealed sb c i m = true ∧ e.generation = le32dec m 0x0 := by
  simp only [scoSlotValid] at h
  split at h
  · cases h
  split at h
  · cases h
  split_ifs at h with hflags hseal hpres
  all_goals
    cases h
    exact ⟨by simpa using hseal, rfl⟩

lemma slotValid_built (hl : LayoutOk sb) (he : EntryOk sb e) (hstored : e.state = .present →
      e.physicalCluster * sb.clusterSize + scoClusterStoredLength sb c ≤ fileSize)
    {m : Store} (hm : get m 0 SCO_TABLE_SLOT_SIZE = slotBytes sb c e) :
    scoSlotValid sb fileSize c e.activeSlot m = some e := by
  obtain ⟨gen, pc, st, i⟩ := e
  obtain ⟨hgpos, hgle, hple, hppos, hpge, hzero⟩ := he
  dsimp only at hgpos hgle hple hppos hpge hzero hstored
  have hd := slotFields_apart gen st pc
  have hgen : le32dec (scoBuildSlot sb c i gen st pc) 0x0 = gen := buildSlot_generation i pc st hgle
  have hpc : le32dec (scoBuildSlot sb c i gen st pc) 0x4 = pc := by
    exact le32dec_field hd (by simp [slotFields]) (by simp only [UINT32_MAX] at hple; omega)
  have hstate : scoBuildSlot sb c i gen st pc 0xc = st.code := by
    rw [scoBuildSlot, put_outside (by simp)]
    exact byte_field hd (by simp [slotFields])
  have hflags : scoBuildSlot sb c i gen st pc 0xd = 0 := by
    rw [scoBuildSlot, put_outside (by simp)]
    exact byte_field hd (by simp [slotFields])
  have hreserved : le16dec (scoBuildSlot sb c i gen st pc) 0xe = 0 := by
    exact leDec_field hd (k := 2) (by simp [slotFields]) (by decide)
  have hmul : pc ≤ UINT64_MAX / sb.clusterSize := by
    rw [Nat.le_div_iff_mul_le hl.cluster_pos]
    have hprod := Nat.mul_le_mul hple hl.cluster_le
    simp only [UINT32_MAX, UINT64_MAX, SCO_MAX_CLUSTER_SIZE] at hprod ⊢
    omega
  rw [slotValid_congr hm]
  simp only [scoSlotValid, hgen, hpc, hstate, hflags, hreserved, MapState.ofCode?_code, buildSlot_sealed]
  rw [if_neg (by omega), if_neg (by simp), if_neg (by simp)]
  by_cases hp : st = .present
  · have hge := hpge hp
    have hend := hstored hp
    rw [if_pos hp, if_neg (hppos hp), if_neg (by omega), if_neg (by omega)]
  · rw [if_neg hp, if_neg (by simpa using hzero hp)]

end


structure Superblock.Fits (sb : Superblock) : Prop where
  generation : sb.generation < 2 ^ 64
  virtualSize : sb.virtualSize < 2 ^ 64
  logicalSectorSize : sb.logicalSectorSize < 2 ^ 32
  physicalSectorSize : sb.physicalSectorSize < 2 ^ 32
  clusterSize : sb.clusterSize < 2 ^ 32
  clusterCount : sb.clusterCount < 2 ^ 64
  dataAreaOffset : sb.dataAreaOffset < 2 ^ 64
  baseDescriptorOffset : sb.baseDescriptorOffset < 2 ^ 64
  baseDescriptorLength : sb.baseDescriptorLength < 2 ^ 32
  tableOffset : sb.tableOffset < 2 ^ 64
  tableLength : sb.tableLength < 2 ^ 32
  incompatibleFeatures : sb.incompatibleFeatures < 2 ^ 32
  readonlyCompatibleFeatures : sb.readonlyCompatibleFeatures < 2 ^ 32
  compatibleFeatures : sb.compatibleFeatures < 2 ^ 32
  imageUuid : sb.imageUuid.length = 16
  imageDigest : sb.imageDigest.length = 32

def Superblock.asRead (sb : Superblock) : Superblock :=
  { sb with imageDigest := if sb.hasImageDigest then sb.imageDigest else List.replicate 32 0 }

variable {sb : Superblock} {m m' : Store}

lemma superblockFields_apart (h : sb.Fits) : (superblockFields sb).Pairwise Field.Apart := by
  have hu := h.imageUuid
  have hd := h.imageDigest
  refine apart_of_chain ?_
  cases hh : sb.hasImageDigest <;> simp [superblockFields, SCO_MAGIC, hu, hd, hh]

lemma reservedZero_congr {n off len : Nat} (h : get m 0 n = get m' 0 n) (hend : off + len ≤ n) :
    reservedZero m off len = reservedZero m' off len := by
  have hall : (get m off len).all (· == 0) = (get m' off len).all (· == 0) := by rw [get_agree h hend]
  simpa only [reservedZero, Bytes.get, all_map, Function.comp_def] using hall

lemma crc32cValid_congr {n off : Nat} (h : get m 0 n = get m' 0 n) (expected : Nat) :
    crc32cValid m n off expected = crc32cValid m' n off expected := by
  rw [crc32cValid, put_agree h, crc32cValid]

lemma decodeSuperblock_congr (h : get m 0 SCO_SUPERBLOCK_SIZE = get m' 0 SCO_SUPERBLOCK_SIZE) :
    scoDecodeSuperblock m = scoDecodeSuperblock m' := by
  have hd32 : ∀ off, off + 4 ≤ SCO_SUPERBLOCK_SIZE → le32dec m off = le32dec m' off :=
    fun _ => le32dec_agree h
  have hd64 : ∀ off, off + 8 ≤ SCO_SUPERBLOCK_SIZE → le64dec m off = le64dec m' off :=
    fun _ => le64dec_agree h
  simp only [scoDecodeSuperblock, hd64 0x18 (by decide), hd64 0x20 (by decide), hd32 0x28 (by decide),
    hd32 0x2c (by decide), hd32 0x30 (by decide), hd64 0x38 (by decide), hd64 0x48 (by decide),
    hd64 0x50 (by decide), hd32 0x58 (by decide), hd64 0x60 (by decide), hd32 0x68 (by decide),
    hd32 0x70 (by decide), hd32 0x74 (by decide), hd32 0x78 (by decide), hd32 0xb0 (by decide),
    get_agree h (by decide : 0x80 + 16 ≤ _), get_agree h (by decide : 0x90 + 32 ≤ _)]

lemma superblockPageValid_congr (h : get m 0 SCO_SUPERBLOCK_SIZE = get m' 0 SCO_SUPERBLOCK_SIZE) :
    scoSuperblockPageValid m = scoSuperblockPageValid m' := by
  have hd32 : ∀ off, off + 4 ≤ SCO_SUPERBLOCK_SIZE → le32dec m off = le32dec m' off :=
    fun _ => le32dec_agree h
  simp only [scoSuperblockPageValid, get_agree h (by decide : 0 + 8 ≤ _),
    le16dec_agree h (by decide : 0x8 + 2 ≤ _), le64dec_agree h (by decide : 0x40 + 8 ≤ _),
    hd32 0xc (by decide), hd32 0x10 (by decide), hd32 0x14 (by decide), hd32 0x6c (by decide),
    hd32 0x5c (by decide), hd32 0x7c (by decide), hd32 0xb4 (by decide), hd32 0xb0 (by decide),
    crc32cValid_congr h, reservedZero_congr h (by decide : 0xb8 + (SCO_SUPERBLOCK_SIZE - 0xb8) ≤ _)]

lemma mem_superblockFields {f : Field} (hf : f ∈ superblockFields sb) (h : sb.Fits) :
    f.1 + f.2.length ≤ 0x14 ∨ 0x18 ≤ f.1 ∧ f.1 + f.2.length ≤ 0x5c ∨
      0x60 ≤ f.1 ∧ f.1 + f.2.length ≤ 0x7c ∨ 0x80 ≤ f.1 ∧ f.1 + f.2.length ≤ 0xb4 := by
  have hu := h.imageUuid
  have hd : (if sb.hasImageDigest then sb.imageDigest else []).length ≤ 32 := by
    split
    · exact Nat.le_of_eq h.imageDigest
    · exact Nat.zero_le _
  simp only [superblockFields, mem_cons, not_mem_nil, or_false] at hf
  rcases hf with rfl | rfl | rfl | rfl | rfl | rfl | rfl | rfl | rfl | rfl | rfl | rfl | rfl |
    rfl | rfl | rfl | rfl | rfl | rfl | rfl | rfl | rfl | rfl | rfl <;>
    simp only [leEnc_length, SCO_MAGIC, length_cons, length_nil] <;> omega

lemma superblockFields_hole (h : sb.Fits) :
    ∀ f ∈ superblockFields sb, f.1 + f.2.length ≤ 0x14 ∨ 0x14 + 4 ≤ f.1 := by
  intro f hf
  have := mem_superblockFields hf h
  omega

lemma buildSuperblock_get (h : sb.Fits) {off : Nat} {bs : List UInt8}
    (hf : (off, bs) ∈ superblockFields sb) : get (scoBuildSuperblock sb) off bs.length = bs :=
  sealed_get (superblockFields_hole h) (superblockFields_apart h) hf

lemma buildSuperblock_dec {k off v : Nat} (h : sb.Fits) (hf : (off, leEnc k v) ∈ superblockFields sb)
    (hv : v < 256 ^ k) : leDec (get (scoBuildSuperblock sb) off k) = v :=
  sealed_dec (superblockFields_hole h) (superblockFields_apart h) hf hv

lemma buildSuperblock_zero (h : sb.Fits) {off len : Nat}
    (happ : 0x5c ≤ off ∧ off + len ≤ 0x60 ∨ 0x7c ≤ off ∧ off + len ≤ 0x80 ∨ 0xb4 ≤ off) :
    get (scoBuildSuperblock sb) off len = List.replicate len 0 := by
  refine sealed_zero (by omega) fun f hf => ?_
  have := mem_superblockFields hf h
  omega

lemma superblockFields_digest (sb : Superblock) :
    (0x90, if sb.hasImageDigest then sb.imageDigest else []) ∈ superblockFields sb := by
  simp [superblockFields]

lemma buildSuperblock_no_digest (h : sb.Fits) (hno : sb.hasImageDigest = false) :
    get (scoBuildSuperblock sb) 0x90 32 = List.replicate 32 0 := by
  have hu := h.imageUuid
  refine sealed_zero (by omega) fun f hf => ?_
  simp only [superblockFields, hno, mem_cons, not_mem_nil, or_false] at hf
  rcases hf with rfl | rfl | rfl | rfl | rfl | rfl | rfl | rfl | rfl | rfl | rfl | rfl | rfl |
    rfl | rfl | rfl | rfl | rfl | rfl | rfl | rfl | rfl | rfl | rfl <;>
    simp [SCO_MAGIC, hu]

lemma pageValid_built (h : sb.Fits) : scoSuperblockPageValid (scoBuildSuperblock sb) = true := by
  have hmagic : get (scoBuildSuperblock sb) 0 8 = SCO_MAGIC :=
    (buildSuperblock_get h (by simp [superblockFields]) : get _ 0 SCO_MAGIC.length = SCO_MAGIC)
  have hmajor : le16dec (scoBuildSuperblock sb) 0x8 = SCO_FORMAT_MAJOR :=
    buildSuperblock_dec h (by simp [superblockFields]) (by decide)
  have hsize : le32dec (scoBuildSuperblock sb) 0xc = SCO_SUPERBLOCK_SIZE :=
    buildSuperblock_dec h (by simp [superblockFields]) (by decide)
  have htype : le32dec (scoBuildSuperblock sb) 0x10 = SCO_CHECKSUM_CRC32C :=
    buildSuperblock_dec h (by simp [superblockFields]) (by decide)
  have harea : le64dec (scoBuildSuperblock sb) 0x40 = SCO_METADATA_AREA_OFFSET :=
    buildSuperblock_dec h (by simp [superblockFields]) (by decide)
  have hslot : le32dec (scoBuildSuperblock sb) 0x6c = SCO_TABLE_SLOT_SIZE :=
    buildSuperblock_dec h (by simp [superblockFields]) (by decide)
  have hdigest : le32dec (scoBuildSuperblock sb) 0xb0 = if sb.hasImageDigest then 1 else 0 :=
    buildSuperblock_dec h (by simp [superblockFields]) (by split <;> decide)
  have hzero : ∀ off, 0x5c = off ∨ 0x7c = off ∨ 0xb4 = off →
      le32dec (scoBuildSuperblock sb) off = 0 := by
    intro off hoff
    rw [le32dec, buildSuperblock_zero h (by omega), leDec_replicate_zero]
  have hrest : reservedZero (scoBuildSuperblock sb) 0xb8 (SCO_SUPERBLOCK_SIZE - 0xb8) = true :=
    reservedZero_of_get (buildSuperblock_zero h (by omega))
  have hcrc : crc32cValid (scoBuildSuperblock sb) SCO_SUPERBLOCK_SIZE 0x14
      (le32dec (scoBuildSuperblock sb) 0x14) = true := sealed_crc (superblockFields_hole h)
  simp only [scoSuperblockPageValid, hmagic, hmajor, hsize, htype, harea, hslot, hdigest,
    hzero 0x5c (by omega), hzero 0x7c (by omega), hzero 0xb4 (by omega), hrest, hcrc,
    beq_self_eq_true, Bool.and_true, Bool.true_and]
  cases sb.hasImageDigest <;> rfl

lemma decode_built (h : sb.Fits) : scoDecodeSuperblock (scoBuildSuperblock sb) = sb.asRead := by
  have hdec : ∀ k off v, (off, leEnc k v) ∈ superblockFields sb → v < 256 ^ k →
      leDec (get (scoBuildSuperblock sb) off k) = v := fun k off v => buildSuperblock_dec h
  have huuid : get (scoBuildSuperblock sb) 0x80 16 = sb.imageUuid := by
    have hget : get (scoBuildSuperblock sb) 0x80 sb.imageUuid.length = sb.imageUuid :=
      buildSuperblock_get h (by simp [superblockFields])
    rwa [h.imageUuid] at hget
  have hdigest : get (scoBuildSuperblock sb) 0x90 32 =
      if sb.hasImageDigest then sb.imageDigest else List.replicate 32 0 := by
    have hget : get (scoBuildSuperblock sb) 0x90 _ = _ := buildSuperblock_get h (superblockFields_digest sb)
    cases hh : sb.hasImageDigest with
    | true =>
      rw [hh, if_pos rfl, h.imageDigest] at hget
      exact hget
    | false => exact buildSuperblock_no_digest h hh
  have hhas : decide (le32dec (scoBuildSuperblock sb) 0xb0 ≠ 0) = sb.hasImageDigest := by
    have hval : le32dec (scoBuildSuperblock sb) 0xb0 = if sb.hasImageDigest then 1 else 0 :=
      hdec 4 _ _ (by simp [superblockFields]) (by split <;> decide)
    rw [hval]
    cases sb.hasImageDigest <;> rfl
  simp only [scoDecodeSuperblock, Superblock.asRead, Superblock.mk.injEq]
  exact ⟨hdec 8 _ _ (by simp [superblockFields]) h.generation,
    hdec 8 _ _ (by simp [superblockFields]) h.virtualSize,
    hdec 4 _ _ (by simp [superblockFields]) h.logicalSectorSize,
    hdec 4 _ _ (by simp [superblockFields]) h.physicalSectorSize,
    hdec 4 _ _ (by simp [superblockFields]) h.clusterSize,
    hdec 8 _ _ (by simp [superblockFields]) h.clusterCount,
    hdec 8 _ _ (by simp [superblockFields]) h.dataAreaOffset,
    hdec 8 _ _ (by simp [superblockFields]) h.baseDescriptorOffset,
    hdec 4 _ _ (by simp [superblockFields]) h.baseDescriptorLength,
    hdec 8 _ _ (by simp [superblockFields]) h.tableOffset,
    hdec 4 _ _ (by simp [superblockFields]) h.tableLength,
    hdec 4 _ _ (by simp [superblockFields]) h.incompatibleFeatures,
    hdec 4 _ _ (by simp [superblockFields]) h.readonlyCompatibleFeatures,
    hdec 4 _ _ (by simp [superblockFields]) h.compatibleFeatures, huuid, hdigest, hhas⟩

end ScorpiHv.Sco

import ScorpiHv.Lib.Crc
import ScorpiHv.Sco.Disk

/-!
# Short bursts in SCO metadata

Bit `k` of a list of bytes is bit `k % 8` of byte `k / 8`, the order in which CRC-32C takes
the bits. A nonzero change of 32 consecutive bits always changes the checksum.
-/

namespace ScorpiHv.Sco
open Bytes List

/-- The lists differ, in 32 consecutive bits only. Bits are numbered from the least significant one
of the first byte. -/
def Burst (l l' : List UInt8) : Prop :=
  l.length = l'.length ∧ ∃ s w, (w ≠ 0 ∧ w < 2 ^ 32) ∧ leDec l ^^^ leDec l' = w <<< s

/-- The array `context` of `sco_slot_crc32c`, with the checksum as the slot stores it. -/
def slotContext (sb : Superblock) (clusterIndex : Nat) (index : Slot) (slot : Store) : List UInt8 :=
  sb.imageUuid ++ leEnc 8 clusterIndex ++ leEnc 4 index.index ++ get slot 0 SCO_TABLE_SLOT_SIZE

lemma leDec_cons_xor (b : UInt8) (l : List UInt8) : leDec (b :: l) = b.toNat ^^^ leDec l <<< 8 := by
  have hb : b.toNat < 2 ^ 8 := b.toNat_lt
  apply Nat.eq_of_testBit_eq
  intro j
  rw [leDec, add_comm, Nat.testBit_two_pow_mul_add _ hb, Nat.testBit_xor, Nat.testBit_shiftLeft]
  split
  next hj => simp [not_le.mpr hj]
  next hj =>
    have hle := Nat.le_of_not_lt hj
    rw [Nat.testBit_lt_two_pow (lt_of_lt_of_le hb (Nat.pow_le_pow_right (by decide) hle))]
    simp [hle]

lemma leDec_append_xor (a b : List UInt8) : leDec (a ++ b) = leDec a ^^^ leDec b <<< (8 * a.length) := by
  induction a with
  | nil => exact (Nat.zero_xor _).symm
  | cons c a ih =>
    rw [cons_append, leDec_cons_xor, ih, leDec_cons_xor, Nat.shiftLeft_xor_distrib,
      ← Nat.shiftLeft_add, Nat.xor_assoc]
    rfl

lemma Burst.replace {a a' f z b b' : List UInt8} (ha : a.length = a'.length) (hz : z.length = f.length)
    (h : Burst (a ++ (f ++ b)) (a' ++ (f ++ b'))) : Burst (a ++ (z ++ b)) (a' ++ (z ++ b')) := by
  obtain ⟨hlen, hburst⟩ := h
  have hxor : ∀ c : List UInt8, leDec (a ++ (c ++ b)) ^^^ leDec (a' ++ (c ++ b')) =
      leDec a ^^^ leDec a' ^^^ (leDec b ^^^ leDec b') <<< (8 * c.length) <<< (8 * a.length) := by
    intro c
    simp only [leDec_append_xor, ← ha, Nat.shiftLeft_xor_distrib]
    simp [Nat.xor_assoc, Nat.xor_left_comm]
  simp only [length_append] at hlen
  rw [hxor, ← hz, ← hxor z] at hburst
  exact ⟨by simp only [length_append]; omega, hburst⟩

lemma crcBit_toNat (c : UInt32) : (crcBit c).toNat = Crc.step 0x82f63b78 c.toNat := by
  have hlow : c &&& 1 ≠ 0 ↔ c.toNat.testBit 0 = true := by
    rw [ne_eq, ← UInt32.toNat_inj, UInt32.toNat_and]
    simp
  unfold crcBit Crc.step
  simp only [hlow]
  split <;> simp [UInt32.toNat_xor, UInt32.toNat_shiftRight]

lemma crcByte_toNat (c : UInt32) (b : UInt8) :
    (crcByte c b).toNat = (Crc.step 0x82f63b78)^[8] (c.toNat ^^^ b.toNat) := by
  have hbits := (show Function.Semiconj UInt32.toNat crcBit (Crc.step 0x82f63b78) from
    crcBit_toNat).iterate_right 8
  exact (hbits _).trans (by rw [UInt32.toNat_xor, UInt8.toNat_toUInt32])

lemma crcBytes_toNat (l : List UInt8) (c : UInt32) :
    (l.foldl crcByte c).toNat = (Crc.step 0x82f63b78)^[8 * l.length] (c.toNat ^^^ leDec l) := by
  induction l generalizing c with
  | nil => exact (Nat.xor_zero _).symm
  | cons b l ih =>
    rw [foldl_cons, ih, crcByte_toNat, leDec_cons_xor, ← Nat.xor_assoc, length_cons, Nat.mul_succ,
      Function.iterate_add_apply, Crc.steps_xor 8 (_ ^^^ _), Crc.steps_shiftLeft]

lemma Burst.crc32c_ne {l l' : List UInt8} (h : Burst l l') : crc32c l ≠ crc32c l' := by
  obtain ⟨hlen, s, w, hw, hxor⟩ := h
  intro heq
  have hreg := congrArg UInt32.toNat (UInt32.not_inj.mp (UInt32.toNat_inj.mp heq))
  have hdiff : ∀ c, (c ^^^ leDec l) ^^^ (c ^^^ leDec l') = w <<< s := by
    intro c
    rw [← hxor]
    simp [Nat.xor_assoc, Nat.xor_left_comm]
  rw [crcBytes_toNat, crcBytes_toNat, ← hlen, ← Nat.xor_eq_zero_iff, ← Crc.steps_xor, hdiff] at hreg
  have hlt := leDec_lt l
  have hlt' := leDec_lt l'
  rw [← hlen] at hlt'
  refine Crc.steps_burst (w := 31) (by decide) (by decide) hw ?_ hreg
  rw [show 256 = 2 ^ 8 from rfl, ← Nat.pow_mul] at hlt hlt'
  rw [← hxor]
  exact Nat.xor_lt_two_pow hlt hlt'

lemma get_field (m : Store) (off k : Nat) :
    get m 0 (off + 4 + k) = get m 0 off ++ (get m off 4 ++ get m (off + 4) k) := by
  rw [get_append, get_append, append_assoc, zero_add, zero_add]

lemma get_zeroed (m : Store) (off k : Nat) :
    get (put m off (List.replicate 4 0)) 0 (off + 4 + k) =
      get m 0 off ++ (List.replicate 4 0 ++ get m (off + 4) k) := by
  have hsame : get (put m off (List.replicate 4 0)) off 4 = List.replicate 4 0 :=
    get_put_same m off (List.replicate 4 0)
  rw [get_field, hsame, get_put_disjoint (.inl (zero_add off).le), get_put_disjoint (.inr (by simp))]

/-- A page or a slot that carries its checksum is rejected after a short burst outside it. A slot
is also rejected in a place whose index or slot number differs by such a burst. -/
theorem bursts_detected (len off : Nat) (sb : Superblock) :
    (∀ page page' : Store, Burst (get page 0 len) (get page' 0 len) → off + 4 ≤ len →
      get page off 4 = get page' off 4 → crc32cValid page len off (le32dec page off) = true →
      crc32cValid page' len off (le32dec page' off) = false) ∧
    ∀ (c c' : Nat) (i i' : Slot) (slot slot' : Store),
      Burst (slotContext sb c i slot) (slotContext sb c' i' slot') → get slot 8 4 = get slot' 8 4 →
      scoSlotSealed sb c i slot = true → ∀ fileSize, scoSlotValid sb fileSize c' i' slot' = none := by
  have hfield : ∀ {m m' : Store} {off : Nat}, get m off 4 = get m' off 4 →
      le32dec m off = le32dec m' off := fun h => congrArg leDec h
  constructor
  · intro page page' hburst hoff hsum hvalid
    obtain ⟨k, rfl⟩ := Nat.exists_eq_add_of_le hoff
    rw [get_field, get_field, ← hsum] at hburst
    have hne := (hburst.replace (z := List.replicate 4 0) (by simp) (by simp)).crc32c_ne
    rw [crc32cValid, get_zeroed, beq_iff_eq] at hvalid
    rw [crc32cValid, get_zeroed, beq_eq_false_iff_ne, ← hfield hsum, ← hvalid]
    exact hne.symm
  · intro c c' i i' slot slot' hburst hsum hsealed fileSize
    unfold slotContext at hburst
    rw [show SCO_TABLE_SLOT_SIZE = 8 + 4 + 4 from rfl, get_field, get_field, ← hsum,
      ← append_assoc, ← append_assoc _ (get slot' 0 8)] at hburst
    have hne := (hburst.replace (z := List.replicate 4 0) (by simp) (by simp)).crc32c_ne
    refine Option.eq_none_iff_forall_ne_some.mpr fun e he => hne ?_
    have hsealed' := (slotValid_some he).1
    rw [scoSlotSealed, beq_iff_eq, scoSlotCrc32c] at hsealed hsealed'
    rw [← hfield hsum, ← hsealed] at hsealed'
    rw [show SCO_TABLE_SLOT_SIZE = 8 + 4 + 4 from rfl, get_zeroed, get_zeroed,
      ← append_assoc, ← append_assoc _ (get slot 0 8)] at hsealed'
    exact hsealed'.symm

def sealedPage : Store := put blank 0 (leEnc 4 (crc32c (List.replicate 5 0)))

theorem bursts_detected_page : crc32cValid sealedPage 5 0 (le32dec sealedPage 0) = true ∧
    crc32cValid (put sealedPage 4 [1]) 5 0 (le32dec (put sealedPage 4 [1]) 0) = false ∧
    ∀ fileSize, scoSlotValid smallSuperblock fileSize 1 .a
      (scoBuildSlot smallSuperblock 0 .a 1 .zero 0) = none := by
  have hvalid : crc32cValid sealedPage 5 0 (le32dec sealedPage 0) = true := by decide +kernel
  obtain ⟨hpage, hslot⟩ := bursts_detected 5 0 smallSuperblock
  have hburst : Burst (get sealedPage 0 5) (get (put sealedPage 4 [1]) 0 5) :=
    ⟨rfl, 32, 1, by decide, by decide +kernel⟩
  refine ⟨hvalid, hpage _ _ hburst (by decide) (by decide +kernel) hvalid, ?_⟩
  refine hslot 0 1 .a .a _ _ ⟨by simp [slotContext], 128, 1, by decide, ?_⟩ rfl
    (buildSlot_sealed _ _ _ _)
  decide +kernel

end ScorpiHv.Sco

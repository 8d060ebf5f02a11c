import ScorpiHv.Iov
import ScorpiHv.Usb.Xfer

/-!
# NCM transfer blocks

The bulk-out half of `usb_net.c`: the frames of the NTB16 blocks in a transfer. The decoder
walks the vectors; `decode` is the same walk over the bytes they hold.
-/

namespace ScorpiHv.Usb.Ncm
open Bytes List
open Virtio (Iovec)

def NTB_SIGNATURE : Nat := 0x484D434E

def NDP_SIGNATURE : Nat := 0x304D434E

def HDR_SIZE : Nat := 12

def DPT_SIZE : Nat := 8

def DP_SIZE : Nat := 4

def MAX_DP : Nat := 32

def slice (bs : List UInt8) (off len : Nat) : List UInt8 := (bs.drop off).take len

/-- `usb_extract_u16`, `usb_extract_u32` -/
def extract (bs : List UInt8) (off len : Nat) : Nat := leDec (slice bs off len)

structure Hdr where
  dwSignature : Nat
  wHeaderLength : Nat
  wSequence : Nat
  wBlockLength : Nat
  wDptIndex : Nat

def Hdr.ofBytes (bs : List UInt8) : Hdr :=
  ⟨extract bs 0 4, extract bs 4 2, extract bs 6 2, extract bs 8 2, extract bs 10 2⟩

structure Dpt where
  dwSignature : Nat
  wLength : Nat
  wNextNdpIndex : Nat

def Dpt.ofBytes (bs : List UInt8) : Dpt := ⟨extract bs 0 4, extract bs 4 2, extract bs 6 2⟩

structure Dp where
  wFrameIndex : Nat
  wFrameLength : Nat
  deriving DecidableEq

def Dp.ofBytes (bs : List UInt8) (i : Nat) : Dp :=
  ⟨extract bs (DP_SIZE * i) 2, extract bs (DP_SIZE * i + 2) 2⟩

/-- The loop over the datagram pointers: the vectors given to `unet_transmit_backend`. -/
def transmitFrames (iov : List Iovec) (blockLen : Nat) : List Dp → List (List Iovec)
  | [] => []
  | dp :: dps =>
    if dp.wFrameIndex = 0 ∨ dp.wFrameLength = 0 then []
    else if blockLen < dp.wFrameIndex + dp.wFrameLength then []
    else
      let made := makeIov iov dp.wFrameIndex dp.wFrameLength
      if made.2 ≠ dp.wFrameLength then []
      else made.1 :: transmitFrames iov blockLen dps

/-- One turn of the loop in `unet_process_bulk_out_packet`: it ends the loop, or trims the
vectors. -/
inductive Turn (β : Type) where
  | stop (consumed : Nat)
  | advance (n : Nat) (sent : List β)

def Turn.map {β γ : Type} (f : β → γ) : Turn β → Turn γ
  | .stop n => .stop n
  | .advance n sent => .advance n (sent.map f)

def processDpt (m : Store) (iov : List Iovec) (blockLen dptIdx : Nat) : Turn (List Iovec) :=
  let copied := iovCopy m iov DPT_SIZE dptIdx
  let ndp := Dpt.ofBytes copied.1
  if copied.2 < DPT_SIZE then .advance 1 []
  else if ndp.dwSignature ≠ NDP_SIGNATURE then .advance 1 []
  else if ndp.wLength < DPT_SIZE ∨ blockLen < dptIdx + ndp.wLength then .advance 1 []
  else
    let nframes := (ndp.wLength - DPT_SIZE) / DP_SIZE
    if nframes = 0 then .advance blockLen []
    else
      let nframes := min nframes MAX_DP
      let dp := iovCopy m iov (nframes * DP_SIZE) (dptIdx + DPT_SIZE)
      if dp.2 < nframes * DP_SIZE then .advance 1 []
      else .advance blockLen
        (transmitFrames iov blockLen ((List.range nframes).map (Dp.ofBytes dp.1)))

def processTurn (m : Store) (iov : List Iovec) : Turn (List Iovec) :=
  let avail := countIov iov
  let copied := iovCopy m iov HDR_SIZE 0
  let ntb := Hdr.ofBytes copied.1
  if avail < HDR_SIZE then .stop avail
  else if copied.2 < HDR_SIZE then .stop 0
  else if ntb.dwSignature ≠ NTB_SIGNATURE then .advance 1 []
  else if avail < ntb.wBlockLength then .stop avail
  else if ntb.wHeaderLength < HDR_SIZE ∨ ntb.wBlockLength < HDR_SIZE ∨
      ntb.wDptIndex < HDR_SIZE ∨ ntb.wBlockLength < ntb.wDptIndex + DPT_SIZE then .advance 1 []
  else processDpt m iov ntb.wBlockLength ntb.wDptIndex

/-- `unet_process_bulk_out_packet`: the bytes consumed and the frames transmitted. -/
def unetProcessBulkOutPacket (m : Store) : Nat → List Iovec → Option (Nat × List (List Iovec))
  | 0, _ => none
  | fuel + 1, iov =>
    if iov.isEmpty then some (0, [])
    else match processTurn m iov with
      | .stop n => some (n, [])
      | .advance n sent =>
        (unetProcessBulkOutPacket m fuel (iovTrim iov n)).map fun r => (n + r.1, sent ++ r.2)

section
variable (bs : List UInt8)

def headerLength : Nat := extract bs 4 2
def blockLength : Nat := extract bs 8 2
def dptIndex : Nat := extract bs 10 2
def dptLength : Nat := extract bs (dptIndex bs + 4) 2

/-- The bytes begin with an NTB16 block whose header and NDP lie inside it. -/
structure ValidBlock : Prop where
  header : HDR_SIZE ≤ bs.length
  signature : extract bs 0 4 = NTB_SIGNATURE
  fits : blockLength bs ≤ bs.length
  header_length : HDR_SIZE ≤ headerLength bs
  dpt_after : HDR_SIZE ≤ dptIndex bs
  dpt_fits : dptIndex bs + DPT_SIZE ≤ blockLength bs
  dpt_signature : extract bs (dptIndex bs) 4 = NDP_SIGNATURE
  dpt_length : DPT_SIZE ≤ dptLength bs
  table_fits : dptIndex bs + dptLength bs ≤ blockLength bs

def pointer (i : Nat) : Dp :=
  ⟨extract bs (dptIndex bs + DPT_SIZE + DP_SIZE * i) 2,
    extract bs (dptIndex bs + DPT_SIZE + DP_SIZE * i + 2) 2⟩

def pointers : List Dp :=
  (List.range (min ((dptLength bs - DPT_SIZE) / DP_SIZE) MAX_DP)).map (pointer bs)

end

def Dp.Inside (blockLen : Nat) (dp : Dp) : Prop :=
  dp.wFrameIndex ≠ 0 ∧ dp.wFrameLength ≠ 0 ∧ dp.wFrameIndex + dp.wFrameLength ≤ blockLen

instance (blockLen : Nat) (dp : Dp) : Decidable (dp.Inside blockLen) := by
  unfold Dp.Inside
  infer_instance

/-- The datagrams of the block at the beginning, up to the first pointer that names none. -/
def datagrams (bs : List UInt8) : List (List UInt8) :=
  ((pointers bs).takeWhile fun dp => decide (dp.Inside (blockLength bs))).map fun dp =>
    slice bs dp.wFrameIndex dp.wFrameLength

instance (bs : List UInt8) : Decidable (ValidBlock bs) :=
  decidable_of_iff
    (HDR_SIZE ≤ bs.length ∧ extract bs 0 4 = NTB_SIGNATURE ∧ blockLength bs ≤ bs.length ∧
      HDR_SIZE ≤ headerLength bs ∧ HDR_SIZE ≤ dptIndex bs ∧
      dptIndex bs + DPT_SIZE ≤ blockLength bs ∧ extract bs (dptIndex bs) 4 = NDP_SIGNATURE ∧
      DPT_SIZE ≤ dptLength bs ∧ dptIndex bs + dptLength bs ≤ blockLength bs)
    ⟨fun ⟨a, b, c, d, e, f, g, h, i⟩ => ⟨a, b, c, d, e, f, g, h, i⟩,
      fun ⟨a, b, c, d, e, f, g, h, i⟩ => ⟨a, b, c, d, e, f, g, h, i⟩⟩

def byteTurn (bs : List UInt8) : Turn (List UInt8) :=
  if bs.length < HDR_SIZE then .stop bs.length
  else if extract bs 0 4 ≠ NTB_SIGNATURE then .advance 1 []
  else if bs.length < blockLength bs then .stop bs.length
  else if ValidBlock bs then .advance (blockLength bs) (datagrams bs)
  else .advance 1 []

variable {sent : List (List UInt8)} {n off : Nat} {bs f : List UInt8}

lemma byteTurn_advance (h : byteTurn bs = .advance n sent) : 0 < n ∧ n ≤ bs.length := by
  unfold byteTurn at h
  by_cases hlen : bs.length < HDR_SIZE
  · rw [if_pos hlen] at h
    cases h
  have hpos : 0 < bs.length := by
    unfold HDR_SIZE at hlen
    omega
  split_ifs at h with hsig hfit hv
  · cases h
    exact ⟨Nat.one_pos, hpos⟩
  · cases h
    have h1 := hv.dpt_after
    have h2 := hv.dpt_fits
    unfold HDR_SIZE at h1
    exact ⟨by omega, hv.fits⟩
  · cases h
    exact ⟨Nat.one_pos, hpos⟩

lemma byteTurn_stop (h : byteTurn bs = .stop n) : n = bs.length := by
  unfold byteTurn at h
  split_ifs at h <;> cases h <;> rfl

def decode (bs : List UInt8) : List (List UInt8) :=
  match _h : byteTurn bs with
  | .stop _ => []
  | .advance n sent => sent ++ decode (bs.drop n)
termination_by bs.length
decreasing_by
  have := byteTurn_advance _h
  rw [length_drop]
  omega

lemma decode_stop (h : byteTurn bs = .stop n) : decode bs = [] := by
  rw [decode]
  split
  · rfl
  rename_i h'
  rw [h] at h'
  cases h'

lemma decode_advance (h : byteTurn bs = .advance n sent) : decode bs = sent ++ decode (bs.drop n) := by
  rw [decode]
  split
  · rename_i h'
    rw [h] at h'
    cases h'
  · rename_i h'
    rw [h] at h'
    cases h'
    rfl

lemma slice_slice {o k : Nat} (h : off + n ≤ k) : slice (slice bs o k) off n = slice bs (o + off) n := by
  unfold slice
  rw [drop_take, drop_drop, take_take, min_eq_left (by omega)]

lemma extract_slice {o k : Nat} (h : off + n ≤ k) :
    extract (slice bs o k) off n = extract bs (o + off) n := by rw [extract, slice_slice h, extract]

lemma slice_length (bs : List UInt8) (off len : Nat) :
    (slice bs off len).length = min len (bs.length - off) := by rw [slice, length_take, length_drop]

variable (m : Store)

lemma iovCopy_slice (iov : List Iovec) (len off : Nat) :
    iovCopy m iov len off = (slice (gather m iov) off len, (slice (gather m iov) off len).length) :=
  iovCopy_eq m iov len off

lemma transmitFrames_gather (iov : List Iovec) {blockLen : Nat} (hb : blockLen ≤ countIov iov)
    (dps : List Dp) :
    (transmitFrames iov blockLen dps).map (gather m) =
      (dps.takeWhile fun dp => decide (dp.Inside blockLen)).map fun dp =>
        slice (gather m iov) dp.wFrameIndex dp.wFrameLength := by
  induction dps with
  | nil => rfl
  | cons dp dps ih =>
    by_cases hin : dp.Inside blockLen
    · have hpos : decide (dp.Inside blockLen) = true := decide_eq_true hin
      obtain ⟨hidx, hlen, hfit⟩ := hin
      have hcount : (makeIov iov dp.wFrameIndex dp.wFrameLength).2 = dp.wFrameLength := by
        rw [makeIov_returns]
        omega
      rw [transmitFrames, if_neg (by simp [hidx, hlen]), if_neg (by omega), if_neg (not_not.mpr hcount),
        takeWhile_cons_of_pos (by exact hpos), map_cons, map_cons, ih, gather_makeIov]
      rfl
    · rw [takeWhile_cons_of_neg (by simpa using hin), transmitFrames]
      by_cases h0 : dp.wFrameIndex = 0 ∨ dp.wFrameLength = 0
      · rw [if_pos h0]
        rfl
      have hfar : blockLen < dp.wFrameIndex + dp.wFrameLength := by
        by_contra hle
        exact hin ⟨fun h => h0 (.inl h), fun h => h0 (.inr h), by omega⟩
      rw [if_neg h0, if_pos hfar]
      rfl

lemma processDpt_gather (iov : List Iovec) (hbs : gather m iov = bs)
    (hdpt : dptIndex bs + DPT_SIZE ≤ blockLength bs) (hfit : blockLength bs ≤ bs.length) :
    (processDpt m iov (blockLength bs) (dptIndex bs)).map (gather m) =
      if extract bs (dptIndex bs) 4 = NDP_SIGNATURE ∧ DPT_SIZE ≤ dptLength bs ∧
          dptIndex bs + dptLength bs ≤ blockLength bs then .advance (blockLength bs) (datagrams bs)
      else .advance 1 [] := by
  have hcopied : iovCopy m iov DPT_SIZE (dptIndex bs) = (slice bs (dptIndex bs) DPT_SIZE,
      (slice bs (dptIndex bs) DPT_SIZE).length) := by rw [iovCopy_slice, hbs]
  have hshort : ¬ (slice bs (dptIndex bs) DPT_SIZE).length < DPT_SIZE := by
    rw [slice_length]
    omega
  have hsig : (Dpt.ofBytes (slice bs (dptIndex bs) DPT_SIZE)).dwSignature =
      extract bs (dptIndex bs) 4 := extract_slice (by decide)
  have hlen : (Dpt.ofBytes (slice bs (dptIndex bs) DPT_SIZE)).wLength = dptLength bs :=
    extract_slice (by decide)
  unfold processDpt
  simp only [hcopied, hsig, hlen, if_neg hshort]
  by_cases hs : extract bs (dptIndex bs) 4 = NDP_SIGNATURE
  · rw [if_neg (not_not.mpr hs)]
    by_cases hl : dptLength bs < DPT_SIZE ∨ blockLength bs < dptIndex bs + dptLength bs
    · rw [if_pos hl, if_neg (by omega)]
      rfl
    have hall : extract bs (dptIndex bs) 4 = NDP_SIGNATURE ∧ DPT_SIZE ≤ dptLength bs ∧
        dptIndex bs + dptLength bs ≤ blockLength bs := ⟨hs, by omega, by omega⟩
    rw [if_neg hl, if_pos hall]
    by_cases h0 : (dptLength bs - DPT_SIZE) / DP_SIZE = 0
    · rw [if_pos h0, datagrams, pointers, h0]
      rfl
    have hn : min ((dptLength bs - DPT_SIZE) / DP_SIZE) MAX_DP * DP_SIZE ≤
        dptLength bs - DPT_SIZE := le_trans (Nat.mul_le_mul_right _ (Nat.min_le_left _ _))
      (Nat.div_mul_le_self _ _)
    rw [if_neg h0, iovCopy_slice, hbs, if_neg (by rw [slice_length]; omega)]
    simp only [Turn.map]
    rw [transmitFrames_gather m iov (by rw [← gather_length m, hbs]; exact hfit), hbs]
    congr 3
    apply map_congr_left
    intro i hi
    have hi' : DP_SIZE * i + 4 ≤
        min ((dptLength bs - DPT_SIZE) / DP_SIZE) MAX_DP * DP_SIZE := by
      have := mem_range.mp hi
      unfold DP_SIZE at this ⊢
      omega
    unfold Dp.ofBytes pointer
    rw [extract_slice (by omega), extract_slice (by omega), add_assoc _ _ 2]
  · rw [if_pos hs, if_neg (fun h => hs h.1)]
    rfl

lemma processTurn_gather (iov : List Iovec) :
    (processTurn m iov).map (gather m) = byteTurn (gather m iov) := by
  generalize hbs : gather m iov = bs
  have hcount : countIov iov = bs.length := by rw [← gather_length m, hbs]
  have hcopied : iovCopy m iov HDR_SIZE 0 =
      (slice bs 0 HDR_SIZE, (slice bs 0 HDR_SIZE).length) := by rw [iovCopy_slice, hbs]
  have hsig : (Hdr.ofBytes (slice bs 0 HDR_SIZE)).dwSignature = extract bs 0 4 := extract_slice (by decide)
  have hhdr : (Hdr.ofBytes (slice bs 0 HDR_SIZE)).wHeaderLength = headerLength bs :=
    (extract_slice (by decide)).trans (by rw [zero_add, headerLength])
  have hblock : (Hdr.ofBytes (slice bs 0 HDR_SIZE)).wBlockLength = blockLength bs :=
    (extract_slice (by decide)).trans (by rw [zero_add, blockLength])
  have hdpt : (Hdr.ofBytes (slice bs 0 HDR_SIZE)).wDptIndex = dptIndex bs :=
    (extract_slice (by decide)).trans (by rw [zero_add, dptIndex])
  unfold processTurn byteTurn
  simp only [hcopied, hsig, hhdr, hblock, hdpt, hcount]
  by_cases hlen : bs.length < HDR_SIZE
  · rw [if_pos hlen, if_pos hlen]
    rfl
  have hshort : ¬ (slice bs 0 HDR_SIZE).length < HDR_SIZE := by
    rw [slice_length]
    omega
  rw [if_neg hlen, if_neg hlen, if_neg hshort]
  by_cases hs : extract bs 0 4 ≠ NTB_SIGNATURE
  · rw [if_pos hs, if_pos hs]
    rfl
  rw [if_neg hs, if_neg hs]
  by_cases hcross : bs.length < blockLength bs
  · rw [if_pos hcross, if_pos hcross]
    rfl
  rw [if_neg hcross, if_neg hcross]
  split
  · rw [if_neg]
    · rfl
    intro hv
    have h1 := hv.header_length
    have h2 := hv.dpt_after
    have h3 := hv.dpt_fits
    omega
  · rw [processDpt_gather m iov hbs (by omega) (by omega)]
    congr 1
    apply propext
    constructor
    · rintro ⟨h1, h2, h3⟩
      exact ⟨by omega, not_not.mp hs, by omega, by omega, by omega, by omega, h1, h2, h3⟩
    · intro hv
      exact ⟨hv.dpt_signature, hv.dpt_length, hv.table_fits⟩

lemma packet_decode {fuel : Nat} {iov : List Iovec} (hfuel : countIov iov < fuel) :
    ∃ sent, unetProcessBulkOutPacket m fuel iov = some (countIov iov, sent) ∧
      sent.map (gather m) = decode (gather m iov) := by
  induction fuel generalizing iov with
  | zero => omega
  | succ fuel ih =>
    rw [unetProcessBulkOutPacket]
    by_cases hnil : iov = []
    · subst hnil
      exact ⟨[], rfl, (decode_stop (n := 0) rfl).symm⟩
    rw [if_neg (by simpa using hnil)]
    have hturn := processTurn_gather m iov
    cases hp : processTurn m iov with
    | stop =>
      rw [hp] at hturn
      have hn := byteTurn_stop hturn.symm
      rw [gather_length] at hn
      subst hn
      exact ⟨[], rfl, (decode_stop hturn.symm).symm⟩
    | advance n sent =>
      rw [hp] at hturn
      obtain ⟨hpos, hle⟩ := byteTurn_advance hturn.symm
      rw [gather_length] at hle
      have htrim := countIov_iovTrim iov n
      obtain ⟨more, hrun, hmore⟩ := ih (show countIov (iovTrim iov n) < fuel by omega)
      refine ⟨sent ++ more, ?_, ?_⟩
      · simp only [hrun, Option.map_some, htrim]
        rw [Nat.add_sub_cancel' hle]
      · rw [map_append, hmore, decode_advance hturn.symm, gather_iovTrim]

lemma mem_datagrams (h : f ∈ datagrams bs) :
    ∃ idx len, 0 < len ∧ idx + len ≤ blockLength bs ∧ f = slice bs idx len := by
  obtain ⟨dp, hdp, rfl⟩ := mem_map.mp h
  have hin := mem_takeWhile_imp hdp
  obtain ⟨_, hlen, hfit⟩ := of_decide_eq_true hin
  exact ⟨dp.wFrameIndex, dp.wFrameLength, Nat.pos_of_ne_zero hlen, hfit, rfl⟩

lemma byteTurn_sent
    (h : byteTurn bs = .advance n sent) (hf : f ∈ sent) : ValidBlock bs ∧ f ∈ datagrams bs := by
  unfold byteTurn at h
  split_ifs at h with _ _ _ hv
  · cases h
    cases hf
  · cases h
    exact ⟨hv, hf⟩
  · cases h
    cases hf

lemma mem_decode (h : f ∈ decode bs) : ∃ off, ValidBlock (bs.drop off) ∧ ∃ idx len, 0 < len ∧
      idx + len ≤ blockLength (bs.drop off) ∧ f = slice (bs.drop off) idx len := by
  fun_induction decode bs with
  | case1 => cases h
  | case2 bs n sent hturn ih =>
    rcases mem_append.mp h with hsent | hrest
    · obtain ⟨hv, hmem⟩ := byteTurn_sent hturn hsent
      refine ⟨0, ?_⟩
      exact ⟨hv, mem_datagrams hmem⟩
    · obtain ⟨off, hoff⟩ := ih hrest
      rw [drop_drop] at hoff
      exact ⟨n + off, hoff⟩

/-- An NTB16 block: its bytes and the datagrams that its one NDP names. -/
structure Ntb16 where
  block : List UInt8
  table : List Dp
  signature : extract block 0 4 = NTB_SIGNATURE
  header : headerLength block = HDR_SIZE
  length : blockLength block = block.length
  dpt_after : HDR_SIZE ≤ dptIndex block
  dpt_signature : extract block (dptIndex block) 4 = NDP_SIGNATURE
  one_dpt : extract block (dptIndex block + 6) 2 = 0
  few : table.length ≤ 16
  room : DPT_SIZE + DP_SIZE * (table.length + 1) ≤ dptLength block
  table_fits : dptIndex block + dptLength block ≤ block.length
  named : (List.range table.length).map (pointer block) = table
  ended : pointer block table.length = ⟨0, 0⟩
  inside : ∀ dp ∈ table, dp.Inside block.length

def Ntb16.datagrams (b : Ntb16) : List (List UInt8) :=
  b.table.map fun dp => slice b.block dp.wFrameIndex dp.wFrameLength

lemma slice_append {as : List UInt8} (h : off + n ≤ as.length) :
    slice (as ++ bs) off n = slice as off n := by
  unfold slice
  rw [drop_append_of_le_length (by omega), take_append_of_le_length]
  rw [length_drop]
  omega

lemma extract_append {as : List UInt8} (h : off + n ≤ as.length) :
    extract (as ++ bs) off n = extract as off n := by rw [extract, slice_append h, extract]

namespace Ntb16
variable (b : Ntb16) (rest : List UInt8)

lemma size : DPT_SIZE + DP_SIZE * (b.table.length + 1) + dptIndex b.block ≤ b.block.length := by
  have h1 := b.room
  have h2 := b.table_fits
  omega

lemma header_fits : HDR_SIZE + 12 ≤ b.block.length := by
  have h1 := b.size
  have h2 := b.dpt_after
  unfold DPT_SIZE DP_SIZE HDR_SIZE at *
  omega

lemma headerLength_append : headerLength (b.block ++ rest) = headerLength b.block :=
  extract_append (le_trans (by decide) b.header_fits)

lemma blockLength_append : blockLength (b.block ++ rest) = b.block.length :=
  (extract_append (le_trans (by decide) b.header_fits)).trans b.length

lemma dptIndex_append : dptIndex (b.block ++ rest) = dptIndex b.block :=
  extract_append (le_trans (by decide) b.header_fits)

lemma dptLength_append : dptLength (b.block ++ rest) = dptLength b.block := by
  have h := b.size
  unfold DPT_SIZE at h
  rw [dptLength, dptIndex_append, extract_append (by omega), dptLength]

lemma pointer_append {i : Nat} (hi : i ≤ b.table.length) :
    pointer (b.block ++ rest) i = pointer b.block i := by
  have h := b.size
  unfold pointer DP_SIZE at *
  rw [dptIndex_append, extract_append (by omega), extract_append (by omega)]

lemma valid : ValidBlock (b.block ++ rest) := by
  have hsize := b.size
  have hfits := b.header_fits
  have hroom := b.room
  constructor
  · rw [length_append]
    omega
  · rw [extract_append (le_trans (by decide) hfits), b.signature]
  · rw [blockLength_append, length_append]
    omega
  · rw [headerLength_append, b.header]
  · rw [dptIndex_append]
    exact b.dpt_after
  · rw [dptIndex_append, blockLength_append]
    omega
  · unfold DPT_SIZE at hsize
    rw [dptIndex_append, extract_append (by omega), b.dpt_signature]
  · rw [dptLength_append]
    omega
  · rw [dptIndex_append, dptLength_append, blockLength_append]
    exact b.table_fits

lemma pointers_append : ∃ more, pointers (b.block ++ rest) = b.table ++ ⟨0, 0⟩ :: more := by
  have hroom := b.room
  have hfew := b.few
  have hn : b.table.length + 1 ≤ min ((dptLength b.block - DPT_SIZE) / DP_SIZE) MAX_DP := by
    unfold DPT_SIZE DP_SIZE MAX_DP at *
    omega
  obtain ⟨k, hk⟩ := Nat.exists_eq_add_of_le hn
  unfold pointers
  rw [dptLength_append, hk, range_add, range_succ, map_append, map_append, append_assoc]
  have htable : (List.range b.table.length).map (pointer (b.block ++ rest)) = b.table := by
    refine Eq.trans (map_congr_left fun i hi => ?_) b.named
    exact b.pointer_append rest (le_of_lt (mem_range.mp hi))
  rw [htable, map_singleton, b.pointer_append rest le_rfl, b.ended]
  exact ⟨_, rfl⟩

lemma datagrams_append : Ncm.datagrams (b.block ++ rest) = b.datagrams := by
  obtain ⟨more, hmore⟩ := b.pointers_append rest
  have hend : ¬ Dp.Inside b.block.length ⟨0, 0⟩ := fun h => h.1 rfl
  rw [Ncm.datagrams, hmore, blockLength_append, takeWhile_append_of_pos
    (fun dp hdp => decide_eq_true (b.inside dp hdp)), takeWhile_cons_of_neg (by simpa using hend),
    append_nil]
  apply map_congr_left
  intro dp hdp
  exact slice_append (b.inside dp hdp).2.2

lemma byteTurn_append : byteTurn (b.block ++ rest) = .advance b.block.length b.datagrams := by
  have hv := b.valid rest
  unfold byteTurn
  rw [if_neg (not_lt.mpr hv.header), if_neg (not_not.mpr hv.signature),
    if_neg (not_lt.mpr hv.fits), if_pos hv, blockLength_append, datagrams_append]

end Ntb16

lemma decode_blocks (blocks : List Ntb16) :
    decode (blocks.flatMap (·.block)) = blocks.flatMap (·.datagrams) := by
  induction blocks with
  | nil => exact decode_stop (n := 0) rfl
  | cons b blocks ih => rw [flatMap_cons, flatMap_cons, decode_advance (b.byteTurn_append _), drop_left, ih]

open Virtio (Iovec)

/-- `pktiov` -/
def PKTIOV_SIZE : Nat := 32

variable {iov f : List Iovec}

lemma transmitFrames_vectors {blockLen : Nat} {dps : List Dp}
    (h : f ∈ transmitFrames iov blockLen dps) : f.length ≤ iov.length := by
  induction dps with
  | nil => cases h
  | cons dp dps ih =>
    rw [transmitFrames] at h
    dsimp only at h
    split_ifs at h
    · cases h
    · cases h
    · cases h
    rcases mem_cons.mp h with rfl | h
    · exact makeIov_length_le _ _ _
    · exact ih h

variable {sent : List (List Iovec)} {c : Prop} {t : Turn (List Iovec)} {n k : Nat}

lemma ite_advance [Decidable c] (h : (if c then .advance k [] else t) = .advance n sent)
    (hf : f ∈ sent) : t = .advance n sent := by
  split at h
  · cases h
    cases hf
  · exact h

lemma ite_stop [Decidable c] (h : (if c then .stop k else t) = .advance n sent) : t = .advance n sent := by
  split at h
  · cases h
  · exact h

variable {m : Store}

lemma processTurn_vectors
    (h : processTurn m iov = .advance n sent) (hf : f ∈ sent) : f.length ≤ iov.length := by
  have hdpt := ite_advance (ite_stop (ite_advance (ite_stop (ite_stop h)) hf)) hf
  have hlast := ite_advance (ite_advance (ite_advance (ite_advance (ite_advance hdpt hf) hf) hf) hf) hf
  cases hlast
  exact transmitFrames_vectors hf

lemma packet_vectors {fuel : Nat} {sent : List (List Iovec)}
    (h : unetProcessBulkOutPacket m fuel iov = some (n, sent)) (hf : f ∈ sent) : f.length ≤ iov.length := by
  induction fuel generalizing iov n sent with
  | zero => cases h
  | succ fuel ih =>
    rw [unetProcessBulkOutPacket] at h
    split at h
    · cases h
      cases hf
    cases hp : processTurn m iov with
    | stop =>
      rw [hp] at h
      cases h
      cases hf
    | advance k =>
      rw [hp] at h
      obtain ⟨⟨c, more⟩, hrun, heq⟩ := Option.map_eq_some_iff.mp h
      obtain ⟨_, rfl⟩ := Prod.mk.inj heq
      rcases mem_append.mp hf with hfirst | hmore
      · exact processTurn_vectors hp hfirst
      · exact le_trans (ih hrun hmore) (iovTrim_length_le iov k)

/-- The decoder ends with every byte consumed, the frames are slices of the bytes however they are
split, and well-formed blocks give their datagrams in order. -/
theorem bulk_out_decodes (m : Store) (iov : List Iovec) (hsplit : iov.length ≤ USB_MAX_XFER_BLOCKS)
    (fuel : Nat) (hfuel : countIov iov < fuel) :
    ∃ sent, unetProcessBulkOutPacket m fuel iov = some (countIov iov, sent) ∧
      (∀ f ∈ sent, f.length ≤ PKTIOV_SIZE ∧ ∃ off, ValidBlock ((gather m iov).drop off) ∧
        ∃ idx len, 0 < len ∧ idx + len ≤ blockLength ((gather m iov).drop off) ∧
          gather m f = slice ((gather m iov).drop off) idx len) ∧
      (∀ m' iov', gather m' iov' = gather m iov →
        ∃ sent', unetProcessBulkOutPacket m' fuel iov' = some (countIov iov, sent') ∧
          sent'.map (gather m') = sent.map (gather m)) ∧
      ∀ blocks : List Ntb16, gather m iov = blocks.flatMap (·.block) →
        sent.map (gather m) = blocks.flatMap (·.datagrams) := by
  obtain ⟨sent, hrun, hsent⟩ := packet_decode m hfuel
  refine ⟨sent, hrun, ?_, ?_, ?_⟩
  · intro f hf
    have hmem : gather m f ∈ decode (gather m iov) := hsent ▸ mem_map_of_mem hf
    exact ⟨le_trans (packet_vectors hrun hf) (le_trans hsplit (by decide)), mem_decode hmem⟩
  · intro m' iov' hsame
    have hcount : countIov iov' = countIov iov := by rw [← gather_length m', hsame, gather_length]
    rw [← hcount] at hfuel ⊢
    obtain ⟨sent', hrun', hsent'⟩ := packet_decode m' hfuel
    exact ⟨sent', hrun', by rw [hsent', hsent, hsame]⟩
  · intro blocks hblocks
    rw [hsent, hblocks, decode_blocks]

def oneDatagram : Ntb16 where
  block := [0x4E, 0x43, 0x4D, 0x48, 12, 0, 0, 0, 30, 0, 12, 0, 0x4E, 0x43, 0x4D, 0x30, 16, 0, 0, 0,
    28, 0, 2, 0, 0, 0, 0, 0, 0xAA, 0xBB]
  table := [⟨28, 2⟩]
  signature := by decide
  header := by decide
  length := by decide
  dpt_after := by decide
  dpt_signature := by decide
  one_dpt := by decide
  few := by decide
  room := by decide
  table_fits := by decide
  named := by decide
  ended := by decide
  inside := by decide

theorem bulk_out_decodes_split :
    let m := put blank 100 oneDatagram.block
    ∃ sent, unetProcessBulkOutPacket m 31 [⟨100, 7⟩, ⟨107, 23⟩] = some (30, sent) ∧
      sent.map (gather m) = [[0xAA, 0xBB]] := by
  intro m
  obtain ⟨sent, hrun, _, _, hblocks⟩ :=
    bulk_out_decodes m [⟨100, 7⟩, ⟨107, 23⟩] (by decide) 31 (by decide)
  refine ⟨sent, hrun, ?_⟩
  have hbytes : gather m [⟨100, 7⟩, ⟨107, 23⟩] = [oneDatagram].flatMap (·.block) := by
    decide +kernel
  rw [hblocks [oneDatagram] hbytes]
  decide

lemma setBlock_same (xfer : DataXfer) (i : Nat) (b : XferBlock) :
    (xfer.setBlock i b).data i = b := Function.update_self ..

variable {xfer : DataXfer}

lemma setBlock_other {b : XferBlock} {i j : Nat} (h : j ≠ i) :
    (xfer.setBlock i b).data j = xfer.data j := Function.update_of_ne h ..

lemma indices_nodup (h : xfer.ndata ≤ USB_MAX_XFER_BLOCKS) : xfer.indices.Nodup := by
  unfold DataXfer.indices USB_MAX_XFER_BLOCKS at *
  apply List.Nodup.map_on _ nodup_range
  intro i hi j hj heq
  have hi' := mem_range.mp hi
  have hj' := mem_range.mp hj
  omega

end ScorpiHv.Usb.Ncm

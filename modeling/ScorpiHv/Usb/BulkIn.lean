import ScorpiHv.Usb.Ncm

/-!
# The network device's bulk-in endpoint

`unet_process_bulk_in` receives frames behind room for a header, then writes the NTB16
header and its table there.
-/

namespace ScorpiHv.Usb.Ncm
open Bytes List
open Virtio (Iovec)

def UNET_MTU_SIZE : Nat := 1514
def UNET_NTB_MAX_IN_DGRAMS : Nat := 8

def NDP_IN_DIVISOR : Nat := 4

def NDP_IN_PAYLOAD_REMAINDER : Nat := 0

/-- `hdr_len`: the header, the NDP and a full table with its zero entry. -/
def IN_HDR_LEN : Nat := HDR_SIZE + DPT_SIZE + (UNET_NTB_MAX_IN_DGRAMS + 1) * DP_SIZE

structure UnetSoftc where
  ntbInputSize : Nat := 8192
  seq : UInt16 := 0
  deriving DecidableEq

/-- A result of `netbe_recv`: -1, or the bytes it stored, none of them for 0. -/
inductive Recv where
  | error
  | frame (bs : List UInt8)
  deriving DecidableEq

/-- The result as the `size_t` it is assigned to. -/
def Recv.len : Recv → Nat
  | .error => 2 ^ 64 - 1
  | .frame bs => bs.length

def Recv.bytes : Recv → List UInt8
  | .error => []
  | .frame bs => bs

/-- A network backend: its results by call and the bytes it is offered, which a frame fits. -/
structure Backend where
  recv : Nat → Nat → Recv
  fits : ∀ i room bs, recv i room = .frame bs → bs.length ≤ room

/-- The variables of the receive loop; `got` are the results that the loop counted. -/
structure InState where
  m : Store
  riov : List Iovec
  total : Nat
  dps : List Dp
  got : List Recv

def InState.count (s : InState) (r : Recv) : InState :=
  { m := scatter s.m s.riov r.bytes
    riov := iovTrim s.riov r.len
    total := (s.total + r.len) % 2 ^ 64
    dps := s.dps ++ [⟨s.total % 2 ^ 16, r.len % 2 ^ 16⟩]
    got := s.got ++ [r] }

def recvLoop (be : Backend) (ntbLimit : Nat) : Nat → InState → InState
  | 0, s => s
  | n + 1, s =>
    if s.riov.isEmpty ∨ countIov s.riov < UNET_MTU_SIZE ∨ ntbLimit < s.total + UNET_MTU_SIZE then s
    else
      let r := be.recv s.dps.length (countIov s.riov)
      if r.len = 0 then s
      else recvLoop be ntbLimit n (s.count r)

def Dp.bytes (dp : Dp) : List UInt8 := leEnc 2 dp.wFrameIndex ++ leEnc 2 dp.wFrameLength

/-- `USETW(ntb->wSequence, sc->seq++)`, which evaluates its argument for each byte. -/
def seqBytes (seq : UInt16) : List UInt8 := [seq.toUInt8, ((seq + 1) >>> 8).toUInt8]

def inHeader (seq : UInt16) (total : Nat) (dps : List Dp) : List UInt8 :=
  leEnc 4 NTB_SIGNATURE ++ leEnc 2 HDR_SIZE ++ seqBytes seq ++ leEnc 2 total ++
    leEnc 2 HDR_SIZE ++ leEnc 4 NDP_SIGNATURE ++ leEnc 2 (DPT_SIZE + (dps.length + 1) * DP_SIZE) ++
    leEnc 2 0 ++ dps.flatMap Dp.bytes ++
    List.replicate (DP_SIZE * (UNET_NTB_MAX_IN_DGRAMS + 1 - dps.length)) 0

/-- The unprocessed blocks and their vectors; `none` is the assertion on a block without
room. A transfer never has more blocks than the array of vectors. -/
def collectIn : List Nat → DataXfer → Option (List (Nat × Iovec))
  | [], _ => some []
  | idx :: rest, xfer =>
    let data := xfer.data idx
    if data.isProcessed then collectIn rest xfer
    else if data.hasBuffer then
      (collectIn rest xfer).map ((idx, ⟨data.buf.getD 0, data.blen⟩) :: ·)
    else none

def retireIn : List Nat → DataXfer → Nat → DataXfer × Nat
  | [], xfer, remaining => (xfer, remaining)
  | idx :: rest, xfer, remaining =>
    let data := xfer.data idx
    let chunk := min data.blen remaining
    retireIn rest (xfer.setBlock idx
      { data with bdone := data.bdone + chunk, blen := data.blen - chunk, processed := 1 })
      (remaining - chunk)

inductive InResult where
  | assertFailed
  | noData (err : UsbErr) (xfer : DataXfer)
  | data (err : UsbErr) (xfer : DataXfer) (m : Store) (sc : UnetSoftc) (got : List Recv)

def unetProcessBulkIn (be : Backend) (sc : UnetSoftc) (m : Store) (xfer : DataXfer) : InResult :=
  match collectIn xfer.indices xfer with
  | none => .assertFailed
  | some blocks =>
    let iov := blocks.map (·.2)
    let riov := iovTrim iov IN_HDR_LEN
    if iov.isEmpty then .noData .shortXfer xfer
    else if riov.isEmpty then .noData .shortXfer xfer
    else
      let s := recvLoop be (min sc.ntbInputSize (countIov iov)) UNET_NTB_MAX_IN_DGRAMS
        ⟨m, riov, IN_HDR_LEN, [], []⟩
      if s.dps.isEmpty then
        .noData .cancelled
          (xfer.setBlock xfer.head ((xfer.data xfer.head).setErrcode USB_NAK))
      else
        let r := retireIn (blocks.map (·.1)) xfer s.total
        let short := r.2 ≠ 0 ∨ ∃ b ∈ blocks, (r.1.data b.1).blen ≠ 0
        .data (if short then .shortXfer else .normalCompletion) r.1
          (scatter s.m iov (inHeader sc.seq s.total s.dps)) { sc with seq := sc.seq + 2 } s.got

def inBlocks (xfer : DataXfer) : List Nat :=
  xfer.indices.filter fun i => !(xfer.data i).isProcessed

def inVectors (xfer : DataXfer) : List Iovec :=
  (inBlocks xfer).map fun i => ⟨(xfer.data i).buf.getD 0, (xfer.data i).blen⟩

def accounted (xfer xfer' : DataXfer) : Nat :=
  ((inBlocks xfer).map fun i => (xfer'.data i).bdone - (xfer.data i).bdone).sum

structure Delivered (limit : Nat) (frames : List (List UInt8)) (written : List UInt8) : Prop where
  block : ∃ b : Ntb16, b.block = written ∧ b.datagrams = frames ∧
    ∀ dp ∈ b.table, dp.wFrameIndex % NDP_IN_DIVISOR = NDP_IN_PAYLOAD_REMAINDER
  decoded : decode written = frames
  within : written.length ≤ limit ∧ written.length ≤ 65535

/-- What the backend answers to the calls for a block, from the `i`th on with `total` bytes in it: up
to a failure, to a call without a frame, and while there is room for one of the MTU. -/
def Backend.answers (be : Backend) (space limit : Nat) : Nat → Nat → Nat → List Recv
  | 0, _, _ => []
  | n + 1, i, total =>
    if space < total + UNET_MTU_SIZE ∨ limit < total + UNET_MTU_SIZE then []
    else match be.recv i (space - total) with
      | .error => [.error]
      | .frame bs => if bs = [] then [] else .frame bs :: be.answers space limit n (i + 1) (total + bs.length)

/-- The answers to a whole transfer. -/
def Backend.answersTo (be : Backend) (sc : UnetSoftc) (xfer : DataXfer) : List Recv :=
  be.answers (countIov (inVectors xfer)) (min sc.ntbInputSize (countIov (inVectors xfer)))
    UNET_NTB_MAX_IN_DGRAMS 0 IN_HDR_LEN

/-- The results counted: frames only, all but the last of aligned length, within the limits. -/
structure Regular (limit : Nat) (got : List Recv) : Prop where
  frames : ∀ r ∈ got, r ≠ .error
  aligned : ∀ r ∈ got.dropLast, r.len % NDP_IN_DIVISOR = 0
  within : IN_HDR_LEN + (got.map Recv.len).sum ≤ limit ∧
    IN_HDR_LEN + (got.map Recv.len).sum ≤ 65535

variable {xfer : DataXfer} {is : List Nat}

lemma collectIn_none_iff : collectIn is xfer = none ↔
      ∃ i ∈ is, (xfer.data i).isProcessed = false ∧ (xfer.data i).hasBuffer = false := by
  induction is with
  | nil => simp [collectIn]
  | cons idx rest ih =>
    rw [collectIn, exists_mem_cons_iff]
    split_ifs with hp hb
    · rw [ih]
      simp [hp]
    · rw [Option.map_eq_none_iff, ih]
      simp [hb]
    · simp [hp, hb]

lemma collectIn_some {blocks : List (Nat × Iovec)} (h : collectIn is xfer = some blocks) :
    blocks = (is.filter fun i => !(xfer.data i).isProcessed).map fun i =>
      (i, ⟨(xfer.data i).buf.getD 0, (xfer.data i).blen⟩) := by
  induction is generalizing blocks with
  | nil =>
    cases h
    rfl
  | cons idx rest ih =>
    rw [collectIn] at h
    split_ifs at h with hp hb
    · rw [filter_cons_of_neg (by simp [hp])]
      exact ih h
    · obtain ⟨more, hmore, rfl⟩ := Option.map_eq_some_iff.mp h
      rw [filter_cons_of_pos (by simp [hp]), map_cons, ← ih hmore]

lemma inVectors_eq {blocks : List (Nat × Iovec)} (h : collectIn xfer.indices xfer = some blocks) :
    blocks.map (·.2) = inVectors xfer ∧ blocks.map (·.1) = inBlocks xfer := by
  rw [collectIn_some h, map_map, map_map]
  exact ⟨rfl, map_id _⟩

lemma retireIn_others {remaining j : Nat} (h : j ∉ is) :
    (retireIn is xfer remaining).1.data j = xfer.data j := by
  induction is generalizing xfer remaining with
  | nil => rfl
  | cons idx rest ih =>
    obtain ⟨hne, hnot⟩ := ne_and_not_mem_of_not_mem_cons h
    rw [retireIn, ih hnot]
    exact setBlock_other hne

lemma retireIn_accounts (hnodup : is.Nodup) {remaining : Nat}
    (hfit : remaining ≤ (is.map fun i => (xfer.data i).blen).sum) :
    (is.map fun i => ((retireIn is xfer remaining).1.data i).bdone - (xfer.data i).bdone).sum =
      remaining := by
  induction is generalizing xfer remaining with
  | nil =>
    rw [map_nil, sum_nil] at hfit ⊢
    omega
  | cons idx rest ih =>
    obtain ⟨hnot, hrest⟩ := nodup_cons.mp hnodup
    rw [map_cons, sum_cons] at hfit ⊢
    rw [retireIn, retireIn_others hnot, setBlock_same]
    generalize hx : xfer.setBlock idx _ = x
    have hsame : ∀ i ∈ rest, x.data i = xfer.data i := by
      intro i hi
      rw [← hx]
      exact setBlock_other fun h => hnot (h ▸ hi)
    have hblen : (rest.map fun i => (x.data i).blen) = rest.map fun i => (xfer.data i).blen :=
      map_congr_left fun i hi => by rw [hsame i hi]
    have hleft : remaining - min (xfer.data idx).blen remaining ≤
        (rest.map fun i => (x.data i).blen).sum := by
      rw [hblen]
      omega
    have hsum := ih hrest hleft
    have hcongr : (rest.map fun i =>
          ((retireIn rest x (remaining - min (xfer.data idx).blen remaining)).1.data i).bdone -
            (xfer.data i).bdone) = rest.map fun i =>
          ((retireIn rest x (remaining - min (xfer.data idx).blen remaining)).1.data i).bdone -
            (x.data i).bdone := map_congr_left fun i hi => by rw [hsame i hi]
    rw [hcongr, hsum]
    dsimp only
    omega

/-- The pointers to frames that follow each other from `off` on. -/
def table : Nat → List Recv → List Dp
  | _, [] => []
  | off, r :: rs => ⟨off % 2 ^ 16, r.len % 2 ^ 16⟩ :: table (off + r.len) rs

lemma table_length (off : Nat) (rs : List Recv) : (table off rs).length = rs.length := by
  induction rs generalizing off with
  | nil => rfl
  | cons r rs ih => rw [table, length_cons, length_cons, ih]

lemma table_append (off : Nat) (rs : List Recv) (r : Recv) :
    table off (rs ++ [r]) = table off rs ++ [⟨(off + (rs.map Recv.len).sum) % 2 ^ 16, r.len % 2 ^ 16⟩] := by
  induction rs generalizing off with
  | nil => rfl
  | cons q rs ih => rw [cons_append, table, table, ih, cons_append, map_cons, sum_cons, Nat.add_assoc]

variable {rs : List Recv} {limit n off : Nat}

lemma table_word {dp : Dp} (h : dp ∈ table off rs) :
    dp.wFrameIndex < 2 ^ 16 ∧ dp.wFrameLength < 2 ^ 16 := by
  induction rs generalizing off with
  | nil => cases h
  | cons r rs ih =>
    rcases mem_cons.mp h with rfl | h
    · exact ⟨Nat.mod_lt _ (by decide), Nat.mod_lt _ (by decide)⟩
    · exact ih h

lemma table_inside {dp : Dp} (hfit : off + (rs.map Recv.len).sum < 2 ^ 16)
    (hpos : ∀ r ∈ rs, r.len ≠ 0) (h : dp ∈ table off rs) : off ≤ dp.wFrameIndex ∧
    dp.wFrameLength ≠ 0 ∧ dp.wFrameIndex + dp.wFrameLength ≤ off + (rs.map Recv.len).sum := by
  induction rs generalizing off with
  | nil => cases h
  | cons r rs ih =>
    rw [map_cons, sum_cons] at hfit ⊢
    have hr := hpos r mem_cons_self
    rcases mem_cons.mp h with rfl | h
    · rw [Nat.mod_eq_of_lt (by omega), Nat.mod_eq_of_lt (by omega)]
      exact ⟨le_rfl, hr, by dsimp only; omega⟩
    · have hin := ih (by omega) (fun q hq => hpos q (mem_cons_of_mem _ hq)) h
      omega

lemma table_aligned_iff (hoff : off % NDP_IN_DIVISOR = 0) :
    (∀ dp ∈ table off rs, dp.wFrameIndex % NDP_IN_DIVISOR = NDP_IN_PAYLOAD_REMAINDER) ↔
      ∀ r ∈ rs.dropLast, r.len % NDP_IN_DIVISOR = 0 := by
  unfold NDP_IN_DIVISOR NDP_IN_PAYLOAD_REMAINDER at *
  induction rs generalizing off with
  | nil => simp [table]
  | cons r rs ih =>
    cases rs with
    | nil =>
      simp only [table, mem_singleton, forall_eq, dropLast_singleton, not_mem_nil,
        false_implies, implies_true, iff_true]
      omega
    | cons =>
      rw [table, dropLast_cons_cons, forall_mem_cons, forall_mem_cons]
      constructor
      · rintro ⟨_, htail⟩
        have hnext := htail _ mem_cons_self
        dsimp only at hnext
        have hlen : r.len % 4 = 0 := by omega
        exact ⟨hlen, (ih (by omega)).mp htail⟩
      · rintro ⟨hlen, htail⟩
        exact ⟨by dsimp only; omega, (ih (by omega)).mpr htail⟩

lemma table_frames (pre : List UInt8)
    (hfit : pre.length + (rs.map Recv.len).sum < 2 ^ 16) (hframes : ∀ r ∈ rs, r ≠ .error) :
    (table pre.length rs).map (fun dp => slice (pre ++ rs.flatMap Recv.bytes) dp.wFrameIndex
      dp.wFrameLength) = rs.map Recv.bytes := by
  induction rs generalizing pre with
  | nil => rfl
  | cons r rs ih =>
    have hlen : r.len = r.bytes.length := by
      cases r with
      | error => exact absurd rfl (hframes _ mem_cons_self)
      | frame => rfl
    rw [map_cons, sum_cons] at hfit
    have htail := ih (pre ++ r.bytes) (by rw [length_append]; omega)
      (fun q hq => hframes q (mem_cons_of_mem _ hq))
    rw [length_append, ← hlen, append_assoc] at htail
    rw [table, map_cons, map_cons, flatMap_cons, htail]
    rw [Nat.mod_eq_of_lt (by omega), Nat.mod_eq_of_lt (by omega), slice, drop_left, hlen, take_left]

lemma inHeader_length {seq : UInt16} {total : Nat} {dps : List Dp}
    (h : dps.length ≤ UNET_NTB_MAX_IN_DGRAMS) : (inHeader seq total dps).length = IN_HDR_LEN := by
  have hdps : (dps.flatMap Dp.bytes).length = 4 * dps.length := by simp [Dp.bytes, Nat.mul_comm]
  unfold inHeader
  simp only [length_append, leEnc_length, seqBytes, length_cons, length_nil, hdps, length_replicate]
  unfold UNET_NTB_MAX_IN_DGRAMS IN_HDR_LEN HDR_SIZE DPT_SIZE DP_SIZE at *
  unfold UNET_NTB_MAX_IN_DGRAMS
  omega

lemma slice_drop (bs : List UInt8) (k off n : Nat) : slice (bs.drop k) off n = slice bs (k + off) n := by
  rw [slice, drop_drop, slice]

lemma ofBytes_head (dp : Dp) (rest : List UInt8) (hi : dp.wFrameIndex < 2 ^ 16)
    (hl : dp.wFrameLength < 2 ^ 16) : Dp.ofBytes (dp.bytes ++ rest) 0 = dp := by
  have hidx : slice (dp.bytes ++ rest) 0 2 = leEnc 2 dp.wFrameIndex := rfl
  have hlen : slice (dp.bytes ++ rest) 2 2 = leEnc 2 dp.wFrameLength := rfl
  unfold Dp.ofBytes extract DP_SIZE
  rw [Nat.mul_zero, Nat.zero_add, hidx, hlen, leDec_leEnc hi, leDec_leEnc hl]

lemma ofBytes_succ (dp : Dp) (rest : List UInt8) (i : Nat) :
    Dp.ofBytes (dp.bytes ++ rest) (i + 1) = Dp.ofBytes rest i := by
  have hdrop : (dp.bytes ++ rest).drop 4 = rest := rfl
  have h0 : DP_SIZE * (i + 1) = 4 + DP_SIZE * i := by
    unfold DP_SIZE
    omega
  unfold Dp.ofBytes extract
  rw [h0, Nat.add_assoc, ← slice_drop, ← slice_drop, hdrop]

lemma ofBytes_table (dps : List Dp) (rest : List UInt8)
    (h : ∀ dp ∈ dps, dp.wFrameIndex < 2 ^ 16 ∧ dp.wFrameLength < 2 ^ 16) :
    (List.range dps.length).map (Dp.ofBytes (dps.flatMap Dp.bytes ++ rest)) = dps ∧
      Dp.ofBytes (dps.flatMap Dp.bytes ++ rest) dps.length = Dp.ofBytes rest 0 := by
  induction dps with
  | nil => exact ⟨rfl, rfl⟩
  | cons dp dps ih =>
    obtain ⟨hi, hl⟩ := h dp mem_cons_self
    obtain ⟨htable, hend⟩ := ih fun q hq => h q (mem_cons_of_mem _ hq)
    rw [flatMap_cons, append_assoc, length_cons]
    constructor
    · rw [range_succ_eq_map, map_cons, map_map, ofBytes_head dp _ hi hl]
      refine congrArg (dp :: ·) (Eq.trans ?_ htable)
      apply map_congr_left
      intro i _
      exact ofBytes_succ dp _ i
    · rw [ofBytes_succ, hend]

section
variable {seq : UInt16} {total : Nat} {dps : List Dp} (rest : List UInt8)

lemma header_signature : extract (inHeader seq total dps ++ rest) 0 4 = NTB_SIGNATURE := by
  have h : slice (inHeader seq total dps ++ rest) 0 4 = leEnc 4 NTB_SIGNATURE := rfl
  rw [extract, h, leDec_leEnc (by decide)]

lemma header_headerLength : headerLength (inHeader seq total dps ++ rest) = HDR_SIZE := by
  have h : slice (inHeader seq total dps ++ rest) 4 2 = leEnc 2 HDR_SIZE := rfl
  rw [headerLength, extract, h, leDec_leEnc (by decide)]

lemma header_blockLength (htotal : total < 2 ^ 16) :
    blockLength (inHeader seq total dps ++ rest) = total := by
  have h : slice (inHeader seq total dps ++ rest) 8 2 = leEnc 2 total := rfl
  rw [blockLength, extract, h, leDec_leEnc htotal]

lemma header_dptIndex : dptIndex (inHeader seq total dps ++ rest) = HDR_SIZE := by
  have h : slice (inHeader seq total dps ++ rest) 10 2 = leEnc 2 HDR_SIZE := rfl
  rw [dptIndex, extract, h, leDec_leEnc (by decide)]

lemma header_dpt : extract (inHeader seq total dps ++ rest) HDR_SIZE 4 = NDP_SIGNATURE ∧
    extract (inHeader seq total dps ++ rest) (HDR_SIZE + 6) 2 = 0 := by
  have hsig : slice (inHeader seq total dps ++ rest) HDR_SIZE 4 = leEnc 4 NDP_SIGNATURE := rfl
  have hnext : slice (inHeader seq total dps ++ rest) (HDR_SIZE + 6) 2 = leEnc 2 0 := rfl
  rw [extract, extract, hsig, hnext, leDec_leEnc (by decide), leDec_leEnc (by decide)]
  exact ⟨rfl, rfl⟩

lemma header_dptLength (hdps : dps.length ≤ UNET_NTB_MAX_IN_DGRAMS) :
    dptLength (inHeader seq total dps ++ rest) = DPT_SIZE + (dps.length + 1) * DP_SIZE := by
  have h : slice (inHeader seq total dps ++ rest) (HDR_SIZE + 4) 2 =
      leEnc 2 (DPT_SIZE + (dps.length + 1) * DP_SIZE) := rfl
  rw [dptLength, header_dptIndex, extract, h, leDec_leEnc]
  unfold UNET_NTB_MAX_IN_DGRAMS at hdps
  unfold DPT_SIZE DP_SIZE
  omega

lemma header_pointer (i : Nat) :
    pointer (inHeader seq total dps ++ rest) i = Dp.ofBytes (dps.flatMap Dp.bytes ++
      (List.replicate (DP_SIZE * (UNET_NTB_MAX_IN_DGRAMS + 1 - dps.length)) 0 ++ rest)) i := by
  have hdrop : (inHeader seq total dps ++ rest).drop (HDR_SIZE + DPT_SIZE) =
      dps.flatMap Dp.bytes ++
        (List.replicate (DP_SIZE * (UNET_NTB_MAX_IN_DGRAMS + 1 - dps.length)) 0 ++ rest) := by
    rw [← append_assoc]
    rfl
  unfold pointer Dp.ofBytes extract
  rw [header_dptIndex, Nat.add_assoc _ _ 2, ← slice_drop, ← slice_drop, hdrop]

lemma header_table (hdps : dps.length ≤ UNET_NTB_MAX_IN_DGRAMS)
    (hword : ∀ dp ∈ dps, dp.wFrameIndex < 2 ^ 16 ∧ dp.wFrameLength < 2 ^ 16) :
    (List.range dps.length).map (pointer (inHeader seq total dps ++ rest)) = dps ∧
      pointer (inHeader seq total dps ++ rest) dps.length = ⟨0, 0⟩ := by
  obtain ⟨htable, hend⟩ := ofBytes_table dps
    (List.replicate (DP_SIZE * (UNET_NTB_MAX_IN_DGRAMS + 1 - dps.length)) 0 ++ rest) hword
  constructor
  · refine Eq.trans ?_ htable
    apply map_congr_left
    intro i _
    exact header_pointer rest i
  · rw [header_pointer, hend]
    have hpad : DP_SIZE * (UNET_NTB_MAX_IN_DGRAMS + 1 - dps.length) =
        4 + DP_SIZE * (UNET_NTB_MAX_IN_DGRAMS - dps.length) := by
      unfold DP_SIZE
      omega
    rw [hpad, replicate_add, append_assoc]
    rfl

end

/-- What holds at the loop's head while no call has failed: the frames counted stand behind
the room for the header, and the table names them. -/
structure Receiving (iov : List Iovec) (s : InState) : Prop where
  total : s.total = IN_HDR_LEN + (s.got.map Recv.len).sum
  rest : addrs s.riov = (addrs iov).drop s.total
  fits : s.total ≤ countIov iov
  dps : s.dps = table IN_HDR_LEN s.got
  bytes : ∃ room, room.length = IN_HDR_LEN ∧
    (gather s.m iov).take s.total = room ++ s.got.flatMap Recv.bytes
  frames : ∀ r ∈ s.got, r ≠ .error ∧ r.len ≠ 0

lemma recvLoop_succ (be : Backend) (limit n : Nat) (s : InState) : recvLoop be limit (n + 1) s = s ∨
    recvLoop be limit (n + 1) s =
      recvLoop be limit n (s.count (be.recv s.dps.length (countIov s.riov))) ∧
    (be.recv s.dps.length (countIov s.riov)).len ≠ 0 := by
  rw [recvLoop]
  dsimp only
  split_ifs with hend hzero
  · exact .inl rfl
  · exact .inl rfl
  · exact .inr ⟨rfl, hzero⟩

variable {s : InState} {be : Backend}

lemma recvLoop_got : s.got <+: (recvLoop be limit n s).got := by
  induction n generalizing s with
  | zero => exact prefix_rfl
  | succ n ih =>
    rcases recvLoop_succ be limit n s with h | ⟨h, _⟩
    · rw [h]
    rw [h]
    have hcount : s.got <+: (s.count (be.recv s.dps.length (countIov s.riov))).got := prefix_append _ _
    exact hcount.trans ih

lemma recvLoop_length : (recvLoop be limit n s).got.length ≤ s.got.length + n := by
  induction n generalizing s with
  | zero => exact le_rfl
  | succ n ih =>
    rcases recvLoop_succ be limit n s with h | ⟨h, _⟩
    · rw [h]
      omega
    rw [h]
    refine le_trans ih ?_
    rw [InState.count, length_append, length_singleton]
    omega

variable {iov : List Iovec}

lemma recvLoop_done (h : s.riov = []) : recvLoop be limit n s = s := by
  cases n with
  | zero => rfl
  | succ n => rw [recvLoop, if_pos (.inl (by rw [h]; rfl))]

/-- The loop counts the answers, a failure being the last of them. -/
lemma recvLoop_answers (hsmall : countIov iov < 2 ^ 63) (hriov : countIov s.riov = countIov iov - s.total)
    (hfit : s.total ≤ countIov iov) : (recvLoop be limit n s).got =
      s.got ++ be.answers (countIov iov) limit n s.dps.length s.total := by
  induction n generalizing s with
  | zero => exact (append_nil _).symm
  | succ n ih =>
    rw [recvLoop, Backend.answers]
    by_cases hroom : countIov iov < s.total + UNET_MTU_SIZE ∨ limit < s.total + UNET_MTU_SIZE
    · rw [if_pos hroom, if_pos (by omega), append_nil]
    have hne : s.riov ≠ [] := by
      intro hnil
      rw [hnil] at hriov
      have hzero : countIov [] = 0 := rfl
      unfold UNET_MTU_SIZE at hroom
      omega
    rw [if_neg hroom, if_neg (by simp only [List.isEmpty_iff, hne, false_or]; omega), ← hriov]
    dsimp only
    cases hr : be.recv s.dps.length (countIov s.riov) with
    | error =>
      rw [if_neg (by simp [Recv.len])]
      have hnil : (s.count .error).riov = [] := by
        by_contra hsome
        have hle := le_countIov_of_iovTrim hsome
        simp only [Recv.len] at hle
        omega
      rw [recvLoop_done hnil]
      rfl
    | frame bs =>
      have hle := be.fits _ _ _ hr
      dsimp only
      by_cases hbs : bs = []
      · rw [if_pos (by rw [hbs]; rfl), if_pos hbs, append_nil]
      have hpos : bs.length ≠ 0 := mt length_eq_zero_iff.mp hbs
      have htotal : (s.count (.frame bs)).total = s.total + bs.length := by
        change (s.total + bs.length) % 2 ^ 64 = _
        exact Nat.mod_eq_of_lt (by omega)
      have hcount : countIov (s.count (.frame bs)).riov = countIov iov - (s.total + bs.length) := by
        change countIov (iovTrim s.riov bs.length) = _
        rw [countIov_iovTrim]
        omega
      have hlen : (s.count (.frame bs)).dps.length = s.dps.length + 1 := by
        rw [InState.count, length_append, length_singleton]
      rw [if_neg (show (Recv.frame bs).len ≠ 0 from hpos), if_neg hbs,
        ih (by rw [hcount, htotal]) (by rw [htotal]; omega), htotal, hlen]
      exact append_assoc _ _ _

lemma Receiving.step (hd : (addrs iov).Nodup) (hsmall : countIov iov < 2 ^ 64)
    (hs : Receiving iov s) {bs : List UInt8} (hne : bs.length ≠ 0)
    (hfit : bs.length ≤ countIov s.riov) : Receiving iov (s.count (.frame bs)) := by
  have hriov : countIov s.riov = countIov iov - s.total := by
    rw [← addrs_length, hs.rest, length_drop, addrs_length]
  have htotal : (s.total + bs.length) % 2 ^ 64 = s.total + bs.length := Nat.mod_eq_of_lt (by omega)
  have hscatter : scatter s.m s.riov bs = scatter s.m (iovTrim iov s.total) bs := by
    unfold scatter
    rw [hs.rest, addrs_iovTrim]
  have hdrop : (addrs (iovTrim iov s.total)).Nodup := by
    rw [addrs_iovTrim]
    exact hd.sublist (drop_sublist _ _)
  constructor
  · show (s.total + bs.length) % 2 ^ 64 = _
    rw [htotal, hs.total, InState.count, map_append, sum_append, Nat.add_assoc]
    rfl
  · show addrs (iovTrim s.riov bs.length) = (addrs iov).drop ((s.total + bs.length) % 2 ^ 64)
    rw [htotal, addrs_iovTrim, hs.rest, drop_drop]
  · show (s.total + bs.length) % 2 ^ 64 ≤ _
    omega
  · show s.dps ++ _ = table IN_HDR_LEN (s.got ++ [Recv.frame bs])
    rw [table_append, hs.dps, hs.total]
  · obtain ⟨room, hroom, hbytes⟩ := hs.bytes
    refine ⟨room, hroom, ?_⟩
    show (gather (scatter s.m s.riov bs) iov).take ((s.total + bs.length) % 2 ^ 64) =
      room ++ (s.got ++ [Recv.frame bs]).flatMap Recv.bytes
    have hbehind : (gather (scatter s.m (iovTrim iov s.total) bs) iov).drop s.total =
        bs ++ ((gather s.m (iovTrim iov s.total)).drop bs.length) := by
      rw [← gather_iovTrim, gather_scatter hdrop]
      rw [countIov_iovTrim]
      omega
    rw [htotal, hscatter, take_add, take_gather_scatter hd, hbytes, hbehind, take_left,
      flatMap_append, flatMap_singleton, append_assoc]
    rfl
  · intro r hr
    rcases mem_append.mp hr with hr | hr
    · exact hs.frames r hr
    · rw [mem_singleton.mp hr]
      exact ⟨nofun, hne⟩

lemma Receiving.run (hd : (addrs iov).Nodup) (hsmall : countIov iov < 2 ^ 64) (hs : Receiving iov s)
    (hframes : ∀ r ∈ (recvLoop be limit n s).got, r ≠ .error) : Receiving iov (recvLoop be limit n s) := by
  induction n generalizing s with
  | zero => exact hs
  | succ n ih =>
    rcases recvLoop_succ be limit n s with h | ⟨h, hne⟩
    · rw [h]
      exact hs
    rw [h] at hframes ⊢
    apply ih _ hframes
    cases hr : be.recv s.dps.length (countIov s.riov) with
    | error =>
      refine absurd hr (hframes _ ?_)
      exact recvLoop_got.subset (mem_append_right _ mem_cons_self)
    | frame =>
      rw [hr] at hne
      exact hs.step hd hsmall hne (be.fits _ _ _ hr)

section
variable {got : List Recv} {seq : UInt16}

def written (seq : UInt16) (got : List Recv) : List UInt8 :=
  inHeader seq (IN_HDR_LEN + (got.map Recv.len).sum) (table IN_HDR_LEN got) ++
    got.flatMap Recv.bytes

lemma frames_length (hframes : ∀ r ∈ got, r ≠ .error) :
    (got.flatMap Recv.bytes).length = (got.map Recv.len).sum := by
  rw [length_flatMap]
  congr 1
  apply map_congr_left
  intro r hr
  cases r with
  | error => exact absurd rfl (hframes _ hr)
  | frame => rfl

lemma written_length (hfew : got.length ≤ UNET_NTB_MAX_IN_DGRAMS) (hframes : ∀ r ∈ got, r ≠ .error) :
    (written seq got).length = IN_HDR_LEN + (got.map Recv.len).sum := by
  rw [written, length_append, inHeader_length (by rwa [table_length]), frames_length hframes]

lemma written_pointers (hfew : got.length ≤ UNET_NTB_MAX_IN_DGRAMS) :
    (List.range got.length).map (pointer (written seq got)) = table IN_HDR_LEN got ∧
      pointer (written seq got) got.length = ⟨0, 0⟩ := by
  have hlen := table_length IN_HDR_LEN got
  have h := @header_table seq (IN_HDR_LEN + (got.map Recv.len).sum) (table IN_HDR_LEN got)
    (got.flatMap Recv.bytes) (hlen ▸ hfew) (fun dp hdp => table_word hdp)
  rw [hlen] at h
  exact h

def inNtb (seq : UInt16) (got : List Recv) (hfew : got.length ≤ UNET_NTB_MAX_IN_DGRAMS)
    (hframes : ∀ r ∈ got, r ≠ .error ∧ r.len ≠ 0)
    (hfit : IN_HDR_LEN + (got.map Recv.len).sum ≤ 65535) : Ntb16 where
  block := written seq got
  table := table IN_HDR_LEN got
  signature := header_signature _
  header := header_headerLength _
  length := by
    rw [written_length hfew fun r hr => (hframes r hr).1]
    exact header_blockLength _ (by omega)
  dpt_after := (header_dptIndex _).ge
  dpt_signature := by
    rw [written, header_dptIndex]
    exact (header_dpt _).1
  one_dpt := by
    rw [written, header_dptIndex]
    exact (header_dpt _).2
  few := by
    rw [table_length]
    exact le_trans hfew (by decide)
  room := by
    rw [written, header_dptLength _ (by rwa [table_length]), Nat.mul_comm DP_SIZE]
  table_fits := by
    rw [written_length hfew fun r hr => (hframes r hr).1, written, header_dptIndex,
      header_dptLength _ (by rwa [table_length]), table_length]
    unfold UNET_NTB_MAX_IN_DGRAMS at hfew
    unfold IN_HDR_LEN HDR_SIZE DPT_SIZE DP_SIZE UNET_NTB_MAX_IN_DGRAMS
    omega
  named := by
    rw [table_length]
    exact (written_pointers hfew).1
  ended := by
    rw [table_length]
    exact (written_pointers hfew).2
  inside := by
    intro dp hdp
    have hin := table_inside (by omega) (fun r hr => (hframes r hr).2) hdp
    rw [written_length hfew fun r hr => (hframes r hr).1]
    refine ⟨?_, hin.2.1, hin.2.2⟩
    have hpos : 0 < IN_HDR_LEN := by decide
    omega

lemma delivered_iff {limit : Nat} (hfew : got.length ≤ UNET_NTB_MAX_IN_DGRAMS)
    (hframes : ∀ r ∈ got, r ≠ .error ∧ r.len ≠ 0) :
    Delivered limit (got.map Recv.bytes) (written seq got) ↔ Regular limit got := by
  have hok : ∀ r ∈ got, r ≠ .error := fun r hr => (hframes r hr).1
  have hlen : (written seq got).length = IN_HDR_LEN + (got.map Recv.len).sum := written_length hfew hok
  constructor
  · rintro ⟨⟨b, hblock, hdata, halign⟩, _, hwithin⟩
    have hcount : b.table.length = got.length := by
      have h := congrArg List.length hdata
      rwa [Ntb16.datagrams, length_map, length_map] at h
    have htable : b.table = table IN_HDR_LEN got := by
      rw [← b.named, hcount, hblock]
      exact (written_pointers hfew).1
    rw [htable] at halign
    rw [hlen] at hwithin
    exact ⟨hok, (table_aligned_iff (by decide)).mp halign, hwithin⟩
  · rintro ⟨_, halign, hlimit, hfit⟩
    have hdata : (inNtb seq got hfew hframes hfit).datagrams = got.map Recv.bytes := by
      have h := @table_frames got
        (inHeader seq (IN_HDR_LEN + (got.map Recv.len).sum) (table IN_HDR_LEN got))
        (by rw [inHeader_length (by rwa [table_length])]; omega) hok
      rw [inHeader_length (by rwa [table_length])] at h
      exact h
    have hdecode := decode_blocks [inNtb seq got hfew hframes hfit]
    rw [flatMap_singleton, flatMap_singleton, hdata] at hdecode
    refine ⟨⟨inNtb seq got hfew hframes hfit, rfl, hdata, ?_⟩, hdecode, ?_⟩
    · exact (table_aligned_iff (by decide)).mpr halign
    · rw [hlen]
      exact ⟨hlimit, hfit⟩

end

lemma Receiving.written (hd : (addrs iov).Nodup) (hs : Receiving iov s)
    (hfew : s.got.length ≤ UNET_NTB_MAX_IN_DGRAMS) (seq : UInt16) :
    (gather (scatter s.m iov (inHeader seq s.total s.dps)) iov).take s.total = Ncm.written seq s.got := by
  obtain ⟨room, hroom, hbytes⟩ := hs.bytes
  have hhdr : (inHeader seq s.total s.dps).length = IN_HDR_LEN := by
    apply inHeader_length
    rw [hs.dps, table_length]
    exact hfew
  have htotal := hs.total
  have hfits := hs.fits
  have hflat : ((gather s.m iov).drop IN_HDR_LEN).take (s.total - IN_HDR_LEN) =
      s.got.flatMap Recv.bytes := by
    rw [← drop_take, hbytes, drop_left' hroom]
  rw [gather_scatter hd (by omega), take_append, take_of_length_le (by omega), hhdr, hflat,
    Ncm.written, hs.dps, hs.total]

lemma countIov_inVectors (xfer : DataXfer) :
    countIov (inVectors xfer) = ((inBlocks xfer).map fun i => (xfer.data i).blen).sum := by
  rw [countIov, inVectors, map_map]
  rfl

lemma countIov_inVectors_lt (hndata : xfer.ndata ≤ USB_MAX_XFER_BLOCKS)
    (hblen : ∀ i, (xfer.data i).blen < 2 ^ 32) : countIov (inVectors xfer) < 2 ^ 63 := by
  have hlen : (inBlocks xfer).length ≤ 8 := by
    refine le_trans (length_filter_le _ _) ?_
    rw [DataXfer.indices, length_map, length_range]
    exact hndata
  have hsum : ((inBlocks xfer).map fun i => (xfer.data i).blen).sum ≤
      (inBlocks xfer).length * 2 ^ 32 := by
    have h := sum_le_card_nsmul ((inBlocks xfer).map fun i => (xfer.data i).blen) (2 ^ 32) ?_
    · rwa [length_map, smul_eq_mul] at h
    intro x hx
    obtain ⟨i, _, rfl⟩ := mem_map.mp hx
    exact le_of_lt (hblen i)
  rw [countIov_inVectors]
  omega

lemma data_cases {sc sc' : UnetSoftc} {m m' : Store} {xfer' : DataXfer}
    {err : UsbErr} {got : List Recv}
    (h : unetProcessBulkIn be sc m xfer = .data err xfer' m' sc' got) :
    ∃ s, s = recvLoop be (min sc.ntbInputSize (countIov (inVectors xfer))) UNET_NTB_MAX_IN_DGRAMS
        ⟨m, iovTrim (inVectors xfer) IN_HDR_LEN, IN_HDR_LEN, [], []⟩ ∧
      IN_HDR_LEN ≤ countIov (inVectors xfer) ∧ got = s.got ∧
      xfer' = (retireIn (inBlocks xfer) xfer s.total).1 ∧
      m' = scatter s.m (inVectors xfer) (inHeader sc.seq s.total s.dps) := by
  unfold unetProcessBulkIn at h
  cases hc : collectIn xfer.indices xfer with
  | none =>
    rw [hc] at h
    cases h
  | some =>
    obtain ⟨hvec, hidx⟩ := inVectors_eq hc
    rw [hc] at h
    dsimp only at h
    rw [hvec, hidx] at h
    split_ifs at h with h1 h2 h3
    all_goals
      cases h
      refine ⟨_, rfl, ?_, rfl, rfl, rfl⟩
      exact le_countIov_of_iovTrim (by simpa using h2)

def Backend.ofList (rs : List Recv) : Backend where
  recv i room := match rs[i]? with
    | some (.frame bs) => if bs.length ≤ room then .frame bs else .frame []
    | some .error => .error
    | none => .frame []
  fits := by
    intro i room bs h
    split at h
    · split_ifs at h with hfit
      · cases h
        exact hfit
      · cases h
        exact Nat.zero_le _
    · cases h
    · cases h
      exact Nat.zero_le _

def oneBlock (blen : Nat) : DataXfer where
  data := fun _ => { buf := some 4096, blen := blen }
  ndata := 1

/-- A block whose second part lies over its header. -/
def overlapping : DataXfer where
  data := fun i => { buf := some 4096, blen := if i = 0 then 60 else 4000 }
  ndata := 2

end ScorpiHv.Usb.Ncm

import ScorpiHv.Vhost.Message

/-!
# Message framing

What was sent is what repeated `vhost_user_recv_msg` calls return, however the
kernel cuts the stream, as long as no hang-up is reported inside a message.
-/

namespace ScorpiHv.Vhost
open Bytes Sock List

lemma sendLoop_ok {bs : List UInt8} {fds : List Nat} {script : List Reply} {off : Nat}
    {out s : Stream} (hle : off ≤ bs.length) (h : sendLoop bs fds script off out = (.ok (), s)) :
    s = out ++ attach (if off = 0 then fds else []) (bs.drop off) := by
  induction script generalizing off out with
  | nil =>
    unfold sendLoop at h
    split_ifs at h with hlt
    · cases h
    cases h
    rw [drop_eq_nil_of_le (Nat.not_lt.mp hlt)]
    exact (append_nil _).symm
  | cons r script ih =>
    unfold sendLoop at h
    split at h
    · cases r with
      | intr => exact ih hle h
      | again => cases h
      | fail => cases h
      | count n =>
        change (if min n (bs.length - off) = 0 then _ else _) = _ at h
        split at h
        · cases h
        rename_i hz
        generalize hrc : min n (bs.length - off) = rc at h hz
        have hne : ((bs.drop off).take rc) ≠ [] := by
          refine ne_nil_of_length_pos ?_
          rw [length_take, length_drop]
          omega
        have hout := ih (by omega) h
        rwa [if_neg (show ¬off + rc = 0 by omega), Sock.attach_nil, append_assoc,
          ← attach_append _ _ hne, ← drop_drop, take_append_drop] at hout
    · rename_i hlt
      cases h
      rw [drop_eq_nil_of_le (Nat.not_lt.mp hlt)]
      exact (append_nil _).symm

lemma header_enc_length (h : Header) : h.enc.length = SCORPI_VHOST_HEADER_SIZE := by rfl

structure Accepted (m : Msg) (fds : List Nat) : Prop where
  headerSize : m.header.headerSize.toNat = SCORPI_VHOST_HEADER_SIZE
  size : m.header.size.toNat ≤ PAYLOAD_SIZE
  fds : fds.length ≤ VHOST_USER_MAX_FDS

variable {s : Stream} {m : Msg}

lemma sendMsg_ok {script : List Reply} {fds : List Nat}
    (h : vhostUserSendMsg script m fds = (.ok (), s)) : Accepted m fds ∧ s = attach fds m.wire := by
  unfold vhostUserSendMsg at h
  split_ifs at h with hbad
  · cases h
  rw [not_or, not_not, Nat.not_lt] at hbad
  unfold vhostUserSendFds at h
  split_ifs at h with hfds
  · cases h
  have hs := sendLoop_ok (Nat.zero_le _) h
  exact ⟨⟨hbad.1, hbad.2, Nat.not_lt.mp hfds⟩, hs⟩

lemma readExact_calm {script : List Reply} (s : Stream) (buf : Store) (off len : Nat) (hcalm : Calm script)
    (hlen : len ≤ s.length) (hcount : len ≤ counts script) : ∃ script',
    readExact script s buf off len = (.ok (), ⟨script', s.drop len, put buf off (bytes (s.take len))⟩) ∧
    Calm script' ∧ counts script ≤ counts script' + len := by
  induction script generalizing s buf off len with
  | nil =>
    obtain rfl : len = 0 := Nat.le_zero.mp hcount
    exact ⟨[], by rw [readExact]; simp [bytes], hcalm, Nat.le_refl _⟩
  | cons r script ih =>
    cases len with
    | zero => exact ⟨r :: script, by rw [readExact]; simp [bytes], hcalm, Nat.le_refl _⟩
    | succ len =>
      rcases Reply.calm_cases (hcalm r mem_cons_self) with rfl | rfl | ⟨n, rfl⟩
      · exact ih s buf off (len + 1) hcalm.tail hlen hcount
      · exact ih s buf off (len + 1) hcalm.tail hlen hcount
      have hne : s ≠ [] := ne_nil_of_length_pos (by omega)
      have hpos := delivered_pos n (len + 1) s
      have hle := delivered_le (n := n) s (Nat.succ_pos len)
      rw [readExact, if_neg hne]
      generalize delivered n (len + 1) s = rc at hpos hle
      have hc : len ≤ counts script := Nat.le_of_succ_le_succ hcount
      obtain ⟨script', heq, hcalm', hcount'⟩ := ih (s.drop rc) (put buf off (bytes (s.take rc)))
        (off + rc) (len + 1 - rc) hcalm.tail (by rw [length_drop]; omega) (by omega)
      refine ⟨script', ?_, hcalm', ?_⟩
      · have hrc : off + rc = off + (bytes (s.take rc)).length := by
          unfold bytes
          rw [length_map, length_take, Nat.min_eq_left (by omega)]
        have hbytes : bytes (s.take rc) ++ bytes ((s.drop rc).take (len + 1 - rc)) =
            bytes (s.take (len + 1)) := by
          unfold bytes
          rw [← map_append, ← take_add, Nat.add_sub_cancel' hle]
        rw [heq, drop_drop, Nat.add_sub_cancel' hle, hrc, put_append, hbytes]
      · change counts script + 1 ≤ _
        omega

lemma recvFds_calm {script : List Reply} {c : Cell} {len : Nat} (buf : Store)
    (hcalm : Calm script) (hlen : 0 < len) (hcount : 0 < counts script)
    (hfds : c.fds.length ≤ VHOST_USER_MAX_FDS) : ∃ script', Calm script' ∧
      ((vhostUserRecvFds script (c :: s) buf len VHOST_USER_MAX_FDS =
          (.error .again, ⟨script', c :: s, buf⟩) ∧ script'.length < script.length ∧
          counts script' = counts script) ∨
        ∃ rc, 0 < rc ∧ rc ≤ len ∧ counts script = counts script' + 1 ∧
          vhostUserRecvFds script (c :: s) buf len VHOST_USER_MAX_FDS =
            (.ok (rc, c.fds), ⟨script', (c :: s).drop rc, put buf 0 (bytes ((c :: s).take rc))⟩)) := by
  induction script with
  | nil => exact absurd hcount (Nat.lt_irrefl 0)
  | cons r script ih =>
    rcases Reply.calm_cases (hcalm r mem_cons_self) with rfl | rfl | ⟨n, rfl⟩
    · obtain ⟨script', hcalm', hcase⟩ := ih hcalm.tail hcount
      refine ⟨script', hcalm', ?_⟩
      rcases hcase with ⟨heq, hlt, hc⟩ | hok
      · exact .inl ⟨heq, Nat.lt_succ_of_lt hlt, hc⟩
      · exact .inr hok
    · exact ⟨script, hcalm.tail, .inl ⟨rfl, Nat.lt_succ_self _, rfl⟩⟩
    · refine ⟨script, hcalm.tail, .inr ⟨delivered n len (c :: s), delivered_pos _ _ _,
        delivered_le _ hlen, rfl, ?_⟩⟩
      rw [vhostUserRecvFds, if_neg (Nat.not_lt.mpr hfds), take_of_length_le hfds]

lemma recvMsg_header {script : List Reply} {c : Cell} (buf : Store)
    (hcalm : Calm script) (hlen : SCORPI_VHOST_HEADER_SIZE ≤ (c :: s).length)
    (hcount : SCORPI_VHOST_HEADER_SIZE ≤ counts script) (hfds : c.fds.length ≤ VHOST_USER_MAX_FDS) :
    ∃ script', Calm script' ∧ ((vhostUserRecvMsg VHOST_USER_MAX_FDS ⟨script, c :: s, buf⟩ =
          (.error .again, ⟨script', c :: s, cleared buf⟩) ∧ script'.length < script.length ∧
          counts script' = counts script) ∨
        (vhostUserRecvMsg VHOST_USER_MAX_FDS ⟨script, c :: s, buf⟩ =
          recvPayload c.fds ⟨script', (c :: s).drop SCORPI_VHOST_HEADER_SIZE,
            put (cleared buf) 0 (bytes ((c :: s).take SCORPI_VHOST_HEADER_SIZE))⟩ ∧
          counts script ≤ counts script' + SCORPI_VHOST_HEADER_SIZE)) := by
  have hpos : 0 < SCORPI_VHOST_HEADER_SIZE := by decide
  obtain ⟨script', hcalm', hcase⟩ := recvFds_calm (s := s) (cleared buf) hcalm hpos
    (hpos.trans_le hcount) hfds
  unfold vhostUserRecvMsg
  rw [if_neg (Nat.lt_irrefl _)]
  rcases hcase with ⟨heq, hlt, hc⟩ | ⟨rc, hrc, hrcle, hc, heq⟩
  · refine ⟨script', hcalm', .inl ⟨?_, hlt, hc⟩⟩
    rw [heq]
  obtain ⟨rc, rfl⟩ := Nat.exists_eq_succ_of_ne_zero hrc.ne'
  generalize c :: s = t at *
  obtain ⟨script'', hread, hcalm'', hcount''⟩ := readExact_calm (t.drop (rc + 1))
    (put (cleared buf) 0 (bytes (t.take (rc + 1)))) (rc + 1)
    (SCORPI_VHOST_HEADER_SIZE - (rc + 1)) hcalm' (by rw [length_drop]; omega) (by omega)
  refine ⟨script'', hcalm'', .inr ⟨?_, by omega⟩⟩
  rw [heq]
  change recvHeader (rc + 1) c.fds _ = _
  unfold recvHeader
  rw [hread]
  have hn : rc + 1 = 0 + (bytes (t.take (rc + 1))).length := by
    unfold bytes
    rw [length_map, length_take, Nat.min_eq_left (by omega), Nat.zero_add]
  have hbytes : bytes (t.take (rc + 1)) ++
      bytes ((t.drop (rc + 1)).take (SCORPI_VHOST_HEADER_SIZE - (rc + 1))) =
      bytes (t.take SCORPI_VHOST_HEADER_SIZE) := by
    unfold bytes
    rw [← map_append, ← take_add, Nat.add_sub_cancel' hrcle]
  have hput := put_append (cleared buf) 0 (bytes (t.take (rc + 1)))
    (bytes ((t.drop (rc + 1)).take (SCORPI_VHOST_HEADER_SIZE - (rc + 1))))
  rw [← hn, hbytes] at hput
  rw [hput, drop_drop, Nat.add_sub_cancel' hrcle]

lemma field_here {n v : Nat} (bs : List UInt8) (h : v < 256 ^ n) : field (leEnc n v ++ bs) 0 n = v := by
  unfold field
  rw [drop_zero, take_left' (leEnc_length n v), leDec_leEnc h]

lemma field_skip (k v : Nat) (bs : List UInt8) (off n : Nat) :
    field (leEnc k v ++ bs) (k + off) n = field bs off n := by
  unfold field
  rw [← drop_drop, drop_left' (leEnc_length k v)]

lemma header_dec_enc (h : Header) : Header.dec h.enc = h := by
  have hmagic : field h.enc 0 4 = h.magic.toNat := field_here _ h.magic.toNat_lt
  have hversion : field h.enc 4 2 = h.version.toNat :=
    (field_skip 4 _ _ 0 2).trans (field_here _ h.version.toNat_lt)
  have hheader : field h.enc 6 2 = h.headerSize.toNat :=
    (field_skip 4 _ _ 2 2).trans <| (field_skip 2 _ _ 0 2).trans (field_here _ h.headerSize.toNat_lt)
  have hrequest : field h.enc 8 4 = h.request.toNat :=
    (field_skip 4 _ _ 4 4).trans <| (field_skip 2 _ _ 2 4).trans <|
      (field_skip 2 _ _ 0 4).trans (field_here _ h.request.toNat_lt)
  have hflags : field h.enc 12 4 = h.flags.toNat :=
    (field_skip 4 _ _ 8 4).trans <| (field_skip 2 _ _ 6 4).trans <|
      (field_skip 2 _ _ 4 4).trans <| (field_skip 4 _ _ 0 4).trans (field_here _ h.flags.toNat_lt)
  have hsize : field h.enc 16 4 = h.size.toNat :=
    (field_skip 4 _ _ 12 4).trans <| (field_skip 2 _ _ 10 4).trans <|
      (field_skip 2 _ _ 8 4).trans <| (field_skip 4 _ _ 4 4).trans <|
        (field_skip 4 _ _ 0 4).trans (field_here _ h.size.toNat_lt)
  have hpadding : field h.enc 20 4 = h.padding.toNat := by
    refine (field_skip 4 _ _ 16 4).trans <| (field_skip 2 _ _ 14 4).trans <|
      (field_skip 2 _ _ 12 4).trans <| (field_skip 4 _ _ 8 4).trans <|
        (field_skip 4 _ _ 4 4).trans <| (field_skip 4 _ _ 0 4).trans ?_
    exact field_here [] h.padding.toNat_lt
  unfold Header.dec
  rw [hmagic, hversion, hheader, hrequest, hflags, hsize, hpadding]
  simp only [UInt32.ofNat_toNat, UInt16.ofNat_toNat]

lemma wire_length (h : m.header.size.toNat ≤ PAYLOAD_SIZE) :
    m.wire.length = SCORPI_VHOST_HEADER_SIZE + m.header.size.toNat := by
  unfold Msg.wire
  rw [length_append, header_enc_length, length_take, m.sized, Nat.min_eq_left h]

lemma header_load_put (buf : Store) (h : Header) (bs : List UInt8) :
    Header.load (put buf 0 (h.enc ++ bs)) = h := by
  have hget := get_put_same buf 0 (h.enc ++ bs)
  rw [length_append, get_append] at hget
  have henc := append_inj_left hget (get_length _ _ _)
  rw [header_enc_length] at henc
  unfold Header.load
  rw [henc, header_dec_enc]

lemma msg_load_put (buf : Store) (h : m.header.size.toNat ≤ PAYLOAD_SIZE) :
    Msg.load (put (cleared buf) 0 m.wire) = m.trim := by
  have hlen := wire_length h
  have hsum : m.header.size.toNat + (PAYLOAD_SIZE - m.header.size.toNat) = PAYLOAD_SIZE :=
    Nat.add_sub_cancel' h
  have hpay : get (put (cleared buf) 0 m.wire) SCORPI_VHOST_HEADER_SIZE m.header.size.toNat =
      m.payload.take m.header.size.toNat := by
    have hget := get_put_same (cleared buf) 0 m.wire
    rw [hlen, get_append] at hget
    have hinj := append_inj_right hget ((get_length _ _ _).trans (header_enc_length m.header).symm)
    rwa [Nat.zero_add] at hinj
  have hzero : get (put (cleared buf) 0 m.wire) (SCORPI_VHOST_HEADER_SIZE + m.header.size.toNat)
      (PAYLOAD_SIZE - m.header.size.toNat) =
      List.replicate (PAYLOAD_SIZE - m.header.size.toNat) 0 := by
    rw [get_put_disjoint (.inr (by omega)), ← get_replicate_zero]
    refine map_congr_left fun i hi => ?_
    have hi := mem_range.mp hi
    unfold cleared
    rw [put_at (Nat.zero_le _) (by rw [length_replicate]; omega)]
    exact getD_replicate _ (by omega)
  have hload := get_append (put (cleared buf) 0 m.wire) SCORPI_VHOST_HEADER_SIZE
    m.header.size.toNat (PAYLOAD_SIZE - m.header.size.toNat)
  rw [hsum, hpay, hzero] at hload
  refine Msg.ext (header_load_put _ _ _) ?_
  dsimp only [Msg.load, Msg.trim]
  exact hload

lemma Header.WellFormed.size {h : Header} (hwf : h.wellFormed = true) : h.size.toNat ≤ PAYLOAD_SIZE := by
  exact (of_decide_eq_true hwf).2.2.2

lemma recvPayload_calm {script : List Reply} {rest : Stream} (fds : List Nat)
    (buf : Store) (hwf : m.header.wellFormed = true) (hcalm : Calm script)
    (hcount : m.header.size.toNat ≤ counts script) :
    ∃ script', Calm script' ∧ counts script ≤ counts script' + m.header.size.toNat ∧
      ∃ buf', recvPayload fds ⟨script, plain (m.payload.take m.header.size.toNat) ++ rest,
            put (cleared buf) 0 m.header.enc⟩ =
        (.ok (some (m.trim, fds)), ⟨script', rest, buf'⟩) := by
  have hsize := Header.WellFormed.size hwf
  have hplen : (plain (m.payload.take m.header.size.toNat)).length = m.header.size.toNat := by
    rw [plain_length, length_take, m.sized, Nat.min_eq_left hsize]
  have hhdr : Header.load (put (cleared buf) 0 m.header.enc) = m.header := by
    have h := header_load_put (cleared buf) m.header []
    rwa [append_nil] at h
  obtain ⟨script', hread, hcalm', hcount'⟩ := readExact_calm
    (plain (m.payload.take m.header.size.toNat) ++ rest) (put (cleared buf) 0 m.header.enc)
    SCORPI_VHOST_HEADER_SIZE m.header.size.toNat hcalm (by rw [length_append]; omega) hcount
  refine ⟨script', hcalm', hcount', put (cleared buf) 0 m.wire, ?_⟩
  rw [drop_left' hplen, take_left' hplen, bytes_plain] at hread
  have hput := put_append (cleared buf) 0 m.header.enc (m.payload.take m.header.size.toNat)
  rw [header_enc_length, Nat.zero_add] at hput
  rw [hput] at hread
  unfold recvPayload
  dsimp only
  rw [hhdr, hwf, Bool.not_true, if_neg Bool.false_ne_true, hread]
  dsimp only
  rw [show put (cleared buf) 0 (m.header.enc ++ m.payload.take m.header.size.toNat) =
    put (cleared buf) 0 m.wire from rfl, msg_load_put buf hsize]

lemma bytes_take_length (s : Stream) (n : Nat) : (bytes (s.take n)).length ≤ n := by
  unfold bytes
  rw [length_map, length_take]
  omega

lemma readExact_outside (script : List Reply) (s : Stream) (buf : Store) (off len : Nat) {i : Nat}
    (hi : i < off ∨ off + len ≤ i) : (readExact script s buf off len).2.buf i = buf i := by
  induction script generalizing s buf off len with
  | nil => cases len <;> rfl
  | cons r script ih =>
    cases len with
    | zero => rw [readExact]
    | succ len =>
      cases r with
      | intr => exact ih s buf off (len + 1) hi
      | fail => rfl
      | again poll =>
        cases poll with
        | fail => rfl
        | ready hangup =>
          cases hangup with
          | true => rfl
          | false => exact ih s buf off (len + 1) hi
      | count n =>
        rw [readExact]
        by_cases hs : s = []
        · rw [if_pos hs]
        rw [if_neg hs]
        have hle : delivered n (len + 1) s ≤ len + 1 := delivered_le s (Nat.succ_pos len)
        have htake := bytes_take_length s (delivered n (len + 1) s)
        exact (ih _ _ _ _ (by omega)).trans (put_outside (by omega))

lemma recvFds_outside (script : List Reply) (s : Stream) (buf : Store) {len : Nat} (maxFds : Nat)
    (hpos : 0 < len) {i : Nat} (hi : len ≤ i) :
    (vhostUserRecvFds script s buf len maxFds).2.buf i = buf i := by
  induction script with
  | nil => rfl
  | cons r script ih =>
    cases r with
    | intr => exact ih
    | again => rfl
    | fail => rfl
    | count n =>
      cases s with
      | nil => rfl
      | cons c s =>
        have hle := delivered_le (n := n) (c :: s) hpos
        have htake := bytes_take_length (c :: s) (delivered n len (c :: s))
        have hput : put buf 0 (bytes ((c :: s).take (delivered n len (c :: s)))) i = buf i :=
          put_outside (.inr (by omega))
        rw [vhostUserRecvFds]
        split
        · exact hput
        · exact hput

/-- What a receiving function may do: it stays inside the message buffer, and a message it
returns has a valid header. -/
structure Contained (buf : Store) (res : Received × Rx) : Prop where
  inside : ∀ i, SCORPI_VHOST_HEADER_SIZE + PAYLOAD_SIZE ≤ i → res.2.buf i = buf i
  valid : ∀ m fds, res.1 = .ok (some (m, fds)) → m.header.wellFormed = true

lemma recvPayload_contained (fds : List Nat) (rx : Rx) : Contained rx.buf (recvPayload fds rx) := by
  unfold recvPayload
  dsimp only
  by_cases hwf : (Header.load rx.buf).wellFormed = true
  · rw [hwf, Bool.not_true, if_neg Bool.false_ne_true]
    have hsize := Header.WellFormed.size hwf
    have hout := @readExact_outside rx.script rx.stream rx.buf SCORPI_VHOST_HEADER_SIZE
      (Header.load rx.buf).size.toNat
    generalize readExact rx.script rx.stream rx.buf SCORPI_VHOST_HEADER_SIZE
      (Header.load rx.buf).size.toNat = res at hout
    have hinside : ∀ i, SCORPI_VHOST_HEADER_SIZE + PAYLOAD_SIZE ≤ i → res.2.buf i = rx.buf i :=
      fun i hi => hout (.inr (by omega))
    have hheader : Header.load res.2.buf = Header.load rx.buf := by
      unfold Header.load
      rw [get_congr fun i _ hi => hout (.inl (by omega))]
    rcases res with ⟨_ | e | _, rx'⟩
    · refine ⟨hinside, ?_⟩
      intro m fds' heq
      cases heq
      exact (congrArg Header.wellFormed hheader).trans hwf
    · exact ⟨hinside, fun _ _ h => by cases h⟩
    · exact ⟨hinside, fun _ _ h => by cases h⟩
  · rw [Bool.not_eq_true] at hwf
    rw [hwf, Bool.not_false, if_pos rfl]
    exact ⟨fun _ _ => rfl, fun _ _ h => by cases h⟩

lemma Contained.of_eq {buf buf' : Store} {res : Received × Rx} (h : Contained buf' res)
    (heq : ∀ i, SCORPI_VHOST_HEADER_SIZE + PAYLOAD_SIZE ≤ i → buf' i = buf i) : Contained buf res :=
  ⟨fun i hi => (h.inside i hi).trans (heq i hi), h.valid⟩

lemma recvHeader_contained {rc : Nat} (fds : List Nat) (rx : Rx)
    (hrc : rc ≤ SCORPI_VHOST_HEADER_SIZE) : Contained rx.buf (recvHeader rc fds rx) := by
  unfold recvHeader
  have hout := @readExact_outside rx.script rx.stream rx.buf rc (SCORPI_VHOST_HEADER_SIZE - rc)
  generalize readExact rx.script rx.stream rx.buf rc (SCORPI_VHOST_HEADER_SIZE - rc) = res at hout
  have hinside : ∀ i, SCORPI_VHOST_HEADER_SIZE + PAYLOAD_SIZE ≤ i → res.2.buf i = rx.buf i :=
    fun i hi => hout (.inr (by omega))
  rcases res with ⟨_ | e | _, rx'⟩
  · exact (recvPayload_contained fds rx').of_eq hinside
  · exact ⟨hinside, fun _ _ h => by cases h⟩
  · exact ⟨hinside, fun _ _ h => by cases h⟩

lemma recvFds_le {script : List Reply} {buf : Store} {len maxFds rc : Nat} {fds : List Nat} {rx : Rx}
    (hpos : 0 < len) (h : vhostUserRecvFds script s buf len maxFds = (.ok (rc, fds), rx)) : rc ≤ len := by
  induction script with
  | nil => cases h
  | cons r script ih =>
    cases r with
    | intr => exact ih h
    | again => cases h
    | fail => cases h
    | count =>
      cases s with
      | nil =>
        cases h
        exact Nat.zero_le len
      | cons =>
        rw [vhostUserRecvFds] at h
        split at h
        · cases h
        · cases h
          exact delivered_le _ hpos

lemma recvMsg_contained (maxFds : Nat) (rx : Rx) : Contained rx.buf (vhostUserRecvMsg maxFds rx) := by
  have hclear : ∀ i, SCORPI_VHOST_HEADER_SIZE + PAYLOAD_SIZE ≤ i → cleared rx.buf i = rx.buf i :=
    fun i hi => put_outside (.inr (by rw [length_replicate]; omega))
  unfold vhostUserRecvMsg
  split
  · refine ⟨fun i hi => ?_, fun _ _ h => by cases h⟩
    dsimp only
    exact hclear i hi
  have hpos : 0 < SCORPI_VHOST_HEADER_SIZE := by decide
  have hinside : ∀ i, SCORPI_VHOST_HEADER_SIZE + PAYLOAD_SIZE ≤ i →
      (vhostUserRecvFds rx.script rx.stream (cleared rx.buf) SCORPI_VHOST_HEADER_SIZE maxFds).2.buf i =
        rx.buf i :=
    fun i hi => (recvFds_outside _ _ _ maxFds hpos (by omega)).trans (hclear i hi)
  cases hres : vhostUserRecvFds rx.script rx.stream (cleared rx.buf) SCORPI_VHOST_HEADER_SIZE maxFds with
  | mk ret rx' =>
    rw [hres] at hinside
    cases ret with
    | ok got =>
      obtain ⟨rc, fds⟩ := got
      cases rc with
      | zero => exact ⟨hinside, fun _ _ h => by cases h⟩
      | succ => exact (recvHeader_contained fds rx' (recvFds_le hpos hres)).of_eq hinside
    | error | blocked => exact ⟨hinside, fun _ _ h => by cases h⟩

def recvCalls : Nat → Rx → List Received × Rx
  | 0, rx => ([], rx)
  | n + 1, rx =>
    let call := vhostUserRecvMsg VHOST_USER_MAX_FDS rx
    let rest := recvCalls n call.2
    (call.1 :: rest.1, rest.2)

lemma recvCalls_add {a b : Nat} {rx rx₁ rx₂ : Rx} {rs rs' : List Received} (h : recvCalls a rx = (rs, rx₁))
    (h' : recvCalls b rx₁ = (rs', rx₂)) : recvCalls (a + b) rx = (rs ++ rs', rx₂) := by
  induction a generalizing rx rs with
  | zero =>
    cases h
    rw [Nat.zero_add, h']
    rfl
  | succ a ih =>
    cases h
    rw [Nat.succ_add, recvCalls]
    rw [ih rfl, cons_append]

lemma retry {P : List Reply → Prop} {Q : Received × Rx → Prop} {s : Stream}
    (hcall : ∀ script buf, P script →
      (∃ script', P script' ∧ script'.length < script.length ∧
        vhostUserRecvMsg VHOST_USER_MAX_FDS ⟨script, s, buf⟩ =
          (.error .again, ⟨script', s, cleared buf⟩)) ∨
      Q (vhostUserRecvMsg VHOST_USER_MAX_FDS ⟨script, s, buf⟩))
    (script : List Reply) (buf : Store) (h : P script) :
    ∃ n res, Q res ∧ recvCalls (n + 1) ⟨script, s, buf⟩ =
      (List.replicate n (.error .again) ++ [res.1], res.2) := by
  induction hn : script.length using Nat.strong_induction_on generalizing script buf with
  | h len ih =>
    rcases hcall script buf h with ⟨script', hP, hlt, hagain⟩ | hQ
    · obtain ⟨n, res, hQ, heq⟩ := ih _ (hn ▸ hlt) script' (cleared buf) hP rfl
      refine ⟨n + 1, res, hQ, ?_⟩
      rw [recvCalls, hagain]
      rw [heq, replicate_succ, cons_append]
    · exact ⟨0, _, hQ, rfl⟩

lemma recv_message {fds : List Nat} (hfds : fds.length ≤ VHOST_USER_MAX_FDS)
    (hwf : m.header.wellFormed = true) (rest : Stream) (k : Nat) {script : List Reply} (buf : Store)
    (hcalm : Calm script) (hcount : m.wire.length + k ≤ counts script) :
    ∃ n script' buf', Calm script' ∧ k ≤ counts script' ∧
      recvCalls (n + 1) ⟨script, attach fds m.wire ++ rest, buf⟩ =
        (List.replicate n (.error .again) ++ [.ok (some (m.trim, fds))], ⟨script', rest, buf'⟩) := by
  have hwire := wire_length (Header.WellFormed.size hwf)
  have henc : m.header.enc ≠ [] := by
    refine ne_nil_of_length_pos ?_
    rw [header_enc_length]
    decide
  have hstream : attach fds m.wire ++ rest =
      attach fds m.header.enc ++ (plain (m.payload.take m.header.size.toNat) ++ rest) := by
    unfold Msg.wire
    rw [attach_append fds _ henc, append_assoc]
  obtain ⟨b, bs, hb⟩ := exists_cons_of_ne_nil henc
  have hcons : attach fds m.wire ++ rest =
      ⟨b, fds⟩ :: (plain bs ++ (plain (m.payload.take m.header.size.toNat) ++ rest)) := by
    rw [hstream, hb]
    rfl
  have hlen : (attach fds m.header.enc).length = SCORPI_VHOST_HEADER_SIZE := by
    rw [attach_length, header_enc_length]
  have hretry := retry (P := fun script => Calm script ∧ m.wire.length + k ≤ counts script)
    (Q := fun res => ∃ script' buf', Calm script' ∧ k ≤ counts script' ∧
      res = (.ok (some (m.trim, fds)), ⟨script', rest, buf'⟩))
    (s := attach fds m.wire ++ rest) ?_ script buf ⟨hcalm, hcount⟩
  · obtain ⟨n, res, ⟨script', buf', hcalm', hc, hres⟩, heq⟩ := hretry
    exact ⟨n, script', buf', hcalm', hc, by rw [heq, hres]⟩
  rintro script buf ⟨hcalm, hcount⟩
  obtain ⟨script', hcalm', ⟨hagain, hlt, hc⟩ | ⟨hgot, hc⟩⟩ := recvMsg_header buf hcalm
    (c := ⟨b, fds⟩) (s := plain bs ++ (plain (m.payload.take m.header.size.toNat) ++ rest))
    (by rw [← hcons, length_append, attach_length]; omega) (by omega) hfds
  · rw [← hcons] at hagain
    exact .inl ⟨script', ⟨hcalm', by omega⟩, hlt, hagain⟩
  rw [← hcons] at hgot
  rw [hgot, hstream, drop_left' hlen, take_left' hlen, bytes_attach]
  obtain ⟨script'', hcalm'', hc', buf', hpay⟩ := recvPayload_calm fds buf hwf hcalm' (by omega)
  exact .inr ⟨script'', buf', hcalm'', by omega, hpay⟩

lemma recvFds_end {script : List Reply} (buf : Store) (len maxFds : Nat) (hcalm : Calm script)
    (hcount : 0 < counts script) :
    (∃ script', (Calm script' ∧ 0 < counts script') ∧ script'.length < script.length ∧
      vhostUserRecvFds script [] buf len maxFds = (.error .again, ⟨script', [], buf⟩)) ∨
    ∃ rx, vhostUserRecvFds script [] buf len maxFds = (.ok (0, []), rx) := by
  induction script with
  | nil => exact absurd hcount (Nat.lt_irrefl 0)
  | cons r script ih =>
    rcases Reply.calm_cases (hcalm r mem_cons_self) with rfl | rfl | ⟨n, rfl⟩
    · rcases ih hcalm.tail hcount with ⟨script', hcalm', hlt, heq⟩ | hok
      · exact .inl ⟨script', hcalm', Nat.lt_succ_of_lt hlt, heq⟩
      · exact .inr hok
    · exact .inl ⟨script, ⟨hcalm.tail, hcount⟩, Nat.lt_succ_self _, rfl⟩
    · exact .inr ⟨_, rfl⟩

lemma recv_end {script : List Reply} (buf : Store) (hcalm : Calm script) (hcount : 0 < counts script) :
    ∃ n rx, recvCalls (n + 1) ⟨script, [], buf⟩ = (List.replicate n (.error .again) ++ [.ok none], rx) := by
  have hretry := retry (P := fun script => Calm script ∧ 0 < counts script)
    (Q := fun res => res.1 = .ok none) (s := []) ?_ script buf ⟨hcalm, hcount⟩
  · obtain ⟨n, res, hres, heq⟩ := hretry
    exact ⟨n, res.2, by rw [heq, hres]⟩
  rintro script buf ⟨hcalm, hcount⟩
  unfold vhostUserRecvMsg
  rw [if_neg (Nat.lt_irrefl _)]
  rcases recvFds_end (cleared buf) SCORPI_VHOST_HEADER_SIZE VHOST_USER_MAX_FDS hcalm hcount with
    ⟨script', hP, hlt, heq⟩ | ⟨rx, heq⟩
  · exact .inl ⟨script', hP, hlt, by rw [heq]⟩
  · exact .inr (by rw [heq]; rfl)

lemma recv_malformed {script : List Reply} {c : Cell} (buf : Store) (hcalm : Calm script)
    (hlen : SCORPI_VHOST_HEADER_SIZE ≤ (c :: s).length) (hcount : SCORPI_VHOST_HEADER_SIZE ≤ counts script)
    (hfds : c.fds.length ≤ VHOST_USER_MAX_FDS)
    (hbad : (Header.dec (bytes ((c :: s).take SCORPI_VHOST_HEADER_SIZE))).wellFormed = false) : ∃ n,
    (recvCalls (n + 1) ⟨script, c :: s, buf⟩).1 = List.replicate n (.error .again) ++ [.error .proto] := by
  have hretry := retry (P := fun script => Calm script ∧ SCORPI_VHOST_HEADER_SIZE ≤ counts script)
    (Q := fun res => res.1 = .error .proto) (s := c :: s) ?_ script buf ⟨hcalm, hcount⟩
  · obtain ⟨n, res, hres, heq⟩ := hretry
    exact ⟨n, by rw [heq, hres]⟩
  rintro script buf ⟨hcalm, hcount⟩
  obtain ⟨script', hcalm', ⟨hagain, hlt, hc⟩ | ⟨hgot, -⟩⟩ := recvMsg_header buf hcalm hlen hcount hfds
  · exact .inl ⟨script', ⟨hcalm', by omega⟩, hlt, hagain⟩
  right
  have hblen : (bytes ((c :: s).take SCORPI_VHOST_HEADER_SIZE)).length =
      SCORPI_VHOST_HEADER_SIZE := by
    unfold bytes
    rw [length_map, length_take, Nat.min_eq_left hlen]
  have hget := get_put_same (cleared buf) 0 (bytes ((c :: s).take SCORPI_VHOST_HEADER_SIZE))
  rw [hblen] at hget
  rw [hgot]
  unfold recvPayload Header.load
  dsimp only
  rw [hget, hbad, Bool.not_false, if_pos rfl]

lemma recv_hangup {n : Nat} (m : Msg) (fds : List Nat) (rest : Stream) (script : List Reply)
    (buf : Store) (hfds : fds.length ≤ VHOST_USER_MAX_FDS) (hpos : 0 < n)
    (hlt : n < SCORPI_VHOST_HEADER_SIZE) :
    (vhostUserRecvMsg VHOST_USER_MAX_FDS
      ⟨.count n :: .again (.ready true) :: script, attach fds m.wire ++ rest, buf⟩).1 =
      .error .connreset := by
  obtain ⟨b, bs, hb⟩ : ∃ b bs, m.wire = b :: bs := by
    refine exists_cons_of_ne_nil (ne_nil_of_length_pos ?_)
    unfold Msg.wire
    rw [length_append, header_enc_length]
    exact Nat.add_pos_left (by decide) _
  have hcons : attach fds m.wire ++ rest = ⟨b, fds⟩ :: (plain bs ++ rest) := by
    rw [hb]
    rfl
  have hle : delivered n SCORPI_VHOST_HEADER_SIZE (⟨b, fds⟩ :: (plain bs ++ rest)) ≤ n := by
    unfold delivered
    omega
  have hrc := delivered_pos n SCORPI_VHOST_HEADER_SIZE (⟨b, fds⟩ :: (plain bs ++ rest))
  unfold vhostUserRecvMsg
  rw [if_neg (Nat.lt_irrefl _), hcons, vhostUserRecvFds, if_neg (Nat.not_lt.mpr hfds)]
  generalize delivered n SCORPI_VHOST_HEADER_SIZE (⟨b, fds⟩ :: (plain bs ++ rest)) = rc at hle hrc
  obtain ⟨rc, rfl⟩ := Nat.exists_eq_succ_of_ne_zero hrc.ne'
  obtain ⟨k, hk⟩ : ∃ k, SCORPI_VHOST_HEADER_SIZE - (rc + 1) = k + 1 :=
    Nat.exists_eq_succ_of_ne_zero (by omega)
  change (recvHeader (rc + 1) _ _).1 = _
  unfold recvHeader
  rw [hk]
  rfl

structure Job where
  msg : Msg
  fds : List Nat
  script : List Reply

def Job.send (j : Job) : Ret Unit × Stream := vhostUserSendMsg j.script j.msg j.fds

def sendAll (jobs : List Job) : Stream := jobs.flatMap fun j => j.send.2

def accepted (jobs : List Job) : List Job := jobs.filter fun j => j.send.1 = .ok ()

def answers (rs : List Received) : List Received :=
  rs.filter fun r => decide (r ≠ .error .again)

lemma answers_retry (n : Nat) {r : Received} (h : r ≠ .error .again) :
    answers (List.replicate n (.error .again) ++ [r]) = [r] := by
  unfold answers
  rw [filter_append, filter_replicate_of_neg (by simp), nil_append]
  exact filter_cons_of_pos (decide_eq_true h)

lemma recv_sent (jobs : List Job) {script : List Reply} (buf : Store)
    (hspoken : ∀ j ∈ accepted jobs, j.msg.header.magic = SCORPI_VHOST_MAGIC ∧
      j.msg.header.version = SCORPI_VHOST_VERSION)
    (hwhole : ∀ j ∈ jobs, j.send.1 ≠ .ok () → j.send.2 = [])
    (hcalm : Calm script) (hcount : (sendAll jobs).length < counts script) :
    ∃ n, answers (recvCalls n ⟨script, sendAll jobs, buf⟩).1 =
      (accepted jobs).map (fun j => .ok (some (j.msg.trim, j.fds))) ++ [.ok none] := by
  induction jobs generalizing script buf with
  | nil =>
    obtain ⟨n, rx, heq⟩ := recv_end buf hcalm hcount
    refine ⟨n + 1, ?_⟩
    change answers (recvCalls (n + 1) ⟨script, [], buf⟩).1 = _
    rw [heq]
    exact answers_retry n fun h => by cases h
  | cons j jobs ih =>
    have hstream : sendAll (j :: jobs) = j.send.2 ++ sendAll jobs := flatMap_cons
    have hrest : ∀ j' ∈ jobs, j'.send.1 ≠ .ok () → j'.send.2 = [] :=
      fun j' hj => hwhole j' (mem_cons_of_mem j hj)
    by_cases hok : j.send.1 = .ok ()
    · have hacc : accepted (j :: jobs) = j :: accepted jobs := filter_cons_of_pos (by simpa)
      rw [hacc] at hspoken ⊢
      obtain ⟨hyes, hout⟩ : Accepted j.msg j.fds ∧ j.send.2 = attach j.fds j.msg.wire :=
        sendMsg_ok (Prod.ext hok rfl)
      obtain ⟨hmagic, hversion⟩ := hspoken j mem_cons_self
      have hwf : j.msg.header.wellFormed = true :=
        decide_eq_true ⟨hmagic, hversion, hyes.headerSize, hyes.size⟩
      rw [hstream, hout, length_append, attach_length] at hcount
      obtain ⟨n, script', buf', hcalm', hc, heq⟩ := recv_message hyes.fds hwf (sendAll jobs)
        ((sendAll jobs).length + 1) buf hcalm (by omega)
      obtain ⟨n', heq'⟩ := ih buf' (fun j' hj => hspoken j' (mem_cons_of_mem j hj)) hrest hcalm' hc
      refine ⟨n + 1 + n', ?_⟩
      rw [hstream, hout, recvCalls_add heq rfl]
      have hfirst := answers_retry n (r := .ok (some (j.msg.trim, j.fds))) fun h => by cases h
      have hboth := congrArg₂ (· ++ ·) hfirst heq'
      exact (filter_append _ _).trans hboth
    · have hacc : accepted (j :: jobs) = accepted jobs := filter_cons_of_neg (by simpa)
      have hout := hwhole j mem_cons_self hok
      rw [hstream, hout, nil_append] at hcount ⊢
      rw [hacc] at hspoken ⊢
      exact ih buf hspoken hrest hcalm hcount

/-- However the stream is cut, what comes out is what went in, if the messages are the protocol's,
none is left half sent and no hang-up falls inside one. Any stream is received within the message
buffer. -/
theorem framing_round_trip (jobs : List Job) (script : List Reply) (buf : Store)
    (hspoken : ∀ j ∈ accepted jobs, j.msg.header.magic = SCORPI_VHOST_MAGIC ∧
      j.msg.header.version = SCORPI_VHOST_VERSION)
    (hwhole : ∀ j ∈ jobs, j.send.1 ≠ .ok () → j.send.2 = [])
    (hcalm : Calm script) (hcount : (sendAll jobs).length < counts script) :
    (∃ n, answers (recvCalls n ⟨script, sendAll jobs, buf⟩).1 =
      (accepted jobs).map (fun j => .ok (some (j.msg.trim, j.fds))) ++ [.ok none]) ∧
    (∀ maxFds rx, Contained rx.buf (vhostUserRecvMsg maxFds rx)) ∧
    (∀ script c s buf, Calm script → SCORPI_VHOST_HEADER_SIZE ≤ (c :: s).length →
      SCORPI_VHOST_HEADER_SIZE ≤ counts script → c.fds.length ≤ VHOST_USER_MAX_FDS →
      (Header.dec (bytes ((c :: s).take SCORPI_VHOST_HEADER_SIZE))).wellFormed = false →
      ∃ n, answers (recvCalls n ⟨script, c :: s, buf⟩).1 = [.error .proto]) ∧
    (∀ n (m : Msg) fds rest script buf, fds.length ≤ VHOST_USER_MAX_FDS → 0 < n →
      n < SCORPI_VHOST_HEADER_SIZE → (vhostUserRecvMsg VHOST_USER_MAX_FDS
        ⟨.count n :: .again (.ready true) :: script, attach fds m.wire ++ rest, buf⟩).1 =
        .error .connreset) := by
  refine ⟨recv_sent jobs buf hspoken hwhole hcalm hcount, recvMsg_contained, ?_, ?_⟩
  · intro script c s buf hcalm hlen hcount hfds hbad
    obtain ⟨n, heq⟩ := recv_malformed buf hcalm hlen hcount hfds hbad
    exact ⟨n + 1, by rw [heq]; exact answers_retry n fun h => by cases h⟩
  · intro n m fds rest script buf hfds hpos hlt
    exact recv_hangup m fds rest script buf hfds hpos hlt

private def queueCall : Msg where
  header := { request := 17, size := 8 }
  payload := leEnc 8 3 ++ List.replicate (PAYLOAD_SIZE - 8) 0
  sized := by
    rw [length_append, leEnc_length, length_replicate]
    decide

private def oddMagic : Msg := { queueCall with header := { queueCall.header with magic := 0 } }

private def inPieces : List Reply :=
  .count 7 :: .again (.ready false) :: .intr :: List.replicate 40 (.count 9)

private def callJob : Job := ⟨queueCall, [5, 6], [.count 3, .intr, .count 99]⟩

theorem framing_round_trip_pieces :
    ∃ n, answers (recvCalls n ⟨inPieces, sendAll [callJob], blank⟩).1 =
      [.ok (some (queueCall.trim, [5, 6])), .ok none] := by
  have hspoken : ∀ j ∈ accepted [callJob], j.msg.header.magic = SCORPI_VHOST_MAGIC ∧
      j.msg.header.version = SCORPI_VHOST_VERSION := by
    decide +kernel
  obtain ⟨h, -⟩ := framing_round_trip [callJob] inPieces blank hspoken (by decide +kernel)
    (by decide +kernel) (by decide +kernel)
  exact h

/-- The whole message has arrived when the peer hangs up, and is dropped. A message that is
sent with another magic is not accepted. -/
theorem hangup_drops_message :
    (Job.send ⟨queueCall, [], [.count 32]⟩).1 = .ok () ∧
    (Job.send ⟨queueCall, [], [.count 32]⟩).2 = plain queueCall.wire ∧
    (vhostUserRecvMsg VHOST_USER_MAX_FDS
      ⟨[.count 8, .again (.ready true), .count 24], plain queueCall.wire, blank⟩).1 =
      .error .connreset ∧
    (Job.send ⟨oddMagic, [], [.count 32]⟩).1 = .ok () ∧
    (vhostUserRecvMsg VHOST_USER_MAX_FDS
      ⟨[.count 24, .count 8], (Job.send ⟨oddMagic, [], [.count 32]⟩).2, blank⟩).1 =
      .error .proto := by
  decide +kernel

end ScorpiHv.Vhost

import ScorpiHv.Lib.Socket

/-!
# Messages between the device and its backend

`vhost_user.c`. The receiver fills a message buffer that is a range of memory here, so
that a write behind its end would show.
-/

namespace ScorpiHv.Vhost
open Bytes Sock

def SCORPI_VHOST_MAGIC : UInt32 := 0x56534350
def SCORPI_VHOST_VERSION : UInt16 := 1
def SCORPI_VHOST_HEADER_SIZE : Nat := 24
def SCORPI_VHOST_MAX_MEMORY_REGIONS : Nat := 16
def VHOST_USER_MAX_FDS : Nat := SCORPI_VHOST_MAX_MEMORY_REGIONS

/-- The payload union is as large as `struct scorpi_vhost_memory`. -/
def PAYLOAD_SIZE : Nat := 8 + SCORPI_VHOST_MAX_MEMORY_REGIONS * 32

/-- `struct scorpi_vhost_header` and the padding before the payload. -/
structure Header where
  magic : UInt32 := SCORPI_VHOST_MAGIC
  version : UInt16 := SCORPI_VHOST_VERSION
  headerSize : UInt16 := 24
  request : UInt32
  flags : UInt32 := 0
  size : UInt32
  padding : UInt32 := 0
  deriving DecidableEq

@[ext] structure Msg where
  header : Header
  payload : List UInt8
  sized : payload.length = PAYLOAD_SIZE
  deriving DecidableEq

def Header.enc (h : Header) : List UInt8 :=
  leEnc 4 h.magic.toNat ++ (leEnc 2 h.version.toNat ++ (leEnc 2 h.headerSize.toNat ++
    (leEnc 4 h.request.toNat ++ (leEnc 4 h.flags.toNat ++ (leEnc 4 h.size.toNat ++
      leEnc 4 h.padding.toNat)))))

def field (bs : List UInt8) (off len : Nat) : Nat := leDec ((bs.drop off).take len)

def Header.dec (bs : List UInt8) : Header where
  magic := UInt32.ofNat (field bs 0 4)
  version := UInt16.ofNat (field bs 4 2)
  headerSize := UInt16.ofNat (field bs 6 2)
  request := UInt32.ofNat (field bs 8 4)
  flags := UInt32.ofNat (field bs 12 4)
  size := UInt32.ofNat (field bs 16 4)
  padding := UInt32.ofNat (field bs 20 4)

def Msg.wire (m : Msg) : List UInt8 := m.header.enc ++ m.payload.take m.header.size.toNat

def Msg.trim (m : Msg) : Msg where
  header := m.header
  payload := m.payload.take m.header.size.toNat ++
    List.replicate (PAYLOAD_SIZE - m.header.size.toNat) 0
  sized := by
    rw [List.length_append, List.length_take, List.length_replicate, m.sized]
    omega

/-- The loop of `vhost_user_send_fds`, `off` bytes of the message being out. -/
def sendLoop (bs : List UInt8) (fds : List Nat) : List Reply → Nat → Stream → Ret Unit × Stream
  | [], off, out => (if off < bs.length then .blocked else .ok (), out)
  | r :: script, off, out =>
    if off < bs.length then
      match r with
      | .intr => sendLoop bs fds script off out
      | .again _ => (.error .again, out)
      | .fail e => (.error e, out)
      | .count n =>
        let rc := min n (bs.length - off)
        if rc = 0 then (.error .pipe, out)
        else
          sendLoop bs fds script (off + rc)
            (out ++ attach (if off = 0 then fds else []) ((bs.drop off).take rc))
    else (.ok (), out)

/-- `vhost_user_send_fds` with what got onto the stream. -/
def vhostUserSendFds (script : List Reply) (bs : List UInt8) (fds : List Nat) :
    Ret Unit × Stream :=
  if VHOST_USER_MAX_FDS < fds.length then (.error .inval, [])
  else sendLoop bs fds script 0 []

def vhostUserSendMsg (script : List Reply) (m : Msg) (fds : List Nat) : Ret Unit × Stream :=
  if m.header.headerSize.toNat ≠ SCORPI_VHOST_HEADER_SIZE ∨ PAYLOAD_SIZE < m.header.size.toNat then
    (.error .inval, [])
  else vhostUserSendFds script m.wire fds

/-- What a receiving call works on: the answers to come, the bytes to come, and memory from
the message buffer on. -/
structure Rx where
  script : List Reply
  stream : Stream
  buf : Store

def readExact : List Reply → Stream → Store → Nat → Nat → Ret Unit × Rx
  | script, s, buf, _, 0 => (.ok (), ⟨script, s, buf⟩)
  | [], s, buf, _, _ + 1 => (.blocked, ⟨[], s, buf⟩)
  | .intr :: script, s, buf, off, len + 1 => readExact script s buf off (len + 1)
  | .fail e :: script, s, buf, _, _ + 1 => (.error e, ⟨script, s, buf⟩)
  | .again (.fail e) :: script, s, buf, _, _ + 1 => (.error e, ⟨script, s, buf⟩)
  | .again (.ready true) :: script, s, buf, _, _ + 1 => (.error .connreset, ⟨script, s, buf⟩)
  | .again (.ready false) :: script, s, buf, off, len + 1 => readExact script s buf off (len + 1)
  | .count n :: script, s, buf, off, len + 1 =>
    if s = [] then (.error .connreset, ⟨script, s, buf⟩)
    else
      let rc := delivered n (len + 1) s
      readExact script (s.drop rc) (put buf off (bytes (s.take rc))) (off + rc) (len + 1 - rc)

/-- `vhost_user_recv_fds` into the start of the buffer: the byte count and the descriptors.
The control buffer has room for `VHOST_USER_MAX_FDS`. -/
def vhostUserRecvFds : List Reply → Stream → Store → Nat → Nat → Ret (Nat × List Nat) × Rx
  | [], s, buf, _, _ => (.blocked, ⟨[], s, buf⟩)
  | .intr :: script, s, buf, len, maxFds => vhostUserRecvFds script s buf len maxFds
  | .again _ :: script, s, buf, _, _ => (.error .again, ⟨script, s, buf⟩)
  | .fail e :: script, s, buf, _, _ => (.error e, ⟨script, s, buf⟩)
  | .count _ :: script, [], buf, _, _ => (.ok (0, []), ⟨script, [], buf⟩)
  | .count n :: script, c :: s, buf, len, maxFds =>
    let rc := delivered n len (c :: s)
    let rx : Rx := ⟨script, (c :: s).drop rc, put buf 0 (bytes ((c :: s).take rc))⟩
    if VHOST_USER_MAX_FDS < c.fds.length then (.error .msgsize, rx)
    else (.ok (rc, c.fds.take maxFds), rx)

def Header.wellFormed (h : Header) : Bool :=
  h.magic = SCORPI_VHOST_MAGIC ∧ h.version = SCORPI_VHOST_VERSION ∧
    h.headerSize.toNat = SCORPI_VHOST_HEADER_SIZE ∧ h.size.toNat ≤ PAYLOAD_SIZE

def Header.load (buf : Store) : Header := Header.dec (get buf 0 SCORPI_VHOST_HEADER_SIZE)

def Msg.load (buf : Store) : Msg where
  header := Header.load buf
  payload := get buf SCORPI_VHOST_HEADER_SIZE PAYLOAD_SIZE
  sized := get_length _ _ _

/-- What a call of `vhost_user_recv_msg` returned; `none` is the end of the stream. -/
abbrev Received := Ret (Option (Msg × List Nat))

/-- `vhost_user_recv_msg` behind the header. -/
def recvPayload (fds : List Nat) (rx : Rx) : Received × Rx :=
  let h := Header.load rx.buf
  if !h.wellFormed then (.error .proto, rx)
  else
    match readExact rx.script rx.stream rx.buf SCORPI_VHOST_HEADER_SIZE h.size.toNat with
    | (.ok _, rx) => (.ok (some (Msg.load rx.buf, fds)), rx)
    | (.error e, rx) => (.error e, rx)
    | (.blocked, rx) => (.blocked, rx)

/-- `vhost_user_recv_msg` behind its first `rc` bytes. -/
def recvHeader (rc : Nat) (fds : List Nat) (rx : Rx) : Received × Rx :=
  match readExact rx.script rx.stream rx.buf rc (SCORPI_VHOST_HEADER_SIZE - rc) with
  | (.ok _, rx) => recvPayload fds rx
  | (.error e, rx) => (.error e, rx)
  | (.blocked, rx) => (.blocked, rx)

/-- The message buffer after the `memset`. -/
def cleared (buf : Store) : Store :=
  put buf 0 (List.replicate (SCORPI_VHOST_HEADER_SIZE + PAYLOAD_SIZE) 0)

def vhostUserRecvMsg (maxFds : Nat) (rx : Rx) : Received × Rx :=
  if VHOST_USER_MAX_FDS < maxFds then (.error .inval, { rx with buf := cleared rx.buf })
  else
    match vhostUserRecvFds rx.script rx.stream (cleared rx.buf) SCORPI_VHOST_HEADER_SIZE maxFds with
    | (.ok (0, _), rx) => (.ok none, rx)
    | (.ok (rc, fds), rx) => recvHeader rc fds rx
    | (.error e, rx) => (.error e, rx)
    | (.blocked, rx) => (.blocked, rx)

end ScorpiHv.Vhost

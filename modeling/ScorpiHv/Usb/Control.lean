import ScorpiHv.Usb.Mouse

/-!
# The data stage of a control transfer

A request handler picks one block of the transfer and moves bytes between its buffer
and the device, by one of a few acts.
-/

namespace ScorpiHv.Usb.Control
open Function List

def UT_WRITE : UInt8 := 0
def UDESC_STRING : UInt8 := 3

structure DeviceRequest where
  bmRequestType : UInt8
  bRequest : UInt8
  wValue : UInt16
  wIndex : UInt16
  wLength : UInt16

inductive Fault where
  | nullBlock
  | nullBuffer
  | outside
  deriving DecidableEq

/-- A block with the bytes of its buffer, which are all the guest gave. -/
structure Block where
  buf : Option (List UInt8) := none
  blen : Int := 0
  bdone : Int := 0
  processed : UInt32 := 0
  deriving DecidableEq

namespace Block

def put (b : Block) (off : Nat) (bytes : List UInt8) : Except Fault Block :=
  if bytes = [] then .ok b
  else match b.buf with
    | none => .error .nullBuffer
    | some m =>
      if off + bytes.length ≤ m.length then
        .ok { b with buf := some (m.take off ++ bytes ++ m.drop (off + bytes.length)) }
      else .error .outside

def putAll (b : Block) : List (Nat × List UInt8) → Except Fault Block
  | [] => .ok b
  | w :: ws =>
    match b.put w.1 w.2 with
    | .error f => .error f
    | .ok b => b.putAll ws

def read (b : Block) (n : Nat) : Except Fault (List UInt8) :=
  match b.buf with
  | none => .error .nullBuffer
  | some m => if n ≤ m.length then .ok (m.take n) else .error .outside

/-- What is reported about a buffer of `size` bytes for a request of `len`. -/
def Settled (b : Block) (len size : Nat) : Prop :=
  b.bdone ≤ min len size ∧ b.bdone + b.blen = size

end Block

inductive Act where
  /-- One byte, whatever the length. -/
  | config (value : UInt8)
  | interface
  /-- All the bytes, if the length covers them; `always` is where `eshort` is set after that. -/
  | give (bytes : List UInt8) (always : Bool)
  /-- As many of the bytes as the length covers. -/
  | copy (bytes : List UInt8) (short : Bool)
  | lang (str : List UInt8)
  /-- The language string of `userial_copy_string_desc`. -/
  | langClamped (str : List UInt8)
  /-- `past` is the loop of `unet_request`, whose last pair may begin at the last byte. -/
  | string (str : List UInt8) (clamped past : Bool)
  /-- `UMOUSE_GET_REPORT`, which counts down the length of the block. -/
  | report (bytes : List UInt8)

structure Effect where
  writes : List (Nat × List UInt8) := []
  blen : Int
  bdone : Nat := 0
  eshort : Bool := false

def slen (str : List UInt8) : Nat := (2 + str.length * 2) % 65536

/-- How often the copying loop of a string of `n` bytes runs. -/
def pairs (n : Nat) (past : Bool) : Nat := if past then (n - 1) / 2 else (n - 2) / 2

def Act.effect (len : Nat) (blen : Int) : Act → Effect
  | .config value =>
    { writes := [(0, [value])], blen := (len - 1 : Nat), bdone := 1, eshort := decide (1 < len) }
  | .interface =>
    let rest : Int := if 0 < len then (len - 1 : Nat) else blen
    { writes := if 0 < len then [(0, [0])] else [], blen := rest, bdone := 1
      eshort := decide (0 < rest) }
  | .give bytes always =>
    if bytes.length ≤ len then
      { writes := [(0, bytes)], blen := (len - bytes.length : Nat), bdone := bytes.length
        eshort := decide (bytes.length < len) }
    else { blen, eshort := always && decide (0 < blen) }
  | .copy bytes short =>
    let n := min len bytes.length
    { writes := [(0, bytes.take n)], blen := (len - n : Nat), bdone := n
      eshort := short && decide (n < len) }
  | .lang str =>
    let head := (0, [4, UDESC_STRING])
    -- `len -= 2` wraps.
    if 2 ≤ (len + 65534) % 65536 then
      { writes := [head, (2, [str.getD 0 0, str.getD 1 0])], blen := (len : Int) - 4, bdone := 4 }
    else { writes := [head], blen := 0, bdone := 2 }
  | .langClamped str =>
    let n := min len 4
    { writes := [(0, [4, UDESC_STRING, str.getD 0 0, str.getD 1 0].take n)], blen := 0, bdone := n }
  | .string str clamped past =>
    let n := min len (slen str)
    let head := [(slen str).toUInt8, UDESC_STRING]
    { writes := [(0, if clamped then head.take n else head),
        (2, (str.take (pairs n past)).flatMap fun c => [c, 0])]
      blen := (len - n : Nat), bdone := n, eshort := decide (n < len) }
  | .report bytes =>
    { writes := [(0, bytes)], blen := blen - bytes.length, bdone := bytes.length
      eshort := decide (0 < blen - bytes.length) }

def Act.serve (act : Act) (len : Nat) (b : Block) : Except Fault (Block × Bool) :=
  let e := act.effect len b.blen
  match b.putAll e.writes with
  | .error f => .error f
  | .ok b => .ok ({ b with blen := e.blen, bdone := b.bdone + e.bdone }, e.eshort)

/-- When an act on a buffer of `size` bytes is in order. -/
def Act.Fits (len size : Nat) : Act → Prop
  | .config _ => 1 ≤ len ∧ size = len
  | .interface => 1 ≤ len ∧ size = len
  | .give bytes _ => bytes.length ≤ len → size = len
  | .copy _ _ => size = len
  | .lang _ => 2 ≤ len ∧ size = if len = 3 then 2 else len
  | .langClamped _ => size = min len 4
  | .string str clamped past => size = len ∧ (clamped = true ∨ 2 ≤ len) ∧
      (past = true → len % 2 = 1 → 1 < len → slen str ≤ len)
  | .report bytes => bytes.length ≤ len ∧ bytes.length ≤ size

/-- When an act on a block of `blen` bytes without a buffer is in order: it moves no byte. -/
def Act.Idle (len : Nat) (blen : Int) : Act → Prop
  | .config _ => False
  | .interface => False
  | .give bytes _ => bytes.length ≤ len → bytes = [] ∧ blen = len
  | .copy bytes _ => (len = 0 ∨ bytes = []) ∧ blen = len
  | .lang _ => False
  | .langClamped _ => len = 0 ∧ blen = 0
  | .string str clamped _ => clamped = true ∧ (len = 0 ∨ slen str = 0) ∧ blen = len
  | .report bytes => bytes = []

/-- What the switch of a handler asks for. `take` reads the first `n` bytes. -/
inductive Reply (σ : Type) where
  | done (sc : σ) (err : UsbErr)
  | stage (sc : σ) (act : Act)
  | take (n count : Nat) (drained : Bool) (next : List UInt8 → σ × UsbErr)

structure Replied (σ : Type) where
  sc : σ
  data : Option Block
  err : UsbErr
  eshort : Bool := false

namespace Reply

variable {σ : Type}

def run (len : Nat) : Reply σ → Option Block → Except Fault (Replied σ)
  | .done sc err, data => .ok { sc, data, err }
  | .stage sc act, some b =>
    match act.serve len b with
    | .error f => .error f
    | .ok (b, eshort) => .ok { sc, data := some b, err := .normalCompletion, eshort }
  | .take n count drained next, some b =>
    match b.read n with
    | .error f => .error f
    | .ok bytes =>
      let (sc, err) := next bytes
      let data := if err = .normalCompletion then
          { b with bdone := b.bdone + count, blen := if drained then 0 else b.blen }
        else b
      .ok { sc, data := some data, err }
  | _, none => .error .nullBlock

def Fits (len : Nat) (buf : Option (List UInt8)) : Reply σ → Prop
  | .done _ _ => True
  | .stage _ act => ∃ m, buf = some m ∧ act.Fits len m.length
  | .take n count drained next => ∃ m, buf = some m ∧ n ≤ m.length ∧
      ((next (m.take n)).2 = .normalCompletion →
        count ≤ len ∧ count + (if drained then 0 else m.length) = m.length)

def Idle (len : Nat) (blen : Int) : Reply σ → Prop
  | .done _ _ => True
  | .stage _ act => act.Idle len blen
  | .take _ _ _ _ => False

end Reply

/-- The blocks of a transfer, in a ring of `USB_MAX_XFER_BLOCKS`. -/
structure Xfer where
  data : Nat → Block
  ndata : Nat
  head : Nat

namespace Xfer

def slot (x : Xfer) (i : Nat) : Nat := (x.head + i) % USB_MAX_XFER_BLOCKS

def marked (x : Xfer) : Xfer :=
  { x with data := fun j =>
      if j ∈ (List.range x.ndata).map x.slot then { x.data j with bdone := 0, processed := 1 }
      else x.data j }

/-- A buffer is as long as its block says, and the ring holds no more than fits. -/
structure WellFormed (x : Xfer) : Prop where
  few : x.ndata ≤ USB_MAX_XFER_BLOCKS
  sized : ∀ j m, (x.data j).buf = some m → (x.data j).blen = m.length

end Xfer

/-- A request handler: its switch, and whether it tests the block it then selects
(`USB_DATA_OK(xfer, idx)`) or the one at the loop counter (`USB_DATA_OK(xfer, i)`). -/
structure Device (σ : Type) where
  byBlock : Bool
  switch : σ → DeviceRequest → Option Block → Reply σ

namespace Device

variable {σ : Type}

def selected (d : Device σ) (x : Xfer) : Option Nat :=
  ((List.range x.ndata).find? fun i =>
    (x.data (if d.byBlock then x.slot i else i)).buf.isSome).map x.slot

/-- The label `done`. -/
def finish (r : DeviceRequest) (p : Replied σ) : Replied σ :=
  if r.bmRequestType &&& UT_WRITE ≠ 0 ∧ p.err = .normalCompletion ∧ p.data.isSome then
    { p with data := p.data.map fun b => { b with blen := 0 } }
  else if p.eshort then { p with err := .shortXfer }
  else p

def request (d : Device σ) (sc : σ) (x : Xfer) (ureq : Option DeviceRequest) :
    Except Fault (σ × Xfer × UsbErr) :=
  let sel := d.selected x
  let x := x.marked
  match ureq with
  | none => .ok (sc, x, .normalCompletion)
  | some r =>
    let data := sel.map x.data
    match (d.switch sc r data).run r.wLength.toNat data with
    | .error f => .error f
    | .ok p =>
      let p := finish r p
      match sel, p.data with
      | some j, some b => .ok (p.sc, { x with data := update x.data j b }, p.err)
      | _, _ => .ok (p.sc, x, p.err)

/-- The handler returns, touches no block but the one it selected, and settles that one; a block
without a buffer keeps its length. -/
def StaysInside (d : Device σ) (sc : σ) (x : Xfer) (r : DeviceRequest) : Prop :=
  ∃ sc' x' err, d.request sc x (some r) = .ok (sc', x', err) ∧
    (∀ i, d.selected x ≠ some i → (x'.data i).buf = (x.data i).buf) ∧
    (∀ j m, d.selected x = some j → (x.data j).buf = some m →
      (x'.data j).Settled r.wLength.toNat m.length) ∧
    ∀ j, d.selected x = some j → (x.data j).buf = none →
      (x'.data j).bdone = 0 ∧ (x'.data j).blen = (x.data j).blen

def reply (d : Device σ) (sc : σ) (x : Xfer) (r : DeviceRequest) : Reply σ :=
  d.switch sc r ((d.selected x).map x.marked.data)

/-- What the switch asks for fits the buffer of the block it selected, if there is one. -/
def InOrder (d : Device σ) (sc : σ) (x : Xfer) (r : DeviceRequest) : Prop :=
  match d.selected x with
  | none => (d.reply sc x r).Fits r.wLength.toNat none
  | some j =>
    match (x.data j).buf with
    | none => (d.reply sc x r).Idle r.wLength.toNat (x.data j).blen
    | some m => (d.reply sc x r).Fits r.wLength.toNat (some m)

end Device

def Within (size : Nat) (ws : List (Nat × List UInt8)) : Prop :=
  ∀ w ∈ ws, w.2 = [] ∨ w.1 + w.2.length ≤ size

namespace Block

variable {b : Block} {m : List UInt8} {off : Nat} {bytes : List UInt8}

lemma put_inside (hb : b.buf = some m) (h : bytes = [] ∨ off + bytes.length ≤ m.length) :
    ∃ m', b.put off bytes = .ok { b with buf := some m' } ∧ m'.length = m.length := by
  by_cases hempty : bytes = []
  · refine ⟨m, ?_, rfl⟩
    rw [put, if_pos hempty, ← hb]
  have hle := h.resolve_left hempty
  refine ⟨m.take off ++ bytes ++ m.drop (off + bytes.length), ?_, ?_⟩
  · rw [put, if_neg hempty]
    simp only [hb, if_pos hle]
  · simp only [length_append, length_take, length_drop]
    omega

lemma put_outside (hb : b.buf = some m) (h : ¬(bytes = [] ∨ off + bytes.length ≤ m.length)) :
    b.put off bytes = .error .outside := by
  rw [not_or] at h
  rw [put, if_neg h.1]
  simp only [hb, if_neg h.2]

variable {ws : List (Nat × List UInt8)}

lemma putAll_inside (hb : b.buf = some m) (h : Within m.length ws) :
    ∃ m', b.putAll ws = .ok { b with buf := some m' } ∧ m'.length = m.length := by
  induction ws generalizing b m with
  | nil => exact ⟨m, by rw [putAll, ← hb], rfl⟩
  | cons w ws ih =>
    obtain ⟨hw, hws⟩ := forall_mem_cons.mp h
    obtain ⟨m₁, hput, hlen⟩ := put_inside hb hw
    have hb₁ : ({ b with buf := some m₁ } : Block).buf = some m₁ := rfl
    obtain ⟨m₂, hall, hlen'⟩ := ih hb₁ (by rw [hlen]; exact hws)
    refine ⟨m₂, ?_, hlen'.trans hlen⟩
    rw [putAll, hput]
    exact hall

lemma putAll_within (hb : b.buf = some m) {b' : Block} (h : b.putAll ws = .ok b') : Within m.length ws := by
  induction ws generalizing b m with
  | nil => exact fun w hw => absurd hw not_mem_nil
  | cons w ws ih =>
    by_cases hw : w.2 = [] ∨ w.1 + w.2.length ≤ m.length
    · obtain ⟨m₁, hput, hlen⟩ := put_inside hb hw
      rw [putAll, hput] at h
      have hb₁ : ({ b with buf := some m₁ } : Block).buf = some m₁ := rfl
      have hws := ih hb₁ h
      rw [hlen] at hws
      exact forall_mem_cons.mpr ⟨hw, hws⟩
    · rw [putAll, put_outside hb hw] at h
      cases h

end Block

lemma slen_even (str : List UInt8) : slen str % 2 = 0 := by
  unfold slen
  omega

lemma pairs_length (str : List UInt8) (len : Nat) (past : Bool) :
    ((str.take (pairs (min len (slen str)) past)).flatMap fun c => [c, 0]).length =
      2 * pairs (min len (slen str)) past := by
  have hle : pairs (min len (slen str)) past ≤ str.length := by
    unfold pairs slen
    split <;> omega
  simp only [length_flatMap, length_cons, length_nil, map_const',
    sum_replicate_nat, length_take, Nat.min_eq_left hle]
  omega

namespace Act

variable {len size : Nat}

/-- What `Settled` says of an effect on a fresh block. -/
def Balanced (len size : Nat) (e : Effect) : Prop :=
  Within size e.writes ∧ (e.bdone : Int) ≤ min len size ∧ e.bdone + e.blen = size

lemma effect_string (str : List UInt8) (clamped past : Bool) :
    Balanced len size ((Act.string str clamped past).effect len size) ↔
      (Act.string str clamped past).Fits len size := by
  have heven := slen_even str
  have hpairs := pairs_length str len past
  simp only [Balanced, effect, Fits, Within, forall_mem_cons, ← length_eq_zero_iff, hpairs]
  unfold pairs
  cases clamped <;> cases past <;> simp <;> omega

lemma effect_iff (act : Act) (hlen : len < 65536) :
    Balanced len size (act.effect len size) ↔ act.Fits len size := by
  cases act with
  | string str clamped past => exact effect_string str clamped past
  | config => simp [Balanced, effect, Fits, Within]; omega
  | interface => by_cases h : 0 < len <;> simp [Balanced, effect, Fits, Within, h] <;> omega
  | give bytes =>
    by_cases h : bytes.length ≤ len
    · simp [Balanced, effect, Fits, Within, h, ← length_eq_zero_iff]; omega
    · simp [Balanced, effect, Fits, Within, h]
  | copy bytes | langClamped bytes =>
    simp only [Balanced, effect, Fits, Within, forall_mem_cons, ← length_eq_zero_iff, length_take]
    simp
    omega
  | lang =>
    by_cases h : 2 ≤ (len + 65534) % 65536 <;> simp [Balanced, effect, Fits, Within, h] <;> split <;> omega
  | report => simp [Balanced, effect, Fits, Within, ← length_eq_zero_iff]; omega

end Act

lemma Act.idle_iff (act : Act) (len : Nat) (blen : Int) :
    ((∀ w ∈ (act.effect len blen).writes, w.2 = []) ∧ (act.effect len blen).bdone = 0 ∧
      (act.effect len blen).blen = blen) ↔ act.Idle len blen := by
  cases act with
  | config | interface => simp [effect, Idle]
  | give bytes =>
    by_cases h : bytes.length ≤ len
    · simp [effect, Idle, h, ← length_eq_zero_iff]; omega
    · simp [effect, Idle, h]
  | copy bytes =>
    have hnil : bytes = [] ↔ bytes.length = 0 := length_eq_zero_iff.symm
    simp only [effect, Idle, mem_singleton, forall_eq, take_eq_nil_iff, hnil]
    omega
  | langClamped =>
    simp only [effect, Idle, forall_mem_cons, ← length_eq_zero_iff, length_take]
    simp
    omega
  | lang => by_cases h : 2 ≤ (len + 65534) % 65536 <;> simp [effect, Idle, h]
  | string str clamped past =>
    have hpairs := pairs_length str len past
    have hnone : min len (slen str) = 0 → pairs (min len (slen str)) past = 0 := by
      intro h0
      rw [h0]
      cases past <;> rfl
    simp only [effect, Idle, forall_mem_cons, ← length_eq_zero_iff, hpairs]
    cases clamped with
    | false => simp
    | true =>
      simp
      omega
  | report => simp [effect, Idle, ← length_eq_zero_iff]

lemma Block.putAll_nothing {b : Block} {ws : List (Nat × List UInt8)} (h : ∀ w ∈ ws, w.2 = []) :
    b.putAll ws = .ok b := by
  induction ws with
  | nil => rfl
  | cons w ws ih =>
    obtain ⟨hw, hws⟩ := forall_mem_cons.mp h
    rw [putAll, put, if_pos hw]
    exact ih hws

lemma Block.putAll_null {b : Block} (hb : b.buf = none) {ws : List (Nat × List UInt8)}
    (h : ¬ ∀ w ∈ ws, w.2 = []) : b.putAll ws = .error .nullBuffer := by
  induction ws with
  | nil => exact absurd (forall_mem_nil _) h
  | cons w ws ih =>
    rw [putAll, put]
    by_cases hw : w.2 = []
    · rw [if_pos hw]
      exact ih fun hws => h (forall_mem_cons.mpr ⟨hw, hws⟩)
    · rw [if_neg hw, hb]

structure Block.Fresh (b : Block) (m : List UInt8) : Prop where
  buf : b.buf = some m
  blen : b.blen = m.length
  bdone : b.bdone = 0

lemma Act.serve_iff {act : Act} {len : Nat} {b : Block} {m : List UInt8} (hlen : len < 65536)
    (hb : b.Fresh m) : (∃ b' s, act.serve len b = .ok (b', s) ∧ b'.Settled len m.length) ↔
      act.Fits len m.length := by
  rw [← act.effect_iff hlen]
  constructor
  · rintro ⟨b', s, hserve, hdone, hsum⟩
    simp only [serve] at hserve
    split at hserve
    · cases hserve
    next b₁ hput =>
      have hin := Block.putAll_within hb.buf hput
      obtain ⟨m', hput', -⟩ := Block.putAll_inside hb.buf hin
      cases hput.symm.trans hput'
      cases hserve
      simp only [hb.blen, hb.bdone, Int.zero_add] at hin hdone hsum
      exact ⟨hin, hdone, hsum⟩
  · rintro ⟨hin, hdone, hsum⟩
    rw [← hb.blen] at hin
    obtain ⟨m', hput, -⟩ := Block.putAll_inside hb.buf hin
    refine ⟨_, _, by rw [serve, hput], ?_⟩
    simp only [Block.Settled, hb.blen, hb.bdone, Int.zero_add]
    exact ⟨hdone, hsum⟩

lemma Reply.run_iff {σ : Type} {q : Reply σ} {len : Nat} {b : Block} {m : List UInt8} (hlen : len < 65536)
    (hb : b.Fresh m) : (∃ p b', q.run len (some b) = .ok p ∧ p.data = some b' ∧ b'.Settled len m.length) ↔
    q.Fits len (some m) := by
  cases q with
  | done =>
    have hsettled : b.Settled len m.length := by
      simp only [Block.Settled, hb.blen, hb.bdone, Int.zero_add, and_true]
      omega
    exact ⟨fun _ => trivial, fun _ => ⟨_, b, rfl, rfl, hsettled⟩⟩
  | stage sc act =>
    simp only [run, Fits, Option.some.injEq, exists_eq_left']
    rw [← act.serve_iff hlen hb]
    constructor
    · rintro ⟨p, b', hrun, hdata, hsettled⟩
      cases hserve : act.serve len b with
      | error => rw [hserve] at hrun; cases hrun
      | ok =>
        rw [hserve] at hrun
        cases hrun
        cases hdata
        exact ⟨_, _, rfl, hsettled⟩
    · rintro ⟨b', s, hserve, hsettled⟩
      exact ⟨_, b', by rw [hserve], rfl, hsettled⟩
  | take n count drained next =>
    simp only [run, Fits, Option.some.injEq, exists_eq_left', Block.read, hb.buf]
    by_cases hn : n ≤ m.length
    · simp only [hn, if_true, Except.ok.injEq, exists_and_left, exists_eq_left', true_and]
      by_cases herr : (next (m.take n)).2 = .normalCompletion
      · simp only [herr, if_true, Block.Settled, hb.blen, hb.bdone, Int.zero_add, true_implies]
        cases drained <;> simp <;> omega
      · simp only [herr, if_false, Block.Settled, hb.blen, hb.bdone, Int.zero_add, false_implies,
          iff_true]
        exact ⟨b, rfl, by rw [hb.bdone]; omega, by rw [hb.bdone, hb.blen, Int.zero_add]⟩
    · simp [hn]

lemma Reply.run_idle_iff {σ : Type} {q : Reply σ} {len : Nat} {b : Block} (hbuf : b.buf = none)
    (hdone : b.bdone = 0) : (∃ p b', q.run len (some b) = .ok p ∧ p.data = some b' ∧ b'.bdone = 0 ∧
      b'.blen = b.blen) ↔ q.Idle len b.blen := by
  cases q with
  | done => exact iff_of_true ⟨_, b, rfl, rfl, hdone, rfl⟩ trivial
  | stage sc act =>
    rw [Idle, ← act.idle_iff]
    by_cases hw : ∀ w ∈ (act.effect len b.blen).writes, w.2 = []
    · simp only [run, Act.serve, Block.putAll_nothing hw, hdone, Int.zero_add]
      constructor
      · rintro ⟨_, _, ⟨⟩, ⟨⟩, hnone, hsame⟩
        exact ⟨hw, Int.ofNat_eq_zero.mp hnone, hsame⟩
      · rintro ⟨-, hnone, hsame⟩
        exact ⟨_, _, rfl, rfl, Int.ofNat_eq_zero.mpr hnone, hsame⟩
    · simp only [run, Act.serve, Block.putAll_null hbuf hw, hw, false_and, iff_false]
      rintro ⟨_, _, ⟨⟩, -⟩
  | take n =>
    simp only [run, Block.read, hbuf, Idle, iff_false]
    rintro ⟨_, _, ⟨⟩, -⟩

lemma Reply.run_data {σ : Type} {q : Reply σ} {len : Nat} {data : Option Block} {p : Replied σ}
    (h : q.run len data = .ok p) : p.data.isSome = data.isSome := by
  unfold run at h
  split at h
  · cases h; rfl
  · split at h <;> cases h; rfl
  · split at h <;> cases h; rfl
  · cases h

lemma Reply.run_none_iff {σ : Type} {q : Reply σ} {len : Nat} :
    (∃ p, q.run len none = .ok p) ↔ q.Fits len none := by cases q <;> simp [run, Fits]

namespace Device

variable {σ : Type} {d : Device σ} {x : Xfer}

/-- `UT_WRITE` is 0, so the remaining length is never cleared here. -/
@[simp] lemma finish_data (r : DeviceRequest) (p : Replied σ) : (finish r p).data = p.data := by
  have hzero : r.bmRequestType &&& UT_WRITE = 0 := by simp [UT_WRITE]
  unfold finish
  simp only [hzero, ne_eq, not_true_eq_false, false_and, if_false]
  split <;> rfl

lemma marked_buf (x : Xfer) (j : Nat) : (x.marked.data j).buf = (x.data j).buf := by
  simp only [Xfer.marked]
  split <;> rfl

variable {j : Nat}

lemma selected_slot (h : d.selected x = some j) :
    ∃ i < x.ndata, j = x.slot i ∧ (x.data (if d.byBlock then x.slot i else i)).buf.isSome := by
  obtain ⟨i, hfind, rfl⟩ := Option.map_eq_some_iff.mp h
  have hmem := mem_of_find?_eq_some hfind
  exact ⟨i, mem_range.mp hmem, rfl, by simpa using List.find?_some hfind⟩

lemma selected_marked (h : d.selected x = some j) :
    (x.marked.data j).bdone = 0 ∧ (x.marked.data j).blen = (x.data j).blen := by
  obtain ⟨i, hi, rfl, -⟩ := selected_slot h
  have hmem : x.slot i ∈ (List.range x.ndata).map x.slot := mem_map.mpr ⟨i, mem_range.mpr hi, rfl⟩
  simp only [Xfer.marked, if_pos hmem, and_self]

/-- The block that a request leaves is what the switch's reply makes of the marked one. -/
lemma request_selected (sc : σ) (r : DeviceRequest) (h : d.selected x = some j) {P : Block → Prop} :
    (∃ sc' x' err, d.request sc x (some r) = .ok (sc', x', err) ∧
      (∀ i, d.selected x ≠ some i → (x'.data i).buf = (x.data i).buf) ∧ P (x'.data j)) ↔
    ∃ p b', (d.reply sc x r).run r.wLength.toNat (some (x.marked.data j)) = .ok p ∧
      p.data = some b' ∧ P b' := by
  unfold request reply
  simp only [h, Option.map_some]
  constructor
  · rintro ⟨sc', x', err, hrun, -, hP⟩
    split at hrun
    · cases hrun
    next p hp =>
      obtain ⟨b', hdata⟩ := Option.isSome_iff_exists.mp (Reply.run_data hp)
      simp only [finish_data, hdata] at hrun
      cases hrun
      simp only [update_self] at hP
      exact ⟨p, b', hp, hdata, hP⟩
  · rintro ⟨p, b', hp, hdata, hP⟩
    refine ⟨_, { x.marked with data := update x.marked.data j b' }, _,
      by simp only [hp, finish_data, hdata]; rfl, ?_, ?_⟩
    · intro i hi
      have hne : i ≠ j := fun h => hi (h ▸ rfl)
      simp only [update_of_ne hne]
      exact marked_buf x i
    · simp only [update_self]
      exact hP

lemma forall_selected {buf : Nat → Option (List UInt8)} {P : Nat → List UInt8 → Prop} {Q : Nat → Prop} :
    ((∀ i m, some j = some i → buf i = some m → P i m) ∧ ∀ i, some j = some i → buf i = none → Q i) ↔
      (∀ m, buf j = some m → P j m) ∧ (buf j = none → Q j) := by
  constructor
  · exact fun h => ⟨fun m => h.1 j m rfl, h.2 j rfl⟩
  · refine fun h => ⟨?_, ?_⟩
    · rintro _ m ⟨⟩
      exact h.1 m
    · rintro _ ⟨⟩
      exact h.2

lemma staysInside_iff (hx : x.WellFormed) (sc : σ) (r : DeviceRequest) :
    d.StaysInside sc x r ↔ d.InOrder sc x r := by
  have hlen : r.wLength.toNat < 65536 := r.wLength.toNat_lt
  unfold StaysInside InOrder
  cases hsel : d.selected x with
  | none =>
    simp only [reduceCtorEq, false_implies, implies_true, and_true, reply, request, hsel, Option.map_none]
    rw [← Reply.run_none_iff]
    constructor
    · rintro ⟨sc', x', err, hrun, -⟩
      split at hrun
      · cases hrun
      next p hp => exact ⟨p, hp⟩
    · rintro ⟨p, hp⟩
      refine ⟨_, x.marked, _, by simp only [hp]; rfl, fun i _ => marked_buf x i⟩
  | some j =>
    obtain ⟨hdone, hblen⟩ := selected_marked hsel
    have hreq := fun P => request_selected sc r hsel (P := P)
    rw [hsel] at hreq
    cases hm : (x.data j).buf with
    | none =>
      have hbuf : (x.marked.data j).buf = none := (marked_buf x j).trans hm
      simp only [hm]
      rw [← hblen, ← Reply.run_idle_iff hbuf hdone, ← hreq fun b => b.bdone = 0 ∧ b.blen = _]
      refine exists_congr fun sc' => exists_congr fun x' => exists_congr fun err => ?_
      rw [hblen]
      refine and_congr_right fun _ => and_congr_right fun _ => forall_selected.trans ?_
      simp [hm]
    | some m =>
      have hfresh : (x.marked.data j).Fresh m :=
        ⟨(marked_buf x j).trans hm, hblen.trans (hx.sized _ _ hm), hdone⟩
      simp only [hm]
      rw [← Reply.run_iff hlen hfresh, ← hreq fun b => b.Settled _ _]
      refine exists_congr fun sc' => exists_congr fun x' => exists_congr fun err =>
        and_congr_right fun _ => and_congr_right fun _ => forall_selected.trans ?_
      simp [hm]

end Device

end ScorpiHv.Usb.Control

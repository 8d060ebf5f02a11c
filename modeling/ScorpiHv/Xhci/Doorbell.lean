import ScorpiHv.Lib.Walk
import ScorpiHv.Usb.Xfer
import ScorpiHv.Xhci.EventRing

/-!
# The rings behind the doorbells

`pci_xhci_complete_commands` and `pci_xhci_handle_transfer` walk TRBs in guest memory.
What a command or a device does to the controller and the memory is a parameter.
-/

namespace ScorpiHv.Xhci
open Usb Walk

namespace Trb

def type (t : Trb) : Nat := ((t.dwTrb3 >>> (10 : UInt32)) &&& (0x3F : UInt32)).toNat

def TYPE_NORMAL : Nat := 0x01
def TYPE_SETUP_STAGE : Nat := 0x02
def TYPE_DATA_STAGE : Nat := 0x03
def TYPE_STATUS_STAGE : Nat := 0x04
def TYPE_ISOCH : Nat := 0x05
def TYPE_LINK : Nat := 0x06
def TYPE_EVENT_DATA : Nat := 0x07
def TYPE_NOOP : Nat := 0x08

def tc (t : Trb) : Bool := decide (t.dwTrb3 &&& (2 : UInt32) ≠ 0)

def chain (t : Trb) : Bool := decide (t.dwTrb3 &&& (0x10 : UInt32) ≠ 0)

def ioc (t : Trb) : Bool := decide (t.dwTrb3 &&& (0x20 : UInt32) ≠ 0)

def idt (t : Trb) : Bool := decide (t.dwTrb3 &&& (0x40 : UInt32) ≠ 0)

def bytes (t : Trb) : Nat := (t.dwTrb2 &&& (0x1FFFF : UInt32)).toNat

/-- `pci_xhci_trb_next`: the address of the TRB behind this one. -/
def next (t : Trb) (addr : UInt64) : UInt64 :=
  if t.type = TYPE_LINK then t.qwTrb0 &&& ~~~(0xF : UInt64) else addr + 16

end Trb

/-- A controller: the TRBs in its guest's memory, and what a command at an address does,
its completion event included. -/
structure Commands (σ : Type) where
  mem : σ → UInt64 → Trb
  command : σ → UInt64 → σ

structure CommandState (σ : Type) where
  sc : σ
  trb : UInt64
  ccs : Bool

section
variable {σ : Type} (c : Commands σ)

def commandTurn (s : CommandState σ) : Option (CommandState σ) :=
  let t := c.mem s.sc s.trb
  if t.cycle ≠ s.ccs then none
  else if t.type = Trb.TYPE_LINK then
    some { s with trb := t.next s.trb, ccs := if t.tc then !s.ccs else s.ccs }
  else some { s with sc := c.command s.sc s.trb, trb := t.next s.trb }

def completeCommands : Nat → CommandState σ → Option (CommandState σ)
  | 0, _ => none
  | fuel + 1, s =>
    match commandTurn c s with
    | none => some s
    | some t => completeCommands fuel t

end

/-- The loop's place in a ring that nothing writes: an address and a cycle state. -/
def ringTurn (m : UInt64 → Trb) (p : UInt64 × Bool) : Option (UInt64 × Bool) :=
  let t := m p.1
  if t.cycle ≠ p.2 then none
  else some (t.next p.1, if t.type = Trb.TYPE_LINK ∧ t.tc = true then !p.2 else p.2)

/-- The loop's place in a transfer ring; `setup` is whether a setup TRB has been met. -/
structure Place where
  addr : UInt64
  ccs : Bool
  setup : Bool := false
  deriving DecidableEq

structure BlockReq where
  buf : Option Nat := none
  blen : Nat := 0
  ccs : Bool
  processed : Bool := false

/-- What the loop does at a TRB. `used` is whether the block is used with no check that there is
one. -/
inductive Effect where
  | cycleChanged
  | errout
  | block (req : BlockReq) (used : Bool) (place : Place) (ended : Option Bool)

def Trb.leave (t : Trb) (epid : Nat) (p : Place) (req : BlockReq) (used : Bool) : Effect :=
  let p' : Place := { p with addr := t.next p.addr, ccs := req.ccs }
  .block req used p'
    (if p.setup = false ∧ t.chain = false ∧ t.type ≠ TYPE_LINK then some false
    else if t.ioc = true ∧ t.type ≠ TYPE_SETUP_STAGE then some (decide (epid = 1))
    else none)

/-- The switch on the TRB's type in `pci_xhci_handle_transfer`. -/
def trbEffect (m : UInt64 → Trb) (epid : Nat) (p : Place) : Effect :=
  let t := m p.addr
  let data : BlockReq :=
    { buf := some (if t.idt then p.addr else t.qwTrb0).toNat, blen := t.bytes, ccs := p.ccs }
  if t.type ≠ Trb.TYPE_LINK ∧ t.cycle ≠ p.ccs then .cycleChanged
  else if t.type = Trb.TYPE_LINK then
    t.leave epid p { ccs := if t.tc then !p.ccs else p.ccs, processed := true } true
  else if t.type = Trb.TYPE_SETUP_STAGE then
    if t.idt = false ∨ t.bytes ≠ 8 then .errout
    else t.leave epid { p with setup := true } { ccs := p.ccs, processed := true } true
  else if t.type = Trb.TYPE_NORMAL ∨ t.type = Trb.TYPE_ISOCH then
    if p.setup then .errout else t.leave epid p data false
  else if t.type = Trb.TYPE_DATA_STAGE then t.leave epid p data false
  else if t.type = Trb.TYPE_STATUS_STAGE then t.leave epid p { ccs := p.ccs } false
  else if t.type = Trb.TYPE_NOOP then t.leave epid p { ccs := p.ccs, processed := true } true
  else if t.type = Trb.TYPE_EVENT_DATA then
    let done := decide (1 < epid) && t.ioc
    t.leave epid p { ccs := p.ccs, processed := done } done
  else .errout

/-- `usb_data_xfer_append` with what the loop then sets in the block, or NULL. -/
def appendBlock (xfer : DataXfer) (addr next : UInt64) (streamid : UInt32) (req : BlockReq) :
    Option DataXfer :=
  (usbDataXferAppend xfer req.buf req.blen addr (if req.ccs then 1 else 0)).map fun (x, i) =>
    x.setBlock i { x.data i with
      processed := if req.processed then 1 else 0, trbnext := next, streamid := streamid }

/-- A device behind its controller: the TRBs in guest memory, the device's handlers, and
`pci_xhci_xfer_complete`, which tells whether it succeeded. -/
structure Handlers (σ : Type) where
  mem : σ → UInt64 → Trb
  ueRequest : σ → DataXfer → σ × DataXfer × UsbErr
  xferComplete : σ → DataXfer → UsbErr → σ × DataXfer × Bool
  tryUsbXfer : σ → DataXfer → σ × DataXfer

structure TransferState (σ : Type) where
  sc : σ
  xfer : DataXfer
  place : Place

/-- A turn goes on with the loop, starts it again, returns, or uses a block that is not
there. -/
inductive TransferTurn (σ : Type) where
  | more (s : TransferState σ)
  | retry (s : TransferState σ)
  | done (sc : σ) (xfer : DataXfer)
  | missing

/-- The errors that `pci_xhci_handle_transfer` completes a request with. -/
def completes : UsbErr → Bool
  | .normalCompletion => true
  | .stalled => true
  | .shortXfer => true
  | _ => false

section
variable {σ : Type} (h : Handlers σ) (epid : Nat)

def finishBatch (s : TransferState σ) (retry : Bool) : TransferTurn σ :=
  let again (sc : σ) (xfer : DataXfer) (retry : Bool) : TransferTurn σ :=
    if retry then .retry ⟨sc, xfer.reset, { s.place with setup := false }⟩
    else .done sc (if epid = 1 then xfer.reset else xfer)
  if s.xfer.ndata = 0 then again s.sc s.xfer retry
  else if epid = 1 then
    let r := h.ueRequest s.sc s.xfer
    if completes r.2.2 then
      let q := h.xferComplete r.1 r.2.1 r.2.2
      again q.1 q.2.1 (retry && q.2.2)
    else again r.1 r.2.1 retry
  else
    let r := h.tryUsbXfer s.sc s.xfer
    again r.1 r.2 retry

def transferTurn (streamid : UInt32) (s : TransferState σ) : TransferTurn σ :=
  match trbEffect (h.mem s.sc) epid s.place with
  | .cycleChanged => finishBatch h epid s false
  | .errout => .done s.sc (if epid = 1 then s.xfer.reset else s.xfer)
  | .block req used place ended =>
    match appendBlock s.xfer s.place.addr place.addr streamid req with
    | none =>
      if used then .missing
      else match ended with
        | none => .more { s with place := place }
        | some retry => finishBatch h epid { s with place := place } retry
    | some xfer =>
      match ended with
      | none => .more { s with xfer := xfer, place := place }
      | some retry => finishBatch h epid { s with xfer := xfer, place := place } retry

/-- `pci_xhci_handle_transfer`: `none` while it has not returned. -/
def handleTransfer (streamid : UInt32) : Nat → TransferState σ → Option (TransferTurn σ)
  | 0, _ => none
  | fuel + 1, s =>
    match transferTurn h epid streamid s with
    | .more t => handleTransfer streamid fuel t
    | .retry t => handleTransfer streamid fuel t
    | r => some r

end

variable (m : UInt64 → Trb) (epid : Nat)

/-- The place where the loop goes on, and whether a new batch begins there. -/
def nextPlace (p : Place) : Option (Place × Bool) :=
  match trbEffect m epid p with
  | .block _ _ place none => some (place, false)
  | .block _ _ place (some true) => some ({ place with setup := false }, true)
  | _ => none

def usesBlock (p : Place) : Bool :=
  match trbEffect m epid p with
  | .block _ used _ _ => used
  | _ => false

/-- The TRBs come to an end, and in each batch none behind the first free blocks uses its block.
All blocks are free where a new batch begins. -/
inductive TrbsFit : Nat → Place → Prop where
  | last {free : Nat} {p : Place} : (free = 0 → usesBlock m epid p = false) →
      nextPlace m epid p = none → TrbsFit free p
  | next {free : Nat} {p p' : Place} {again : Bool} : (free = 0 → usesBlock m epid p = false) →
      nextPlace m epid p = some (p', again) →
      TrbsFit (if again then USB_MAX_XFER_BLOCKS else free - 1) p' → TrbsFit free p

end ScorpiHv.Xhci

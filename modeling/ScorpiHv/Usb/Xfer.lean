import Mathlib

/-!
# USB transfers

`usb_emul.h`: a transfer is a ring of blocks that the host controller fills from
the guest's ring and a device handler works on. Names leave out `USB_DATA_`.
-/

namespace ScorpiHv.Usb

def USB_MAX_XFER_BLOCKS : Nat := 8

inductive UsbErr where
  | normalCompletion
  | notStarted
  | nomem
  | cancelled
  | shortXfer
  | stalled
  deriving DecidableEq

def USB_NAK : UInt32 := 1
def USB_STALL : UInt32 := 2

/-- `struct usb_data_xfer_block`; `none` is a NULL buffer. -/
structure XferBlock where
  buf : Option Nat := none
  blen : Nat := 0
  bdone : Nat := 0
  processed : UInt32 := 0
  hciData : UInt64 := 0
  ccs : UInt32 := 0
  streamid : UInt32 := 0
  trbnext : UInt64 := 0
  deriving DecidableEq

namespace XferBlock

def isProcessed (b : XferBlock) : Bool := decide (b.processed &&& (0xFF : UInt32) ≠ 0)

def setErrcode (b : XferBlock) (e : UInt32) : XferBlock :=
  { b with processed := (b.processed &&& (0xFF : UInt32)) ||| (e <<< (8 : UInt32)) }

def hasBuffer (b : XferBlock) : Bool := b.buf.isSome && b.blen != 0

end XferBlock

structure DataXfer where
  data : Nat → XferBlock := fun _ => {}
  ndata : Nat := 0
  head : Nat := 0
  tail : Nat := 0

namespace DataXfer

def setBlock (xfer : DataXfer) (i : Nat) (b : XferBlock) : DataXfer :=
  { xfer with data := Function.update xfer.data i b }

def indices (xfer : DataXfer) : List Nat :=
  (List.range xfer.ndata).map fun i => (xfer.head + i) % USB_MAX_XFER_BLOCKS

def reset (_ : DataXfer) : DataXfer := {}

end DataXfer

/-- `usb_data_xfer_append`: the transfer and the index of the new block, or NULL. -/
def usbDataXferAppend (xfer : DataXfer) (buf : Option Nat) (blen : Nat) (hciData : UInt64)
    (ccs : UInt32) : Option (DataXfer × Nat) :=
  if USB_MAX_XFER_BLOCKS ≤ xfer.ndata then none
  else
    let i := xfer.tail
    let b := { xfer.data i with buf, blen, hciData, ccs, processed := 0, bdone := 0 }
    some ({ xfer.setBlock i b with
      ndata := xfer.ndata + 1, tail := (xfer.tail + 1) % USB_MAX_XFER_BLOCKS }, i)

def firstBuffer : DataXfer → List Nat → DataXfer × Option Nat
  | xfer, [] => (xfer, none)
  | xfer, i :: is =>
    if (xfer.data i).hasBuffer then (xfer, some i)
    else firstBuffer (xfer.setBlock i { xfer.data i with processed := 1 }) is

end ScorpiHv.Usb

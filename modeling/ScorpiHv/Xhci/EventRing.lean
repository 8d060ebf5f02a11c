import ScorpiHv.Lib.CycleRing
import ScorpiHv.Lib.Trace

/-!
# The xHCI event ring

`pci_xhci_insert_event` and the guest's writes of ERSTBA and ERDP in
`pci_xhci_rtsregs_write`, for a ring of one segment, with a guest that follows the cycle bit.
The fields of a TRB leave out `XHCI_TRB_`.
-/

namespace ScorpiHv.Xhci
open CycleRing

structure Trb where
  qwTrb0 : UInt64 := 0
  dwTrb2 : UInt32 := 0
  dwTrb3 : UInt32 := 0
  deriving DecidableEq

namespace Trb

def cycle (t : Trb) : Bool := decide (t.dwTrb3 &&& (1 : UInt32) ≠ 0)

def payload (t : Trb) : Trb := { t with dwTrb3 := t.dwTrb3 &&& ~~~(1 : UInt32) }

def stamp (t : Trb) (pcs : Bool) : Trb :=
  { t with dwTrb3 := (t.dwTrb3 &&& ~~~(1 : UInt32)) ||| (if pcs then (1 : UInt32) else 0) }

end Trb

inductive TrbError where
  | success
  | evRingFull
  deriving DecidableEq

def EV_RING_FULL : UInt32 := 21

def EVENT_HOST_CTRL : UInt32 := 37

/-- The runtime registers that the ring uses. `tablePtr` and `tableSize` are the segment's
entry, `seg` the TRBs from `erst_p` on; `event_pcs` is 0 or 1. -/
structure RtsRegs where
  erdp : UInt64 := 0
  tablePtr : UInt64
  tableSize : Nat
  seg : Nat → Trb
  erEnqIdx : Int := 0
  erEventsCnt : Nat := 0
  eventPcs : Bool := true

namespace RtsRegs

/-- The slot at the enqueue index, `none` outside the segment. -/
def slot (rts : RtsRegs) : Option Nat :=
  if 0 ≤ rts.erEnqIdx ∧ rts.erEnqIdx < rts.tableSize then some rts.erEnqIdx.toNat else none

/-- `(er_enq_idx + 1) % dwEvrsTableSize`, an unsigned remainder stored in an `int`; `none` is
the division by zero. -/
def nextIdx (rts : RtsRegs) : Option Int :=
  if rts.tableSize = 0 then none
  else some (Int.bmod ((((rts.erEnqIdx + 1) % 2 ^ 32).toNat % rts.tableSize : Nat) : Int) (2 ^ 32))

def put (rts : RtsRegs) (evtrb : Trb) : Option (RtsRegs × TrbError) := do
  let i ← rts.slot
  let next ← rts.nextIdx
  return ({ rts with
    seg := Function.update rts.seg i (evtrb.stamp rts.eventPcs)
    erEnqIdx := next
    eventPcs := if next = 0 then !rts.eventPcs else rts.eventPcs }, .success)

/-- `errev` in place of the event; the phase is not changed on this path. -/
def putRingFull (rts : RtsRegs) : Option (RtsRegs × TrbError) := do
  let i ← rts.slot
  let next ← rts.nextIdx
  let errev : Trb :=
    { qwTrb0 := 0, dwTrb2 := EV_RING_FULL <<< (24 : UInt32)
      dwTrb3 := (EVENT_HOST_CTRL <<< (10 : UInt32)) ||| (if rts.eventPcs then (1 : UInt32) else 0) }
  return ({ rts with
    seg := Function.update rts.seg i errev
    erEnqIdx := next
    erEventsCnt := (rts.erEventsCnt + 1) % 2 ^ 32 }, .evRingFull)

/-- `pci_xhci_insert_event`; `none` is a division by zero or an access outside the segment. -/
def insertEvent (rts : RtsRegs) (evtrb : Trb) : Option (RtsRegs × TrbError) :=
  if rts.tableSize ≤ rts.erEventsCnt then some (rts, .evRingFull)
  else if rts.erEventsCnt = rts.tableSize - 1 then do
    let i ← rts.slot
    if (rts.seg i).cycle = rts.eventPcs then rts.putRingFull else rts.put evtrb
  else { rts with erEventsCnt := (rts.erEventsCnt + 1) % 2 ^ 32 }.put evtrb

/-- A write to the high word of ERSTBA: the segment's entry is read and the counters start
again, `event_pcs` apart. -/
def writeErstba (rts : RtsRegs) (ptr : UInt64) (size : Nat) (seg : Nat → Trb) : RtsRegs :=
  { rts with tablePtr := ptr, tableSize := size, seg := seg, erEnqIdx := 0, erEventsCnt := 0 }

def writeErdpLo (rts : RtsRegs) (value : UInt64) : RtsRegs :=
  let erdp := (rts.erdp &&& ~~~(0xFFFFFFFF : UInt64)) ||| (rts.erdp &&& (8 : UInt64)) |||
    (value &&& ~~~(0xF : UInt64))
  { rts with erdp := if value &&& (8 : UInt64) ≠ 0 then erdp &&& ~~~(8 : UInt64) else erdp }

/-- The index that ERDP names, as an `int`. -/
def erdpIdx (rts : RtsRegs) : Int :=
  Int.bmod (((rts.erdp &&& ~~~(0xF : UInt64)) - rts.tablePtr) / 16).toNat (2 ^ 32)

def writeErdpHi (rts : RtsRegs) (value : UInt64) : RtsRegs :=
  let rts := { rts with
    erdp := (value <<< (32 : UInt64)) ||| (rts.erdp &&& (0xFFFFFFFF : UInt64)) }
  if rts.erEventsCnt = 0 then rts
  else
    let left : Int := if rts.erdpIdx ≤ rts.erEnqIdx then rts.erEnqIdx - rts.erdpIdx
      else rts.tableSize - (rts.erdpIdx - rts.erEnqIdx)
    { rts with erEventsCnt := (left % 2 ^ 32).toNat }

def slotAddr (rts : RtsRegs) (i : Nat) : UInt64 :=
  (rts.tablePtr &&& ~~~(0x3F : UInt64)) + 16 * UInt64.ofNat i

end RtsRegs

/-- The events inserted since ERSTBA was written, the position that ERDP names, and the
guest: its place in the ring, its phase and the events it has read. -/
structure World where
  rts : RtsRegs
  sent : List Trb := []
  acked : Nat := 0
  deq : Nat := 0
  ccs : Bool := true
  got : List Trb := []

inductive Act where
  | insert (evtrb : Trb)
  | erstba (ptr : UInt64) (size : Nat) (seg : Nat → Trb)
  | erdpLo (value : UInt64)
  | erdpHi (value : UInt64) (position : Nat)
  | read

namespace World

def inserted (w : World) (evtrb : Trb) (r : RtsRegs × TrbError) : World :=
  { w with rts := r.1, sent := if r.2 = .success then w.sent ++ [evtrb.payload] else w.sent }

def taken (w : World) : World :=
  let deq := (w.deq + 1) % w.rts.tableSize
  { w with
    deq := deq
    ccs := if deq = 0 then !w.ccs else w.ccs
    got := w.got ++ [(w.rts.seg w.deq).payload] }

/-- ERDP names a position of the last lap, no further than the guest has read. -/
inductive Step : World → Act → World → Prop where
  | insert {w : World} {evtrb : Trb} {r : RtsRegs × TrbError} :
      w.rts.insertEvent evtrb = some r → Step w (.insert evtrb) (w.inserted evtrb r)
  | erstba (w : World) (ptr : UInt64) (size : Nat) (seg : Nat → Trb) :
      Step w (.erstba ptr size seg) { rts := w.rts.writeErstba ptr size seg }
  | erdpLo (w : World) (value : UInt64) :
      Step w (.erdpLo value) { w with rts := w.rts.writeErdpLo value }
  | erdpHi {w : World} {value : UInt64} {k : Nat} :
      k ≤ w.got.length → w.sent.length ≤ k + w.rts.tableSize →
      (w.rts.writeErdpHi value).erdp &&& ~~~(0xF : UInt64) = w.rts.slotAddr (k % w.rts.tableSize) →
      Step w (.erdpHi value k) { w with rts := w.rts.writeErdpHi value, acked := k }
  | read {w : World} : w.deq < w.rts.tableSize → (w.rts.seg w.deq).cycle = w.ccs →
      Step w .read w.taken

end World

end ScorpiHv.Xhci

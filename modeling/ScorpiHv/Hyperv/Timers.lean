import ScorpiHv.Hyperv.Registers
import ScorpiHv.Lib.Trace

/-!
# Hyper-V synthetic timers

A worker marks expired timers, and the owning vCPU delivers them before it enters the
guest, each under the partition's lock.
-/

namespace ScorpiHv.Hyperv
open Bytes

/-- How an attempt to deliver ends: no vCPU, the SynIC or the SINT closed, the slot busy, the
injection failed, or the interrupt injected. -/
inductive Outcome where
  | noVp
  | closed
  | busy
  | failed
  | delivered
  deriving DecidableEq

def timerMessage (index : Nat) (deadline now : UInt64) : List UInt8 :=
  leEnc 4 0x80000010 ++ [24] ++ List.replicate 11 0 ++ leEnc 4 index ++ List.replicate 4 0 ++
    leEnc 8 deadline.toNat ++ leEnc 8 now.toNat ++ List.replicate 216 0

def Timer.sint (t : Timer) : Nat := ((t.config >>> (16 : UInt64)) &&& (15 : UInt64)).toNat

def Vp.slot (vp : Vp) (sint : Nat) : Nat := (pageOf vp.simp).toNat + sint * 256

section
variable (hv : Partition) (map : Map) (cpu index : Nat) (now : UInt64) (inject : Nat → UInt32 → Bool)

/-- `deliver_timer`; `inject` tells whether the injection for a timer succeeds. -/
def deliverTimer : Partition × Outcome :=
  let vp := hv.vp cpu
  let t := hv.timer cpu index
  let mask (vector : UInt64) : UInt32 := 1 <<< (vector &&& (31 : UInt64)).toUInt32
  if !vp.kick then (hv, .noVp)
  else if t.direct then
    if inject index (mask (t.config >>> (4 : UInt64))) then (hv, .delivered) else (hv, .failed)
  else if vp.scontrol &&& (1 : UInt64) = 0 ∨ vp.simp &&& (1 : UInt64) = 0 ∨
      vp.sint t.sint &&& SINT_MASKED ≠ 0 then (hv, .closed)
  else if map (pageOf vp.simp) HV_PAGE_SIZE = false then (hv, .closed)
  else
    let slot := vp.slot t.sint
    if leDec (get hv.mem slot 4) ≠ 0 then
      ({ hv with mem := put hv.mem (slot + 5) [hv.mem (slot + 5) ||| 1] }, .busy)
    else if inject index (mask (vp.sint t.sint)) then
      ({ hv with mem := put hv.mem slot (timerMessage index t.deadline now) }, .delivered)
    else (hv, .failed)

def Timer.delivered (t : Timer) : Timer :=
  if t.periodic then
    let delta := t.count - (now - t.deadline) % t.count
    { t with pending := false, deadline := if delta > U64_MAX - now then U64_MAX else now + delta }
  else { t.disable with pending := false }

/-- The loop of `arm64_hyperv_process_timers` with the attempts it made. A failed injection
ends it. -/
def processFrom : List Nat → Partition → Partition × List (Nat × Outcome)
  | [], hv => (hv, [])
  | i :: rest, hv =>
    if !(hv.timer cpu i).pending then processFrom rest hv
    else
      let r := deliverTimer hv map cpu i now inject
      match r.2 with
      | .failed => (r.1, [(i, .failed)])
      | .delivered =>
        let q := processFrom rest (r.1.setTimer cpu i ((r.1.timer cpu i).delivered now))
        (q.1, (i, .delivered) :: q.2)
      | o =>
        let q := processFrom rest r.1
        (q.1, (i, o) :: q.2)

/-- `arm64_hyperv_process_timers` once it holds the lock; a call that finds `timer_pending`
clear returns before. -/
def processTimers : Partition × List (Nat × Outcome) :=
  let r := processFrom map cpu now inject [0, 1, 2, 3] hv
  (r.1.setVp cpu { r.1.vp cpu with
    timerPending := [0, 1, 2, 3].any fun i => (r.1.timer cpu i).pending }, r.2)

end

def Timer.due (t : Timer) (now : UInt64) : Bool :=
  t.enabled && decide (t.count ≠ 0) && decide (t.deadline ≤ now) && !t.pending

def Vp.expire (vp : Vp) (now : UInt64) : Vp :=
  { vp with
    timers := fun i => if i < 4 ∧ (vp.timers i).due now = true then
      { vp.timers i with pending := true } else vp.timers i
    timerPending := vp.timerPending || [0, 1, 2, 3].any fun i => (vp.timers i).due now }

def workerPass (hv : Partition) (now : UInt64) : Partition :=
  { hv with vp := fun cpu => if cpu < 64 then (hv.vp cpu).expire now else hv.vp cpu }

/-- `arm64_hyperv_set_vp` -/
def setKick (hv : Partition) (cpu : Nat) (kick : Bool) : Partition :=
  hv.setVp cpu { hv.vp cpu with kick := kick }

/-- `arm64_hyperv_reset` -/
def resetPartition (hv : Partition) : Partition :=
  { hv with
    vp := fun cpu => { kick := (hv.vp cpu).kick }
    guestOsId := 0, partitionInfoPage := 0, failedRegisters := []
    vpEnlightened := fun _ => false, syntheticVectors := fun _ => 0, crashParams := fun _ => 0
    discovered := false }

/-- The partition at a time of the clock. `armed` is the deadline that the last write of a timer
set, `fired` the number of interrupts delivered since. -/
structure World where
  hv : Partition
  clock : UInt64 := 0
  armed : Nat → Nat → UInt64 := fun _ _ => 0
  fired : Nat → Nat → Nat := fun _ _ => 0

inductive Act where
  | write (cpu : Nat) (name : UInt32) (v : Value)
  | worker
  | process (cpu : Nat) (inject : Nat → UInt32 → Bool)
  | guest (mem : Store)
  | setVp (cpu : Nat) (kick : Bool)
  | reset

def timerOf (name : UInt32) : Option Nat :=
  if 0xb0000 ≤ name ∧ name ≤ 0xb0007 then some ((name - 0xb0000) / 2).toNat else none

namespace World

def write (w : World) (map : Map) (cpu : Nat) (name : UInt32) (v : Value) (now : UInt64) : World :=
  let r := writeRegister w.hv map name v cpu now
  { hv := r.1
    clock := now
    armed := fun c i => if c = cpu ∧ timerOf name = some i ∧ r.2 = .success then
      (r.1.timer c i).deadline else w.armed c i
    fired := fun c i => if c = cpu ∧ timerOf name = some i ∧ r.2 = .success then 0
      else w.fired c i }

def process (w : World) (map : Map) (cpu : Nat) (inject : Nat → UInt32 → Bool) (now : UInt64) :
    World :=
  let r := processTimers w.hv map cpu now inject
  { w with
    hv := r.1
    clock := now
    fired := fun c i => if c = cpu ∧ (i, Outcome.delivered) ∈ r.2 then w.fired c i + 1
      else w.fired c i }

/-- The steps of the partition, its vCPUs and its guest, at times that do not go back. -/
inductive Step (map : Map) : World → Act → World → Prop where
  | write {w : World} {now : UInt64} {cpu : Nat} {name : UInt32} {v : Value} :
      w.clock ≤ now → Step map w (.write cpu name v) (w.write map cpu name v now)
  | worker {w : World} {now : UInt64} : w.clock ≤ now →
      Step map w .worker { w with hv := workerPass w.hv now, clock := now }
  | process {w : World} {now : UInt64} {cpu : Nat} {inject : Nat → UInt32 → Bool} :
      w.clock ≤ now → Step map w (.process cpu inject) (w.process map cpu inject now)
  | guest (w : World) (mem : Store) : Step map w (.guest mem) { w with hv := { w.hv with mem } }
  | setVp (w : World) (cpu : Nat) (kick : Bool) :
      Step map w (.setVp cpu kick) { w with hv := setKick w.hv cpu kick }
  | reset (w : World) :
      Step map w .reset { hv := resetPartition w.hv, clock := w.clock }

end World

end ScorpiHv.Hyperv

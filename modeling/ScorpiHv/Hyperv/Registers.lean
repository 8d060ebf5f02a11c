import ScorpiHv.Lib.Bytes

/-!
# Hyper-V registers

The partition state of `arch/arm64/hyperv.c` with `read_register` and `write_register`.
Guest memory is addressed by guest-physical address.
-/

namespace ScorpiHv.Hyperv
open Function Bytes

inductive Status where
  | success
  | invalidCode
  | invalidInput
  | invalidAlignment
  | invalidParameter
  | accessDenied
  | invalidPartition
  | invalidVp
  deriving DecidableEq

def Status.code : Status → UInt64
  | .success => 0
  | .invalidCode => 2
  | .invalidInput => 3
  | .invalidAlignment => 4
  | .invalidParameter => 5
  | .accessDenied => 6
  | .invalidPartition => 13
  | .invalidVp => 14

def HV_PAGE_SIZE : Nat := 4096
def HV_NOTIFY : UInt64 := 0x8000000000000000
def U64_MAX : UInt64 := 0xFFFFFFFFFFFFFFFF
def ST_ENABLE : UInt64 := 1
def ST_PERIODIC : UInt64 := 2
def ST_AUTOENABLE : UInt64 := 8
def ST_DIRECT : UInt64 := 0x1000
def SINT_MASKED : UInt64 := 0x10000

structure Value where
  low : UInt64 := 0
  high : UInt64 := 0
  deriving DecidableEq

structure Timer where
  config : UInt64 := 0
  count : UInt64 := 0
  deadline : UInt64 := 0
  pending : Bool := false
  deriving DecidableEq

namespace Timer

def enabled (t : Timer) : Bool := decide (t.config &&& ST_ENABLE ≠ 0)
def periodic (t : Timer) : Bool := decide (t.config &&& ST_PERIODIC ≠ 0)
def direct (t : Timer) : Bool := decide (t.config &&& ST_DIRECT ≠ 0)

def disable (t : Timer) : Timer := { t with config := t.config &&& ~~~ST_ENABLE }

/-- What a write to the timer's registers does last: an enabled indirect timer must not target
SINT0, an undelivered expiry is dropped and the deadline is set. -/
def rearm (t : Timer) (now : UInt64) : Timer :=
  let t := if !t.direct && decide (t.config &&& (0xf0000 : UInt64) = 0) then t.disable else t
  { t with
    pending := false
    deadline := if t.periodic then (if t.count > U64_MAX - now then U64_MAX else now + t.count)
      else t.count }

end Timer

/-- `struct arm64_hyperv_vp`; `kick` is whether a vCPU is registered. -/
structure Vp where
  scontrol : UInt64 := 1
  simp : UInt64 := 0
  siefp : UInt64 := 0
  sint : Nat → UInt64 := fun _ => SINT_MASKED
  timers : Nat → Timer := fun _ => {}
  timerPending : Bool := false
  kick : Bool := false

/-- `struct arm64_hyperv` with the guest's memory. -/
structure Partition where
  guestOsId : UInt64 := 0
  partitionInfoPage : UInt64 := 0
  failedRegisters : List UInt32 := []
  vpEnlightened : Nat → Bool := fun _ => false
  syntheticVectors : Nat → UInt64 := fun _ => 0
  crashParams : Nat → UInt64 := fun _ => 0
  discovered : Bool := false
  crashEnabled : Bool := true
  timersEnabled : Bool := false
  vp : Nat → Vp := fun _ => {}
  mem : Store

/-- `arm64_hyperv_map_fn`: whether a range of guest memory is mapped. -/
abbrev Map := UInt64 → Nat → Bool

namespace Partition

def setVp (hv : Partition) (cpu : Nat) (vp : Vp) : Partition :=
  { hv with vp := update hv.vp cpu vp }

def setTimer (hv : Partition) (cpu i : Nat) (t : Timer) : Partition :=
  hv.setVp cpu { hv.vp cpu with timers := update (hv.vp cpu).timers i t }

def timer (hv : Partition) (cpu i : Nat) : Timer := (hv.vp cpu).timers i

end Partition

def pageOf (v : UInt64) : UInt64 := v &&& ~~~(0xfff : UInt64)

section
variable (hv : Partition) (map : Map) (name : UInt32) (v : UInt64) (cpu : Nat) (now : UInt64)

def writeTimer : Partition × Status :=
  let i := ((name - 0xb0000) / 2).toNat
  let t := hv.timer cpu i
  if name &&& (1 : UInt32) = 0 then
    if v &&& ~~~(0xf11ff : UInt64) ≠ 0 then (hv, .invalidParameter)
    else (hv.setTimer cpu i (Timer.rearm { t with config := v } now), .success)
  else
    let t := { t with count := v }
    let t := if v = 0 then t.disable
      else if t.config &&& ST_AUTOENABLE ≠ 0 then { t with config := t.config ||| ST_ENABLE } else t
    (hv.setTimer cpu i (t.rearm now), .success)

/-- The registers that `timers_enabled` adds. -/
def writeSynthetic : Option (Partition × Status) :=
  let vp := hv.vp cpu
  if 0xb0000 ≤ name ∧ name ≤ 0xb0007 then some (writeTimer hv name v cpu now)
  else if 0xa0000 ≤ name ∧ name ≤ 0xa000f then
    some (if v &&& ~~~(0x7001f : UInt64) ≠ 0 then (hv, .invalidParameter)
      else (hv.setVp cpu { vp with sint := update vp.sint (name - 0xa0000).toNat v },
        .success))
  else if name = 0xa0010 then
    some (if v &&& ~~~(1 : UInt64) ≠ 0 then (hv, .invalidParameter)
      else (hv.setVp cpu { vp with scontrol := v }, .success))
  else if name = 0xa0012 ∨ name = 0xa0013 then
    some (if v &&& (0xffe : UInt64) ≠ 0 then (hv, .invalidParameter)
      else if v &&& (1 : UInt64) ≠ 0 ∧ map (pageOf v) HV_PAGE_SIZE = false then
        (hv, .invalidParameter)
      else if name = 0xa0012 then (hv.setVp cpu { vp with siefp := v }, .success)
      else (hv.setVp cpu { vp with simp := v }, .success))
  else if name = 0xa0014 then
    some (if v ≠ 0 then (hv, .invalidParameter) else (hv, .success))
  else none

def writeInfoPage : Partition × Status :=
  if v &&& (0xffe : UInt64) ≠ 0 then (hv, .invalidParameter)
  else if v &&& (1 : UInt64) ≠ 0 then
    if map (pageOf v) HV_PAGE_SIZE = false then (hv, .invalidParameter)
    else ({ hv with
      mem := put hv.mem (pageOf v).toNat (List.replicate HV_PAGE_SIZE 0)
      partitionInfoPage := v }, .success)
  else ({ hv with partitionInfoPage := v }, .success)

def writeCommon : Partition × Status :=
  if 0x210 ≤ name ∧ name ≤ 0x214 then
    ({ hv with crashParams := update hv.crashParams (name - 0x210).toNat v }, .success)
  else if name = 0x90002 then
    if cpu ≠ 0 then (hv, .accessDenied) else ({ hv with guestOsId := v }, .success)
  else if name = 0x40400 then
    if v &&& (0x7ff : UInt64) ≠ 0 then (hv, .invalidParameter)
    else ({ hv with syntheticVectors := update hv.syntheticVectors cpu v }, .success)
  else if name = 0x90016 then
    if v > 1 then (hv, .invalidParameter)
    else ({ hv with vpEnlightened := update hv.vpEnlightened cpu (decide (v ≠ 0)) },
      .success)
  else if name = 0x90015 then writeInfoPage hv map v
  else if name ≠ 0x215 then (hv, .invalidParameter)
  else if v &&& ((1 <<< (62 : UInt64)) ||| ((1 <<< (58 : UInt64)) - 1)) ≠ 0 then
    (hv, .invalidParameter)
  else (hv, .success)

end

def writeRegister (hv : Partition) (map : Map) (name : UInt32) (v : Value) (cpu : Nat)
    (now : UInt64) : Partition × Status :=
  if v.high ≠ 0 then (hv, .invalidParameter)
  else if 0x210 ≤ name ∧ name ≤ 0x215 ∧ hv.crashEnabled = false then (hv, .invalidParameter)
  else if hv.timersEnabled then
    (writeSynthetic hv map name v.low cpu now).getD (writeCommon hv map name v.low cpu)
  else writeCommon hv map name v.low cpu

variable (hv : Partition) (name : UInt32) (cpu cpuCount : Nat) (now : UInt64)

def readSynthetic : Option UInt64 :=
  let vp := hv.vp cpu
  if name = 0x90004 then some now
  else if 0xb0000 ≤ name ∧ name ≤ 0xb0007 then
    let t := hv.timer cpu ((name - 0xb0000) / 2).toNat
    some (if name &&& (1 : UInt32) ≠ 0 then t.count else t.config)
  else if 0xa0000 ≤ name ∧ name ≤ 0xa000f then some (vp.sint (name - 0xa0000).toNat)
  else if name = 0xa0010 then some vp.scontrol
  else if name = 0xa0011 then some 1
  else if name = 0xa0012 then some vp.siefp
  else if name = 0xa0013 then some vp.simp
  else none

def featuresInfo : Value :=
  let low : UInt64 := 1 <<< (6 : UInt64)
  let high : UInt64 := if hv.crashEnabled then 1 <<< (8 : UInt64) else 0
  if hv.timersEnabled then
    { low := low ||| (1 <<< (1 : UInt64)) ||| (1 <<< (2 : UInt64)) ||| (1 <<< (3 : UInt64))
      high := high ||| (1 <<< (13 : UInt64)) }
  else { low := low, high := high }

def readCommon : Option Value :=
  if name = 0x100 then some { low := 10 <<< (48 : UInt64) }
  else if name = 0x200 then some (featuresInfo hv)
  else if name = 0x201 then some { low := 0xffffffff <<< (32 : UInt64) }
  else if name = 0x202 then
    some { low := UInt64.ofNat cpuCount ||| (UInt64.ofNat cpuCount <<< (32 : UInt64)) }
  else if 0x203 ≤ name ∧ name ≤ 0x209 then some {}
  else if 0x210 ≤ name ∧ name ≤ 0x214 then some { low := hv.crashParams (name - 0x210).toNat }
  else if name = 0x215 then some { low := HV_NOTIFY }
  else if name = 0x90002 then some { low := hv.guestOsId }
  else if name = 0x40400 then some { low := hv.syntheticVectors cpu }
  else if name = 0x90016 then some { low := if hv.vpEnlightened cpu then 1 else 0 }
  else if name = 0x90015 then some { low := hv.partitionInfoPage }
  else if name = 0x90006 then some { low := 0x31237648 }
  else if name = 0x90003 then some { low := UInt64.ofNat cpu }
  else none

/-- The value that `read_register` returns with success. -/
def registerValue : Option Value :=
  if 0x210 ≤ name ∧ name ≤ 0x215 ∧ hv.crashEnabled = false then none
  else if hv.timersEnabled then
    match readSynthetic hv name cpu now with
    | some low => some { low := low }
    | none => readCommon hv name cpu cpuCount
  else readCommon hv name cpu cpuCount

/-- `read_register`: reading the features announces the interface. -/
def readRegister : Partition × Option Value :=
  (if name = 0x200 then { hv with discovered := true } else hv,
    registerValue hv name cpu cpuCount now)

end ScorpiHv.Hyperv

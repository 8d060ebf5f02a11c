import ScorpiHv.Vhost.Message
import ScorpiHv.Virtio.Ready
import ScorpiHv.Virtio.Used

/-!
# The vhost GPU device

`pci_virtio_gpu_vhost.c` with the helpers of `pci_virtio_vhost.c`, about queues, and the
records of `virtio_vhost.h` that describe a device to its backend.
-/

namespace ScorpiHv.Vhost

def SCORPI_VIRTIO_GPU_KERNEL_QUEUE_COUNT : Nat := 4
def SCORPI_VIRTIO_GPU_USER_QUEUE_COUNT : Nat := 64
def SCORPI_VIRTIO_VHOST_MAX_QUEUES : Nat :=
  SCORPI_VIRTIO_GPU_KERNEL_QUEUE_COUNT + SCORPI_VIRTIO_GPU_USER_QUEUE_COUNT

def SCORPI_VHOST_MSG_QUEUE_RESET_DONE : UInt32 := 25

structure QueueDesc where
  index : Nat := 0
  size : Nat := 0
  descAddr : UInt64 := 0
  availAddr : UInt64 := 0
  usedAddr : UInt64 := 0
  ready : Bool := false
  resetting : Bool := false
  deriving DecidableEq

structure MemoryRegion where
  index : Nat
  guestPhysAddr : UInt64
  size : UInt64
  shmFd : Int
  shmName : String
  shmOffset : UInt64
  deriving DecidableEq

/-- `struct scorpi_virtio_vhost_transport_desc`; all zeros by default. -/
structure TransportDesc where
  backendId : String := ""
  deviceName : String := ""
  features : UInt64 := 0
  resetGeneration : UInt32 := 0
  queueCount : Nat := 0
  queues : List QueueDesc := List.replicate SCORPI_VIRTIO_VHOST_MAX_QUEUES {}
  memoryRegions : List MemoryRegion := []
  ready : Bool := false
  deriving DecidableEq

structure QueueReset where
  index : Nat := 0
  deviceGeneration : UInt32 := 0
  serial : UInt64 := 0
  deriving DecidableEq

def QueueReset.size : Nat := 16

def Msg.queueReset (m : Msg) : QueueReset where
  index := field m.payload 0 4
  deviceGeneration := UInt32.ofNat (field m.payload 4 4)
  serial := UInt64.ofNat (field m.payload 8 8)

open Function Bytes Virtio

def VHOST_DEFAULT_QUEUE_SIZE : Nat := 1024
def VHOST_GPU_QUEUE_COUNT : Nat := SCORPI_VIRTIO_GPU_KERNEL_QUEUE_COUNT
def VHOST_GPU_QUEUE_CAPACITY : Nat := SCORPI_VIRTIO_VHOST_MAX_QUEUES
def VHOST_GPU_COMMON_Q_RESET : Nat := 58
def VHOST_GPU_CTRLQ : Nat := 0
def SCORPI_GPU_USER_NOTIFY_STRIDE : Nat := 64 * 1024
def SCORPI_GPU_USER_NOTIFY_BYTES : Nat :=
  SCORPI_GPU_USER_NOTIFY_STRIDE * SCORPI_VIRTIO_GPU_USER_QUEUE_COUNT

def COMMON_CFG_SIZE : Nat := 56

def GPU_CONFIG_SIZE : Nat := 32

def VIRTIO_F_VERSION_1 : UInt64 := (1 : UInt64) <<< 32
def VHOST_GPU_F_RING_RESET : UInt64 := (1 : UInt64) <<< 40
def VIRTIO_GPU_F_EDID : UInt64 := (1 : UInt64) <<< 1
def VIRTIO_GPU_F_SCORPI_DX12 : UInt64 := (1 : UInt64) <<< 10
def VIRTIO_GPU_F_SCORPI_LOGS : UInt64 := (1 : UInt64) <<< 11
def VIRTIO_GPU_F_SCORPI_USER_SUBMISSION : UInt64 := (1 : UInt64) <<< 12
def VIRTIO_GPU_F_SCORPI_HOST_CURSOR : UInt64 := (1 : UInt64) <<< 13
def VHOST_GPU_TRANSPORT_FEATURES : UInt64 := VIRTIO_RING_F_INDIRECT_DESC ||| VIRTIO_F_VERSION_1
def VHOST_GPU_DEVICE_FEATURES : UInt64 :=
  VIRTIO_GPU_F_EDID ||| VIRTIO_GPU_F_SCORPI_DX12 ||| VIRTIO_GPU_F_SCORPI_LOGS

def VIRTIO_PCI_ISR_INTR : UInt8 := 1
def VIRTIO_CONFIG_STATUS_DRIVER_OK : UInt8 := 0x04
def VIRTIO_CONFIG_S_NEEDS_RESET : UInt8 := 0x40
def VIRTIO_CONFIG_STATUS_FAILED : UInt8 := 0x80

def pciVhostQueueDescGpa (vq : VqueueInfo) : UInt64 :=
  if vq.descGpa ≠ 0 then vq.descGpa
  else if vq.pfn ≠ 0 then vq.pfn.toUInt64 <<< 12
  else 0

def pciVhostQueueSizeFromGpa (vq : VqueueInfo) : Nat :=
  let descGpa := pciVhostQueueDescGpa vq
  if descGpa = 0 ∨ vq.availGpa ≤ descGpa then 0
  else
    let gap := (vq.availGpa - descGpa).toNat
    let size := gap / VringDesc.size
    if gap % VringDesc.size ≠ 0 ∨ size = 0 ∨ 0xFFFF < size ∨
        powerof2 (UInt64.ofNat size) = false then 0
    else size

def pciVhostQueueSize (vq : VqueueInfo) : Nat :=
  if vq.qsize ≠ 0 then vq.qsize
  else if pciVhostQueueSizeFromGpa vq ≠ 0 then pciVhostQueueSizeFromGpa vq
  else vq.maxqsize

def pciVhostQueueAvailGpa (vq : VqueueInfo) : UInt64 :=
  if vq.availGpa ≠ 0 then vq.availGpa
  else if pciVhostQueueDescGpa vq = 0 then 0
  else pciVhostQueueDescGpa vq + UInt64.ofNat (pciVhostQueueSize vq * VringDesc.size)

def pciVhostQueueUsedGpa (vq : VqueueInfo) : UInt64 :=
  if vq.usedGpa ≠ 0 then vq.usedGpa
  else if pciVhostQueueAvailGpa vq = 0 then 0
  else
    let align := UInt64.ofNat VRING_ALIGN
    (pciVhostQueueAvailGpa vq + UInt64.ofNat ((2 + pciVhostQueueSize vq + 1) * 2) + (align - 1)) &&&
      ~~~(align - 1)

def pciVhostQueueReady (vq : VqueueInfo) : Bool :=
  vq.ringReady && vq.enabled && pciVhostQueueSize vq != 0

/-- `struct pci_vhost_softc` with its `struct pci_vhost_state`. `published`, `kicks` and
`releases` are history: what went to the backend, and how often a queue was let go. -/
structure VhostSoftc where
  vs : VirtioSoftc
  queueCount : Nat := VHOST_GPU_QUEUE_COUNT
  queueResetting : Nat → Bool := fun _ => false
  backendId : String := "gpu0"
  deviceName : String := "virtio-gpu"
  features : UInt64 := 0
  featuresNegotiated : Bool := false
  resetGeneration : UInt32 := 0
  memory : List MemoryRegion := []
  hardwareMouseEnabled : Bool := true
  nextQueueReset : UInt64 := 0
  queueResets : Nat → QueueReset := fun _ => {}
  queueResetSend : Nat → Bool := fun _ => false
  resetPipe : Bool := false
  published : List TransportDesc := []
  kicks : List Nat := []
  releases : Nat → Nat := fun _ => 0

namespace VhostSoftc

def queueDesc (sc : VhostSoftc) (i : Nat) : QueueDesc :=
  let vq := sc.vs.queues i
  { index := i
    size := pciVhostQueueSize vq
    descAddr := pciVhostQueueDescGpa vq
    availAddr := pciVhostQueueAvailGpa vq
    usedAddr := pciVhostQueueUsedGpa vq
    ready := pciVhostQueueReady vq
    resetting := sc.queueResetting i }

def transportDesc (sc : VhostSoftc) : TransportDesc where
  backendId := sc.backendId
  deviceName := sc.deviceName
  features := sc.features
  resetGeneration := sc.resetGeneration
  queueCount := sc.queueCount
  queues := (List.range SCORPI_VIRTIO_VHOST_MAX_QUEUES).map fun i =>
    if i < sc.queueCount then sc.queueDesc i else {}
  memoryRegions := sc.memory
  ready := decide (VHOST_GPU_CTRLQ < sc.queueCount) && (sc.queueDesc VHOST_GPU_CTRLQ).ready

def bindCallbacks (sc : VhostSoftc) : VhostSoftc :=
  { sc with published := sc.published ++ [sc.transportDesc] }

def pciVhostReset (sc : VhostSoftc) : VhostSoftc :=
  bindCallbacks
    { sc with
      queueResetting := fun _ => false
      queueResets := fun _ => {}
      queueResetSend := fun _ => false
      features := 0
      featuresNegotiated := false
      resetGeneration := sc.resetGeneration + 1
      vs := viResetDev sc.vs
      releases := fun i => sc.releases i + 1 }

def pciVhostNegFeatures (sc : VhostSoftc) (features : UInt64) : VhostSoftc :=
  bindCallbacks { sc with features, featuresNegotiated := true }

def pciVhostQueueNotify (sc : VhostSoftc) (q : Nat) : VhostSoftc :=
  if sc.queueResetting q then sc
  else { sc.bindCallbacks with kicks := sc.kicks ++ [q] }

def pciVhostQueueReset (sc : VhostSoftc) (i : Nat) : VhostSoftc :=
  if sc.nextQueueReset = 0xFFFFFFFFFFFFFFFF then sc
  else
    let serial := sc.nextQueueReset + 1
    { bindCallbacks
        { sc with
          nextQueueReset := serial
          queueResets := update sc.queueResets i ⟨i, sc.resetGeneration, serial⟩
          queueResetSend := update sc.queueResetSend i true } with
      resetPipe := true }

/-- `pci_vhost_complete_queue_reset`, which clears as much of a queue as `vi_reset_dev`. -/
def pciVhostCompleteQueueReset (sc : VhostSoftc) (i : Nat) : VhostSoftc :=
  { sc with
    vs := sc.vs.setQueue i (sc.vs.queues i).reset
    queueResetting := update sc.queueResetting i false
    releases := update sc.releases i (sc.releases i + 1) }

/-- The checks on a `SCORPI_VHOST_MSG_QUEUE_RESET_DONE`. -/
def acknowledges (sc : VhostSoftc) (m : Msg) : Bool :=
  let reset := m.queueReset
  m.header.request = SCORPI_VHOST_MSG_QUEUE_RESET_DONE ∧
  m.header.size.toNat = QueueReset.size ∧ reset.index < sc.queueCount ∧
  sc.queueResetting reset.index = true ∧ reset.serial ≠ 0 ∧
  reset.deviceGeneration = sc.resetGeneration ∧ reset.serial = (sc.queueResets reset.index).serial

/-- `pci_vhost_backend_event`; the other messages are about the display. -/
def pciVhostBackendEvent (sc : VhostSoftc) (m : Msg) : VhostSoftc :=
  if sc.acknowledges m then
    let i := m.queueReset.index
    let sc := sc.pciVhostCompleteQueueReset i
    bindCallbacks { sc with queueResets := update sc.queueResets i {} }
  else sc

/-- `pci_vhost_interrupt` for a queue the backend has signalled, with guest memory `mem`. -/
def pciVhostInterrupt (msixEnabled : Bool) (mem : Store) (sc : VhostSoftc) (i : Nat) :
    VhostSoftc :=
  let vq := sc.vs.queues i
  if i < sc.queueCount ∧ pciVhostQueueReady vq then
    let eventIdx := sc.vs.negotiatedCaps &&& VIRTIO_RING_F_EVENT_IDX != 0
    let (ring, intr) := Virtio.Ring.endchains ⟨vq, mem⟩ eventIdx false
    let isr := if intr && !msixEnabled then sc.vs.isr ||| VIRTIO_PCI_ISR_INTR else sc.vs.isr
    { sc with vs := { sc.vs.setQueue i ring.vq with isr } }
  else sc

def viPciReset (sc : VhostSoftc) : VhostSoftc :=
  pciVhostReset { sc with vs := { sc.vs with status := 0 } }

/-- The first loop of `pci_vhost_send_queue_resets`. -/
def drainResetPipe (sc : VhostSoftc) : VhostSoftc := { sc with resetPipe := false }

def takeQueueReset (sc : VhostSoftc) (i : Nat) : VhostSoftc × Option QueueReset :=
  ({ sc with queueResetSend := update sc.queueResetSend i false },
    if sc.queueResetSend i && sc.queueResetting i then some (sc.queueResets i) else none)

/-- `pci_vhost_device_features`, beside the display hint. -/
def pciVhostDeviceFeatures (sc : VhostSoftc) (deviceFeatures : UInt64) : VhostSoftc :=
  if sc.featuresNegotiated then sc
  else
    let caps := VHOST_GPU_TRANSPORT_FEATURES ||| (deviceFeatures &&& (VHOST_GPU_DEVICE_FEATURES |||
      VIRTIO_GPU_F_SCORPI_USER_SUBMISSION ||| VIRTIO_GPU_F_SCORPI_HOST_CURSOR |||
      VHOST_GPU_F_RING_RESET))
    let hvCaps := if sc.hardwareMouseEnabled then caps
      else caps &&& ~~~VIRTIO_GPU_F_SCORPI_HOST_CURSOR
    let nvq := if deviceFeatures &&& VIRTIO_GPU_F_SCORPI_USER_SUBMISSION ≠ 0
      then VHOST_GPU_QUEUE_CAPACITY else VHOST_GPU_QUEUE_COUNT
    { sc with vs := { sc.vs with vc := { sc.vs.vc with hvCaps, nvq } }, queueCount := nvq }

def calledBack (sc : VhostSoftc) (w : VirtioSoftc × Callback) : VhostSoftc :=
  let sc := { sc with vs := w.1 }
  match w.2 with
  | .none => sc
  | .reset => sc.pciVhostReset
  | .applyFeatures => sc.pciVhostNegFeatures w.1.negotiatedCaps
  | .notify q => sc.pciVhostQueueNotify q
  | .cfgwrite _ _ _ => sc

end VhostSoftc

def scorpiGpuUserNotifyQueue (offset : UInt64) (size : Nat) : Option Nat :=
  if (size ≠ 2 ∧ size ≠ 4) ∨ SCORPI_GPU_USER_NOTIFY_BYTES ≤ offset.toNat ∨
      offset.toNat % SCORPI_GPU_USER_NOTIFY_STRIDE ≠ 0 then none
  else some (SCORPI_VIRTIO_GPU_KERNEL_QUEUE_COUNT + offset.toNat / SCORPI_GPU_USER_NOTIFY_STRIDE)

/-- The BARs of the device. `msix` holds the MSI-X table. -/
inductive Bar where
  | legacyCtrl
  | legacyFb
  | modern
  | msix
  | userNotify
  deriving DecidableEq

namespace VhostSoftc

/-- `vs_curq` as an `uint32_t`. -/
def selected (sc : VhostSoftc) : Nat := (sc.vs.curq % 2 ^ 32).toNat

def live (sc : VhostSoftc) (i : Nat) : Bool := (sc.vs.queues i).enabled || sc.queueResetting i

def ringRegister (offset : Nat) : Bool :=
  offset = VIRTIO_PCI_COMMON_Q_SIZE ∨ offset = VIRTIO_PCI_COMMON_Q_ENABLE ∨
    VIRTIO_PCI_COMMON_Q_DESCLO ≤ offset ∧ offset ≤ VIRTIO_PCI_COMMON_Q_USEDHI

/-- The `VHOST_GPU_MODERN_BAR` case of `pci_vhost_barwrite`. -/
def writeModern (ram : Ram) (sc : VhostSoftc) (offset : UInt64) (size : Nat) (value : UInt64) :
    Except Virtio.Fault VhostSoftc :=
  let i := sc.selected
  if offset.toNat = VHOST_GPU_COMMON_Q_RESET then
    if size = 2 ∧ value = 1 ∧ i < sc.queueCount ∧
        sc.vs.negotiatedCaps &&& VHOST_GPU_F_RING_RESET ≠ 0 ∧ sc.queueResetting i = false then
      .ok (pciVhostQueueReset
        { sc with queueResetting := update sc.queueResetting i true } i)
    else .ok sc
  else if COMMON_CFG_SIZE ≤ offset.toNat ∧ offset.toNat < 64 then .ok sc
  else if i < sc.queueCount ∧ sc.live i = true ∧ ringRegister offset.toNat = true then .ok sc
  else (viPciWriteModern ram sc.vs offset size value).map sc.calledBack

/-- The conditions of the `SCORPI_GPU_USER_NOTIFY_BAR` case. -/
def userKickAllowed (sc : VhostSoftc) (queue : Nat) : Bool :=
  let mask := VIRTIO_CONFIG_STATUS_DRIVER_OK ||| VIRTIO_CONFIG_S_NEEDS_RESET |||
    VIRTIO_CONFIG_STATUS_FAILED
  sc.vs.negotiatedCaps &&& VIRTIO_GPU_F_SCORPI_USER_SUBMISSION ≠ 0 ∧
  sc.vs.status &&& mask = VIRTIO_CONFIG_STATUS_DRIVER_OK ∧ queue < sc.queueCount ∧
  (sc.vs.queues queue).enabled = true ∧ sc.queueResetting queue = false ∧
  (sc.vs.queues queue).ringReady = true

def writeUserNotify (sc : VhostSoftc) (offset : UInt64) (size : Nat) : VhostSoftc :=
  match scorpiGpuUserNotifyQueue offset size with
  | none => sc
  | some queue => if sc.userKickAllowed queue then sc.pciVhostQueueNotify queue else sc

/-- `pci_vhost_barwrite`. The legacy BARs are about the display. -/
def pciVhostBarwrite (ram : Ram) (sc : VhostSoftc) (bar : Bar) (offset : UInt64) (size : Nat)
    (value : UInt64) : Except Virtio.Fault VhostSoftc :=
  match bar with
  | .legacyCtrl => .ok sc
  | .legacyFb => .ok sc
  | .msix => .ok sc
  | .userNotify => .ok (sc.writeUserNotify offset size)
  | .modern => sc.writeModern ram offset size value

/-- The device after `pci_vhost_init`. -/
def pciVhostInit (backendId : String) (memory : List MemoryRegion) (hardwareMouseEnabled : Bool) :
    VhostSoftc :=
  bindCallbacks
    { vs :=
        { vc := ⟨VHOST_GPU_QUEUE_COUNT, GPU_CONFIG_SIZE, VHOST_GPU_TRANSPORT_FEATURES⟩
          queues := fun _ =>
            { qsize := VHOST_DEFAULT_QUEUE_SIZE, maxqsize := VHOST_DEFAULT_QUEUE_SIZE } }
      backendId, memory, hardwareMouseEnabled }

end VhostSoftc

/-- Whoever takes `vsc_mtx`. -/
inductive GpuAction where
  | write (bar : Bar) (offset : UInt64) (size : Nat) (value : UInt64)
  | event (m : Msg)
  | features (deviceFeatures : UInt64)
  | interrupt (msixEnabled : Bool) (mem : Store) (i : Nat)
  | pciReset
  | drain
  | take (i : Nat)

def VhostSoftc.act (ram : Ram) (sc : VhostSoftc) : GpuAction → Except Virtio.Fault VhostSoftc
  | .write bar offset size value => sc.pciVhostBarwrite ram bar offset size value
  | .event m => .ok (sc.pciVhostBackendEvent m)
  | .features deviceFeatures => .ok (sc.pciVhostDeviceFeatures deviceFeatures)
  | .interrupt msixEnabled mem i => .ok (pciVhostInterrupt msixEnabled mem sc i)
  | .pciReset => .ok sc.viPciReset
  | .drain => .ok sc.drainResetPipe
  | .take i => .ok (sc.takeQueueReset i).1

end ScorpiHv.Vhost

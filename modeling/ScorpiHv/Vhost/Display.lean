import ScorpiHv.Usb.Mouse

/-!
# The display of the GPU

`pci_virtio_gpu_vhost.c`, the half that `Vhost.Gpu` leaves out: the legacy frame buffer,
the renderer's scanouts and surfaces, and the console they share (`console.c`), whose log
keeps, newest first, what was sent to the viewer. Names leave out `pci_vhost_`.
-/

namespace ScorpiHv

/-- A `uint32_t` passed as an `int`. -/
def cint (v : UInt32) : Int := (v.toNat : Int).bmod (2 ^ 32)

structure Scanout where
  w : Int
  h : Int
  stride : Int
  format : UInt32
  shmName : String
  shmSize : Nat
  redrawOnTimer : Bool
  deriving DecidableEq

structure DisplaySurface where
  w : Int
  h : Int
  format : UInt32
  handleType : UInt32
  surfaceId : UInt64
  fenceValue : UInt64
  diagnosticSequence : UInt64
  deriving DecidableEq

inductive Notification where
  | setScanout (s : Scanout)
  | unsetScanout
  | setDisplaySurface (s : DisplaySurface)
  | unsetDisplaySurface
  deriving DecidableEq

structure Console where
  scanoutActive : Bool := false
  displaySurfaceActive : Bool := false
  w : Int := 0
  h : Int := 0
  log : List Notification := []
  deriving DecidableEq

namespace Console

/-- `console_set_scanout` with `scanout_active`. -/
def setScanout (c : Console) (s : Scanout) : Console :=
  { c with scanoutActive := true, w := s.w, h := s.h, log := .setScanout s :: c.log }

/-- `console_set_scanout(false, 0, 0, ...)` -/
def unsetScanout (c : Console) : Console :=
  { c with scanoutActive := false, w := 0, h := 0, log := .unsetScanout :: c.log }

/-- `console_set_display_surface` with `active`. -/
def setDisplaySurface (c : Console) (s : DisplaySurface) : Console :=
  { c with displaySurfaceActive := true, w := s.w, h := s.h, log := .setDisplaySurface s :: c.log }

/-- `console_set_display_surface(false, 0, 0, ...)`, which clears the one pair of
dimensions whether or not a scanout uses it. -/
def unsetDisplaySurface (c : Console) : Console :=
  { c with displaySurfaceActive := false, w := 0, h := 0, log := .unsetDisplaySurface :: c.log }

def isActive (c : Console) : Bool := c.scanoutActive || c.displaySurfaceActive

def scanoutSize (c : Console) : Option (Int × Int) := if c.isActive then some (c.w, c.h) else none

end Console

def scanoutOf : List Notification → Option Scanout
  | [] => none
  | .setScanout s :: _ => some s
  | .unsetScanout :: _ => none
  | .setDisplaySurface _ :: log => scanoutOf log
  | .unsetDisplaySurface :: log => scanoutOf log

def surfaceOf : List Notification → Option DisplaySurface
  | [] => none
  | .setDisplaySurface s :: _ => some s
  | .unsetDisplaySurface :: _ => none
  | .setScanout _ :: log => surfaceOf log
  | .unsetScanout :: log => surfaceOf log

def rendererScanoutOf : List Notification → Option Scanout
  | [] => none
  | .setScanout s :: log => if s.redrawOnTimer then rendererScanoutOf log else some s
  | .unsetScanout :: log => rendererScanoutOf log
  | .setDisplaySurface _ :: log => rendererScanoutOf log
  | .unsetDisplaySurface :: log => rendererScanoutOf log

def shown (log : List Notification) : Option (Int × Int) :=
  match surfaceOf log with
  | some s => some (s.w, s.h)
  | none => (scanoutOf log).map fun s => (s.w, s.h)

end ScorpiHv

namespace ScorpiHv.Vhost

def VHOST_LEGACY_FB_BAR : Int := 1
def VHOST_LEGACY_CTRL_SIZE : Nat := 512
def VHOST_LEGACY_FB_SIZE : Nat := 128 * 1024 * 1024
def VIRTIO_GPU_FORMAT_B8G8R8X8_UNORM : UInt32 := 2
def SCORPI_VHOST_SCANOUT_F_ENABLED : UInt32 := 1
def SCORPI_VHOST_DISPLAY_SURFACE_F_ENABLED : UInt32 := 1
def VHOST_GPU_COLS_MAX : Int := 7680
def VHOST_GPU_ROWS_MAX : Int := 4320
def VHOST_GPU_COLS_MIN : Int := 640
def VHOST_GPU_ROWS_MIN : Int := 480

structure ScanoutMsg where
  flags : UInt32
  width : UInt32
  height : UInt32
  stride : UInt32
  format : UInt32
  shmSize : UInt64
  shmName : String
  deriving DecidableEq

structure DisplaySurfaceMsg where
  flags : UInt32
  width : UInt32
  height : UInt32
  format : UInt32
  handleType : UInt32
  reserved0 : UInt32
  reserved1 : UInt32
  surfaceId : UInt64
  fenceValue : UInt64
  deriving DecidableEq

/-- The fields of `struct pci_vhost_softc` about the display, with the console. -/
structure DisplaySoftc where
  driverOk : Bool := false
  resx : UInt32 := 1024
  resy : UInt32 := 768
  rendererScanoutActive : Bool := false
  rendererSurfaceActive : Bool := false
  legacyFbBase : Bool := false
  legacyFbSize : Nat := 0
  legacyFbShmName : String := ""
  legacyFbDirectMapped : Bool := false
  legacyFbDirectGpa : UInt64 := 0
  console : Console := {}
  deriving DecidableEq

namespace DisplaySoftc

/-- `roundup2(resx * 4, 32)` in 32 bits. -/
def legacyStride (sc : DisplaySoftc) : UInt32 := (sc.resx * 4 + 31) &&& 0xFFFFFFE0

def legacyScanout (sc : DisplaySoftc) : Scanout where
  w := cint sc.resx
  h := cint sc.resy
  stride := cint sc.legacyStride
  format := VIRTIO_GPU_FORMAT_B8G8R8X8_UNORM
  shmName := sc.legacyFbShmName
  shmSize := sc.legacyFbSize
  redrawOnTimer := true

def setLegacyScanout (sc : DisplaySoftc) : DisplaySoftc :=
  if sc.legacyFbBase then { sc with console := sc.console.setScanout sc.legacyScanout }
  else { sc with console := sc.console.unsetScanout }

def ScanoutMsg.disabled (m : ScanoutMsg) : Prop :=
  m.flags &&& SCORPI_VHOST_SCANOUT_F_ENABLED = 0 ∨ m.width = 0 ∨ m.height = 0

instance (m : ScanoutMsg) : Decidable (ScanoutMsg.disabled m) :=
  inferInstanceAs (Decidable (_ ∨ _ ∨ _))

def rendererScanout (m : ScanoutMsg) : Scanout where
  w := cint m.width
  h := cint m.height
  stride := cint (if m.stride ≠ 0 then m.stride else m.width * 4)
  format := if m.format ≠ 0 then m.format else VIRTIO_GPU_FORMAT_B8G8R8X8_UNORM
  shmName := m.shmName
  shmSize := m.shmSize.toNat
  redrawOnTimer := false

/-- `pci_vhost_apply_renderer_scanout`. Blanking the frame buffer does not touch the
console. -/
def applyRendererScanout (sc : DisplaySoftc) (m : ScanoutMsg) : DisplaySoftc :=
  if ScanoutMsg.disabled m then
    let sc := { sc with rendererScanoutActive := false }
    if sc.rendererSurfaceActive then sc else sc.setLegacyScanout
  else if sc.driverOk = false then sc
  else if m.shmName = "" ∨ m.shmSize = 0 then sc
  else
    { sc with
      rendererScanoutActive := true
      rendererSurfaceActive := false
      console := sc.console.unsetDisplaySurface.setScanout (rendererScanout m) }

def DisplaySurfaceMsg.disabled (m : DisplaySurfaceMsg) : Prop :=
  m.flags &&& SCORPI_VHOST_DISPLAY_SURFACE_F_ENABLED = 0 ∨ m.width = 0 ∨ m.height = 0 ∨
    m.surfaceId = 0

instance (m : DisplaySurfaceMsg) : Decidable (DisplaySurfaceMsg.disabled m) :=
  inferInstanceAs (Decidable (_ ∨ _ ∨ _ ∨ _))

def rendererSurface (m : DisplaySurfaceMsg) : DisplaySurface where
  w := cint m.width
  h := cint m.height
  format := m.format
  handleType := m.handleType
  surfaceId := m.surfaceId
  fenceValue := m.fenceValue
  diagnosticSequence := m.reserved1.toUInt64 <<< 32 ||| m.reserved0.toUInt64

def applyRendererDisplaySurface (sc : DisplaySoftc) (m : DisplaySurfaceMsg) : DisplaySoftc :=
  if DisplaySurfaceMsg.disabled m then
    let sc := { sc with
      rendererSurfaceActive := false, console := sc.console.unsetDisplaySurface }
    if sc.rendererScanoutActive then sc else sc.setLegacyScanout
  else if sc.driverOk = false then sc
  else
    { sc with
      rendererSurfaceActive := true
      rendererScanoutActive := false
      console := sc.console.setDisplaySurface (rendererSurface m) }

def legacyCtrlPublish (sc : DisplaySoftc) : DisplaySoftc :=
  if sc.rendererScanoutActive = false ∧ sc.rendererSurfaceActive = false then sc.setLegacyScanout
  else sc

def legacyCtrlWrite (sc : DisplaySoftc) (offset size : Nat) (value : UInt64) : DisplaySoftc :=
  if VHOST_LEGACY_CTRL_SIZE < offset + size then sc
  else if offset = 4 then { sc with resx := value.toUInt32 }.legacyCtrlPublish
  else if offset = 6 then { sc with resy := value.toUInt32 }.legacyCtrlPublish
  else sc

def unmapLegacyFb (sc : DisplaySoftc) : DisplaySoftc :=
  if sc.legacyFbDirectMapped then { sc with legacyFbDirectMapped := false, legacyFbDirectGpa := 0 }
  else sc

def destroyLegacyFb (sc : DisplaySoftc) : DisplaySoftc :=
  { sc.unmapLegacyFb with legacyFbBase := false, legacyFbShmName := "", legacyFbSize := 0 }

structure BarHost where
  memEnabled : Bool
  shmName : String
  shmOpens : Bool
  shmMaps : Bool
  directMapped : Bool
  segmentMaps : Bool
  deriving DecidableEq

/-- `pci_vhost_create_legacy_fb`, `none` when it fails after the state given. -/
def createLegacyFb (sc : DisplaySoftc) (host : BarHost) : DisplaySoftc × Bool :=
  if sc.legacyFbBase then (sc, true)
  else
    let sc := { sc with legacyFbShmName := host.shmName }
    if host.shmOpens = false then (sc, false)
    else
      let sc := { sc with legacyFbSize := VHOST_LEGACY_FB_SIZE }
      if host.shmMaps = false then (sc.destroyLegacyFb, false)
      else ({ sc with legacyFbBase := true }, true)

def mapLegacyFb (sc : DisplaySoftc) (host : BarHost) (address : UInt64) : DisplaySoftc :=
  if host.directMapped ∧ sc.legacyFbDirectMapped = false ∧ host.segmentMaps then
    { sc with legacyFbDirectMapped := true, legacyFbDirectGpa := address }
  else sc

/-- `pci_vhost_baraddr`. The last line does not look at the renderer's flags. -/
def baraddr (sc : DisplaySoftc) (host : BarHost) (baridx : Int) (enabled : Bool)
    (address : UInt64) : DisplaySoftc :=
  if baridx ≠ VHOST_LEGACY_FB_BAR then sc
  else if enabled = false then if host.memEnabled then sc.unmapLegacyFb else sc
  else
    let sc := if sc.legacyFbDirectMapped ∧ sc.legacyFbDirectGpa ≠ address then sc.unmapLegacyFb
      else sc
    match sc.createLegacyFb host with
    | (sc, false) => sc
    | (sc, true) => (sc.mapLegacyFb host address).setLegacyScanout

/-- `pci_vhost_reset`, about the display. -/
def reset (sc : DisplaySoftc) : DisplaySoftc :=
  let sc := { sc with
    rendererScanoutActive := false
    rendererSurfaceActive := false
    console := sc.console.unsetDisplaySurface }
  { sc.setLegacyScanout with driverOk := false }

/-- `resize_event`, about the display. -/
def resizeEvent (sc : DisplaySoftc) (x y : Int) : DisplaySoftc :=
  if VHOST_GPU_COLS_MIN ≤ x ∧ x ≤ VHOST_GPU_COLS_MAX ∧
      VHOST_GPU_ROWS_MIN ≤ y ∧ y ≤ VHOST_GPU_ROWS_MAX then
    { sc with resx := UInt32.ofNat x.toNat, resy := UInt32.ofNat y.toNat }
  else sc

end DisplaySoftc

structure Desktop where
  gpu : DisplaySoftc
  mouse : Usb.UmouseSoftc

inductive DisplayAction where
  | scanout (m : ScanoutMsg)
  | displaySurface (m : DisplaySurfaceMsg)
  | legacyCtrl (offset size : Nat) (value : UInt64)
  | baraddr (host : DisplaySoftc.BarHost) (baridx : Int) (enabled : Bool) (address : UInt64)
  | reset
  | driverOk (ok : Bool)
  | resize (x y : Int)
  | pointer (button : UInt8) (x y delta : Int)

def DisplaySoftc.act (sc : DisplaySoftc) : DisplayAction → DisplaySoftc
  | .scanout m => sc.applyRendererScanout m
  | .displaySurface m => sc.applyRendererDisplaySurface m
  | .legacyCtrl offset size value => sc.legacyCtrlWrite offset size value
  | .baraddr host baridx enabled address => sc.baraddr host baridx enabled address
  | .reset => sc.reset
  | .driverOk ok => { sc with driverOk := ok }
  | .resize x y => sc.resizeEvent x y
  | .pointer _ _ _ _ => sc

def Desktop.act (d : Desktop) (a : DisplayAction) : Except Usb.Trap Desktop :=
  match a with
  | .pointer button x y delta =>
    (d.mouse.umouseScrollEvent d.gpu.console.scanoutSize button x y delta).map
      fun mouse => { d with mouse }
  | a => .ok { d with gpu := d.gpu.act a }

/-- The desktop after `pci_vhost_init` with a resolution. -/
def Desktop.init (resx resy : UInt32) : Desktop where
  gpu := { resx, resy }
  mouse := Usb.UmouseSoftc.umouseInit

end ScorpiHv.Vhost

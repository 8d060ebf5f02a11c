import ScorpiHv.Lib.Canonical
import ScorpiHv.Lib.Nvlist

/-!
# Virtual machines and their normal form

`libscorpi/scorpi.c`: a machine is a list of properties and a list of devices, built by calls.
Its normal form has both sorted. `scorpi_vm_validate` checks it. Names leave out `scorpi_`.
-/

namespace ScorpiHv.Config
open Canonical

inductive ScorpiError where
  | invalidArg
  | runtime
  | validation
  | unsupported
  | unsupportedDevice
  | invalidParent
  | duplicateId
  /-- An assertion of libnv fails and the process ends. -/
  | aborted
  deriving DecidableEq

/-- The union of `struct scorpi_prop` with its kind. -/
inductive PropValue where
  | string (s : Option Str)
  | bool (b : Bool)
  | u64 (v : UInt64)
  deriving DecidableEq

def PropValue.kind : PropValue → Nat
  | .string _ => 0
  | .bool _ => 1
  | .u64 _ => 2

/-- `struct scorpi_prop`, also in its normal form. -/
structure VmProp where
  name : Str
  value : PropValue
  deriving DecidableEq

inductive BusKind where
  | pci
  | usb
  | lpc
  deriving DecidableEq

def BusKind.code : BusKind → Nat
  | .pci => 0
  | .usb => 1
  | .lpc => 2

def SCORPI_PCI_SLOT_AUTO : UInt64 := 0xffffffffffffffff

structure Device where
  device : Str
  props : List VmProp := []
  slot : UInt64 := SCORPI_PCI_SLOT_AUTO
  bus : BusKind
  attached : Bool := false
  deriving DecidableEq

structure Vm where
  props : List VmProp := []
  devices : List Device := []
  deriving DecidableEq

def propFind : List VmProp → Str → Option PropValue
  | [], _ => none
  | p :: ps, name => if p.name = name then some p.value else propFind ps name

/-- `scorpi_prop_ensure` and the store after it: a known property changes in place, a new one
comes first. -/
def propSet (ps : List VmProp) (name : Str) (v : PropValue) : List VmProp :=
  if (propFind ps name).isSome then
    ps.map fun p => if p.name = name then { p with value := v } else p
  else { name, value := v } :: ps

def stringProp (ps : List VmProp) (name : Str) : Option Str :=
  match propFind ps name with
  | some (.string s) => s
  | _ => none

def Device.id (d : Device) : Option Str := stringProp d.props "id".toList

/-- The machine under construction, with every device created for it. `added` holds the devices
of the machine, the last one first. -/
structure Builder where
  props : List VmProp := []
  created : List Device := []
  added : List Nat := []

namespace Builder

def vm (b : Builder) : Vm :=
  { props := b.props, devices := b.added.filterMap fun i => b.created[i]? }

end Builder

inductive Call where
  | setProp (name : Str) (v : PropValue)
  | setCpu (cores : UInt64)
  | setRam (bytes : UInt64)
  | createPciDevice (device : Str) (slot : UInt64)
  | createUsbDevice (device : Str)
  | createLpcDevice (device : Str)
  | setDeviceProp (i : Nat) (name : Str) (v : PropValue)
  | addDevice (i : Nat)

def findDeviceById (ds : List Device) (id : Str) : Option Device :=
  if id = [] then none else ds.find? fun d => d.id = some id

namespace Builder

def badProp (name : Str) (v : PropValue) : Bool := decide (name = [] ∨ v = .string none)

def setProp (b : Builder) (name : Str) (v : PropValue) : Except ScorpiError Builder :=
  if badProp name v then .error .invalidArg else .ok { b with props := propSet b.props name v }

def createDevice (b : Builder) (device : Str) (slot : UInt64) (bus : BusKind) :
    Except ScorpiError Builder :=
  if device = [] then .error .invalidArg
  else .ok { b with created := b.created ++ [{ device, slot, bus }] }

def setDeviceProp (b : Builder) (i : Nat) (name : Str) (v : PropValue) :
    Except ScorpiError Builder :=
  match b.created[i]? with
  | none => .error .invalidArg
  | some d =>
    if badProp name v then .error .invalidArg
    else .ok { b with created := b.created.set i { d with props := propSet d.props name v } }

def addDevice (b : Builder) (i : Nat) : Except ScorpiError Builder :=
  match b.created[i]? with
  | none => .error .invalidArg
  | some d =>
    if d.attached then .error .invalidArg
    else if (d.id.bind (findDeviceById b.vm.devices)).isSome then .error .duplicateId
    else .ok { b with
      created := b.created.set i { d with attached := true }, added := i :: b.added }

def call (b : Builder) : Call → Except ScorpiError Builder
  | .setProp name v => b.setProp name v
  | .setCpu cores =>
    if cores = 0 then .error .invalidArg else b.setProp "cpu.cores".toList (.u64 cores)
  | .setRam bytes =>
    if bytes = 0 then .error .invalidArg else b.setProp "memory.size".toList (.u64 bytes)
  | .createPciDevice device slot => b.createDevice device slot .pci
  | .createUsbDevice device => b.createDevice device SCORPI_PCI_SLOT_AUTO .usb
  | .createLpcDevice device => b.createDevice device SCORPI_PCI_SLOT_AUTO .lpc
  | .setDeviceProp i name v => b.setDeviceProp i name v
  | .addDevice i => b.addDevice i

def step (b : Builder) (c : Call) : Builder := (b.call c).toOption.getD b

def run (cs : List Call) : Builder := cs.foldl step {}

end Builder

def valueCompare : PropValue → PropValue → Ordering
  | .string a, .string b => compare a b
  | .bool a, .bool b => compare a b
  | .u64 a, .u64 b => compare a b
  | a, b => compare a.kind b.kind

def normalizedPropCompare (l r : VmProp) : Ordering :=
  (compare l.name r.name).then (valueCompare l.value r.value)

structure NormalizedDevice where
  device : Str
  id : Option Str
  parent : Option Str
  slot : UInt64
  bus : BusKind
  props : List VmProp
  deriving DecidableEq

def propsCompare : List VmProp → List VmProp → Ordering
  | l :: ls, r :: rs => (normalizedPropCompare l r).then (propsCompare ls rs)
  | _, _ => .eq

def normalizedDeviceCompare (l r : NormalizedDevice) : Ordering :=
  (compare l.id r.id).then ((compare l.bus.code r.bus.code).then
    ((compare l.device r.device).then ((compare l.slot r.slot).then
      ((compare l.parent r.parent).then ((compare l.props.length r.props.length).then
        (propsCompare l.props r.props))))))

structure NormalizedVm where
  props : List VmProp
  devices : List NormalizedDevice
  deriving DecidableEq

def normalizedDeviceCopy (d : Device) : NormalizedDevice where
  device := d.device
  id := d.id
  parent := stringProp d.props "parent".toList
  slot := d.slot
  bus := d.bus
  props := sortBy normalizedPropCompare d.props

def vmNormalize (vm : Vm) : NormalizedVm where
  props := sortBy normalizedPropCompare vm.props
  devices := sortBy normalizedDeviceCompare (vm.devices.map normalizedDeviceCopy)

/-- The loops of `scorpi_normalized_vm_equal`. -/
def allEqual {α : Type} (cmp : α → α → Ordering) (ls rs : List α) : Bool :=
  decide (ls.length = rs.length) && (ls.zip rs).all fun p => cmp p.1 p.2 == .eq

def normalizedVmEqual (l r : NormalizedVm) : Bool :=
  allEqual normalizedPropCompare l.props r.props &&
    allEqual normalizedDeviceCompare l.devices r.devices

def positiveProp (ps : List VmProp) (name : Str) : Bool :=
  match propFind ps name with
  | some (.u64 v) => v ≠ 0
  | _ => false

def isNonemptyString : Option PropValue → Bool
  | some (.string (some s)) => s ≠ []
  | _ => false

def Device.hasStringProp (d : Device) (name : Str) : Bool := isNonemptyString (propFind d.props name)

def resolveParent (vm : Vm) (d : Device) : Except ScorpiError (Option Device) :=
  match propFind d.props "parent".toList with
  | none => .ok none
  | some (.string (some parent)) =>
    if parent = [] ∨ d.id = some parent then .error .invalidParent
    else match findDeviceById vm.devices parent with
      | none => .error .invalidParent
      | some p => .ok (some p)
  | some _ => .error .invalidParent

def Device.isXhci (d : Device) : Bool := decide (d.bus = .pci ∧ d.device = "xhci".toList)

def countXhciControllers (vm : Vm) : Nat := vm.devices.countP Device.isXhci

def validateVmRequiredProps (vm : Vm) : Except ScorpiError Unit :=
  if !positiveProp vm.props "cpu.cores".toList then .error .validation
  else if !positiveProp vm.props "memory.size".toList then .error .validation
  else .ok ()

def validateDeviceIds : List Device → Except ScorpiError Unit
  | [] => .ok ()
  | d :: ds =>
    if (propFind d.props "id".toList).isSome ∧ !d.hasStringProp "id".toList then .error .validation
    else if d.id.isSome ∧ ds.any (fun e => e.id = d.id) then .error .duplicateId
    else validateDeviceIds ds

def validatePciSlots : List Device → Except ScorpiError Unit
  | [] => .ok ()
  | d :: ds =>
    if d.bus = .pci ∧ d.slot ≠ SCORPI_PCI_SLOT_AUTO ∧
        ds.any (fun e => e.bus = .pci ∧ e.slot = d.slot) then .error .validation
    else validatePciSlots ds

/-- One turn of the loop of `scorpi_validate_usb_devices`. -/
def validateUsbDevice (vm : Vm) (d : Device) : Except ScorpiError Unit :=
  if d.bus ≠ .usb then .ok ()
  else match resolveParent vm d with
    | .error e => .error e
    | .ok (some parent) => if parent.isXhci then .ok () else .error .validation
    | .ok none => if countXhciControllers vm ≠ 1 then .error .validation else .ok ()

def validateLpcDevice (d : Device) : Except ScorpiError Unit :=
  if d.bus ≠ .lpc then .ok ()
  else if d.device = "vm-control".toList then
    if d.hasStringProp "path".toList then .ok () else .error .validation
  else if d.device = "tpm".toList then
    if d.hasStringProp "type".toList && d.hasStringProp "path".toList &&
        d.hasStringProp "version".toList && d.hasStringProp "intf".toList then .ok ()
    else .error .validation
  else .ok ()

def validateDevice (vm : Vm) (d : Device) : Except ScorpiError Unit := do
  let _ ← resolveParent vm d
  validateLpcDevice d

def vmValidate (vm : Vm) : Except ScorpiError Unit := do
  validateVmRequiredProps vm
  validateDeviceIds vm.devices
  validatePciSlots vm.devices
  vm.devices.forM (validateUsbDevice vm)
  vm.devices.forM (validateDevice vm)

end ScorpiHv.Config

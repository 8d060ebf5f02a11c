import ScorpiHv.Config.Vm

/-!
# From a machine to a configuration tree

`scorpi_vm_to_config`: every property becomes a string at a path of the tree, every device
a node.
-/

namespace ScorpiHv.Config

/-- The names of a path, as `strsep` finds them. -/
def splitDots : Str → List Str
  | [] => [[]]
  | c :: cs =>
    if c = '.' then [] :: splitDots cs
    else match splitDots cs with
      | [] => [[c]]
      | w :: ws => (c :: w) :: ws

/-- The node of a path and the name of its last part. An empty node is the root. -/
def splitPath (path : Str) : List Str × Str :=
  let names := splitDots path
  let node := names.dropLast
  (if node = [[]] then [] else node, names.getLast?.getD [])

/-- `scorpi_config_find_node` along the names of a path. -/
def findNode : Nvlist → List Str → Option Nvlist
  | t, [] => some t
  | t, name :: path =>
    if name = [] then none else (t.getNvlist name).bind fun sub => findNode sub path

/-- A walk along the names of a path looks into a list that holds an error, or uses a list that
was to be inserted under too long a name and is freed. -/
def aborts (create : Bool) : Nvlist → List Str → Bool
  | t, [] => t.broken
  | t, name :: path =>
    if name = [] then false
    else t.broken || match t.getNvlist name with
      | some sub => aborts create sub path
      | none => create && !t.mem name && (Nvlist.tooLong name || aborts create .nil path)

def configGetValue (t : Nvlist) (path : Str) : Except ScorpiError (Option Str) :=
  if path = [] then .ok none
  else if aborts false t (splitPath path).1 then .error .aborted
  else .ok ((findNode t (splitPath path).1).bind fun sub => sub.getString (splitPath path).2)

def configSetValue (t : Nvlist) (path value : Str) : Except ScorpiError Nvlist :=
  if path = [] then .error .invalidArg
  else if aborts true t (splitPath path).1 then .error .aborted
  else match t.setAt (splitPath path).1 (splitPath path).2 value with
    | some t' => .ok t'
    | none => .error .runtime

/-- The loop of `scorpi_config_equal` over one side, which may hold an error: every entry has its
equal on the other. Only the lookups assert that a list holds no error, `nvlist_next` does not;
`none` is the assertion that fails. -/
def covers (equal : Nvlist → Nvlist → Option Bool) (error : Bool) : Nvlist → Nvlist → Option Bool
  | .nil, _ => some true
  | .string n v rest, r =>
    if Nvlist.tooLong n then covers equal error rest r
    else if r.broken then none
    else match r.getString n with
      | none => some false
      | some v' =>
        if error then none
        else if v = v' then covers equal error rest r
        else some false
  | .nvlist n sub rest, r =>
    if Nvlist.tooLong n then covers equal error rest r
    else if r.broken then none
    else match r.getNvlist n with
      | none => some false
      | some sub' =>
        if error then none
        else match equal sub sub' with
          | some true => covers equal error rest r
          | other => other

/-- `scorpi_config_equal` to a depth. -/
def configEqualTo : Nat → Nvlist → Nvlist → Option Bool
  | 0, _, _ => some false
  | depth + 1, l, r =>
    match covers (configEqualTo depth) l.broken l r with
    | some true => covers (configEqualTo depth) r.broken r l
    | other => other

def treeDepth : Nvlist → Nat
  | .nil => 0
  | .string _ _ rest => treeDepth rest
  | .nvlist _ sub rest => max (treeDepth sub + 1) (treeDepth rest)

def configEqual (l r : Nvlist) : Option Bool := configEqualTo (max (treeDepth l) (treeDepth r) + 1) l r

def decimal (v : UInt64) : Str := Nat.toDigits 10 v.toNat

def propToString : PropValue → Except ScorpiError Str
  | .string none => .error .validation
  | .string (some s) => .ok s
  | .bool b => .ok (if b then "true".toList else "false".toList)
  | .u64 v => .ok (decimal v)

def setValues (t : Nvlist) : List (Str × Str) → Except ScorpiError Nvlist
  | [] => .ok t
  | (path, value) :: rest => do
    let t ← configSetValue t path value
    setValues t rest

/-- One turn of the loop of `scorpi_vm_props_to_config`. -/
def vmPropToConfig (t : Nvlist) (p : VmProp) : Except ScorpiError Nvlist := do
  let value ← propToString p.value
  if p.name = "cpu.cores".toList then
    setValues t [("cpus".toList, value), ("cores".toList, value), ("sockets".toList, "1".toList),
      ("threads".toList, "1".toList)]
  else configSetValue t p.name value

def vmPropsToConfig (t : Nvlist) : List VmProp → Except ScorpiError Nvlist
  | [] => .ok t
  | p :: ps => do
    let t ← vmPropToConfig t p
    vmPropsToConfig t ps

def joinPath (base name : Str) : Str := base ++ '.' :: name

def placement (skipIdentity : Bool) (name : Str) : Prop :=
  name = "parent".toList ∨ (skipIdentity ∧ (name = "bus".toList ∨ name = "port".toList))

instance (skipIdentity : Bool) (name : Str) : Decidable (placement skipIdentity name) :=
  inferInstanceAs (Decidable (_ ∨ _))

def devicePropsToConfig (t : Nvlist) (base : Str) (skipIdentity : Bool) :
    List VmProp → Except ScorpiError Nvlist
  | [] => .ok t
  | p :: ps =>
    if placement skipIdentity p.name then devicePropsToConfig t base skipIdentity ps
    else do
      let value ← propToString p.value
      let t ← configSetValue t (joinPath base p.name) value
      devicePropsToConfig t base skipIdentity ps

structure UsbBusBinding where
  id : Option Str
  bus : UInt64
  nextSlot : UInt64
  deriving DecidableEq

namespace NormalizedDevice

def isXhci (d : NormalizedDevice) : Bool := decide (d.bus = .pci ∧ d.device = "xhci".toList)

def u64Prop (d : NormalizedDevice) (name : Str) : Option UInt64 :=
  match propFind d.props name with
  | some (.u64 v) => some v
  | _ => none

end NormalizedDevice

/-- The loop of `scorpi_collect_usb_bus_bindings`. -/
def collectFrom (nextBus : UInt64) : List NormalizedDevice → List UsbBusBinding
  | [] => []
  | d :: ds =>
    if d.isXhci then
      let bus := (d.u64Prop "bus".toList).getD nextBus
      let next := if (d.u64Prop "bus".toList).isSome then nextBus else nextBus + 1
      let next := if next ≤ bus then bus + 1 else next
      { id := d.id, bus, nextSlot := 1 } :: collectFrom next ds
    else collectFrom nextBus ds

def collectUsbBusBindings (vm : NormalizedVm) : List UsbBusBinding := collectFrom 0 vm.devices

/-- `scorpi_find_usb_bus_binding`: the index of the binding. -/
def findUsbBusBinding (bindings : List UsbBusBinding) : Option Str → Option Nat
  | none => if bindings.length = 1 then some 0 else none
  | some id => bindings.findIdx? fun b => b.id = some id

def legacyAhciDeviceType (device : Str) : Option Str :=
  if device = "ahci-hd".toList then some "hd".toList
  else if device = "ahci-cd".toList then some "cd".toList
  else none

def pciPath (slot : UInt64) : Str := "pci.0.".toList ++ decimal slot ++ ".0".toList

def usbPath (bus port : UInt64) : Str := "usb.".toList ++ decimal bus ++ '.' :: decimal port

def pciBusValue (d : NormalizedDevice) (bindings : List UsbBusBinding) : Option UInt64 :=
  match d.u64Prop "bus".toList with
  | some bus => some bus
  | none =>
    if 1 < bindings.length ∧ d.id.isSome then
      (bindings.find? fun b => b.id = d.id).map (·.bus)
    else none

def busToConfig (t : Nvlist) (base : Str) : Option UInt64 → Except ScorpiError Nvlist
  | some bus => configSetValue t (joinPath base "bus".toList) (decimal bus)
  | none => .ok t

def pciDeviceToConfig (t : Nvlist) (d : NormalizedDevice) (bindings : List UsbBusBinding) :
    Except ScorpiError Nvlist :=
  let base := pciPath d.slot
  match legacyAhciDeviceType d.device with
  | some type => do
    let t ← configSetValue t (joinPath base "device".toList) "ahci".toList
    let t ← busToConfig t base (d.u64Prop "bus".toList)
    let port := joinPath base "port.0".toList
    let t ← configSetValue t (joinPath port "type".toList) type
    devicePropsToConfig t port true d.props
  | none => do
    let t ← configSetValue t (joinPath base "device".toList) d.device
    let t ← busToConfig t base (pciBusValue d bindings)
    devicePropsToConfig t base true d.props

def usbPort (d : NormalizedDevice) (b : UsbBusBinding) : UInt64 :=
  (d.u64Prop "port".toList).getD b.nextSlot

def usbNext (d : NormalizedDevice) (bindings : List UsbBusBinding) (i : Nat) (b : UsbBusBinding) :
    List UsbBusBinding :=
  if (d.u64Prop "port".toList).isSome then bindings
  else bindings.set i { b with nextSlot := b.nextSlot + 1 }

def usbDeviceToConfig (t : Nvlist) (d : NormalizedDevice) (bindings : List UsbBusBinding) :
    Except ScorpiError (Nvlist × List UsbBusBinding) :=
  match findUsbBusBinding bindings d.parent with
  | none => .error .validation
  | some i =>
    match bindings[i]? with
    | none => .error .validation
    | some b =>
      let base := usbPath b.bus (usbPort d b)
      do
        let taken ← configGetValue t (joinPath base "device".toList)
        if taken.isSome then .error .validation
        let t ← configSetValue t (joinPath base "device".toList) d.device
        let t ← devicePropsToConfig t base true d.props
        .ok (t, usbNext d bindings i b)

def lpcDeviceToConfig (t : Nvlist) (d : NormalizedDevice) : Except ScorpiError Nvlist :=
  if d.device = "vm-control".toList then
    match propFind d.props "path".toList with
    | some (.string (some path)) => configSetValue t "comm_sock".toList path
    | _ => .error .validation
  else if d.device ≠ "tpm".toList then .error .unsupportedDevice
  else do
    let t ← configSetValue t "tpm.device".toList "tpm".toList
    devicePropsToConfig t "tpm".toList false d.props

def devicesToConfig (t : Nvlist) (bindings : List UsbBusBinding) :
    List NormalizedDevice → Except ScorpiError Nvlist
  | [] => .ok t
  | d :: ds =>
    match d.bus with
    | .pci => do
      let t ← pciDeviceToConfig t d bindings
      devicesToConfig t bindings ds
    | .usb => do
      let (t, bindings) ← usbDeviceToConfig t d bindings
      devicesToConfig t bindings ds
    | .lpc => do
      let t ← lpcDeviceToConfig t d
      devicesToConfig t bindings ds

def vmToConfig (vm : NormalizedVm) : Except ScorpiError Nvlist := do
  let t ← vmPropsToConfig .nil vm.props
  devicesToConfig t (collectUsbBusBindings vm) vm.devices

end ScorpiHv.Config

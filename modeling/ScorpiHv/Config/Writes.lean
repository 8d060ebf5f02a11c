import ScorpiHv.Config.Export

/-!
# The writes of the exporter

A tree that the exporter returns is the empty tree after a list of stores.
-/

namespace ScorpiHv.Config
open List

abbrev Write := Str × Str

lemma setValues_append (t : Nvlist) (ws vs : List Write) :
    setValues t (ws ++ vs) = (setValues t ws).bind fun t' => setValues t' vs := by
  induction ws generalizing t with
  | nil => rfl
  | cons w ws ih =>
    rw [cons_append, setValues, setValues]
    cases hset : configSetValue t w.1 w.2 with
    | error => rfl
    | ok t' => exact ih t'

variable {ws : List Write} {t t' : Nvlist}

lemma setValues_trans {t'' : Nvlist} {vs : List Write} (h : setValues t ws = .ok t')
    (h' : setValues t' vs = .ok t'') : setValues t (ws ++ vs) = .ok t'' := by
  rw [setValues_append, h]
  exact h'

variable {path value : Str}

lemma setValues_single
    (h : configSetValue t path value = .ok t') : setValues t [(path, value)] = .ok t' := by
  rw [setValues, h]
  rfl

lemma bind_ok {ε α β : Type} {x : Except ε α} {f : α → Except ε β} {b : β}
    (h : x >>= f = .ok b) : ∃ a, x = .ok a ∧ f a = .ok b := by
  cases x with
  | error => cases h
  | ok a => exact ⟨a, rfl, h⟩

lemma configSetValue_ok (h : configSetValue t path value = .ok t') :
    t.setAt (splitPath path).1 (splitPath path).2 value = some t' := by
  rw [configSetValue] at h
  split_ifs at h
  split at h
  · rename_i hat
    cases h
    exact hat
  · cases h

lemma Unique.setValues (hu : t.Unique) (h : setValues t ws = .ok t') : t'.Unique := by
  induction ws generalizing t with
  | nil =>
    cases h
    exact hu
  | cons w ws ih =>
    obtain ⟨u, hset, hrest⟩ := bind_ok h
    exact ih (Nvlist.Unique.setAt hu (configSetValue_ok hset)) hrest

def PropValue.toStr (v : PropValue) : Str := (propToString v).toOption.getD []

lemma PropValue.toStr_of_ok {v : PropValue} {s : Str} (h : propToString v = .ok s) : v.toStr = s := by
  rw [PropValue.toStr, h]
  rfl

def vmPropWrites (p : VmProp) : List Write :=
  if p.name = "cpu.cores".toList then
    [("cpus".toList, p.value.toStr), ("cores".toList, p.value.toStr),
      ("sockets".toList, "1".toList), ("threads".toList, "1".toList)]
  else [(p.name, p.value.toStr)]

variable {ps : List VmProp}

lemma vmPropsToConfig_writes
    (h : vmPropsToConfig t ps = .ok t') : setValues t (ps.flatMap vmPropWrites) = .ok t' := by
  induction ps generalizing t with
  | nil => exact h
  | cons p ps ih =>
    obtain ⟨u, hprop, hrest⟩ := bind_ok h
    obtain ⟨value, hvalue, hset⟩ := bind_ok hprop
    refine setValues_trans ?_ (ih hrest)
    rw [vmPropWrites, PropValue.toStr_of_ok hvalue]
    split
    · rename_i hname
      rw [if_pos hname] at hset
      exact hset
    · rename_i hname
      rw [if_neg hname] at hset
      exact setValues_single hset

def devicePropWrites (base : Str) (skipIdentity : Bool) (ps : List VmProp) : List Write :=
  (ps.filter fun p => ¬placement skipIdentity p.name).map
    fun p => (joinPath base p.name, p.value.toStr)

variable {base : Str}

lemma devicePropsToConfig_writes {skip : Bool} (h : devicePropsToConfig t base skip ps = .ok t') :
    setValues t (devicePropWrites base skip ps) = .ok t' := by
  induction ps generalizing t with
  | nil => exact h
  | cons p ps ih =>
    rw [devicePropsToConfig] at h
    split_ifs at h with hskip
    · rw [devicePropWrites, filter_cons_of_neg (by simpa using hskip)]
      exact ih h
    obtain ⟨value, hvalue, hnext⟩ := bind_ok h
    obtain ⟨u, hset, hrest⟩ := bind_ok hnext
    rw [devicePropWrites, filter_cons_of_pos (by simpa using hskip), map_cons, PropValue.toStr_of_ok hvalue]
    exact setValues_trans (setValues_single hset) (ih hrest)

def busWrites (base : Str) (bus : Option UInt64) : List Write :=
  bus.toList.map fun b => (joinPath base "bus".toList, decimal b)

def pciWrites (d : NormalizedDevice) (bindings : List UsbBusBinding) : List Write :=
  let base := pciPath d.slot
  match legacyAhciDeviceType d.device with
  | some type =>
    let port := joinPath base "port.0".toList
    (joinPath base "device".toList, "ahci".toList) :: (busWrites base (d.u64Prop "bus".toList) ++
      (joinPath port "type".toList, type) :: devicePropWrites port true d.props)
  | none =>
    (joinPath base "device".toList, d.device) :: (busWrites base (pciBusValue d bindings) ++
      devicePropWrites base true d.props)

lemma busWrites_set {bus : Option UInt64}
    (h : busToConfig t base bus = .ok t') : setValues t (busWrites base bus) = .ok t' := by
  cases bus with
  | none => exact h
  | some => exact setValues_single h

variable {d : NormalizedDevice} {bindings : List UsbBusBinding}

lemma pciDeviceToConfig_writes (h : pciDeviceToConfig t d bindings = .ok t') :
    setValues t (pciWrites d bindings) = .ok t' := by
  cases hlegacy : legacyAhciDeviceType d.device with
  | some type =>
    rw [pciDeviceToConfig, hlegacy] at h
    rw [pciWrites, hlegacy]
    obtain ⟨t₁, hdevice, h⟩ := bind_ok h
    obtain ⟨t₂, hbus, h⟩ := bind_ok h
    obtain ⟨t₃, htype, h⟩ := bind_ok h
    have hrest := setValues_trans (setValues_single htype) (devicePropsToConfig_writes h)
    have hrest := setValues_trans (busWrites_set hbus) hrest
    exact setValues_trans (setValues_single hdevice) hrest
  | none =>
    rw [pciDeviceToConfig, hlegacy] at h
    rw [pciWrites, hlegacy]
    obtain ⟨t₁, hdevice, h⟩ := bind_ok h
    obtain ⟨t₂, hbus, h⟩ := bind_ok h
    have hrest := setValues_trans (busWrites_set hbus) (devicePropsToConfig_writes h)
    exact setValues_trans (setValues_single hdevice) hrest

def usbWrites (d : NormalizedDevice) (bus port : UInt64) : List Write :=
  let base := usbPath bus port
  (joinPath base "device".toList, d.device) :: devicePropWrites base true d.props

lemma usbDeviceToConfig_writes {bindings' : List UsbBusBinding}
    (h : usbDeviceToConfig t d bindings = .ok (t', bindings')) :
    ∃ i b, findUsbBusBinding bindings d.parent = some i ∧ bindings[i]? = some b ∧
      configGetValue t (joinPath (usbPath b.bus (usbPort d b)) "device".toList) = .ok none ∧
      setValues t (usbWrites d b.bus (usbPort d b)) = .ok t' ∧
      bindings' = usbNext d bindings i b := by
  rw [usbDeviceToConfig] at h
  split at h
  · cases h
  rename_i i hfind
  split at h
  · cases h
  rename_i b hget
  obtain ⟨taken, htaken, h⟩ := bind_ok h
  cases taken with
  | some => cases h
  | none =>
  obtain ⟨t₁, hdevice, h⟩ := bind_ok h
  obtain ⟨t₂, hprops, h⟩ := bind_ok h
  cases h
  exact ⟨i, b, hfind, hget, htaken,
    setValues_trans (setValues_single hdevice) (devicePropsToConfig_writes hprops), rfl⟩

def lpcWrites (d : NormalizedDevice) : List Write :=
  if d.device = "vm-control".toList then
    [("comm_sock".toList, (stringProp d.props "path".toList).getD [])]
  else ("tpm.device".toList, "tpm".toList) :: devicePropWrites "tpm".toList false d.props

lemma lpcDeviceToConfig_writes (h : lpcDeviceToConfig t d = .ok t') :
    (d.device = "vm-control".toList ∨ d.device = "tpm".toList) ∧
      setValues t (lpcWrites d) = .ok t' := by
  rw [lpcDeviceToConfig] at h
  rw [lpcWrites]
  split at h
  · rename_i hdevice
    rw [if_pos hdevice]
    split at h
    · rename_i path hpath
      refine ⟨.inl hdevice, ?_⟩
      rw [stringProp, hpath]
      exact setValues_single h
    · cases h
  · rename_i hdevice
    rw [if_neg hdevice]
    split at h
    · cases h
    rename_i htpm
    obtain ⟨t₁, hfirst, h⟩ := bind_ok h
    exact ⟨.inr (not_not.mp htpm), setValues_trans (setValues_single hfirst) (devicePropsToConfig_writes h)⟩

inductive Spot where
  | pci (slot : UInt64)
  | usb (bus port : UInt64)
  | tpm
  | control
  deriving DecidableEq

def lpcSpot (d : NormalizedDevice) : Spot :=
  if d.device = "vm-control".toList then .control else .tpm

/-- The places and the writes of the devices, from the bindings the loop has reached. -/
inductive DeviceWrites : Nvlist → List UsbBusBinding → List NormalizedDevice →
    List (Spot × List Write) → Nvlist → Prop where
  | nil (t : Nvlist) (bindings : List UsbBusBinding) : DeviceWrites t bindings [] [] t
  | pci {t t' t'' : Nvlist} {bindings : List UsbBusBinding} {d : NormalizedDevice}
      {ds : List NormalizedDevice} {wss : List (Spot × List Write)} (hbus : d.bus = .pci)
      (hset : setValues t (pciWrites d bindings) = .ok t')
      (hrest : DeviceWrites t' bindings ds wss t'') :
      DeviceWrites t bindings (d :: ds) ((.pci d.slot, pciWrites d bindings) :: wss) t''
  | usb {t t' t'' : Nvlist} {bindings : List UsbBusBinding} {d : NormalizedDevice}
      {ds : List NormalizedDevice} {wss : List (Spot × List Write)} {i : Nat} {b : UsbBusBinding}
      (hbus : d.bus = .usb) (hfind : findUsbBusBinding bindings d.parent = some i)
      (hget : bindings[i]? = some b)
      (hfree : configGetValue t (joinPath (usbPath b.bus (usbPort d b)) "device".toList) = .ok none)
      (hset : setValues t (usbWrites d b.bus (usbPort d b)) = .ok t')
      (hrest : DeviceWrites t' (usbNext d bindings i b) ds wss t'') :
      DeviceWrites t bindings (d :: ds)
        ((.usb b.bus (usbPort d b), usbWrites d b.bus (usbPort d b)) :: wss) t''
  | lpc {t t' t'' : Nvlist} {bindings : List UsbBusBinding} {d : NormalizedDevice}
      {ds : List NormalizedDevice} {wss : List (Spot × List Write)} (hbus : d.bus = .lpc)
      (hdevice : d.device = "vm-control".toList ∨ d.device = "tpm".toList)
      (hset : setValues t (lpcWrites d) = .ok t')
      (hrest : DeviceWrites t' bindings ds wss t'') :
      DeviceWrites t bindings (d :: ds) ((lpcSpot d, lpcWrites d) :: wss) t''

variable {ds : List NormalizedDevice}

lemma devicesToConfig_writes (h : devicesToConfig t bindings ds = .ok t') :
    ∃ wss, DeviceWrites t bindings ds wss t' := by
  induction ds generalizing t bindings with
  | nil =>
    cases h
    exact ⟨[], .nil _ _⟩
  | cons d ds ih =>
    rw [devicesToConfig] at h
    split at h
    · rename_i hbus
      obtain ⟨u, hpci, h⟩ := bind_ok h
      obtain ⟨wss, hrest⟩ := ih h
      exact ⟨_, .pci hbus (pciDeviceToConfig_writes hpci) hrest⟩
    · rename_i hbus
      obtain ⟨⟨u, bindings'⟩, husb, h⟩ := bind_ok h
      obtain ⟨i, b, hfind, hget, hfree, hset, rfl⟩ := usbDeviceToConfig_writes husb
      obtain ⟨wss, hrest⟩ := ih h
      exact ⟨_, .usb hbus hfind hget hfree hset hrest⟩
    · rename_i hbus
      obtain ⟨u, hlpc, h⟩ := bind_ok h
      obtain ⟨hdevice, hset⟩ := lpcDeviceToConfig_writes hlpc
      obtain ⟨wss, hrest⟩ := ih h
      exact ⟨_, .lpc hbus hdevice hset hrest⟩

lemma DeviceWrites.set {wss : List (Spot × List Write)}
    (h : DeviceWrites t bindings ds wss t') : setValues t (wss.flatMap (·.2)) = .ok t' := by
  induction h with
  | nil => rfl
  | pci _ hset _ ih | usb _ _ _ _ hset _ ih | lpc _ _ hset _ ih => exact setValues_trans hset ih

variable {vm : NormalizedVm}

lemma vmToConfig_writes (h : vmToConfig vm = .ok t) :
    ∃ u wss, setValues .nil (vm.props.flatMap vmPropWrites) = .ok u ∧
      DeviceWrites u (collectUsbBusBindings vm) vm.devices wss t := by
  obtain ⟨u, hprops, hdevices⟩ := bind_ok h
  obtain ⟨wss, hwss⟩ := devicesToConfig_writes hdevices
  exact ⟨u, wss, vmPropsToConfig_writes hprops, hwss⟩

lemma vmToConfig_unique (h : vmToConfig vm = .ok t) : t.Unique := by
  obtain ⟨u, wss, hprops, hdevices⟩ := vmToConfig_writes h
  have hnil : Nvlist.nil.Unique := trivial
  exact Unique.setValues (Unique.setValues hnil hprops) hdevices.set

def key (path : Str) : List Str := (splitPath path).1 ++ [(splitPath path).2]

lemma splitDots_ne_nil (path : Str) : splitDots path ≠ [] := by
  cases path with
  | nil => exact cons_ne_nil _ _
  | cons =>
    rw [splitDots]
    split
    · exact cons_ne_nil _ _
    · split <;> exact cons_ne_nil _ _

lemma key_eq (h : (splitDots path).head? ≠ some []) : key path = splitDots path := by
  have hnode : (splitDots path).dropLast ≠ [[]] := by
    intro heq
    apply h
    have hlast := dropLast_append_getLast (splitDots_ne_nil path)
    rw [heq] at hlast
    rw [← hlast]
    rfl
  have hget := List.getLast?_eq_getLast_of_ne_nil (splitDots_ne_nil path)
  simp only [key, splitPath]
  rw [if_neg hnode, hget, Option.getD_some]
  exact dropLast_append_getLast (splitDots_ne_nil path)

lemma splitDots_join (base name : Str) :
    splitDots (joinPath base name) = splitDots base ++ splitDots name := by
  induction base with
  | nil => rfl
  | cons c cs ih =>
    rw [joinPath] at ih
    rw [joinPath, cons_append, splitDots, splitDots]
    split
    · rw [ih]
      rfl
    rw [ih]
    cases h : splitDots cs with
    | nil => exact absurd h (splitDots_ne_nil cs)
    | cons => rfl

def joinDots : List Str → Str
  | [] => []
  | [name] => name
  | name :: next :: names => joinPath name (joinDots (next :: names))

lemma joinDots_splitDots (path : Str) : joinDots (splitDots path) = path := by
  induction path with
  | nil => rfl
  | cons c cs ih =>
    rw [splitDots]
    split
    · rename_i hdot
      cases h : splitDots cs with
      | nil => exact absurd h (splitDots_ne_nil cs)
      | cons =>
        rw [joinDots, ← h, ih, hdot]
        rfl
    · cases h : splitDots cs with
      | nil => exact absurd h (splitDots_ne_nil cs)
      | cons w ws =>
        rw [h] at ih
        cases ws with
        | nil | cons w' ws => exact congrArg (c :: ·) ih

lemma splitDots_injective {a b : Str} (h : splitDots a = splitDots b) : a = b := by
  rw [← joinDots_splitDots a, h, joinDots_splitDots]

lemma splitDots_of_no_dot {name : Str} (h : '.' ∉ name) : splitDots name = [name] := by
  induction name with
  | nil => rfl
  | cons c cs ih =>
    rw [mem_cons, not_or] at h
    rw [splitDots, if_neg (Ne.symm h.1), ih h.2]

lemma splitDots_decimal (v : UInt64) : splitDots (decimal v) = [decimal v] := by
  apply splitDots_of_no_dot
  intro hdot
  have hbase : 0 < 10 := by decide
  have hdigit : Char.isDigit '.' = true := Nat.isDigit_of_mem_toDigits hbase (by decide) hdot
  revert hdigit
  decide

lemma decimal_injective {v w : UInt64} (h : decimal v = decimal w) : v = w := by
  have hnum := congrArg (fun ds => Nat.ofDigitChars 10 ds 0) h
  simp only [decimal] at hnum
  rw [Nat.ofDigitChars_toDigits (by decide) (by decide),
    Nat.ofDigitChars_toDigits (by decide) (by decide)] at hnum
  exact UInt64.toNat_inj.mp hnum

lemma stringAt_configSetValue (hu : t.Unique) (h : configSetValue t path value = .ok t')
    (q : List Str) : t'.stringAt q = if q = key path then some value else t.stringAt q := by
  exact Nvlist.stringAt_setAt hu (configSetValue_ok h) q

variable {q : List Str}

lemma stringAt_setValues_of_not_mem (hu : t.Unique) (h : setValues t ws = .ok t')
    (hq : q ∉ ws.map fun w => key w.1) : t'.stringAt q = t.stringAt q := by
  induction ws generalizing t with
  | nil =>
    cases h
    rfl
  | cons w ws ih =>
    obtain ⟨u, hset, hrest⟩ := bind_ok h
    rw [map_cons, mem_cons, not_or] at hq
    rw [ih (Unique.setValues hu (setValues_single hset)) hrest hq.2,
      stringAt_configSetValue hu hset, if_neg hq.1]

lemma stringAt_setValues_of_same (hu : t.Unique) (h : setValues t ws = .ok t')
    {v : Str} (hmem : q ∈ ws.map fun w => key w.1) (hsame : ∀ w ∈ ws, key w.1 = q → w.2 = v) :
    t'.stringAt q = some v := by
  induction ws generalizing t with
  | nil => cases hmem
  | cons w ws ih =>
    obtain ⟨u, hset, hrest⟩ := bind_ok h
    have hunique := Unique.setValues hu (setValues_single hset)
    by_cases hlater : q ∈ ws.map fun w => key w.1
    · exact ih hunique hrest hlater fun w' hw' => hsame w' (mem_cons_of_mem w hw')
    have hq : q = key w.1 := (mem_cons.mp hmem).resolve_right hlater
    rw [stringAt_setValues_of_not_mem hunique hrest hlater, stringAt_configSetValue hu hset,
      if_pos hq, hsame w mem_cons_self hq.symm]

lemma isSome_stringAt_setValues (hu : t.Unique)
    (h : setValues t ws = .ok t') (hq : (t.stringAt q).isSome) : (t'.stringAt q).isSome := by
  induction ws generalizing t with
  | nil =>
    cases h
    exact hq
  | cons w ws ih =>
    obtain ⟨u, hset, hrest⟩ := bind_ok h
    refine ih (Unique.setValues hu (setValues_single hset)) hrest ?_
    rw [stringAt_configSetValue hu hset]
    split
    · rfl
    · exact hq

end ScorpiHv.Config

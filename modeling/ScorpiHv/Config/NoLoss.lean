import ScorpiHv.Config.Placement

/-!
# No device is lost

A machine loses none of its devices exactly when they have slots that the runtime enumerates,
are one of each LPC kind and ask for bus numbers that are free: then each has its node, with its
name and its properties.
-/

namespace ScorpiHv.Config
open Canonical List

variable {t : Nvlist}

lemma findNode_stringAt {node : List Str} (h : ∀ name ∈ node, name ≠ []) (leaf : Str) :
    ((findNode t node).bind fun sub => sub.getString leaf) = t.stringAt (node ++ [leaf]) := by
  induction node generalizing t with
  | nil => rfl
  | cons name node ih =>
    obtain ⟨hname, htail⟩ := forall_mem_cons.mp h
    rw [findNode, if_neg hname, Option.bind_assoc]
    have hpath : t.stringAt (name :: node ++ [leaf]) =
        (t.getNvlist name).bind fun sub => sub.stringAt (node ++ [leaf]) := by
      cases node <;> rfl
    rw [hpath]
    congr 1
    funext sub
    exact ih htail

lemma decimal_ne_nil (v : UInt64) : decimal v ≠ [] := Nat.toDigits_ne_nil

lemma configGetValue_usb {bus port : UInt64} {taken : Option Str}
    (h : configGetValue t (joinPath (usbPath bus port) "device".toList) = .ok taken) :
    t.stringAt ((Spot.usb bus port).node ++ ["device".toList]) = taken := by
  have hnames : splitDots (joinPath (usbPath bus port) "device".toList) =
      (Spot.usb bus port).node ++ ["device".toList] := by
    rw [splitDots_join, splitDots_usbPath]
    rfl
  have hpath : joinPath (usbPath bus port) "device".toList ≠ [] := cons_ne_nil _ _
  have hsplit : splitPath (joinPath (usbPath bus port) "device".toList) =
      ((Spot.usb bus port).node, "device".toList) := by
    rw [splitPath, hnames]
    rfl
  rw [configGetValue, if_neg hpath, hsplit] at h
  split at h
  · cases h
  cases h
  refine (findNode_stringAt ?_ _).symm
  intro name hname
  simp only [Spot.node, mem_cons, not_mem_nil, or_false] at hname
  rcases hname with rfl | rfl | rfl
  · decide
  · exact decimal_ne_nil bus
  · exact decimal_ne_nil port

variable {wss : List (Spot × List Write)} {bs : List UsbBusBinding} {t' : Nvlist}
  {ds : List NormalizedDevice}

lemma DeviceWrites.not_taken (h : DeviceWrites t bs ds wss t') (hu : t.Unique) {bus port : UInt64}
    (htaken : (t.stringAt ((Spot.usb bus port).node ++ ["device".toList])).isSome) :
    Spot.usb bus port ∉ wss.map (·.1) := by
  induction h with
  | nil => exact not_mem_nil
  | pci _ hset _ ih =>
    have hrest := ih (Unique.setValues hu hset) (isSome_stringAt_setValues hu hset htaken)
    exact not_mem_cons_of_ne_of_not_mem nofun hrest
  | usb _ _ _ hfree hset _ ih =>
    have hrest := ih (Unique.setValues hu hset) (isSome_stringAt_setValues hu hset htaken)
    refine not_mem_cons_of_ne_of_not_mem (fun heq => ?_) hrest
    have hnone := configGetValue_usb hfree
    dsimp only at heq
    rw [← heq] at hnone
    rw [hnone] at htaken
    cases htaken
  | @lpc _ _ _ _ d _ _ _ _ hset _ ih =>
    have hrest := ih (Unique.setValues hu hset) (isSome_stringAt_setValues hu hset htaken)
    refine not_mem_cons_of_ne_of_not_mem (fun heq => ?_) hrest
    rw [lpcSpot] at heq
    split at heq <;> cases heq

def Apart (bus bus' : BusKind) (slot slot' : UInt64) (device device' : Str) : Prop :=
  (bus = .pci → bus' = .pci → slot ≠ slot') ∧ (bus = .lpc → bus' = .lpc → device ≠ device')

variable {ws : List Write}

lemma Shaped.pci_slot {d : NormalizedDevice} {slot : UInt64}
    (h : Shaped bs d (.pci slot, ws)) : d.bus = .pci ∧ d.slot = slot := by
  cases h with
  | pci _ hbus => exact ⟨hbus, rfl⟩

lemma Shaped.lpc_spot {d d' : NormalizedDevice}
    (hdevice : d'.device = "vm-control".toList ∨ d'.device = "tpm".toList)
    (h : Shaped bs d (lpcSpot d', ws)) : d.bus = .lpc ∧ d.device = d'.device := by
  rcases hdevice with hd | hd
  · rw [lpcSpot, if_pos hd] at h
    cases h with
    | control hbus hdevice => exact ⟨hbus, hdevice.trans hd.symm⟩
  · rw [lpcSpot, if_neg (by rw [hd]; decide)] at h
    cases h with
    | tpm hbus hdevice => exact ⟨hbus, hdevice.trans hd.symm⟩

lemma DeviceWrites.spots_nodup {bs₀ : List UsbBusBinding}
    (h : DeviceWrites t bs ds wss t') (hbs : buses bs = buses bs₀) (hu : t.Unique)
    (happart : ds.Pairwise fun d e => Apart d.bus e.bus d.slot e.slot d.device e.device) :
    (wss.map (·.1)).Nodup := by
  have hfind : ∀ {ds : List NormalizedDevice} {wss : List (Spot × List Write)} {s : Spot},
      List.Forall₂ (Shaped bs₀) ds wss → s ∈ wss.map (·.1) → ∃ e ∈ ds, ∃ ws, Shaped bs₀ e (s, ws) := by
    intro ds wss s hall hmem
    obtain ⟨⟨s', ws⟩, hpw, rfl⟩ := mem_map.mp hmem
    obtain ⟨e, he, hshape⟩ := exists_of_forall₂_right hall hpw
    exact ⟨e, he, ws, hshape⟩
  induction h with
  | nil => exact nodup_nil
  | pci hbus hset hrest ih =>
    obtain ⟨hhead, htail⟩ := pairwise_cons.mp happart
    refine nodup_cons.mpr ⟨?_, ih hbs (Unique.setValues hu hset) htail⟩
    intro hmem
    obtain ⟨e, he, ws, hshape⟩ := hfind (hrest.shaped hbs) hmem
    obtain ⟨hebus, heslot⟩ := hshape.pci_slot
    exact (hhead e he).1 hbus hebus heslot.symm
  | @usb t u _ bs d _ _ i b hbus _ hget _ hset hrest ih =>
    obtain ⟨hhead, htail⟩ := pairwise_cons.mp happart
    have hbs' : buses (usbNext d bs i b) = buses bs₀ := (buses_usbNext hget).trans hbs
    have hunique := Unique.setValues hu hset
    refine nodup_cons.mpr ⟨?_, ih hbs' hunique htail⟩
    apply hrest.not_taken hunique
    -- The device's own entry is there after the first of its stores.
    obtain ⟨v, hfirst, hprops⟩ := bind_ok hset
    refine isSome_stringAt_setValues (Unique.setValues hu (setValues_single hfirst)) hprops ?_
    have hkey : key (joinPath (usbPath b.bus (usbPort d b)) "device".toList) =
        (Spot.usb b.bus (usbPort d b)).node ++ ["device".toList] :=
      key_below (splitDots_usbPath _ _) ("device".toList, d.device)
    rw [stringAt_configSetValue hu hfirst, if_pos hkey.symm]
    rfl
  | lpc hbus hdevice hset hrest ih =>
    obtain ⟨hhead, htail⟩ := pairwise_cons.mp happart
    refine nodup_cons.mpr ⟨?_, ih hbs (Unique.setValues hu hset) htail⟩
    intro hmem
    obtain ⟨e, he, ws, hshape⟩ := hfind (hrest.shaped hbs) hmem
    obtain ⟨hebus, hedevice⟩ := hshape.lpc_spot hdevice
    exact (hhead e he).2 hbus hebus hedevice.symm

/-- Writes at places that differ do not meet. -/
lemma keys_agree (hspots : (wss.map (·.1)).Nodup)
    (hkeys : ∀ pw ∈ wss, Agree key pw.2 ∧ ∀ w ∈ pw.2, ∃ r, key w.1 = pw.1.node ++ r) :
    Agree key (wss.flatMap (·.2)) := by
  intro w hw w' hw' heq
  obtain ⟨pw, hpw, hw⟩ := mem_flatMap.mp hw
  obtain ⟨pw', hpw', hw'⟩ := mem_flatMap.mp hw'
  obtain ⟨r, hr⟩ := (hkeys pw hpw).2 w hw
  obtain ⟨r', hr'⟩ := (hkeys pw' hpw').2 w' hw'
  have hspot : pw.1 = pw'.1 := Spot.eq_of_common hr (heq.trans hr')
  have hsame := inj_on_of_nodup_map hspots hpw hpw' hspot
  subst hsame
  exact (hkeys pw hpw).1 w hw w' hw' heq

/-- The properties of a device below a node, those that say where it is apart. -/
def Holds (t : Nvlist) (node : List Str) (ps : List VmProp) : Prop :=
  ∀ p ∈ ps, ¬placement true p.name → t.stringAt (node ++ splitDots p.name) = some p.value.toStr

def Carries (vm : Vm) (t : Nvlist) (d : Device) : Spot → Prop
  | .pci slot =>
    d.bus = .pci ∧ d.slot = slot ∧ slot < 32 ∧
      match legacyAhciDeviceType d.device with
      | none =>
        t.stringAt ((Spot.pci slot).node ++ ["device".toList]) = some d.device ∧
          Holds t (Spot.pci slot).node d.props
      | some type =>
        t.stringAt ((Spot.pci slot).node ++ ["device".toList]) = some "ahci".toList ∧
          t.stringAt ((Spot.pci slot).node ++ ["port".toList, "0".toList, "type".toList]) =
            some type ∧
          Holds t ((Spot.pci slot).node ++ ["port".toList, "0".toList]) d.props
  | .usb bus port =>
    d.bus = .usb ∧ Under vm d bus ∧
      t.stringAt ((Spot.usb bus port).node ++ ["device".toList]) = some d.device ∧
      Holds t (Spot.usb bus port).node d.props
  | .tpm =>
    d.bus = .lpc ∧ d.device = "tpm".toList ∧
      t.stringAt (Spot.tpm.node ++ ["device".toList]) = some d.device ∧
      Holds t Spot.tpm.node d.props
  | .control =>
    d.bus = .lpc ∧ d.device = "vm-control".toList ∧
      ∀ p ∈ d.props, ¬placement true p.name →
        p.name = "path".toList ∧ t.stringAt Spot.control.node = some p.value.toStr

/-- Every device has a node of its own, and every controller a bus number of its own. -/
def NoLoss (vm : Vm) (t : Nvlist) : Prop :=
  (∃ spots, List.Forall₂ (Carries vm t) vm.devices spots ∧ (spots.map Spot.node).Nodup) ∧
    (controllers vm).length = (bindings vm).length ∧ ((bindings vm).map (·.bus)).Nodup

/-- A machine whose devices keep apart. -/
structure Clear (vm : Vm) : Prop where
  slots : ∀ d ∈ vm.devices, d.bus = .pci → d.slot < 32
  lpc : vm.devices.Pairwise fun d e => d.bus = .lpc → e.bus = .lpc → d.device ≠ e.device
  fields : ∀ d ∈ vm.devices, FieldsFree d.bus d.device d.props
  control : ∀ d ∈ vm.devices, d.bus = .lpc → d.device = "vm-control".toList →
    ∀ p ∈ d.props, ¬placement true p.name → p.name = "path".toList
  numbers : Unasked [] (asks (vmNormalize vm).devices)

lemma placement_true {name : Str} (h : ¬placement true name) (skip : Bool) : ¬placement skip name := by
  rintro (hparent | ⟨-, hname⟩)
  · exact h (.inl hparent)
  · exact h (.inr ⟨rfl, hname⟩)

variable {s : Spot} {base : Str} {skip : Bool} {ps qs : List VmProp}

lemma holds_of_fields {more : List Str} (hbase : splitDots base = s.node ++ more)
    (hperm : ∀ p, p ∈ ps ↔ p ∈ qs)
    (h : ∀ f ∈ propFields skip qs, t.stringAt (key (below base f).1) = some f.2) :
    Holds t (s.node ++ more) ps := by
  intro p hp hplace
  have hstay := h _ (mem_propFields ((hperm p).mp hp) (placement_true hplace skip))
  have hsplit : splitDots (below base (p.name, p.value.toStr)).1 =
      s.node ++ more ++ splitDots p.name := by
    rw [below, splitDots_join, hbase]
  have hkey : key (below base (p.name, p.value.toStr)).1 = s.node ++ more ++ splitDots p.name := by
    rw [key_eq, hsplit]
    rw [hsplit]
    cases s <;> simp [Spot.node]
  rw [hkey] at hstay
  exact hstay

lemma holds_at_node (hbase : splitDots base = s.node) (hperm : ∀ p, p ∈ ps ↔ p ∈ qs)
    (h : ∀ f ∈ propFields skip qs, t.stringAt (key (below base f).1) = some f.2) : Holds t s.node ps := by
  have hbase' : splitDots base = s.node ++ [] := by rw [hbase, append_nil]
  have hholds := holds_of_fields hbase' hperm h
  rw [append_nil] at hholds
  exact hholds

variable {d : Device}

lemma mem_copy (p : VmProp) : p ∈ d.props ↔ p ∈ (normalizedDeviceCopy d).props :=
  (sortBy_perm normalizedPropCompare d.props).mem_iff.symm

lemma nodup_copy (h : (d.props.map (·.name)).Nodup) : ((normalizedDeviceCopy d).props.map (·.name)).Nodup :=
  ((sortBy_perm normalizedPropCompare d.props).map _).nodup_iff.mpr h

lemma Valid.control_path {vm : Vm} (h : Valid vm) (hd : d ∈ vm.devices)
    (hbus : d.bus = .lpc) (hdevice : d.device = "vm-control".toList) :
    ∃ s, propFind d.props "path".toList = some (.string (some s)) := by
  have hlpc := h.lpc d hd
  rw [validateLpcDevice, if_neg (not_not.mpr hbus), if_pos hdevice] at hlpc
  split at hlpc
  · rename_i hpath
    rw [Device.hasStringProp, isNonemptyString.eq_def] at hpath
    split at hpath
    · rename_i s hfind
      exact ⟨s, hfind⟩
    · cases hpath
  · cases hlpc

lemma stringAt_below {f : Write} (hnode : splitDots base = s.node)
    (hf : t.stringAt (key (below base f).1) = some f.2) :
    t.stringAt (s.node ++ splitDots f.1) = some f.2 := by
  rw [← key_below hnode]
  exact hf

lemma carries_of_shaped {vm : Vm} {pw : Spot × List Write}
    (hv : Valid vm) (hc : Clear vm) (hd : d ∈ vm.devices) (hnames : (d.props.map (·.name)).Nodup)
    (hshape : Shaped (bindings vm) (normalizedDeviceCopy d) pw)
    (hstay : ∀ w ∈ pw.2, t.stringAt (key w.1) = some w.2) : Carries vm t d pw.1 := by
  cases hshape with
  | pci bs' hbus =>
    have hfield := forall_mem_map.mp hstay
    have hnode := splitDots_pciPath d.slot
    refine ⟨hbus, rfl, hc.slots d hd hbus, ?_⟩
    cases hl : legacyAhciDeviceType d.device with
    | none =>
      rw [pciFields, show legacyAhciDeviceType (normalizedDeviceCopy d).device = none from hl] at hfield
      refine ⟨?_, ?_⟩
      · exact stringAt_below hnode (hfield _ mem_cons_self)
      · exact holds_at_node hnode mem_copy fun f hf => hfield f (mem_cons_of_mem _ (mem_append_right _ hf))
    | some type =>
      rw [pciFields, show legacyAhciDeviceType (normalizedDeviceCopy d).device = some type from hl]
        at hfield
      refine ⟨?_, ?_, ?_⟩
      · exact stringAt_below hnode (hfield _ mem_cons_self)
      · have htype := hfield ("port.0.type".toList, type)
          (mem_cons_of_mem _ (mem_append_right _ mem_cons_self))
        exact stringAt_below hnode htype
      have hport : splitDots (joinPath (pciPath d.slot) "port.0".toList) =
          (Spot.pci d.slot).node ++ ["port".toList, "0".toList] := by
        rw [splitDots_join, hnode]
        rfl
      have hprops : ∀ f ∈ propFields true (normalizedDeviceCopy d).props, t.stringAt
          (key (below (joinPath (pciPath d.slot) "port.0".toList) f).1) = some f.2 := by
        intro f hf
        have hin := hfield (below "port.0".toList f) (mem_cons_of_mem _
          (mem_append_right _ (mem_cons_of_mem _ (mem_map_of_mem hf))))
        rw [below, below, ← joinPath_assoc] at hin
        exact hin
      exact holds_of_fields hport mem_copy hprops
  | @usb i b port hbus hfind hget =>
    have hfield := forall_mem_map.mp hstay
    have hnode := splitDots_usbPath b.bus port
    refine ⟨hbus, under_of_binding hv hd hbus hfind hget, ?_, ?_⟩
    · exact stringAt_below hnode (hfield _ mem_cons_self)
    · exact holds_at_node hnode mem_copy fun f hf => hfield f (mem_cons_of_mem _ hf)
  | tpm hbus hdevice =>
    have hfield := forall_mem_map.mp hstay
    have hnode : splitDots "tpm".toList = Spot.tpm.node := rfl
    refine ⟨hbus, hdevice, ?_, ?_⟩
    · have hentry := hfield _ mem_cons_self
      exact hentry.trans (congrArg some hdevice.symm)
    · exact holds_at_node hnode mem_copy fun f hf => hfield f (mem_cons_of_mem _ hf)
  | control hbus hdevice =>
    refine ⟨hbus, hdevice, ?_⟩
    intro p hp hplace
    have hname := hc.control d hd hbus hdevice p hp hplace
    obtain ⟨path, hpath⟩ := hv.control_path hd hbus hdevice
    have hvalue := (mem_iff_propFind hnames p).mp hp
    rw [hname, hpath, Option.some.injEq] at hvalue
    have hsame : SameProps d.props (normalizedDeviceCopy d).props :=
      (SameProps.perm_iff hnames (nodup_copy hnames)).mpr (sortBy_perm normalizedPropCompare d.props).symm
    have hentry := hstay _ (mem_singleton_self _)
    rw [← hsame.stringProp, stringProp, hpath] at hentry
    refine ⟨hname, hentry.trans ?_⟩
    rw [← hvalue]
    rfl

lemma Clear.apart {vm : Vm} (hv : Valid vm) (hc : Clear vm) :
    (vmNormalize vm).devices.Pairwise fun d e =>
      Apart d.bus e.bus d.slot e.slot d.device e.device := by
  have hdevices : vm.devices.Pairwise fun d e =>
      Apart d.bus e.bus d.slot e.slot d.device e.device := by
    refine List.Pairwise.imp_of_mem ?_ (hv.slots.and hc.lpc)
    intro d e hd he hboth
    refine ⟨?_, hboth.2⟩
    intro hbus hbus' heq
    have hslot := hc.slots d hd hbus
    have hauto : d.slot ≠ SCORPI_PCI_SLOT_AUTO := by
      intro hslot'
      rw [hslot'] at hslot
      exact absurd hslot (by decide)
    exact hboth.1 hbus hauto hbus' heq.symm
  have hsymm : ∀ {d e : NormalizedDevice}, Apart d.bus e.bus d.slot e.slot d.device e.device →
      Apart e.bus d.bus e.slot d.slot e.device d.device := by
    intro d e h
    exact ⟨fun hb hb' heq => h.1 hb' hb heq.symm, fun hb hb' heq => h.2 hb' hb heq.symm⟩
  rw [vmNormalize, (sortBy_perm _ _).pairwise_iff hsymm, pairwise_map]
  exact hdevices

section

variable {vm : Vm} (hv : Valid vm) (hc : Clear vm)
  (hnames : ∀ d ∈ vm.devices, (d.props.map (·.name)).Nodup)
  (ht : vmToConfig (vmNormalize vm) = .ok t)
include hv hc hnames ht

/-- What the exporter stores for a clear machine: first its properties, then, at places that
differ, its devices. -/
lemma Clear.writes : ∃ u wss, u.Unique ∧ setValues u (wss.flatMap (·.2)) = .ok t ∧ List.Forall₂ (Shaped (bindings vm))
    (vmNormalize vm).devices wss ∧ (wss.map (·.1)).Nodup ∧ ∀ pw ∈ wss,
    Agree key pw.2 ∧ ∀ w ∈ pw.2, ∃ r, key w.1 = pw.1.node ++ r := by
  obtain ⟨u, wss, hprops, hwrites⟩ := vmToConfig_writes ht
  have hnil : Nvlist.nil.Unique := trivial
  have hu := Unique.setValues hnil hprops
  have hshaped : List.Forall₂ (Shaped (bindings vm)) (vmNormalize vm).devices wss := hwrites.shaped rfl
  refine ⟨u, wss, hu, hwrites.set, hshaped, hwrites.spots_nodup rfl hu (hc.apart hv), ?_⟩
  intro pw hpw
  obtain ⟨n, hn, hshape⟩ := exists_of_forall₂_right hshaped hpw
  obtain ⟨d, hd, rfl⟩ := mem_normalize.mp hn
  refine hshape.keys (nodup_copy (hnames d hd)) ?_
  exact fun p hp => hc.fields d hd p ((mem_copy p).mpr hp)

lemma Clear.carries :
    ∃ spots, List.Forall₂ (Carries vm t) vm.devices spots ∧ (spots.map Spot.node).Nodup := by
  obtain ⟨u, wss, hu, hset, hshaped, hspots, hkeys⟩ := hc.writes hv hnames ht
  have hagree := keys_agree hspots hkeys
  have hstay : ∀ w ∈ wss.flatMap (·.2), t.stringAt (key w.1) = some w.2 := fun w hw =>
    stringAt_setValues_of_same hu hset (mem_map_of_mem hw) fun w' hw' => hagree w' hw' w hw
  -- The places in the order in which the machine has its devices.
  have hcopies : (vm.devices.map normalizedDeviceCopy).Perm (vmNormalize vm).devices :=
    (sortBy_perm normalizedDeviceCompare _).symm
  obtain ⟨m, hm, hperm⟩ := perm_comp_forall₂ hcopies hshaped
  rw [forall₂_map_left_iff] at hm
  refine ⟨m.map (·.1), ?_, ?_⟩
  · rw [forall₂_map_right_iff]
    refine forall₂_imp_of_mem hm ?_
    intro d pw hd hpw hshape
    refine carries_of_shaped hv hc hd (hnames d hd) hshape ?_
    exact fun w hw => hstay w (mem_flatMap.mpr ⟨pw, hperm.subset hpw, hw⟩)
  · have hnodup : (m.map (·.1)).Nodup := (hperm.map _).nodup_iff.mpr hspots
    exact hnodup.map fun s s' => Spot.node_injective

end

lemma Builder.nodup_names (cs : List Call) :
    ∀ d ∈ (Builder.run cs).vm.devices, (d.props.map (·.name)).Nodup :=
  fun _ hd => (Builder.wellNamed_run cs).device hd

lemma bindings_nodup_iff {vm : Vm} (h : Counted [] (asks (vmNormalize vm).devices)) :
    ((bindings vm).map (·.bus)).Nodup ↔ Unasked [] (asks (vmNormalize vm).devices) := by
  have hbuses : (bindings vm).map (·.bus) = numbers [] (asks (vmNormalize vm).devices) :=
    collectFrom_numbers (fun _ => rfl) h
  rw [hbuses, ← numbers_nodup_iff h]
  exact ⟨fun hnodup => ⟨hnodup, fun _ _ => not_mem_nil⟩, And.left⟩

section
variable {vm : Vm} {spot : Spot} (h : Carries vm t d spot)
include h

lemma Carries.pci_slot (hbus : d.bus = .pci) : d.slot < 32 := by
  cases spot with
  | pci => exact h.2.1 ▸ h.2.2.1
  | usb | tpm | control => exact absurd (hbus.symm.trans h.1) (by decide)

lemma Carries.lpc_spot (hbus : d.bus = .lpc) :
    spot = if d.device = "vm-control".toList then .control else .tpm := by
  cases spot with
  | pci | usb => exact absurd (hbus.symm.trans h.1) (by decide)
  | tpm =>
    rw [h.2.1]
    rfl
  | control => rw [if_pos h.2.1]

/-- An entry of the exporter and a property of its name are one entry of the tree. -/
lemma Carries.fieldsFree : FieldsFree d.bus d.device d.props := by
  intro p hp hname
  have hplace : ¬placement true p.name := by
    rw [hname, reservedField]
    split <;> decide
  have hone : ∀ {node : List Str} {text : Str}, Holds t node d.props →
      t.stringAt (node ++ splitDots p.name) = some text → p.value.toStr = text :=
    fun hheld htext => Option.some.inj ((hheld p hp hplace).symm.trans htext)
  rw [hname] at hone
  rw [reservedText]
  rw [reservedField] at hname hone
  cases spot with
  | pci slot =>
    obtain ⟨hbus, -, -, hnode⟩ := h
    rw [if_pos hbus]
    cases hl : legacyAhciDeviceType d.device with
    | none =>
      rw [hl, if_neg (by simp)] at hone
      rw [hl] at hnode
      exact hone hnode.2 hnode.1
    | some type =>
      rw [hl, if_pos ⟨hbus, rfl⟩] at hone
      rw [hl] at hnode
      exact hone hnode.2.2 hnode.2.1
  | usb | tpm =>
    have hbus : d.bus ≠ .pci := by
      rw [h.1]
      decide
    rw [if_neg fun hpci => hbus hpci.1] at hone
    rw [if_neg hbus]
    exact hone h.2.2.2 h.2.2.1
  | control =>
    have hpath := (h.2.2 p hp hplace).1
    rw [h.1, if_neg (by simp), hpath] at hname
    exact absurd hname (by decide)

end

lemma pairwise_of_forall₂ {α β : Type} {R : α → β → Prop} {S : β → β → Prop} {T : α → α → Prop}
    {l : List α} {m : List β} (h : List.Forall₂ R l m) (hm : m.Pairwise S)
    (hST : ∀ {a b a' b'}, R a a' → R b b' → S a' b' → T a b) : l.Pairwise T := by
  induction h with
  | nil => exact .nil
  | @cons a a' l m hhead htail ih =>
    obtain ⟨hfirst, hrest⟩ := pairwise_cons.mp hm
    refine .cons ?_ (ih hrest)
    intro b hb
    obtain ⟨b', hb', hR⟩ := exists_of_forall₂_right htail.flip hb
    exact hST hhead hR (hfirst b' hb')

lemma NoLoss.clear {vm : Vm} (h : NoLoss vm t) (hcount : Counted [] (asks (vmNormalize vm).devices)) :
    Clear vm := by
  obtain ⟨⟨spots, hcarries, hnodes⟩, -, hnumbers⟩ := h
  have hspot : ∀ d ∈ vm.devices, ∃ spot, Carries vm t d spot := by
    intro d hd
    obtain ⟨spot, -, hcarry⟩ := exists_of_forall₂_right hcarries.flip hd
    exact ⟨spot, hcarry⟩
  refine ⟨?_, ?_, ?_, ?_, (bindings_nodup_iff hcount).mp hnumbers⟩
  · intro d hd
    obtain ⟨spot, hcarry⟩ := hspot d hd
    exact hcarry.pci_slot
  · refine pairwise_of_forall₂ hcarries (pairwise_map.mp hnodes) ?_
    intro d e spot spot' hd he hne hbus hbus' heq
    rw [hd.lpc_spot hbus, he.lpc_spot hbus', heq] at hne
    exact hne rfl
  · intro d hd
    obtain ⟨spot, hcarry⟩ := hspot d hd
    exact hcarry.fieldsFree
  · intro d hd hbus hdevice p hp hplace
    obtain ⟨spot, hcarry⟩ := hspot d hd
    rw [hcarry.lpc_spot hbus, if_pos hdevice] at hcarry
    exact (hcarry.2.2 p hp hplace).1

def keyboardAndDisk : List Call :=
  [.setCpu 2, .setRam 4096,
    .createPciDevice "xhci".toList 3, .setDeviceProp 0 "id".toList (.string (some "usb".toList)),
    .createUsbDevice "kbd".toList, .setDeviceProp 1 "parent".toList (.string (some "usb".toList)),
    .createPciDevice "ahci-hd".toList 4, .setDeviceProp 2 "path".toList (.string (some "a".toList)),
    .createLpcDevice "vm-control".toList,
    .setDeviceProp 3 "path".toList (.string (some "sock".toList)),
    .addDevice 0, .addDevice 1, .addDevice 2, .addDevice 3]

lemma keyboardAndDisk_asks :
    asks (vmNormalize (Builder.run keyboardAndDisk).vm).devices = [none] := by
  decide +kernel

lemma keyboardAndDisk_clear : vmValidate (Builder.run keyboardAndDisk).vm = .ok () ∧
    Clear (Builder.run keyboardAndDisk).vm := by
  refine ⟨by decide +kernel, by decide +kernel, by decide +kernel, ?_, by decide +kernel, ?_⟩
  · simp only [FieldsFree]
    decide +kernel
  · rw [keyboardAndDisk_asks]
    exact ⟨nofun, trivial⟩

lemma keyboardAndDisk_tree : ∃ t, vmToConfig (vmNormalize (Builder.run keyboardAndDisk).vm) = .ok t := by
  have hok : (vmToConfig (vmNormalize (Builder.run keyboardAndDisk).vm)).toOption.isSome := by
    decide +kernel
  cases ht : vmToConfig (vmNormalize (Builder.run keyboardAndDisk).vm) with
  | error =>
    rw [ht] at hok
    cases hok
  | ok t => exact ⟨t, rfl⟩

def twoAutomatic : List Call :=
  [.setCpu 1, .setRam 4096, .createPciDevice "net".toList SCORPI_PCI_SLOT_AUTO,
    .createPciDevice "disk".toList SCORPI_PCI_SLOT_AUTO, .addDevice 0, .addDevice 1]

def twoAutomaticTree : Nvlist :=
  .string "cpus".toList "1".toList (.string "cores".toList "1".toList
    (.string "sockets".toList "1".toList (.string "threads".toList "1".toList
      (.nvlist "memory".toList (.string "size".toList "4096".toList .nil)
        (.nvlist "pci".toList (.nvlist "0".toList (.nvlist "18446744073709551615".toList
          (.nvlist "0".toList (.string "device".toList "net".toList .nil) .nil) .nil) .nil)
          .nil)))))

end ScorpiHv.Config

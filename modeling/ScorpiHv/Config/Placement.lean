import ScorpiHv.Config.Canonical

/-!
# The places of devices in the tree

A device is written below a node that its bus and its number name. Where the nodes differ,
every write stays in the tree.
-/

namespace ScorpiHv.Config
open Canonical List

lemma forM_ok {α : Type} {f : α → Except ScorpiError Unit} {l : List α}
    (h : l.forM f = .ok ()) : ∀ a ∈ l, f a = .ok () := by
  induction l with
  | nil => exact fun a ha => absurd ha not_mem_nil
  | cons b l ih =>
    obtain ⟨u, hb, hrest⟩ := bind_ok h
    intro a ha
    rcases mem_cons.mp ha with rfl | ha
    · exact hb
    · exact ih hrest a ha

lemma validateDeviceIds_ok {ds : List Device} (h : validateDeviceIds ds = .ok ()) :
    ds.Pairwise fun d e => d.id.isSome → e.id ≠ d.id := by
  induction ds with
  | nil => exact .nil
  | cons d ds ih =>
    rw [validateDeviceIds] at h
    split at h
    · cases h
    split at h
    · cases h
    rename_i hdup
    refine .cons ?_ (ih h)
    intro e he hid heq
    exact hdup ⟨hid, any_eq_true.mpr ⟨e, he, decide_eq_true heq⟩⟩

lemma validatePciSlots_ok {ds : List Device} (h : validatePciSlots ds = .ok ()) :
    ds.Pairwise fun d e => d.bus = .pci → d.slot ≠ SCORPI_PCI_SLOT_AUTO → e.bus = .pci →
      e.slot ≠ d.slot := by
  induction ds with
  | nil => exact .nil
  | cons d ds ih =>
    rw [validatePciSlots] at h
    split at h
    · cases h
    rename_i hdup
    refine .cons ?_ (ih h)
    intro e he hbus hauto hbus' heq
    exact hdup ⟨hbus, hauto, any_eq_true.mpr ⟨e, he, decide_eq_true ⟨hbus', heq⟩⟩⟩

structure Valid (vm : Vm) : Prop where
  ids : vm.devices.Pairwise fun d e => d.id.isSome → e.id ≠ d.id
  slots : vm.devices.Pairwise fun d e => d.bus = .pci → d.slot ≠ SCORPI_PCI_SLOT_AUTO →
    e.bus = .pci → e.slot ≠ d.slot
  usb : ∀ d ∈ vm.devices, validateUsbDevice vm d = .ok ()
  lpc : ∀ d ∈ vm.devices, validateLpcDevice d = .ok ()

variable {vm : Vm}

lemma vmValidate_ok (h : vmValidate vm = .ok ()) : Valid vm := by
  obtain ⟨_, _, h⟩ := bind_ok h
  obtain ⟨_, hids, h⟩ := bind_ok h
  obtain ⟨_, hslots, h⟩ := bind_ok h
  obtain ⟨_, husb, hdevices⟩ := bind_ok h
  refine ⟨validateDeviceIds_ok hids, validatePciSlots_ok hslots, forM_ok husb, ?_⟩
  intro d hd
  obtain ⟨_, _, hlpc⟩ := bind_ok (forM_ok hdevices d hd)
  exact hlpc

lemma Valid.eq_of_id (h : Valid vm) {d e : Device} (hd : d ∈ vm.devices)
    (he : e ∈ vm.devices) (hid : d.id.isSome) (heq : e.id = d.id) : e = d := by
  have hsymm : Std.Symm fun d e : Device => d.id.isSome → e.id ≠ d.id :=
    ⟨fun d e hde hid heq => hde (heq ▸ hid) heq.symm⟩
  by_contra hne
  exact h.ids.forall hd he (Ne.symm hne) hid heq

def controllers (vm : Vm) : List NormalizedDevice :=
  (vmNormalize vm).devices.filter NormalizedDevice.isXhci

def bindings (vm : Vm) : List UsbBusBinding := collectUsbBusBindings (vmNormalize vm)

lemma collectFrom_ids (next : UInt64) (ds : List NormalizedDevice) : List.Forall₂ (fun d b => b.id = d.id)
    (ds.filter NormalizedDevice.isXhci) (collectFrom next ds) := by
  induction ds generalizing next with
  | nil => exact .nil
  | cons d ds ih =>
    rw [collectFrom]
    by_cases hd : d.isXhci
    · rw [filter_cons_of_pos hd, if_pos hd]
      exact .cons rfl (ih _)
    · rw [filter_cons_of_neg hd, if_neg hd]
      exact ih _

lemma mem_normalize {n : NormalizedDevice} :
    n ∈ (vmNormalize vm).devices ↔ ∃ d ∈ vm.devices, normalizedDeviceCopy d = n := by
  rw [vmNormalize, (sortBy_perm _ _).mem_iff, mem_map]

variable {b : UsbBusBinding} {i : Nat}

lemma exists_controller (h : (bindings vm)[i]? = some b) : ∃ c ∈ vm.devices, c.isXhci ∧
    c.id = b.id ∧ (normalizedDeviceCopy c, b) ∈ (controllers vm).zip (bindings vm) := by
  have hids := collectFrom_ids 0 (vmNormalize vm).devices
  have hlength : (controllers vm).length = (bindings vm).length := hids.length_eq
  obtain ⟨hi, hb⟩ := List.getElem?_eq_some_iff.mp h
  have hi' : i < (controllers vm).length := hlength ▸ hi
  have hid : b.id = (controllers vm)[i].id := by
    rw [← hb]
    exact (forall₂_iff_get.mp hids).2 i hi' hi
  have hmem : (controllers vm)[i] ∈ controllers vm := getElem_mem hi'
  obtain ⟨hdevice, hxhci⟩ := mem_filter.mp hmem
  obtain ⟨c, hc, hcopy⟩ := mem_normalize.mp hdevice
  refine ⟨c, hc, ?_, ?_, ?_⟩
  · rw [← hcopy] at hxhci
    exact hxhci
  · rw [hid, ← hcopy]
    rfl
  rw [hcopy, mem_iff_getElem]
  refine ⟨i, ?_, ?_⟩
  · rw [length_zip]
    omega
  · rw [getElem_zip, hb]

def Under (vm : Vm) (d : Device) (bus : UInt64) : Prop :=
  ∃ c ∈ vm.devices, c.isXhci ∧
    (resolveParent vm d = .ok (some c) ∨
      (resolveParent vm d = .ok none ∧ countXhciControllers vm = 1)) ∧
    ∃ b, (normalizedDeviceCopy c, b) ∈ (controllers vm).zip (bindings vm) ∧ b.bus = bus

lemma under_of_binding (hv : Valid vm) {d : Device} (hd : d ∈ vm.devices) (hbus : d.bus = .usb)
    (hfind : findUsbBusBinding (bindings vm) (stringProp d.props "parent".toList) = some i)
    (hget : (bindings vm)[i]? = some b) : Under vm d b.bus := by
  obtain ⟨c, hc, hxhci, hid, hzip⟩ := exists_controller hget
  have husb := hv.usb d hd
  rw [validateUsbDevice, if_neg (not_not.mpr hbus)] at husb
  refine ⟨c, hc, hxhci, ?_, b, hzip, rfl⟩
  cases hparent : resolveParent vm d with
  | error => rw [hparent] at husb; cases husb
  | ok =>
    rw [resolveParent] at hparent
    split at hparent
    · cases hparent
      have hnone : resolveParent vm d = .ok none := by
        rename_i hprop
        rw [resolveParent, hprop]
      rw [hnone] at husb
      dsimp only at husb
      split at husb
      · cases husb
      · rename_i hcount
        exact .inr ⟨rfl, not_not.mp hcount⟩
    · rename_i parent hprop
      split at hparent
      · cases hparent
      split at hparent
      · cases hparent
      rename_i q hq
      cases hparent
      left
      rw [stringProp, hprop] at hfind
      have hbid : b.id = some parent := by
        obtain ⟨hi, hpred, -⟩ := List.findIdx?_eq_some_iff_getElem.mp hfind
        obtain ⟨hi', hb⟩ := List.getElem?_eq_some_iff.mp hget
        rw [hb] at hpred
        exact of_decide_eq_true hpred
      rw [findDeviceById] at hq
      split at hq
      · cases hq
      have hfound := List.find?_some hq
      have hqid : q.id = some parent := of_decide_eq_true hfound
      have heq := hv.eq_of_id (mem_of_find?_eq_some hq) hc (by rw [hqid]; rfl) (by rw [hid, hbid, hqid])
      rw [heq]
    · cases hparent

/-- The numbers that the controllers ask for, in the order of the normal form. -/
def asks (ds : List NormalizedDevice) : List (Option UInt64) :=
  (ds.filter NormalizedDevice.isXhci).map fun d => d.u64Prop "bus".toList

/-- One above all numbers that are given. -/
def above (seen : List UInt64) : Nat := (seen.map fun bus => bus.toNat + 1).foldr max 0

/-- A controller has the number it asks for, or else one above all that are given before. -/
def numberFor (seen : List UInt64) (ask : Option UInt64) : UInt64 :=
  ask.getD (UInt64.ofNat (above seen))

def numbers (seen : List UInt64) : List (Option UInt64) → List UInt64
  | [] => []
  | ask :: rest => numberFor seen ask :: numbers (numberFor seen ask :: seen) rest

/-- Where no number is asked for, there is one above all that are given. -/
def Counted (seen : List UInt64) : List (Option UInt64) → Prop
  | [] => True
  | ask :: rest => (ask = none → above seen < 2 ^ 64) ∧ Counted (numberFor seen ask :: seen) rest

/-- No controller asks for a number that is given. -/
def Unasked (seen : List UInt64) : List (Option UInt64) → Prop
  | [] => True
  | ask :: rest => (∀ bus ∈ ask, bus ∉ seen) ∧ Unasked (numberFor seen ask :: seen) rest

variable {seen : List UInt64}

lemma lt_above {bus : UInt64} (h : bus ∈ seen) : bus.toNat < above seen := by
  induction seen with
  | nil => cases h
  | cons first seen ih =>
    rw [above, map_cons, foldr_cons]
    rcases mem_cons.mp h with rfl | h
    · exact Nat.lt_of_lt_of_le (Nat.lt_succ_self _) (Nat.le_max_left _ _)
    · exact Nat.lt_of_lt_of_le (ih h) (Nat.le_max_right _ _)

lemma numberFor_none (h : above seen < 2 ^ 64) : (numberFor seen none).toNat = above seen := by
  rw [numberFor, Option.getD_none, UInt64.toNat_ofNat', Nat.mod_eq_of_lt h]

lemma numbers_nodup_iff {rest : List (Option UInt64)} (h : Counted seen rest) :
    (numbers seen rest).Nodup ∧ (∀ bus ∈ numbers seen rest, bus ∉ seen) ↔ Unasked seen rest := by
  induction rest generalizing seen with
  | nil => exact ⟨fun _ => trivial, fun _ => ⟨nodup_nil, fun bus hbus => absurd hbus not_mem_nil⟩⟩
  | cons ask rest ih =>
    rw [Unasked, ← ih h.2, numbers]
    -- A number that is not asked for is above the others.
    have hnew : (∀ bus ∈ ask, bus ∉ seen) ↔ numberFor seen ask ∉ seen := by
      cases ask with
      | some bus => exact ⟨fun hask => hask bus rfl, fun hask b hb => Option.some.inj hb ▸ hask⟩
      | none =>
        refine ⟨fun _ hmem => ?_, fun _ bus hbus => by cases hbus⟩
        have hlt := lt_above hmem
        rw [numberFor_none (h.1 rfl)] at hlt
        exact absurd hlt (Nat.lt_irrefl _)
    rw [hnew, nodup_cons]
    constructor
    · rintro ⟨⟨hhead, hnodup⟩, hseen⟩
      refine ⟨hseen _ mem_cons_self, hnodup, ?_⟩
      intro bus hbus
      refine not_mem_cons_of_ne_of_not_mem ?_ (hseen bus (mem_cons_of_mem _ hbus))
      exact ne_of_mem_of_not_mem hbus hhead
    · rintro ⟨hask, hnodup, hrest⟩
      refine ⟨⟨fun hmem => hrest _ hmem mem_cons_self, hnodup⟩, ?_⟩
      intro bus hbus
      rcases mem_cons.mp hbus with rfl | hbus
      · exact hask
      · exact fun hmem => hrest bus hbus (mem_cons_of_mem _ hmem)

/-- The counter of the collecting loop after a controller. -/
lemma next_above {next after bus : UInt64} {given : Option UInt64} (hbus : given.getD next = bus)
    (hafter : (if (if given.isSome then next else next + 1) ≤ bus then bus + 1
      else if given.isSome then next else next + 1) = after)
    (hnext : above seen < 2 ^ 64 → next.toNat = above seen) (hlt : above (bus :: seen) < 2 ^ 64) :
    after.toNat = above (bus :: seen) := by
  have hcons : above (bus :: seen) = max (bus.toNat + 1) (above seen) := rfl
  have hone : (1 : UInt64).toNat = 1 := rfl
  have hseen : above seen < 2 ^ 64 := by omega
  have hsucc : (bus + 1).toNat = bus.toNat + 1 := by
    rw [UInt64.toNat_add]
    omega
  have hcounter := hnext hseen
  cases given with
  | none =>
    rw [Option.getD_none] at hbus
    subst hbus
    simp only [Option.isSome_none, Bool.false_eq_true, if_false] at hafter
    rw [ite_self] at hafter
    rw [← hafter, hsucc, hcons, hcounter]
    omega
  | some =>
    simp only [Option.isSome_some, if_true] at hafter
    split at hafter
    · rename_i hle
      rw [UInt64.le_iff_toNat_le, hcounter] at hle
      rw [← hafter, hsucc, hcons]
      omega
    · rename_i hle
      rw [UInt64.le_iff_toNat_le, hcounter] at hle
      rw [← hafter, hcounter, hcons]
      omega

variable {ds : List NormalizedDevice} {bs : List UsbBusBinding}

lemma collectFrom_numbers {next : UInt64} (hnext : above seen < 2 ^ 64 → next.toNat = above seen)
    (h : Counted seen (asks ds)) : (collectFrom next ds).map (·.bus) = numbers seen (asks ds) := by
  induction ds generalizing seen next with
  | nil => rfl
  | cons d ds ih =>
    by_cases hd : d.isXhci
    · have hasks : asks (d :: ds) = d.u64Prop "bus".toList :: asks ds := by
        rw [asks, filter_cons_of_pos hd, map_cons]
        rfl
      rw [hasks] at h ⊢
      have hbus : (d.u64Prop "bus".toList).getD next = numberFor seen (d.u64Prop "bus".toList) := by
        cases hask : d.u64Prop "bus".toList with
        | some => rfl
        | none =>
          have hlt := h.1 hask
          rw [← UInt64.toNat_inj, numberFor_none hlt]
          exact hnext hlt
      rw [collectFrom, if_pos hd, map_cons, numbers, hbus]
      refine congrArg _ (ih ?_ h.2)
      exact next_above hbus rfl hnext
    · have hasks : asks (d :: ds) = asks ds := by rw [asks, filter_cons_of_neg hd, asks]
      rw [hasks] at h ⊢
      rw [collectFrom, if_neg hd]
      exact ih hnext h

def Spot.node : Spot → List Str
  | .pci slot => ["pci".toList, "0".toList, decimal slot, "0".toList]
  | .usb bus port => ["usb".toList, decimal bus, decimal port]
  | .tpm => ["tpm".toList]
  | .control => ["comm_sock".toList]

variable {s s' : Spot}

lemma Spot.eq_of_common {q r r' : List Str} (h : q = s.node ++ r) (h' : q = s'.node ++ r') : s = s' := by
  rw [h] at h'
  cases s <;> cases s' <;> simp only [Spot.node, cons_append, List.cons.injEq] at h'
  case pci.pci => rw [decimal_injective h'.2.2.1]
  case usb.usb => rw [decimal_injective h'.2.1, decimal_injective h'.2.2.1]
  case tpm.tpm => rfl
  case control.control => rfl
  all_goals exact absurd h'.1 (by decide)

lemma Spot.node_injective (h : s.node = s'.node) : s = s' :=
  Spot.eq_of_common (append_nil _).symm (h.trans (append_nil _).symm)

def below (base : Str) (f : Write) : Write := (joinPath base f.1, f.2)

lemma joinPath_assoc (a b c : Str) : joinPath (joinPath a b) c = joinPath a (joinPath b c) := by
  rw [joinPath, joinPath, joinPath, joinPath, append_assoc]
  rfl

lemma splitDots_pciPath (slot : UInt64) : splitDots (pciPath slot) = (Spot.pci slot).node := by
  rw [pciPath_eq, splitDots_join, splitDots_join, splitDots_join, splitDots_decimal]
  rfl

lemma splitDots_usbPath (bus port : UInt64) : splitDots (usbPath bus port) = (Spot.usb bus port).node := by
  rw [usbPath_eq, splitDots_join, splitDots_join, splitDots_decimal, splitDots_decimal]
  rfl

variable {base : Str}

lemma key_below (h : splitDots base = s.node) (f : Write) :
    key (below base f).1 = s.node ++ splitDots f.1 := by
  have hsplit : splitDots (below base f).1 = s.node ++ splitDots f.1 := by rw [below, splitDots_join, h]
  rw [key_eq, hsplit]
  rw [hsplit]
  cases s <;> simp [Spot.node]

variable {fs : List Write}

/-- Entries under one name have one text. -/
def Agree {α : Type} (name : Str → α) (ws : List Write) : Prop :=
  ∀ w ∈ ws, ∀ w' ∈ ws, name w.1 = name w'.1 → w.2 = w'.2

lemma agree_cons {f : Write} : Agree id (f :: fs) ↔ (∀ f' ∈ fs, f'.1 = f.1 → f'.2 = f.2) ∧ Agree id fs := by
  constructor
  · intro h
    refine ⟨fun f' hf' => h f' (mem_cons_of_mem f hf') f mem_cons_self, ?_⟩
    exact fun g hg g' hg' => h g (mem_cons_of_mem f hg) g' (mem_cons_of_mem f hg')
  · rintro ⟨hhead, htail⟩ g hg g' hg' heq
    rcases mem_cons.mp hg with rfl | hmem <;> rcases mem_cons.mp hg' with rfl | hmem'
    · rfl
    · exact (hhead g' hmem' heq.symm).symm
    · exact hhead g hmem heq
    · exact htail g hmem g' hmem' heq

lemma agree_of_nodup (h : (fs.map (·.1)).Nodup) : Agree id fs := by
  intro f hf f' hf' heq
  rw [inj_on_of_nodup_map h hf hf' heq]

lemma agree_below (h : splitDots base = s.node) (hfs : Agree id fs) :
    Agree key (fs.map (below base)) := by
  intro w hw w' hw' heq
  obtain ⟨f, hf, rfl⟩ := mem_map.mp hw
  obtain ⟨f', hf', rfl⟩ := mem_map.mp hw'
  rw [key_below h, key_below h] at heq
  exact hfs f hf f' hf' (splitDots_injective (append_cancel_left heq))

def propFields (skipIdentity : Bool) (ps : List VmProp) : List Write :=
  (ps.filter fun p => ¬placement skipIdentity p.name).map fun p => (p.name, p.value.toStr)

lemma devicePropWrites_eq (base : Str) (skip : Bool) (ps : List VmProp) :
    devicePropWrites base skip ps = (propFields skip ps).map (below base) := by
  rw [devicePropWrites, propFields, map_map]
  rfl

variable {ps : List VmProp} {skip : Bool}

lemma mem_propFields {p : VmProp} (hp : p ∈ ps)
    (h : ¬placement skip p.name) : (p.name, p.value.toStr) ∈ propFields skip ps :=
  mem_map_of_mem (mem_filter.mpr ⟨hp, by simpa using h⟩)

lemma names_propFields (skip : Bool) (ps : List VmProp) : (propFields skip ps).map (·.1) =
      (ps.filter fun p => ¬placement skip p.name).map (·.name) := by
  rw [propFields, map_map]
  rfl

lemma nodup_propFields (h : (ps.map (·.name)).Nodup) : ((propFields skip ps).map (·.1)).Nodup := by
  rw [names_propFields]
  exact (filter_sublist.map _).nodup h

lemma exists_prop {f : Write} (hf : f ∈ propFields skip ps) :
    ∃ p ∈ ps, ¬placement skip p.name ∧ (p.name, p.value.toStr) = f := by
  obtain ⟨p, hp, rfl⟩ := mem_map.mp hf
  obtain ⟨hmem, hplace⟩ := mem_filter.mp hp
  exact ⟨p, hmem, by simpa using hplace, rfl⟩

def pciFields (d : NormalizedDevice) (bs : List UsbBusBinding) : List Write :=
  match legacyAhciDeviceType d.device with
  | some type =>
    ("device".toList, "ahci".toList) ::
      ((d.u64Prop "bus".toList).toList.map (fun b => ("bus".toList, decimal b)) ++
        ("port.0.type".toList, type) :: (propFields true d.props).map (below "port.0".toList))
  | none =>
    ("device".toList, d.device) ::
      ((pciBusValue d bs).toList.map (fun b => ("bus".toList, decimal b)) ++
        propFields true d.props)

lemma pciWrites_eq (d : NormalizedDevice) (bs : List UsbBusBinding) :
    pciWrites d bs = (pciFields d bs).map (below (pciPath d.slot)) := by
  rw [pciWrites, pciFields]
  cases legacyAhciDeviceType d.device with
  | none =>
    simp only [busWrites, devicePropWrites_eq, map_cons, map_append, map_map]
    rfl
  | some =>
    have hbelow : below (pciPath d.slot) ∘ below "port.0".toList =
        below (joinPath (pciPath d.slot) "port.0".toList) := by
      funext f
      simp only [Function.comp_apply, below, joinPath_assoc]
    simp only [busWrites, devicePropWrites_eq, map_cons, map_append, map_map, hbelow]
    rw [joinPath_assoc]
    rfl

def reservedField (bus : BusKind) (device : Str) : Str :=
  if bus = .pci ∧ (legacyAhciDeviceType device).isSome then "type".toList else "device".toList

/-- What the exporter stores in that entry. -/
def reservedText (bus : BusKind) (device : Str) : Str :=
  if bus = .pci then (legacyAhciDeviceType device).getD device else device

/-- A property that has the name of an entry of the exporter has its text too. -/
def FieldsFree (bus : BusKind) (device : Str) (ps : List VmProp) : Prop :=
  ∀ p ∈ ps, p.name = reservedField bus device → p.value.toStr = reservedText bus device

variable {d : NormalizedDevice}

lemma agree_device (hnames : (ps.map (·.name)).Nodup) {device : Str}
    (hfree : ∀ p ∈ ps, p.name = "device".toList → p.value.toStr = device) :
    Agree id (("device".toList, device) :: propFields skip ps) := by
  refine agree_cons.mpr ⟨?_, agree_of_nodup (nodup_propFields hnames)⟩
  intro f hf hname
  obtain ⟨p, hp, -, rfl⟩ := exists_prop hf
  exact hfree p hp hname

lemma agree_busFields {device : Str} (hfs : Agree id (("device".toList, device) :: fs))
    (hbus : ∀ f ∈ fs, f.1 ≠ "bus".toList) (bus : Option UInt64) :
    Agree id (("device".toList, device) ::
      (bus.toList.map (fun b => ("bus".toList, decimal b)) ++ fs)) := by
  cases bus with
  | none => exact hfs
  | some b =>
    obtain ⟨hdevice, hrest⟩ := agree_cons.mp hfs
    have hne : "bus".toList ≠ "device".toList := by decide
    refine agree_cons.mpr ⟨?_, agree_cons.mpr ⟨?_, hrest⟩⟩
    · intro f hf heq
      rcases mem_cons.mp hf with rfl | hf
      · exact absurd heq hne
      · exact hdevice f hf heq
    · exact fun f hf heq => absurd heq (hbus f hf)

lemma agree_pciFields (bs : List UsbBusBinding) (hnames : (d.props.map (·.name)).Nodup)
    (hfree : FieldsFree .pci d.device d.props) : Agree id (pciFields d bs) := by
  rw [pciFields]
  rw [FieldsFree, reservedField, reservedText, if_pos rfl] at hfree
  cases hl : legacyAhciDeviceType d.device with
  | none =>
    rw [hl, if_neg (by simp), Option.getD_none] at hfree
    refine agree_busFields (agree_device hnames hfree) ?_ _
    intro f hf hname
    obtain ⟨p, -, hplace, rfl⟩ := exists_prop hf
    exact hplace (.inr ⟨rfl, .inl hname⟩)
  | some type =>
    rw [hl, if_pos ⟨rfl, rfl⟩, Option.getD_some] at hfree
    have hbelow : Agree id (("port.0.type".toList, type) ::
        (propFields true d.props).map (below "port.0".toList)) := by
      refine agree_cons.mpr ⟨?_, ?_⟩
      · intro f hf hname
        obtain ⟨g, hg, rfl⟩ := mem_map.mp hf
        obtain ⟨p, hp, -, rfl⟩ := exists_prop hg
        have hsame : "port.0".toList ++ '.' :: p.name = "port.0".toList ++ '.' :: "type".toList :=
          hname
        exact hfree p hp (List.cons.inj (append_cancel_left hsame)).2
      · intro f hf f' hf' heq
        obtain ⟨g, hg, rfl⟩ := mem_map.mp hf
        obtain ⟨g', hg', rfl⟩ := mem_map.mp hf'
        have hnames' := agree_of_nodup (@nodup_propFields _ true hnames)
        exact hnames' g hg g' hg' (List.cons.inj (append_cancel_left heq)).2
    -- The properties are below the port, so only the type of the port can meet one of them.
    have hother : ∀ name : Str, name.head? ≠ some 'p' → ∀ f ∈ ("port.0.type".toList, type) ::
        (propFields true d.props).map (below "port.0".toList), f.1 ≠ name := by
      rintro name hhead f hf rfl
      rcases mem_cons.mp hf with rfl | hf
      · exact hhead rfl
      · obtain ⟨g, -, rfl⟩ := mem_map.mp hf
        exact hhead rfl
    refine agree_busFields (agree_cons.mpr ⟨?_, hbelow⟩) (hother _ (by decide)) _
    exact fun f hf heq => absurd heq (hother _ (by decide) f hf)

/-- The writes of a device at its place, over the bindings of the whole run. -/
inductive Shaped (bs : List UsbBusBinding) : NormalizedDevice → Spot × List Write → Prop where
  | pci {d : NormalizedDevice} (bs' : List UsbBusBinding) (hbus : d.bus = .pci) :
      Shaped bs d (.pci d.slot, (pciFields d bs').map (below (pciPath d.slot)))
  | usb {d : NormalizedDevice} {i : Nat} {b : UsbBusBinding} (port : UInt64) (hbus : d.bus = .usb)
      (hfind : findUsbBusBinding bs d.parent = some i) (hget : bs[i]? = some b) :
      Shaped bs d (.usb b.bus port,
        (("device".toList, d.device) :: propFields true d.props).map (below (usbPath b.bus port)))
  | tpm {d : NormalizedDevice} (hbus : d.bus = .lpc) (hdevice : d.device = "tpm".toList) :
      Shaped bs d (.tpm,
        (("device".toList, "tpm".toList) :: propFields false d.props).map (below "tpm".toList))
  | control {d : NormalizedDevice} (hbus : d.bus = .lpc)
      (hdevice : d.device = "vm-control".toList) :
      Shaped bs d (.control, [("comm_sock".toList, (stringProp d.props "path".toList).getD [])])

def buses (bs : List UsbBusBinding) : List (Option Str × UInt64) := bs.map fun b => (b.id, b.bus)

lemma buses_usbNext (hget : bs[i]? = some b) : buses (usbNext d bs i b) = buses bs := by
  rw [usbNext]
  split
  · rfl
  obtain ⟨hi, hb⟩ := List.getElem?_eq_some_iff.mp hget
  rw [buses, map_set, buses]
  apply ext_getElem?
  intro j
  by_cases hij : i = j
  · subst hij
    rw [List.getElem?_set_self (by simpa using hi), List.getElem?_map, hget]
    rfl
  · exact List.getElem?_set_ne hij

lemma find_of_buses {bs' : List UsbBusBinding} (h : buses bs = buses bs')
    (parent : Option Str) : findUsbBusBinding bs parent = findUsbBusBinding bs' parent := by
  cases parent with
  | none =>
    have hlength := congrArg List.length h
    rw [buses, buses, length_map, length_map] at hlength
    rw [findUsbBusBinding, findUsbBusBinding, hlength]
  | some id =>
    have hidx := congrArg (fun l => l.findIdx? fun p => decide (p.1 = some id)) h
    simp only [buses, List.findIdx?_map] at hidx
    exact hidx

lemma DeviceWrites.shaped {t t' : Nvlist} {bs₀ : List UsbBusBinding} {wss : List (Spot × List Write)}
    (h : DeviceWrites t bs ds wss t') (hbs : buses bs = buses bs₀) : List.Forall₂ (Shaped bs₀) ds wss := by
  induction h with
  | nil => exact .nil
  | pci hbus _ _ ih =>
    rw [pciWrites_eq]
    exact .cons (.pci _ hbus) (ih hbs)
  | @usb t _ _ bs d _ _ i b hbus hfind hget _ _ _ ih =>
    rw [find_of_buses hbs] at hfind
    have hget₀ := congrArg (fun l => l[i]?) hbs
    simp only [buses, List.getElem?_map, hget, Option.map_some] at hget₀
    obtain ⟨b₀, hb₀, heq⟩ := Option.map_eq_some_iff.mp hget₀.symm
    have hbus₀ : b₀.bus = b.bus := (Prod.mk.inj heq).2
    rw [usbWrites, devicePropWrites_eq, ← hbus₀]
    exact .cons (.usb _ hbus hfind hb₀) (ih ((buses_usbNext hget).trans hbs))
  | @lpc _ _ _ _ d _ _ hbus hdevice _ _ ih =>
    refine .cons ?_ (ih hbs)
    rcases hdevice with hdevice | hdevice
    · rw [lpcSpot, lpcWrites, if_pos hdevice, if_pos hdevice]
      exact .control hbus hdevice
    have hne : d.device ≠ "vm-control".toList := by
      rw [hdevice]
      decide
    rw [lpcSpot, lpcWrites, if_neg hne, if_neg hne, devicePropWrites_eq]
    exact .tpm hbus hdevice

lemma Shaped.keys {pw : Spot × List Write} (h : Shaped bs d pw)
    (hnames : (d.props.map (·.name)).Nodup) (hfree : FieldsFree d.bus d.device d.props) :
    Agree key pw.2 ∧ ∀ w ∈ pw.2, ∃ r, key w.1 = pw.1.node ++ r := by
  have hfields : ∀ (s : Spot) (base : Str) (fs : List Write), splitDots base = s.node →
      Agree id fs → Agree key (fs.map (below base)) ∧
        ∀ w ∈ fs.map (below base), ∃ r, key w.1 = s.node ++ r := by
    intro s base fs hbase hfs
    refine ⟨agree_below hbase hfs, ?_⟩
    intro w hw
    obtain ⟨f, -, rfl⟩ := mem_map.mp hw
    exact ⟨_, key_below hbase f⟩
  have hdevice : d.bus ≠ .pci → ∀ skip,
      Agree id (("device".toList, d.device) :: propFields skip d.props) := by
    intro hbus skip
    rw [FieldsFree, reservedField, if_neg fun h => hbus h.1, reservedText, if_neg hbus] at hfree
    exact agree_device hnames hfree
  cases h with
  | pci bs' hbus =>
    rw [hbus] at hfree
    exact hfields _ _ _ (splitDots_pciPath d.slot) (agree_pciFields bs' hnames hfree)
  | usb port hbus =>
    exact hfields _ _ _ (splitDots_usbPath _ port) (hdevice (by rw [hbus]; decide) true)
  | tpm hbus htpm =>
    have hown := hdevice (by rw [hbus]; decide) false
    rw [htpm] at hown
    exact hfields .tpm _ _ rfl hown
  | control hbus _ =>
    refine ⟨?_, ?_⟩
    · intro w hw w' hw' _
      rw [mem_singleton.mp hw, mem_singleton.mp hw']
    · intro w hw
      rw [mem_singleton.mp hw]
      exact ⟨[], rfl⟩

end ScorpiHv.Config

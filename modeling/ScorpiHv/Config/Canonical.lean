import ScorpiHv.Config.Names

/-!
# Normal forms are canonical

The comparators are total orders, and two machines have one normal form exactly when they
agree up to the order of their properties and devices.
-/

namespace ScorpiHv.Config
open Function Canonical List

namespace PropValue

def text : PropValue → Option Str
  | .string s => s
  | _ => none

def flag : PropValue → Bool
  | .bool b => b
  | _ => false

def number : PropValue → UInt64
  | .u64 v => v
  | _ => 0

end PropValue

lemma valueCompare_lex : valueCompare = compareLex (compareOn PropValue.kind)
    (compareLex (compareOn PropValue.text)
      (compareLex (compareOn PropValue.flag) (compareOn PropValue.number))) := by
  funext a b
  cases a <;> cases b <;>
    first
    | rfl
    | simp [valueCompare, compareLex, compareOn, PropValue.kind, PropValue.text, PropValue.flag,
        PropValue.number]

instance : Std.TransCmp valueCompare := by
  rw [valueCompare_lex]
  infer_instance

lemma valueCompare_eq_iff (a b : PropValue) : valueCompare a b = .eq ↔ a = b := by
  cases a <;> cases b <;> simp [valueCompare, PropValue.kind]

lemma normalizedPropCompare_lex : normalizedPropCompare =
    compareLex (compareOn VmProp.name) (fun l r => valueCompare l.value r.value) := rfl

instance : Std.TransCmp normalizedPropCompare := by
  have hvalue : Std.TransCmp fun l r : VmProp => valueCompare l.value r.value :=
    { eq_swap := Std.OrientedCmp.eq_swap
      isLE_trans := Std.TransCmp.isLE_trans }
  rw [normalizedPropCompare_lex]
  infer_instance

lemma normalizedPropCompare_eq_iff (l r : VmProp) : normalizedPropCompare l r = .eq ↔ l = r := by
  rw [normalizedPropCompare, Ordering.then_eq_eq, valueCompare_eq_iff, Std.LawfulEqCmp.compare_eq_iff_eq]
  constructor
  · rintro ⟨hname, hvalue⟩
    cases l
    cases r
    simp_all
  · rintro rfl
    exact ⟨rfl, rfl⟩

lemma normalizedPropCompare_total : TotalOrder normalizedPropCompare where
  eq_iff := normalizedPropCompare_eq_iff
  swap _ _ := Std.OrientedCmp.eq_swap
  trans := Std.TransCmp.isLE_trans

variable {l r : List VmProp}

lemma propsCompare_eq (h : l.length = r.length) :
    propsCompare l r = List.compareLex normalizedPropCompare l r := by
  induction l generalizing r with
  | nil =>
    cases r with
    | nil => rfl
    | cons => cases h
  | cons a l ih =>
    cases r with
    | nil => cases h
    | cons => rw [propsCompare, List.compareLex_cons_cons, ih (Nat.succ.inj h)]

lemma normalizedDeviceCompare_lex : normalizedDeviceCompare =
    compareLex (compareOn (·.id)) (compareLex (compareOn fun d => d.bus.code)
      (compareLex (compareOn (·.device)) (compareLex (compareOn (·.slot))
        (compareLex (compareOn (·.parent)) (compareLex (compareOn fun d => d.props.length)
          (fun l r => List.compareLex normalizedPropCompare l.props r.props)))))) := by
  funext l r
  simp only [normalizedDeviceCompare, compareLex, compareOn]
  by_cases h : l.props.length = r.props.length
  · rw [propsCompare_eq h]
  have hne : compare l.props.length r.props.length ≠ .eq :=
    fun heq => h (Std.LawfulEqCmp.compare_eq_iff_eq.mp heq)
  cases hc : compare l.props.length r.props.length with
  | lt => rfl
  | eq => exact absurd hc hne
  | gt => rfl

instance : Std.TransCmp normalizedDeviceCompare := by
  have hprops : Std.TransCmp fun l r : NormalizedDevice =>
      List.compareLex normalizedPropCompare l.props r.props :=
    { eq_swap := Std.OrientedCmp.eq_swap
      isLE_trans := Std.TransCmp.isLE_trans }
  rw [normalizedDeviceCompare_lex]
  infer_instance

lemma BusKind.code_injective {a b : BusKind} (h : a.code = b.code) : a = b := by
  cases a <;> cases b <;> first | rfl | cases h

lemma propsCompare_eq_iff (h : l.length = r.length) : propsCompare l r = .eq ↔ l = r := by
  induction l generalizing r with
  | nil =>
    cases r with
    | nil => exact ⟨fun _ => rfl, fun _ => rfl⟩
    | cons => cases h
  | cons a l ih =>
    cases r with
    | nil => cases h
    | cons =>
      rw [propsCompare, Ordering.then_eq_eq, normalizedPropCompare_eq_iff, ih (Nat.succ.inj h),
        List.cons.injEq]

lemma normalizedDeviceCompare_eq_iff (l r : NormalizedDevice) :
    normalizedDeviceCompare l r = .eq ↔ l = r := by
  simp only [normalizedDeviceCompare, Ordering.then_eq_eq, Std.LawfulEqCmp.compare_eq_iff_eq]
  constructor
  · rintro ⟨hid, hbus, hdevice, hslot, hparent, hlength, hprops⟩
    rw [propsCompare_eq_iff hlength] at hprops
    have hbus := BusKind.code_injective hbus
    cases l
    cases r
    simp_all
  · rintro rfl
    exact ⟨rfl, rfl, rfl, rfl, rfl, rfl, (propsCompare_eq_iff rfl).mpr rfl⟩

lemma normalizedDeviceCompare_total : TotalOrder normalizedDeviceCompare where
  eq_iff := normalizedDeviceCompare_eq_iff
  swap _ _ := Std.OrientedCmp.eq_swap
  trans := Std.TransCmp.isLE_trans

lemma allEqual_iff {α : Type} {cmp : α → α → Ordering} (h : TotalOrder cmp) (ls rs : List α) :
    allEqual cmp ls rs = true ↔ ls = rs := by
  induction ls generalizing rs with
  | nil => cases rs <;> simp [allEqual]
  | cons l ls ih =>
    cases rs with
    | nil => simp [allEqual]
    | cons r rs =>
      have hrest := ih rs
      simp only [allEqual, Bool.and_eq_true, decide_eq_true_eq] at hrest
      simp only [allEqual, length_cons, zip_cons_cons, all_cons, Bool.and_eq_true,
        decide_eq_true_eq, beq_iff_eq, h.eq_iff, List.cons.injEq, Nat.succ_inj]
      rw [← hrest]
      exact and_left_comm

lemma normalizedVmEqual_iff (l r : NormalizedVm) : normalizedVmEqual l r = true ↔ l = r := by
  rw [normalizedVmEqual, Bool.and_eq_true, allEqual_iff normalizedPropCompare_total,
    allEqual_iff normalizedDeviceCompare_total]
  cases l
  cases r
  simp

def SameProps (ps qs : List VmProp) : Prop := ∀ name, propFind ps name = propFind qs name

variable {ps qs : List VmProp} {name : Str}

lemma propFind_eq_none_iff : propFind ps name = none ↔ name ∉ ps.map (·.name) := by
  induction ps with
  | nil => simp [propFind]
  | cons p ps ih =>
    rw [propFind, map_cons, mem_cons, not_or, ← ih]
    by_cases h : p.name = name
    · simp [h]
    · simp [h, Ne.symm h]

lemma mem_iff_propFind (h : (ps.map (·.name)).Nodup) (p : VmProp) :
    p ∈ ps ↔ propFind ps p.name = some p.value := by
  induction ps with
  | nil => simp [propFind]
  | cons q ps ih =>
    rw [map_cons, nodup_cons] at h
    rw [mem_cons, propFind]
    by_cases hname : q.name = p.name
    · have hnot : p ∉ ps := fun hp => h.1 (hname ▸ mem_map_of_mem hp)
      rw [if_pos hname, Option.some.injEq]
      constructor
      · rintro (rfl | hp)
        · rfl
        · exact absurd hp hnot
      · intro hvalue
        left
        cases p
        cases q
        simp_all
    · rw [if_neg hname, ← ih h.2]
      constructor
      · rintro (rfl | hp)
        · exact absurd rfl hname
        · exact hp
      · exact .inr

lemma SameProps.perm_iff (hp : (ps.map (·.name)).Nodup)
    (hq : (qs.map (·.name)).Nodup) : SameProps ps qs ↔ ps.Perm qs := by
  rw [perm_ext_iff_of_nodup (List.Nodup.of_map _ hp) (List.Nodup.of_map _ hq)]
  constructor
  · intro h p
    rw [mem_iff_propFind hp, mem_iff_propFind hq, h]
  intro h name
  apply Option.ext
  intro v
  have hname := h { name, value := v }
  rw [mem_iff_propFind hp, mem_iff_propFind hq] at hname
  exact hname

lemma SameProps.sort_iff (hp : (ps.map (·.name)).Nodup) (hq : (qs.map (·.name)).Nodup) :
    SameProps ps qs ↔ sortBy normalizedPropCompare ps = sortBy normalizedPropCompare qs := by
  rw [SameProps.perm_iff hp hq, sortBy_eq_iff normalizedPropCompare_total]

lemma map_name_propSet {v : PropValue} : (propSet ps name v).map (·.name) =
      if (propFind ps name).isSome then ps.map (·.name) else name :: ps.map (·.name) := by
  rw [propSet]
  split
  · rw [map_map]
    apply map_congr_left
    intro p _
    simp only [Function.comp_apply]
    split <;> rfl
  · rfl

lemma nodup_propSet (h : (ps.map (·.name)).Nodup) (name : Str)
    (v : PropValue) : ((propSet ps name v).map (·.name)).Nodup := by
  rw [map_name_propSet]
  split
  · exact h
  rename_i hnone
  rw [Option.not_isSome_iff_eq_none, propFind_eq_none_iff] at hnone
  exact nodup_cons.mpr ⟨hnone, h⟩

lemma propFind_map (ps : List VmProp) (name other : Str) (v : PropValue) :
    propFind (ps.map fun p => if p.name = name then { p with value := v } else p) other =
      if other = name then (propFind ps name).map fun _ => v else propFind ps other := by
  induction ps with
  | nil => simp [propFind]
  | cons p ps ih =>
    rw [map_cons]
    split
    · rename_i hp
      rw [propFind, propFind, propFind, ih, hp]
      by_cases hother : other = name
      · simp [hother]
      · simp [hother, Ne.symm hother]
    · rename_i hp
      rw [propFind, propFind, propFind, if_neg hp, ih]
      by_cases hother : other = name
      · simp [hother, hp]
      · simp [hother]

lemma propFind_propSet (ps : List VmProp) (name : Str) (v : PropValue) :
    propFind (propSet ps name v) = update (propFind ps) name (some v) := by
  funext other
  rw [propSet]
  split
  · rename_i hsome
    obtain ⟨old, hold⟩ := Option.isSome_iff_exists.mp hsome
    rw [propFind_map, hold, update_apply]
    rfl
  · rw [propFind, update_apply]
    by_cases hother : other = name
    · simp [hother]
    · simp [hother, Ne.symm hother]

def Call.vmWrite : Call → Option (Str × PropValue)
  | .setProp name v => if Builder.badProp name v then none else some (name, v)
  | .setCpu cores => if cores = 0 then none else some ("cpu.cores".toList, .u64 cores)
  | .setRam bytes => if bytes = 0 then none else some ("memory.size".toList, .u64 bytes)
  | _ => none

def lastWrites (cs : List Call) : Str → Option PropValue :=
  cs.foldl (fun w c => match c.vmWrite with
    | some (name, v) => update w name (some v)
    | none => w) fun _ => none

namespace Builder

/-- No list of properties has a name twice. -/
structure WellNamed (b : Builder) : Prop where
  props : (b.props.map (·.name)).Nodup
  created : ∀ d ∈ b.created, (d.props.map (·.name)).Nodup

lemma step_cases (b : Builder) (c : Call) :
    (∃ name v, c.vmWrite = some (name, v) ∧ b.step c = { b with props := propSet b.props name v }) ∨
    (c.vmWrite = none ∧ b.step c = b) ∨
    (c.vmWrite = none ∧ ∃ d, d.props = [] ∧ b.step c = { b with created := b.created ++ [d] }) ∨
    (c.vmWrite = none ∧ ∃ i d d', b.created[i]? = some d ∧
      (d'.props = d.props ∨ ∃ name v, d'.props = propSet d.props name v) ∧
      (b.step c).props = b.props ∧ (b.step c).created = b.created.set i d') := by
  have hcreate : ∀ device slot bus,
      ((b.createDevice device slot bus).toOption.getD b = b) ∨
      ∃ d : Device, d.props = [] ∧
        (b.createDevice device slot bus).toOption.getD b = { b with created := b.created ++ [d] } := by
    intro device slot bus
    rw [createDevice]
    split
    · exact .inl rfl
    · exact .inr ⟨_, rfl, rfl⟩
  cases c with
  | setProp name v | setCpu cores | setRam bytes =>
    simp only [Call.vmWrite, step, call, setProp]
    split
    · exact .inr (.inl ⟨rfl, rfl⟩)
    · exact .inl ⟨_, _, rfl, rfl⟩
  | createPciDevice device slot =>
    obtain hsame | ⟨d, hd, hstep⟩ := hcreate device slot .pci
    · exact .inr (.inl ⟨rfl, hsame⟩)
    · exact .inr (.inr (.inl ⟨rfl, d, hd, hstep⟩))
  | createUsbDevice device =>
    obtain hsame | ⟨d, hd, hstep⟩ := hcreate device SCORPI_PCI_SLOT_AUTO .usb
    · exact .inr (.inl ⟨rfl, hsame⟩)
    · exact .inr (.inr (.inl ⟨rfl, d, hd, hstep⟩))
  | createLpcDevice device =>
    obtain hsame | ⟨d, hd, hstep⟩ := hcreate device SCORPI_PCI_SLOT_AUTO .lpc
    · exact .inr (.inl ⟨rfl, hsame⟩)
    · exact .inr (.inr (.inl ⟨rfl, d, hd, hstep⟩))
  | setDeviceProp i name v =>
    simp only [step, call, setDeviceProp]
    split
    · exact .inr (.inl ⟨rfl, rfl⟩)
    rename_i d hd
    split
    · exact .inr (.inl ⟨rfl, rfl⟩)
    · exact .inr (.inr (.inr ⟨rfl, i, d, _, hd, .inr ⟨name, v, rfl⟩, rfl, rfl⟩))
  | addDevice i =>
    simp only [step, call, addDevice]
    split
    · exact .inr (.inl ⟨rfl, rfl⟩)
    rename_i d hd
    split
    · exact .inr (.inl ⟨rfl, rfl⟩)
    split
    · exact .inr (.inl ⟨rfl, rfl⟩)
    · exact .inr (.inr (.inr ⟨rfl, i, d, { d with attached := true }, hd, .inl rfl, rfl, rfl⟩))

variable {b : Builder}

lemma WellNamed.step (h : b.WellNamed) (c : Call) : (b.step c).WellNamed := by
  obtain ⟨name, v, -, hstep⟩ | ⟨-, hstep⟩ | ⟨-, d, hd, hstep⟩ |
    ⟨-, i, d, d', hget, hprops, hsame, hset⟩ := b.step_cases c
  · rw [hstep]
    exact ⟨nodup_propSet h.props name v, h.created⟩
  · rw [hstep]
    exact h
  · rw [hstep]
    refine ⟨h.props, ?_⟩
    intro e he
    rcases mem_append.mp he with he | he
    · exact h.created e he
    · rw [mem_singleton.mp he, hd]
      exact nodup_nil
  · refine ⟨hsame ▸ h.props, ?_⟩
    intro e he
    rw [hset] at he
    have hold := h.created d (mem_of_getElem? hget)
    rcases mem_or_eq_of_mem_set he with he | rfl
    · exact h.created e he
    rcases hprops with heq | ⟨name, v, heq⟩
    · rw [heq]
      exact hold
    · rw [heq]
      exact nodup_propSet hold name v

lemma WellNamed.foldl (h : b.WellNamed) (cs : List Call) : (cs.foldl Builder.step b).WellNamed := by
  induction cs generalizing b with
  | nil => exact h
  | cons c cs ih => exact ih (h.step c)

lemma wellNamed_run (cs : List Call) : (run cs).WellNamed :=
  have hempty : WellNamed {} := ⟨nodup_nil, fun d hd => by cases hd⟩
  hempty.foldl cs

lemma WellNamed.device (h : b.WellNamed) {d : Device} (hd : d ∈ b.vm.devices) :
    (d.props.map (·.name)).Nodup := by
  obtain ⟨i, -, hi⟩ := mem_filterMap.mp hd
  exact h.created d (mem_of_getElem? hi)

lemma propFind_run (cs : List Call) : propFind (run cs).props = lastWrites cs := by
  have hfold : ∀ (b : Builder) (w : Str → Option PropValue), propFind b.props = w →
      propFind (cs.foldl step b).props = cs.foldl (fun w c => match c.vmWrite with
        | some (name, v) => update w name (some v)
        | none => w) w := by
    induction cs with
    | nil => exact fun b w h => h
    | cons c cs ih =>
      intro b w h
      apply ih
      beta_reduce
      obtain ⟨name, v, hw, hstep⟩ | ⟨hw, hstep⟩ | ⟨hw, d, -, hstep⟩ |
        ⟨hw, i, d, d', -, -, hsame, -⟩ := b.step_cases c
      · rw [hstep, hw, propFind_propSet, h]
      · rw [hstep, hw, h]
      · rw [hstep, hw, h]
      · rw [hsame, hw, h]
  exact hfold {} _ rfl

end Builder

def Found : Nvlist → Nvlist → Prop
  | .nil, _ => True
  | .string n v rest, r => r.getString n = some v ∧ Found rest r
  | .nvlist n sub rest, r => r.getNvlist n = some sub ∧ Found rest r

variable {n : Str}

lemma Found.cons_string {l r : Nvlist} {v : Str} (h : Found l r) (hn : l.mem n = false) :
    Found l (.string n v r) := by
  induction l with
  | nil => trivial
  | string m w rest ih =>
    simp only [Nvlist.mem, Bool.or_eq_false_iff, decide_eq_false_iff_not] at hn
    refine ⟨?_, ih h.2 hn.2⟩
    rw [Nvlist.getString, if_neg (Ne.symm hn.1)]
    exact h.1
  | nvlist m sub rest _ ih =>
    simp only [Nvlist.mem, Bool.or_eq_false_iff] at hn
    exact ⟨h.1, ih h.2 hn.2⟩

lemma Found.cons_nvlist {l r sub : Nvlist} (h : Found l r) (hn : l.mem n = false) :
    Found l (.nvlist n sub r) := by
  induction l with
  | nil => trivial
  | string m w rest ih =>
    simp only [Nvlist.mem, Bool.or_eq_false_iff] at hn
    exact ⟨h.1, ih h.2 hn.2⟩
  | nvlist m sub' rest _ ih =>
    simp only [Nvlist.mem, Bool.or_eq_false_iff, decide_eq_false_iff_not] at hn
    refine ⟨?_, ih h.2 hn.2⟩
    rw [Nvlist.getNvlist, if_neg (Ne.symm hn.1)]
    exact h.1

lemma found_self {t : Nvlist} (h : t.Unique) : Found t t := by
  induction t with
  | nil => trivial
  | string n v rest ih => exact ⟨if_pos rfl, (ih h.2).cons_string h.1⟩
  | nvlist n sub rest _ ih => exact ⟨if_pos rfl, (ih h.2.2).cons_nvlist h.1⟩

lemma covers_of_found {depth : Nat} (hrefl : ∀ t : Nvlist, t.Unique → t.Intact →
    treeDepth t < depth → configEqualTo depth t t = some true) {l r : Nvlist} (hu : l.Unique)
    (hl : l.Intact) (hr : r.broken = false) (hd : treeDepth l < depth + 1)
    (h : Found l r) : covers (configEqualTo depth) false l r = some true := by
  induction l with
  | nil => rfl
  | string n v rest ih =>
    rw [covers, hl.1, hr, h.1]
    simp only [Bool.false_eq_true, if_false, if_true]
    exact ih hu.2 hl.2 hd h.2
  | nvlist n sub rest _ ih =>
    rw [treeDepth] at hd
    have hsub : configEqualTo depth sub sub = some true := hrefl sub hu.2.1 hl.2.1 (by omega)
    rw [covers, hl.1, hr, h.1]
    simp only [Bool.false_eq_true, if_false, hsub]
    exact ih hu.2.2 hl.2.2 (by omega) h.2

lemma configEqualTo_self (depth : Nat) : ∀ t : Nvlist, t.Unique → t.Intact →
    treeDepth t < depth → configEqualTo depth t t = some true := by
  induction depth with
  | zero => exact fun t _ _ h => absurd h (Nat.not_lt_zero _)
  | succ depth ih =>
    intro t hu hi hd
    have hbroken := hi.not_broken
    have hcovers := covers_of_found ih hu hi hbroken hd (found_self hu)
    rw [configEqualTo, hbroken, hcovers]

structure SameDevice (d e : Device) : Prop where
  bus : d.bus = e.bus
  device : d.device = e.device
  slot : d.slot = e.slot
  props : SameProps d.props e.props

def SameDevices (ds es : List Device) : Prop := ∃ l, List.Forall₂ SameDevice ds l ∧ l.Perm es

lemma SameProps.stringProp (h : SameProps ps qs) (name : Str) :
    stringProp ps name = stringProp qs name := by rw [Config.stringProp, h name, Config.stringProp]

lemma sameDevice_iff {d e : Device} (hd : (d.props.map (·.name)).Nodup)
    (he : (e.props.map (·.name)).Nodup) :
    normalizedDeviceCopy d = normalizedDeviceCopy e ↔ SameDevice d e := by
  rw [normalizedDeviceCopy, normalizedDeviceCopy, NormalizedDevice.mk.injEq, ← SameProps.sort_iff hd he]
  constructor
  · rintro ⟨hdevice, -, -, hslot, hbus, hprops⟩
    exact ⟨hbus, hdevice, hslot, hprops⟩
  · intro h
    exact ⟨h.device, h.props.stringProp _, h.props.stringProp _, h.slot, h.bus, h.props⟩

lemma sameDevices_iff {ds es : List Device} (hd : ∀ d ∈ ds, (d.props.map (·.name)).Nodup)
    (he : ∀ e ∈ es, (e.props.map (·.name)).Nodup) :
    (ds.map normalizedDeviceCopy).Perm (es.map normalizedDeviceCopy) ↔ SameDevices ds es := by
  have hmatch : ∀ {l : List Device}, l.Perm es →
      (List.Forall₂ (fun d e => normalizedDeviceCopy d = normalizedDeviceCopy e) ds l ↔
        List.Forall₂ SameDevice ds l) := by
    intro l hl
    apply forall₂_iff_of_mem
    intro d e hdmem hemem
    exact sameDevice_iff (hd d hdmem) (he e (hl.subset hemem))
  rw [map_perm_iff]
  exact exists_congr fun l => and_congr_left hmatch

/-- Two sequences of calls that end with the same properties and the same devices. -/
def SameVm (cs cs' : List Call) : Prop :=
  (∀ name, lastWrites cs name = lastWrites cs' name) ∧
    SameDevices (Builder.run cs).vm.devices (Builder.run cs').vm.devices

lemma vmNormalize_eq_iff (cs cs' : List Call) :
    vmNormalize (Builder.run cs).vm = vmNormalize (Builder.run cs').vm ↔ SameVm cs cs' := by
  have hcs := Builder.wellNamed_run cs
  have hcs' := Builder.wellNamed_run cs'
  have hprops : SameProps (Builder.run cs).props (Builder.run cs').props ↔
      ∀ name, lastWrites cs name = lastWrites cs' name := by
    rw [SameProps, Builder.propFind_run, Builder.propFind_run]
  rw [vmNormalize, vmNormalize, NormalizedVm.mk.injEq, sortBy_eq_iff normalizedDeviceCompare_total,
    sameDevices_iff (fun d => hcs.device) (fun d => hcs'.device)]
  rw [SameVm, ← hprops, SameProps.sort_iff hcs.props hcs'.props]
  rfl

def netThenDisk : List Call :=
  [.setCpu 1, .setCpu 2, .setRam 4096, .createPciDevice "net".toList 3,
    .createPciDevice "disk".toList 4, .addDevice 0, .addDevice 1]

def diskThenNet : List Call :=
  [.setRam 4096, .setCpu 2, .createPciDevice "disk".toList 4, .createPciDevice "net".toList 3,
    .addDevice 0, .addDevice 1]

def longName : Str := List.replicate 2048 'a'

def longNamed : List Call :=
  [.setProp "Z".toList (.string (some "1".toList)), .setProp longName (.string (some "x".toList))]

end ScorpiHv.Config

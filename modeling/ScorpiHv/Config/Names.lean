import ScorpiHv.Config.Writes

/-!
# Names that fit

libnv takes no name of `NV_NAME_MAX` characters. While every part of every path is shorter, no
list holds an error: no assertion of libnv fails, and the tree has every entry that was stored.
-/

namespace ScorpiHv.Config
open Canonical List

def Fits (path : Str) : Prop := ∀ name ∈ splitDots path, Nvlist.tooLong name = false

instance (path : Str) : Decidable (Fits path) := inferInstanceAs (Decidable (∀ name ∈ _, _))

variable {path base name value : Str}

lemma Fits.node (h : Fits path) : ∀ name ∈ (splitPath path).1, Nvlist.tooLong name = false := by
  intro name hname
  rw [splitPath] at hname
  dsimp only at hname
  split at hname
  · cases hname
  · exact h name (dropLast_subset _ hname)

lemma Fits.leaf (h : Fits path) : Nvlist.tooLong (splitPath path).2 = false := by
  rw [splitPath, List.getLast?_eq_getLast_of_ne_nil (splitDots_ne_nil path)]
  exact h _ (getLast_mem _)

lemma Fits.join (hbase : Fits base) (hname : Fits name) : Fits (joinPath base name) := by
  intro part hpart
  rw [splitDots_join] at hpart
  rcases mem_append.mp hpart with hpart | hpart
  · exact hbase part hpart
  · exact hname part hpart

lemma fits_decimal (v : UInt64) : Fits (decimal v) := by
  intro part hpart
  rw [splitDots_decimal, mem_singleton] at hpart
  have hlt := UInt64.toNat_lt v
  have hlength : (decimal v).length ≤ 20 := Nat.toDigits_length 10 _ 20 (by decide) (by omega)
  rw [hpart, Nvlist.tooLong, decide_eq_false_iff_not, Nvlist.NV_NAME_MAX]
  omega

lemma pciPath_eq (slot : UInt64) : pciPath slot =
    joinPath "pci".toList (joinPath "0".toList (joinPath (decimal slot) "0".toList)) :=
  append_assoc "pci.0.".toList (decimal slot) ".0".toList

lemma usbPath_eq (bus port : UInt64) :
    usbPath bus port = joinPath "usb".toList (joinPath (decimal bus) (decimal port)) :=
  append_assoc "usb.".toList (decimal bus) ('.' :: decimal port)

lemma fits_pciPath (slot : UInt64) : Fits (pciPath slot) := by
  rw [pciPath_eq]
  have hslot : Fits (joinPath (decimal slot) "0".toList) := (fits_decimal slot).join (by decide)
  exact Fits.join (by decide) (Fits.join (by decide) hslot)

lemma fits_usbPath (bus port : UInt64) : Fits (usbPath bus port) := by
  rw [usbPath_eq]
  exact Fits.join (by decide) ((fits_decimal bus).join (fits_decimal port))

variable {t : Nvlist}

lemma aborts_of_intact {create : Bool} {names : List Str} (ht : t.Intact)
    (hnames : ∀ name ∈ names, Nvlist.tooLong name = false) : aborts create t names = false := by
  induction names generalizing t with
  | nil => exact ht.not_broken
  | cons name names ih =>
    obtain ⟨hname, hrest⟩ := forall_mem_cons.mp hnames
    rw [aborts, ht.not_broken, Bool.false_or]
    split
    · rfl
    split
    · rename_i sub hget
      exact ih (ht.getNvlist hget) hrest
    · rw [hname, ih (t := .nil) trivial hrest, Bool.or_false, Bool.and_false]

/-- A result with the property, or an error that is returned. -/
def Sound {α : Type} (good : α → Prop) : Except ScorpiError α → Prop
  | .ok a => good a
  | .error e => e ≠ .aborted

abbrev Stored (r : Except ScorpiError Nvlist) : Prop := Sound (fun t => t.Intact) r

lemma Sound.bind {α β : Type} {p : α → Prop} {q : β → Prop} {r : Except ScorpiError α}
    {f : α → Except ScorpiError β} (h : Sound p r) (hf : ∀ a, p a → Sound q (f a)) :
    Sound q (r >>= f) := by
  cases r with
  | error => exact h
  | ok a => exact hf a h

lemma Sound.not_aborted {α : Type} {p : α → Prop} {r : Except ScorpiError α} (h : Sound p r) :
    r ≠ .error .aborted := by
  rintro rfl
  exact h rfl

lemma Sound.of_ok {α : Type} {p : α → Prop} {r : Except ScorpiError α} {a : α} (h : Sound p r)
    (hr : r = .ok a) : p a := by
  rw [hr] at h
  exact h

lemma propToString_sound (v : PropValue) : Sound (fun _ => True) (propToString v) := by
  cases v with
  | string s =>
    cases s with
    | none => rintro ⟨⟩
    | some => trivial
  | bool | u64 => trivial

section
variable (ht : t.Intact)
include ht

lemma configSetValue_stored (hpath : Fits path) : Stored (configSetValue t path value) := by
  rw [configSetValue, aborts_of_intact ht hpath.node, if_neg Bool.false_ne_true]
  split
  · rintro ⟨⟩
  split
  · rename_i hset
    exact ht.setAt hpath.node hpath.leaf hset
  · rintro ⟨⟩

lemma configGetValue_sound (hpath : Fits path) :
    Sound (fun _ => True) (configGetValue t path) := by
  rw [configGetValue, aborts_of_intact ht hpath.node, if_neg Bool.false_ne_true]
  split <;> trivial

end

lemma setValues_stored {ws : List Write} (ht : t.Intact) (hws : ∀ w ∈ ws, Fits w.1) :
    Stored (setValues t ws) := by
  induction ws generalizing t with
  | nil => exact ht
  | cons w ws ih =>
    obtain ⟨hw, hrest⟩ := forall_mem_cons.mp hws
    exact (configSetValue_stored ht hw).bind fun t' ht' => ih ht' hrest

variable {ps : List VmProp}

lemma vmPropsToConfig_stored (ht : t.Intact) (hps : ∀ p ∈ ps, Fits p.name) :
    Stored (vmPropsToConfig t ps) := by
  induction ps generalizing t with
  | nil => exact ht
  | cons p ps ih =>
    obtain ⟨hp, hrest⟩ := forall_mem_cons.mp hps
    have hprop : Stored (vmPropToConfig t p) := by
      refine (propToString_sound p.value).bind fun value _ => ?_
      split
      · refine setValues_stored ht ?_
        simp only [mem_cons, not_mem_nil, or_false, forall_eq_or_imp, forall_eq]
        decide
      · exact configSetValue_stored ht hp
    exact hprop.bind fun t' ht' => ih ht' hrest

lemma devicePropsToConfig_stored {skip : Bool} (ht : t.Intact) (hbase : Fits base)
    (hps : ∀ p ∈ ps, Fits p.name) : Stored (devicePropsToConfig t base skip ps) := by
  induction ps generalizing t with
  | nil => exact ht
  | cons p ps ih =>
    obtain ⟨hp, hrest⟩ := forall_mem_cons.mp hps
    rw [devicePropsToConfig]
    split
    · exact ih ht hrest
    refine (propToString_sound p.value).bind fun value _ => ?_
    exact (configSetValue_stored ht (hbase.join hp)).bind fun t' ht' => ih ht' hrest

lemma busToConfig_stored (ht : t.Intact) (hbase : Fits base) (bus : Option UInt64) :
    Stored (busToConfig t base bus) := by
  cases bus with
  | none => exact ht
  | some => exact configSetValue_stored ht (hbase.join (by decide))

variable {d : NormalizedDevice}

section
variable (ht : t.Intact) (hd : ∀ p ∈ d.props, Fits p.name)
include ht hd

lemma pciDeviceToConfig_stored (bindings : List UsbBusBinding) :
    Stored (pciDeviceToConfig t d bindings) := by
  have hbase := fits_pciPath d.slot
  have hport : Fits (joinPath (pciPath d.slot) "port.0".toList) := hbase.join (by decide)
  rw [pciDeviceToConfig]
  dsimp only
  split
  · refine (configSetValue_stored ht (hbase.join (by decide))).bind fun t₁ ht₁ => ?_
    refine (busToConfig_stored ht₁ hbase _).bind fun t₂ ht₂ => ?_
    refine (configSetValue_stored ht₂ (hport.join (by decide))).bind fun t₃ ht₃ => ?_
    exact devicePropsToConfig_stored ht₃ hport hd
  · refine (configSetValue_stored ht (hbase.join (by decide))).bind fun t₁ ht₁ => ?_
    refine (busToConfig_stored ht₁ hbase _).bind fun t₂ ht₂ => ?_
    exact devicePropsToConfig_stored ht₂ hbase hd

lemma usbDeviceToConfig_stored (bindings : List UsbBusBinding) :
    Sound (fun r => r.1.Intact) (usbDeviceToConfig t d bindings) := by
  rw [usbDeviceToConfig]
  split
  · rintro ⟨⟩
  split
  · rintro ⟨⟩
  rename_i b _
  have hbase := fits_usbPath b.bus (usbPort d b)
  refine (configGetValue_sound ht (hbase.join (by decide))).bind fun taken _ => ?_
  cases taken with
  | some => rintro ⟨⟩
  | none =>
    refine (configSetValue_stored ht (hbase.join (by decide))).bind fun t₁ ht₁ => ?_
    refine (devicePropsToConfig_stored ht₁ hbase hd).bind fun t₂ ht₂ => ?_
    exact ht₂

lemma lpcDeviceToConfig_stored : Stored (lpcDeviceToConfig t d) := by
  rw [lpcDeviceToConfig]
  split
  · split
    · exact configSetValue_stored ht (by decide)
    · rintro ⟨⟩
  split
  · rintro ⟨⟩
  refine (configSetValue_stored ht (by decide)).bind fun t₁ ht₁ => ?_
  exact devicePropsToConfig_stored ht₁ (by decide) hd

end

lemma devicesToConfig_stored {ds : List NormalizedDevice} {bindings : List UsbBusBinding}
    (ht : t.Intact) (hds : ∀ d ∈ ds, ∀ p ∈ d.props, Fits p.name) :
    Stored (devicesToConfig t bindings ds) := by
  induction ds generalizing t bindings with
  | nil => exact ht
  | cons d ds ih =>
    obtain ⟨hd, hrest⟩ := forall_mem_cons.mp hds
    rw [devicesToConfig]
    split
    · exact (pciDeviceToConfig_stored ht hd bindings).bind fun t' ht' => ih ht' hrest
    · exact (usbDeviceToConfig_stored ht hd bindings).bind fun r hr => ih hr hrest
    · exact (lpcDeviceToConfig_stored ht hd).bind fun t' ht' => ih ht' hrest

/-- Every part of every property name fits. -/
def Vm.NamesFit (vm : Vm) : Prop :=
  (∀ p ∈ vm.props, Fits p.name) ∧ ∀ d ∈ vm.devices, ∀ p ∈ d.props, Fits p.name

instance (vm : Vm) : Decidable vm.NamesFit := inferInstanceAs (Decidable (_ ∧ _))

/-- The exporter does not abort on such a machine and leaves no error in the tree. -/
lemma vmToConfig_stored {vm : Vm} (h : vm.NamesFit) : Stored (vmToConfig (vmNormalize vm)) := by
  refine (vmPropsToConfig_stored (t := .nil) trivial ?_).bind fun t ht => ?_
  · exact fun p hp => h.1 p ((sortBy_perm normalizedPropCompare _).subset hp)
  refine devicesToConfig_stored ht ?_
  intro d hd p hp
  obtain ⟨e, he, rfl⟩ := mem_map.mp ((sortBy_perm normalizedDeviceCompare _).subset hd)
  exact h.2 e he p ((sortBy_perm normalizedPropCompare _).subset hp)

end ScorpiHv.Config

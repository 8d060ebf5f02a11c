import ScorpiHv.Virtio.Getchain

/-!
# Device configuration

`vi_pci_write` for legacy devices and `vi_pci_write_modern` for virtio 1.0. A write
either changes the softc and calls back into the device, or reaches outside an array.
-/

namespace ScorpiHv.Virtio

inductive Fault where
  | queueIndex (i : Int)
  | regTable (i : Nat)
  deriving DecidableEq

/-- The part of `struct virtio_consts` that is data. -/
structure VirtioConsts where
  nvq : Nat
  cfgsize : Nat
  hvCaps : UInt64

structure VirtioSoftc where
  vc : VirtioConsts
  negotiatedCaps : UInt64 := 0
  queues : Nat → VqueueInfo
  curq : Int := 0
  status : UInt8 := 0
  isr : UInt8 := 0
  msixCfgIdx : UInt16 := VIRTIO_MSI_NO_VECTOR
  dfSelect : UInt16 := 0
  gfSelect : UInt16 := 0

inductive Callback where
  | none
  | reset
  | applyFeatures
  | notify (q : Nat)
  | cfgwrite (offset size : Nat) (value : UInt32)
  deriving DecidableEq

abbrev Written := Except Fault (VirtioSoftc × Callback)

/-- The value as a signed `int`. -/
def toInt (v : UInt64) : Int := (BitVec.ofNat 32 v.toNat).toInt

def setLo (val low : UInt64) : UInt64 := (val &&& (0xFFFFFFFF00000000 : UInt64)) ||| low

def setHi (val high : UInt64) : UInt64 := (val &&& (0xFFFFFFFF : UInt64)) ||| (high <<< (32 : UInt64))

def roundup2 (x y : Nat) : Nat := (x + (y - 1)) / y * y

def vringSize (num align : Nat) : Nat :=
  let size := num * 16
  let size := size + (4 + num * 2 + 2)
  let size := roundup2 size align
  size + (4 + num * 8 + 2)

def vringSizeAligned (qsz : Nat) : Nat := roundup2 (vringSize qsz VRING_ALIGN) VRING_ALIGN

namespace VirtioSoftc

def setQueue (vs : VirtioSoftc) (i : Nat) (vq : VqueueInfo) : VirtioSoftc :=
  { vs with queues := Function.update vs.queues i vq }

/-- `vs_queues[vs_curq]`, of which only the upper bound was checked. -/
def curQueue (vs : VirtioSoftc) : Except Fault Nat :=
  if 0 ≤ vs.curq then .ok vs.curq.toNat else .error (.queueIndex vs.curq)

end VirtioSoftc

/-- The queue's share of `vi_reset_dev`. -/
def VqueueInfo.reset (vq : VqueueInfo) : VqueueInfo :=
  { vq with
    flags := 0, lastAvail := 0, nextUsed := 0, saveUsed := 0, pfn := 0
    msixIdx := VIRTIO_MSI_NO_VECTOR
    qsize := if vq.maxqsize ≠ 0 then vq.maxqsize else vq.qsize
    desc := 0, avail := 0, used := 0, descGpa := 0, availGpa := 0, usedGpa := 0
    enabled := false }

def viResetDev (vs : VirtioSoftc) : VirtioSoftc :=
  { vs with
    queues := fun i => if i < vs.vc.nvq then (vs.queues i).reset else vs.queues i
    negotiatedCaps := 0, curq := 0, isr := 0, msixCfgIdx := VIRTIO_MSI_NO_VECTOR }

/-- `vi_vq_init` for one queue. With a NULL mapping the ring pointers behind the
descriptors still become small nonzero addresses. -/
def viVqInit (ram : Ram) (vq : VqueueInfo) (pfn : UInt32) : VqueueInfo :=
  let phys := pfn.toNat <<< 12
  let base := paddrGuest2host ram phys (vringSizeAligned vq.qsize)
  let avail := base + vq.qsize * 16
  let used := roundup2 (avail + (2 + vq.qsize + 1) * 2) VRING_ALIGN
  { vq with
    pfn, desc := base, avail, used
    flags := VQ_ALLOC, lastAvail := 0, nextUsed := 0, saveUsed := 0 }

/-- `vi_vq_init_modern` for one queue; the flag is its success. -/
def viVqInitModern (ram : Ram) (vq : VqueueInfo) : VqueueInfo × Bool :=
  let failed := { vq with flags := 0, desc := 0, avail := 0, used := 0 }
  let desc := paddrGuest2host ram vq.descGpa.toNat (16 * vq.qsize)
  if desc = 0 then (failed, false)
  else
    let avail := paddrGuest2host ram vq.availGpa.toNat (4 + 2 * (vq.qsize + 1))
    if avail = 0 then (failed, false)
    else
      let used := paddrGuest2host ram vq.usedGpa.toNat (4 + 8 * vq.qsize + 2)
      if used = 0 then (failed, false)
      else
        ({ vq with
            desc, avail, used
            flags := VQ_ALLOC, lastAvail := 0, nextUsed := 0, saveUsed := 0 }, true)

def VIRTIO_PCI_COMMON_DFSELECT : Nat := 0
def VIRTIO_PCI_COMMON_GFSELECT : Nat := 8
def VIRTIO_PCI_COMMON_GF : Nat := 12
def VIRTIO_PCI_COMMON_MSIX : Nat := 16
def VIRTIO_PCI_COMMON_STATUS : Nat := 20
def VIRTIO_PCI_COMMON_Q_SELECT : Nat := 22
def VIRTIO_PCI_COMMON_Q_SIZE : Nat := 24
def VIRTIO_PCI_COMMON_Q_MSIX : Nat := 26
def VIRTIO_PCI_COMMON_Q_ENABLE : Nat := 28
def VIRTIO_PCI_COMMON_Q_DESCLO : Nat := 32
def VIRTIO_PCI_COMMON_Q_DESCHI : Nat := 36
def VIRTIO_PCI_COMMON_Q_AVAILLO : Nat := 40
def VIRTIO_PCI_COMMON_Q_AVAILHI : Nat := 44
def VIRTIO_PCI_COMMON_Q_USEDLO : Nat := 48
def VIRTIO_PCI_COMMON_Q_USEDHI : Nat := 52

def powerof2 (x : UInt64) : Bool := (x - 1) &&& x == 0

def VirtioSoftc.onCurQueue (vs : VirtioSoftc) (f : VqueueInfo → VqueueInfo) : Written :=
  if (vs.vc.nvq : Int) ≤ vs.curq then .ok (vs, .none)
  else do
    let i ← vs.curQueue
    .ok (vs.setQueue i (f (vs.queues i)), .none)

/-- The `VIRTIO_PCI_COMMON_Q_SIZE` write. -/
def VqueueInfo.writeSize (value : UInt64) (vq : VqueueInfo) : VqueueInfo :=
  if vq.enabled then vq
  else if value = 0 ∨ powerof2 value = false ∨ vq.maxqsize < value.toNat then vq
  else { vq with qsize := value.toNat }

/-- The `VIRTIO_PCI_COMMON_Q_ENABLE` write. -/
def VqueueInfo.writeEnable (ram : Ram) (vq : VqueueInfo) : VqueueInfo :=
  let (vq, ok) := viVqInitModern ram vq
  { vq with enabled := ok }

def viPciWriteCommonCfgModern (ram : Ram) (vs : VirtioSoftc) (offset : Nat) (value : UInt64) :
    Written :=
  if offset = VIRTIO_PCI_COMMON_DFSELECT then
    .ok ({ vs with dfSelect := (value &&& 0xff).toUInt16 }, .none)
  else if offset = VIRTIO_PCI_COMMON_GFSELECT then
    .ok ({ vs with gfSelect := (value &&& 0xff).toUInt16 }, .none)
  else if offset = VIRTIO_PCI_COMMON_GF then
    let caps := if vs.gfSelect = 0 then setLo vs.negotiatedCaps value
      else if vs.gfSelect = 1 then setHi vs.negotiatedCaps value
      else vs.negotiatedCaps
    .ok ({ vs with negotiatedCaps := caps &&& vs.vc.hvCaps }, .applyFeatures)
  else if offset = VIRTIO_PCI_COMMON_MSIX then
    .ok ({ vs with msixCfgIdx := value.toUInt16 }, .none)
  else if offset = VIRTIO_PCI_COMMON_STATUS then
    let vs := { vs with status := value.toUInt8 }
    if value = 0 then .ok (viResetDev vs, .reset) else .ok (vs, .none)
  else if offset = VIRTIO_PCI_COMMON_Q_SELECT then
    .ok ({ vs with curq := toInt value }, .none)
  else if offset = VIRTIO_PCI_COMMON_Q_SIZE then vs.onCurQueue (·.writeSize value)
  else if offset = VIRTIO_PCI_COMMON_Q_MSIX then
    vs.onCurQueue ({ · with msixIdx := value.toUInt16 })
  else if offset = VIRTIO_PCI_COMMON_Q_ENABLE then
    if value = 0 then .ok (vs, .none) else vs.onCurQueue (·.writeEnable ram)
  else if offset = VIRTIO_PCI_COMMON_Q_DESCLO then
    vs.onCurQueue fun vq => { vq with descGpa := setLo vq.descGpa value }
  else if offset = VIRTIO_PCI_COMMON_Q_DESCHI then
    vs.onCurQueue fun vq => { vq with descGpa := setHi vq.descGpa value }
  else if offset = VIRTIO_PCI_COMMON_Q_AVAILLO then
    vs.onCurQueue fun vq => { vq with availGpa := setLo vq.availGpa value }
  else if offset = VIRTIO_PCI_COMMON_Q_AVAILHI then
    vs.onCurQueue fun vq => { vq with availGpa := setHi vq.availGpa value }
  else if offset = VIRTIO_PCI_COMMON_Q_USEDLO then
    vs.onCurQueue fun vq => { vq with usedGpa := setLo vq.usedGpa value }
  else if offset = VIRTIO_PCI_COMMON_Q_USEDHI then
    vs.onCurQueue fun vq => { vq with usedGpa := setHi vq.usedGpa value }
  else .ok (vs, .none)

inductive CommonWrite (ram : Ram) (vs : VirtioSoftc) (offset : Nat) (value : UInt64) :
    Written → Prop where
  | plain {vs' : VirtioSoftc} : (offset = VIRTIO_PCI_COMMON_Q_ENABLE → value = 0) → 
      vs'.curq = vs.curq → vs'.vc = vs.vc → vs'.negotiatedCaps = vs.negotiatedCaps →
      vs'.queues = vs.queues →
      CommonWrite ram vs offset value (.ok (vs', .none))
  | features (caps : UInt64) : offset = VIRTIO_PCI_COMMON_GF → CommonWrite ram vs offset value
      (.ok ({ vs with negotiatedCaps := caps &&& vs.vc.hvCaps }, .applyFeatures))
  | reset : offset = VIRTIO_PCI_COMMON_STATUS → value = 0 →
      CommonWrite ram vs offset value (.ok (viResetDev { vs with status := 0 }, .reset))
  | select : offset = VIRTIO_PCI_COMMON_Q_SELECT →
      CommonWrite ram vs offset value (.ok ({ vs with curq := toInt value }, .none))
  | size : offset = VIRTIO_PCI_COMMON_Q_SIZE →
      CommonWrite ram vs offset value (vs.onCurQueue (·.writeSize value))
  | enable : offset = VIRTIO_PCI_COMMON_Q_ENABLE → value ≠ 0 →
      CommonWrite ram vs offset value (vs.onCurQueue (·.writeEnable ram))
  | msix : offset = VIRTIO_PCI_COMMON_Q_MSIX →
      CommonWrite ram vs offset value (vs.onCurQueue ({ · with msixIdx := value.toUInt16 }))
  | gpa {f : VqueueInfo → VqueueInfo} : VIRTIO_PCI_COMMON_Q_DESCLO ≤ offset →
      offset ≤ VIRTIO_PCI_COMMON_Q_USEDHI →
      (∀ vq, ∃ descGpa availGpa usedGpa, f vq = { vq with descGpa, availGpa, usedGpa }) →
      CommonWrite ram vs offset value (vs.onCurQueue f)

lemma commonWrite (ram : Ram) (vs : VirtioSoftc) (offset : Nat) (value : UInt64) :
    CommonWrite ram vs offset value (viPciWriteCommonCfgModern ram vs offset value) := by
  rw [viPciWriteCommonCfgModern]
  by_cases ho : offset = VIRTIO_PCI_COMMON_DFSELECT
  · rw [if_pos ho]
    exact .plain (fun h => absurd (ho.symm.trans h) (by decide)) rfl rfl rfl rfl
  rw [if_neg ho]
  by_cases ho : offset = VIRTIO_PCI_COMMON_GFSELECT
  · rw [if_pos ho]
    exact .plain (fun h => absurd (ho.symm.trans h) (by decide)) rfl rfl rfl rfl
  rw [if_neg ho]
  by_cases ho : offset = VIRTIO_PCI_COMMON_GF
  · rw [if_pos ho]
    exact .features _ ho
  rw [if_neg ho]
  by_cases ho : offset = VIRTIO_PCI_COMMON_MSIX
  · rw [if_pos ho]
    exact .plain (fun h => absurd (ho.symm.trans h) (by decide)) rfl rfl rfl rfl
  rw [if_neg ho]
  by_cases ho : offset = VIRTIO_PCI_COMMON_STATUS
  · rw [if_pos ho]
    by_cases hv : value = 0
    · subst hv
      exact .reset ho rfl
    · rw [if_neg hv]
      exact .plain (fun h => absurd (ho.symm.trans h) (by decide)) rfl rfl rfl rfl
  rw [if_neg ho]
  split
  next ho => exact .select ho
  split
  next ho => exact .size ho
  split
  next ho => exact .msix ho
  split
  next ho =>
    split_ifs with hv
    · exact .plain (fun _ => hv) rfl rfl rfl rfl
    · exact .enable ho hv
  rename_i hen
  -- the six halves of the ring addresses
  iterate 6
    split
    next ho =>
      subst ho
      exact .gpa (by decide) (by decide) fun _ => ⟨_, _, _, rfl⟩
  exact .plain (fun h => absurd h hen) rfl rfl rfl rfl

/-- `vi_pci_write_modern`, beside the MSI-X table. -/
def viPciWriteModern (ram : Ram) (vs : VirtioSoftc) (offset : UInt64) (size : Nat)
    (value : UInt64) : Written :=
  match offset.toNat / 64 with
  | 0 => viPciWriteCommonCfgModern ram vs (offset.toNat % 64) value
  | 1 =>
    if vs.vc.nvq ≤ value.toNat then .ok (vs, .none)
    else if !(vs.queues value.toNat).ringReady then .ok (vs, .none)
    else .ok (vs, .notify value.toNat)
  | 4 => .ok (vs, .cfgwrite (offset.toNat - 4 * 64) size value.toUInt32)
  | _ => .ok (vs, .none)

structure ConfigReg where
  offset : Nat
  size : Nat
  ro : Bool
  deriving DecidableEq

def VIRTIO_PCI_GUEST_FEATURES : Nat := 4
def VIRTIO_PCI_QUEUE_PFN : Nat := 8
def VIRTIO_PCI_QUEUE_SEL : Nat := 14
def VIRTIO_PCI_QUEUE_NOTIFY : Nat := 16
def VIRTIO_PCI_STATUS : Nat := 18
def VIRTIO_PCI_ISR : Nat := 19
def VIRTIO_MSI_CONFIG_VECTOR : Nat := 20
def VIRTIO_MSI_QUEUE_VECTOR : Nat := 22

def configRegs : List ConfigReg :=
  [⟨0, 4, true⟩, ⟨VIRTIO_PCI_GUEST_FEATURES, 4, false⟩, ⟨VIRTIO_PCI_QUEUE_PFN, 4, false⟩,
   ⟨12, 2, true⟩, ⟨VIRTIO_PCI_QUEUE_SEL, 2, false⟩, ⟨VIRTIO_PCI_QUEUE_NOTIFY, 2, false⟩,
   ⟨VIRTIO_PCI_STATUS, 1, false⟩, ⟨VIRTIO_PCI_ISR, 1, false⟩,
   ⟨VIRTIO_MSI_CONFIG_VECTOR, 2, false⟩, ⟨VIRTIO_MSI_QUEUE_VECTOR, 2, false⟩]

/-- The binary search of `vi_find_cr`. Its bounds are unsigned, so a search that runs
off the front goes on from the middle of the unsigned range. -/
def viFindCrLoop (offset : Int) (lo hi : Nat) : Except Fault (Option ConfigReg) :=
  if hi < lo then .ok none
  else
    let mid := (hi + lo) / 2
    match configRegs[mid]? with
    | none => .error (.regTable mid)
    | some cr =>
      if cr.offset = offset then .ok (some cr)
      else if cr.offset < offset then viFindCrLoop offset (mid + 1) hi
      else if mid = 0 then .error (.regTable (UInt32.size / 2 - 1))
      else viFindCrLoop offset lo (mid - 1)
termination_by hi + 1 - lo

def viFindCr (offset : UInt64) : Except Fault (Option ConfigReg) :=
  viFindCrLoop (toInt offset) 0 (configRegs.length - 1)

/-- The `switch` of `vi_pci_write`. -/
def viPciWriteReg (ram : Ram) (vs : VirtioSoftc) (offset : Nat) (value : UInt64) : Written :=
  if offset = VIRTIO_PCI_GUEST_FEATURES then
    .ok ({ vs with negotiatedCaps := value &&& vs.vc.hvCaps }, .applyFeatures)
  else if offset = VIRTIO_PCI_QUEUE_PFN then
    vs.onCurQueue fun vq => viVqInit ram vq value.toUInt32
  else if offset = VIRTIO_PCI_QUEUE_SEL then .ok ({ vs with curq := toInt value }, .none)
  else if offset = VIRTIO_PCI_QUEUE_NOTIFY then
    if vs.vc.nvq ≤ value.toNat then .ok (vs, .none) else .ok (vs, .notify value.toNat)
  else if offset = VIRTIO_PCI_STATUS then
    let vs := { vs with status := value.toUInt8 }
    if value = 0 then .ok (viResetDev vs, .reset) else .ok (vs, .none)
  else if offset = VIRTIO_MSI_CONFIG_VECTOR then
    .ok ({ vs with msixCfgIdx := value.toUInt16 }, .none)
  else if offset = VIRTIO_MSI_QUEUE_VECTOR then
    vs.onCurQueue ({ · with msixIdx := value.toUInt16 })
  else .ok (vs, .none)

/-- What that `switch` can do. -/
inductive RegWrite (ram : Ram) (vs : VirtioSoftc) (offset : Nat) (value : UInt64) :
    Written → Prop where
  | plain {vs' : VirtioSoftc} {cb : Callback} : vs'.curq = vs.curq → vs'.vc = vs.vc →
      vs'.negotiatedCaps = vs.negotiatedCaps → vs'.queues = vs.queues →
      RegWrite ram vs offset value (.ok (vs', cb))
  | features : RegWrite ram vs offset value
      (.ok ({ vs with negotiatedCaps := value &&& vs.vc.hvCaps }, .applyFeatures))
  | reset : value = 0 →
      RegWrite ram vs offset value (.ok (viResetDev { vs with status := 0 }, .reset))
  | select : offset = VIRTIO_PCI_QUEUE_SEL →
      RegWrite ram vs offset value (.ok ({ vs with curq := toInt value }, .none))
  | pfn : RegWrite ram vs offset value (vs.onCurQueue fun vq => viVqInit ram vq value.toUInt32)
  | msix : RegWrite ram vs offset value (vs.onCurQueue ({ · with msixIdx := value.toUInt16 }))

lemma regWrite (ram : Ram) (vs : VirtioSoftc) (offset : Nat) (value : UInt64) :
    RegWrite ram vs offset value (viPciWriteReg ram vs offset value) := by
  unfold viPciWriteReg
  split
  · exact .features
  split
  · exact .pfn
  split
  next ho => exact .select ho
  split
  · split <;> exact .plain rfl rfl rfl rfl
  split
  · split
    next hv =>
      subst hv
      exact .reset rfl
    next => exact .plain rfl rfl rfl rfl
  split
  · exact .plain rfl rfl rfl rfl
  split
  · exact .msix
  · exact .plain rfl rfl rfl rfl

/-- The code behind the label `bad`. -/
def viPciWriteBad (ram : Ram) (vs : VirtioSoftc) (offset : UInt64) (size : Nat)
    (value : UInt64) : Written := do
  match ← viFindCr offset with
  | none => .ok (vs, .none)
  | some cr =>
    if cr.size ≠ size ∨ cr.ro then .ok (vs, .none)
    else viPciWriteReg ram vs offset.toNat value

lemma viFindCrLoop_fault {offset : Int} {lo hi : Nat} {e : Fault}
    (h : viFindCrLoop offset lo hi = .error e) : ∃ i, e = .regTable i := by
  fun_induction viFindCrLoop offset lo hi with
  | case1 | case3 => cases h
  | case2 | case5 =>
    cases h
    exact ⟨_, rfl⟩
  | case4 _ _ _ _ _ _ _ _ ih => exact ih h
  | case6 _ _ _ _ _ _ _ _ _ ih => exact ih h

lemma viPciWriteBad_cases (ram : Ram) (vs : VirtioSoftc) (offset : UInt64) (size : Nat)
    (value : UInt64) : viPciWriteBad ram vs offset size value = .ok (vs, .none) ∨
    (∃ i, viPciWriteBad ram vs offset size value = .error (.regTable i)) ∨
    viPciWriteBad ram vs offset size value = viPciWriteReg ram vs offset.toNat value := by
  unfold viPciWriteBad
  cases hcr : viFindCr offset with
  | error =>
    obtain ⟨i, rfl⟩ := viFindCrLoop_fault hcr
    exact Or.inr (Or.inl ⟨i, rfl⟩)
  | ok cr =>
    cases cr with
    | none => exact Or.inl rfl
    | some =>
      dsimp only [Bind.bind, Except.bind]
      split
      · exact Or.inl rfl
      · exact Or.inr (Or.inr rfl)

/-- `vi_pci_write` on BAR 0; `cfgFails` tells which device register writes the device's
`vc_cfgwrite` refuses. -/
def viPciWrite (ram : Ram) (cfgFails : Nat → Nat → UInt32 → Bool) (msixEnabled : Bool)
    (vs : VirtioSoftc) (offset : UInt64) (size : Nat) (value : UInt64) : Written :=
  let configSize := if msixEnabled then 24 else 20
  if (size = 1 ∨ size = 2 ∨ size = 4) ∧ configSize ≤ offset.toNat then
    let newoff := (offset.toNat - configSize) % 2 ^ 32
    let max := if vs.vc.cfgsize ≠ 0 then vs.vc.cfgsize else 0x100000000
    if max < (newoff + size) % 2 ^ 32 then viPciWriteBad ram vs offset size value
    else if cfgFails newoff size value.toUInt32 then viPciWriteBad ram vs offset size value
    else .ok (vs, .cfgwrite newoff size value.toUInt32)
  else viPciWriteBad ram vs offset size value

lemma viPciWrite_cases (ram : Ram) (cfgFails : Nat → Nat → UInt32 → Bool) (msixEnabled : Bool)
    (vs : VirtioSoftc) (offset : UInt64) (size : Nat) (value : UInt64) :
    viPciWrite ram cfgFails msixEnabled vs offset size value = viPciWriteBad ram vs offset size value ∨
    ∃ cb, viPciWrite ram cfgFails msixEnabled vs offset size value = .ok (vs, cb) := by
  unfold viPciWrite
  generalize (if msixEnabled then 24 else 20) = configSize
  generalize (if vs.vc.cfgsize ≠ 0 then vs.vc.cfgsize else 0x100000000) = max
  dsimp only
  split
  · split
    · exact Or.inl rfl
    split
    · exact Or.inl rfl
    · exact Or.inr ⟨_, rfl⟩
  · exact Or.inl rfl

end ScorpiHv.Virtio

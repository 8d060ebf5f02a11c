import ScorpiHv.Lib.Trace
import ScorpiHv.Virtio.Config

/-!
# A ready queue has mapped rings

A queue that reports ready is a power-of-two ring inside guest RAM, in whatever order
its registers were written.
-/

namespace ScorpiHv.Virtio
open Function

/-- The host range `[p, p + len)` lies in what guest RAM holds of `[gpa, gpa + size)`. -/
structure Inside (ram : Ram) (gpa size p len : Nat) : Prop where
  mapped : paddrGuest2host ram gpa size ≠ 0
  lower : paddrGuest2host ram gpa size ≤ p
  upper : p + len ≤ paddrGuest2host ram gpa size + size

variable {size : Nat}

lemma Inside.whole {ram : Ram} {gpa : Nat} (h : paddrGuest2host ram gpa size ≠ 0) :
    Inside ram gpa size (paddrGuest2host ram gpa size) size :=
  ⟨h, Nat.le_refl _, Nat.le_refl _⟩

inductive Kind where
  | legacy
  | modern
  deriving DecidableEq

structure RingGpas where
  desc : UInt64 := 0
  avail : UInt64 := 0
  used : UInt64 := 0

def VqueueInfo.gpas (vq : VqueueInfo) : RingGpas := ⟨vq.descGpa, vq.availGpa, vq.usedGpa⟩

structure RingsInside (ram : Ram) (vq : VqueueInfo) (desc descSize avail availSize used
    usedSize : Nat) : Prop where
  desc : Inside ram desc descSize vq.desc (16 * vq.qsize)
  avail : Inside ram avail availSize vq.avail (4 + 2 * vq.qsize + 2)
  used : Inside ram used usedSize vq.used (4 + 8 * vq.qsize + 2)

def Rings (ram : Ram) (vq : VqueueInfo) (gpas : RingGpas) : Kind → Prop
  | .legacy =>
    RingsInside ram vq (vq.pfn.toNat <<< 12) (vringSizeAligned vq.qsize) (vq.pfn.toNat <<< 12)
      (vringSizeAligned vq.qsize) (vq.pfn.toNat <<< 12) (vringSizeAligned vq.qsize)
  | .modern =>
    RingsInside ram vq gpas.desc.toNat (16 * vq.qsize) gpas.avail.toNat (4 + 2 * vq.qsize + 2)
      gpas.used.toNat (4 + 8 * vq.qsize + 2)

def IsPow2 (n : Nat) : Prop := ∃ k, n = 2 ^ k

structure QueueInv (ram : Ram) (kind : Kind) (gpas : RingGpas) (vq : VqueueInfo) : Prop where
  size_pow : IsPow2 vq.qsize
  max_pow : IsPow2 vq.maxqsize
  size_le : vq.qsize ≤ vq.maxqsize
  rings : vq.ringReady = true → Rings ram vq gpas kind
  enabled : kind = .modern → vq.ringReady = true → vq.enabled = true

section

variable {ram : Ram} {kind : Kind} {gpas : RingGpas} {vq : VqueueInfo}

lemma ringReady_iff : vq.ringReady = true ↔
    vq.flags &&& VQ_ALLOC ≠ 0 ∧ vq.desc ≠ 0 ∧ vq.avail ≠ 0 ∧ vq.used ≠ 0 := by
  simp [VqueueInfo.ringReady, and_assoc]

lemma not_ready_of_desc (h : vq.desc = 0) : vq.ringReady = false := by
  simp [VqueueInfo.ringReady, h]

lemma QueueInv.of_not_ready (hsize : IsPow2 vq.qsize) (hmax : IsPow2 vq.maxqsize)
    (hle : vq.qsize ≤ vq.maxqsize) (h : vq.ringReady = false) : QueueInv ram kind gpas vq where
  size_pow := hsize
  max_pow := hmax
  size_le := hle
  rings hr := by rw [h] at hr; cases hr
  enabled _ hr := by rw [h] at hr; cases hr

lemma QueueInv.reset (h : QueueInv ram kind gpas vq) : QueueInv ram kind gpas vq.reset := by
  have hq : vq.reset.qsize = vq.maxqsize := by
    have hne : vq.maxqsize ≠ 0 := by
      obtain ⟨k, hk⟩ := h.max_pow
      rw [hk]
      exact (Nat.two_pow_pos k).ne'
    exact if_pos hne
  exact .of_not_ready (hq ▸ h.max_pow) h.max_pow (by rw [hq]; exact Nat.le_refl _) (not_ready_of_desc rfl)

lemma powerof2_iff {x : UInt64} (hx : x ≠ 0) (h : powerof2 x = true) : IsPow2 x.toNat := by
  have hpos : 0 < x.toNat := Nat.pos_of_ne_zero fun h0 => hx (UInt64.toNat_inj.mp h0)
  have hand : (x.toNat - 1) &&& x.toNat = 0 := by
    have hz : (x - 1) &&& x = 0 := by simpa [powerof2] using h
    have := congrArg UInt64.toNat hz
    rw [UInt64.toNat_and, UInt64.toNat_sub_of_le] at this
    · simpa using this
    · exact UInt64.le_iff_toNat_le.mpr hpos
  obtain ⟨k, hk⟩ := (Nat.and_sub_one_eq_zero_iff_isPowerOfTwo (n := x.toNat) (by omega)).mp
    (by rwa [Nat.and_comm] at hand)
  exact ⟨k, hk⟩

lemma QueueInv.writeSize (h : QueueInv ram .modern gpas vq) (value : UInt64) :
    QueueInv ram .modern gpas (vq.writeSize value) := by
  unfold VqueueInfo.writeSize
  split
  · exact h
  next hen =>
    split
    · exact h
    next hbad =>
      rw [not_or, not_or, Nat.not_lt] at hbad
      obtain ⟨hne, hpow, hle⟩ := hbad
      refine .of_not_ready (powerof2_iff hne (by simpa using hpow)) h.max_pow hle ?_
      by_contra hr
      exact hen (h.enabled rfl ((Bool.not_eq_false _).mp hr))

lemma viVqInitModern_cases (ram : Ram) (vq : VqueueInfo) :
    ((viVqInitModern ram vq).2 = false ∧ (viVqInitModern ram vq).1.ringReady = false ∧
      (viVqInitModern ram vq).1.qsize = vq.qsize ∧
      (viVqInitModern ram vq).1.maxqsize = vq.maxqsize) ∨
    ((viVqInitModern ram vq).2 = true ∧ (viVqInitModern ram vq).1.qsize = vq.qsize ∧
      (viVqInitModern ram vq).1.maxqsize = vq.maxqsize ∧
      Rings ram (viVqInitModern ram vq).1 vq.gpas .modern) := by
  unfold viVqInitModern
  dsimp only
  split
  · exact Or.inl ⟨rfl, not_ready_of_desc rfl, rfl, rfl⟩
  next hd =>
    split
    · exact Or.inl ⟨rfl, not_ready_of_desc rfl, rfl, rfl⟩
    next ha =>
      split
      · exact Or.inl ⟨rfl, not_ready_of_desc rfl, rfl, rfl⟩
      next hu => exact Or.inr ⟨rfl, rfl, rfl, .whole hd, .whole ha, .whole hu⟩

lemma QueueInv.writeEnable (h : QueueInv ram .modern gpas vq) :
    QueueInv ram .modern vq.gpas (vq.writeEnable ram) := by
  rcases viVqInitModern_cases ram vq with ⟨-, hr, hq, hm⟩ | ⟨hok, hq, hm, hrings⟩
  · refine .of_not_ready ?_ ?_ ?_ hr
    · exact (congrArg IsPow2 hq).mpr h.size_pow
    · exact (congrArg IsPow2 hm).mpr h.max_pow
    · exact hq.trans_le (h.size_le.trans hm.ge)
  · exact
      { size_pow := (congrArg IsPow2 hq).mpr h.size_pow
        max_pow := (congrArg IsPow2 hm).mpr h.max_pow
        size_le := hq.trans_le (h.size_le.trans hm.ge)
        rings := fun _ => ⟨hrings.desc, hrings.avail, hrings.used⟩
        enabled := fun _ _ => hok }

variable {x y : Nat}

lemma roundup2_add {a : Nat} (hy : 0 < y) (h : y ∣ a) : roundup2 (a + x) y = a + roundup2 x y := by
  obtain ⟨c, rfl⟩ := h
  unfold roundup2
  rw [Nat.add_assoc, Nat.mul_add_div hy, Nat.add_mul, Nat.mul_comm c]

lemma le_roundup2 (hy : 0 < y) : x ≤ roundup2 x y := by
  unfold roundup2
  have hdiv := Nat.div_add_mod (x + (y - 1)) y
  have hmod := Nat.mod_lt (x + (y - 1)) hy
  rw [Nat.mul_comm] at hdiv
  omega

/-- The legacy layout: the used ring is rounded up on the host address, which agrees with
the guest's layout because the mapping keeps page offsets. -/
lemma QueueInv.viVqInit (h : QueueInv ram .legacy gpas vq) (pfn : UInt32) :
    QueueInv ram .legacy gpas (viVqInit ram vq pfn) where
  size_pow := h.size_pow
  max_pow := h.max_pow
  size_le := h.size_le
  enabled hk := by cases hk
  rings hr := by
    have hpos : 0 < VRING_ALIGN := by decide
    obtain ⟨-, hbase, -, -⟩ := ringReady_iff.mp hr
    have halign : VRING_ALIGN ∣ paddrGuest2host ram (pfn.toNat <<< 12)
        (vringSizeAligned vq.qsize) := by
      apply paddrGuest2host_aligned
      rw [Nat.shiftLeft_eq]
      exact Nat.dvd_mul_left _ _
    have hused : roundup2 (paddrGuest2host ram (pfn.toNat <<< 12) (vringSizeAligned vq.qsize) +
        vq.qsize * 16 + (2 + vq.qsize + 1) * 2) VRING_ALIGN =
        paddrGuest2host ram (pfn.toNat <<< 12) (vringSizeAligned vq.qsize) +
          roundup2 (vq.qsize * 16 + (4 + vq.qsize * 2 + 2)) VRING_ALIGN := by
      rw [Nat.add_assoc, roundup2_add hpos halign]
      congr 2
      omega
    have hsize : roundup2 (vq.qsize * 16 + (4 + vq.qsize * 2 + 2)) VRING_ALIGN +
        (4 + vq.qsize * 8 + 2) ≤ vringSizeAligned vq.qsize := le_roundup2 hpos
    have hround := le_roundup2 (x := vq.qsize * 16 + (4 + vq.qsize * 2 + 2)) hpos
    exact
      { desc := ⟨hbase, Nat.le_refl _, by dsimp only [Virtio.viVqInit]; omega⟩
        avail := ⟨hbase, by dsimp only [Virtio.viVqInit]; omega, by dsimp only [Virtio.viVqInit]; omega⟩
        used := ⟨hbase, by dsimp only [Virtio.viVqInit]; rw [hused]; omega,
          by dsimp only [Virtio.viVqInit]; rw [hused]; omega⟩ }

lemma QueueInv.congr {vq' : VqueueInfo} (h : QueueInv ram kind gpas vq)
    (hq : vq'.qsize = vq.qsize) (hm : vq'.maxqsize = vq.maxqsize) (hf : vq'.flags = vq.flags)
    (hp : vq'.pfn = vq.pfn) (hd : vq'.desc = vq.desc) (ha : vq'.avail = vq.avail)
    (hu : vq'.used = vq.used) (he : vq'.enabled = vq.enabled) : QueueInv ram kind gpas vq' := by
  have hready : vq'.ringReady = vq.ringReady := by
    unfold VqueueInfo.ringReady
    rw [hf, hd, ha, hu]
  have hrings : Rings ram vq' gpas kind ↔ Rings ram vq gpas kind := by
    cases kind <;> simp only [Rings, hp, hq] <;>
      exact ⟨fun h => ⟨by have := h.desc; rwa [hd, hq] at this,
          by have := h.avail; rwa [ha, hq] at this, by have := h.used; rwa [hu, hq] at this⟩,
        fun h => ⟨by rw [hd, hq]; exact h.desc, by rw [ha, hq]; exact h.avail,
          by rw [hu, hq]; exact h.used⟩⟩
  exact
    { size_pow := hq ▸ h.size_pow
      max_pow := hm ▸ h.max_pow
      size_le := by rw [hq, hm]; exact h.size_le
      rings := fun hr => hrings.mpr (h.rings (hready ▸ hr))
      enabled := fun hk hr => he ▸ h.enabled hk (hready ▸ hr) }

end

structure Device where
  vs : VirtioSoftc
  gpas : Nat → RingGpas

inductive Action where
  | write (msixEnabled : Bool) (offset : UInt64) (size : Nat) (value : UInt64)
  /-- The device works on a queue. -/
  | serve (q : Nat) (lastAvail nextUsed saveUsed : UInt16) (isr : UInt8)
  /-- The device changes what it offers, before features are negotiated. -/
  | offer (hvCaps : UInt64) (nvq : Nat)

def guestWrite (ram : Ram) (kind : Kind) (cfgFails : Nat → Nat → UInt32 → Bool)
    (msixEnabled : Bool) (vs : VirtioSoftc) (offset : UInt64) (size : Nat) (value : UInt64) :
    Written :=
  match kind with
  | .legacy => viPciWrite ram cfgFails msixEnabled vs offset size value
  | .modern => viPciWriteModern ram vs offset size value

def VirtioSoftc.Enables (vs : VirtioSoftc) (kind : Kind) (offset : Nat) (value : UInt64)
    (q : Nat) : Prop :=
  kind = .modern ∧ offset = VIRTIO_PCI_COMMON_Q_ENABLE ∧ value ≠ 0 ∧ vs.curq = q ∧ q < vs.vc.nvq

instance (vs : VirtioSoftc) (kind : Kind) (offset : Nat) (value : UInt64) (q : Nat) :
    Decidable (vs.Enables kind offset value q) :=
  inferInstanceAs (Decidable (_ ∧ _ ∧ _ ∧ _ ∧ _))

def Device.gpasAfter (d : Device) (kind : Kind) (offset : Nat) (value : UInt64) (q : Nat) :
    RingGpas :=
  if d.vs.Enables kind offset value q then (d.vs.queues q).gpas else d.gpas q

inductive Device.Step (ram : Ram) (kind : Kind) (cfgFails : Nat → Nat → UInt32 → Bool) :
    Device → Action → Device → Prop where
  | write {d : Device} {vs' : VirtioSoftc} {cb : Callback} {msixEnabled : Bool} {offset : UInt64}
      {size : Nat} {value : UInt64} :
      guestWrite ram kind cfgFails msixEnabled d.vs offset size value = .ok (vs', cb) →
      Step ram kind cfgFails d (.write msixEnabled offset size value)
        ⟨vs', d.gpasAfter kind offset.toNat value⟩
  | serve {d : Device} (q : Nat) (lastAvail nextUsed saveUsed : UInt16) (isr : UInt8) :
      Step ram kind cfgFails d (.serve q lastAvail nextUsed saveUsed isr)
        ⟨{ d.vs.setQueue q { d.vs.queues q with lastAvail, nextUsed, saveUsed } with isr }, d.gpas⟩
  | offer {d : Device} (hvCaps : UInt64) (nvq : Nat) : d.vs.negotiatedCaps = 0 →
      Step ram kind cfgFails d (.offer hvCaps nvq)
        ⟨{ d.vs with vc := { d.vs.vc with hvCaps, nvq } }, d.gpas⟩

/-- A write to the queue select register stores no negative `int`. -/
def Action.Selects (kind : Kind) : Action → Prop
  | .write _ offset _ value =>
    offset.toNat = (match kind with
      | .legacy => VIRTIO_PCI_QUEUE_SEL
      | .modern => VIRTIO_PCI_COMMON_Q_SELECT) → 0 ≤ toInt value
  | _ => True

structure DeviceInv (ram : Ram) (kind : Kind) (d : Device) : Prop where
  curq : 0 ≤ d.vs.curq
  caps : d.vs.negotiatedCaps &&& d.vs.vc.hvCaps = d.vs.negotiatedCaps
  queues : ∀ q, QueueInv ram kind (d.gpas q) (d.vs.queues q)

section

variable {ram : Ram} {kind : Kind} {vs vs' : VirtioSoftc} {gpas gpas' : Nat → RingGpas}
  {cb : Callback}

section
variable (h : DeviceInv ram kind ⟨vs, gpas⟩)
include h

lemma DeviceInv.congr (hc : vs'.curq = vs.curq)
    (hv : vs'.vc = vs.vc) (hn : vs'.negotiatedCaps = vs.negotiatedCaps)
    (hq : vs'.queues = vs.queues) : DeviceInv ram kind ⟨vs', gpas⟩ where
  curq := hc ▸ h.curq
  caps := by
    rw [hn, hv]
    exact h.caps
  queues q := by
    rw [hq]
    exact h.queues q

lemma DeviceInv.status {status : UInt8} :
    DeviceInv ram kind ⟨{ vs with status }, gpas⟩ := h.congr rfl rfl rfl rfl

lemma DeviceInv.negotiate (caps : UInt64) :
    DeviceInv ram kind ⟨{ vs with negotiatedCaps := caps &&& vs.vc.hvCaps }, gpas⟩ where
  curq := h.curq
  caps := by rw [UInt64.and_assoc, UInt64.and_self]
  queues := h.queues

lemma DeviceInv.reset : DeviceInv ram kind ⟨viResetDev vs, gpas⟩ where
  curq := Int.le_refl 0
  caps := UInt64.zero_and
  queues q := by
    change QueueInv ram kind (gpas q) (if q < vs.vc.nvq then (vs.queues q).reset else vs.queues q)
    split
    · exact (h.queues q).reset
    · exact h.queues q

lemma DeviceInv.setQueue {i : Nat} {vq : VqueueInfo} (hvq : QueueInv ram kind (gpas' i) vq)
    (hg : ∀ q ≠ i, gpas' q = gpas q) : DeviceInv ram kind ⟨vs.setQueue i vq, gpas'⟩ where
  curq := h.curq
  caps := h.caps
  queues q := by
    change QueueInv ram kind (gpas' q) (update vs.queues i vq q)
    by_cases hq : q = i
    · subst hq
      rw [update_self]
      exact hvq
    · rw [update_of_ne hq, hg q hq]
      exact h.queues q

end

variable {f : VqueueInfo → VqueueInfo}

lemma onCurQueue_cases (h : vs.onCurQueue f = .ok (vs', cb)) : (vs' = vs ∧ (vs.vc.nvq : Int) ≤ vs.curq) ∨
    ∃ i : Nat, vs.curq = i ∧ i < vs.vc.nvq ∧ vs' = vs.setQueue i (f (vs.queues i)) := by
  unfold VirtioSoftc.onCurQueue VirtioSoftc.curQueue at h
  split at h
  next hle =>
    cases h
    exact Or.inl ⟨rfl, hle⟩
  next hlt =>
    split at h
    next hnn =>
      cases h
      exact Or.inr ⟨vs.curq.toNat, (Int.toNat_of_nonneg hnn).symm, by omega, rfl⟩
    next => cases h

lemma DeviceInv.onCurQueue (h : DeviceInv ram kind ⟨vs, gpas⟩) (hx : vs.onCurQueue f = .ok (vs', cb))
    (hf : ∀ gpas vq, QueueInv ram kind gpas vq → QueueInv ram kind gpas (f vq)) :
    DeviceInv ram kind ⟨vs', gpas⟩ := by
  rcases onCurQueue_cases hx with ⟨rfl, -⟩ | ⟨i, -, -, rfl⟩
  · exact h
  · exact h.setQueue (hf _ _ (h.queues i)) fun _ _ => rfl

lemma onCurQueue_no_fault (h : 0 ≤ vs.curq) (e : Fault) : vs.onCurQueue f ≠ .error e := by
  unfold VirtioSoftc.onCurQueue VirtioSoftc.curQueue
  split <;> exact nofun

variable {value : UInt64}

lemma gpasAfter_eq {offset : Nat} (h : offset = VIRTIO_PCI_COMMON_Q_ENABLE → value = 0) :
    (Device.mk vs gpas).gpasAfter kind offset value = gpas := by
  funext q
  exact if_neg fun hen => hen.2.2.1 (h hen.2.1)

section
variable (h : DeviceInv ram .modern ⟨vs, gpas⟩)
include h

lemma DeviceInv.writeEnable
    (hv : value ≠ 0) (hx : vs.onCurQueue (·.writeEnable ram) = .ok (vs', cb)) :
    DeviceInv ram .modern
      ⟨vs', (Device.mk vs gpas).gpasAfter .modern VIRTIO_PCI_COMMON_Q_ENABLE value⟩ := by
  rcases onCurQueue_cases hx with ⟨rfl, hle⟩ | ⟨i, hi, hlt, rfl⟩
  · have hg : (Device.mk vs' gpas).gpasAfter .modern VIRTIO_PCI_COMMON_Q_ENABLE value = gpas := by
      funext q
      refine if_neg fun hen => ?_
      obtain ⟨-, -, -, hq, hlt⟩ := hen
      dsimp only at hq hlt
      omega
    rw [hg]
    exact h
  · have hg : (Device.mk vs gpas).gpasAfter .modern VIRTIO_PCI_COMMON_Q_ENABLE value i =
        (vs.queues i).gpas := if_pos ⟨rfl, rfl, hv, hi, hlt⟩
    refine h.setQueue (hg ▸ (h.queues i).writeEnable) fun q hq => if_neg fun hen => hq ?_
    obtain ⟨-, -, -, hq, -⟩ := hen
    dsimp only at hq
    omega

lemma DeviceInv.commonCfg {offset : Nat} (hsel : offset = VIRTIO_PCI_COMMON_Q_SELECT → 0 ≤ toInt value)
    {r : Written} (hw : CommonWrite ram vs offset value r) (hr : r = .ok (vs', cb)) :
    DeviceInv ram .modern ⟨vs', (Device.mk vs gpas).gpasAfter .modern offset value⟩ := by
  have hother : ∀ {o : Nat}, offset = o → o ≠ VIRTIO_PCI_COMMON_Q_ENABLE →
      (Device.mk vs gpas).gpasAfter .modern offset value = gpas := by
    intro o ho hne
    exact gpasAfter_eq fun hen => absurd (ho.symm.trans hen) hne
  cases hw with
  | plain hen hc hv hn hq =>
    cases hr
    rw [gpasAfter_eq hen]
    exact h.congr hc hv hn hq
  | features caps ho =>
    cases hr
    rw [hother ho (by decide)]
    exact h.negotiate caps
  | reset ho =>
    cases hr
    rw [hother ho (by decide)]
    exact h.status.reset
  | select ho =>
    cases hr
    rw [hother ho (by decide)]
    exact ⟨hsel ho, h.caps, h.queues⟩
  | size ho =>
    rw [hother ho (by decide)]
    exact h.onCurQueue hr fun _ _ hvq => hvq.writeSize value
  | enable ho hv =>
    subst ho
    exact h.writeEnable hv hr
  | msix ho =>
    rw [hother ho (by decide)]
    exact h.onCurQueue hr fun _ _ hvq => hvq.congr rfl rfl rfl rfl rfl rfl rfl rfl
  | gpa hlo hhi hf =>
    have hlt : VIRTIO_PCI_COMMON_Q_ENABLE < VIRTIO_PCI_COMMON_Q_DESCLO := by decide
    rw [hother rfl (hlt.trans_le hlo).ne']
    refine h.onCurQueue hr fun _ vq hvq => ?_
    obtain ⟨d, a, u, hvq'⟩ := hf vq
    rw [hvq']
    exact hvq.congr rfl rfl rfl rfl rfl rfl rfl rfl

lemma DeviceInv.viPciWriteModern {offset : UInt64}
    (hsel : offset.toNat = VIRTIO_PCI_COMMON_Q_SELECT → 0 ≤ toInt value)
    (hx : viPciWriteModern ram vs offset size value = .ok (vs', cb)) :
    DeviceInv ram .modern ⟨vs', (Device.mk vs gpas).gpasAfter .modern offset.toNat value⟩ := by
  have hsame : 64 ≤ offset.toNat → vs' = vs →
      DeviceInv ram .modern ⟨vs', (Device.mk vs gpas).gpasAfter .modern offset.toNat value⟩ := by
    rintro hle rfl
    rw [gpasAfter_eq fun hen => absurd (hen ▸ hle) (by decide)]
    exact h
  unfold Virtio.viPciWriteModern at hx
  split at hx
  next hdiv =>
    have hmod : offset.toNat % 64 = offset.toNat := Nat.mod_eq_of_lt (by omega)
    rw [hmod] at hx
    exact h.commonCfg hsel (commonWrite ram vs offset.toNat value) hx
  next hdiv =>
    have hle : 64 ≤ offset.toNat := by omega
    split at hx
    · cases hx
      exact hsame hle rfl
    · split at hx <;> cases hx <;> exact hsame hle rfl
  next hdiv =>
    cases hx
    exact hsame (by omega) rfl
  next hdiv _ _ =>
    cases hx
    exact hsame (Nat.le_of_not_lt fun hlt => hdiv (Nat.div_eq_of_lt hlt)) rfl

end

lemma DeviceInv.viPciWriteReg {offset : Nat} (h : DeviceInv ram .legacy ⟨vs, gpas⟩)
    (hsel : offset = VIRTIO_PCI_QUEUE_SEL → 0 ≤ toInt value) {r : Written}
    (hw : RegWrite ram vs offset value r) (hr : r = .ok (vs', cb)) : DeviceInv ram .legacy ⟨vs', gpas⟩ := by
  cases hw with
  | plain hc hv hn hq =>
    cases hr
    exact h.congr hc hv hn hq
  | features =>
    cases hr
    exact h.negotiate value
  | reset =>
    cases hr
    exact h.status.reset
  | select ho =>
    cases hr
    exact ⟨hsel ho, h.caps, h.queues⟩
  | pfn => exact h.onCurQueue hr fun _ _ hvq => hvq.viVqInit _
  | msix => exact h.onCurQueue hr fun _ _ hvq => hvq.congr rfl rfl rfl rfl rfl rfl rfl rfl

variable {msixEnabled : Bool} {cfgFails : Nat → Nat → UInt32 → Bool} {offset : UInt64}

lemma DeviceInv.viPciWrite (h : DeviceInv ram .legacy ⟨vs, gpas⟩)
    (hsel : offset.toNat = VIRTIO_PCI_QUEUE_SEL → 0 ≤ toInt value)
    (hx : viPciWrite ram cfgFails msixEnabled vs offset size value = .ok (vs', cb)) :
    DeviceInv ram .legacy ⟨vs', gpas⟩ := by
  rcases viPciWrite_cases ram cfgFails msixEnabled vs offset size value with hbad | ⟨cb', hcfg⟩
  · rw [hbad] at hx
    rcases viPciWriteBad_cases ram vs offset size value with hno | ⟨i, herr⟩ | hreg
    · rw [hno] at hx
      cases hx
      exact h
    · rw [herr] at hx
      cases hx
    · rw [hreg] at hx
      exact h.viPciWriteReg hsel (regWrite ram vs offset.toNat value) hx
  · rw [hcfg] at hx
    cases hx
    exact h

lemma viPciWriteModern_no_fault (h : 0 ≤ vs.curq)
    (e : Fault) : viPciWriteModern ram vs offset size value ≠ .error e := by
  unfold Virtio.viPciWriteModern
  split
  · have hw := commonWrite ram vs (offset.toNat % 64) value
    revert hw
    generalize viPciWriteCommonCfgModern ram vs (offset.toNat % 64) value = r
    intro hw
    cases hw with
    | plain | features | reset | select => exact nofun
    | size | enable | msix | gpa => exact onCurQueue_no_fault h e
  · split
    · exact nofun
    · split <;> exact nofun
  · exact nofun
  · exact nofun

lemma viPciWrite_no_fault (h : 0 ≤ vs.curq) (i : Int) :
    viPciWrite ram cfgFails msixEnabled vs offset size value ≠ .error (.queueIndex i) := by
  rcases viPciWrite_cases ram cfgFails msixEnabled vs offset size value with hbad | ⟨cb', hcfg⟩
  · rw [hbad]
    rcases viPciWriteBad_cases ram vs offset size value with hno | ⟨j, herr⟩ | hreg
    · rw [hno]
      exact nofun
    · rw [herr]
      exact nofun
    rw [hreg]
    have hw := regWrite ram vs offset.toNat value
    revert hw
    generalize viPciWriteReg ram vs offset.toNat value = r
    intro hw
    cases hw with
    | plain | features | reset | select => exact nofun
    | pfn | msix => exact onCurQueue_no_fault h _
  · rw [hcfg]
    exact nofun

lemma guestWrite_no_fault (h : 0 ≤ vs.curq) (i : Int) :
    guestWrite ram kind cfgFails msixEnabled vs offset size value ≠ .error (.queueIndex i) := by
  cases kind with
  | legacy => exact viPciWrite_no_fault h i
  | modern => exact viPciWriteModern_no_fault h _

end

lemma DeviceInv.step {ram : Ram} {kind : Kind} {cfgFails : Nat → Nat → UInt32 → Bool}
    {d d' : Device} {a : Action} (h : DeviceInv ram kind d) (hsel : a.Selects kind)
    (hstep : Device.Step ram kind cfgFails d a d') : DeviceInv ram kind d' := by
  obtain ⟨vs, gpas⟩ := d
  cases hstep with
  | @write vs' cb msixEnabled offset size value hx =>
    cases kind with
    | legacy => exact h.viPciWrite hsel hx
    | modern => exact h.viPciWriteModern hsel hx
  | serve q lastAvail nextUsed saveUsed =>
    have hq : QueueInv ram kind (gpas q) { vs.queues q with lastAvail, nextUsed, saveUsed } :=
      (h.queues q).congr rfl rfl rfl rfl rfl rfl rfl rfl
    exact (h.setQueue hq fun _ _ => rfl).congr rfl rfl rfl rfl
  | offer hvCaps nvq hcaps =>
    refine ⟨h.curq, ?_, h.queues⟩
    rw [hcaps]
    exact UInt64.zero_and

structure VirtioSoftc.Fresh (vs : VirtioSoftc) : Prop where
  curq : vs.curq = 0
  caps : vs.negotiatedCaps = 0
  queues : ∀ q, ∃ k, vs.queues q = { qsize := 2 ^ k, maxqsize := 2 ^ k }

def Device.ofSoftc (vs : VirtioSoftc) : Device := ⟨vs, fun _ => {}⟩

lemma VirtioSoftc.Fresh.inv {vs : VirtioSoftc} (h : vs.Fresh) (ram : Ram) (kind : Kind) :
    DeviceInv ram kind (.ofSoftc vs) where
  curq := h.curq.ge
  caps := by
    change vs.negotiatedCaps &&& vs.vc.hvCaps = vs.negotiatedCaps
    rw [h.caps]
    exact UInt64.zero_and
  queues q := by
    obtain ⟨k, hk⟩ := h.queues q
    change QueueInv ram kind _ (vs.queues q)
    rw [hk]
    exact .of_not_ready ⟨k, rfl⟩ ⟨k, rfl⟩ (Nat.le_refl _) (not_ready_of_desc rfl)

def oneQueue : VirtioSoftc where
  vc := ⟨1, 0, 0⟩
  queues _ := { qsize := 1, maxqsize := 1 }

lemma oneQueue_fresh : oneQueue.Fresh := ⟨rfl, rfl, fun _ => ⟨0, rfl⟩⟩

def oneQueueEnabled : VirtioSoftc :=
  oneQueue.setQueue 0 ((oneQueue.queues 0).writeEnable onePage)

end ScorpiHv.Virtio

import ScorpiHv.Vhost.Gpu

/-!
# Live rings stay where they are

From the moment a queue is enabled or its reset is requested, the backend is told of
one ring, until the reset is acknowledged or the device is reset.
-/

namespace ScorpiHv.Vhost
open Function Bytes Virtio List

structure RingPlace where
  size : Nat
  desc : UInt64
  avail : UInt64
  used : UInt64
  deriving DecidableEq

def QueueDesc.place (d : QueueDesc) : RingPlace := ⟨d.size, d.descAddr, d.availAddr, d.usedAddr⟩

def ringPlace (vq : VqueueInfo) : RingPlace :=
  ⟨pciVhostQueueSize vq, pciVhostQueueDescGpa vq, pciVhostQueueAvailGpa vq, pciVhostQueueUsedGpa vq⟩

def TransportDesc.queue (d : TransportDesc) (i : Nat) : QueueDesc := d.queues.getD i {}

namespace VhostSoftc

def place (sc : VhostSoftc) (i : Nat) : RingPlace := ringPlace (sc.vs.queues i)

structure RingInv (sc : VhostSoftc) : Prop where
  curq : 0 ≤ sc.vs.curq
  nvq : sc.vs.vc.nvq = sc.queueCount
  count : sc.queueCount ≤ SCORPI_VIRTIO_VHOST_MAX_QUEUES
  live : ∀ i, sc.live i = true → i < sc.queueCount

structure RingStep (s t : VhostSoftc) : Prop extends RingInv t where
  releases : ∀ i, s.releases i ≤ t.releases i
  kept : ∀ i, t.releases i = s.releases i → s.live i = true →
    t.live i = true ∧ t.place i = s.place i
  published : t.published = s.published ∨ t.published = s.published ++ [t.transportDesc]

section

variable {ram : Ram} {s t : VhostSoftc} {vs' : VirtioSoftc} {i : Nat}

lemma transportDesc_queue (h : s.queueCount ≤ SCORPI_VIRTIO_VHOST_MAX_QUEUES) (i : Nat) :
    s.transportDesc.queue i = if i < s.queueCount then s.queueDesc i else {} := by
  unfold TransportDesc.queue transportDesc
  rw [getD_eq_getElem?_getD, List.getElem?_map]
  by_cases hi : i < SCORPI_VIRTIO_VHOST_MAX_QUEUES
  · rw [List.getElem?_range hi]
    rfl
  · rw [List.getElem?_eq_none (by rw [length_range]; omega), if_neg (by omega)]
    rfl

lemma RingStep.same (hs : RingInv s) : RingStep s s :=
  ⟨hs, fun _ => Nat.le_refl _, fun _ _ hl => ⟨hl, rfl⟩, .inl rfl⟩

lemma RingStep.bind (h : RingStep s t) (hp : t.published = s.published) : RingStep s t.bindCallbacks :=
  ⟨⟨h.curq, h.nvq, h.count, h.live⟩, h.releases, h.kept, .inr (congrArg (· ++ [t.transportDesc]) hp)⟩

section
variable (hs : RingInv s)
include hs

lemma RingStep.registers (hvc : vs'.vc = s.vs.vc)
    (hq : vs'.queues = s.vs.queues) (hc : 0 ≤ vs'.curq) : RingStep s { s with vs := vs' } := by
  have hlive : ∀ i, live { s with vs := vs' } i = s.live i := by
    intro i
    unfold live
    rw [hq]
  refine ⟨⟨hc, ?_, hs.count, fun i hi => hs.live i (hlive i ▸ hi)⟩, fun _ => Nat.le_refl _,
    fun i _ hl => ⟨(hlive i).trans hl, ?_⟩, .inl rfl⟩
  · exact (congrArg VirtioConsts.nvq hvc).trans hs.nvq
  · unfold place
    rw [hq]

lemma RingStep.setQueue (hi : i < s.queueCount) (vq : VqueueInfo)
    (h : s.live i = true → vq.enabled = (s.vs.queues i).enabled ∧
      ringPlace vq = ringPlace (s.vs.queues i)) :
    RingStep s { s with vs := s.vs.setQueue i vq } := by
  have hother : ∀ j ≠ i, (s.vs.setQueue i vq).queues j = s.vs.queues j := fun j hj => update_of_ne hj _ _
  have hself : (s.vs.setQueue i vq).queues i = vq := update_self _ _ _
  refine ⟨⟨hs.curq, hs.nvq, hs.count, ?_⟩, fun _ => Nat.le_refl _, ?_, .inl rfl⟩
  · intro j hj
    by_cases hji : j = i
    · exact hji ▸ hi
    unfold live at hj
    rw [hother j hji] at hj
    exact hs.live j hj
  · intro j _ hl
    by_cases hji : j = i
    · subst hji
      obtain ⟨hen, hplace⟩ := h hl
      unfold live place
      rw [hself, hen]
      exact ⟨hl, hplace⟩
    · unfold live place
      rw [hother j hji]
      exact ⟨hl, rfl⟩

lemma RingStep.reset (hvc : vs'.vc = s.vs.vc)
    (hq : ∀ i, (vs'.queues i).enabled = true → (s.vs.queues i).enabled = true) :
    RingStep s (pciVhostReset { s with vs := vs' }) := by
  refine ⟨⟨Int.le_refl 0, ?_, hs.count, ?_⟩, fun i => Nat.le_succ _, ?_, .inr rfl⟩
  · exact (congrArg VirtioConsts.nvq hvc).trans hs.nvq
  · intro i hl
    have hen : ((viResetDev vs').queues i).enabled = true := (Bool.or_false _).symm.trans hl
    have hsel : (if i < vs'.vc.nvq then (vs'.queues i).reset else vs'.queues i).enabled = true := hen
    split at hsel
    · cases hsel
    · exact hs.live i ((Bool.or_eq_true _ _).mpr (.inl (hq i hsel)))
  · intro i hrel
    exact absurd hrel (Nat.succ_ne_self _)

lemma RingStep.negFeatures {caps : UInt64} :
    RingStep s (pciVhostNegFeatures { s with vs := { s.vs with negotiatedCaps := caps } } caps) := by
  have h : RingStep s { s with vs := { s.vs with negotiatedCaps := caps } } := .registers hs rfl rfl hs.curq
  exact ⟨⟨h.curq, h.nvq, h.count, h.live⟩, h.releases, h.kept, .inr rfl⟩

lemma RingStep.notify (q : Nat) : RingStep s (s.pciVhostQueueNotify q) := by
  unfold pciVhostQueueNotify
  split
  · exact .same hs
  · have h := RingStep.bind (.same hs) rfl
    exact ⟨⟨h.curq, h.nvq, h.count, h.live⟩, h.releases, h.kept, h.published⟩

lemma RingStep.queueReset (hi : i < s.queueCount) :
    RingStep s (pciVhostQueueReset { s with queueResetting := update s.queueResetting i true } i) := by
  have hlive : ∀ j, live { s with queueResetting := update s.queueResetting i true } j =
      (s.live j || decide (j = i)) := by
    intro j
    unfold live
    dsimp only
    by_cases hj : j = i
    · subst hj
      rw [update_self, decide_eq_true rfl, Bool.or_true, Bool.or_true]
    · rw [update_of_ne hj, decide_eq_false hj, Bool.or_false]
  have h : RingStep s { s with queueResetting := update s.queueResetting i true } := by
    refine ⟨⟨hs.curq, hs.nvq, hs.count, ?_⟩, fun _ => Nat.le_refl _, ?_, .inl rfl⟩
    · intro j hj
      rw [hlive, Bool.or_eq_true] at hj
      rcases hj with hj | hj
      · exact hs.live j hj
      · exact of_decide_eq_true hj ▸ hi
    · intro j _ hj
      rw [hlive, hj]
      exact ⟨rfl, rfl⟩
  unfold pciVhostQueueReset
  split
  · exact h
  · exact ⟨⟨h.curq, h.nvq, h.count, h.live⟩, h.releases, h.kept, .inr rfl⟩

lemma RingStep.backendEvent (m : Msg) :
    RingStep s (s.pciVhostBackendEvent m) := by
  unfold pciVhostBackendEvent
  split
  next hack =>
    refine ⟨⟨hs.curq, hs.nvq, hs.count, ?_⟩, ?_, ?_, .inr rfl⟩
    all_goals
      generalize m.queueReset.index = i
      intro j
    · intro hj
      by_cases hji : j = i
      · subst hji
        have hdead : (live (s.pciVhostCompleteQueueReset j) j) = false := by
          unfold live pciVhostCompleteQueueReset VirtioSoftc.setQueue
          dsimp only
          rw [update_self, update_self]
          rfl
        rw [show live (s.pciVhostCompleteQueueReset j) j = true from hj] at hdead
        cases hdead
      · have hsame : live (s.pciVhostCompleteQueueReset i) j = s.live j := by
          unfold live pciVhostCompleteQueueReset VirtioSoftc.setQueue
          dsimp only
          rw [update_of_ne hji, update_of_ne hji]
        exact hs.live j (hsame ▸ hj)
    · change s.releases j ≤ update s.releases i (s.releases i + 1) j
      by_cases hji : j = i
      · subst hji
        rw [update_self]
        exact Nat.le_succ _
      · rw [update_of_ne hji]
    · intro hrel hl
      change update s.releases i (s.releases i + 1) j = s.releases j at hrel
      by_cases hji : j = i
      · subst hji
        rw [update_self] at hrel
        exact absurd hrel (Nat.succ_ne_self _)
      change live (s.pciVhostCompleteQueueReset i) j = true ∧
        place (s.pciVhostCompleteQueueReset i) j = s.place j
      unfold live place pciVhostCompleteQueueReset VirtioSoftc.setQueue
      dsimp only
      rw [update_of_ne hji, update_of_ne hji]
      exact ⟨hl, rfl⟩
  next => exact .same hs

end

lemma selected_eq (hi : i < SCORPI_VIRTIO_VHOST_MAX_QUEUES) (hc : s.vs.curq = i) : s.selected = i := by
  have hmax : SCORPI_VIRTIO_VHOST_MAX_QUEUES < 2 ^ 32 := by decide
  unfold selected
  rw [hc, Int.emod_eq_of_lt (by omega) (by omega)]
  exact Int.toNat_natCast i

variable {w : VirtioSoftc × Callback}

lemma RingStep.onCurQueue (hs : RingInv s) {f : VqueueInfo → VqueueInfo}
    (hw : s.vs.onCurQueue f = .ok w) (hf : ∀ i < s.queueCount, s.selected = i → s.live i = true →
      (f (s.vs.queues i)).enabled = (s.vs.queues i).enabled ∧
        ringPlace (f (s.vs.queues i)) = ringPlace (s.vs.queues i)) :
    RingStep s (s.calledBack w) := by
  have hcb : w.2 = .none := by
    unfold VirtioSoftc.onCurQueue VirtioSoftc.curQueue at hw
    split at hw
    · cases hw
      rfl
    split at hw
    · cases hw
      rfl
    · cases hw
  obtain ⟨vs', cb⟩ := w
  cases hcb
  rcases onCurQueue_cases hw with ⟨rfl, -⟩ | ⟨i, hi, hlt, rfl⟩
  · exact .registers hs rfl rfl hs.curq
  · have hiq : i < s.queueCount := hs.nvq ▸ hlt
    exact .setQueue hs hiq _ (hf i hiq (selected_eq (Nat.lt_of_lt_of_le hiq hs.count) hi))

variable {value : UInt64}

lemma RingStep.commonCfg (hs : RingInv s) {offset : Nat}
    (hw : viPciWriteCommonCfgModern ram s.vs offset value = .ok w)
    (hsel : offset = VIRTIO_PCI_COMMON_Q_SELECT → 0 ≤ toInt value)
    (hguard : ¬(s.selected < s.queueCount ∧ s.live s.selected = true ∧
      ringRegister offset = true)) : RingStep s (s.calledBack w) := by
  have hdead : ringRegister offset = true → ∀ i < s.queueCount, s.selected = i →
      s.live i ≠ true := by
    rintro hreg i hi rfl hl
    exact hguard ⟨hi, hl, hreg⟩
  have hc := commonWrite ram s.vs offset value
  generalize viPciWriteCommonCfgModern ram s.vs offset value = r at hc hw
  cases hc with
  | plain _ hcurq hvc _ hq =>
    cases hw
    exact .registers hs hvc hq (hcurq ▸ hs.curq)
  | features =>
    cases hw
    exact .negFeatures hs
  | reset =>
    cases hw
    refine .reset hs rfl fun i hen => ?_
    change (if i < s.vs.vc.nvq then (s.vs.queues i).reset else s.vs.queues i).enabled = true at hen
    split at hen
    · cases hen
    · exact hen
  | select ho =>
    cases hw
    exact .registers hs rfl rfl (hsel ho)
  | size ho | enable ho =>
    have hreg : ringRegister offset = true := by rw [ho]; decide
    exact .onCurQueue hs hw fun i hi hsi hl => absurd hl (hdead hreg i hi hsi)
  | msix => exact .onCurQueue hs hw fun _ _ _ _ => ⟨rfl, rfl⟩
  | gpa hlo hhi =>
    have hreg : ringRegister offset = true := decide_eq_true (.inr (.inr ⟨hlo, hhi⟩))
    exact .onCurQueue hs hw fun i hi hsi hl => absurd hl (hdead hreg i hi hsi)

lemma RingStep.writeModern (hs : RingInv s) {offset : UInt64} {size : Nat}
    (hsel : offset.toNat = VIRTIO_PCI_COMMON_Q_SELECT → 0 ≤ toInt value)
    (h : s.writeModern ram offset size value = .ok t) : RingStep s t := by
  unfold VhostSoftc.writeModern at h
  by_cases hreset : offset.toNat = VHOST_GPU_COMMON_Q_RESET
  · rw [if_pos hreset] at h
    split at h
    next hok =>
      cases h
      exact .queueReset hs hok.2.2.1
    next =>
      cases h
      exact .same hs
  rw [if_neg hreset] at h
  split at h
  · cases h
    exact .same hs
  split_ifs at h with hguard
  · cases h
    exact .same hs
  cases hw : viPciWriteModern ram s.vs offset size value with
  | error =>
    rw [hw] at h
    cases h
  | ok =>
    rw [hw] at h
    cases h
    unfold viPciWriteModern at hw
    split at hw
    next hzero =>
      have hmod : offset.toNat % 64 = offset.toNat := by omega
      rw [hmod] at hw
      exact .commonCfg hs hw hsel hguard
    · split at hw
      · cases hw
        exact .same hs
      · split at hw <;> cases hw
        · exact .same hs
        · exact .notify hs _
    · cases hw
      exact .same hs
    · cases hw
      exact .same hs

lemma RingStep.writeUserNotify (hs : RingInv s) (offset : UInt64) (size : Nat) :
    RingStep s (s.writeUserNotify offset size) := by
  unfold VhostSoftc.writeUserNotify
  split
  · exact .same hs
  split
  · exact .notify hs _
  · exact .same hs

lemma RingStep.interrupt (hs : RingInv s) (msixEnabled : Bool) (mem : Store) (i : Nat) :
    RingStep s (pciVhostInterrupt msixEnabled mem s i) := by
  unfold pciVhostInterrupt
  dsimp only
  split
  next hok =>
    have h := RingStep.setQueue hs hok.1
      { s.vs.queues i with saveUsed := Virtio.Ring.usedIdx ⟨s.vs.queues i, mem⟩ }
      fun _ => ⟨rfl, rfl⟩
    exact ⟨⟨h.curq, h.nvq, h.count, h.live⟩, h.releases, h.kept, .inl rfl⟩
  next => exact .same hs

lemma deviceFeatures_count (s : VhostSoftc) (f : UInt64) :
    s.pciVhostDeviceFeatures f = s ∨
    ((s.pciVhostDeviceFeatures f).queueCount = (s.pciVhostDeviceFeatures f).vs.vc.nvq ∧
      (s.pciVhostDeviceFeatures f).queueCount ≤ SCORPI_VIRTIO_VHOST_MAX_QUEUES) := by
  unfold pciVhostDeviceFeatures
  split
  · exact .inl rfl
  refine .inr ⟨rfl, ?_⟩
  dsimp only
  split <;> decide

lemma deviceFeatures_frame (s : VhostSoftc) (f : UInt64) :
    (s.pciVhostDeviceFeatures f).vs.curq = s.vs.curq ∧
    (s.pciVhostDeviceFeatures f).vs.queues = s.vs.queues ∧
    (s.pciVhostDeviceFeatures f).queueResetting = s.queueResetting ∧
    (s.pciVhostDeviceFeatures f).releases = s.releases ∧
    (s.pciVhostDeviceFeatures f).published = s.published := by
  unfold pciVhostDeviceFeatures
  split <;> exact ⟨rfl, rfl, rfl, rfl, rfl⟩

lemma RingStep.deviceFeatures (hs : RingInv s) (f : UInt64)
    (hkeep : ∀ i, s.live i = true → i < (s.pciVhostDeviceFeatures f).queueCount) :
    RingStep s (s.pciVhostDeviceFeatures f) := by
  rcases deviceFeatures_count s f with heq | ⟨hnvq, hcount⟩
  · rw [heq]
    exact .same hs
  obtain ⟨hcurq, hqueues, hresetting, hreleases, hpublished⟩ := deviceFeatures_frame s f
  have hlive : ∀ i, (s.pciVhostDeviceFeatures f).live i = s.live i := by
    intro i
    unfold live
    rw [hqueues, hresetting]
  refine ⟨⟨hcurq ▸ hs.curq, hnvq.symm, hcount, fun i hl => hkeep i (hlive i ▸ hl)⟩,
    fun i => (congrFun hreleases i).ge, fun i _ hl => ⟨(hlive i).trans hl, ?_⟩, .inl hpublished⟩
  unfold place
  rw [hqueues]

end

def Orderly (s : VhostSoftc) : GpuAction → Prop
  | .write .modern offset _ value => offset.toNat = VIRTIO_PCI_COMMON_Q_SELECT → 0 ≤ toInt value
  | .features f => ∀ i, s.live i = true → i < (s.pciVhostDeviceFeatures f).queueCount
  | _ => True

def OrderlyStep (ram : Ram) (s : VhostSoftc) (a : GpuAction) (t : VhostSoftc) : Prop :=
  s.act ram a = .ok t ∧ s.Orderly a

section

variable {ram : Ram} {s t : VhostSoftc} {a : GpuAction} {as : List GpuAction}

lemma RingStep.act (hs : RingInv s) (h : OrderlyStep ram s a t) : RingStep s t := by
  obtain ⟨hact, hord⟩ := h
  cases a with
  | write bar offset size =>
    cases bar with
    | legacyCtrl | legacyFb | msix =>
      cases hact
      exact .same hs
    | userNotify =>
      cases hact
      exact .writeUserNotify hs offset size
    | modern => exact .writeModern hs hord hact
  | event m =>
    cases hact
    exact .backendEvent hs m
  | features f =>
    cases hact
    exact .deviceFeatures hs f hord
  | interrupt msixEnabled mem i =>
    cases hact
    exact .interrupt hs msixEnabled mem i
  | pciReset =>
    cases hact
    exact .reset hs rfl fun _ h => h
  | drain | take =>
    cases hact
    have h := RingStep.same hs
    exact ⟨⟨h.curq, h.nvq, h.count, h.live⟩, h.releases, h.kept, .inl rfl⟩

lemma ringInv_init (backendId : String) (memory : List MemoryRegion) (mouse : Bool) :
    RingInv (pciVhostInit backendId memory mouse) :=
  ⟨Int.le_refl 0, rfl, show VHOST_GPU_QUEUE_COUNT ≤ _ by decide, fun _ => nofun⟩

lemma ringInv_run (hs : RingInv s) (h : Trace (OrderlyStep ram) s as t) : RingInv t := by
  have keep : ∀ s a t, RingInv s → True → OrderlyStep ram s a t → RingInv t :=
    fun _ _ _ hs _ h => (RingStep.act hs h).toRingInv
  exact h.invariant (fun _ => True) keep (fun _ _ => trivial) hs

def Stays (i : Nat) (s t : VhostSoftc) : Prop :=
  s.releases i ≤ t.releases i ∧ (t.releases i = s.releases i → s.live i = true →
    t.live i = true ∧ t.place i = s.place i ∧ ∃ descs, t.published = s.published ++ descs ∧
      ∀ d ∈ descs, i < d.queueCount ∧ (d.queue i).place = s.place i)

lemma RingStep.stays (h : RingStep s t) (i : Nat) : Stays i s t := by
  refine ⟨h.releases i, fun hrel hl => ?_⟩
  obtain ⟨hlive, hplace⟩ := h.kept i hrel hl
  refine ⟨hlive, hplace, ?_⟩
  rcases h.published with hp | hp
  · exact ⟨[], by rw [hp, append_nil], fun d hd => absurd hd not_mem_nil⟩
  refine ⟨[t.transportDesc], hp, fun d hd => ?_⟩
  have hi := h.live i hlive
  rw [mem_singleton.mp hd]
  refine ⟨hi, ?_⟩
  rw [transportDesc_queue h.count, if_pos hi]
  exact hplace

lemma Stays.trans {i : Nat} {u : VhostSoftc} (h : Stays i s t) (h' : Stays i t u) : Stays i s u := by
  obtain ⟨hle, hst⟩ := h
  obtain ⟨hle', htu⟩ := h'
  refine ⟨Nat.le_trans hle hle', fun hrel hl => ?_⟩
  obtain ⟨hlt, hpt, descs, hdescs, hall⟩ := hst (by omega) hl
  obtain ⟨hlu, hpu, descs', hdescs', hall'⟩ := htu (by omega) hlt
  refine ⟨hlu, hpu.trans hpt, descs ++ descs', ?_, ?_⟩
  · rw [hdescs', hdescs, append_assoc]
  intro d hd
  rcases mem_append.mp hd with hd | hd
  · exact hall d hd
  · exact hpt ▸ hall' d hd

lemma Stays.refl (i : Nat) (s : VhostSoftc) : Stays i s s :=
  ⟨Nat.le_refl _, fun _ hl => ⟨hl, rfl, [], (append_nil _).symm, fun _ hd => absurd hd not_mem_nil⟩⟩

lemma stays_run (hs : RingInv s) (h : Trace (OrderlyStep ram) s as t) (i : Nat) : Stays i s t := by
  have keep : ∀ s a t, RingInv s → True → OrderlyStep ram s a t → RingInv t :=
    fun _ _ _ hs _ h => (RingStep.act hs h).toRingInv
  have step : ∀ s a t, RingInv s → True → OrderlyStep ram s a t → Stays i s t :=
    fun _ _ _ hs _ h => (RingStep.act hs h).stays i
  exact h.relates RingInv (fun _ => True) keep (Stays.refl i) (fun _ _ _ => Stays.trans) step
    (fun _ _ => trivial) hs

lemma act_ok (hc : 0 ≤ s.vs.curq) (a : GpuAction) : ∃ t, s.act ram a = .ok t := by
  cases a with
  | write bar offset size value =>
    cases bar with
    | legacyCtrl | legacyFb | msix | userNotify => exact ⟨_, rfl⟩
    | modern =>
      change ∃ t, s.writeModern ram offset size value = .ok t
      unfold writeModern
      dsimp only
      split
      · split <;> exact ⟨_, rfl⟩
      split
      · exact ⟨_, rfl⟩
      split
      · exact ⟨_, rfl⟩
      cases hw : viPciWriteModern ram s.vs offset size value with
      | error e => exact absurd hw (viPciWriteModern_no_fault hc e)
      | ok => exact ⟨_, rfl⟩
  | event | features | interrupt | pciReset | drain | take => exact ⟨_, rfl⟩

/-- With a negative selection the guard sees a large queue number and the register write goes
to `vs_queues` at a negative index. -/
lemma negative_select_faults (hcount : s.queueCount ≤ SCORPI_VIRTIO_VHOST_MAX_QUEUES)
    (hneg : s.vs.curq < 0) (hlow : -2 ^ 31 ≤ s.vs.curq) (size : Nat) (value : UInt64) :
    s.act ram (.write .modern 32 size value) = .error (.queueIndex s.vs.curq) := by
  have hsel : ¬s.selected < s.queueCount := by
    have hmax : SCORPI_VIRTIO_VHOST_MAX_QUEUES < 2 ^ 31 := by decide
    unfold selected
    omega
  have honq : ∀ f, s.vs.onCurQueue f = .error (.queueIndex s.vs.curq) := by
    intro f
    unfold VirtioSoftc.onCurQueue VirtioSoftc.curQueue
    rw [if_neg (by omega), if_neg (by omega)]
    rfl
  change s.writeModern ram 32 size value = _
  unfold writeModern
  rw [if_neg (by decide), if_neg (by decide), if_neg (fun h => hsel h.1)]
  have hw : viPciWriteModern ram s.vs 32 size value =
      s.vs.onCurQueue fun vq => { vq with descGpa := setLo vq.descGpa value } := rfl
  rw [hw, honq]
  rfl

/-- A step that is not orderly loses a live queue, or makes the next write fault. -/
inductive Disorder (ram : Ram) (s t : VhostSoftc) : Prop where
  | fault : t.vs.curq < 0 →
      (∀ size value, t.act ram (.write .modern 32 size value) =
        .error (.queueIndex t.vs.curq)) → Disorder ram s t
  | lost (i : Nat) : s.live i = true → t.live i = true → t.releases i = s.releases i →
      t.transportDesc.queue i = {} → Disorder ram s t

lemma disorder_of_select (hs : RingInv s) {offset value : UInt64} {size : Nat}
    (ho : offset.toNat = VIRTIO_PCI_COMMON_Q_SELECT) (hv : toInt value < 0) :
    ∃ t, s.act ram (.write .modern offset size value) = .ok t ∧ Disorder ram s t := by
  have hact : s.act ram (.write .modern offset size value) =
      .ok { s with vs := { s.vs with curq := toInt value } } := by
    change s.writeModern ram offset size value = _
    unfold writeModern viPciWriteModern
    rw [ho]
    rw [if_neg (by decide), if_neg (by decide), if_neg (by rintro ⟨-, -, h⟩; cases h)]
    rfl
  exact ⟨_, hact, .fault hv fun size value =>
    negative_select_faults (s := { s with vs := { s.vs with curq := toInt _ } }) hs.count hv
      (BitVec.le_toInt _) size value⟩

lemma disorder_of_features (f : UInt64)
    (h : ¬∀ i, s.live i = true → i < (s.pciVhostDeviceFeatures f).queueCount) (hs : RingInv s) :
    Disorder ram s (s.pciVhostDeviceFeatures f) := by
  simp only [not_forall] at h
  obtain ⟨i, hl, hlt⟩ := h
  rcases deviceFeatures_count s f with heq | ⟨-, hcount⟩
  · rw [heq] at hlt
    exact absurd (hs.live i hl) hlt
  obtain ⟨-, hqueues, hresetting, hreleases, -⟩ := deviceFeatures_frame s f
  refine .lost i hl ?_ (congrFun hreleases i) ?_
  · unfold live
    rw [hqueues, hresetting]
    exact hl
  · rw [transportDesc_queue hcount, if_neg hlt]

lemma disorder_of_not_orderly (hs : RingInv s) (h : ¬s.Orderly a) :
    ∃ t, s.act ram a = .ok t ∧ Disorder ram s t := by
  cases a with
  | write bar =>
    cases bar with
    | legacyCtrl | legacyFb | msix | userNotify => exact absurd trivial h
    | modern =>
      obtain ⟨ho, hv⟩ := Classical.not_imp.mp h
      exact disorder_of_select hs ho (Int.not_le.mp hv)
  | features f => exact ⟨_, rfl, disorder_of_features f h hs⟩
  | event | interrupt | pciReset | drain | take => exact absurd trivial h

end

/-- What must hold for a write to page `k` to kick. -/
structure UserKick (s : VhostSoftc) (k : Nat) : Prop where
  slot : k < SCORPI_VIRTIO_GPU_USER_QUEUE_COUNT
  negotiated : s.vs.negotiatedCaps &&& VIRTIO_GPU_F_SCORPI_USER_SUBMISSION ≠ 0
  driverOk : s.vs.status &&& VIRTIO_CONFIG_STATUS_DRIVER_OK ≠ 0
  needsReset : s.vs.status &&& VIRTIO_CONFIG_S_NEEDS_RESET = 0
  failed : s.vs.status &&& VIRTIO_CONFIG_STATUS_FAILED = 0
  enabled : (s.vs.queues (SCORPI_VIRTIO_GPU_KERNEL_QUEUE_COUNT + k)).enabled = true
  ready : (s.vs.queues (SCORPI_VIRTIO_GPU_KERNEL_QUEUE_COUNT + k)).ringReady = true
  resetting : s.queueResetting (SCORPI_VIRTIO_GPU_KERNEL_QUEUE_COUNT + k) = false

lemma status_bits (st : UInt8)
    (h : st &&& (VIRTIO_CONFIG_STATUS_DRIVER_OK ||| VIRTIO_CONFIG_S_NEEDS_RESET |||
      VIRTIO_CONFIG_STATUS_FAILED) = VIRTIO_CONFIG_STATUS_DRIVER_OK) :
    st &&& VIRTIO_CONFIG_STATUS_DRIVER_OK ≠ 0 ∧ st &&& VIRTIO_CONFIG_S_NEEDS_RESET = 0 ∧
      st &&& VIRTIO_CONFIG_STATUS_FAILED = 0 := by
  obtain ⟨⟨x⟩⟩ := st
  revert h
  revert x
  decide +kernel

lemma writeUserNotify_kicks (s : VhostSoftc) (offset : UInt64) (size : Nat) :
    (s.writeUserNotify offset size).kicks = s.kicks ∨ ∃ k,
    offset.toNat = k * SCORPI_GPU_USER_NOTIFY_STRIDE ∧ UserKick s k ∧
    (s.writeUserNotify offset size).kicks = s.kicks ++ [SCORPI_VIRTIO_GPU_KERNEL_QUEUE_COUNT + k] := by
  unfold writeUserNotify scorpiGpuUserNotifyQueue
  split_ifs with hbad
  · exact .inl rfl
  dsimp only
  split
  next hok =>
    right
    obtain ⟨hcaps, hstatus, -, henabled, hresetting, hready⟩ := of_decide_eq_true hok
    obtain ⟨hdriver, hneeds, hfailed⟩ := status_bits _ hstatus
    have hmul : offset.toNat / SCORPI_GPU_USER_NOTIFY_STRIDE * SCORPI_GPU_USER_NOTIFY_STRIDE =
        offset.toNat := Nat.div_mul_cancel (Nat.dvd_of_mod_eq_zero (by omega))
    have hslot : offset.toNat / SCORPI_GPU_USER_NOTIFY_STRIDE <
        SCORPI_VIRTIO_GPU_USER_QUEUE_COUNT := by
      apply Nat.div_lt_of_lt_mul
      have hlt : ¬SCORPI_GPU_USER_NOTIFY_BYTES ≤ offset.toNat := fun h => hbad (.inr (.inl h))
      exact Nat.not_le.mp hlt
    refine ⟨_, hmul.symm, ⟨hslot, hcaps, hdriver, hneeds, hfailed, henabled, hready, hresetting⟩, ?_⟩
    unfold pciVhostQueueNotify
    rw [hresetting]
    rfl
  next => exact .inl rfl


variable {ram : Ram} {s : VhostSoftc} {as : List GpuAction}

def acts (ram : Ram) (s : VhostSoftc) (as : List GpuAction) : Except Virtio.Fault VhostSoftc :=
  as.foldlM (act ram) s

lemma trace_of_acts {t : VhostSoftc} (h : s.acts ram as = .ok t)
    (ho : ∀ a ∈ as, ∀ s : VhostSoftc, s.Orderly a) : Trace (OrderlyStep ram) s as t := by
  induction as generalizing s with
  | nil =>
    cases h
    exact .nil _
  | cons a as ih =>
    change (s.act ram a >>= fun s => s.acts ram as) = .ok t at h
    cases hact : s.act ram a with
    | error =>
      rw [hact] at h
      cases h
    | ok =>
      rw [hact] at h
      exact .cons ⟨hact, ho a mem_cons_self s⟩ (ih h fun a ha => ho a (mem_cons_of_mem _ ha))

def enableQueue (q : UInt64) : List GpuAction :=
  [.write .modern 22 2 q, .write .modern 24 2 8, .write .modern 32 4 4096,
    .write .modern 40 4 4352, .write .modern 48 4 4608, .write .modern 28 2 1]

lemma ok_of_map {ε α β : Type} {x : Except ε α} {f : α → β} {b : β} (h : x.map f = .ok b) :
    ∃ a, x = .ok a ∧ f a = b := by
  cases x with
  | error => cases h
  | ok a => exact ⟨a, rfl, Except.ok.inj h⟩

theorem live_rings_stay (backendId : String) (memory : List MemoryRegion) (mouse : Bool)
    (h : Trace (OrderlyStep ram) (pciVhostInit backendId memory mouse) as s) :
    (∀ a, ∃ t, s.act ram a = .ok t) ∧
    (∀ i bs t, Trace (OrderlyStep ram) s bs t → s.live i = true → t.releases i = s.releases i →
      t.live i = true ∧ ∃ descs, t.published = s.published ++ descs ∧
        ∀ d ∈ descs, i < d.queueCount ∧ (d.queue i).place = s.place i) ∧
    (∀ offset size value t, s.act ram (.write .userNotify offset size value) = .ok t →
      t.kicks = s.kicks ∨ ∃ k, offset.toNat = k * SCORPI_GPU_USER_NOTIFY_STRIDE ∧
        UserKick s k ∧ t.kicks = s.kicks ++ [SCORPI_VIRTIO_GPU_KERNEL_QUEUE_COUNT + k]) ∧
    (∀ a, ¬s.Orderly a → ∃ t, s.act ram a = .ok t ∧ Disorder ram s t) := by
  have hs := ringInv_run (ringInv_init backendId memory mouse) h
  refine ⟨act_ok hs.curq, ?_, ?_, fun a ha => disorder_of_not_orderly hs ha⟩
  · intro i bs t hrun hl hrel
    obtain ⟨hlive, -, hpub⟩ := (stays_run hs hrun i).2 hrel hl
    exact ⟨hlive, hpub⟩
  · intro offset size value t hact
    cases hact
    exact writeUserNotify_kicks s offset size

theorem live_rings_stay_queue :
    ∃ s t, (pciVhostInit "gpu0" [] true).acts threePages (enableQueue 0) = .ok s ∧
      s.acts threePages [.write .modern 32 4 0, .write .modern 64 2 0] = .ok t ∧
      t.live 0 = true ∧ ∃ descs, t.published = s.published ++ descs ∧
        ∀ d ∈ descs, 0 < d.queueCount ∧ (d.queue 0).place = ⟨8, 4096, 4352, 4608⟩ := by
  have hrun : ((pciVhostInit "gpu0" [] true).acts threePages (enableQueue 0)).map (fun s =>
      (s.live 0, s.place 0, (s.acts threePages [.write .modern 32 4 0, .write .modern 64 2 0]).map
        fun t => decide (t.releases 0 = s.releases 0))) =
      .ok (true, ⟨8, 4096, 4352, 4608⟩, .ok true) := by decide +kernel
  obtain ⟨s, hs, hmap⟩ := ok_of_map hrun
  obtain ⟨hlive, hplace, hmap⟩ : s.live 0 = true ∧ s.place 0 = ⟨8, 4096, 4352, 4608⟩ ∧ _ := by
    simpa only [Prod.mk.injEq] using hmap
  obtain ⟨t, ht, hrel⟩ := ok_of_map hmap
  have hsel : 0 ≤ toInt 0 := by decide
  have htrace := trace_of_acts hs (by
    intro a ha s
    simp only [enableQueue, mem_cons, not_mem_nil, or_false] at ha
    rcases ha with rfl | rfl | rfl | rfl | rfl | rfl
    · exact fun _ => hsel
    all_goals exact fun h => absurd h (by decide))
  have htrace' := trace_of_acts ht (by
    intro a ha s
    simp only [mem_cons, not_mem_nil, or_false] at ha
    rcases ha with rfl | rfl <;> exact fun h => absurd h (by decide))
  obtain ⟨hlive', descs, hdescs, hall⟩ :=
    (live_rings_stay "gpu0" [] true htrace).2.1 0 _ t htrace' hlive (of_decide_eq_true hrel)
  exact ⟨s, t, hs, ht, hlive', descs, hdescs, fun d hd => hplace ▸ hall d hd⟩

/-- A backend without user queues replaces one with them while queue 10 is live. With queue 0
live, the guest selects `0xFFFFFFFF` and writes before the array of queues. -/
theorem live_ring_lost :
    ((pciVhostInit "gpu0" [] true).acts threePages ([.features 0x1000] ++ enableQueue 10 ++
      [.write .modern 64 2 10, .features 0, .write .modern 12 4 0])).map (fun t =>
        (t.live 10, t.releases 10, t.published.map fun d => (d.queue 10).place)) =
      .ok (true, 0, [⟨0, 0, 0, 0⟩, ⟨8, 4096, 4352, 4608⟩, ⟨0, 0, 0, 0⟩]) ∧
    ((pciVhostInit "gpu0" [] true).acts threePages (enableQueue 0 ++
      [.write .modern 22 4 0xFFFFFFFF])).map (fun t => (t.live 0, t.vs.curq)) =
      .ok (true, -1) ∧
    ((pciVhostInit "gpu0" [] true).acts threePages (enableQueue 0 ++
      [.write .modern 22 4 0xFFFFFFFF, .write .modern 32 4 8192])).map (fun t => t.live 0) =
      .error (.queueIndex (-1)) := by
  decide +kernel

end VhostSoftc

end ScorpiHv.Vhost

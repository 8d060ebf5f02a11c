import ScorpiHv.Hyperv.Timers

/-!
# Timers fire as armed

What is pending is due, a one-shot timer that has fired is disabled, and a periodic one
keeps the phase it was armed with.
-/

namespace ScorpiHv.Hyperv
open Function Bytes List

lemma and_not_and (x b : UInt64) : (x &&& ~~~b) &&& b = 0 := by
  apply UInt64.eq_of_toBitVec_eq
  ext i hi
  cases x.toBitVec[i] <;> cases b.toBitVec[i] <;> simp

namespace Timer

@[simp] lemma disable_enabled (t : Timer) : t.disable.enabled = false := by
  simp [enabled, disable, and_not_and]

@[simp] lemma disable_periodic (t : Timer) : t.disable.periodic = t.periodic := by
  have hbits : ~~~ST_ENABLE &&& ST_PERIODIC = ST_PERIODIC := by decide
  have h : (t.config &&& ~~~ST_ENABLE) &&& ST_PERIODIC = t.config &&& ST_PERIODIC := by
    rw [UInt64.and_assoc, hbits]
  simp [periodic, disable, h]

lemma rearm_pending (t : Timer) (now : UInt64) : (t.rearm now).pending = false := rfl

lemma delivered_pending (t : Timer) (now : UInt64) : (t.delivered now).pending = false := by
  unfold delivered
  split <;> rfl

lemma delivered_periodic (t : Timer) (now : UInt64) : (t.delivered now).periodic = t.periodic := by
  unfold delivered
  split
  · simp only [periodic]
  · exact t.disable_periodic

lemma delivered_count (t : Timer) (now : UInt64) : (t.delivered now).count = t.count := by
  unfold delivered
  split <;> rfl

lemma delivered_enabled {t : Timer} {now : UInt64} (h : t.periodic = false) :
    (t.delivered now).enabled = false := by
  unfold delivered
  rw [if_neg (by simp [h])]
  exact t.disable_enabled

lemma toNat_max_sub (now : UInt64) : (U64_MAX - now).toNat = 18446744073709551615 - now.toNat := by
  have hmax : U64_MAX.toNat = 18446744073709551615 := by decide
  have hnow := now.toNat_lt
  rw [UInt64.toNat_sub_of_le _ _ (UInt64.le_iff_toNat_le.mpr (by omega)), hmax]

lemma delivered_deadline {t : Timer} {now : UInt64} (hp : t.periodic = true) (hcount : t.count ≠ 0)
    (hdue : t.deadline ≤ now) : (t.delivered now).deadline = U64_MAX ∨ now < (t.delivered now).deadline ∧
    (t.delivered now).deadline.toNat % t.count.toNat = t.deadline.toNat % t.count.toNat := by
  have hpos : 0 < t.count.toNat := by
    rcases Nat.eq_zero_or_pos t.count.toNat with h0 | h0
    · exact absurd (UInt64.toNat_inj.mp h0) hcount
    · exact h0
  have hle : t.deadline.toNat ≤ now.toNat := UInt64.le_iff_toNat_le.mp hdue
  have hlate : (now - t.deadline).toNat = now.toNat - t.deadline.toNat := UInt64.toNat_sub_of_le _ _ hdue
  have hmod : ((now - t.deadline) % t.count).toNat =
      (now.toNat - t.deadline.toNat) % t.count.toNat := by rw [UInt64.toNat_mod, hlate]
  have hlt := Nat.mod_lt (now.toNat - t.deadline.toNat) hpos
  have hdelta : (t.count - (now - t.deadline) % t.count).toNat =
      t.count.toNat - (now.toNat - t.deadline.toNat) % t.count.toNat := by
    rw [UInt64.toNat_sub_of_le _ _ (UInt64.le_iff_toNat_le.mpr (by omega)), hmod]
  unfold delivered
  rw [if_pos hp]
  dsimp only
  generalize t.count - (now - t.deadline) % t.count = delta at hdelta ⊢
  by_cases hsat : delta > U64_MAX - now
  · exact .inl (if_pos hsat)
  right
  have hroom : delta.toNat ≤ 18446744073709551615 - now.toNat := by
    rw [← toNat_max_sub]
    exact UInt64.le_iff_toNat_le.mp (UInt64.not_lt.mp hsat)
  have hadd : (now + delta).toNat = now.toNat + delta.toNat := by
    rw [UInt64.toNat_add]
    exact Nat.mod_eq_of_lt (by omega)
  rw [if_neg hsat, UInt64.lt_iff_toNat_lt, hadd]
  refine ⟨by omega, ?_⟩
  -- the sum is the deadline and a whole number of periods
  have hdiv := Nat.div_add_mod (now.toNat - t.deadline.toNat) t.count.toNat
  have hsum : now.toNat + delta.toNat = t.deadline.toNat + t.count.toNat *
      ((now.toNat - t.deadline.toNat) / t.count.toNat + 1) := by
    rw [Nat.mul_add, Nat.mul_one]
    omega
  rw [hsum, Nat.add_mul_mod_self_left]

end Timer

/-- What is pending is due, a one-shot timer has fired at most once and is then disabled, and a
periodic one keeps its phase. -/
structure TimerOk (t : Timer) (clock armed : UInt64) (fired : Nat) : Prop where
  due : t.pending = true → t.enabled = true ∧ t.count ≠ 0 ∧ t.deadline ≤ clock
  once : t.periodic = false → fired ≤ 1 ∧ (fired = 1 → t.enabled = false)
  phase : t.periodic = true → t.deadline = U64_MAX ∨
    t.deadline.toNat % t.count.toNat = armed.toNat % t.count.toNat

namespace TimerOk
variable {t : Timer} {clock now armed : UInt64} {fired : Nat}

lemma later (h : TimerOk t clock armed fired) (hle : clock ≤ now) : TimerOk t now armed fired := by
  refine ⟨?_, h.once, h.phase⟩
  intro hp
  obtain ⟨henabled, hcount, hdue⟩ := h.due hp
  exact ⟨henabled, hcount, UInt64.le_trans hdue hle⟩

lemma rearm (t : Timer) (clock now : UInt64) : TimerOk (t.rearm now) clock (t.rearm now).deadline 0 := by
  refine ⟨?_, ?_, fun _ => .inr rfl⟩
  · intro hp
    cases hp
  · intro _
    exact ⟨Nat.zero_le 1, nofun⟩

lemma mark (h : TimerOk t clock armed fired) (hdue : t.due now = true) :
    TimerOk { t with pending := true } now armed fired := by
  simp only [Timer.due, Bool.and_eq_true, decide_eq_true_eq] at hdue
  obtain ⟨⟨⟨henabled, hcount⟩, hle⟩, _⟩ := hdue
  exact ⟨fun _ => ⟨henabled, hcount, hle⟩, h.once, h.phase⟩

lemma delivered (h : TimerOk t clock armed fired) (hle : clock ≤ now)
    (hp : t.pending = true) : TimerOk (t.delivered now) now armed (fired + 1) := by
  obtain ⟨henabled, hcount, hdue⟩ := h.due hp
  refine ⟨?_, ?_, ?_⟩
  · intro hpend
    rw [t.delivered_pending now] at hpend
    cases hpend
  · intro hper
    rw [t.delivered_periodic now] at hper
    obtain ⟨hone, hoff⟩ := h.once hper
    have hzero : fired ≠ 1 := by
      intro hfired
      rw [hoff hfired] at henabled
      cases henabled
    exact ⟨by omega, fun _ => Timer.delivered_enabled hper⟩
  · intro hper
    rw [t.delivered_periodic now] at hper
    have hnow := UInt64.le_trans hdue hle
    rcases Timer.delivered_deadline hper hcount hnow with hmax | ⟨hlate, hphase⟩
    · exact .inl hmax
    rcases h.phase hper with hsat | hsame
    · -- a saturated deadline is never before a later one
      rw [hsat] at hnow
      have hmax := UInt64.le_iff_toNat_le.mp hnow
      have hlt := UInt64.lt_iff_toNat_lt.mp hlate
      have hbound := (t.delivered now).deadline.toNat_lt
      have hval : U64_MAX.toNat = 18446744073709551615 := by decide
      omega
    · rw [t.delivered_count now, hphase, hsame]
      exact .inr rfl

lemma initial (clock : UInt64) : TimerOk {} clock 0 0 := by
  refine ⟨nofun, ?_, ?_⟩
  · intro _
    exact ⟨Nat.zero_le 1, nofun⟩
  · intro h
    exact absurd h (by decide)

end TimerOk

section
variable {hv : Partition} {map : Map} {name : UInt32} {cpu : Nat} {now : UInt64}

lemma setTimer_same (hv : Partition) (cpu i : Nat) (t : Timer) : (hv.setTimer cpu i t).timer cpu i = t := by
  rw [Partition.timer, Partition.setTimer, Partition.setVp]
  dsimp only
  rw [update_self]
  exact update_self ..

lemma setTimer_other {hv : Partition} {cpu i c j : Nat} {t : Timer} (h : ¬ (c = cpu ∧ j = i)) :
    (hv.setTimer cpu i t).timer c j = hv.timer c j := by
  rw [Partition.timer, Partition.setTimer, Partition.setVp]
  dsimp only
  by_cases hc : c = cpu
  · subst hc
    rw [update_self]
    exact update_of_ne (fun hj => h ⟨rfl, hj⟩) ..
  · rw [update_of_ne hc]
    rfl

lemma setTimer_flag (hv : Partition) (cpu i c : Nat) (t : Timer) :
    ((hv.setTimer cpu i t).vp c).timerPending = (hv.vp c).timerPending := by
  rw [Partition.setTimer, Partition.setVp]
  dsimp only
  by_cases hc : c = cpu
  · subst hc
    rw [update_self]
  · rw [update_of_ne hc]

def SameTimers (hv hv' : Partition) : Prop :=
  ∀ c, (hv'.vp c).timers = (hv.vp c).timers ∧ (hv'.vp c).timerPending = (hv.vp c).timerPending

lemma SameTimers.refl (hv : Partition) : SameTimers hv hv := fun _ => ⟨rfl, rfl⟩

lemma sameTimers_setVp {vp : Vp} (ht : vp.timers = (hv.vp cpu).timers)
    (hf : vp.timerPending = (hv.vp cpu).timerPending) : SameTimers hv (hv.setVp cpu vp) := by
  intro c
  rw [Partition.setVp]
  dsimp only
  by_cases hc : c = cpu
  · subst hc
    rw [update_self]
    exact ⟨ht, hf⟩
  · rw [update_of_ne hc]
    exact ⟨rfl, rfl⟩

lemma writeInfoPage_vp (v : UInt64) : (writeInfoPage hv map v).1.vp = hv.vp := by
  unfold writeInfoPage
  split_ifs <;> rfl

lemma writeCommon_vp (v : UInt64) : (writeCommon hv map name v cpu).1.vp = hv.vp := by
  unfold writeCommon
  split_ifs
  all_goals first | exact writeInfoPage_vp v | rfl

variable {v : UInt64}

lemma writeSynthetic_other (hname : timerOf name = none) {r : Partition × Status}
    (hr : writeSynthetic hv map name v cpu now = some r) : SameTimers hv r.1 := by
  have hnot : ¬ (0xb0000 ≤ name ∧ name ≤ 0xb0007) := by
    intro h
    rw [timerOf, if_pos h] at hname
    cases hname
  unfold writeSynthetic at hr
  split_ifs at hr
  all_goals
    cases hr
    first | exact SameTimers.refl hv | exact sameTimers_setVp rfl rfl

lemma writeTimer_cases {i : Nat} (hi : ((name - 0xb0000) / 2).toNat = i) :
    (∃ t, writeTimer hv name v cpu now = (hv.setTimer cpu i (Timer.rearm t now), .success)) ∨
      writeTimer hv name v cpu now = (hv, .invalidParameter) := by
  unfold writeTimer
  rw [hi]
  split
  · split
    · exact .inr rfl
    · exact .inl ⟨_, rfl⟩
  · exact .inl ⟨_, rfl⟩

lemma writeCommon_timer (hname : 0xb0000 ≤ name) : (writeCommon hv map name v cpu).2 ≠ .success := by
  have hne : ∀ k : UInt32, k < 0xb0000 → name ≠ k := by
    intro k hk heq
    subst heq
    exact absurd hname (UInt32.not_le.mpr hk)
  have hcrash : ¬ (0x210 ≤ name ∧ name ≤ 0x214) := by
    rintro ⟨_, hle⟩
    exact absurd (UInt32.le_trans hname hle) (by decide)
  unfold writeCommon
  rw [if_neg hcrash, if_neg (hne _ (by decide)), if_neg (hne _ (by decide)),
    if_neg (hne _ (by decide)), if_neg (hne _ (by decide)), if_pos (hne _ (by decide))]
  nofun

lemma writeRegister_cases (v : Value) : (∃ i t, timerOf name = some i ∧
      writeRegister hv map name v cpu now = (hv.setTimer cpu i (Timer.rearm t now), .success)) ∨
    ((timerOf name = none ∨ (writeRegister hv map name v cpu now).2 ≠ .success) ∧
      SameTimers hv (writeRegister hv map name v cpu now).1) := by
  have hcommon : SameTimers hv (writeCommon hv map name v.low cpu).1 := by
    intro c
    rw [writeCommon_vp]
    exact ⟨rfl, rfl⟩
  unfold writeRegister
  split
  · exact .inr ⟨.inr nofun, SameTimers.refl hv⟩
  split
  · exact .inr ⟨.inr nofun, SameTimers.refl hv⟩
  cases hname : timerOf name with
  | none =>
    refine .inr ⟨.inl rfl, ?_⟩
    split
    · cases hsyn : writeSynthetic hv map name v.low cpu now with
      | none => exact hcommon
      | some => exact writeSynthetic_other hname hsyn
    · exact hcommon
  | some =>
    unfold timerOf at hname
    split_ifs at hname with hrange
    cases hname
    split
    · have hsyn : writeSynthetic hv map name v.low cpu now =
          some (writeTimer hv name v.low cpu now) := by
        unfold writeSynthetic
        rw [if_pos hrange]
      rw [hsyn, Option.getD_some]
      rcases @writeTimer_cases hv name cpu now v.low _ rfl with ⟨t, ht⟩ | hbad
      · rw [ht]
        exact .inl ⟨_, t, rfl, rfl⟩
      · rw [hbad]
        exact .inr ⟨.inr nofun, SameTimers.refl hv⟩
    · exact .inr ⟨.inr (writeCommon_timer hrange.1), hcommon⟩

end

section
variable {map : Map} {cpu : Nat} {now : UInt64} {inject : Nat → UInt32 → Bool}

lemma deliverTimer_vp (hv : Partition) (index : Nat) :
    (deliverTimer hv map cpu index now inject).1.vp = hv.vp := by
  unfold deliverTimer
  dsimp only
  split_ifs <;> rfl

/-- The interrupt of a timer: its own vector if it is direct, else that of its SINT. -/
def vectorMask (hv : Partition) (cpu index : Nat) : UInt32 :=
  1 <<< ((if (hv.timer cpu index).direct then (hv.timer cpu index).config >>> (4 : UInt64)
    else (hv.vp cpu).sint (hv.timer cpu index).sint) &&& (31 : UInt64)).toUInt32

/-- Nothing is in the way of a timer: its vCPU is there, and a timer with a message has its SINT open
and its slot empty. -/
structure Unblocked (hv : Partition) (map : Map) (cpu index : Nat) : Prop where
  kick : (hv.vp cpu).kick = true
  opened : (hv.timer cpu index).direct = false →
    (hv.vp cpu).scontrol &&& (1 : UInt64) ≠ 0 ∧ (hv.vp cpu).simp &&& (1 : UInt64) ≠ 0 ∧
      (hv.vp cpu).sint (hv.timer cpu index).sint &&& SINT_MASKED = 0 ∧
      map (pageOf (hv.vp cpu).simp) HV_PAGE_SIZE = true
  empty : (hv.timer cpu index).direct = false →
    leDec (get hv.mem ((hv.vp cpu).slot (hv.timer cpu index).sint) 4) = 0

lemma deliverTimer_unblocked {hv : Partition} {index : Nat} (h : Unblocked hv map cpu index) :
    (deliverTimer hv map cpu index now inject).2 =
      if inject index (vectorMask hv cpu index) then .delivered else .failed := by
  unfold deliverTimer
  dsimp only
  rw [if_neg (by simp [h.kick])]
  cases hd : (hv.timer cpu index).direct with
  | true =>
    rw [if_pos rfl, vectorMask, if_pos hd]
    split <;> rfl
  | false =>
    obtain ⟨hscontrol, hsimp, hsint, hmap⟩ := h.opened hd
    rw [if_neg (by simp), if_neg (by simp [hscontrol, hsimp, hsint]), if_neg (by simp [hmap]),
      if_neg (by simp [h.empty hd])]
    simp only [vectorMask, hd, Bool.false_eq_true, if_false]
    split <;> rfl

lemma deliverTimer_injects {hv : Partition} {index : Nat} :
    ((deliverTimer hv map cpu index now inject).2 = .delivered → Unblocked hv map cpu index ∧
      inject index (vectorMask hv cpu index) = true) ∧
    ((deliverTimer hv map cpu index now inject).2 = .failed →
      inject index (vectorMask hv cpu index) = false) := by
  by_cases hopen : Unblocked hv map cpu index
  · rw [deliverTimer_unblocked hopen]
    split
    · next hinj => exact ⟨fun _ => ⟨hopen, hinj⟩, nofun⟩
    · next hinj => exact ⟨nofun, fun _ => by simpa using hinj⟩
  · -- Something is in the way, so the attempt ends before the injection.
    have hends : (deliverTimer hv map cpu index now inject).2 = .noVp ∨
        (deliverTimer hv map cpu index now inject).2 = .closed ∨
        (deliverTimer hv map cpu index now inject).2 = .busy := by
      unfold deliverTimer
      dsimp only
      by_cases hkick : (hv.vp cpu).kick = true
      · rw [if_neg (by simp [hkick])]
        cases hd : (hv.timer cpu index).direct with
        | true => exact absurd ⟨hkick, by simp [hd], by simp [hd]⟩ hopen
        | false =>
          rw [if_neg (by simp)]
          split_ifs with hclosed hmap hbusy
          · exact .inr (.inl rfl)
          · exact .inr (.inl rfl)
          · exact .inr (.inr rfl)
          all_goals
            simp only [not_or] at hclosed
            exact absurd ⟨hkick, fun _ => ⟨hclosed.1, hclosed.2.1, not_not.mp hclosed.2.2,
              by simpa using hmap⟩, fun _ => not_not.mp hbusy⟩ hopen
      · rw [if_pos (by simpa using hkick)]
        exact .inl rfl
    rcases hends with h | h | h <;> rw [h] <;> exact ⟨nofun, nofun⟩

lemma timerMessage_length (index : Nat) (deadline now : UInt64) :
    (timerMessage index deadline now).length = 256 := by
  simp only [timerMessage, length_append, length_replicate, length_cons, length_nil, leEnc_length]

/-- An attempt stores only in the slot of a timer with a message. -/
lemma deliverTimer_mem (hv : Partition) (index a : Nat)
    (h : (hv.timer cpu index).direct = true ∨ a < (hv.vp cpu).slot (hv.timer cpu index).sint ∨
      (hv.vp cpu).slot (hv.timer cpu index).sint + 256 ≤ a) :
    (deliverTimer hv map cpu index now inject).1.mem a = hv.mem a := by
  unfold deliverTimer
  dsimp only
  split_ifs with hkick hdirect hinj hclosed hmap hbusy hinj
  · rfl
  · rfl
  · rfl
  · rfl
  · rfl
  · have hout := h.resolve_left hdirect
    exact put_outside (by simp only [length_singleton]; omega)
  · have hout := h.resolve_left hdirect
    exact put_outside (by rw [timerMessage_length]; omega)
  · rfl

/-- What an attempt for timer `j` leaves to the others of its vCPU. -/
structure Aside (cpu j : Nat) (hv hv' : Partition) : Prop where
  timer : ∀ k, k ≠ j → hv'.timer cpu k = hv.timer cpu k
  vp : ∃ timers, hv'.vp cpu = { hv.vp cpu with timers }
  mem : ∀ a, (hv.timer cpu j).direct = true ∨ a < (hv.vp cpu).slot (hv.timer cpu j).sint ∨
    (hv.vp cpu).slot (hv.timer cpu j).sint + 256 ≤ a → hv'.mem a = hv.mem a

lemma aside_attempt (hv : Partition) (j : Nat) :
    Aside cpu j hv (deliverTimer hv map cpu j now inject).1 := by
  have hvp := @deliverTimer_vp map cpu now inject hv j
  refine ⟨fun k _ => ?_, ⟨(hv.vp cpu).timers, by rw [hvp]⟩, fun a => deliverTimer_mem hv j a⟩
  rw [Partition.timer, hvp, Partition.timer]

lemma Aside.setTimer {hv hv' : Partition} {j : Nat} (h : Aside cpu j hv hv') (t : Timer) :
    Aside cpu j hv (hv'.setTimer cpu j t) := by
  obtain ⟨timers, hvp⟩ := h.vp
  refine ⟨fun k hk => ?_, ⟨update timers j t, ?_⟩, h.mem⟩
  · rw [setTimer_other fun hkj => hk hkj.2, h.timer k hk]
  · rw [Partition.setTimer, Partition.setVp]
    dsimp only
    rw [update_self, hvp]

section
variable {hv hv' : Partition} {j k : Nat} (h : Aside cpu j hv hv') (hk : k ≠ j)
include h hk

lemma Aside.vectorMask : vectorMask hv' cpu k = vectorMask hv cpu k := by
  obtain ⟨timers, hvp⟩ := h.vp
  unfold Hyperv.vectorMask
  rw [h.timer k hk, hvp]

lemma Aside.unblocked (hopen : Unblocked hv map cpu k)
    (hslot : (hv.timer cpu k).direct = false → (hv.timer cpu j).direct = false →
      (hv.timer cpu j).sint ≠ (hv.timer cpu k).sint) : Unblocked hv' map cpu k := by
  obtain ⟨timers, hvp⟩ := h.vp
  have htimer := h.timer k hk
  refine ⟨by rw [hvp]; exact hopen.kick, ?_, ?_⟩
  · rw [htimer, hvp]
    exact hopen.opened
  · rw [htimer, hvp]
    intro hmsg
    have hempty := hopen.empty hmsg
    rw [← hempty]
    congr 1
    refine get_congr fun a hlow hhigh => h.mem a ?_
    cases hd : (hv.timer cpu j).direct with
    | true => exact .inl rfl
    | false =>
      have hne := hslot hmsg hd
      simp only [Vp.slot] at hlow hhigh ⊢
      omega

end

/-- A pending timer is delivered with its own vector if nothing is in its way, the injections succeed
and no timer before it takes its slot. -/
lemma processFrom_delivers {is : List Nat} (hsorted : is.Pairwise (· < ·)) {hv : Partition} {i : Nat}
    (hi : i ∈ is) (hp : (hv.timer cpu i).pending = true) (hopen : Unblocked hv map cpu i)
    (hinj : ∀ j ∈ is, j ≤ i → inject j (vectorMask hv cpu j) = true)
    (hfirst : ∀ j ∈ is, j < i → (hv.timer cpu j).pending = true → (hv.timer cpu i).direct = false →
      (hv.timer cpu j).direct = false → (hv.timer cpu j).sint ≠ (hv.timer cpu i).sint) :
    (i, Outcome.delivered) ∈ (processFrom map cpu now inject is hv).2 := by
  induction is generalizing hv with
  | nil => cases hi
  | cons j rest ih =>
    obtain ⟨hlt, hrest⟩ := pairwise_cons.mp hsorted
    rw [processFrom]
    rcases mem_cons.mp hi with rfl | hi'
    · rw [if_neg (by simp [hp])]
      dsimp only
      rw [deliverTimer_unblocked hopen, if_pos (hinj i mem_cons_self le_rfl)]
      exact mem_cons_self
    have hji := hlt i hi'
    -- The rest of the loop starts from a partition in which only timer `j` and its slot differ.
    have hnext : ∀ hv', Aside cpu j hv hv' → (hv.timer cpu j).pending = true →
        (i, Outcome.delivered) ∈ (processFrom map cpu now inject rest hv').2 := by
      intro hv' haside hpj
      have hne : ∀ k ∈ rest, k ≠ j := fun k hk => (hlt k hk).ne'
      refine ih hrest hi' ?_ ?_ ?_ ?_
      · rw [haside.timer i hji.ne']
        exact hp
      · exact haside.unblocked hji.ne' hopen (hfirst j mem_cons_self hji hpj)
      · intro k hk hki
        rw [haside.vectorMask (hne k hk)]
        exact hinj k (mem_cons_of_mem _ hk) hki
      · intro k hk hki
        rw [haside.timer k (hne k hk), haside.timer i hji.ne']
        exact hfirst k (mem_cons_of_mem _ hk) hki
    by_cases hpj : (hv.timer cpu j).pending = true
    · rw [if_neg (by simp [hpj])]
      dsimp only
      have hatt := @aside_attempt map cpu now inject hv j
      cases ho : (deliverTimer hv map cpu j now inject).2 with
      | failed =>
        have hbad := deliverTimer_injects.2 ho
        rw [hinj j mem_cons_self hji.le] at hbad
        cases hbad
      | delivered => exact mem_cons_of_mem _ (hnext _ (hatt.setTimer _) hpj)
      | noVp | closed | busy => exact mem_cons_of_mem _ (hnext _ hatt hpj)
    · rw [if_pos (by simpa using hpj)]
      exact ih hrest hi' hp hopen (fun k hk => hinj k (mem_cons_of_mem _ hk))
        fun k hk => hfirst k (mem_cons_of_mem _ hk)

instance lawfulAttempt : LawfulBEq (Nat × Outcome) := inferInstance

/-- The vCPU's state after the attempts: the delivered timers have moved on. -/
def afterAttempts (vp : Vp) (now : UInt64) (log : List (Nat × Outcome)) : Vp :=
  { vp with timers := fun j => if (j, Outcome.delivered) ∈ log then (vp.timers j).delivered now
      else vp.timers j }

/-- What the loop does: its attempts are for pending timers, the timers delivered move on, and
unless an injection fails every pending timer is attempted. -/
structure Processed (cpu : Nat) (now : UInt64) (is : List Nat) (hv : Partition)
    (r : Partition × List (Nat × Outcome)) : Prop where
  vp : r.1.vp = update hv.vp cpu (afterAttempts (hv.vp cpu) now r.2)
  log : ∀ p ∈ r.2, p.1 ∈ is ∧ (hv.timer cpu p.1).pending = true
  all : ∀ i ∈ is, (hv.timer cpu i).pending = true →
    (∃ o, (i, o) ∈ r.2) ∨ ∃ j, (j, Outcome.failed) ∈ r.2

lemma processFrom_nil (hv : Partition) : Processed cpu now [] hv (hv, []) := by
  refine ⟨?_, nofun, nofun⟩
  have hnone : afterAttempts (hv.vp cpu) now [] = hv.vp cpu := by simp [afterAttempts]
  rw [hnone, update_eq_self]

variable {hv : Partition} {i : Nat} {rest : List Nat} {hv' : Partition}
  {r : Partition × List (Nat × Outcome)} {o : Outcome}

lemma Processed.skip (hvp : hv'.vp = hv.vp) (hr : Processed cpu now rest hv' r)
    (hp : (hv.timer cpu i).pending = true) (ho : o ≠ .delivered) :
    Processed cpu now (i :: rest) hv (r.1, (i, o) :: r.2) := by
  have htimer : ∀ j, hv'.timer cpu j = hv.timer cpu j := by
    intro j
    rw [Partition.timer, hvp]
    rfl
  have hmem : ∀ j, (j, Outcome.delivered) ∈ (i, o) :: r.2 ↔ (j, Outcome.delivered) ∈ r.2 := by
    intro j
    rw [mem_cons]
    constructor
    · rintro (heq | h)
      · exact absurd (Prod.mk.inj heq).2.symm ho
      · exact h
    · exact .inr
  constructor
  · rw [hr.vp, hvp]
    unfold afterAttempts
    simp only [hmem]
  · intro p hmem
    rcases mem_cons.mp hmem with rfl | hmem
    · exact ⟨mem_cons_self, hp⟩
    · obtain ⟨hin, hpend⟩ := hr.log p hmem
      exact ⟨mem_cons_of_mem _ hin, htimer p.1 ▸ hpend⟩
  · intro j hj hpend
    rcases mem_cons.mp hj with rfl | hj
    · exact .inl ⟨o, mem_cons_self⟩
    rcases hr.all j hj (by rw [htimer]; exact hpend) with ⟨o', ho'⟩ | ⟨k, hk⟩
    · exact .inl ⟨o', mem_cons_of_mem _ ho'⟩
    · exact .inr ⟨k, mem_cons_of_mem _ hk⟩

lemma Processed.deliver (hnot : i ∉ rest) (hvp : hv'.vp = hv.vp)
    (hr : Processed cpu now rest (hv'.setTimer cpu i ((hv'.timer cpu i).delivered now)) r)
    (hp : (hv.timer cpu i).pending = true) :
    Processed cpu now (i :: rest) hv (r.1, (i, .delivered) :: r.2) := by
  have htimer : hv'.timer cpu i = hv.timer cpu i := by
    rw [Partition.timer, hvp]
    rfl
  have hother : ∀ j, j ≠ i →
      (hv'.setTimer cpu i ((hv'.timer cpu i).delivered now)).timer cpu j = hv.timer cpu j := by
    intro j hj
    rw [setTimer_other fun h => hj h.2, Partition.timer, hvp]
    rfl
  have hnone : (i, Outcome.delivered) ∉ r.2 := fun h => hnot (hr.log _ h).1
  constructor
  · rw [hr.vp, htimer, Partition.setTimer, Partition.setVp, hvp]
    dsimp only
    rw [update_self, update_idem]
    congr 1
    unfold afterAttempts
    congr 1
    funext j
    dsimp only
    by_cases hj : j = i
    · subst hj
      rw [if_neg hnone, if_pos mem_cons_self, update_self]
      rfl
    rw [update_of_ne hj]
    have hmem : (j, Outcome.delivered) ∈ (i, Outcome.delivered) :: r.2 ↔
        (j, Outcome.delivered) ∈ r.2 := by
      rw [mem_cons]
      constructor
      · rintro (heq | h)
        · exact absurd (Prod.mk.inj heq).1 hj
        · exact h
      · exact .inr
    simp only [hmem]
  · intro p hmem
    rcases mem_cons.mp hmem with rfl | hmem
    · exact ⟨mem_cons_self, hp⟩
    obtain ⟨hin, hpend⟩ := hr.log p hmem
    have hne : p.1 ≠ i := fun h => hnot (h ▸ hin)
    rw [hother p.1 hne] at hpend
    exact ⟨mem_cons_of_mem _ hin, hpend⟩
  · intro j hj hpend
    rcases mem_cons.mp hj with rfl | hj
    · exact .inl ⟨.delivered, mem_cons_self⟩
    have hne : j ≠ i := fun h => hnot (h ▸ hj)
    rcases hr.all j hj (by rw [hother j hne]; exact hpend) with ⟨o', ho'⟩ | ⟨k, hk⟩
    · exact .inl ⟨o', mem_cons_of_mem _ ho'⟩
    · exact .inr ⟨k, mem_cons_of_mem _ hk⟩

lemma processFrom_spec {is : List Nat} (hnodup : is.Nodup) (hv : Partition) :
    Processed cpu now is hv (processFrom map cpu now inject is hv) := by
  induction is generalizing hv with
  | nil => exact processFrom_nil hv
  | cons i rest ih =>
    obtain ⟨hnot, hrest⟩ := nodup_cons.mp hnodup
    have hvp := @deliverTimer_vp map cpu now inject hv i
    rw [processFrom]
    by_cases hp : (hv.timer cpu i).pending = true
    · rw [if_neg (by simp [hp])]
      dsimp only
      cases ho : (deliverTimer hv map cpu i now inject).2 with
      | failed =>
        have hstop : Processed cpu now [] (deliverTimer hv map cpu i now inject).1
            ((deliverTimer hv map cpu i now inject).1, []) := processFrom_nil _
        have hone := hstop.skip hvp hp (show Outcome.failed ≠ .delivered from nofun)
        refine ⟨hone.vp, ?_, fun _ _ _ => .inr ⟨i, mem_cons_self⟩⟩
        intro p hmem
        obtain ⟨hin, hpend⟩ := hone.log p hmem
        rw [mem_singleton.mp hin] at hpend ⊢
        exact ⟨mem_cons_self, hpend⟩
      | delivered => exact (ih hrest _).deliver hnot hvp hp
      | noVp | closed | busy => exact (ih hrest _).skip hvp hp nofun
    · rw [if_pos (by simpa using hp)]
      have hr := ih hrest hv
      refine ⟨hr.vp, ?_, ?_⟩
      · intro p hmem
        obtain ⟨hin, hpend⟩ := hr.log p hmem
        exact ⟨mem_cons_of_mem _ hin, hpend⟩
      · intro j hj hpend
        rcases mem_cons.mp hj with rfl | hj
        · exact absurd hpend hp
        · exact hr.all j hj hpend

lemma processTimers_spec (hv : Partition) :
    Processed cpu now [0, 1, 2, 3] hv (processFrom map cpu now inject [0, 1, 2, 3] hv) :=
  processFrom_spec (by decide) hv

lemma processTimers_timer (hv : Partition) (c j : Nat) :
    (processTimers hv map cpu now inject).1.timer c j =
      if c = cpu ∧ (j, Outcome.delivered) ∈ (processTimers hv map cpu now inject).2 then
        (hv.timer c j).delivered now else hv.timer c j := by
  have hvp := (@processTimers_spec map cpu now inject hv).vp
  unfold processTimers Partition.timer Partition.setVp
  dsimp only
  by_cases hc : c = cpu
  · subst hc
    rw [update_self]
    rw [hvp, update_self]
    simp only [afterAttempts, true_and]
  · rw [update_of_ne hc, hvp, update_of_ne hc, if_neg fun h => hc h.1]

lemma processTimers_other {c : Nat} (hc : c ≠ cpu) :
    (processTimers hv map cpu now inject).1.vp c = hv.vp c := by
  have hvp := (@processTimers_spec map cpu now inject hv).vp
  unfold processTimers Partition.setVp
  dsimp only
  rw [update_of_ne hc, hvp, update_of_ne hc]

lemma processTimers_flag (hi : i < 4)
    (hp : ((processTimers hv map cpu now inject).1.timer cpu i).pending = true) :
    ((processTimers hv map cpu now inject).1.vp cpu).timerPending = true := by
  unfold processTimers Partition.setVp Partition.timer at hp ⊢
  dsimp only at hp ⊢
  rw [update_self] at hp ⊢
  rw [any_eq_true]
  refine ⟨i, ?_, hp⟩
  simp only [mem_cons, not_mem_nil, or_false]
  omega

lemma processTimers_log (h : (i, o) ∈ (processTimers hv map cpu now inject).2) :
    i ∈ [0, 1, 2, 3] ∧ (hv.timer cpu i).pending = true :=
  (@processTimers_spec map cpu now inject hv).log (i, o) h

lemma processTimers_all (hi : i < 4) (hp : (hv.timer cpu i).pending = true) :
    (∃ o, (i, o) ∈ (processTimers hv map cpu now inject).2) ∨
      ∃ j, (j, Outcome.failed) ∈ (processTimers hv map cpu now inject).2 := by
  refine (@processTimers_spec map cpu now inject hv).all i ?_ hp
  simp only [mem_cons, not_mem_nil, or_false]
  omega

end

namespace World

/-- Every timer has its invariant, and a pending one has its vCPU's flag set. -/
structure Inv (w : World) : Prop where
  timer : ∀ c i, TimerOk (w.hv.timer c i) w.clock (w.armed c i) (w.fired c i)
  flag : ∀ c i, (w.hv.timer c i).pending = true → i < 4 ∧ (w.hv.vp c).timerPending = true

namespace Inv
variable {w : World} {map : Map} {now : UInt64}

lemma write (h : w.Inv) (hle : w.clock ≤ now) (cpu : Nat) (name : UInt32) (v : Value) :
    (w.write map cpu name v now).Inv := by
  rcases @writeRegister_cases w.hv map name cpu now v with ⟨i, t, hname, hr⟩ | ⟨hno, hsame⟩
  · constructor
    · intro c j
      unfold World.write
      dsimp only
      rw [hr, hname]
      by_cases hcj : c = cpu ∧ j = i
      · obtain ⟨rfl, rfl⟩ := hcj
        rw [if_pos ⟨rfl, rfl, rfl⟩, if_pos ⟨rfl, rfl, rfl⟩, setTimer_same]
        exact TimerOk.rearm t now now
      · have hne : ¬ (c = cpu ∧ some i = some j ∧ Status.success = .success) :=
          fun h => hcj ⟨h.1, (Option.some.inj h.2.1).symm⟩
        rw [if_neg hne, if_neg hne, setTimer_other hcj]
        exact (h.timer c j).later hle
    · intro c j
      unfold World.write
      rw [hr]
      rw [setTimer_flag]
      by_cases hcj : c = cpu ∧ j = i
      · obtain ⟨rfl, rfl⟩ := hcj
        rw [setTimer_same, Timer.rearm_pending]
        nofun
      · rw [setTimer_other hcj]
        exact h.flag c j
  · have htimer : ∀ c j, (writeRegister w.hv map name v cpu now).1.timer c j = w.hv.timer c j := by
      intro c j
      rw [Partition.timer, (hsame c).1]
      rfl
    constructor
    · intro c j
      have hne : ¬ (c = cpu ∧ timerOf name = some j ∧
          (writeRegister w.hv map name v cpu now).2 = .success) := by
        rintro ⟨_, hname, hok⟩
        rcases hno with hnone | hbad
        · rw [hname] at hnone
          cases hnone
        · exact hbad hok
      unfold World.write
      dsimp only
      rw [if_neg hne, if_neg hne, htimer]
      exact (h.timer c j).later hle
    · intro c j
      show ((writeRegister w.hv map name v cpu now).1.timer c j).pending = true →
        j < 4 ∧ ((writeRegister w.hv map name v cpu now).1.vp c).timerPending = true
      rw [htimer, (hsame c).2]
      exact h.flag c j

lemma worker (h : w.Inv) (hle : w.clock ≤ now) :
    ({ w with hv := workerPass w.hv now, clock := now } : World).Inv := by
  have hvp : ∀ c, (workerPass w.hv now).vp c =
      if c < 64 then (w.hv.vp c).expire now else w.hv.vp c := fun _ => rfl
  constructor
  · intro c i
    rw [Partition.timer, hvp]
    split_ifs with hc
    · show TimerOk (if i < 4 ∧ (w.hv.timer c i).due now = true then
        { w.hv.timer c i with pending := true } else w.hv.timer c i) now _ _
      split_ifs with hdue
      · exact (h.timer c i).mark hdue.2
      · exact (h.timer c i).later hle
    · exact (h.timer c i).later hle
  · intro c i
    rw [Partition.timer, hvp]
    split_ifs with hc
    · show (if i < 4 ∧ (w.hv.timer c i).due now = true then
        { w.hv.timer c i with pending := true } else w.hv.timer c i).pending = true →
        i < 4 ∧ ((w.hv.vp c).timerPending ||
          [0, 1, 2, 3].any fun i => ((w.hv.vp c).timers i).due now) = true
      split_ifs with hdue
      · intro _
        refine ⟨hdue.1, ?_⟩
        rw [Bool.or_eq_true, any_eq_true]
        refine .inr ⟨i, ?_, hdue.2⟩
        simp only [mem_cons, not_mem_nil, or_false]
        omega
      · intro hp
        obtain ⟨hi, hflag⟩ := h.flag c i hp
        rw [hflag]
        exact ⟨hi, rfl⟩
    · exact h.flag c i

lemma process (h : w.Inv) (hle : w.clock ≤ now) (cpu : Nat) (inject : Nat → UInt32 → Bool) :
    (w.process map cpu inject now).Inv := by
  have htimer := @processTimers_timer map cpu now inject w.hv
  constructor
  · intro c i
    show TimerOk ((processTimers w.hv map cpu now inject).1.timer c i) now (w.armed c i)
      (if c = cpu ∧ (i, Outcome.delivered) ∈ (processTimers w.hv map cpu now inject).2 then
        w.fired c i + 1 else w.fired c i)
    rw [htimer]
    split_ifs with hdel
    · obtain ⟨rfl, hlog⟩ := hdel
      exact (h.timer c i).delivered hle (processTimers_log hlog).2
    · exact (h.timer c i).later hle
  · intro c i hp
    have hpend : ((processTimers w.hv map cpu now inject).1.timer c i).pending = true := hp
    have hold : (w.hv.timer c i).pending = true := by
      rw [htimer] at hpend
      split_ifs at hpend with hdel
      · rw [Timer.delivered_pending] at hpend
        cases hpend
      · exact hpend
    obtain ⟨hi, hflag⟩ := h.flag c i hold
    refine ⟨hi, ?_⟩
    show ((processTimers w.hv map cpu now inject).1.vp c).timerPending = true
    by_cases hc : c = cpu
    · subst hc
      exact processTimers_flag hi hpend
    · rw [processTimers_other hc]
      exact hflag

lemma step {w' : World} {e : Act} (h : w.Inv) (hstep : Step map w e w') : w'.Inv := by
  cases hstep with
  | write hle => exact h.write hle _ _ _
  | worker hle => exact h.worker hle
  | process hle => exact h.process hle _ _
  | guest => exact ⟨h.timer, h.flag⟩
  | setVp cpu kick =>
    have hsame : SameTimers w.hv (setKick w.hv cpu kick) := sameTimers_setVp rfl rfl
    constructor
    · intro c i
      rw [Partition.timer, (hsame c).1]
      exact h.timer c i
    · intro c i
      rw [Partition.timer, (hsame c).1, (hsame c).2]
      exact h.flag c i
  | reset => exact ⟨fun c i => TimerOk.initial w.clock, nofun⟩

end Inv

/-- What an attempt does to the message slots: a message is stored after its interrupt was
injected, into a slot whose type word is zero; a busy slot gets its message-pending flag. -/
structure SlotRule (hv : Partition) (map : Map) (cpu index : Nat) (now : UInt64)
    (inject : Nat → UInt32 → Bool) : Prop where
  stored : (deliverTimer hv map cpu index now inject).1.mem = hv.mem ∨
    (deliverTimer hv map cpu index now inject).2 = .busy ∨
    ((deliverTimer hv map cpu index now inject).2 = .delivered ∧
      leDec (get hv.mem ((hv.vp cpu).slot (hv.timer cpu index).sint) 4) = 0 ∧
      (deliverTimer hv map cpu index now inject).1.mem =
        put hv.mem ((hv.vp cpu).slot (hv.timer cpu index).sint)
          (timerMessage index (hv.timer cpu index).deadline now))
  injected : (deliverTimer hv map cpu index now inject).2 = .delivered →
    Unblocked hv map cpu index ∧ inject index (vectorMask hv cpu index) = true
  busy : (deliverTimer hv map cpu index now inject).2 = .busy →
    leDec (get hv.mem ((hv.vp cpu).slot (hv.timer cpu index).sint) 4) ≠ 0 ∧
    (deliverTimer hv map cpu index now inject).1.mem =
      put hv.mem ((hv.vp cpu).slot (hv.timer cpu index).sint + 5)
        [hv.mem ((hv.vp cpu).slot (hv.timer cpu index).sint + 5) ||| 1]

lemma slotRule (hv : Partition) (map : Map) (cpu index : Nat) (now : UInt64)
    (inject : Nat → UInt32 → Bool) : SlotRule hv map cpu index now inject := by
  constructor
  · unfold deliverTimer
    dsimp only
    split_ifs with hkick hdirect hinj hclosed hmap hbusy hinj
    all_goals first
      | exact .inl rfl
      | exact .inr (.inl rfl)
      | exact .inr (.inr ⟨rfl, not_not.mp hbusy, rfl⟩)
  · exact deliverTimer_injects.1
  · unfold deliverTimer
    dsimp only
    split_ifs with hkick hdirect hinj hclosed hmap hbusy hinj
    all_goals intro h
    all_goals first
      | exact ⟨hbusy, rfl⟩
      | cases h

/-- What ends a pending expiry: the delivery of the timer, a write to it or a reset. -/
inductive Ends (map : Map) (w : World) (c i : Nat) : Act → Prop where
  | delivered {inject : Nat → UInt32 → Bool} (now : UInt64) :
      (i, Outcome.delivered) ∈ (processTimers w.hv map c now inject).2 → Ends map w c i (.process c inject)
  | written {name : UInt32} (v : Value) : timerOf name = some i → Ends map w c i (.write c name v)
  | reset : Ends map w c i .reset

/-- The timers when the lock is free. What is pending is due and flagged; a one-shot timer fires
at most once; a delivery is not before the deadline, and a periodic deadline keeps its phase unless
it saturates. A worker's pass marks what is due, it stays so until it is delivered, written or reset,
pending timers are attempted up to a failed injection, and one that nothing blocks is delivered. A
write or a reset drops an expiry. -/
structure AsArmed (map : Map) (w : World) : Prop where
  pending_due : ∀ c i, (w.hv.timer c i).pending = true →
    (w.hv.timer c i).enabled = true ∧ (w.hv.timer c i).count ≠ 0 ∧
      (w.hv.timer c i).deadline ≤ w.clock ∧ (w.hv.vp c).timerPending = true
  once : ∀ c i, (w.hv.timer c i).periodic = false → w.fired c i ≤ 1
  delivery : ∀ cpu inject now i, w.clock ≤ now →
    (i, Outcome.delivered) ∈ (processTimers w.hv map cpu now inject).2 →
    (w.process map cpu inject now).fired cpu i = w.fired cpu i + 1 ∧
    (w.hv.timer cpu i).deadline ≤ now ∧
    ((w.hv.timer cpu i).periodic = true →
      ((w.process map cpu inject now).hv.timer cpu i).deadline = U64_MAX ∨
      now < ((w.process map cpu inject now).hv.timer cpu i).deadline ∧
        ((w.process map cpu inject now).hv.timer cpu i).deadline.toNat %
            (w.hv.timer cpu i).count.toNat =
          (w.armed cpu i).toNat % (w.hv.timer cpu i).count.toNat)
  marked : ∀ now c i, c < 64 → i < 4 → (w.hv.timer c i).enabled = true →
    (w.hv.timer c i).count ≠ 0 → (w.hv.timer c i).deadline ≤ now →
    ((workerPass w.hv now).timer c i).pending = true ∧
      ((workerPass w.hv now).vp c).timerPending = true
  persists : ∀ e w' c i, Step map w e w' → (w.hv.timer c i).pending = true →
    (w'.hv.timer c i).pending = true ∨ Ends map w c i e
  unblocked : ∀ cpu inject now i, i < 4 → (w.hv.timer cpu i).pending = true →
    Unblocked w.hv map cpu i → (∀ j ≤ i, inject j (vectorMask w.hv cpu j) = true) →
    (∀ j < i, (w.hv.timer cpu j).pending = true → (w.hv.timer cpu i).direct = false →
      (w.hv.timer cpu j).direct = false → (w.hv.timer cpu j).sint ≠ (w.hv.timer cpu i).sint) →
    (i, Outcome.delivered) ∈ (processTimers w.hv map cpu now inject).2
  attempted : ∀ cpu inject now i, i < 4 → (w.hv.timer cpu i).pending = true →
    (∃ o, (i, o) ∈ (processTimers w.hv map cpu now inject).2) ∨
      ∃ j, (j, Outcome.failed) ∈ (processTimers w.hv map cpu now inject).2
  cancelled : ∀ cpu name v now i, timerOf name = some i →
    (writeRegister w.hv map name v cpu now).2 = .success →
    ((writeRegister w.hv map name v cpu now).1.timer cpu i).pending = false
  reset : ∀ c i, ((resetPartition w.hv).timer c i).pending = false
  slots : ∀ cpu index now inject, SlotRule w.hv map cpu index now inject

lemma workerPass_marks (hv : Partition) {now : UInt64} {c i : Nat} (hc : c < 64) (hi : i < 4)
    (henabled : (hv.timer c i).enabled = true) (hcount : (hv.timer c i).count ≠ 0)
    (hdue : (hv.timer c i).deadline ≤ now)
    (hflag : (hv.timer c i).pending = true → (hv.vp c).timerPending = true) :
    ((workerPass hv now).timer c i).pending = true ∧ ((workerPass hv now).vp c).timerPending = true := by
  have hvp : (workerPass hv now).vp c = (hv.vp c).expire now := if_pos hc
  rw [Partition.timer, hvp]
  change (if i < 4 ∧ (hv.timer c i).due now = true then { hv.timer c i with pending := true }
      else hv.timer c i).pending = true ∧
    ((hv.vp c).timerPending || [0, 1, 2, 3].any fun i => ((hv.vp c).timers i).due now) = true
  rw [Bool.or_eq_true, any_eq_true]
  cases hp : (hv.timer c i).pending with
  | true =>
    refine ⟨?_, .inl (hflag hp)⟩
    split
    · rfl
    · exact hp
  | false =>
    have hmark : (hv.timer c i).due now = true := by simp [Timer.due, henabled, hcount, hdue, hp]
    refine ⟨by rw [if_pos ⟨hi, hmark⟩], .inr ⟨i, ?_, hmark⟩⟩
    simp only [mem_cons, not_mem_nil, or_false]
    omega

lemma pending_persists {map : Map} {w w' : World} {e : Act} {c i : Nat} (hstep : Step map w e w')
    (hp : (w.hv.timer c i).pending = true) :
    (w'.hv.timer c i).pending = true ∨ Ends map w c i e := by
  cases hstep with
  | @write now cpu name v hle =>
    rcases @writeRegister_cases w.hv map name cpu now v with ⟨j, t, hname, hr⟩ | ⟨-, hsame⟩
    · by_cases hcj : c = cpu ∧ i = j
      · obtain ⟨rfl, rfl⟩ := hcj
        exact .inr (.written v hname)
      · refine .inl ?_
        unfold World.write
        dsimp only
        rw [hr, setTimer_other hcj]
        exact hp
    · refine .inl ?_
      unfold World.write
      dsimp only
      rw [Partition.timer, (hsame c).1]
      exact hp
  | @worker now hle =>
    refine .inl ?_
    change ((if c < 64 then (w.hv.vp c).expire now else w.hv.vp c).timers i).pending = true
    split
    · change (if i < 4 ∧ (w.hv.timer c i).due now = true then
        { w.hv.timer c i with pending := true } else w.hv.timer c i).pending = true
      split
      · rfl
      · exact hp
    · exact hp
  | @process now cpu inject hle =>
    have htimer : (w.process map cpu inject now).hv.timer c i = _ := processTimers_timer w.hv c i
    rw [htimer]
    split
    · next hdel =>
      obtain ⟨rfl, hlog⟩ := hdel
      exact .inr (.delivered now hlog)
    · exact .inl hp
  | guest => exact .inl hp
  | setVp cpu kick =>
    have hsame : SameTimers w.hv (setKick w.hv cpu kick) := sameTimers_setVp rfl rfl
    refine .inl ?_
    rw [Partition.timer, (hsame c).1]
    exact hp
  | reset => exact .inr .reset

lemma Inv.asArmed {map : Map} {w : World} (h : w.Inv) : w.AsArmed map where
  pending_due := by
    intro c i hp
    obtain ⟨henabled, hcount, hdue⟩ := (h.timer c i).due hp
    exact ⟨henabled, hcount, hdue, (h.flag c i hp).2⟩
  once := fun c i hper => ((h.timer c i).once hper).1
  delivery := by
    intro cpu inject now i hle hlog
    have hp := (processTimers_log hlog).2
    obtain ⟨_, hcount, hdue⟩ := (h.timer cpu i).due hp
    have hnow := UInt64.le_trans hdue hle
    refine ⟨if_pos ⟨rfl, hlog⟩, hnow, ?_⟩
    intro hper
    have htimer : (w.process map cpu inject now).hv.timer cpu i =
        (w.hv.timer cpu i).delivered now := by
      refine Eq.trans (processTimers_timer w.hv cpu i) ?_
      exact if_pos ⟨rfl, hlog⟩
    have hphase := ((h.timer cpu i).delivered hle hp).phase
    rw [(w.hv.timer cpu i).delivered_periodic now, (w.hv.timer cpu i).delivered_count now] at hphase
    rw [htimer]
    rcases hphase hper with hmax | hsame
    · exact .inl hmax
    rcases Timer.delivered_deadline hper hcount hnow with hmax | ⟨hlate, _⟩
    · exact .inl hmax
    · exact .inr ⟨hlate, hsame⟩
  marked := fun now c i hc hi henabled hcount hdue =>
    workerPass_marks w.hv hc hi henabled hcount hdue fun hp => (h.flag c i hp).2
  persists := fun _ _ _ _ hstep hp => pending_persists hstep hp
  unblocked := by
    intro cpu inject now i hi hp hopen hinj hfirst
    refine processFrom_delivers (by decide) ?_ hp hopen (fun j _ => hinj j) fun j _ => hfirst j
    simp only [mem_cons, not_mem_nil, or_false]
    omega
  attempted := fun _ _ _ _ hi hp => processTimers_all hi hp
  cancelled := by
    intro cpu name v now i hname hok
    rcases @writeRegister_cases w.hv map name cpu now v with ⟨j, t, hj, hr⟩ | ⟨hno, _⟩
    · rw [hname] at hj
      obtain rfl := Option.some.inj hj
      rw [hr, setTimer_same, Timer.rearm_pending]
    · rcases hno with hnone | hbad
      · rw [hname] at hnone
        cases hnone
      · exact absurd hok hbad
  reset := fun _ _ => rfl
  slots := slotRule w.hv map

end World

end ScorpiHv.Hyperv

import ScorpiHv.Usb.Switch

/-!
# The wheel of the tablet

What the tablet of `usb_mouse.c` has yet to report, in the unit its driver asked for.
-/

namespace ScorpiHv.Usb

open ScorpiHv (Trace)

namespace Turn

/-- The feature of a report ID once a `SET_REPORT` for it is accepted, else the old one. -/
def setting (id old : UInt8) (e : Turn) : UInt8 :=
  match e.action with
  | .request .setReport value index len (some (reportId :: feature :: _)) =>
    if index = 0 ∧ value = 0x0300 + id.toUInt16 ∧ len = 2 ∧ reportId = value.toUInt8 ∧
      feature ≤ 1 then feature else old
  | _ => old

def delta (e : Turn) : Int :=
  match e.action with
  | .pointer _ button _ _ => if button &&& 0x10 ≠ 0 then -CONSOLE_SCROLL_UNITS
    else if button &&& 0x8 ≠ 0 then CONSOLE_SCROLL_UNITS else 0
  | .scroll _ _ _ _ delta => delta
  | _ => 0

def wheel (unit : Int) (e : Turn) : Int :=
  ((e.sent.filter (·.reportId = UMOUSE_ABSOLUTE_REPORT)).map (·.z * unit)).getD 0

end Turn

/-- Since the last reset: what the driver set, and the motion of the tablet's wheel. -/
structure Wheel where
  absolute : UInt8 := 0
  relative : UInt8 := 0
  received : Int := 0
  delivered : Int := 0

def Wheel.turn (w : Wheel) (e : Turn) : Wheel :=
  match e.action with
  | .reset => {}
  | _ =>
    { absolute := e.setting UMOUSE_ABSOLUTE_REPORT w.absolute
      relative := e.setting UMOUSE_RELATIVE_REPORT w.relative
      received := w.received + e.delta
      delivered := w.delivered + e.wheel (UmouseSoftc.wheelUnit w.absolute) }

namespace UmouseSoftc

/-- The requests that change the unit of the tablet without being a `SET_REPORT`. -/
def Wakes (sc : UmouseSoftc) : Action → Prop
  | .request .setFeature value _ _ _ => value = UF_DEVICE_REMOTE_WAKEUP ∧ sc.hidFeature ≠ 1
  | .request .clearFeature value _ _ _ => value = UF_DEVICE_REMOTE_WAKEUP ∧ sc.hidFeature ≠ 0
  | _ => False

/-- A turn without a switch of the mode, saturation or a request that wakes. -/
structure TabletTurn (s : UmouseSoftc) (e : Turn) (t : UmouseSoftc) : Prop where
  turns : Turns s e t
  absolute : e.event = none
  unsaturated : Unsaturated (s.pendingScroll + e.delta)
  asleep : ¬ s.Wakes e.action

structure Matches (sc : UmouseSoftc) (w : Wheel) : Prop where
  absolute : sc.hidFeature = w.absolute
  relative : sc.relativeFeature = w.relative
  ledger : w.delivered + sc.pendingScroll = w.received
  mode : sc.relativeMode = false
  empty : sc.relativeCount = 0
  idle : sc.polling = false

variable {s t : UmouseSoftc} {w : Wheel} {e : Turn}

lemma request_setting {r : Request} {value index len : UInt16} {data : Option (List UInt8)}
    (ha : e.action = .request r value index len data) :
    (s.umouseRequest r value index len data).sc.relativeFeature =
      e.setting UMOUSE_RELATIVE_REPORT s.relativeFeature ∧
    ((s.umouseRequest r value index len data).sc.hidFeature =
      e.setting UMOUSE_ABSOLUTE_REPORT s.hidFeature ↔ ¬ s.Wakes e.action) := by
  unfold Turn.setting
  rw [ha]
  cases r with
  | getReport => simp [getReport_sc, Wakes]
  | other => simp [umouseRequest, Wakes]
  | setFeature | clearFeature =>
    simp only [umouseRequest, Wakes, not_and, not_not]
    split <;> simp [*, eq_comm]
  | setReport =>
    simp only [umouseRequest, umouseSetReport, Wakes, not_false_eq_true, iff_true]
    obtain _ | _ | ⟨reportId, _ | ⟨feature, _⟩⟩ := data
    iterate 3 · exact ⟨rfl, rfl⟩
    dsimp only [Option.getD_some]
    have hone : 0x0300 + UMOUSE_ABSOLUTE_REPORT.toUInt16 = 0x0301 := rfl
    have htwo : 0x0300 + UMOUSE_RELATIVE_REPORT.toUInt16 = 0x0302 := rfl
    rw [hone, htwo]
    by_cases hbad : index ≠ 0 ∨ (value ≠ 0x0301 ∧ value ≠ 0x0302) ∨ len ≠ 2 ∨
        reportId ≠ value.toUInt8 ∨ 1 < feature
    · rw [if_pos hbad]
      constructor <;> rw [if_neg (by rintro ⟨rfl, rfl, rfl, rfl, hle⟩; simp [UInt8.not_lt.mpr hle] at hbad)]
    · rw [if_neg hbad]
      simp only [not_or, not_not, not_and, UInt8.not_lt] at hbad
      obtain ⟨rfl, hvalue, rfl, rfl, hle⟩ := hbad
      by_cases hv : value = 0x0301
      · subst hv
        simp [hle, UMOUSE_RELATIVE_REPORT]
      · cases hvalue hv
        simp [hle, UMOUSE_RELATIVE_REPORT]

def wheelLoad (sc : UmouseSoftc) : Nat :=
  if sc.pendingScroll.tdiv (wheelUnit sc.hidFeature) = 0 then 0 else sc.pendingScroll.natAbs

lemma absolutePoll_wheelLoad (sc : UmouseSoftc) : sc.absolutePoll.1.wheelLoad ≤ sc.wheelLoad - 1 := by
  rw [wheelLoad]
  split
  · exact Nat.zero_le _
  rename_i hrest
  have hless := (wheel_rest sc.hidFeature sc.pendingScroll).2 hrest
  rw [wheelLoad, if_neg]
  · exact Nat.le_pred_of_lt hless
  intro hzero
  simp [hzero, clamp] at hless

lemma wheelLoad_of_quiet (h : ¬ s.HasNews) : s.wheelLoad = 0 := by
  obtain ⟨-, -, hzero⟩ := not_not.mp h
  refine if_pos ?_
  unfold umouseScrollCount clamp at hzero
  split_ifs at hzero <;> omega

section
variable (h : s.Matches w)
include h

lemma Matches.event {size : Option (Int × Int)} {button : UInt8} {x y : Int}
    (hsat : Unsaturated (s.pendingScroll + e.delta)) (hsent : e.sent = none)
    (ht : s.umouseScrollEvent size button x y e.delta = .ok t) :
    t.Matches { w with
      received := w.received + e.delta
      delivered := w.delivered + e.wheel (wheelUnit w.absolute) } := by
  have hsame : s.leaveRelative = s := if_neg (by rw [h.mode]; nofun)
  obtain ⟨x', y', rfl⟩ := scrollEvent_ok ht
  rw [hsame, ← umouseAccumulate, umouseAccumulate_of_unsaturated hsat]
  refine ⟨h.absolute, h.relative, ?_, h.mode, h.empty, h.idle⟩
  have hledger := h.ledger
  rw [Turn.wheel, hsent]
  change w.delivered + 0 + (s.pendingScroll + e.delta) = w.received + e.delta
  omega

lemma Matches.poll (xfer : DataXfer) (dirIn : Bool)
    (hsent : e.sent = (s.umouseDataHandler xfer dirIn).sent) :
    (s.umouseDataHandler xfer dirIn).sc.Matches
      { w with delivered := w.delivered + e.wheel (wheelUnit w.absolute) } ∧
    (s.umouseDataHandler xfer dirIn).sc.wheelLoad ≤
      s.wheelLoad - (if dirIn && hasRoom xfer then 1 else 0) := by
  have hledger := h.ledger
  unfold Turn.wheel
  rw [hsent]
  cases dataHandler_step s xfer dirIn with
  | idle hsc hsent hstuck =>
    rw [hsc, hsent]
    refine ⟨⟨h.absolute, h.relative, by simp [hledger], h.mode, h.empty, h.idle⟩, ?_⟩
    split
    · rename_i hfull
      rw [wheelLoad_of_quiet fun hnews => absurd (h.idle.symm.trans (hstuck hfull hnews)) nofun]
    · exact le_rfl
  | relative _ hcount => exact absurd h.empty hcount
  | absolute hfull _ _ hsc hsent =>
    rw [hsc, hsent, hfull]
    refine ⟨⟨h.absolute, h.relative, ?_, h.mode, h.empty, h.idle⟩, s.absolutePoll_wheelLoad⟩
    change w.delivered + s.umouseScrollCount * wheelUnit w.absolute +
      (s.pendingScroll - s.umouseScrollCount * wheelUnit s.hidFeature) = w.received
    rw [h.absolute]
    omega

lemma Matches.turn (hturn : TabletTurn s e t) : t.Matches (w.turn e) := by
  obtain ⟨hturns, habs, hsat, hwake⟩ := hturn
  unfold Wheel.turn
  cases hturns.turned with
  | relative ha => simp [Turn.event, ha] at habs
  | reset ha _ ht =>
    rw [ha, ht]
    exact ⟨rfl, rfl, rfl, rfl, rfl, h.idle⟩
  | request ha hsent ht =>
    obtain ⟨hrel, hhid⟩ := request_setting (s := s) ha
    have hledger := h.ledger
    rw [← ht] at hrel hhid
    rw [ha, Turn.delta, ha, Turn.wheel, hsent, ← h.absolute, ← h.relative]
    refine ⟨hhid.mpr hwake, hrel, ?_, ?_, ?_, ?_⟩ <;>
      obtain ⟨hid, rel, hsc⟩ := request_sc s _ _ _ _ _ <;> rw [ht, hsc]
    · change w.delivered + 0 + s.pendingScroll = w.received + 0
      omega
    · exact h.mode
    · exact h.empty
    · exact h.idle
  | poll ha hsent ht =>
    rw [ht]
    have hpoll := (h.poll _ _ hsent).1
    simpa [ha, Turn.setting, Turn.delta] using hpoll
  | pointer ha hsent =>
    have hevent := h.event (t := t) hsat hsent (by
      rw [Turn.delta, ha]
      exact (map_ok (ha ▸ hturns.1)).2)
    rw [ha, Turn.setting, Turn.setting, ha]
    exact hevent
  | scroll ha hsent ht =>
    have hevent := h.event (t := t) hsat hsent (by rw [Turn.delta, ha]; exact ht)
    rw [ha, Turn.setting, Turn.setting, ha]
    exact hevent

lemma Matches.run {es : List Turn} (hrun : Trace TabletTurn s es t) :
    t.Matches (es.foldl Wheel.turn w) := by
  induction hrun generalizing w with
  | nil => exact h
  | cons hst _ ih => exact ih (h.turn hst)

end

lemma natAbs_lt_unit {feature : UInt8} {v : Int} (h : v.tdiv (wheelUnit feature) = 0) :
    v.natAbs < wheelUnit feature := by
  unfold wheelUnit CONSOLE_SCROLL_UNITS at h ⊢
  split
  · rename_i hne
    rw [if_pos hne, Int.tdiv_one] at h
    omega
  · rename_i hne
    rw [if_neg hne] at h
    have hv := tdiv_bounds v
    omega

/-- Since the last reset, along turns without a switch, saturation or a request that wakes. -/
theorem wheel_conserved {es : List Turn} (h : Trace TabletTurn umouseInit es t) :
    let w := es.foldl Wheel.turn {}
    t.hidFeature = w.absolute ∧ t.relativeFeature = w.relative ∧
    w.delivered + t.pendingScroll = w.received ∧
    (∀ e u r value index len data, e.action = .request r value index len data → Turns t e u →
      u.relativeFeature = (w.turn e).relative ∧
      (u.hidFeature = (w.turn e).absolute ↔ ¬ t.Wakes e.action)) ∧
    ∀ polls u, Trace Turns t polls u → (∀ e ∈ polls, e.isPoll = true) →
      t.pendingScroll.natAbs ≤ (polls.filter Turn.isFullPoll).length →
      u.pendingScroll.natAbs < wheelUnit u.hidFeature := by
  have hinit : umouseInit.Matches {} := ⟨rfl, rfl, rfl, rfl, rfl, rfl⟩
  have hm := hinit.run h
  refine ⟨hm.absolute, hm.relative, hm.ledger, ?_, ?_⟩
  · intro e u r value index len data ha hturns
    have hset := request_setting (s := t) ha
    obtain ⟨hact, -⟩ := hturns
    rw [ha] at hact
    cases (Prod.mk.inj (Except.ok.inj hact)).1
    rw [ha] at hset ⊢
    rw [Wheel.turn, ha, ← hm.absolute, ← hm.relative]
    exact hset
  · intro polls u hpolls honly hcount
    have hload := load_run (I := fun s => ∃ w, s.Matches w) (f := wheelLoad) ?_ hpolls ⟨_, hm⟩ honly
    swap
    · rintro s xfer dirIn ⟨w, hs⟩
      have hstep := hs.poll (e := s.turn (.poll xfer dirIn) _) xfer dirIn rfl
      exact ⟨⟨_, hstep.1⟩, hstep.2⟩
    apply natAbs_lt_unit
    by_contra hne
    have hsmall : t.wheelLoad ≤ t.pendingScroll.natAbs := by
      unfold wheelLoad
      split <;> omega
    rw [wheelLoad, if_neg hne] at hload
    have hzero : u.pendingScroll = 0 := by omega
    rw [hzero, Int.zero_tdiv] at hne
    exact hne rfl

def scrolled : UmouseSoftc := { umouseInit with
  pendingScroll := 250, umReport := {}, newdata := true }

def scrollSent : Polled := scrolled.umouseDataHandler oneBuffer true

def scrollTurns : List Turn :=
  [umouseInit.turn (.scroll none 0 0 0 250) none,
    scrolled.turn (.poll oneBuffer true) scrollSent.sent]

theorem wheel_conserved_scroll :
    Trace TabletTurn umouseInit scrollTurns scrollSent.sc ∧ scrollSent.sc.pendingScroll = 10 ∧
      (scrollTurns.foldl Wheel.turn {}).delivered = 240 := by
  have hrun : Trace TabletTurn umouseInit scrollTurns scrollSent.sc :=
    .cons ⟨⟨rfl, rfl⟩, rfl, by decide, nofun⟩
      (.cons ⟨turns_poll _ _ _, rfl, by decide, nofun⟩ (.nil _))
  have hledger := (wheel_conserved hrun).2.2.1
  have hpending : scrollSent.sc.pendingScroll = 10 := by decide
  refine ⟨hrun, hpending, ?_⟩
  rw [hpending] at hledger
  have hreceived : (scrollTurns.foldl Wheel.turn {}).received = 250 := by decide
  omega

/-- No `SET_REPORT` was made, and the wheel counts single units. -/
theorem wakeup_changes_unit :
    Turns umouseInit (umouseInit.turn (.request .setFeature 1 0 0 none) none)
      { umouseInit with hidFeature := 1 } ∧
    wheelUnit umouseInit.hidFeature = CONSOLE_SCROLL_UNITS ∧ wheelUnit 1 = 1 :=
  ⟨⟨rfl, rfl⟩, rfl, rfl⟩

end UmouseSoftc

end ScorpiHv.Usb

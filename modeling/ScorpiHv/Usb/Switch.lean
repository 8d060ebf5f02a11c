import ScorpiHv.Usb.Relative

/-!
# Pointer modes and buttons

Before the tablet or the mouse of `usb_mouse.c` reports after a switch, the other has
reported that its buttons are up.
-/

namespace ScorpiHv.Usb
open Function List Bool

open ScorpiHv (Trace)

namespace Turn

def hold (id held : UInt8) (e : Turn) : UInt8 :=
  match e.action with
  | .reset => 0
  | _ => match e.sent with
    | some r => if r.reportId = id then r.buttons else held
    | none => held

def point (last : Option (UInt8 × UInt8)) (e : Turn) : Option (UInt8 × UInt8) :=
  match e.action with
  | .pointer _ button _ _ => some (UMOUSE_ABSOLUTE_REPORT, button &&& 7)
  | .scroll _ button _ _ _ => some (UMOUSE_ABSOLUTE_REPORT, button &&& 7)
  | .relative buttons _ _ _ => some (UMOUSE_RELATIVE_REPORT, buttons &&& 7)
  | .reset => none
  | .poll _ _ => last
  | .request _ _ _ _ _ => last

end Turn

def heldButtons (id : UInt8) (es : List Turn) : UInt8 := es.foldl (fun b e => e.hold id b) 0

def lastEvent (es : List Turn) : Option (UInt8 × UInt8) := es.foldl Turn.point none

namespace Turn

def isPoll (e : Turn) : Bool :=
  match e.action with
  | .poll _ _ => true
  | _ => false

def isFullPoll (e : Turn) : Bool :=
  match e.action with
  | .poll xfer dirIn => dirIn && hasRoom xfer
  | _ => false

end Turn

namespace UmouseSoftc

variable {s sc t : UmouseSoftc} {size : Option (Int × Int)} {button : UInt8} {x y delta : Int}

lemma scrollEvent_ok (h : sc.umouseScrollEvent size button x y delta = .ok t) :
    ∃ x' y', t = { sc.leaveRelative with
      pendingScroll := clamp INT_MAX (sc.leaveRelative.pendingScroll + delta)
      umReport := { reportId := UMOUSE_ABSOLUTE_REPORT, buttons := button &&& 7, x := x', y := y', z := 0 }
      newdata := true } := by
  simp only [umouseScrollEvent, bind, Except.bind] at h
  split at h
  · cases h
  split at h
  · cases h
  · cases h
    exact ⟨_, _, rfl⟩

lemma request_sc (sc : UmouseSoftc) (r : Request) (value index len : UInt16)
    (data : Option (List UInt8)) : ∃ hid rel, (sc.umouseRequest r value index len data).sc =
      { sc with hidFeature := hid, relativeFeature := rel } := by
  cases r with
  | getReport => exact ⟨_, _, getReport_sc sc value index len data⟩
  | setReport =>
    simp only [umouseRequest, umouseSetReport]
    split
    · exact ⟨_, _, rfl⟩
    rename_i t h
    split at h
    · split at h
      · cases h
      · split at h <;> cases h <;> exact ⟨_, _, rfl⟩
    · cases h
  | setFeature | clearFeature =>
    simp only [umouseRequest]
    split <;> exact ⟨_, _, rfl⟩
  | other => exact ⟨_, _, rfl⟩

/-- The mouse is in use: the tablet has nothing to report but that its buttons are up. -/
structure RelativeSide (sc : UmouseSoftc) : Prop where
  up : sc.umReport.buttons = 0
  scroll : sc.pendingScroll = 0
  newdata : sc.newdata = true → sc.absoluteReleasePending = true
  released : sc.absoluteReleasePending = false → sc.absoluteSentButtons = 0
  last : sc.relativeCount ≠ 0 → (sc.relative sc.relativeTail).buttons = sc.relativeButtons
  drained : sc.relativeCount = 0 → sc.relativeSentButtons = sc.relativeButtons

/-- The tablet is in use: the mouse has nothing to report but that its buttons are up. -/
structure AbsoluteSide (sc : UmouseSoftc) : Prop where
  empty : sc.relativeCount = 0 → sc.relativeSentButtons = 0
  release : sc.relativeCount ≠ 0 → sc.relativeCount = 1 ∧ sc.relative sc.relativeHead = {} ∧
    sc.relativeSentButtons ≠ 0
  reported : sc.newdata = false → sc.absoluteSentButtons = sc.umReport.buttons

structure SwitchOk (sc : UmouseSoftc) : Prop where
  ring : RingOk sc
  idle : sc.polling = false
  one : sc.absoluteSentButtons = 0 ∨ sc.relativeSentButtons = 0
  pending : sc.absoluteReleasePending = true → sc.absoluteSentButtons ≠ 0 ∧ sc.newdata = true
  relative : sc.relativeMode = true → sc.RelativeSide
  absolute : sc.relativeMode = false → sc.AbsoluteSide

lemma switchOk_cleared (hpoll : sc.polling = false) : SwitchOk sc.umouseReset where
  ring := ringOk_reset sc
  idle := hpoll
  one := .inl rfl
  pending := nofun
  relative := nofun
  absolute := fun _ => ⟨fun _ => rfl, fun h => absurd rfl h, fun _ => rfl⟩

lemma switchOk_init : SwitchOk umouseInit where
  ring := ringOk_init
  idle := rfl
  one := .inl rfl
  pending := nofun
  relative := nofun
  absolute := fun _ => ⟨fun _ => rfl, fun h => absurd rfl h, fun _ => rfl⟩

lemma leaveRelative_fields (sc : UmouseSoftc) : sc.leaveRelative.relativeMode = false ∧
    sc.leaveRelative.polling = sc.polling ∧ sc.leaveRelative.absoluteSentButtons = sc.absoluteSentButtons ∧
    sc.leaveRelative.relativeSentButtons = sc.relativeSentButtons ∧
    sc.leaveRelative.absoluteReleasePending = sc.absoluteReleasePending := by
  unfold leaveRelative
  split_ifs with hmode
  · dsimp only
    split <;> exact ⟨rfl, rfl, rfl, rfl, rfl⟩
  · exact ⟨eq_false_of_not_eq_true hmode, rfl, rfl, rfl, rfl⟩

lemma leaveRelative_ring (h : SwitchOk sc) :
    (sc.leaveRelative.relativeCount = 0 → sc.relativeSentButtons = 0) ∧
      (sc.leaveRelative.relativeCount ≠ 0 → sc.leaveRelative.relativeCount = 1 ∧
        sc.leaveRelative.relative sc.leaveRelative.relativeHead = {} ∧
        sc.relativeSentButtons ≠ 0) := by
  unfold leaveRelative
  split_ifs with hmode
  · dsimp only
    split_ifs with hsent
    · refine ⟨nofun, fun _ => ⟨rfl, ?_, hsent⟩⟩
      exact update_self 0 {} sc.relative
    · exact ⟨fun _ => not_not.mp hsent, fun hne => absurd rfl hne⟩
  · have hside := h.absolute (eq_false_of_not_eq_true hmode)
    exact ⟨hside.empty, hside.release⟩

lemma SwitchOk.scrollEvent (hok : SwitchOk sc)
    (h : sc.umouseScrollEvent size button x y delta = .ok t) : SwitchOk t := by
  have hring := hok.ring.scrollEvent h
  obtain ⟨x', y', rfl⟩ := scrollEvent_ok h
  obtain ⟨hmode, hidle, habs, hrel, hpending⟩ := sc.leaveRelative_fields
  obtain ⟨hempty, hrelease⟩ := leaveRelative_ring hok
  refine ⟨hring, hidle.trans hok.idle, ?_, ?_, ?_, ?_⟩
  · rw [habs, hrel]
    exact hok.one
  · rw [habs, hpending]
    intro hp
    exact ⟨(hok.pending hp).1, rfl⟩
  · intro hrelative
    exact absurd (hmode.symm.trans hrelative) nofun
  intro _
  refine ⟨?_, ?_, nofun⟩
  · rw [hrel]
    exact hempty
  · rw [hrel]
    exact hrelease

lemma enterRelative_fields (sc : UmouseSoftc) : sc.enterRelative.relativeMode = true ∧
    sc.enterRelative.polling = sc.polling ∧ sc.enterRelative.absoluteSentButtons = sc.absoluteSentButtons ∧
    sc.enterRelative.relativeSentButtons = sc.relativeSentButtons := by
  unfold enterRelative
  split
  · rename_i hmode
    exact ⟨hmode, rfl, rfl, rfl⟩
  · exact ⟨rfl, rfl, rfl, rfl⟩

lemma enterRelative_tablet (h : SwitchOk sc) :
    sc.enterRelative.umReport.buttons = 0 ∧ sc.enterRelative.pendingScroll = 0 ∧
      (sc.enterRelative.newdata = true → sc.enterRelative.absoluteReleasePending = true) ∧
      (sc.enterRelative.absoluteReleasePending = false → sc.absoluteSentButtons = 0) ∧
      (sc.enterRelative.absoluteReleasePending = true →
        sc.absoluteSentButtons ≠ 0 ∧ sc.enterRelative.newdata = true) := by
  unfold enterRelative
  split_ifs with hmode
  · have hside := h.relative hmode
    exact ⟨hside.up, hside.scroll, hside.newdata, hside.released, h.pending⟩
  refine ⟨rfl, rfl, id, ?_, ?_⟩
  · intro hno
    exact bne_eq_false_iff_eq.mp hno
  · intro hyes
    exact ⟨bne_iff_ne.mp hyes, hyes⟩

lemma setRelative_at (sc : UmouseSoftc) (i : Nat) (e : RelativeEvent) :
    (sc.setRelative i e).relative i = e := by simp only [setRelative, update_self]

lemma relativeSlot_same (sc : UmouseSoftc) (buttons : UInt8) : ∃ relative relativeHead relativeCount,
    (sc.relativeSlot buttons).1 = { sc with relative, relativeHead, relativeCount } := by
  unfold relativeSlot
  split
  · exact ⟨_, _, _, rfl⟩
  · split <;> exact ⟨_, _, _, rfl⟩

lemma relativeSlot_tail (sc : UmouseSoftc) (buttons : UInt8) : let r := sc.relativeSlot buttons
    r.1.relativeCount ≠ 0 ∧ r.2 = r.1.relativeTail ∧ (r.1.relative r.2).buttons = buttons := by
  intro r
  by_cases hjoin : sc.relativeCount ≠ 0 ∧ (sc.relative sc.relativeTail).buttons = buttons
  · have hr : r = (sc, sc.relativeTail) := relativeSlot_join hjoin.1 hjoin.2
    rw [hr]
    exact ⟨hjoin.1, rfl, hjoin.2⟩
  · have hr : r = _ := if_neg hjoin
    rw [hr]
    refine ⟨Nat.succ_ne_zero _, rfl, ?_⟩
    rw [setRelative_at]

section
variable (hok : SwitchOk sc)
include hok

lemma SwitchOk.relativeEvent (buttons : UInt8)
    (dx dy scroll : Int) : SwitchOk (sc.umouseRelativeEvent buttons dx dy scroll) := by
  have hring := hok.ring.relativeEvent buttons dx dy scroll
  obtain ⟨hmode, hidle, habs, hrel⟩ := sc.enterRelative_fields
  obtain ⟨hup, hscroll, hnew, hreleased, hpending⟩ := enterRelative_tablet hok
  obtain ⟨hcount, htail, hb⟩ := sc.enterRelative.relativeSlot_tail (buttons &&& 7)
  obtain ⟨ring, head, count, hsame⟩ := sc.enterRelative.relativeSlot_same (buttons &&& 7)
  unfold umouseRelativeEvent at hring ⊢
  generalize sc.enterRelative.relativeSlot (buttons &&& 7) = r at hring hcount htail hb hsame ⊢
  obtain ⟨t, i⟩ := r
  dsimp only at hsame htail hb
  subst hsame htail
  refine ⟨hring, hidle.trans hok.idle, habs.symm ▸ hrel.symm ▸ hok.one, habs.symm ▸ hpending,
    ?_, fun habsolute => absurd (hmode.symm.trans habsolute) nofun⟩
  intro _
  refine ⟨hup, hscroll, hnew, habs.symm ▸ hreleased, ?_, fun hzero => absurd hzero hcount⟩
  exact fun _ => (congrArg RelativeEvent.buttons (setRelative_at _ _ _)).trans hb

lemma SwitchOk.request (r : Request) (value index len : UInt16) (data : Option (List UInt8)) :
    SwitchOk (sc.umouseRequest r value index len data).sc := by
  obtain ⟨hid, rel, heq⟩ := sc.request_sc r value index len data
  have hring := (sc.umouseRequest_same r value index len data).ok hok.ring
  rw [heq] at hring ⊢
  refine ⟨hring, hok.idle, hok.one, hok.pending, ?_, ?_⟩
  · intro hmode
    obtain ⟨hup, hscroll, hnew, hreleased, hlast, hdrained⟩ := hok.relative hmode
    exact ⟨hup, hscroll, hnew, hreleased, hlast, hdrained⟩
  · intro hmode
    obtain ⟨hempty, hrelease, hreported⟩ := hok.absolute hmode
    exact ⟨hempty, hrelease, hreported⟩

lemma SwitchOk.absolute_free (hnews : sc.HasNews)
    (h : sc.relativeCount = 0 ∨ sc.absoluteReleasePending = true) : sc.relativeSentButtons = 0 := by
  have hfree : sc.absoluteReleasePending = true → sc.relativeSentButtons = 0 := by
    intro hp
    rcases hok.one with habs | hrel
    · exact absurd habs (hok.pending hp).1
    · exact hrel
  rcases h with hcount | hp
  · by_cases hmode : sc.relativeMode = true
    · -- with an empty ring the mouse's side has no news but the release of the tablet
      have hside := hok.relative hmode
      apply hfree
      apply hside.newdata
      by_contra hnew
      apply hnews
      refine ⟨hcount, eq_false_of_not_eq_true hnew, ?_⟩
      unfold umouseScrollCount
      rw [hside.scroll, Int.zero_tdiv]
      rfl
    · exact (hok.absolute (eq_false_of_not_eq_true hmode)).empty hcount
  · exact hfree hp

lemma SwitchOk.relative_free (hcount : sc.relativeCount ≠ 0)
    (hp : sc.absoluteReleasePending = false) : sc.absoluteSentButtons = 0 := by
  by_cases hmode : sc.relativeMode = true
  · exact (hok.relative hmode).released hp
  obtain ⟨-, -, hsent⟩ := (hok.absolute (eq_false_of_not_eq_true hmode)).release hcount
  rcases hok.one with habs | hrel
  · exact habs
  · exact absurd hrel hsent

lemma SwitchOk.absolutePoll (hnews : sc.HasNews)
    (h : sc.relativeCount = 0 ∨ sc.absoluteReleasePending = true) : SwitchOk sc.absolutePoll.1 := by
  refine ⟨sc.absolutePoll_same.ok hok.ring, hok.idle, .inr (hok.absolute_free hnews h), nofun, ?_, ?_⟩
  · intro hmode
    have hside := hok.relative hmode
    have hzero : sc.umouseScrollCount = 0 := by
      unfold umouseScrollCount
      rw [hside.scroll, Int.zero_tdiv]
      rfl
    refine ⟨hside.up, ?_, nofun, fun _ => hside.up, hside.last, hside.drained⟩
    show sc.pendingScroll - sc.umouseScrollCount * wheelUnit sc.hidFeature = 0
    rw [hside.scroll, hzero, Int.zero_mul, Int.sub_zero]
  · intro hmode
    have hside := hok.absolute hmode
    exact ⟨hside.empty, hside.release, fun _ => rfl⟩

end

lemma relativePoll_same (sc : UmouseSoftc) :
    sc.relativePoll.1 = { sc with
      relative := sc.relativePoll.1.relative
      relativeHead := sc.relativePoll.1.relativeHead
      relativeCount := sc.relativePoll.1.relativeCount
      relativeScrollRemainder := sc.relativePoll.1.relativeScrollRemainder
      relativeSentButtons := sc.umouseRelativeReport.buttons } := by
  rw [relativePoll_eq]
  split
  · rw [relativePop_eq]
    split
    · rfl
    · split <;> rfl
  · rfl

lemma setRelative_buttons {i : Nat} {e : RelativeEvent} (h : e.buttons = (sc.relative i).buttons)
    (j : Nat) : ((sc.setRelative i e).relative j).buttons = (sc.relative j).buttons := by
  by_cases hj : j = i
  · rw [hj, setRelative_at]
    exact h
  · simp only [setRelative, update_of_ne hj]

lemma polledState_buttons (sc : UmouseSoftc) (j : Nat) :
    (sc.polledState.relative j).buttons = (sc.relative j).buttons :=
  setRelative_buttons (i := sc.relativeHead) (e := sc.polledEvent) rfl j

lemma relativePop_ring (sc : UmouseSoftc) (rest : Int) :
    (sc.relativePop rest).relativeHead = sc.dropped.relativeHead ∧
      (sc.relativePop rest).relativeCount = sc.dropped.relativeCount ∧
      ∀ j, ((sc.relativePop rest).relative j).buttons = (sc.relative j).buttons := by
  rw [relativePop_eq]
  split
  · exact ⟨rfl, rfl, fun _ => rfl⟩
  split
  · refine ⟨rfl, rfl, ?_⟩
    intro j
    refine Eq.trans (setRelative_buttons ?_ j) rfl
    rfl
  · exact ⟨rfl, rfl, fun _ => rfl⟩

lemma dropped_tail (h : sc.dropped.relativeCount ≠ 0) : sc.dropped.relativeTail = sc.relativeTail := by
  have hcount : sc.dropped.relativeCount = sc.relativeCount - 1 := rfl
  have hhead : sc.dropped.relativeHead = (sc.relativeHead + 1) % UMOUSE_RELATIVE_QUEUE := rfl
  unfold relativeTail
  rw [hhead, Nat.add_sub_assoc (by omega), Nat.mod_add_mod]
  congr 1
  omega

lemma relativePoll_tail (hok : RingOk sc) (h : sc.relativeCount ≠ 0) :
    (sc.relativePoll.1.relativeCount ≠ 0 →
      (sc.relativePoll.1.relative sc.relativePoll.1.relativeTail).buttons =
        (sc.relative sc.relativeTail).buttons) ∧ (sc.relativePoll.1.relativeCount = 0 →
      sc.umouseRelativeReport.buttons = (sc.relative sc.relativeTail).buttons) := by
  rw [relativePoll_eq]
  split
  · obtain ⟨hhead, hcount, hb⟩ := sc.polledState.relativePop_ring sc.polledEvent.scroll
    have htail : (sc.polledState.relativePop sc.polledEvent.scroll).relativeTail =
        sc.polledState.dropped.relativeTail := by
      unfold relativeTail
      rw [hhead, hcount]
    refine ⟨?_, ?_⟩
    · intro hne
      rw [hcount] at hne
      rw [hb, htail, dropped_tail hne, polledState_buttons]
      rfl
    · intro hzero
      have hone : sc.relativeCount = 1 := by
        have hdrop : sc.relativeCount - 1 = 0 := hcount.symm.trans hzero
        omega
      rw [relativeReport_buttons h]
      unfold relativeTail
      rw [hone, Nat.add_sub_cancel, Nat.mod_eq_of_lt hok.head]
  · refine ⟨?_, fun hzero => absurd hzero h⟩
    intro _
    rw [polledState_buttons]
    rfl

lemma SwitchOk.relativePoll (hok : SwitchOk sc) (hcount : sc.relativeCount ≠ 0)
    (hp : sc.absoluteReleasePending = false) : SwitchOk sc.relativePoll.1 := by
  have hring := hok.ring.relativePoll hcount
  have hfree := hok.relative_free hcount hp
  obtain ⟨hlast, hempty⟩ := relativePoll_tail hok.ring hcount
  have hsame := sc.relativePoll_same
  refine ⟨hring, hsame ▸ hok.idle, .inl (hsame ▸ hfree), ?_, ?_, ?_⟩
  · rw [hsame]
    exact fun hpending => absurd (hp.symm.trans hpending) nofun
  · intro hmode
    rw [hsame] at hmode
    have hside := hok.relative hmode
    rw [hside.last hcount] at hlast hempty
    rw [hsame] at hlast hempty ⊢
    exact ⟨hside.up, hside.scroll, hside.newdata, hside.released, hlast, hempty⟩
  · intro hmode
    rw [hsame] at hmode
    have hside := hok.absolute hmode
    obtain ⟨hone, hzero, -⟩ := hside.release hcount
    -- the release has no motion, so it leaves the ring at once
    have hbuttons : sc.umouseRelativeReport.buttons = 0 := by rw [relativeReport_buttons hcount, hzero]
    have hgone : sc.relativePoll.1.relativeCount = 0 := by
      have hreport : sc.umouseRelativeReport = { reportId := UMOUSE_RELATIVE_REPORT } := by
        unfold umouseRelativeReport
        rw [if_pos hcount, hzero]
        dsimp only
        rw [Int.zero_tdiv]
        rfl
      have hevent : sc.polledEvent = {} := by
        unfold polledEvent RelativeEvent.less
        rw [hzero, hreport]
        simp
      rw [relativePoll_eq, hevent, if_pos ⟨rfl, rfl, Int.zero_tdiv _⟩]
      show sc.relativeCount - 1 = 0
      rw [hone]
    refine ⟨fun _ => ?_, fun hne => absurd hgone hne, ?_⟩
    · rw [hsame]
      exact hbuttons
    · rw [hsame]
      exact hside.reported

lemma SwitchOk.dataHandler (hok : SwitchOk sc) (xfer : DataXfer)
    (dirIn : Bool) : SwitchOk (sc.umouseDataHandler xfer dirIn).sc := by
  cases dataHandler_step sc xfer dirIn with
  | idle hsc => rw [hsc]; exact hok
  | relative _ hcount hp hsc => rw [hsc]; exact hok.relativePoll hcount hp
  | absolute _ hnews h hsc => rw [hsc]; exact hok.absolutePoll hnews h

variable {e : Turn}

lemma SwitchOk.turns (hok : SwitchOk s) (h : Turns s e t) : SwitchOk t := by
  cases h.turned with
  | pointer _ _ h | scroll _ _ h => exact hok.scrollEvent h
  | relative _ _ h => rw [h]; exact hok.relativeEvent _ _ _ _
  | poll _ _ h => rw [h]; exact hok.dataHandler _ _
  | request _ _ h => rw [h]; exact hok.request _ _ _ _ _
  | reset _ _ h => rw [h]; exact switchOk_cleared hok.idle

variable {es : List Turn}

lemma switchOk_run (hok : SwitchOk s) (h : Trace Turns s es t) : SwitchOk t := by
  have keep : ∀ s e t, SwitchOk s → True → Turns s e t → SwitchOk t := fun _ _ _ hs _ hst => hs.turns hst
  exact h.invariant (fun _ => True) keep (fun _ _ => trivial) hok

lemma relativeEvent_fields (sc : UmouseSoftc) (buttons : UInt8) (dx dy scroll : Int) :
    (sc.umouseRelativeEvent buttons dx dy scroll).relativeMode = true ∧
    (sc.umouseRelativeEvent buttons dx dy scroll).absoluteSentButtons = sc.absoluteSentButtons ∧
    (sc.umouseRelativeEvent buttons dx dy scroll).relativeSentButtons = sc.relativeSentButtons := by
  obtain ⟨hmode, -, habs, hrel⟩ := sc.enterRelative_fields
  obtain ⟨ring, head, count, hsame⟩ := sc.enterRelative.relativeSlot_same (buttons &&& 7)
  unfold umouseRelativeEvent
  dsimp only [setRelative]
  rw [hsame]
  exact ⟨hmode, habs, hrel⟩

lemma Turns.hold (h : Turns s e t) :
    t.absoluteSentButtons = e.hold UMOUSE_ABSOLUTE_REPORT s.absoluteSentButtons ∧
      t.relativeSentButtons = e.hold UMOUSE_RELATIVE_REPORT s.relativeSentButtons := by
  unfold Turn.hold
  cases h.turned with
  | pointer ha hsent h | scroll ha hsent h =>
    obtain ⟨x', y', rfl⟩ := scrollEvent_ok h
    obtain ⟨-, -, habs, hrel, -⟩ := s.leaveRelative_fields
    rw [ha, hsent]
    exact ⟨habs, hrel⟩
  | relative ha hsent h =>
    rw [ha, hsent, h]
    exact (s.relativeEvent_fields _ _ _ _).2
  | poll ha hsent h =>
    rw [ha, hsent, h]
    cases dataHandler_step s _ _ with
    | idle hsc hnone =>
      rw [hsc, hnone]
      exact ⟨rfl, rfl⟩
    | relative _ hcount hp hsc hsome =>
      rw [hsc, hsome, relativePoll_same]
      dsimp only
      rw [s.relativeReport_id, if_neg (by decide), if_pos rfl]
      exact ⟨rfl, rfl⟩
    | absolute _ hnews hwhy hsc hsome =>
      rw [hsc, hsome]
      exact ⟨rfl, rfl⟩
  | request ha hsent h =>
    obtain ⟨hid, rel, heq⟩ := s.request_sc _ _ _ _ _
    rw [ha, hsent, h, heq]
    exact ⟨rfl, rfl⟩
  | reset ha hsent h =>
    rw [ha, h]
    exact ⟨rfl, rfl⟩

lemma hold_run (h : Trace Turns s es t) : t.absoluteSentButtons =
        es.foldl (fun b e => e.hold UMOUSE_ABSOLUTE_REPORT b) s.absoluteSentButtons ∧
      t.relativeSentButtons =
        es.foldl (fun b e => e.hold UMOUSE_RELATIVE_REPORT b) s.relativeSentButtons := by
  induction h with
  | nil => exact ⟨rfl, rfl⟩
  | cons hst _ ih =>
    obtain ⟨habs, hrel⟩ := hst.hold
    rw [foldl_cons, foldl_cons, ← habs, ← hrel]
    exact ih

def Follows (sc : UmouseSoftc) (last : Option (UInt8 × UInt8)) : Prop :=
  ∀ id b, last = some (id, b) →
    (id = UMOUSE_ABSOLUTE_REPORT ∧ sc.relativeMode = false ∧ sc.umReport.buttons = b) ∨
      (id = UMOUSE_RELATIVE_REPORT ∧ sc.relativeMode = true ∧ sc.relativeButtons = b)

lemma Follows.scrollEvent (h : sc.umouseScrollEvent size button x y delta = .ok t) :
    t.Follows (some (UMOUSE_ABSOLUTE_REPORT, button &&& 7)) := by
  obtain ⟨x', y', rfl⟩ := scrollEvent_ok h
  intro id b hlast
  cases hlast
  exact .inl ⟨rfl, sc.leaveRelative_fields.1, rfl⟩

variable {last : Option (UInt8 × UInt8)}

lemma Follows.turns (hs : s.Follows last) (h : Turns s e t) : t.Follows (e.point last) := by
  unfold Turn.point
  cases h.turned with
  | pointer ha _ h | scroll ha _ h => rw [ha]; exact Follows.scrollEvent h
  | relative ha _ h =>
    rw [ha, h]
    intro id b hlast
    cases hlast
    exact .inr ⟨rfl, (s.relativeEvent_fields _ _ _ _).1, rfl⟩
  | poll ha _ h =>
    rw [ha, h]
    cases dataHandler_step s _ _ with
    | idle hsc => rw [hsc]; exact hs
    | relative _ _ _ hsc => rw [hsc, relativePoll_same]; exact hs
    | absolute _ _ _ hsc => rw [hsc]; exact hs
  | request ha _ h =>
    obtain ⟨hid, rel, heq⟩ := s.request_sc _ _ _ _ _
    rw [ha, h, heq]
    exact hs
  | reset ha => rw [ha]; exact nofun

lemma follows_run (h : Trace Turns s es t) :
    ∀ {last : Option (UInt8 × UInt8)}, s.Follows last → t.Follows (es.foldl Turn.point last) := by
  induction h with
  | nil => exact id
  | cons hst _ ih =>
    intro last hs
    exact ih (hs.turns hst)

lemma tdiv_bounds (v : Int) : (0 ≤ v ∧ 0 ≤ v.tdiv 120 ∧ v.tdiv 120 * 120 ≤ v ∧ v < v.tdiv 120 * 120 + 120) ∨
    (v < 0 ∧ v.tdiv 120 ≤ 0 ∧ v ≤ v.tdiv 120 * 120 ∧ v.tdiv 120 * 120 - 120 < v) := by
  rcases Int.lt_or_le v 0 with hv | hv
  · obtain ⟨w, rfl⟩ : ∃ w, v = -w := ⟨-v, (Int.neg_neg v).symm⟩
    rw [Int.neg_tdiv, Int.tdiv_eq_ediv_of_nonneg (by omega)]
    omega
  · rw [Int.tdiv_eq_ediv_of_nonneg hv]
    omega

lemma clamp_rest (v : Int) : (v - clamp 32767 v).natAbs ≤ v.natAbs ∧
    (v - clamp 32767 v ≠ 0 → (v - clamp 32767 v).natAbs < v.natAbs) := by
  unfold clamp
  split_ifs <;> omega

lemma wheel_rest (feature : UInt8) (v : Int) : let unit := wheelUnit feature
    let rest := v - clamp 127 (v.tdiv unit) * unit
    rest.natAbs ≤ v.natAbs ∧ (rest.tdiv unit ≠ 0 → rest.natAbs < v.natAbs) := by
  unfold wheelUnit CONSOLE_SCROLL_UNITS
  split
  · simp only [Int.tdiv_one, Int.mul_one]
    unfold clamp
    split_ifs <;> omega
  dsimp only
  have hv := tdiv_bounds v
  have hrest := tdiv_bounds (v - clamp 127 (v.tdiv 120) * 120)
  generalize (v - clamp 127 (v.tdiv 120) * 120).tdiv 120 = q at hrest ⊢
  unfold clamp at hrest ⊢
  split_ifs at hrest ⊢ <;> omega

def eventLoad (e : RelativeEvent) : Nat := 1 + e.x.natAbs + e.y.natAbs + e.scroll.natAbs

def queueLoad (es : List RelativeEvent) : Nat := (es.map eventLoad).sum

lemma polledEvent_load (h : sc.relativeCount ≠ 0) :
    eventLoad sc.polledEvent ≤ eventLoad (sc.relative sc.relativeHead) ∧
      sc.polledEvent.scroll.natAbs < eventLoad (sc.relative sc.relativeHead) ∧
      (¬ (sc.polledEvent.x = 0 ∧ sc.polledEvent.y = 0 ∧
        sc.polledEvent.scroll.tdiv (wheelUnit sc.relativeFeature) = 0) →
        eventLoad sc.polledEvent < eventLoad (sc.relative sc.relativeHead)) := by
  have hx := clamp_rest (sc.relative sc.relativeHead).x
  have hy := clamp_rest (sc.relative sc.relativeHead).y
  have hz := wheel_rest sc.relativeFeature (sc.relative sc.relativeHead).scroll
  have hevent : sc.polledEvent =
      { buttons := (sc.relative sc.relativeHead).buttons
        x := (sc.relative sc.relativeHead).x - clamp 32767 (sc.relative sc.relativeHead).x
        y := (sc.relative sc.relativeHead).y - clamp 32767 (sc.relative sc.relativeHead).y
        scroll := (sc.relative sc.relativeHead).scroll -
          clamp 127 ((sc.relative sc.relativeHead).scroll.tdiv (wheelUnit sc.relativeFeature)) *
            wheelUnit sc.relativeFeature } := by
    unfold polledEvent RelativeEvent.less umouseRelativeReport
    rw [if_pos h]
  rw [hevent]
  unfold eventLoad
  dsimp only
  refine ⟨by omega, by omega, ?_⟩
  intro hmore
  by_cases hzx : (sc.relative sc.relativeHead).x - clamp 32767 (sc.relative sc.relativeHead).x = 0
  · by_cases hzy : (sc.relative sc.relativeHead).y - clamp 32767 (sc.relative sc.relativeHead).y = 0
    · omega
    · omega
  · omega

lemma relativePoll_load (hok : RingOk sc) (h : sc.relativeCount ≠ 0) :
    queueLoad sc.relativePoll.1.queue < queueLoad sc.queue := by
  obtain ⟨-, hscroll, hmore⟩ := polledEvent_load h
  have hokp := hok.polledState
  have hdrop : sc.polledState.dropped.queue = sc.dropped.queue :=
    (List.cons.inj ((queue_dropped hokp h).symm.trans (queue_polledState hok h))).2
  have hload : queueLoad sc.queue =
      eventLoad (sc.relative sc.relativeHead) + queueLoad sc.polledState.dropped.queue := by
    rw [queue_dropped hok h, hdrop]
    rfl
  rw [hload, relativePoll_eq]
  split
  · by_cases hlast : sc.polledState.dropped.relativeCount = 0
    · have hempty := congrArg Account.queue (relativePop_last hokp h hlast sc.polledEvent.scroll)
      have hqueue : (sc.polledState.relativePop sc.polledEvent.scroll).queue = [] := hempty
      rw [hqueue]
      exact lt_of_lt_of_le (Nat.zero_lt_of_lt hscroll) (Nat.le_add_right _ _)
    · have hnext := congrArg Account.queue (relativePop_next hokp h hlast sc.polledEvent.scroll)
      have hqueue : (sc.polledState.relativePop sc.polledEvent.scroll).queue = _ := hnext
      rw [hqueue, queue_dropped (hokp.dropped h) hlast]
      show eventLoad _ + queueLoad _ < _ + (eventLoad _ + queueLoad _)
      unfold eventLoad at hscroll ⊢
      dsimp only
      omega
  · have hqueue : sc.polledState.queue = sc.polledEvent :: sc.polledState.dropped.queue := by
      rw [queue_polledState hok h, hdrop]
      rfl
    rw [hqueue]
    show eventLoad _ + queueLoad _ < _
    omega

def load (sc : UmouseSoftc) : Nat := (if sc.newdata then 1 else 0) + queueLoad sc.queue

lemma load_eq_zero (h : sc.load = 0) : sc.newdata = false ∧ sc.relativeCount = 0 := by
  unfold load at h
  have hqueue : sc.queue = [] := by
    cases hq : sc.queue with
    | nil => rfl
    | cons e es =>
      rw [hq] at h
      have hload : queueLoad (e :: es) = eventLoad e + queueLoad es := rfl
      unfold eventLoad at hload
      omega
  constructor
  · by_contra hnew
    rw [if_pos (eq_true_of_not_eq_false hnew)] at h
    omega
  · rw [← length_queue, hqueue, length_nil]

lemma SwitchOk.poll_load (hok : SwitchOk s) (xfer : DataXfer) (dirIn : Bool) :
    (s.umouseDataHandler xfer dirIn).sc.load ≤ s.load - (if dirIn && hasRoom xfer then 1 else 0) := by
  have hone : (if dirIn && hasRoom xfer then 1 else 0) ≤ 1 := by split <;> omega
  cases dataHandler_step s xfer dirIn with
  | idle hsc _ hstuck =>
    rw [hsc]
    split
    · rename_i hfull
      have hquiet : ¬ s.HasNews := by
        intro hnews
        exact absurd (hok.idle.symm.trans (hstuck hfull hnews)) nofun
      obtain ⟨hcount, hnew, -⟩ := not_not.mp hquiet
      have hqueue : s.queue = [] := by rw [← length_eq_zero_iff, length_queue, hcount]
      unfold load
      rw [hnew, hqueue]
      exact Nat.le_refl 0
    · exact le_rfl
  | relative _ hcount hp hsc =>
    have hlt := relativePoll_load hok.ring hcount
    have hnew : s.relativePoll.1.newdata = s.newdata := by rw [relativePoll_same]
    rw [hsc]
    unfold load
    rw [hnew]
    omega
  | absolute _ hnews hwhy hsc _ =>
    have hqueue : s.absolutePoll.1.queue = s.queue := congrArg Account.queue s.absolutePoll_same.account
    have hnew : s.absolutePoll.1.newdata = false := rfl
    rw [hsc]
    unfold load
    rw [hqueue, hnew]
    cases hold : s.newdata with
    | true =>
      simp only [false_eq_true, if_false, if_true]
      omega
    | false =>
      -- without new data there is no release pending, so the ring is empty
      have hcount : s.relativeCount = 0 := by
        rcases hwhy with hcount | hp
        · exact hcount
        · exact absurd (hold.symm.trans (hok.pending hp).2) nofun
      have hempty : s.queue = [] := by rw [← length_eq_zero_iff, length_queue, hcount]
      rw [hempty]
      exact Nat.zero_le _

variable {polls : List Turn}

/-- What every poll with room lowers is gone after as many polls. -/
lemma load_run {I : UmouseSoftc → Prop} {f : UmouseSoftc → Nat}
    (hpoll : ∀ s xfer dirIn, I s → I (s.umouseDataHandler xfer dirIn).sc ∧
      f (s.umouseDataHandler xfer dirIn).sc ≤ f s - (if dirIn && hasRoom xfer then 1 else 0))
    (h : Trace Turns s polls t) : I s → (∀ e ∈ polls, e.isPoll = true) →
      f t ≤ f s - (polls.filter Turn.isFullPoll).length := by
  induction h with
  | nil => exact fun _ _ => le_rfl
  | @cons s m t e es hst _ ih =>
    intro hok hpolls
    have honly := hpolls e mem_cons_self
    have hstep : I m ∧ f m ≤ f s - (if e.isFullPoll then 1 else 0) := by
      unfold Turn.isPoll at honly
      unfold Turn.isFullPoll
      cases hst.turned with
      | poll ha _ h => rw [ha, h]; exact hpoll s _ _ hok
      | pointer ha | scroll ha | relative ha | request ha | reset ha =>
        rw [ha] at honly
        cases honly
    have hrest := ih hstep.1 fun e' he' => hpolls e' (mem_cons_of_mem _ he')
    have hstep := hstep.2
    rw [filter_cons]
    split at hstep
    · rename_i hfull
      rw [if_pos hfull, length_cons]
      omega
    · rename_i hfull
      rw [if_neg hfull]
      omega

lemma SwitchOk.settled (hok : SwitchOk sc) (hload : sc.load = 0)
    (hlast : sc.Follows last) {id b : UInt8} (h : last = some (id, b)) :
    (id = UMOUSE_ABSOLUTE_REPORT ∧ sc.absoluteSentButtons = b ∧ sc.relativeSentButtons = 0) ∨
      (id = UMOUSE_RELATIVE_REPORT ∧ sc.relativeSentButtons = b ∧ sc.absoluteSentButtons = 0) := by
  obtain ⟨hnew, hcount⟩ := load_eq_zero hload
  rcases hlast id b h with ⟨hid, hmode, hb⟩ | ⟨hid, hmode, hb⟩
  · have hside := hok.absolute hmode
    exact .inl ⟨hid, (hside.reported hnew).trans hb, hside.empty hcount⟩
  have hside := hok.relative hmode
  have hfree : sc.absoluteReleasePending = false := by
    by_contra hp
    exact absurd (hnew.symm.trans (hok.pending (eq_true_of_not_eq_false hp)).2) nofun
  exact .inr ⟨hid, (hside.drained hcount).trans hb, hside.released hfree⟩

lemma point_polls (h : ∀ e ∈ polls, e.isPoll = true)
    (last : Option (UInt8 × UInt8)) : polls.foldl Turn.point last = last := by
  induction polls with
  | nil => rfl
  | cons e es ih =>
    have hpoll := h e mem_cons_self
    have hsame : e.point last = last := by
      unfold Turn.isPoll at hpoll
      unfold Turn.point
      split at hpoll
      · rename_i ha
        rw [ha]
      · cases hpoll
    rw [foldl_cons, hsame]
    exact ih fun e' he' => h e' (mem_cons_of_mem _ he')

lemma SwitchOk.report_free {r : UmouseReport} (hok : SwitchOk s) (h : Turns s e t)
    (hr : e.sent = some r) : (r.reportId = UMOUSE_ABSOLUTE_REPORT ∧ s.relativeSentButtons = 0) ∨
    (r.reportId = UMOUSE_RELATIVE_REPORT ∧ s.absoluteSentButtons = 0) := by
  cases h.turned with
  | pointer _ hsent | scroll _ hsent | relative _ hsent | request _ hsent | reset _ hsent =>
    exact absurd (hsent.symm.trans hr) nofun
  | poll _ hsent =>
    have hsent := hsent.symm.trans hr
    cases dataHandler_step s _ _ with
    | idle _ hnone => exact absurd (hnone.symm.trans hsent) nofun
    | relative _ hcount hp _ hsome =>
      obtain rfl := Option.some.inj (hsome.symm.trans hsent)
      exact .inr ⟨s.relativeReport_id, hok.relative_free hcount hp⟩
    | absolute _ hnews hwhy _ hsome =>
      obtain rfl := Option.some.inj (hsome.symm.trans hsent)
      exact .inl ⟨rfl, hok.absolute_free hnews hwhy⟩

/-- Since the last reset, at most one collection holds buttons, a report of one finds those of
the other up, and once events stop the polls leave the buttons of the last event. -/
theorem no_stuck_button {es : List Turn} {t : UmouseSoftc} (h : Trace Turns umouseInit es t) :
    (heldButtons UMOUSE_ABSOLUTE_REPORT es = 0 ∨ heldButtons UMOUSE_RELATIVE_REPORT es = 0) ∧
    (∀ e u r, Turns t e u → e.sent = some r →
      (r.reportId = UMOUSE_ABSOLUTE_REPORT ∧ heldButtons UMOUSE_RELATIVE_REPORT es = 0) ∨
        (r.reportId = UMOUSE_RELATIVE_REPORT ∧ heldButtons UMOUSE_ABSOLUTE_REPORT es = 0)) ∧
    (∃ n, ∀ polls u, Trace Turns t polls u → (∀ e ∈ polls, e.isPoll = true) →
      n ≤ (polls.filter Turn.isFullPoll).length → ∀ id b, lastEvent es = some (id, b) →
        (id = UMOUSE_ABSOLUTE_REPORT ∧ heldButtons UMOUSE_ABSOLUTE_REPORT (es ++ polls) = b ∧
          heldButtons UMOUSE_RELATIVE_REPORT (es ++ polls) = 0) ∨
        (id = UMOUSE_RELATIVE_REPORT ∧ heldButtons UMOUSE_RELATIVE_REPORT (es ++ polls) = b ∧
          heldButtons UMOUSE_ABSOLUTE_REPORT (es ++ polls) = 0)) := by
  have hok := switchOk_run switchOk_init h
  obtain ⟨habs, hrel⟩ := hold_run h
  refine ⟨?_, ?_, t.load, ?_⟩
  · have hone := hok.one
    rw [habs, hrel] at hone
    exact hone
  · intro e u r hst hr
    have hfree := hok.report_free hst hr
    rw [habs, hrel] at hfree
    exact hfree
  · intro polls u hpolls honly hn id b hlast
    have hload : u.load = 0 := by
      have hle := load_run (I := SwitchOk)
        (fun _ _ _ hs => ⟨hs.dataHandler _ _, hs.poll_load _ _⟩) hpolls hok honly
      omega
    have hfollows : u.Follows (lastEvent (es ++ polls)) :=
      follows_run (h.append hpolls) nofun
    have hsame : lastEvent (es ++ polls) = lastEvent es := by
      unfold lastEvent
      rw [foldl_append]
      exact point_polls honly _
    have hsettled := (switchOk_run hok hpolls).settled hload hfollows (hsame.trans hlast)
    obtain ⟨habs', hrel'⟩ := hold_run (h.append hpolls)
    rw [habs', hrel'] at hsettled
    exact hsettled

def pointed (s : UmouseSoftc) : UmouseSoftc :=
  { s.leaveRelative with
    pendingScroll := clamp INT_MAX (s.leaveRelative.pendingScroll + 0)
    umReport := { buttons := 1 }
    newdata := true }

lemma turns_pointer (s : UmouseSoftc) : Turns s (s.turn (.pointer none 1 0 0) none) s.pointed :=
  ⟨rfl, rfl⟩

def pressed : UmouseSoftc := umouseInit.umouseRelativeEvent 1 0 0 0
def pressSent : Polled := pressed.umouseDataHandler oneBuffer true
def switched : UmouseSoftc := pressSent.sc.pointed

def switchTurns : List Turn :=
  [umouseInit.turn (.relative 1 0 0 0) none, pressed.turn (.poll oneBuffer true) pressSent.sent,
    pressSent.sc.turn (.pointer none 1 0 0) none]

lemma switchTurns_run : Trace Turns umouseInit switchTurns switched :=
  .cons (turns_relative _ _ _ _ _) (.cons (turns_poll _ _ _) (.cons (turns_pointer _) (.nil _)))

theorem no_stuck_button_switch :
    heldButtons UMOUSE_RELATIVE_REPORT switchTurns = 1 ∧
      heldButtons UMOUSE_ABSOLUTE_REPORT switchTurns = 0 ∧
      ∃ n, ∀ polls u, Trace Turns switched polls u → (∀ e ∈ polls, e.isPoll = true) →
        n ≤ (polls.filter Turn.isFullPoll).length →
          heldButtons UMOUSE_ABSOLUTE_REPORT (switchTurns ++ polls) = 1 ∧
            heldButtons UMOUSE_RELATIVE_REPORT (switchTurns ++ polls) = 0 := by
  obtain ⟨hone, -, n, hsettle⟩ := no_stuck_button switchTurns_run
  have hheld : heldButtons UMOUSE_RELATIVE_REPORT switchTurns = 1 := by decide +kernel
  refine ⟨hheld, ?_, n, ?_⟩
  · rcases hone with habs | hrel
    · exact habs
    · exact absurd (hheld.symm.trans hrel) (by decide)
  · intro polls u hpolls honly hn
    rcases hsettle polls u hpolls honly hn UMOUSE_ABSOLUTE_REPORT 1 (by decide +kernel) with h | h
    · exact h.2
    · exact absurd h.1 (by decide)

def reportedButtons (id : UInt8) (es : List Turn) : UInt8 :=
  es.foldl (fun b e => match e.sent with
    | some r => if r.reportId = id then r.buttons else b
    | none => b) 0

def resetSent : Polled := pressSent.sc.umouseReset.pointed.umouseDataHandler oneBuffer true

def resetTurns : List Turn :=
  [umouseInit.turn (.relative 1 0 0 0) none, pressed.turn (.poll oneBuffer true) pressSent.sent,
    pressSent.sc.turn .reset none, pressSent.sc.umouseReset.turn (.pointer none 1 0 0) none,
    pressSent.sc.umouseReset.pointed.turn (.poll oneBuffer true) resetSent.sent]

/-- A reset forgets a button that the guest was told of: no report takes it back. -/
theorem reset_keeps_button :
    Trace Turns umouseInit resetTurns resetSent.sc ∧
      reportedButtons UMOUSE_RELATIVE_REPORT resetTurns = 1 ∧
      reportedButtons UMOUSE_ABSOLUTE_REPORT resetTurns = 1 := by
  refine ⟨?_, by decide +kernel, by decide +kernel⟩
  exact .cons (turns_relative _ _ _ _ _) (.cons (turns_poll _ _ _) (.cons ⟨rfl, rfl⟩
    (.cons (turns_pointer _) (.cons (turns_poll _ _ _) (.nil _)))))

end UmouseSoftc

end ScorpiHv.Usb

import ScorpiHv.Lib.Circular
import ScorpiHv.Lib.Trace
import ScorpiHv.Usb.Mouse

/-!
# Relative motion is conserved

The ring of `usb_mouse.c` as an account: events pay in, reports pay out, and buttons
leave in the order they came.
-/

namespace ScorpiHv.Usb
open Function List

open ScorpiHv (Trace)

/-- One action on the device, what it delivered and what a wheel count stood for. -/
structure Turn where
  action : UmouseSoftc.Action
  sent : Option UmouseReport := none
  unit : Int := CONSOLE_SCROLL_UNITS

namespace Turn

def report (e : Turn) : Option UmouseReport :=
  e.sent.filter (·.reportId = UMOUSE_RELATIVE_REPORT)

def event (e : Turn) : Option RelativeEvent :=
  match e.action with
  | .relative buttons dx dy scroll => some { buttons := buttons &&& 7, x := dx, y := dy, scroll }
  | _ => none

def paidX (e : Turn) : Int := (e.report.map (·.x)).getD 0
def paidY (e : Turn) : Int := (e.report.map (·.y)).getD 0
def paidScroll (e : Turn) : Int := (e.report.map (·.z * e.unit)).getD 0
def receivedX (e : Turn) : Int := (e.event.map (·.x)).getD 0
def receivedY (e : Turn) : Int := (e.event.map (·.y)).getD 0
def receivedScroll (e : Turn) : Int := (e.event.map (·.scroll)).getD 0

end Turn

def hasRoom (xfer : DataXfer) : Bool :=
  match firstBuffer xfer xfer.indices with
  | (_, none) => false
  | (after, some i) => decide (UmouseReport.size ≤ (after.data i).blen)

def buttonsSent (es : List Turn) : List UInt8 := es.filterMap fun e => e.report.map (·.buttons)

def buttonsReceived (es : List Turn) : List UInt8 := es.filterMap fun e => e.event.map (·.buttons)

structure Account where
  queue : List RelativeEvent
  remainder : Int

namespace Account

def x (a : Account) : Int := (a.queue.map (·.x)).sum
def y (a : Account) : Int := (a.queue.map (·.y)).sum
def scroll (a : Account) : Int := (a.queue.map (·.scroll)).sum + a.remainder
def buttons (a : Account) : List UInt8 := a.queue.map (·.buttons)

end Account

def RelativeEvent.less (e : RelativeEvent) (r : UmouseReport) (unit : Int) : RelativeEvent :=
  { e with x := e.x - r.x, y := e.y - r.y, scroll := e.scroll - r.z * unit }

inductive Moves : Account → Turn → Account → Prop where
  | quiet {a : Account} {e : Turn} : e.event = none → e.report = none → Moves a e a
  | join {e : Turn} {v last : RelativeEvent} {kept : List RelativeEvent} {rem : Int} :
      e.event = some v → e.report = none → last.buttons = v.buttons →
      Moves ⟨kept ++ [last], rem⟩ e
        ⟨kept ++ [{ last with
          x := last.x + v.x, y := last.y + v.y, scroll := last.scroll + rem + v.scroll }], 0⟩
  | push {e : Turn} {v : RelativeEvent} {queue : List RelativeEvent} {rem : Int} :
      e.event = some v → e.report = none →
      Moves ⟨queue, rem⟩ e ⟨queue ++ [{ v with scroll := rem + v.scroll }], 0⟩
  | send {e : Turn} {r : UmouseReport} {first : RelativeEvent} {rest : List RelativeEvent}
      {rem : Int} :
      e.event = none → e.report = some r → r.buttons = first.buttons →
      Moves ⟨first :: rest, rem⟩ e ⟨first.less r e.unit :: rest, rem⟩
  | sendLast {e : Turn} {r : UmouseReport} {first : RelativeEvent} :
      e.event = none → e.report = some r → r.buttons = first.buttons →
      (first.less r e.unit).x = 0 → (first.less r e.unit).y = 0 →
      Moves ⟨[first], 0⟩ e ⟨[], (first.less r e.unit).scroll⟩
  | sendOn {e : Turn} {r : UmouseReport} {first next : RelativeEvent}
      {rest : List RelativeEvent} {rem : Int} :
      e.event = none → e.report = some r → r.buttons = first.buttons →
      (first.less r e.unit).x = 0 → (first.less r e.unit).y = 0 →
      Moves ⟨first :: next :: rest, rem⟩ e
        ⟨{ next with scroll := next.scroll + (first.less r e.unit).scroll } :: rest, rem⟩

namespace Moves
variable {a b : Account} {e : Turn} {es : List Turn}

lemma balance_x (h : Moves a e b) : b.x + e.paidX = a.x + e.receivedX := by
  cases h <;> simp_all [Account.x, Turn.paidX, Turn.receivedX, RelativeEvent.less] <;> omega

lemma balance_y (h : Moves a e b) : b.y + e.paidY = a.y + e.receivedY := by
  cases h <;> simp_all [Account.y, Turn.paidY, Turn.receivedY, RelativeEvent.less] <;> omega

lemma balance_scroll (h : Moves a e b) : b.scroll + e.paidScroll = a.scroll + e.receivedScroll := by
  cases h <;> simp_all [Account.scroll, Turn.paidScroll, Turn.receivedScroll, RelativeEvent.less] <;> omega

lemma trace_x (h : Trace Moves a es b) :
    b.x + (es.map Turn.paidX).sum = a.x + (es.map Turn.receivedX).sum :=
  h.balance (fun _ => True) (fun _ _ _ _ _ => trivial) Account.x _ _ (fun _ _ _ _ h => h.balance_x) trivial

lemma trace_y (h : Trace Moves a es b) :
    b.y + (es.map Turn.paidY).sum = a.y + (es.map Turn.receivedY).sum :=
  h.balance (fun _ => True) (fun _ _ _ _ _ => trivial) Account.y _ _ (fun _ _ _ _ h => h.balance_y) trivial

lemma trace_scroll (h : Trace Moves a es b) :
    b.scroll + (es.map Turn.paidScroll).sum = a.scroll + (es.map Turn.receivedScroll).sum :=
  h.balance (fun _ => True) (fun _ _ _ _ _ => trivial) Account.scroll _ _
    (fun _ _ _ _ h => h.balance_scroll) trivial

lemma trace_buttons (h : Trace Moves a es b) :
    Ledger.changes (buttonsSent es ++ b.buttons) = Ledger.changes (a.buttons ++ buttonsReceived es) := by
  induction h with
  | nil => simp [buttonsSent, buttonsReceived]
  | @cons a m b e es hstep _ ih =>
    cases hstep with
    | quiet he hr => simpa [buttonsSent, buttonsReceived, he, hr] using ih
    | @join _ v last kept rem he hr hb =>
      have hdup := Ledger.changes_repeat (kept.map (·.buttons)) v.buttons (buttonsReceived es)
      simp only [buttonsSent, buttonsReceived, Account.buttons, map_append, map_cons,
        map_nil, filterMap_cons, he, hr, Option.map_some, Option.map_none,
        append_assoc, cons_append, nil_append, hb] at ih hdup ⊢
      rw [ih, hdup]
    | push he hr => simpa [buttonsSent, buttonsReceived, Account.buttons, he, hr] using ih
    | @send _ r first rest rem he hr hb =>
      have hdup := Ledger.changes_repeat [] first.buttons (rest.map (·.buttons) ++ buttonsReceived es)
      have hcons := Ledger.changes_cons_congr first.buttons ih
      simp only [buttonsSent, buttonsReceived, Account.buttons, map_cons, filterMap_cons, he, hr,
        Option.map_some, Option.map_none, hb, RelativeEvent.less, cons_append, nil_append] at hcons hdup ⊢
      rw [hcons, hdup]
    | @sendLast _ r first he hr hb =>
      have hcons := Ledger.changes_cons_congr first.buttons ih
      simpa [buttonsSent, buttonsReceived, Account.buttons, he, hr, hb] using hcons
    | @sendOn _ r first next rest rem he hr hb =>
      have hcons := Ledger.changes_cons_congr first.buttons ih
      simpa [buttonsSent, buttonsReceived, Account.buttons, he, hr, hb] using hcons

end Moves

namespace UmouseSoftc

def queue (sc : UmouseSoftc) : List RelativeEvent :=
  Circular.contents UMOUSE_RELATIVE_QUEUE sc.relative sc.relativeHead sc.relativeCount

def account (sc : UmouseSoftc) : Account := ⟨sc.queue, sc.relativeScrollRemainder⟩

/-- The ring is in bounds, and scroll is kept aside only while it is empty. -/
structure RingOk (sc : UmouseSoftc) : Prop where
  head : sc.relativeHead < UMOUSE_RELATIVE_QUEUE
  count : sc.relativeCount ≤ UMOUSE_RELATIVE_QUEUE
  aside : sc.relativeCount ≠ 0 → sc.relativeScrollRemainder = 0

structure SameRing (s t : UmouseSoftc) : Prop where
  relative : t.relative = s.relative
  head : t.relativeHead = s.relativeHead
  count : t.relativeCount = s.relativeCount
  remainder : t.relativeScrollRemainder = s.relativeScrollRemainder

variable {s sc t : UmouseSoftc}

lemma SameRing.account (h : SameRing s t) : t.account = s.account := by
  simp [UmouseSoftc.account, queue, h.relative, h.head, h.count, h.remainder]

lemma SameRing.ok (h : SameRing s t) (hs : RingOk s) : RingOk t where
  head := by rw [h.head]; exact hs.head
  count := by rw [h.count]; exact hs.count
  aside := by rw [h.count, h.remainder]; exact hs.aside

lemma SameRing.refl (s : UmouseSoftc) : SameRing s s := ⟨rfl, rfl, rfl, rfl⟩

lemma enterRelative_same (sc : UmouseSoftc) : SameRing sc sc.enterRelative := by
  unfold enterRelative
  split <;> exact ⟨rfl, rfl, rfl, rfl⟩

lemma absolutePoll_same (sc : UmouseSoftc) : SameRing sc sc.absolutePoll.1 :=
  ⟨rfl, rfl, rfl, rfl⟩

lemma umouseRequest_same (sc : UmouseSoftc) (r : Request) (value index len : UInt16)
    (data : Option (List UInt8)) : SameRing sc (sc.umouseRequest r value index len data).sc := by
  cases r with
  | getReport =>
    cases data with
    | none => exact .refl sc
    | some =>
      simp only [umouseRequest]
      split <;> exact .refl sc
  | setReport =>
    simp only [umouseRequest, umouseSetReport]
    split
    · exact .refl sc
    rename_i t h
    split at h
    · split at h
      · cases h
      · split at h <;> cases h <;> exact ⟨rfl, rfl, rfl, rfl⟩
    · cases h
  | setFeature | clearFeature =>
    simp only [umouseRequest]
    split <;> exact ⟨rfl, rfl, rfl, rfl⟩
  | other => exact .refl sc

def HasRoom (sc : UmouseSoftc) (buttons : UInt8) : Prop :=
  sc.relativeCount < UMOUSE_RELATIVE_QUEUE ∨ (sc.relative sc.relativeTail).buttons = buttons

def Unsaturated (v : Int) : Prop := -INT_MAX ≤ v ∧ v ≤ INT_MAX

instance (v : Int) : Decidable (Unsaturated v) := inferInstanceAs (Decidable (_ ∧ _))

lemma umouseAccumulate_of_unsaturated {pending delta : Int} (h : Unsaturated (pending + delta)) :
    umouseAccumulate pending delta = pending + delta := by
  unfold umouseAccumulate clamp
  rw [if_neg (by have := h.2; omega), if_neg (by have := h.1; omega)]

def slotEvent (sc : UmouseSoftc) (buttons : UInt8) : RelativeEvent :=
  (sc.relativeSlot buttons).1.relative (sc.relativeSlot buttons).2

/-- The motion neither overflows the ring nor saturates an accumulator. -/
structure Fits (sc : UmouseSoftc) (buttons : UInt8) (dx dy scroll : Int) : Prop where
  room : sc.HasRoom buttons
  x : Unsaturated ((sc.slotEvent buttons).x + dx)
  y : Unsaturated ((sc.slotEvent buttons).y + dy)
  scroll : Unsaturated ((sc.slotEvent buttons).scroll + sc.relativeScrollRemainder + scroll)

lemma relativeSlot_join {buttons : UInt8} (hcount : sc.relativeCount ≠ 0)
    (hb : (sc.relative sc.relativeTail).buttons = buttons) :
    sc.relativeSlot buttons = (sc, sc.relativeTail) :=
  if_pos ⟨hcount, hb⟩

lemma relativeSlot_push {buttons : UInt8}
    (hb : ¬ (sc.relativeCount ≠ 0 ∧ (sc.relative sc.relativeTail).buttons = buttons))
    (hcount : sc.relativeCount < UMOUSE_RELATIVE_QUEUE) : sc.relativeSlot buttons =
      ({ sc.setRelative ((sc.relativeHead + sc.relativeCount) % UMOUSE_RELATIVE_QUEUE) { buttons }
          with relativeCount := sc.relativeCount + 1 },
        (sc.relativeHead + sc.relativeCount) % UMOUSE_RELATIVE_QUEUE) := by
  unfold relativeSlot
  rw [if_neg hb, if_neg (Nat.ne_of_lt hcount)]

lemma queue_tail (h : sc.relativeCount ≠ 0) :
    sc.queue = Circular.contents UMOUSE_RELATIVE_QUEUE sc.relative sc.relativeHead
      (sc.relativeCount - 1) ++ [sc.relative sc.relativeTail] := by
  obtain ⟨n, hn⟩ := Nat.exists_eq_succ_of_ne_zero h
  simp only [queue, relativeTail, hn, Circular.contents_succ, Nat.succ_eq_add_one]
  rfl

lemma queue_setTail (hok : RingOk sc) (h : sc.relativeCount ≠ 0) (e : RelativeEvent) :
    (sc.setRelative sc.relativeTail e).queue =
      Circular.contents UMOUSE_RELATIVE_QUEUE sc.relative sc.relativeHead
        (sc.relativeCount - 1) ++ [e] := by
  obtain ⟨n, hn⟩ := Nat.exists_eq_succ_of_ne_zero h
  have hlt : n < UMOUSE_RELATIVE_QUEUE := by
    have := hok.count
    omega
  have hpush := Circular.contents_push sc.relative sc.relativeHead n e hlt
  simpa only [queue, setRelative, relativeTail, hn, Nat.succ_eq_add_one, Nat.add_sub_cancel,
    ← Nat.add_assoc] using hpush

lemma relativeEvent_join {buttons : UInt8} {dx dy scroll : Int}
    (hok : RingOk sc.enterRelative) (hfit : sc.enterRelative.Fits (buttons &&& 7) dx dy scroll)
    (hcount : sc.enterRelative.relativeCount ≠ 0)
    (hb : (sc.enterRelative.relative sc.enterRelative.relativeTail).buttons = buttons &&& 7) :
    let s := sc.enterRelative
    let last := s.relative s.relativeTail
    (sc.umouseRelativeEvent buttons dx dy scroll).account =
      ⟨Circular.contents UMOUSE_RELATIVE_QUEUE s.relative s.relativeHead (s.relativeCount - 1) ++
        [{ last with
          x := last.x + dx, y := last.y + dy
          scroll := last.scroll + s.relativeScrollRemainder + scroll }], 0⟩ := by
  have hslot := relativeSlot_join hcount hb
  have hx := umouseAccumulate_of_unsaturated hfit.x
  have hy := umouseAccumulate_of_unsaturated hfit.y
  have hz := umouseAccumulate_of_unsaturated hfit.scroll
  intro s last
  simp only [slotEvent, hslot] at hx hy hz
  rw [← queue_setTail hok hcount]
  simp only [umouseRelativeEvent, hslot, hx, hy, hz]
  rfl

lemma relativeEvent_push {buttons : UInt8} {dx dy scroll : Int}
    (hfit : sc.enterRelative.Fits (buttons &&& 7) dx dy scroll)
    (hb : ¬ (sc.enterRelative.relativeCount ≠ 0 ∧
      (sc.enterRelative.relative sc.enterRelative.relativeTail).buttons = buttons &&& 7))
    (hcount : sc.enterRelative.relativeCount < UMOUSE_RELATIVE_QUEUE) : let s := sc.enterRelative
    (sc.umouseRelativeEvent buttons dx dy scroll).account =
      ⟨s.queue ++
        [{ buttons := buttons &&& 7, x := dx, y := dy
           scroll := s.relativeScrollRemainder + scroll }], 0⟩ := by
  have hslot := relativeSlot_push hb hcount
  have hx := umouseAccumulate_of_unsaturated hfit.x
  have hy := umouseAccumulate_of_unsaturated hfit.y
  have hz := umouseAccumulate_of_unsaturated hfit.scroll
  intro s
  simp only [slotEvent, hslot, setRelative, update_self, Int.zero_add] at hx hy hz
  simp only [umouseRelativeEvent, hslot, setRelative, update_self, update_idem,
    account, queue, Int.zero_add, hx, hy, hz, Circular.contents_push _ _ _ _ hcount]
  rfl

variable {e : Turn}

lemma relativeEvent_moves {buttons : UInt8} {dx dy scroll : Int}
    (hok : RingOk sc) (hfit : sc.enterRelative.Fits (buttons &&& 7) dx dy scroll)
    (he : e.event = some { buttons := buttons &&& 7, x := dx, y := dy, scroll })
    (hr : e.report = none) :
    Moves sc.account e (sc.umouseRelativeEvent buttons dx dy scroll).account := by
  have hsame := sc.enterRelative_same
  have hoks := hsame.ok hok
  rw [← hsame.account]
  by_cases hjoin : sc.enterRelative.relativeCount ≠ 0 ∧
      (sc.enterRelative.relative sc.enterRelative.relativeTail).buttons = buttons &&& 7
  · rw [relativeEvent_join hoks hfit hjoin.1 hjoin.2, account, queue_tail hjoin.1]
    exact .join he hr hjoin.2
  have hcount : sc.enterRelative.relativeCount < UMOUSE_RELATIVE_QUEUE := by
    rcases hfit.room with h | h
    · exact h
    have hzero : sc.enterRelative.relativeCount = 0 := by
      by_contra hne
      exact hjoin ⟨hne, h⟩
    rw [hzero]
    decide
  rw [relativeEvent_push hfit hjoin hcount]
  exact .push he hr

lemma relativeSlot_ok (hok : RingOk sc) (buttons : UInt8) :
    (sc.relativeSlot buttons).1.relativeHead < UMOUSE_RELATIVE_QUEUE ∧
      (sc.relativeSlot buttons).1.relativeCount ≤ UMOUSE_RELATIVE_QUEUE := by
  have hhead := hok.head
  have hcount := hok.count
  unfold relativeSlot
  split
  · exact ⟨hhead, hcount⟩
  split
  · constructor
    · exact Nat.mod_lt _ (by decide)
    · dsimp only
      omega
  · simp only [setRelative]
    omega

lemma RingOk.relativeEvent (hok : RingOk sc) (buttons : UInt8)
    (dx dy scroll : Int) : RingOk (sc.umouseRelativeEvent buttons dx dy scroll) := by
  have hslot := relativeSlot_ok (sc.enterRelative_same.ok hok) (buttons &&& 7)
  constructor
  · exact hslot.1
  · exact hslot.2
  · intro _
    rfl

lemma RingOk.leaveRelative (hok : RingOk sc) : RingOk sc.leaveRelative := by
  unfold UmouseSoftc.leaveRelative
  split
  · dsimp only
    split <;> constructor <;> simp [setRelative, UMOUSE_RELATIVE_QUEUE]
  · exact hok

lemma RingOk.scrollEvent {size : Option (Int × Int)} {button : UInt8} {x y delta : Int}
    (hok : RingOk sc) (h : sc.umouseScrollEvent size button x y delta = .ok t) : RingOk t := by
  have hleft := hok.leaveRelative
  simp only [umouseScrollEvent, bind, Except.bind] at h
  split at h
  · cases h
  split at h
  · cases h
  · cases h
    exact ⟨hleft.head, hleft.count, hleft.aside⟩

lemma queue_head (hok : RingOk sc) (h : sc.relativeCount ≠ 0) :
    sc.queue = sc.relative sc.relativeHead :: Circular.contents UMOUSE_RELATIVE_QUEUE sc.relative
        ((sc.relativeHead + 1) % UMOUSE_RELATIVE_QUEUE) (sc.relativeCount - 1) := by
  obtain ⟨n, hn⟩ := Nat.exists_eq_succ_of_ne_zero h
  simp only [queue, hn, Nat.succ_eq_add_one, Nat.add_sub_cancel, Circular.contents_head _ _ hok.head]

lemma queue_setHead (hok : RingOk sc) (h : sc.relativeCount ≠ 0) (e : RelativeEvent) :
    (sc.setRelative sc.relativeHead e).queue = e ::
      Circular.contents UMOUSE_RELATIVE_QUEUE sc.relative
        ((sc.relativeHead + 1) % UMOUSE_RELATIVE_QUEUE) (sc.relativeCount - 1) := by
  have hlt : sc.relativeCount - 1 < UMOUSE_RELATIVE_QUEUE := by
    have := hok.count
    omega
  have hset : RingOk (sc.setRelative sc.relativeHead e) := ⟨hok.head, hok.count, hok.aside⟩
  rw [queue_head hset h]
  simp only [setRelative, update_self, Circular.contents_update_head _ _ _ hok.head hlt]

def polledEvent (sc : UmouseSoftc) : RelativeEvent :=
  (sc.relative sc.relativeHead).less sc.umouseRelativeReport (wheelUnit sc.relativeFeature)

def polledState (sc : UmouseSoftc) : UmouseSoftc :=
  { sc.setRelative sc.relativeHead sc.polledEvent with
    relativeSentButtons := sc.umouseRelativeReport.buttons }

lemma relativePoll_eq (sc : UmouseSoftc) :
    sc.relativePoll =
      if sc.polledEvent.x = 0 ∧ sc.polledEvent.y = 0 ∧
          sc.polledEvent.scroll.tdiv (wheelUnit sc.relativeFeature) = 0 then
        (sc.polledState.relativePop sc.polledEvent.scroll, sc.umouseRelativeReport)
      else (sc.polledState, sc.umouseRelativeReport) := rfl

lemma queue_polledState (hok : RingOk sc) (h : sc.relativeCount ≠ 0) :
    sc.polledState.queue = sc.polledEvent :: Circular.contents UMOUSE_RELATIVE_QUEUE sc.relative
        ((sc.relativeHead + 1) % UMOUSE_RELATIVE_QUEUE) (sc.relativeCount - 1) :=
  queue_setHead hok h sc.polledEvent

def dropped (sc : UmouseSoftc) : UmouseSoftc :=
  { sc with
    relativeHead := (sc.relativeHead + 1) % UMOUSE_RELATIVE_QUEUE
    relativeCount := sc.relativeCount - 1 }

lemma RingOk.dropped (hok : RingOk sc) (h : sc.relativeCount ≠ 0) : RingOk sc.dropped := by
  constructor
  · exact Nat.mod_lt _ (by decide)
  · exact (Nat.sub_le _ _).trans hok.count
  · intro _
    exact hok.aside h

lemma queue_dropped (hok : RingOk sc) (h : sc.relativeCount ≠ 0) :
    sc.queue = sc.relative sc.relativeHead :: sc.dropped.queue :=
  queue_head hok h

lemma length_queue (sc : UmouseSoftc) : sc.queue.length = sc.relativeCount :=
  Circular.length_contents _ _ _

lemma relativePop_eq (sc : UmouseSoftc) (rest : Int) :
    sc.relativePop rest =
      if rest = 0 then sc.dropped
      else if sc.dropped.relativeCount ≠ 0 then
        sc.dropped.setRelative sc.dropped.relativeHead
          { sc.dropped.relative sc.dropped.relativeHead with
            scroll := (sc.dropped.relative sc.dropped.relativeHead).scroll + rest }
      else { sc.dropped with relativeScrollRemainder := rest } := rfl

lemma RingOk.relativePop (hok : RingOk sc) (h : sc.relativeCount ≠ 0)
    (rest : Int) : RingOk (sc.relativePop rest) := by
  have hd := hok.dropped h
  rw [relativePop_eq]
  split
  · exact hd
  split
  · exact ⟨hd.head, hd.count, hd.aside⟩
  · rename_i hzero
    exact ⟨hd.head, hd.count, fun hne => absurd hne hzero⟩

lemma relativePop_last (hok : RingOk sc) (h : sc.relativeCount ≠ 0) (hlast : sc.dropped.relativeCount = 0)
    (rest : Int) : (sc.relativePop rest).account = ⟨[], rest⟩ := by
  have hempty : sc.dropped.queue = [] := by rw [← length_eq_zero_iff, length_queue, hlast]
  rw [relativePop_eq]
  by_cases hrest : rest = 0
  · have haside : sc.dropped.relativeScrollRemainder = 0 := hok.aside h
    rw [if_pos hrest, account, hempty, haside, hrest]
  · rw [if_neg hrest, if_neg (not_not.2 hlast), account]
    congr 1

lemma relativePop_next (hok : RingOk sc) (h : sc.relativeCount ≠ 0)
    (hnext : sc.dropped.relativeCount ≠ 0) (rest : Int) : (sc.relativePop rest).account =
      ⟨{ sc.dropped.relative sc.dropped.relativeHead with
          scroll := (sc.dropped.relative sc.dropped.relativeHead).scroll + rest } ::
        sc.dropped.dropped.queue, sc.relativeScrollRemainder⟩ := by
  have hd := hok.dropped h
  rw [relativePop_eq]
  by_cases hrest : rest = 0
  · rw [if_pos hrest, account, queue_dropped hd hnext, hrest]
    simp only [Int.add_zero]
    rfl
  · rw [if_neg hrest, if_pos hnext, account, queue_setHead hd hnext]
    rfl

lemma relativeReport_buttons (h : sc.relativeCount ≠ 0) :
    sc.umouseRelativeReport.buttons = (sc.relative sc.relativeHead).buttons := by
  simp [umouseRelativeReport, h]

lemma relativeReport_id (sc : UmouseSoftc) : sc.umouseRelativeReport.reportId = UMOUSE_RELATIVE_REPORT := by
  unfold umouseRelativeReport
  split <;> rfl

lemma RingOk.polledState (hok : RingOk sc) : RingOk sc.polledState :=
  ⟨hok.head, hok.count, hok.aside⟩

lemma RingOk.relativePoll (hok : RingOk sc) (h : sc.relativeCount ≠ 0) : RingOk sc.relativePoll.1 := by
  rw [relativePoll_eq]
  split
  · exact hok.polledState.relativePop h _
  · exact hok.polledState

lemma relativePoll_moves (hok : RingOk sc) (h : sc.relativeCount ≠ 0) (he : e.event = none)
    (hr : e.report = some sc.umouseRelativeReport) (hunit : e.unit = wheelUnit sc.relativeFeature) :
    Moves sc.account e sc.relativePoll.1.account := by
  have hb := relativeReport_buttons h
  have hokp := hok.polledState
  have hdrop : sc.polledState.dropped.queue = sc.dropped.queue :=
    (List.cons.inj ((queue_dropped hokp h).symm.trans (queue_polledState hok h))).2
  have hevent : sc.polledEvent =
      (sc.relative sc.relativeHead).less sc.umouseRelativeReport e.unit := by
    rw [hunit]
    rfl
  rw [relativePoll_eq, account, queue_dropped hok h]
  by_cases hdone : sc.polledEvent.x = 0 ∧ sc.polledEvent.y = 0 ∧
      sc.polledEvent.scroll.tdiv (wheelUnit sc.relativeFeature) = 0
  · rw [if_pos hdone]
    by_cases hlast : sc.polledState.dropped.relativeCount = 0
    · have hempty : sc.dropped.queue = [] := by rw [← hdrop, ← length_eq_zero_iff, length_queue, hlast]
      rw [relativePop_last hokp h hlast, hempty, hok.aside h, hevent]
      exact .sendLast he hr hb hdone.1 hdone.2.1
    · have hnext := queue_dropped (hokp.dropped h) hlast
      rw [relativePop_next hokp h hlast, ← hdrop, hnext, hevent]
      exact .sendOn he hr hb hdone.1 hdone.2.1
  · rw [if_neg hdone, account, queue_polledState hok h, hevent]
    exact .send he hr hb

lemma relativePoll_report (sc : UmouseSoftc) : sc.relativePoll.2 = sc.umouseRelativeReport := by
  rw [relativePoll_eq]
  split <;> rfl

def HasNews (sc : UmouseSoftc) : Prop :=
  ¬ (sc.relativeCount = 0 ∧ sc.newdata = false ∧ sc.umouseScrollCount = 0)

/-- What a poll can do: nothing, or deliver a report of one of the two kinds. -/
inductive PollStep (sc : UmouseSoftc) (r : Polled) (full : Bool) : Prop where
  | idle : r.sc = sc → r.sent = none → (full = true → sc.HasNews → sc.polling = true) →
      PollStep sc r full
  | relative : full = true → sc.relativeCount ≠ 0 → sc.absoluteReleasePending = false →
      r.sc = sc.relativePoll.1 → r.sent = some sc.umouseRelativeReport → PollStep sc r full
  | absolute : full = true → sc.HasNews → sc.relativeCount = 0 ∨ sc.absoluteReleasePending = true →
      r.sc = sc.absolutePoll.1 → r.sent = some sc.absolutePoll.2 → PollStep sc r full

lemma dataHandler_step (sc : UmouseSoftc) (xfer : DataXfer) (dirIn : Bool) :
    PollStep sc (sc.umouseDataHandler xfer dirIn) (dirIn && hasRoom xfer) := by
  unfold umouseDataHandler hasRoom
  generalize firstBuffer xfer xfer.indices = found
  obtain ⟨after, _ | i⟩ := found
  · exact .idle rfl rfl (by simp)
  dsimp only
  cases dirIn with
  | false => exact .idle rfl rfl (by simp)
  | true =>
    by_cases hnews : sc.relativeCount = 0 ∧ sc.newdata = false ∧ sc.umouseScrollCount = 0
    · rw [if_pos hnews]
      exact .idle rfl rfl fun _ h => absurd hnews h
    rw [if_neg hnews]
    by_cases hpolling : sc.polling = true
    · rw [if_pos hpolling]
      exact .idle rfl rfl fun _ _ => hpolling
    rw [if_neg hpolling]
    by_cases hroom : UmouseReport.size ≤ (after.data i).blen
    · rw [if_pos hroom]
      by_cases hrel : sc.relativeCount ≠ 0 ∧ sc.absoluteReleasePending = false
      · rw [if_pos hrel]
        exact .relative (by simp [hroom]) hrel.1 hrel.2 rfl (congrArg some sc.relativePoll_report)
      rw [if_neg hrel]
      refine .absolute (by simp [hroom]) hnews ?_ rfl rfl
      by_cases hcount : sc.relativeCount = 0
      · exact .inl hcount
      · exact .inr (Bool.eq_true_of_not_eq_false fun h => hrel ⟨hcount, h⟩)
    · rw [if_neg hroom]
      exact .idle rfl rfl fun hfull => absurd hfull (by simp [hroom])

def ShortBuffer (xfer : DataXfer) : Prop :=
  ∀ i, (firstBuffer xfer xfer.indices).2 = some i →
    ((firstBuffer xfer xfer.indices).1.data i).blen < UmouseReport.size

lemma ShortBuffer.hasRoom {xfer : DataXfer} (h : ShortBuffer xfer) : Usb.hasRoom xfer = false := by
  unfold ShortBuffer at h
  unfold Usb.hasRoom
  generalize firstBuffer xfer xfer.indices = found at h ⊢
  obtain ⟨after, _ | i⟩ := found
  · rfl
  · exact decide_eq_false (Nat.not_le.mpr (h i rfl))

lemma dataHandler_short {xfer : DataXfer} (h : ShortBuffer xfer) (sc : UmouseSoftc) (dirIn : Bool) :
    (sc.umouseDataHandler xfer dirIn).sc = sc ∧ (sc.umouseDataHandler xfer dirIn).sent = none := by
  have hfull : (dirIn && hasRoom xfer) = false := by rw [h.hasRoom, Bool.and_false]
  cases dataHandler_step sc xfer dirIn with
  | idle hsc hnone => exact ⟨hsc, hnone⟩
  | relative hyes | absolute hyes => exact absurd (hfull.symm.trans hyes) nofun

lemma getReport_sc (sc : UmouseSoftc) (value index len : UInt16) (data : Option (List UInt8)) :
    (sc.umouseRequest .getReport value index len data).sc = sc := by
  cases data with
  | none => rfl
  | some =>
    simp only [umouseRequest]
    split <;> rfl

def Turns (s : UmouseSoftc) (e : Turn) (t : UmouseSoftc) : Prop :=
  s.act e.action = .ok (t, e.sent) ∧ e.unit = wheelUnit s.relativeFeature

def Conserving (sc : UmouseSoftc) : Action → Prop
  | .relative buttons dx dy scroll => sc.enterRelative.Fits (buttons &&& 7) dx dy scroll
  | .poll _ _ => True
  | .request _ _ _ _ _ => True
  | .pointer _ _ _ _ => False
  | .scroll _ _ _ _ _ => False
  | .reset => False

def ConservingTurn (s : UmouseSoftc) (e : Turn) (t : UmouseSoftc) : Prop :=
  Turns s e t ∧ s.Conserving e.action

lemma RingOk.dataHandler (hok : RingOk sc) (xfer : DataXfer) (dirIn : Bool) :
    RingOk (sc.umouseDataHandler xfer dirIn).sc := by
  cases dataHandler_step sc xfer dirIn with
  | idle hsc => rw [hsc]; exact hok
  | relative _ hcount _ hsc => rw [hsc]; exact hok.relativePoll hcount
  | absolute _ _ _ hsc => rw [hsc]; exact sc.absolutePoll_same.ok hok

inductive Turned (s : UmouseSoftc) (e : Turn) (t : UmouseSoftc) : Prop where
  | pointer {size : Option (Int × Int)} {button : UInt8} {x y delta : Int} :
      e.action = .pointer size button x y → e.sent = none →
      s.umouseScrollEvent size button x y delta = .ok t → Turned s e t
  | scroll {size : Option (Int × Int)} {button : UInt8} {x y delta : Int} :
      e.action = .scroll size button x y delta → e.sent = none →
      s.umouseScrollEvent size button x y delta = .ok t → Turned s e t
  | relative {buttons : UInt8} {dx dy scroll : Int} :
      e.action = .relative buttons dx dy scroll → e.sent = none →
      t = s.umouseRelativeEvent buttons dx dy scroll → Turned s e t
  | poll {xfer : DataXfer} {dirIn : Bool} : e.action = .poll xfer dirIn →
      e.sent = (s.umouseDataHandler xfer dirIn).sent →
      t = (s.umouseDataHandler xfer dirIn).sc → Turned s e t
  | request {r : Request} {value index len : UInt16} {data : Option (List UInt8)} :
      e.action = .request r value index len data → e.sent = none →
      t = (s.umouseRequest r value index len data).sc → Turned s e t
  | reset : e.action = .reset → e.sent = none → t = s.umouseReset → Turned s e t

lemma map_ok {r : Except Trap UmouseSoftc} {o : Option UmouseReport}
    (h : r.map (·, none) = .ok (t, o)) : o = none ∧ r = .ok t := by
  cases r with
  | error => cases h
  | ok => cases h; exact ⟨rfl, rfl⟩

lemma Turns.turned (h : Turns s e t) : Turned s e t := by
  obtain ⟨h, -⟩ := h
  cases ha : e.action with
  | pointer =>
    rw [ha] at h
    exact .pointer ha (map_ok h).1 (map_ok h).2
  | scroll =>
    rw [ha] at h
    exact .scroll ha (map_ok h).1 (map_ok h).2
  | relative =>
    rw [ha] at h
    obtain ⟨ht, hsent⟩ := Prod.mk.inj (Except.ok.inj h)
    exact .relative ha hsent.symm ht.symm
  | poll =>
    rw [ha] at h
    obtain ⟨ht, hsent⟩ := Prod.mk.inj (Except.ok.inj h)
    exact .poll ha hsent.symm ht.symm
  | request =>
    rw [ha] at h
    obtain ⟨ht, hsent⟩ := Prod.mk.inj (Except.ok.inj h)
    exact .request ha hsent.symm ht.symm
  | reset =>
    rw [ha] at h
    obtain ⟨ht, hsent⟩ := Prod.mk.inj (Except.ok.inj h)
    exact .reset ha hsent.symm ht.symm

lemma ringOk_reset (sc : UmouseSoftc) : RingOk sc.umouseReset := by
  constructor
  · exact Nat.zero_lt_succ _
  · exact Nat.zero_le _
  · intro _
    rfl

lemma RingOk.turns (hok : RingOk s) (h : Turns s e t) : RingOk t := by
  cases h.turned with
  | pointer _ _ h | scroll _ _ h => exact hok.scrollEvent h
  | relative _ _ h => rw [h]; exact hok.relativeEvent _ _ _ _
  | poll _ _ h => rw [h]; exact hok.dataHandler _ _
  | request _ _ h => rw [h]; exact (s.umouseRequest_same _ _ _ _ _).ok hok
  | reset _ _ h => rw [h]; exact ringOk_reset s

lemma ringOk_init : RingOk umouseInit := ⟨by decide, by decide, fun _ => rfl⟩

lemma ringOk_run {es : List Turn} (hok : RingOk s) (h : Trace Turns s es t) : RingOk t := by
  have keep : ∀ s e t, RingOk s → True → Turns s e t → RingOk t := fun _ _ _ hs _ hst => hs.turns hst
  exact h.invariant (fun _ => True) keep (fun _ _ => trivial) hok

lemma ConservingTurn.moves (hok : RingOk s) (h : ConservingTurn s e t) : Moves s.account e t.account := by
  obtain ⟨hturn, hcons⟩ := h
  cases hturn.turned with
  | pointer ha | scroll ha | reset ha => rw [ha] at hcons; exact hcons.elim
  | relative ha hsent ht =>
    rw [ha] at hcons
    rw [ht]
    apply relativeEvent_moves hok hcons
    · rw [Turn.event, ha]
    · rw [Turn.report, hsent]
      rfl
  | request ha hsent ht =>
    rw [ht, (s.umouseRequest_same _ _ _ _ _).account]
    apply Moves.quiet
    · rw [Turn.event, ha]
    · rw [Turn.report, hsent]
      rfl
  | poll ha hsent ht =>
    have he : e.event = none := by rw [Turn.event, ha]
    rw [ht]
    cases dataHandler_step s _ _ with
    | idle hsc hnone =>
      rw [hsc]
      refine .quiet he ?_
      rw [Turn.report, hsent, hnone]
      rfl
    | relative _ hcount _ hsc hsome =>
      rw [hsc]
      refine relativePoll_moves hok hcount he ?_ hturn.2
      rw [Turn.report, hsent, hsome, Option.filter_some, if_pos]
      simp [relativeReport_id]
    | absolute _ _ _ hsc hsome =>
      rw [hsc, s.absolutePoll_same.account]
      refine .quiet he ?_
      rw [Turn.report, hsent, hsome]
      rfl

lemma account_run {es : List Turn} (hok : RingOk s)
    (h : Trace ConservingTurn s es t) : Trace Moves s.account es t.account := by
  have keep : ∀ s e t, RingOk s → ConservingTurn s e t → RingOk t := fun _ _ _ hs hst => hs.turns hst.1
  have step : ∀ s e t, RingOk s → ConservingTurn s e t → Moves s.account e t.account :=
    fun _ _ _ hs hst => hst.moves hs
  exact h.simulate RingOk account keep step hok

/-- Along relative input that neither overflows nor saturates, what reports delivered and the ring
holds is what events brought, buttons are delivered in order, and neither `GET_REPORT` nor a
short buffer consumes anything. -/
theorem relative_motion_conserved {before es : List Turn} {s t : UmouseSoftc}
    (hreach : Trace Turns umouseInit before s) (hrun : Trace ConservingTurn s es t) :
    (t.account.x + (es.map Turn.paidX).sum = s.account.x + (es.map Turn.receivedX).sum ∧
      t.account.y + (es.map Turn.paidY).sum = s.account.y + (es.map Turn.receivedY).sum ∧
      t.account.scroll + (es.map Turn.paidScroll).sum =
        s.account.scroll + (es.map Turn.receivedScroll).sum) ∧
    (Ledger.changes (buttonsSent es) <+:
        Ledger.changes (s.account.buttons ++ buttonsReceived es) ∧
      (t.queue = [] → Ledger.changes (buttonsSent es) =
        Ledger.changes (s.account.buttons ++ buttonsReceived es))) ∧
    (∀ value index len data,
      t.act (.request .getReport value index len data) = .ok (t, none)) ∧
    ∀ xfer dirIn, ShortBuffer xfer → t.act (.poll xfer dirIn) = .ok (t, none) := by
  have hmoves := account_run (ringOk_run ringOk_init hreach) hrun
  have hbuttons := Moves.trace_buttons hmoves
  refine ⟨⟨Moves.trace_x hmoves, Moves.trace_y hmoves, Moves.trace_scroll hmoves⟩, ⟨?_, ?_⟩, ?_, ?_⟩
  · rw [← hbuttons]
    exact Ledger.changes_prefix _ _
  · intro hempty
    rw [← hbuttons, Account.buttons, account, hempty, map_nil, append_nil]
  · intro value index len data
    rw [act, getReport_sc]
  · intro xfer dirIn hshort
    obtain ⟨hsc, hsent⟩ := dataHandler_short hshort t dirIn
    simp only [act, hsc, hsent]

def turn (s : UmouseSoftc) (action : Action) (sent : Option UmouseReport) : Turn :=
  { action, sent, unit := wheelUnit s.relativeFeature }

lemma turns_relative (s : UmouseSoftc) (buttons : UInt8) (dx dy scroll : Int) :
    Turns s (s.turn (.relative buttons dx dy scroll) none) (s.umouseRelativeEvent buttons dx dy scroll) :=
  ⟨rfl, rfl⟩

lemma turns_poll (s : UmouseSoftc) (xfer : DataXfer) (dirIn : Bool) :
    Turns s (s.turn (.poll xfer dirIn) (s.umouseDataHandler xfer dirIn).sent)
      (s.umouseDataHandler xfer dirIn).sc :=
  ⟨rfl, rfl⟩

def oneBuffer : DataXfer :=
  { data := fun _ => { buf := some 0, blen := UmouseReport.size }, ndata := 1, tail := 1 }

def dragged : UmouseSoftc := umouseInit.umouseRelativeEvent 1 40000 0 130
def released : UmouseSoftc := dragged.umouseRelativeEvent 0 0 0 0
def firstPoll : Polled := released.umouseDataHandler oneBuffer true
def secondPoll : Polled := firstPoll.sc.umouseDataHandler oneBuffer true
def thirdPoll : Polled := secondPoll.sc.umouseDataHandler oneBuffer true

def dragTurns : List Turn :=
  [umouseInit.turn (.relative 1 40000 0 130) none, dragged.turn (.relative 0 0 0 0) none,
    released.turn (.poll oneBuffer true) firstPoll.sent,
    firstPoll.sc.turn (.poll oneBuffer true) secondPoll.sent,
    secondPoll.sc.turn (.poll oneBuffer true) thirdPoll.sent]

lemma dragTurns_run : Trace ConservingTurn umouseInit dragTurns thirdPoll.sc := by
  refine .cons ⟨turns_relative _ _ _ _ _, ?_⟩ (.cons ⟨turns_relative _ _ _ _ _, ?_⟩
    (.cons ⟨turns_poll _ _ _, trivial⟩ (.cons ⟨turns_poll _ _ _, trivial⟩
      (.cons ⟨turns_poll _ _ _, trivial⟩ (.nil _)))))
  · exact ⟨.inl (by decide +kernel), by decide +kernel, by decide +kernel, by decide +kernel⟩
  · exact ⟨.inl (by decide +kernel), by decide +kernel, by decide +kernel, by decide +kernel⟩

theorem relative_motion_conserved_drag :
    Trace ConservingTurn umouseInit dragTurns thirdPoll.sc ∧ thirdPoll.sc.queue = [] ∧
      (dragTurns.map Turn.paidX).sum = 40000 ∧ thirdPoll.sc.relativeScrollRemainder = 10 ∧
      Ledger.changes (buttonsSent dragTurns) = [1, 0] := by
  have hempty : thirdPoll.sc.queue = [] := by decide +kernel
  have hkept := relative_motion_conserved (.nil umouseInit) dragTurns_run
  refine ⟨dragTurns_run, hempty, ?_, by decide +kernel, ?_⟩
  · have hx := hkept.1.1
    exact hx
  · decide

end UmouseSoftc

end ScorpiHv.Usb

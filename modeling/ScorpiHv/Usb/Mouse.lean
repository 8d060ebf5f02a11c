import ScorpiHv.Usb.Xfer

/-!
# The USB mouse

`usb_mouse.c`: an absolute tablet and a relative mouse in one device. Relative
motion waits in a ring of events.
-/

namespace ScorpiHv.Usb

def MOUSE_MAX : Int := 0x8000
def UMOUSE_ABSOLUTE_REPORT : UInt8 := 1
def UMOUSE_RELATIVE_REPORT : UInt8 := 2
def UMOUSE_RELATIVE_QUEUE : Nat := 128
def CONSOLE_SCROLL_UNITS : Int := 120
def INT_MAX : Int := 2 ^ 31 - 1
def INT_MIN : Int := -2 ^ 31

/-- `struct umouse_report`, with axes of 16 bits and a wheel of 8. -/
structure UmouseReport where
  reportId : UInt8 := UMOUSE_ABSOLUTE_REPORT
  buttons : UInt8 := 0
  x : Int := 0
  y : Int := 0
  z : Int := 0
  deriving DecidableEq

def UmouseReport.size : Nat := 7

structure RelativeEvent where
  buttons : UInt8 := 0
  x : Int := 0
  y : Int := 0
  scroll : Int := 0
  deriving DecidableEq

/-- `struct umouse_softc`. The mutex makes every function below one step. -/
structure UmouseSoftc where
  umReport : UmouseReport := {}
  newdata : Bool := false
  pendingScroll : Int := 0
  relative : Nat → RelativeEvent := fun _ => {}
  relativeHead : Nat := 0
  relativeCount : Nat := 0
  relativeButtons : UInt8 := 0
  relativeFeature : UInt8 := 0
  relativeScrollRemainder : Int := 0
  relativeMode : Bool := false
  absoluteReleasePending : Bool := false
  absoluteSentButtons : UInt8 := 0
  relativeSentButtons : UInt8 := 0
  hidFeature : UInt8 := 0
  polling : Bool := false

inductive Trap where
  | divideByZero
  | overflow
  deriving DecidableEq

/-- `(MOUSE_MAX * v) / size` in `int`. -/
def scaleCoordinate (v size : Int) : Except Trap Int :=
  let p := MOUSE_MAX * v
  if p < INT_MIN ∨ INT_MAX < p then .error .overflow
  else if size = 0 then .error .divideByZero
  else if p = INT_MIN ∧ size = -1 then .error .overflow
  else .ok (p.tdiv size)

def clamp (bound v : Int) : Int := if bound < v then bound else if v < -bound then -bound else v

namespace UmouseSoftc

def setRelative (sc : UmouseSoftc) (i : Nat) (e : RelativeEvent) : UmouseSoftc :=
  { sc with relative := Function.update sc.relative i e }

/-- The switch to absolute reports at the head of `umouse_scroll_event`. -/
def leaveRelative (sc : UmouseSoftc) : UmouseSoftc :=
  if sc.relativeMode then
    let sc := { sc with
      relativeHead := 0, relativeCount := 0, relativeScrollRemainder := 0, relativeButtons := 0 }
    let sc := if sc.relativeSentButtons ≠ 0 then { sc.setRelative 0 {} with relativeCount := 1 }
      else sc
    { sc with relativeMode := false }
  else sc

/-- `umouse_scroll_event`; `size` is what `console_scanout_size` gives, if anything. -/
def umouseScrollEvent (sc : UmouseSoftc) (size : Option (Int × Int)) (button : UInt8)
    (x y delta : Int) : Except Trap UmouseSoftc := do
  let (w, h) := size.getD (1024, 768)
  let sc := sc.leaveRelative
  let y ← scaleCoordinate y h
  let x ← scaleCoordinate x w
  .ok { sc with
    pendingScroll := clamp INT_MAX (sc.pendingScroll + delta)
    umReport :=
      { reportId := UMOUSE_ABSOLUTE_REPORT
        buttons := button &&& 7
        x := x.bmod (2 ^ 16)
        y := y.bmod (2 ^ 16)
        z := 0 }
    newdata := true }

def umouseEvent (sc : UmouseSoftc) (size : Option (Int × Int)) (button : UInt8) (x y : Int) :
    Except Trap UmouseSoftc :=
  let delta := if button &&& 0x10 ≠ 0 then -CONSOLE_SCROLL_UNITS
    else if button &&& 0x8 ≠ 0 then CONSOLE_SCROLL_UNITS else 0
  sc.umouseScrollEvent size button x y delta

def wheelUnit (feature : UInt8) : Int := if feature ≠ 0 then 1 else CONSOLE_SCROLL_UNITS

def umouseScrollCount (sc : UmouseSoftc) : Int :=
  clamp 127 (sc.pendingScroll.tdiv (wheelUnit sc.hidFeature))

def umouseAccumulate (pending delta : Int) : Int := clamp INT_MAX (pending + delta)

/-- The switch to relative reports at the head of `umouse_relative_event`. -/
def enterRelative (sc : UmouseSoftc) : UmouseSoftc :=
  if sc.relativeMode then sc
  else
    let release := sc.absoluteSentButtons != 0
    { sc with
      relativeMode := true
      pendingScroll := 0
      umReport := { sc.umReport with buttons := 0 }
      absoluteReleasePending := release
      newdata := release }

def relativeTail (sc : UmouseSoftc) : Nat :=
  (sc.relativeHead + sc.relativeCount - 1) % UMOUSE_RELATIVE_QUEUE

/-- The event that takes the motion: the youngest if its buttons are the same, else a new
one, for which a full ring gives up its oldest. -/
def relativeSlot (sc : UmouseSoftc) (buttons : UInt8) : UmouseSoftc × Nat :=
  if sc.relativeCount ≠ 0 ∧ (sc.relative sc.relativeTail).buttons = buttons then
    (sc, sc.relativeTail)
  else
    let sc := if sc.relativeCount = UMOUSE_RELATIVE_QUEUE then
        { sc with
          relativeHead := (sc.relativeHead + 1) % UMOUSE_RELATIVE_QUEUE
          relativeCount := sc.relativeCount - 1 }
      else sc
    let tail := (sc.relativeHead + sc.relativeCount) % UMOUSE_RELATIVE_QUEUE
    ({ sc.setRelative tail { buttons } with relativeCount := sc.relativeCount + 1 }, tail)

def umouseRelativeEvent (sc : UmouseSoftc) (buttons : UInt8) (dx dy scroll : Int) :
    UmouseSoftc :=
  let (sc, i) := sc.enterRelative.relativeSlot (buttons &&& 7)
  let e := sc.relative i
  { sc.setRelative i
      { e with
        x := umouseAccumulate e.x dx
        y := umouseAccumulate e.y dy
        scroll := umouseAccumulate (e.scroll + sc.relativeScrollRemainder) scroll } with
    relativeButtons := buttons &&& 7
    relativeScrollRemainder := 0 }

/-- `umouse_relative_report`, which consumes nothing. -/
def umouseRelativeReport (sc : UmouseSoftc) : UmouseReport :=
  if sc.relativeCount ≠ 0 then
    let e := sc.relative sc.relativeHead
    { reportId := UMOUSE_RELATIVE_REPORT
      buttons := e.buttons
      x := clamp 32767 e.x
      y := clamp 32767 e.y
      z := clamp 127 (e.scroll.tdiv (wheelUnit sc.relativeFeature)) }
  else { reportId := UMOUSE_RELATIVE_REPORT, buttons := sc.relativeButtons }

def relativePop (sc : UmouseSoftc) (rest : Int) : UmouseSoftc :=
  let head := (sc.relativeHead + 1) % UMOUSE_RELATIVE_QUEUE
  let count := sc.relativeCount - 1
  let sc := { sc with relativeHead := head, relativeCount := count }
  if rest = 0 then sc
  else if count ≠ 0 then
    sc.setRelative head { sc.relative head with scroll := (sc.relative head).scroll + rest }
  else { sc with relativeScrollRemainder := rest }

def relativePoll (sc : UmouseSoftc) : UmouseSoftc × UmouseReport :=
  let report := sc.umouseRelativeReport
  let unit := wheelUnit sc.relativeFeature
  let e := sc.relative sc.relativeHead
  let e := { e with
    x := e.x - report.x, y := e.y - report.y, scroll := e.scroll - report.z * unit }
  let sc := { sc.setRelative sc.relativeHead e with relativeSentButtons := report.buttons }
  if e.x = 0 ∧ e.y = 0 ∧ e.scroll.tdiv unit = 0 then (sc.relativePop e.scroll, report)
  else (sc, report)

def absolutePoll (sc : UmouseSoftc) : UmouseSoftc × UmouseReport :=
  let report := { sc.umReport with
    reportId := UMOUSE_ABSOLUTE_REPORT, z := sc.umouseScrollCount }
  ({ sc with
      newdata := false
      absoluteReleasePending := false
      absoluteSentButtons := report.buttons
      pendingScroll := sc.pendingScroll - report.z * wheelUnit sc.hidFeature },
    report)

structure Polled where
  sc : UmouseSoftc
  xfer : DataXfer
  err : UsbErr
  sent : Option UmouseReport := none

def umouseDataHandler (sc : UmouseSoftc) (xfer : DataXfer) (dirIn : Bool) : Polled :=
  match firstBuffer xfer xfer.indices with
  | (xfer, none) => { sc, xfer, err := .normalCompletion }
  | (xfer, some i) =>
    let data := xfer.data i
    let stall := xfer.setBlock i (data.setErrcode USB_STALL)
    if dirIn then
      if sc.relativeCount = 0 ∧ sc.newdata = false ∧ sc.umouseScrollCount = 0 then
        { sc, err := .cancelled
          xfer := xfer.setBlock xfer.head ((xfer.data xfer.head).setErrcode USB_NAK) }
      else if sc.polling then { sc, xfer := stall, err := .stalled }
      else if UmouseReport.size ≤ data.blen then
        let (sc, report) :=
          if sc.relativeCount ≠ 0 ∧ sc.absoluteReleasePending = false then sc.relativePoll
          else sc.absolutePoll
        let blen := data.blen - UmouseReport.size
        { sc
          xfer := xfer.setBlock i
            { data with processed := 1, bdone := data.bdone + UmouseReport.size, blen }
          err := if blen ≠ 0 then .shortXfer else .normalCompletion
          sent := some report }
      else { sc, xfer := stall, err := .stalled }
    else { sc, xfer := stall, err := .stalled }

inductive Answer where
  | feature (reportId value : UInt8)
  | report (r : UmouseReport)
  deriving DecidableEq

def Answer.size : Answer → Nat
  | .feature _ _ => 2
  | .report _ => UmouseReport.size

/-- `UMOUSE_GET_REPORT` on a buffer of `blen` bytes. -/
def umouseGetReport (sc : UmouseSoftc) (value index len : UInt16) (blen : Nat) :
    Except UsbErr Answer :=
  let reportId := value.toUInt8
  let kind := value >>> 8
  if index ≠ 0 ∨ (reportId ≠ UMOUSE_ABSOLUTE_REPORT ∧ reportId ≠ UMOUSE_RELATIVE_REPORT) then
    .error .stalled
  else if kind = 3 ∧ 2 ≤ len.toNat ∧ 2 ≤ blen then
    .ok (.feature reportId
      (if reportId = UMOUSE_RELATIVE_REPORT then sc.relativeFeature else sc.hidFeature))
  else if kind = 1 ∧ UmouseReport.size ≤ len.toNat ∧ UmouseReport.size ≤ blen then
    .ok (.report
      (if reportId = UMOUSE_RELATIVE_REPORT then { sc.umouseRelativeReport with reportId }
      else { sc.umReport with reportId, z := sc.umouseScrollCount }))
  else .error .stalled

/-- `UMOUSE_SET_REPORT` with the bytes of the guest's buffer. -/
def umouseSetReport (sc : UmouseSoftc) (value index len : UInt16) (bytes : List UInt8) :
    Except UsbErr UmouseSoftc :=
  match bytes with
  | reportId :: feature :: _ =>
    if index ≠ 0 ∨ (value ≠ 0x0301 ∧ value ≠ 0x0302) ∨ len ≠ 2 ∨ reportId ≠ value.toUInt8 ∨
        1 < feature then .error .stalled
    else if value.toUInt8 = UMOUSE_RELATIVE_REPORT then .ok { sc with relativeFeature := feature }
    else .ok { sc with hidFeature := feature }
  | _ => .error .stalled

inductive Request where
  | getReport
  | setReport
  | setFeature
  | clearFeature
  | other
  deriving DecidableEq

def UF_DEVICE_REMOTE_WAKEUP : UInt16 := 1

structure Requested where
  sc : UmouseSoftc
  err : UsbErr := .normalCompletion
  answer : Option Answer := none

/-- `umouse_request`; `data` holds the bytes of the first block with a buffer. The other requests
change nothing here, and their answers are left out. -/
def umouseRequest (sc : UmouseSoftc) (r : Request) (value index len : UInt16)
    (data : Option (List UInt8)) : Requested :=
  match r with
  | .getReport =>
    match data with
    | none => { sc }
    | some bytes =>
      match sc.umouseGetReport value index len bytes.length with
      | .error err => { sc, err }
      | .ok a =>
        { sc, answer := some a
          err := if a.size < bytes.length then .shortXfer else .normalCompletion }
  | .setReport =>
    match sc.umouseSetReport value index len (data.getD []) with
    | .error err => { sc, err }
    | .ok sc => { sc }
  | .setFeature =>
    { sc := if value = UF_DEVICE_REMOTE_WAKEUP then { sc with hidFeature := 1 } else sc }
  | .clearFeature =>
    { sc := if value = UF_DEVICE_REMOTE_WAKEUP then { sc with hidFeature := 0 } else sc }
  | .other => { sc }

def umouseReset (sc : UmouseSoftc) : UmouseSoftc :=
  { sc with
    newdata := false, relativeHead := 0, relativeCount := 0, relativeMode := false
    absoluteReleasePending := false, relativeSentButtons := 0, absoluteSentButtons := 0
    relativeButtons := 0, relativeFeature := 0, relativeScrollRemainder := 0, pendingScroll := 0
    hidFeature := 0, umReport := {} }

def umouseInit : UmouseSoftc := { umReport := { reportId := 0 } }

inductive Action where
  | pointer (size : Option (Int × Int)) (button : UInt8) (x y : Int)
  | scroll (size : Option (Int × Int)) (button : UInt8) (x y delta : Int)
  | relative (buttons : UInt8) (dx dy scroll : Int)
  | poll (xfer : DataXfer) (dirIn : Bool)
  | request (r : Request) (value index len : UInt16) (data : Option (List UInt8))
  | reset

def act (sc : UmouseSoftc) : Action → Except Trap (UmouseSoftc × Option UmouseReport)
  | .pointer size button x y => (sc.umouseEvent size button x y).map (·, none)
  | .scroll size button x y delta => (sc.umouseScrollEvent size button x y delta).map (·, none)
  | .relative buttons dx dy scroll => .ok (sc.umouseRelativeEvent buttons dx dy scroll, none)
  | .poll xfer dirIn =>
    let r := sc.umouseDataHandler xfer dirIn
    .ok (r.sc, r.sent)
  | .request r value index len data => .ok ((sc.umouseRequest r value index len data).sc, none)
  | .reset => .ok (sc.umouseReset, none)

end UmouseSoftc

end ScorpiHv.Usb

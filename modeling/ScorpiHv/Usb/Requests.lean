import ScorpiHv.Usb.Control
import ScorpiHv.Usb.Relative
import ScorpiHv.Lib.Bytes

/-!
# The request handlers of the USB devices

`ukbd_request`, `umouse_request`, `userial_request` and `unet_request` as switches on the
setup packet. Descriptors and strings are tables.
-/

namespace ScorpiHv.Usb.Control
open Function

open Bytes (leEnc leDec)
open UmouseSoftc (Answer Request UF_DEVICE_REMOTE_WAKEUP)

def UT_READ_DEVICE : UInt8 := 0x80
def UT_READ_INTERFACE : UInt8 := 0x81
def UT_READ_ENDPOINT : UInt8 := 0x82
def UT_WRITE_DEVICE : UInt8 := 0x00
def UT_WRITE_INTERFACE : UInt8 := 0x01
def UT_WRITE_ENDPOINT : UInt8 := 0x02
def UT_READ_CLASS_INTERFACE : UInt8 := 0xA1
def UT_WRITE_CLASS_INTERFACE : UInt8 := 0x21
def UR_GET_STATUS : UInt8 := 0x00
def UR_CLEAR_FEATURE : UInt8 := 0x01
def UR_SET_FEATURE : UInt8 := 0x03
def UR_SET_ADDRESS : UInt8 := 0x05
def UR_GET_DESCRIPTOR : UInt8 := 0x06
def UR_SET_DESCRIPTOR : UInt8 := 0x07
def UR_GET_CONFIG : UInt8 := 0x08
def UR_SET_CONFIG : UInt8 := 0x09
def UR_GET_INTERFACE : UInt8 := 0x0A
def UR_SET_INTERFACE : UInt8 := 0x0B
def UR_SYNCH_FRAME : UInt8 := 0x0C
def UR_SET_SEL : UInt8 := 0x30
def UR_ISOCH_DELAY : UInt8 := 0x31
def UDESC_DEVICE : UInt16 := 0x01
def UDESC_CONFIG : UInt16 := 0x02
def UDESC_BOS : UInt16 := 0x0F
def UDS_REMOTE_WAKEUP : Nat := 2
/-- `UKBD_REPORT_DESC_TYPE` and `UMOUSE_REPORT_DESC_TYPE` -/
def REPORT_DESC_TYPE : UInt16 := 0x22
/-- `UKBD_GET_REPORT` and its kin, the same for the mouse. -/
def GET_REPORT : UInt8 := 0x01
def GET_IDLE : UInt8 := 0x02
def GET_PROTOCOL : UInt8 := 0x03
def SET_REPORT : UInt8 := 0x09
def SET_IDLE : UInt8 := 0x0A
def SET_PROTOCOL : UInt8 := 0x0B
def UCDC_SET_LINE_CODING : UInt8 := 0x20
def UCDC_GET_LINE_CODING : UInt8 := 0x21
def UCDC_SET_CONTROL_LINE_STATE : UInt8 := 0x22
def UCDC_SEND_BREAK : UInt8 := 0x23
def UCDC_LINE_STATE_LENGTH : Nat := 7
def UCDC_NCM_SET_ETHERNET_PACKET_FILTER : UInt8 := 0x43
def UCDC_NCM_GET_NTB_PARAMETERS : UInt8 := 0x80
def UCDC_NCM_GET_NTB_FORMAT : UInt8 := 0x83
def UCDC_NCM_SET_NTB_FORMAT : UInt8 := 0x84
def UCDC_NCM_GET_NTB_INPUT_SIZE : UInt8 := 0x85
def UCDC_NCM_SET_NTB_INPUT_SIZE : UInt8 := 0x86
def UCDC_NCM_GET_MAX_DATAGRAM_SIZE : UInt8 := 0x87
def UCDC_NCM_SET_MAX_DATAGRAM_SIZE : UInt8 := 0x88
def UCDC_NCM_FORMAT_NTB16 : UInt16 := 1
def UMSTR_LANG : Nat := 0
def UMSTR_MAC : Nat := 5
def UNET_MTU : Nat := 1514
def UNET_NTB_MAX_SIZE : Nat := 65536
/-- The smallest `ntb_input_size`: a header, a table and two pointers. -/
def UNET_NTB_MIN_SIZE : Nat := 12 + 8 + 2 * 4

/-- The constants a device answers with; there are as many strings as its `_MAX`. -/
structure Tables where
  devDesc : List UInt8 := []
  confd : List UInt8 := []
  bosd : List UInt8 := []
  reportDesc : List UInt8 := []
  ncmParams : List UInt8 := []
  strings : List (List UInt8) := []
  bConfigurationValue : UInt8 := 1

/-- `case UREQ(request, type)` -/
def DeviceRequest.is (r : DeviceRequest) (request type : UInt8) : Prop :=
  r.bRequest = request ∧ r.bmRequestType = type

instance (r : DeviceRequest) (request type : UInt8) : Decidable (r.is request type) :=
  inferInstanceAs (Decidable (_ ∧ _))

section

variable {σ : Type} (t : Tables) (sc : σ) (r : DeviceRequest) (data : Option Block)

def ok : Reply σ := .done sc .normalCompletion
def stall : Reply σ := .done sc .stalled

/-- `if (!data) break;` -/
def onData (q : Reply σ) : Reply σ := if data.isSome then q else ok sc

/-- `UR_GET_DESCRIPTOR` of the keyboard, the mouse and the network device. -/
def getDescriptor (past : Bool) : Reply σ :=
  let low := (r.wValue &&& 0xFF).toNat
  let kind := r.wValue >>> 8
  if kind = UDESC_DEVICE then
    if low ≠ 0 then stall sc else .stage sc (.copy t.devDesc true)
  else if kind = UDESC_CONFIG then
    if low ≠ 0 then stall sc else .stage sc (.copy t.confd true)
  else if kind = UDESC_STRING.toUInt16 then
    match t.strings[low]? with
    | none => ok sc
    | some str =>
      if low = UMSTR_LANG then .stage sc (.lang str) else .stage sc (.string str false past)
  else if kind = UDESC_BOS then .stage sc (.copy t.bosd true)
  else stall sc

/-- The requests that the keyboard, the mouse and the network device answer alike. -/
def standard (past : Bool) (status : Nat) : Option (Reply σ) :=
  if r.is UR_GET_CONFIG UT_READ_DEVICE then
    some (onData sc data (.stage sc (.config t.bConfigurationValue)))
  else if r.is UR_GET_DESCRIPTOR UT_READ_DEVICE then
    some (onData sc data (getDescriptor t sc r past))
  else if r.is UR_GET_INTERFACE UT_READ_INTERFACE then
    some (if r.wIndex ≠ 0 then stall sc else onData sc data (.stage sc .interface))
  else if r.is UR_GET_STATUS UT_READ_DEVICE then
    some (onData sc data (.stage sc (.give (leEnc 2 status) true)))
  else if r.is UR_GET_STATUS UT_READ_INTERFACE ∨ r.is UR_GET_STATUS UT_READ_ENDPOINT then
    some (onData sc data (.stage sc (.give (leEnc 2 0) true)))
  else if r.is UR_SET_ADDRESS UT_WRITE_DEVICE ∨ r.is UR_SET_DESCRIPTOR UT_WRITE_DEVICE ∨
      r.is UR_SET_INTERFACE UT_WRITE_INTERFACE ∨ r.is UR_ISOCH_DELAY UT_WRITE_DEVICE ∨
      r.is UR_SET_SEL 0 ∨ r.is UR_SYNCH_FRAME UT_WRITE_ENDPOINT then some (ok sc)
  else none

/-- A feature request to an interface or an endpoint. -/
def DeviceRequest.isFeature : Prop :=
  (r.bRequest = UR_CLEAR_FEATURE ∨ r.bRequest = UR_SET_FEATURE) ∧
    (r.bmRequestType = UT_WRITE_INTERFACE ∨ r.bmRequestType = UT_WRITE_ENDPOINT)

instance : Decidable r.isFeature := inferInstanceAs (Decidable (_ ∧ _))

end

structure Hid where
  idle : UInt8 := 0
  protocol : UInt8 := 0
  feature : UInt8 := 0

/-- `struct ukbd_softc`; `umReport` is the bytes of a `struct ukbd_report`. -/
structure UkbdSoftc where
  hid : Hid := {}
  umReport : Fin 8 → UInt8 := fun _ => 0
  newdata : Bool := false
  polling : Bool := false

def wakeup (feature : UInt8) : Nat :=
  if feature.toUInt16 = UF_DEVICE_REMOTE_WAKEUP then UDS_REMOTE_WAKEUP else 0

def ukbdSwitch (t : Tables) (sc : UkbdSoftc) (r : DeviceRequest) (data : Option Block) :
    Reply UkbdSoftc :=
  let hid (h : Hid) : Reply UkbdSoftc := ok { sc with hid := h }
  (standard t sc r data false (wakeup sc.hid.feature)).getD <|
  if r.is UR_GET_DESCRIPTOR UT_READ_INTERFACE then
    onData sc data <|
      if r.wValue >>> 8 = REPORT_DESC_TYPE then .stage sc (.copy t.reportDesc true) else stall sc
  else if r.is UR_SET_CONFIG UT_WRITE_DEVICE then ok sc
  else if r.is UR_CLEAR_FEATURE UT_WRITE_DEVICE then
    if r.wValue = UF_DEVICE_REMOTE_WAKEUP then hid { sc.hid with feature := 0 } else ok sc
  else if r.is UR_SET_FEATURE UT_WRITE_DEVICE then
    if r.wValue = UF_DEVICE_REMOTE_WAKEUP then hid { sc.hid with feature := 1 } else ok sc
  else if r.isFeature then stall sc
  else if r.is GET_REPORT UT_READ_CLASS_INTERFACE then
    onData sc data <|
      if r.wValue >>> 8 = 1 ∧ 8 ≤ r.wLength.toNat then
        .stage sc (.copy (List.ofFn sc.umReport) true)
      else stall sc
  -- The only case that looks at the block without a test for NULL.
  else if r.is GET_IDLE UT_READ_CLASS_INTERFACE then .stage sc (.give [sc.hid.idle] true)
  else if r.is GET_PROTOCOL UT_READ_CLASS_INTERFACE then
    onData sc data (.stage sc (.give [sc.hid.protocol] false))
  else if r.is SET_REPORT UT_WRITE_CLASS_INTERFACE then ok sc
  else if r.is SET_IDLE UT_WRITE_CLASS_INTERFACE then
    hid { sc.hid with idle := (r.wValue >>> 8).toUInt8 }
  else if r.is SET_PROTOCOL UT_WRITE_CLASS_INTERFACE then
    hid { sc.hid with protocol := (r.wValue >>> 8).toUInt8 }
  else stall sc

def ukbd (t : Tables) : Device UkbdSoftc := { byBlock := false, switch := ukbdSwitch t }

/-- The bytes of an answer; an axis has two of them, the wheel one. -/
def answerBytes : Answer → List UInt8
  | .feature reportId value => [reportId, value]
  | .report m =>
    [m.reportId, m.buttons] ++ leEnc 2 (m.x % 65536).toNat ++ leEnc 2 (m.y % 65536).toNat ++
      leEnc 1 (m.z % 256).toNat

/-- The mouse with the fields of `hid` that only its requests use. -/
structure Umouse where
  sc : UmouseSoftc
  idle : UInt8 := 0
  protocol : UInt8 := 0

def umouseSwitch (t : Tables) (u : Umouse) (r : DeviceRequest) (data : Option Block) :
    Reply Umouse :=
  let blen := (data.map fun b => b.blen.toNat).getD 0
  let feature (q : Request) : Reply Umouse :=
    ok { u with sc := (u.sc.umouseRequest q r.wValue r.wIndex r.wLength none).sc }
  (standard t u r data false (wakeup u.sc.hidFeature)).getD <|
  if r.is UR_GET_DESCRIPTOR UT_READ_INTERFACE then
    onData u data <|
      if r.wValue >>> 8 = REPORT_DESC_TYPE then .stage u (.copy t.reportDesc true) else stall u
  else if r.is UR_SET_CONFIG UT_WRITE_DEVICE then ok u
  else if r.is UR_CLEAR_FEATURE UT_WRITE_DEVICE then feature .clearFeature
  else if r.is UR_SET_FEATURE UT_WRITE_DEVICE then feature .setFeature
  else if r.isFeature then ok u
  else if r.is GET_REPORT UT_READ_CLASS_INTERFACE then
    onData u data <|
      match u.sc.umouseGetReport r.wValue r.wIndex r.wLength blen with
      | .error err => .done u err
      | .ok a => .stage u (.report (answerBytes a))
  else if r.is GET_IDLE UT_READ_CLASS_INTERFACE then
    onData u data (.stage u (.give [u.idle] true))
  else if r.is GET_PROTOCOL UT_READ_CLASS_INTERFACE then
    onData u data (.stage u (.give [u.protocol] true))
  else if r.is SET_REPORT UT_WRITE_CLASS_INTERFACE then
    if r.wIndex ≠ 0 ∨ (r.wValue ≠ 0x0301 ∧ r.wValue ≠ 0x0302) ∨ r.wLength ≠ 2 ∨ blen < 2 then
      stall u
    else .take 2 2 false fun bytes =>
      match u.sc.umouseSetReport r.wValue r.wIndex r.wLength bytes with
      | .error err => (u, err)
      | .ok sc => ({ u with sc }, .normalCompletion)
  else if r.is SET_IDLE UT_WRITE_CLASS_INTERFACE then
    ok { u with idle := (r.wValue >>> 8).toUInt8 }
  else if r.is SET_PROTOCOL UT_WRITE_CLASS_INTERFACE then
    ok { u with protocol := (r.wValue >>> 8).toUInt8 }
  else stall u

def umouse (t : Tables) : Device Umouse := { byBlock := false, switch := umouseSwitch t }

/-- `struct userial_softc`; `lineState` is the bytes of the line coding. -/
structure UserialSoftc where
  lineState : Fin UCDC_LINE_STATE_LENGTH → UInt8 := fun _ => 0
  controlLineState : UInt16 := 0
  configured : Bool := false
  notifyPending : Bool := false

/-- `userial_copy_string_desc` -/
def userialString (t : Tables) (sc : UserialSoftc) (index : Nat) : Reply UserialSoftc :=
  match t.strings[index]? with
  | none => stall sc
  | some str =>
    if index = UMSTR_LANG then .stage sc (.langClamped str) else .stage sc (.string str true false)

def userialSwitch (t : Tables) (sc : UserialSoftc) (r : DeviceRequest) (data : Option Block) :
    Reply UserialSoftc :=
  let low := (r.wValue &&& 0xFF).toNat
  if r.is UR_GET_CONFIG UT_READ_DEVICE then
    onData sc data (.stage sc (.give [if sc.configured then t.bConfigurationValue else 0] false))
  else if r.is UR_GET_DESCRIPTOR UT_READ_DEVICE then
    onData sc data <|
      if r.wValue >>> 8 = UDESC_DEVICE then
        if low ≠ 0 then stall sc else .stage sc (.copy t.devDesc true)
      else if r.wValue >>> 8 = UDESC_CONFIG then
        if low ≠ 0 then stall sc else .stage sc (.copy t.confd true)
      else if r.wValue >>> 8 = UDESC_STRING.toUInt16 then userialString t sc low
      else stall sc
  else if r.is UR_GET_INTERFACE UT_READ_INTERFACE then
    if 1 < r.wIndex then stall sc else onData sc data (.stage sc (.give [0] false))
  else if r.is UR_GET_STATUS UT_READ_DEVICE ∨ r.is UR_GET_STATUS UT_READ_INTERFACE ∨
      r.is UR_GET_STATUS UT_READ_ENDPOINT then
    onData sc data (.stage sc (.give (leEnc 2 0) false))
  else if r.is UR_SET_ADDRESS UT_WRITE_DEVICE then ok sc
  else if r.is UR_SET_CONFIG UT_WRITE_DEVICE then
    ok { sc with configured := decide (r.wValue ≠ 0), notifyPending := decide (r.wValue ≠ 0) }
  else if r.is UR_SET_INTERFACE UT_WRITE_INTERFACE then
    if 1 < r.wIndex ∨ r.wValue ≠ 0 then stall sc else ok sc
  else if r.is UR_CLEAR_FEATURE UT_WRITE_DEVICE ∨ r.is UR_SET_FEATURE UT_WRITE_DEVICE ∨
      r.isFeature ∨ r.is UR_ISOCH_DELAY UT_WRITE_DEVICE ∨ r.is UR_SET_SEL 0 ∨
      r.is UR_SYNCH_FRAME UT_WRITE_ENDPOINT then ok sc
  else if r.is UCDC_GET_LINE_CODING UT_READ_CLASS_INTERFACE then
    onData sc data <|
      if r.wIndex ≠ 0 ∨ r.wLength.toNat < UCDC_LINE_STATE_LENGTH then stall sc
      else .stage sc (.give (List.ofFn sc.lineState) false)
  else if r.is UCDC_SET_LINE_CODING UT_WRITE_CLASS_INTERFACE then
    if r.wIndex ≠ 0 ∨ data.isNone ∨ r.wLength.toNat < UCDC_LINE_STATE_LENGTH then stall sc
    else .take UCDC_LINE_STATE_LENGTH UCDC_LINE_STATE_LENGTH true fun bytes =>
      ({ sc with lineState := fun i => bytes.getD i 0 }, .normalCompletion)
  else if r.is UCDC_SET_CONTROL_LINE_STATE UT_WRITE_CLASS_INTERFACE then
    if r.wIndex ≠ 0 then stall sc
    else ok { sc with controlLineState := r.wValue, notifyPending := true }
  else if r.is UCDC_SEND_BREAK UT_WRITE_CLASS_INTERFACE then
    if r.wIndex ≠ 0 then stall sc else ok sc
  else stall sc

def userial (t : Tables) : Device UserialSoftc := { byBlock := true, switch := userialSwitch t }

/-- The fields of `struct unet_softc` that requests use. -/
structure UnetControl where
  macString : List UInt8 := []
  ntbFormat : UInt16 := UCDC_NCM_FORMAT_NTB16
  maxDgram : Nat := UNET_MTU
  ntbInputSize : Nat := 8192
  /-- `notify_state` is `UNET_STATE_NOTIFY_LINK_SPEED`. -/
  notifyLinkSpeed : Bool := true

def unetSwitch (t : Tables) (sc : UnetControl) (r : DeviceRequest) (data : Option Block) :
    Reply UnetControl :=
  let copy (bytes : List UInt8) : Reply UnetControl :=
    onData sc data (.stage sc (.copy bytes false))
  (standard { t with strings := t.strings.set UMSTR_MAC sc.macString } sc r data true 0).getD <|
  if r.is UR_GET_DESCRIPTOR UT_READ_INTERFACE then ok sc
  else if r.is UR_SET_CONFIG UT_WRITE_DEVICE then ok { sc with notifyLinkSpeed := true }
  else if r.is UCDC_NCM_GET_NTB_PARAMETERS UT_READ_CLASS_INTERFACE then copy t.ncmParams
  else if r.is UCDC_NCM_GET_MAX_DATAGRAM_SIZE UT_READ_CLASS_INTERFACE then
    copy (leEnc 2 sc.maxDgram)
  else if r.is UCDC_NCM_GET_NTB_FORMAT UT_READ_CLASS_INTERFACE then
    copy (leEnc 2 sc.ntbFormat.toNat)
  else if r.is UCDC_NCM_GET_NTB_INPUT_SIZE UT_READ_CLASS_INTERFACE then
    copy (leEnc 4 sc.ntbInputSize)
  else if r.is UCDC_NCM_SET_NTB_FORMAT UT_WRITE_CLASS_INTERFACE then
    if r.wValue ≠ UCDC_NCM_FORMAT_NTB16 then stall sc else ok { sc with ntbFormat := r.wValue }
  else if r.is UCDC_NCM_SET_NTB_INPUT_SIZE UT_WRITE_CLASS_INTERFACE then
    if data.isNone ∨ r.wLength < 4 then ok sc
    else .take 4 0 false fun bytes =>
      if leDec bytes < UNET_NTB_MIN_SIZE ∨ UNET_NTB_MAX_SIZE < leDec bytes then (sc, .stalled)
      else ({ sc with ntbInputSize := leDec bytes }, .normalCompletion)
  else if r.is UCDC_NCM_SET_MAX_DATAGRAM_SIZE UT_WRITE_CLASS_INTERFACE then
    if data.isNone ∨ r.wLength < 2 then ok sc
    else .take 2 0 false fun bytes =>
      if leDec bytes = 0 ∨ UNET_MTU < leDec bytes then (sc, .stalled)
      else ({ sc with maxDgram := leDec bytes }, .normalCompletion)
  else if r.is UCDC_NCM_SET_ETHERNET_PACKET_FILTER UT_READ_CLASS_INTERFACE then stall sc
  -- Everything else, feature requests included, completes without a word.
  else ok sc

def unet (t : Tables) : Device UnetControl := { byBlock := true, switch := unetSwitch t }

/-- The block of a poll: the first with a buffer and a length; the others are processed. -/
def firstFilled (x : Xfer) : List Nat → Xfer × Option Nat
  | [] => (x, none)
  | j :: js =>
    if (x.data j).buf.isSome ∧ (x.data j).blen ≠ 0 then (x, some j)
    else firstFilled
      { x with data := update x.data j { x.data j with processed := 1 } } js

def Xfer.setErrcode (x : Xfer) (j : Nat) (e : UInt32) : Xfer :=
  let b := { x.data j with processed := ((x.data j).processed &&& (0xFF : UInt32)) ||| (e <<< (8 : UInt32)) }
  { x with data := update x.data j b }

def ukbdDataHandler (sc : UkbdSoftc) (x : Xfer) (dirIn : Bool) :
    Except Fault (UkbdSoftc × Xfer × UsbErr) :=
  match firstFilled x ((List.range x.ndata).map x.slot) with
  | (x, none) => .ok (sc, x, .normalCompletion)
  | (x, some j) =>
    let len := (x.data j).blen
    if !dirIn then .ok (sc, x.setErrcode j USB_STALL, .stalled)
    else if !sc.newdata then .ok (sc, x.setErrcode x.head USB_NAK, .cancelled)
    else if sc.polling then .ok (sc, x.setErrcode j USB_STALL, .stalled)
    else if 0 < len then
      match (x.data j).put 0 (List.ofFn sc.umReport) with
      | .error f => .error f
      | .ok b =>
        let b := { b with processed := 1, bdone := b.bdone + 8, blen := len - 8 }
        .ok ({ sc with newdata := false }, { x with data := update x.data j b },
          if 0 < len - 8 then .shortXfer else .normalCompletion)
    else .ok (sc, x, .normalCompletion)

def ReportFits (sc : UkbdSoftc) (x : Xfer) (dirIn : Bool) : Prop :=
  dirIn = true → sc.newdata = true → sc.polling = false →
    ∀ j, (firstFilled x ((List.range x.ndata).map x.slot)).2 = some j → 8 ≤ (x.data j).blen

lemma firstFilled_block {x : Xfer} {js : List Nat} {j : Nat} (h : (firstFilled x js).2 = some j) : ∃ m,
    (x.data j).buf = some m ∧ (x.data j).blen ≠ 0 ∧ ((firstFilled x js).1.data j).buf = some m ∧
    ((firstFilled x js).1.data j).blen = (x.data j).blen := by
  induction js generalizing x with
  | nil => cases h
  | cons k js ih =>
    unfold firstFilled at h ⊢
    by_cases hk : (x.data k).buf.isSome ∧ (x.data k).blen ≠ 0
    · rw [if_pos hk] at h ⊢
      cases h
      obtain ⟨m, hm⟩ := Option.isSome_iff_exists.mp hk.1
      exact ⟨m, hm, hk.2, hm, rfl⟩
    · rw [if_neg hk] at h ⊢
      obtain ⟨m, hbuf, hlen, hbuf', hlen'⟩ := ih h
      have hne : j ≠ k := by
        rintro rfl
        simp only [update_self] at hbuf hlen
        exact hk ⟨by rw [hbuf]; rfl, hlen⟩
      simp only [update_of_ne hne] at hbuf hlen hlen'
      exact ⟨m, hbuf, hlen, hbuf', hlen'⟩

lemma ukbdDataHandler_iff {x : Xfer} (hx : x.WellFormed) (sc : UkbdSoftc) (dirIn : Bool) :
    (∃ out, ukbdDataHandler sc x dirIn = .ok out) ↔ ReportFits sc x dirIn := by
  unfold ukbdDataHandler ReportFits
  cases hfound : firstFilled x ((List.range x.ndata).map x.slot) with
  | mk x' found =>
    cases found with
    | none => simp
    | some j =>
      have hblock := firstFilled_block (congrArg Prod.snd hfound)
      simp only [hfound] at hblock
      obtain ⟨m, hbuf, hne, hbuf', hlen⟩ := hblock
      have hsize := hx.sized j m hbuf
      have hpos : 0 < (x'.data j).blen := by omega
      have hreport : (List.ofFn sc.umReport).length = 8 := List.length_ofFn
      by_cases hdue : dirIn = true ∧ sc.newdata = true ∧ sc.polling = false
      · obtain ⟨rfl, hnew, hpoll⟩ := hdue
        by_cases hfit : 8 ≤ m.length
        · have hin : List.ofFn sc.umReport = [] ∨ 0 + (List.ofFn sc.umReport).length ≤ m.length :=
            .inr (by omega)
          obtain ⟨m', hput, -⟩ := Block.put_inside hbuf' hin
          simp only [hnew, hpoll, hpos, hput, Bool.not_true, Bool.false_eq_true, if_true, if_false,
            Except.ok.injEq, exists_eq', true_implies, true_iff]
          rintro _ ⟨⟩
          omega
        · have hout : (x'.data j).put 0 (List.ofFn sc.umReport) = .error .outside :=
            Block.put_outside hbuf' (by rw [← List.length_eq_zero_iff]; omega)
          simp only [hnew, hpoll, hpos, hout, Bool.not_true, Bool.false_eq_true, if_true, if_false,
            reduceCtorEq, exists_false, true_implies, false_iff]
          intro hall
          have hbig := hall j rfl
          omega
      · cases dirIn <;> cases hnew : sc.newdata <;> cases hpoll : sc.polling <;> simp_all

lemma umouse_report_room (sc : UmouseSoftc) (xfer : DataXfer) (dirIn : Bool)
    (h : (sc.umouseDataHandler xfer dirIn).sent ≠ none) : hasRoom xfer = true := by
  cases UmouseSoftc.dataHandler_step sc xfer dirIn with
  | idle _ hnone => exact absurd hnone h
  | relative hfull | absolute hfull => exact (Bool.and_eq_true_iff.mp hfull).2

def oneBlock (size : Nat) : Xfer where
  data := fun j => if j = 0 then { buf := some (List.replicate size 0), blen := size } else {}
  ndata := 1
  head := 0

lemma oneBlock_wellFormed (size : Nat) : (oneBlock size).WellFormed where
  few := Nat.le_of_ble_eq_true rfl
  sized := by
    intro j m
    by_cases hj : j = 0 <;> simp only [oneBlock, hj, if_true, if_false]
    · rintro ⟨⟩
      rw [List.length_replicate]
    · exact nofun

/-- The second block of the ring, with a buffer left in the first. -/
def secondBlock (size : Nat) : Xfer where
  data := fun j => if j < 2 then { buf := some (List.replicate size 0), blen := size } else {}
  ndata := 1
  head := 1

lemma secondBlock_wellFormed (size : Nat) : (secondBlock size).WellFormed where
  few := Nat.le_of_ble_eq_true rfl
  sized := by
    intro j m
    by_cases hj : j < 2 <;> simp only [secondBlock, hj, if_true, if_false]
    · rintro ⟨⟩
      rw [List.length_replicate]
    · exact nofun

/-- A block of the ring without a buffer, before one left from an earlier transfer. -/
def laterBlock : Xfer := { oneBlock 8 with head := 1 }

end ScorpiHv.Usb.Control

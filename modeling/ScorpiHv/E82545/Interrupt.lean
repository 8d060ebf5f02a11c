import ScorpiHv.Lib.Trace

/-!
# The interrupt of the e1000

Causes, masks and the throttle timer of `pci_82545.c`, and the INTx line they drive. Every
function here runs under the device lock.
-/

namespace ScorpiHv.E82545

/-- `timer` says whether `esc_mevpitr` is set, `lintr` is the line. -/
structure Softc where
  irqAsserted : Bool := false
  icr : BitVec 32 := 0
  itr : BitVec 32 := 250
  ims : BitVec 32 := 0
  timer : Bool := false
  lintr : Bool := false
  deriving DecidableEq

inductive Reg where
  | icr | itr | ics | ims | imc

namespace Softc

def pending (sc : Softc) : BitVec 32 := sc.icr &&& sc.ims

def e82545ItrCallback (sc : Softc) : Softc :=
  if sc.pending ≠ 0#32 ∧ sc.irqAsserted = false then { sc with irqAsserted := true, lintr := true }
  else { sc with timer := false }

/-- The end of `e82545_icr_assert` and `e82545_ims_change`; `mevent_add` may fail. -/
def raise (sc : Softc) (new : BitVec 32) (added : Bool) : Softc :=
  if new = 0#32 ∨ sc.timer = true ∨ sc.irqAsserted = true then sc
  else { sc with irqAsserted := true, lintr := true, timer := sc.itr ≠ 0 && added }

def e82545IcrAssert (sc : Softc) (bits : BitVec 32) (added : Bool) : Softc :=
  { sc with icr := sc.icr ||| bits }.raise (bits &&& ~~~sc.icr &&& sc.ims) added

def e82545ImsChange (sc : Softc) (bits : BitVec 32) (added : Bool) : Softc :=
  { sc with ims := sc.ims ||| bits }.raise (bits &&& sc.icr &&& ~~~sc.ims) added

def e82545IcrDeassert (sc : Softc) (bits : BitVec 32) : Softc :=
  let sc := { sc with icr := sc.icr &&& ~~~bits }
  if sc.irqAsserted = true ∧ sc.pending = 0#32 then { sc with irqAsserted := false, lintr := false }
  else sc

def e82545IntrWrite (sc : Softc) (reg : Reg) (value : BitVec 32) (added : Bool) : Softc :=
  match reg with
  | .icr => sc.e82545IcrDeassert value
  | .itr => { sc with itr := value }
  | .ics => sc.e82545IcrAssert value added
  | .ims => sc.e82545ImsChange value added
  | .imc => { sc with ims := sc.ims &&& ~~~value }

def e82545IntrRead (sc : Softc) : Reg → BitVec 32 × Softc
  | .icr => (sc.icr, { sc with icr := 0 }.e82545IcrDeassert (~~~0))
  | .itr => (sc.itr, sc)
  | .ims => (sc.ims, sc)
  | .ics | .imc => (0, sc)

/-- What `e82545_reset` does once both directions have stopped. -/
def e82545Reset (sc : Softc) : Softc :=
  { sc with lintr := if sc.irqAsserted then false else sc.lintr, icr := 0, itr := 250, ims := 0 }

end Softc

inductive Op where
  | cause (bits : BitVec 32) (added : Bool)
  | write (reg : Reg) (value : BitVec 32) (added : Bool)
  | read (reg : Reg)
  | itrCallback
  | reset

/-- One locked section; there is a callback only while the timer is armed. -/
def Softc.step (sc : Softc) : Op → Softc
  | .cause bits added => sc.e82545IcrAssert bits added
  | .write reg value added => sc.e82545IntrWrite reg value added
  | .read reg => (sc.e82545IntrRead reg).2
  | .itrCallback => if sc.timer then sc.e82545ItrCallback else sc
  | .reset => sc.e82545Reset

structure Faithful (sc : Softc) : Prop where
  line : sc.lintr = sc.irqAsserted
  quiet : sc.pending = 0#32 → sc.lintr = false
  loud : sc.pending ≠ 0#32 →
    sc.lintr = true ∨ sc.timer = true ∧ sc.e82545ItrCallback.lintr = true

/-- A reset while the line is asserted, or a mask that takes its last cause away. -/
def Softc.Strays (sc : Softc) : Op → Prop
  | .reset => sc.irqAsserted = true
  | .write .imc value _ => sc.irqAsserted = true ∧ sc.icr &&& (sc.ims &&& ~~~value) = 0#32
  | _ => False

def Orderly (s : Softc) (op : Op) (t : Softc) : Prop := ¬ s.Strays op ∧ t = s.step op

variable {s : Softc} {icr ims new : BitVec 32}

lemma faithful_iff : Faithful s ↔ s.lintr = s.irqAsserted ∧ (s.pending = 0#32 → s.irqAsserted = false) ∧
    (s.pending ≠ 0#32 → s.irqAsserted = true ∨ s.timer = true) := by
  constructor
  · rintro ⟨hline, hquiet, hloud⟩
    rw [hline] at hquiet hloud
    exact ⟨hline, hquiet, fun hp => (hloud hp).imp_right And.left⟩
  · rintro ⟨hline, hquiet, hloud⟩
    refine ⟨hline, fun hp => hline.trans (hquiet hp), fun hp => ?_⟩
    cases hirq : s.irqAsserted with
    | true => exact .inl (hline.trans hirq)
    | false =>
      have htimer := (hloud hp).resolve_left (by rw [hirq]; exact Bool.false_ne_true)
      refine .inr ⟨htimer, ?_⟩
      rw [Softc.e82545ItrCallback, if_pos ⟨hp, hirq⟩]

lemma pending_or (icr bits ims : BitVec 32) :
    (icr ||| bits) &&& ims = (icr &&& ims) ||| (bits &&& ~~~icr &&& ims) ∧
    icr &&& (ims ||| bits) = (icr &&& ims) ||| (bits &&& icr &&& ~~~ims) := by
  constructor
  all_goals
    ext i hi
    simp only [BitVec.getElem_and, BitVec.getElem_or, BitVec.getElem_not]
    cases icr[i] <;> cases bits[i] <;> cases ims[i] <;> rfl

lemma Faithful.raise (h : Faithful s) (hp : icr &&& ims = s.pending ||| new)
    (added : Bool) : Faithful ({ s with icr, ims }.raise new added) := by
  obtain ⟨hline, hquiet, hloud⟩ := faithful_iff.mp h
  unfold Softc.raise
  split
  next hkeep =>
    refine faithful_iff.mpr ⟨hline, fun hzero => ?_, fun hne => ?_⟩
    · exact hquiet (BitVec.or_eq_zero_iff.mp (hp.symm.trans hzero)).1
    · rcases hkeep with rfl | hon | hon
      · exact hloud fun hzero => hne (hp.trans (by rw [hzero, BitVec.or_zero]))
      · exact .inr hon
      · exact .inl hon
  next hraise =>
    refine faithful_iff.mpr ⟨rfl, fun hzero => absurd ?_ hraise, fun _ => .inl rfl⟩
    exact .inl (BitVec.or_eq_zero_iff.mp (hp.symm.trans hzero)).2

lemma Faithful.icrDeassert (h : s.lintr = s.irqAsserted)
    (hloud : s.pending ≠ 0#32 → s.irqAsserted = true ∨ s.timer = true) (bits : BitVec 32) :
    Faithful (s.e82545IcrDeassert bits) := by
  unfold Softc.e82545IcrDeassert
  dsimp only
  split
  next hoff => exact faithful_iff.mpr ⟨rfl, fun _ => rfl, fun hne => absurd hoff.2 hne⟩
  next hon =>
    refine faithful_iff.mpr ⟨h, fun hzero => ?_, fun hne => hloud fun hzero => hne ?_⟩
    · exact Bool.eq_false_of_not_eq_true fun hirq => hon ⟨hirq, hzero⟩
    · change s.icr &&& ~~~bits &&& s.ims = 0#32
      rw [BitVec.and_assoc, BitVec.and_comm (~~~bits), ← BitVec.and_assoc]
      exact (congrArg (· &&& ~~~bits) hzero).trans BitVec.zero_and

lemma Faithful.itrCallback (h : Faithful s) : Faithful s.e82545ItrCallback := by
  obtain ⟨hline, hquiet, -⟩ := faithful_iff.mp h
  unfold Softc.e82545ItrCallback
  split
  next hon => exact faithful_iff.mpr ⟨rfl, fun hzero => absurd hzero hon.1, fun _ => .inl rfl⟩
  next hoff =>
    refine faithful_iff.mpr ⟨hline, hquiet, fun hne => .inl ?_⟩
    exact Bool.eq_true_of_not_eq_false fun hirq => hoff ⟨hne, hirq⟩

lemma Faithful.step (h : Faithful s) (op : Op) : Faithful (s.step op) ↔ ¬ s.Strays op := by
  obtain ⟨hline, hquiet, hloud⟩ := faithful_iff.mp h
  cases op with
  | cause bits added => exact iff_of_true (h.raise (pending_or s.icr bits s.ims).1 added) not_false
  | itrCallback =>
    refine iff_of_true ?_ not_false
    rw [Softc.step]
    split
    · exact h.itrCallback
    · exact h
  | read reg =>
    refine iff_of_true ?_ not_false
    cases reg with
    | icr => exact .icrDeassert (s := { s with icr := 0 }) hline (fun hne => absurd BitVec.zero_and hne) _
    | _ => exact h
  | write reg value added =>
    cases reg with
    | icr => exact iff_of_true (.icrDeassert hline hloud value) not_false
    | itr => exact iff_of_true (faithful_iff.mpr ⟨hline, hquiet, hloud⟩) not_false
    | ics => exact iff_of_true (h.raise (pending_or s.icr value s.ims).1 added) not_false
    | ims => exact iff_of_true (h.raise (pending_or s.icr value s.ims).2 added) not_false
    | imc =>
      constructor
      · rintro ht ⟨hirq, hzero⟩
        exact Bool.false_ne_true (((faithful_iff.mp ht).2.1 hzero).symm.trans hirq)
      · intro hstay
        refine faithful_iff.mpr ⟨hline, fun hzero => ?_, fun hne => hloud fun hzero => hne ?_⟩
        · exact Bool.eq_false_of_not_eq_true fun hirq => hstay ⟨hirq, hzero⟩
        · change s.icr &&& (s.ims &&& ~~~value) = 0#32
          rw [← BitVec.and_assoc]
          exact (congrArg (· &&& ~~~value) hzero).trans BitVec.zero_and
  | reset =>
    constructor
    · intro ht hirq
      exact Bool.false_ne_true (((faithful_iff.mp ht).2.1 BitVec.zero_and).symm.trans hirq)
    · intro hoff
      have hirq := Bool.eq_false_of_not_eq_true hoff
      refine faithful_iff.mpr ⟨?_, fun _ => hirq, fun hne => absurd BitVec.zero_and hne⟩
      exact (if_neg hoff).trans hline

/-- Along orderly steps the line follows the causes, and the other steps are those that lose it. -/
theorem interrupts_faithful {ops : List Op} (h : Trace Orderly {} ops s) :
    Faithful s ∧ ∀ op, Faithful (s.step op) ↔ ¬ s.Strays op := by
  have hinit : Faithful {} := ⟨rfl, fun _ => rfl, fun hne => absurd rfl hne⟩
  have keep : ∀ s op t, Faithful s → True → Orderly s op t → Faithful t := by
    rintro s op t hs - ⟨hgood, rfl⟩
    exact (hs.step op).mpr hgood
  have hs := h.invariant (fun _ => True) keep (fun _ _ => trivial) hinit
  exact ⟨hs, hs.step⟩

def raised : Softc := { ims := 1, icr := 1, irqAsserted := true, lintr := true, timer := true }

theorem interrupts_faithful_raised :
    Trace Orderly {} [.write .ims 1 true, .cause 1 true] raised ∧ Faithful raised := by
  have hrun : Trace Orderly {} [.write .ims 1 true, .cause 1 true] raised :=
    .cons ⟨not_false, rfl⟩ (.single ⟨not_false, by decide⟩)
  exact ⟨hrun, (interrupts_faithful hrun).1⟩

/-- A reset leaves the flag set, and the next cause finds neither the line nor a callback that
asserts it. A mask leaves the line asserted without a cause. -/
theorem interrupt_lost :
    let again := (raised.e82545Reset.e82545ImsChange 1 true).e82545IcrAssert 1 true
    (raised.e82545Reset.irqAsserted = true ∧ raised.e82545Reset.lintr = false) ∧
    (again.pending ≠ 0#32 ∧ again.lintr = false ∧ again.e82545ItrCallback.lintr = false) ∧
    let masked := raised.e82545IntrWrite .imc 1 true
    masked.pending = 0#32 ∧ masked.lintr = true := by
  decide

end ScorpiHv.E82545

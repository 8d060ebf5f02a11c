import ScorpiHv.Xhci.EventRing

/-!
# Unread events

The guest reads the inserted events in order as long as no insertion is made while the
slots between ERDP and the enqueue index fill the segment.
-/

namespace ScorpiHv.Xhci
open Function CycleRing List

namespace Trb

lemma or_and (x b : UInt32) :
    ((x &&& ~~~b) ||| b) &&& b = b ∧ ((x &&& ~~~b) ||| b) &&& ~~~b = x &&& ~~~b := by
  constructor
  all_goals
    apply UInt32.eq_of_toBitVec_eq
    ext i hi
    simp only [UInt32.toBitVec_and, UInt32.toBitVec_or, UInt32.toBitVec_not, BitVec.getElem_and,
      BitVec.getElem_or, BitVec.getElem_not]
    cases x.toBitVec[i] <;> cases b.toBitVec[i] <;> rfl

lemma and_not_and (x b : UInt32) : (x &&& ~~~b) &&& b = 0 := by
  apply UInt32.eq_of_toBitVec_eq
  ext i hi
  cases x.toBitVec[i] <;> cases b.toBitVec[i] <;> simp

@[simp] lemma cycle_stamp (t : Trb) (pcs : Bool) : (t.stamp pcs).cycle = pcs := by
  cases pcs with
  | false =>
    have h := and_not_and t.dwTrb3 1
    simp [cycle, stamp, h]
  | true =>
    have h := (or_and t.dwTrb3 1).1
    simp [cycle, stamp, h]

@[simp] lemma payload_stamp (t : Trb) (pcs : Bool) : (t.stamp pcs).payload = t.payload := by
  cases pcs with
  | false =>
    have h : ((t.dwTrb3 &&& ~~~(1 : UInt32)) ||| 0) &&& ~~~(1 : UInt32) =
        t.dwTrb3 &&& ~~~(1 : UInt32) := by
      rw [UInt32.or_zero, UInt32.and_assoc, UInt32.and_self]
    exact congrArg (Trb.mk t.qwTrb0 t.dwTrb2) h
  | true => exact congrArg (Trb.mk t.qwTrb0 t.dwTrb2) (or_and t.dwTrb3 1).2

end Trb

namespace World

/-- The segment is not filled by what ERDP leaves, or the insertion is refused. ERSTBA is written
on the first phase, with a segment that carries no mark and an `int` can index. -/
def Good (w : World) : Act → Prop
  | .insert _ => w.sent.length < w.acked + w.rts.tableSize ∨ w.rts.tableSize ≤ w.rts.erEventsCnt
  | .erstba _ size seg => w.rts.eventPcs = true ∧ (∀ j < size, (seg j).cycle = false) ∧
      size ≤ 2 ^ 31
  | _ => True

/-- The guest has read the events in order and sees a TRB exactly when one is unread. The slots
from ERDP to the enqueue index are as they were written, the index is in the segment, and the
phase changes exactly where it wraps. -/
structure Faithful (w : World) : Prop where
  in_order : w.got = w.sent.take w.got.length
  sees : 0 < w.rts.tableSize →
    ((w.rts.seg w.deq).cycle = w.ccs ↔ w.got.length < w.sent.length)
  kept : ∀ k (h : k < w.sent.length), w.acked ≤ k →
    (w.rts.seg (k % w.rts.tableSize)).payload = w.sent[k] ∧
      (w.rts.seg (k % w.rts.tableSize)).cycle = phase w.rts.tableSize k
  index : 0 < w.rts.tableSize → 0 ≤ w.rts.erEnqIdx ∧ w.rts.erEnqIdx < w.rts.tableSize
  safe : ∀ evtrb, w.rts.insertEvent evtrb ≠ none
  toggles : ∀ evtrb r, w.rts.insertEvent evtrb = some r →
    if r.2 = .success then (r.1.eventPcs ≠ w.rts.eventPcs ↔ r.1.erEnqIdx = 0) else r.1 = w.rts

structure Intact (w : World) : Prop where
  size : w.rts.tableSize ≤ 2 ^ 31
  ring : Holds w.rts.tableSize (fun j => ((w.rts.seg j).payload, (w.rts.seg j).cycle)) w.sent
  enq : w.rts.erEnqIdx = (w.sent.length % w.rts.tableSize : Nat)
  pcs : w.rts.eventPcs = phase w.rts.tableSize w.sent.length
  in_order : w.got = w.sent.take w.got.length
  acked : w.acked ≤ w.got.length
  window : w.sent.length ≤ w.acked + w.rts.tableSize
  deq : w.deq = w.got.length % w.rts.tableSize
  ccs : w.ccs = phase w.rts.tableSize w.got.length

namespace Intact
variable {w : World}

lemma got_le (h : w.Intact) : w.got.length ≤ w.sent.length := by
  have heq := congrArg List.length h.in_order
  rw [length_take] at heq
  omega

lemma slot (h : w.Intact) (hsize : 0 < w.rts.tableSize) :
    w.rts.slot = some (w.sent.length % w.rts.tableSize) := by
  have hlt := Nat.mod_lt w.sent.length hsize
  rw [RtsRegs.slot, h.enq, if_pos ⟨by omega, by omega⟩, Int.toNat_natCast]

lemma bmod_small {n : Nat} (h : n < 2 ^ 31) : Int.bmod (n : Int) (2 ^ 32) = n := by
  rw [Int.bmod_def]
  split <;> omega

section
variable (h : w.Intact)
include h

lemma nextIdx (hsize : 0 < w.rts.tableSize) :
    w.rts.nextIdx = some (((w.sent.length + 1) % w.rts.tableSize : Nat) : Int) := by
  have hlt := Nat.mod_lt w.sent.length hsize
  have hle := h.size
  have hnat : ((w.rts.erEnqIdx + 1) % 2 ^ 32).toNat = w.sent.length % w.rts.tableSize + 1 := by
    rw [h.enq]
    omega
  have hmod := Nat.mod_lt (w.sent.length + 1) hsize
  rw [RtsRegs.nextIdx, if_neg (by omega), hnat, Nat.mod_add_mod, bmod_small (by omega)]

def stored (w : World) (evtrb : Trb) (cnt : Nat) : RtsRegs :=
  { w.rts with
    seg := update w.rts.seg (w.sent.length % w.rts.tableSize)
      (evtrb.stamp w.rts.eventPcs)
    erEnqIdx := ((w.sent.length + 1) % w.rts.tableSize : Nat)
    erEventsCnt := cnt
    eventPcs := phase w.rts.tableSize (w.sent.length + 1) }

lemma put (hsize : 0 < w.rts.tableSize) (evtrb : Trb) (cnt : Nat) :
    { w.rts with erEventsCnt := cnt }.put evtrb = some (stored w evtrb cnt, .success) := by
  have hslot : { w.rts with erEventsCnt := cnt }.slot = w.rts.slot := rfl
  have hnext : { w.rts with erEventsCnt := cnt }.nextIdx = w.rts.nextIdx := rfl
  have hphase : (if ((w.sent.length + 1) % w.rts.tableSize : Nat) = (0 : Int) then !w.rts.eventPcs
      else w.rts.eventPcs) = phase w.rts.tableSize (w.sent.length + 1) := by
    rw [phase_succ, h.pcs]
    norm_cast
  rw [RtsRegs.put, hslot, hnext, h.slot hsize, h.nextIdx hsize]
  simp only [Option.bind_eq_bind, Option.bind_some, Option.pure_def, hphase]
  rfl

lemma insert_cases (evtrb : Trb) :
    (w.rts.tableSize ≤ w.rts.erEventsCnt ∧
      w.rts.insertEvent evtrb = some (w.rts, .evRingFull)) ∨
    (w.rts.erEventsCnt < w.rts.tableSize ∧
      ∃ cnt, w.rts.insertEvent evtrb = some (stored w evtrb cnt, .success)) := by
  by_cases hfull : w.rts.tableSize ≤ w.rts.erEventsCnt
  · exact .inl ⟨hfull, if_pos hfull⟩
  have hsize : 0 < w.rts.tableSize := by omega
  refine .inr ⟨by omega, ?_⟩
  rw [RtsRegs.insertEvent, if_neg hfull]
  by_cases hlast : w.rts.erEventsCnt = w.rts.tableSize - 1
  · have hmark := h.ring.next_unmarked hsize
    dsimp only at hmark
    have hne : ¬ (w.rts.seg (w.sent.length % w.rts.tableSize)).cycle = w.rts.eventPcs := by
      rw [hmark, h.pcs]
      cases phase w.rts.tableSize w.sent.length <;> nofun
    rw [if_pos hlast, h.slot hsize]
    refine ⟨w.rts.erEventsCnt, ?_⟩
    simp only [Option.bind_eq_bind, Option.bind_some]
    rw [if_neg hne]
    exact h.put hsize evtrb w.rts.erEventsCnt
  · rw [if_neg hlast]
    exact ⟨_, h.put hsize evtrb _⟩

lemma stored_ring (evtrb : Trb) (cnt : Nat) :
    Holds w.rts.tableSize
      (fun j => (((stored w evtrb cnt).seg j).payload, ((stored w evtrb cnt).seg j).cycle))
      (w.sent ++ [evtrb.payload]) := by
  apply h.ring.push
  · dsimp only [stored]
    rw [update_self, Trb.payload_stamp, Trb.cycle_stamp, h.pcs]
  · intro j hj
    dsimp only [stored]
    rw [update_of_ne hj]

lemma insert {evtrb : Trb} {r : RtsRegs × TrbError} (hr : w.rts.insertEvent evtrb = some r)
    (hgood : w.Good (.insert evtrb)) : (w.inserted evtrb r).Intact := by
  rcases h.insert_cases evtrb with ⟨_, hfull⟩ | ⟨hcnt, cnt, hput⟩
  · rw [hfull] at hr
    cases hr
    exact h
  rw [hput] at hr
  cases hr
  have hgot := h.got_le
  have hroom : w.sent.length < w.acked + w.rts.tableSize := by
    rcases hgood with hroom | hrefused
    · exact hroom
    · omega
  have hlen : (w.sent ++ [evtrb.payload]).length = w.sent.length + 1 := length_append
  refine ⟨h.size, h.stored_ring evtrb cnt, ?_, ?_, ?_, h.acked, ?_, h.deq, h.ccs⟩
  · show _ = (((w.sent ++ [evtrb.payload]).length % w.rts.tableSize : Nat) : Int)
    rw [hlen]
    rfl
  · show _ = phase w.rts.tableSize (w.sent ++ [evtrb.payload]).length
    rw [hlen]
    rfl
  · show w.got = (w.sent ++ [evtrb.payload]).take w.got.length
    rw [take_append_of_le_length hgot]
    exact h.in_order
  · show (w.sent ++ [evtrb.payload]).length ≤ w.acked + w.rts.tableSize
    omega

lemma sees (hsize : 0 < w.rts.tableSize) :
    (w.rts.seg w.deq).cycle = w.ccs ↔ w.got.length < w.sent.length := by
  have hacked := h.acked
  have hwindow := h.window
  rw [h.deq, h.ccs]
  exact h.ring.marked_iff hsize h.got_le (by omega)

lemma read (hdeq : w.deq < w.rts.tableSize) (hmark : (w.rts.seg w.deq).cycle = w.ccs) : w.taken.Intact := by
  have hsize : 0 < w.rts.tableSize := by omega
  have hlt := (h.sees hsize).mp hmark
  have hacked := h.acked
  have hwindow := h.window
  have hslot := h.ring.written w.got.length hlt (by omega)
  rw [← h.deq] at hslot
  have hpayload : (w.rts.seg w.deq).payload = w.sent[w.got.length] := (Prod.mk.inj hslot).1
  have hlen : (w.got ++ [(w.rts.seg w.deq).payload]).length = w.got.length + 1 := length_append
  have hnext : (w.deq + 1) % w.rts.tableSize = (w.got.length + 1) % w.rts.tableSize := by
    rw [h.deq, Nat.mod_add_mod]
  refine ⟨h.size, h.ring, h.enq, h.pcs, ?_, ?_, h.window, ?_, ?_⟩
  · show w.got ++ [(w.rts.seg w.deq).payload] = w.sent.take (w.got ++ [(w.rts.seg w.deq).payload]).length
    rw [hlen, take_succ_eq_append_getElem hlt, ← h.in_order, hpayload]
  · show w.acked ≤ (w.got ++ [(w.rts.seg w.deq).payload]).length
    omega
  · show (w.deq + 1) % w.rts.tableSize = (w.got ++ [(w.rts.seg w.deq).payload]).length % w.rts.tableSize
    rw [hlen, hnext]
  · show (if (w.deq + 1) % w.rts.tableSize = 0 then !w.ccs else w.ccs) =
      phase w.rts.tableSize (w.got ++ [(w.rts.seg w.deq).payload]).length
    rw [hlen, phase_succ, hnext, h.ccs]

end

lemma start {rts : RtsRegs} {ptr : UInt64} {size : Nat} {seg : Nat → Trb}
    (hpcs : rts.eventPcs = true) (hseg : ∀ j < size, (seg j).cycle = false)
    (hsize : size ≤ 2 ^ 31) : ({ rts := rts.writeErstba ptr size seg } : World).Intact where
  size := hsize
  ring := ⟨nofun, fun j hj _ => hseg j hj⟩
  enq := by rfl
  pcs := hpcs.trans (phase_zero size).symm
  in_order := rfl
  acked := Nat.le_refl 0
  window := Nat.zero_le _
  deq := (Nat.zero_mod size).symm
  ccs := (phase_zero size).symm

lemma writeErdpHi_same (rts : RtsRegs) (value : UInt64) :
    (rts.writeErdpHi value).tableSize = rts.tableSize ∧ (rts.writeErdpHi value).seg = rts.seg ∧
    (rts.writeErdpHi value).erEnqIdx = rts.erEnqIdx ∧ (rts.writeErdpHi value).eventPcs = rts.eventPcs := by
  unfold RtsRegs.writeErdpHi
  dsimp only
  split <;> exact ⟨rfl, rfl, rfl, rfl⟩

lemma step {w' : World} {e : Act} (h : w.Intact) (hstep : Step w e w') (hgood : w.Good e) : w'.Intact := by
  cases hstep with
  | insert hr => exact h.insert hr hgood
  | erstba => exact start hgood.1 hgood.2.1 hgood.2.2
  | erdpLo => exact ⟨h.size, h.ring, h.enq, h.pcs, h.in_order, h.acked, h.window, h.deq, h.ccs⟩
  | @erdpHi value k hread hlap =>
    obtain ⟨hsize, hseg, henq, hpcs⟩ := writeErdpHi_same w.rts value
    constructor
    all_goals dsimp only
    · rw [hsize]
      exact h.size
    · rw [hsize, hseg]
      exact h.ring
    · rw [hsize, henq]
      exact h.enq
    · rw [hsize, hpcs]
      exact h.pcs
    · exact h.in_order
    · exact hread
    · rw [hsize]
      exact hlap
    · rw [hsize]
      exact h.deq
    · rw [hsize]
      exact h.ccs
  | read hdeq hmark => exact h.read hdeq hmark

lemma faithful (h : w.Intact) : w.Faithful where
  in_order := h.in_order
  sees := h.sees
  kept := by
    intro k hk hacked
    have hwindow := h.window
    exact Prod.mk.inj (h.ring.written k hk (by omega))
  index := by
    intro hsize
    have hlt := Nat.mod_lt w.sent.length hsize
    rw [h.enq]
    omega
  safe := by
    intro evtrb
    rcases h.insert_cases evtrb with ⟨_, hfull⟩ | ⟨_, cnt, hput⟩
    · rw [hfull]
      nofun
    · rw [hput]
      nofun
  toggles := by
    intro evtrb r hr
    rcases h.insert_cases evtrb with ⟨_, hfull⟩ | ⟨_, cnt, hput⟩
    · rw [hfull] at hr
      cases hr
      rw [if_neg nofun]
    rw [hput] at hr
    cases hr
    show phase w.rts.tableSize (w.sent.length + 1) ≠ w.rts.eventPcs ↔
      (((w.sent.length + 1) % w.rts.tableSize : Nat) : Int) = 0
    rw [phase_succ, h.pcs]
    split_ifs with hwrap
    · rw [hwrap]
      cases phase w.rts.tableSize w.sent.length <;> simp
    · simp only [ne_eq, not_true_eq_false, false_iff]
      omega

/-- An insertion that is not refused, while the segment is filled by what ERDP leaves,
overwrites the oldest of those slots. -/
lemma overwrites (h : w.Intact) {evtrb : Trb} {r : RtsRegs × TrbError}
    (hr : w.rts.insertEvent evtrb = some r) (hbad : ¬ w.Good (.insert evtrb)) :
    ¬ (w.inserted evtrb r).Faithful := by
  intro hf
  have hwindow := h.window
  have hgood : ¬ (w.sent.length < w.acked + w.rts.tableSize ∨ w.rts.tableSize ≤ w.rts.erEventsCnt) := hbad
  have hsize : 0 < w.rts.tableSize := by omega
  have hlen : w.sent.length = w.acked + w.rts.tableSize := by omega
  rcases h.insert_cases evtrb with ⟨hfull, _⟩ | ⟨_, cnt, hput⟩
  · omega
  rw [hput] at hr
  cases hr
  have hlast : w.acked < (w.sent ++ [evtrb.payload]).length := by
    rw [length_append]
    omega
  have hkept := (hf.kept w.acked hlast le_rfl).2
  have hnew : ((stored w evtrb cnt).seg (w.acked % w.rts.tableSize)).cycle =
      !phase w.rts.tableSize w.acked := by
    have hslot : w.sent.length % w.rts.tableSize = w.acked % w.rts.tableSize := by
      rw [hlen, Nat.add_mod_right]
    dsimp only [stored]
    rw [hslot, update_self, Trb.cycle_stamp, h.pcs, hlen, phase_lap hsize]
  have hsame : (!phase w.rts.tableSize w.acked) = phase w.rts.tableSize w.acked := hnew.symm.trans hkept
  cases hp : phase w.rts.tableSize w.acked <;> rw [hp] at hsame <;> cases hsame

end Intact

def initial (ptr : UInt64) (size : Nat) (seg : Nat → Trb) : World :=
  { rts := { tablePtr := ptr, tableSize := size, seg := seg } }

/-- After every run of good steps the ring is faithful, and an insertion leaves it so exactly
when it is a good step. -/
theorem event_ring_faithful {ptr : UInt64} {size : Nat} {seg : Nat → Trb}
    (hseg : ∀ j < size, (seg j).cycle = false) (hsize : size ≤ 2 ^ 31) {acts : List Act} {w : World}
    (h : Trace (fun w e w' => Step w e w' ∧ w.Good e) (initial ptr size seg) acts w) :
    w.Faithful ∧ ∀ evtrb r, w.rts.insertEvent evtrb = some r →
      ((w.inserted evtrb r).Faithful ↔ w.Good (.insert evtrb)) := by
  have hinit : (initial ptr size seg).Intact :=
    @Intact.start { tablePtr := ptr, tableSize := size, seg := seg } ptr size seg rfl hseg hsize
  have keep : ∀ w e w', w.Intact → True → (Step w e w' ∧ w.Good e) → w'.Intact :=
    fun w e w' hw _ hstep => hw.step hstep.1 hstep.2
  have hw := h.invariant (fun _ => True) keep (fun _ _ => trivial) hinit
  refine ⟨hw.faithful, ?_⟩
  intro evtrb r hr
  constructor
  · intro hf
    by_contra hbad
    exact hw.overwrites hr hbad hf
  · intro hgood
    exact (hw.insert hr hgood).faithful

def insertNext (w : World) (evtrb : Trb) : World :=
  match w.rts.insertEvent evtrb with
  | some r => w.inserted evtrb r
  | none => w

lemma step_insertNext {w : World} {evtrb : Trb} (h : (w.rts.insertEvent evtrb).isSome = true) :
    Step w (.insert evtrb) (w.insertNext evtrb) := by
  obtain ⟨r, hr⟩ := Option.isSome_iff_exists.mp h
  rw [insertNext, hr]
  exact .insert hr

theorem event_ring_faithful_two :
    let w := (((initial 0 2 fun _ => {}).insertNext { qwTrb0 := 7 }).insertNext { qwTrb0 := 8 }).taken
    w.got = [{ qwTrb0 := 7 }] ∧ w.Faithful := by
  intro w
  have hrun : Trace (fun w e w' => Step w e w' ∧ w.Good e) (initial 0 2 fun _ => {})
      [.insert { qwTrb0 := 7 }, .insert { qwTrb0 := 8 }, .read] w :=
    .cons ⟨step_insertNext (by decide), .inl (by decide)⟩
      (.cons ⟨step_insertNext (by decide), .inl (by decide)⟩
        (.cons ⟨.read (by decide) (by decide), True.intro⟩ (.nil w)))
  exact ⟨by decide, (event_ring_faithful (fun _ _ => by decide) (by decide) hrun).1⟩

/-- Five events in a ring of four slots are all accepted, and the guest sees nothing. ERSTBA
written on the second phase leaves the guest blind as well. -/
theorem event_ring_overrun :
    (∃ w, Trace Step (initial 0 4 fun _ => {})
        [.insert { qwTrb0 := 1 }, .insert { qwTrb0 := 2 }, .insert { qwTrb0 := 3 },
          .insert { qwTrb0 := 4 }, .insert { qwTrb0 := 5 }] w ∧
      w.sent.length = 5 ∧ w.got = [] ∧ (w.rts.seg 0).qwTrb0 = 5 ∧ ¬ w.Faithful) ∧
    ∃ w, Trace Step (initial 0 1 fun _ => {})
        [.insert { qwTrb0 := 1 }, .erstba 0 16 fun _ => {}, .insert { qwTrb0 := 2 }] w ∧
      w.sent.length = 1 ∧ ¬ w.Faithful := by
  constructor
  · refine ⟨_, .cons (step_insertNext (by decide +kernel)) (.cons (step_insertNext (by decide +kernel))
      (.cons (step_insertNext (by decide +kernel)) (.cons (step_insertNext (by decide +kernel))
        (.cons (step_insertNext (by decide +kernel)) (.nil _))))), by decide +kernel,
      by decide +kernel, by decide +kernel, ?_⟩
    intro hf
    exact absurd ((hf.sees (by decide +kernel)).mpr (by decide +kernel)) (by decide +kernel)
  · refine ⟨_, .cons (step_insertNext (by decide)) (.cons (.erstba _ 0 16 _)
      (.cons (step_insertNext (by decide)) (.nil _))), by decide, ?_⟩
    intro hf
    exact absurd ((hf.sees (by decide)).mpr (by decide)) (by decide)

end World

end ScorpiHv.Xhci

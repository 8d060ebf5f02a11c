import ScorpiHv.Ahci.Port

/-!
# Stopping a port

No command has an effect once the port reads as stopped, as long as the controller is
reset only while nothing is issued or in flight.
-/

namespace ScorpiHv.Ahci
open Function

variable {s m t : Port} {l : Label} {u slot era : Nat}

def Idle (s : Port) : Prop := s.busy = [] ∧ ∀ slot, s.ci slot = none

def CalmStep (s : Port) (l : Label) (t : Port) : Prop := next s l = some t ∧ (l = .hbaReset → Idle s)

abbrev InEra (era : Nat) : Option Nat → Port → Prop :=
  Inv (fun _ r => r.era = era) (fun _ => True) fun _ _ => True

/-- Everything issued and everything in flight is of the present era. -/
structure Present (s : Port) : Prop where
  inv : InEra s.era none s
  bits : ∀ slot tag, s.ci slot = some tag → tag = s.era

def Clears (slot : Nat) (bits bits' : Nat → Option Nat) : Prop :=
  ∀ k, bits' k = bits k ∨ k = slot ∧ bits' k = none

/-- Only the record of `u` changes, and only bits of `slot` are cleared. -/
structure Acted (u slot : Nat) (s t : Port) : Prop where
  others : ∀ v, v ≠ u → t.book v = s.book v
  own : (t.book u).era = (s.book u).era
  ci : Clears slot s.ci t.ci
  sact : Clears slot s.sact t.sact
  era : t.era = s.era
  cr : t.cr = s.cr

lemma Clears.refl (bits : Nat → Option Nat) : Clears slot bits bits := fun _ => .inl rfl

lemma Clears.clear (bits : Nat → Option Nat) : Clears slot bits (Port.clear bits slot) := by
  intro k
  by_cases hk : k = slot
  · exact .inr ⟨hk, by rw [hk]; exact update_self ..⟩
  · exact .inl (update_of_ne hk ..)

variable {f g : Nat → Option Nat}

lemma Clears.ite {c : Prop} [Decidable c] {h : Nat → Option Nat} (hg : Clears slot f g)
    (hh : Clears slot f h) : Clears slot f (if c then g else h) := by
  split
  · exact hg
  · exact hh

lemma Clears.trans {h : Nat → Option Nat} (hfg : Clears slot f g) (hgh : Clears slot g h) :
    Clears slot f h := by
  intro k
  rcases hgh k with heq | hnone
  · rw [heq]
    exact hfg k
  · exact .inr hnone

variable {tag : Nat}

lemma Clears.bit {k : Nat} (h : Clears slot f g) (hbit : g k = some tag) : f k = some tag := by
  rcases h k with heq | ⟨-, hnone⟩
  · rw [← heq, hbit]
  · rw [hnone] at hbit
    cases hbit

namespace Acted

lemma trans (h : Acted u slot s m) (h' : Acted u slot m t) : Acted u slot s t where
  others v hv := (h'.others v hv).trans (h.others v hv)
  own := h'.own.trans h.own
  ci := h.ci.trans h'.ci
  sact := h.sact.trans h'.sact
  era := h'.era.trans h.era
  cr := h'.cr.trans h.cr

variable {pending : List Nat} {free : List (Option Dsm)} {busy : List Aior} {freed : Nat → Nat}

lemma clears {ci sact : Nat → Option Nat} (hci : Clears slot s.ci ci) (hsact : Clears slot s.sact sact) :
    Acted u slot s { s with ci, sact, pending, free, busy, freed } :=
  ⟨fun _ _ => rfl, rfl, hci, hsact, rfl, rfl⟩

lemma frame : Acted u slot s { s with pending, free, busy, freed } :=
  clears (.refl _) (.refl _)

variable {r : Record}

lemma note (hr : r.era = (s.book u).era) : Acted u slot s (s.note u r) where
  others _ hv := update_of_ne hv ..
  own := (congrArg Record.era (update_self ..)).trans hr
  ci := .refl _
  sact := .refl _
  era := rfl
  cr := rfl

lemma acceptNcq (done : Nat) (ncq : Bool) : Acted u slot s (s.acceptNcq slot done ncq) :=
  clears (.ite (.clear _) (.refl _)) (.refl _)

lemma retire (ncq ok : Bool) : Acted u slot s (s.retire u slot ncq ok) := by
  have hn : Acted u slot s (s.note u { s.book u with retired := some ok }) := note rfl
  exact hn.trans (clears (.ite (.refl _) (.clear _)) (.ite (.clear _) (.refl _)))

lemma submit {a : Option Dsm → Aior} (hu : ∀ d, (a d).uid = u)
    (hr : r.era = (s.book u).era) (h : s.submit r a = some t) : Acted u slot s t := by
  unfold Port.submit at h
  split at h <;> cases h
  rw [hu]
  exact (note hr).trans frame

end Acted

/-- A handler ends with its command in flight or retired; it may find the port stopped, or end
a software reset. -/
def Ends (reset : Prop) (era u slot : Nat) (s t : Port) : Prop :=
  ∃ m, InEra era none m ∧ Acted u slot s m ∧
    (t = m ∨ t = m.checkStopped ∨ reset ∧ t = { m with sact := fun _ => none })

variable {reset : Prop}

lemma Ends.after (h : Acted u slot s m) (h' : Ends reset era u slot m t) :
    Ends reset era u slot s t := by
  obtain ⟨k, hk, hacted, hend⟩ := h'
  exact ⟨k, hk, h.trans hacted, hend⟩

structure Working (era u slot : Nat) (s : Port) : Prop where
  inv : InEra era (some u) s
  era : (s.book u).era = era
  slot : (s.book u).slot = slot

namespace Working

variable (h : Working era u slot s)
include h

lemma submit {r : Record} {a : Option Dsm → Aior} (ht : s.submit r a = some t) (hera : r.era = era)
    (hr : r.slot = slot) (hu : ∀ d, (a d).uid = u) (hslot : ∀ d, (a d).slot = slot) :
    Ends reset era u slot s t :=
  ⟨t, h.inv.submit (hr.trans h.slot.symm) hu (fun d => (hslot d).trans hr.symm)
    (fun _ _ => hera) ht, .submit hu (hera.trans h.era.symm) ht, .inl rfl⟩

lemma accept (done : Nat) (ncq : Bool) :
    Working era u slot (s.acceptNcq slot done ncq) := ⟨h.inv.regs, h.era, h.slot⟩

variable {done : Nat}

lemma handleRw {f : Fis} (ht : s.handleRw u slot done f = some t) : Ends reset era u slot s t :=
  .after (.acceptNcq done f.ncq) ((h.accept done f.ncq).submit ht h.era h.slot (fun _ => rfl) fun _ => rfl)

lemma retire (ncq ok : Bool) :
    Working era u slot (s.retire u slot ncq ok) ∧ Acted u slot s (s.retire u slot ncq ok) := by
  have hacted : Acted u slot s (s.retire u slot ncq ok) := .retire ncq ok
  have hself : (s.retire u slot ncq ok).book u = { s.book u with retired := some ok } := update_self ..
  exact ⟨⟨h.inv.retire slot ncq ok, hacted.own.trans h.era, by rw [hself]; exact h.slot⟩, hacted⟩

lemma note {r : Record} (hera : r.era = (s.book u).era) (hslot : r.slot = (s.book u).slot) :
    Working era u slot (s.note u r) ∧ Acted u slot s (s.note u r) := by
  have hself : (s.note u r).book u = r := update_self ..
  refine ⟨⟨h.inv.note hslot, ?_, ?_⟩, .note hera⟩
  · rw [hself, hera, h.era]
  · rw [hself, hslot, h.slot]

lemma finish (ncq ok : Bool) :
    Ends reset era u slot s ((s.retire u slot ncq ok).unpend slot).checkStopped := by
  obtain ⟨hr, hacted⟩ := h.retire ncq ok
  have hu := hr.inv.unpend
  rw [hr.slot] at hu
  exact ⟨_, hu.land trivial, hacted.trans .frame, .inr (.inl rfl)⟩

lemma handleNextTrim {d : Dsm} {len : Nat} {ncq : Bool}
    (ht : s.handleNextTrim u slot d len done ncq = some t) : Ends reset era u slot s t := by
  unfold Port.handleNextTrim at ht
  split at ht
  · cases ht
    refine ⟨_, (h.inv.note ?_).land trivial, .note ?_, .inl rfl⟩ <;> rfl
  next next range hscan =>
    have ha := h.accept done ncq
    refine .after (.acceptNcq done ncq) ?_
    split at ht
    · -- the list is through, and its buffer is freed
      generalize s.acceptNcq slot done ncq = k at ha ht
      have hfree : Acted u slot k (k.freeDsm d) := .frame
      have hk : Working era u slot (k.freeDsm d) := ⟨ha.inv.regs, ha.era, ha.slot⟩
      refine .after hfree ?_
      cases ht
      split
      · obtain ⟨hr, hacted⟩ := hk.retire ncq true
        exact ⟨_, hr.inv.land trivial, hacted, .inl rfl⟩
      · exact hk.finish ncq true
    · exact ha.submit ht ha.era ha.slot (fun _ => rfl) fun _ => rfl

end Working

lemma InEra.empty {era' : Nat} (h : InEra era none s) (hbusy : s.busy = []) : InEra era' none s := by
  refine ⟨h.apart, h.pends, h.old, h.slots, ?_, h.clean, h.landed, nofun⟩
  rw [hbusy]
  exact nofun

lemma checkStopped_cases (s : Port) :
    s.checkStopped.book = s.book ∧ (s.checkStopped = s ∨ s.checkStopped.era = s.era + 1) := by
  unfold Port.checkStopped
  split
  · exact ⟨rfl, .inr rfl⟩
  · exact ⟨rfl, .inl rfl⟩

lemma Present.checkStopped (h : Present s) : Present s.checkStopped := by
  unfold Port.checkStopped
  split
  next hstop =>
    have hbusy : s.busy = [] := by
      rw [List.eq_nil_iff_forall_not_mem]
      intro i hi
      have hp := h.inv.pends i hi
      rw [hstop.2] at hp
      exact List.not_mem_nil hp
    exact ⟨(h.inv.empty hbusy).regs, nofun⟩
  · exact h

/-- The step ends a software reset, which takes back every command. -/
def Label.endsReset : Label → Prop
  | .exec _ (.control reset) _ => reset = true
  | _ => False

/-- A step for command `u` in `slot`. -/
structure Served (reset : Prop) (u slot : Nat) (s t : Port) : Prop where
  others : ∀ v, v ≠ u → t.book v = s.book v
  own : t.era = s.era →
    Clears slot s.ci t.ci ∧ (Clears slot s.sact t.sact ∨ reset ∧ t.sact = fun _ => none)
  stops : s.cr = true → t.cr = false → t.era = s.era + 1

lemma Acted.served (h : Acted u slot s t) : Served reset u slot s t where
  others := h.others
  own _ := ⟨h.ci, .inl h.sact⟩
  stops hs ht := by
    rw [h.cr, hs] at ht
    cases ht

lemma Present.ends (hbits : ∀ slot tag, s.ci slot = some tag → tag = era) (hs : s.era = era)
    (h : Ends reset era u slot s t) : Present t ∧ Served reset u slot s t := by
  obtain ⟨k, hk, hacted, hend⟩ := h
  have hera : k.era = era := hacted.era.trans hs
  have hp : Present k := by
    refine ⟨by rw [hera]; exact hk, fun slot tag hbit => ?_⟩
    rw [hera]
    exact hbits slot tag (hacted.ci.bit hbit)
  rcases hend with rfl | rfl | ⟨hreset, rfl⟩
  · exact ⟨hp, hacted.served⟩
  · refine ⟨hp.checkStopped, ?_⟩
    obtain ⟨hbook, heq | hnew⟩ := checkStopped_cases k
    · rw [heq]
      exact hacted.served
    · rw [hacted.era] at hnew
      refine ⟨fun v hv => by rw [hbook, hacted.others v hv], fun hsame => ?_, fun _ _ => hnew⟩
      omega
  · exact ⟨⟨hp.inv.regs, hp.bits⟩, hacted.others, fun _ => ⟨hacted.ci, .inr ⟨hreset, rfl⟩⟩,
      (@Acted.served _ _ _ _ reset hacted).stops⟩

lemma Present.exec {cmd : Cmd} {f : Fis} (h : Present s) (hslot : slot ∉ s.pending)
    (htag : s.ci slot = some tag) (ht : s.handleSlot slot tag cmd f = some t) :
    Present t ∧ Served (Label.exec slot cmd f).endsReset s.uid slot s t := by
  have hera := h.bits slot tag htag
  generalize hk : { s with uid := s.uid + 1
                           book := update s.book s.uid { cmd, era := tag, slot } } = k at *
  have hbook : k.book s.uid = { cmd, era := tag, slot } := by rw [← hk]; exact update_self ..
  have hw : Working s.era s.uid slot k :=
    ⟨by rw [← hk]; exact h.inv.fresh hslot, by rw [hbook]; exact hera, by rw [hbook]⟩
  have hends : Ends (Label.exec slot cmd f).endsReset s.era s.uid slot k t := by
    simp only [Port.handleSlot, hk] at ht
    cases cmd with
    | now ok =>
      cases ht
      obtain ⟨hr, hacted⟩ := hw.retire false ok
      exact ⟨_, hr.inv.land trivial, hacted, .inl rfl⟩
    | control =>
      obtain ⟨hr, hacted⟩ := hw.retire false true
      cases ht
      split
      · rename_i hreset
        exact ⟨_, hr.inv.land trivial, hacted, .inr (.inr ⟨hreset, rfl⟩)⟩
      · exact ⟨_, hr.inv.land trivial, hacted, .inl rfl⟩
    | rw => exact hw.handleRw ht
    | flush => exact hw.submit ht hw.era hw.slot (fun _ => rfl) fun _ => rfl
    | trim => exact hw.handleNextTrim ht
  obtain ⟨hp, hserved⟩ := Present.ends (by rw [← hk]; exact h.bits) (by rw [← hk]) hends
  rw [← hk] at hserved
  refine ⟨hp, fun v hv => (hserved.others v hv).trans ?_, hserved.own, hserved.stops⟩
  exact update_of_ne hv ..

lemma Present.freeDsm (h : Present s) (d : Dsm) : Present (s.freeDsm d) := ⟨h.inv.regs, h.bits⟩

lemma Present.callback {a : Aior} {err : Bool} {f : Fis} (h : Present s) (ha : a ∈ s.busy)
    (ht : s.ioreqCb a err f = some t) : Present t ∧ Served reset a.uid a.slot s t := by
  have hback : Working s.era a.uid a.slot (s.giveBack a none) :=
    ⟨h.inv.giveBack ha trivial, h.inv.flying a ha, h.inv.slots a ha⟩
  have hgave : Acted a.uid a.slot s (s.giveBack a none) := .frame
  unfold Port.ioreqCb at ht
  dsimp only at ht
  generalize hk : (if err then s.giveBack a none else (s.giveBack a none).note a.uid
    { (s.giveBack a none).book a.uid with prdbc := some a.done }) = k at ht
  obtain ⟨hw, hacted⟩ : Working s.era a.uid a.slot k ∧ Acted a.uid a.slot (s.giveBack a none) k := by
    subst hk
    split
    · exact ⟨hback, .frame⟩
    · exact hback.note rfl rfl
  have hstart := hgave.trans hacted
  split at ht
  · split at ht
    · exact Present.ends h.bits rfl (.after hstart (hw.handleNextTrim ht))
    · exact Present.ends h.bits rfl (.after hstart (hw.handleRw ht))
  · have hends : Present _ ∧ Served reset a.uid a.slot s _ :=
      Present.ends h.bits rfl (.after hstart (hw.finish f.ncq !err))
    cases ht
    split
    · exact ⟨hends.1.freeDsm _, hends.2.others, hends.2.own, hends.2.stops⟩
    · exact hends

lemma Present.cancel (h : Present s) (a : Aior) (ncq : Bool) : Present (s.cancel a ncq) ∧
    (s.cancel a ncq).book = s.book ∧ (s.cancel a ncq).cr = s.cr ∧ (s.cancel a ncq).era = s.era := by
  unfold Port.cancel
  split
  next ha =>
    have hinv := (h.inv.giveBack ha (d := a.dsm) trivial).unpend.land trivial
    rw [show ((s.giveBack a a.dsm).book a.uid).slot = a.slot from h.inv.slots a ha] at hinv
    split
    · exact ⟨⟨hinv.regs, h.bits⟩, rfl, rfl, rfl⟩
    · refine ⟨⟨hinv.regs, fun slot tag hbit => ?_⟩, rfl, rfl, rfl⟩
      exact h.bits slot tag ((Clears.clear s.ci).bit hbit)
  · exact ⟨h, rfl, rfl, rfl⟩

lemma Present.cancels (cancelled : List (Aior × Bool)) (h : Present s)
    (ht : cancelled.foldl (fun s c => Port.cancel s c.1 c.2) s = t) :
    Present t ∧ t.book = s.book ∧ t.cr = s.cr ∧ t.era = s.era := by
  induction cancelled generalizing s with
  | nil =>
    subst ht
    exact ⟨h, rfl, rfl, rfl⟩
  | cons c rest ih =>
    obtain ⟨hp, hbook, hcr, hera⟩ := h.cancel c.1 c.2
    obtain ⟨hrest, hbook', hcr', hera'⟩ := ih hp ht
    exact ⟨hrest, hbook'.trans hbook, hcr'.trans hcr, hera'.trans hera⟩

def Label.served : Label → Option Nat
  | .exec slot _ _ => some slot
  | .callback a _ _ => some a.slot
  | _ => none

/-- Nothing of an era that is over is issued, in flight or changed, and a command is retired under
its own slot; only the end of a software reset clears the others. An era is over when the port reads as stopped or is reset. -/
structure Ended (s : Port) (l : Label) (t : Port) : Prop where
  issued : ∀ slot tag, s.ci slot = some tag → tag = s.era
  flying : ∀ a ∈ s.busy, (s.book a.uid).era = s.era ∧ (s.book a.uid).slot = a.slot
  quiet : ∀ v < s.uid, (s.book v).era ≠ s.era → t.book v = s.book v
  own : ∀ slot, l.served = some slot → t.era = s.era →
    Clears slot s.ci t.ci ∧ (Clears slot s.sact t.sact ∨ l.endsReset ∧ t.sact = fun _ => none)
  stops : s.cr = true ∧ t.cr = false ∨ l = .hbaReset → t.era = s.era + 1

lemma Present.ended (h : Present s) (hs : Served l.endsReset u slot s t) (hl : l.served = some slot)
    (hu : u < s.uid → (s.book u).era = s.era) : Ended s l t where
  issued := h.bits
  flying a ha := ⟨h.inv.flying a ha, h.inv.slots a ha⟩
  quiet v hv hold := hs.others v fun heq => hold (heq ▸ hu (heq ▸ hv))
  own k hk := by
    rw [hl] at hk
    exact Option.some.inj hk ▸ hs.own
  stops hend := by
    rcases hend with hcr | hreset
    · exact hs.stops hcr.1 hcr.2
    · rw [hreset] at hl
      cases hl

lemma Present.endedGuest (h : Present s) (hbook : t.book = s.book) (hl : l.served = none)
    (hstops : s.cr = true ∧ t.cr = false ∨ l = .hbaReset → t.era = s.era + 1) : Ended s l t where
  issued := h.bits
  flying a ha := ⟨h.inv.flying a ha, h.inv.slots a ha⟩
  quiet v _ _ := congrFun hbook v
  own k hk := by
    rw [hl] at hk
    cases hk
  stops := hstops

lemma Present.step (h : Present s) (hstep : CalmStep s l t) : Present t ∧ Ended s l t := by
  obtain ⟨hnext, hcalm⟩ := hstep
  have hcr : s.cr = true ∧ s.cr = false → t.era = s.era + 1 := by
    intro ⟨htrue, hfalse⟩
    rw [htrue] at hfalse
    cases hfalse
  cases l with
  | issue slot =>
    cases hnext
    refine ⟨⟨h.inv.regs, fun k tag => ?_⟩, h.endedGuest rfl rfl (Or.rec hcr nofun)⟩
    dsimp only
    split
    · exact h.bits k tag
    by_cases hk : k = slot
    · rw [hk, update_self]
      exact fun heq => (Option.some.inj heq).symm
    · rw [update_of_ne hk]
      exact h.bits k tag
  | activate =>
    cases hnext
    exact ⟨⟨h.inv.regs, h.bits⟩, h.endedGuest rfl rfl (Or.rec hcr nofun)⟩
  | start =>
    cases hnext
    exact ⟨⟨h.inv.regs, h.bits⟩, h.endedGuest rfl rfl (Or.rec nofun nofun)⟩
  | exec =>
    simp only [next] at hnext
    split at hnext
    next tag htag =>
      split at hnext
      next hrun =>
        obtain ⟨hp, hserved⟩ := h.exec hrun.2 htag hnext
        exact ⟨hp, h.ended hserved rfl fun hlt => absurd hlt (Nat.lt_irrefl _)⟩
      · cases hnext
    · cases hnext
  | callback a =>
    simp only [next] at hnext
    split at hnext
    next ha =>
      obtain ⟨hp, hserved⟩ := h.callback ha hnext
      exact ⟨hp, h.ended hserved rfl fun _ => h.inv.flying a ha⟩
    · cases hnext
  | stop cancelled =>
    cases hnext
    have hst : Present { s with st := false } := ⟨h.inv.regs, h.bits⟩
    obtain ⟨hp, hbook, hsame, hera⟩ := hst.cancels cancelled rfl
    obtain ⟨hbook', heq | hnew⟩ := checkStopped_cases (cancelled.foldl _ { s with st := false })
    · refine ⟨hp.checkStopped, h.endedGuest (hbook'.trans hbook) rfl (Or.rec ?_ nofun)⟩
      rw [show _ = s.cr from (congrArg Port.cr heq).trans hsame]
      exact hcr
    · exact ⟨hp.checkStopped, h.endedGuest (hbook'.trans hbook) rfl fun _ => hnew.trans (by rw [hera])⟩
  | comreset =>
    simp only [next] at hnext
    split at hnext <;> cases hnext
    exact ⟨⟨h.inv.regs, h.bits⟩, h.endedGuest rfl rfl (Or.rec hcr nofun)⟩
  | hbaReset =>
    cases hnext
    obtain ⟨hbusy, hbits⟩ := hcalm rfl
    refine ⟨⟨(h.inv.empty hbusy).regs, ?_⟩, h.endedGuest rfl rfl fun _ => rfl⟩
    intro slot tag (hbit : s.ci slot = some tag)
    rw [hbits] at hbit
    cases hbit

lemma Present.reset_not_ended (h : Present s) (hidle : ¬ Idle s) (ht : next s .hbaReset = some t)
    {t' : Port} : ¬ Ended t l t' := by
  intro hend
  cases ht
  apply hidle
  constructor
  · refine List.eq_nil_iff_forall_not_mem.mpr fun a ha => ?_
    have hnew : (s.book a.uid).era = s.era + 1 := (hend.flying a ha).1
    have hold := h.inv.flying a ha
    omega
  · refine fun slot => Option.eq_none_iff_forall_ne_some.mpr fun tag hbit => ?_
    have hnew : tag = s.era + 1 := hend.issued slot tag hbit
    have hold := h.bits slot tag hbit
    omega

/-- Along resets of an idle controller, a port that reads as stopped or was reset is done with
its commands. After any other reset it is not. -/
theorem stopped_port_is_done {n : Nat} {ls : List Label}
    (hrun : Trace CalmStep (Port.init n) ls s) : (∀ l t, CalmStep s l t → Ended s l t) ∧
      (¬ Idle s → ∀ t, next s .hbaReset = some t → ∀ l t', ¬ Ended t l t') := by
  have h : Present s := by
    refine hrun.invariant (fun _ => True) (fun _ _ _ h _ hstep => (h.step hstep).1) (by simp) ?_
    exact ⟨.init trivial n, nofun⟩
  exact ⟨fun l t hstep => (h.step hstep).2, fun hidle t ht l t' => h.reset_not_ended hidle ht⟩

/-- A read that cannot be cancelled when the port is stopped. -/
theorem stopped_port_is_done_read : ∃ s t, CalmStep s (.callback { uid := 0, slot := 3 } false {}) t ∧
    s.cr = true ∧ t.cr = false ∧ Ended s (.callback { uid := 0, slot := 3 } false {}) t := by
  have hrun : Trace CalmStep (Port.init 1) [.issue 3, .start, .exec 3 .rw {}, .stop []] _ :=
    .cons ⟨rfl, nofun⟩ <| .cons ⟨rfl, nofun⟩ <| .cons ⟨rfl, nofun⟩ <| .single ⟨rfl, nofun⟩
  have hend := (stopped_port_is_done hrun).1 (.callback { uid := 0, slot := 3 } false {})
  refine ⟨_, _, ?_, ?_, ?_, hend _ ⟨rfl, nofun⟩⟩
  · exact ⟨rfl, nofun⟩
  · rfl
  · rfl

/-- A read in flight across a reset retires the command issued afterwards. -/
theorem reset_keeps_command : ∃ t,
    [.issue 0, .start, .exec 0 .rw { todo := 8 }, .hbaReset, .start, .issue 0,
      .callback { done := 8 } false {}].foldlM next (Port.init 1) = some t ∧
    t.book 0 = { cmd := .rw, era := 0, passes := [(0, 8)], prdbc := some 8, retired := some true } ∧
    t.era = 1 ∧ t.uid = 1 ∧ t.ci 0 = none := ⟨_, rfl, rfl, rfl, rfl, rfl⟩

end ScorpiHv.Ahci

import ScorpiHv.Xhci.Doorbell

/-!
# Doorbells that return

A doorbell write returns when the command ring does not come back to a place, and the
TRBs of a transfer end before they use a block that is not there.
-/

namespace ScorpiHv.Xhci
open Usb Walk

section
variable {σ : Type} {c : Commands σ}

lemma walk_succ_front {α : Type} (f : α → Option α) (n : Nat) (a : α) :
    walk f (n + 1) a = (f a).bind (walk f n) := by
  rw [Nat.add_comm, walk_add]
  rfl

lemma completeCommands_isSome (fuel : Nat) (s : CommandState σ) :
    (completeCommands c fuel s).isSome = true ↔ walk (commandTurn c) fuel s = none := by
  induction fuel generalizing s with
  | zero => exact ⟨nofun, nofun⟩
  | succ fuel ih =>
    rw [walk_succ_front, completeCommands]
    cases commandTurn c s with
    | none => exact ⟨fun _ => rfl, fun _ => rfl⟩
    | some t => exact ih t

def CommandState.place (s : CommandState σ) : UInt64 × Bool := (s.trb, s.ccs)

def RingUnwritten (c : Commands σ) (s : CommandState σ) : Prop :=
  ∀ n p sc a, walk (ringTurn (c.mem s.sc)) n s.place = some p →
    c.mem (c.command sc a) p.1 = c.mem sc p.1

lemma commandTurn_place {m : UInt64 → Trb} {s : CommandState σ} (hmem : c.mem s.sc s.trb = m s.trb) :
    (commandTurn c s).map CommandState.place = ringTurn m s.place := by
  unfold commandTurn ringTurn CommandState.place
  rw [hmem]
  by_cases hcycle : (m s.trb).cycle ≠ s.ccs
  · rw [if_pos hcycle, if_pos hcycle]
    rfl
  rw [if_neg hcycle, if_neg hcycle]
  by_cases hlink : (m s.trb).type = Trb.TYPE_LINK
  · simp only [hlink, true_and]
    rfl
  · simp only [hlink, false_and, if_false]
    rfl

lemma commandTurn_mem {s t : CommandState σ} (h : commandTurn c s = some t) :
    t.sc = s.sc ∨ t.sc = c.command s.sc s.trb := by
  unfold commandTurn at h
  dsimp only at h
  split_ifs at h
  all_goals cases h
  · exact .inl rfl
  · exact .inl rfl
  · exact .inr rfl

lemma walk_commands {s : CommandState σ} (hring : RingUnwritten c s) {n : Nat} {t : CommandState σ}
    (h : walk (commandTurn c) n s = some t) : walk (ringTurn (c.mem s.sc)) n s.place = some t.place ∧ ∀ k p,
    walk (ringTurn (c.mem s.sc)) k s.place = some p → c.mem t.sc p.1 = c.mem s.sc p.1 := by
  induction n generalizing t with
  | zero =>
    cases h
    exact ⟨rfl, fun _ _ _ => rfl⟩
  | succ n ih =>
    obtain ⟨r, hr, hturn⟩ := Option.bind_eq_some_iff.mp h
    obtain ⟨hplace, hmem⟩ := ih hr
    have hstep := commandTurn_place (hmem n r.place hplace)
    rw [hturn] at hstep
    constructor
    · rw [walk, hplace]
      exact hstep.symm
    intro k p hp
    rcases commandTurn_mem hturn with hsc | hsc
    · rw [hsc]
      exact hmem k p hp
    · rw [hsc, hring k p r.sc r.trb hp]
      exact hmem k p hp

instance finiteUInt64 : Finite UInt64 :=
  Finite.of_injective UInt64.toFin fun _ _ h => UInt64.toFin_inj.mp h

lemma commands_return_iff {s : CommandState σ} (hring : RingUnwritten c s) :
    (∃ fuel, (completeCommands c fuel s).isSome = true) ↔
      ∀ i j p, walk (ringTurn (c.mem s.sc)) i s.place = some p →
        walk (ringTurn (c.mem s.sc)) j s.place = some p → i = j := by
  rw [← ends_iff]
  have hcongr : ∀ n t, walk (commandTurn c) n s = some t →
      (commandTurn c t).map CommandState.place = ringTurn (c.mem s.sc) t.place := by
    intro n t ht
    obtain ⟨hplace, hmem⟩ := walk_commands hring ht
    exact commandTurn_place (hmem n t.place hplace)
  rw [← ends_congr hcongr]
  apply exists_congr
  intro fuel
  exact completeCommands_isSome fuel s

end

section
variable {σ : Type} {h : Handlers σ} {epid : Nat} {streamid : UInt32}

lemma appendBlock_full {xfer : DataXfer} {addr next : UInt64} {req : BlockReq}
    (hfull : USB_MAX_XFER_BLOCKS - xfer.ndata = 0) : appendBlock xfer addr next streamid req = none := by
  have hle : USB_MAX_XFER_BLOCKS ≤ xfer.ndata := by omega
  rw [appendBlock, usbDataXferAppend, if_pos hle]
  rfl

lemma appendBlock_room {xfer : DataXfer} {addr next : UInt64} {req : BlockReq}
    (hroom : USB_MAX_XFER_BLOCKS - xfer.ndata ≠ 0) :
    ∃ x, appendBlock xfer addr next streamid req = some x ∧ x.ndata = xfer.ndata + 1 := by
  have hlt : ¬ USB_MAX_XFER_BLOCKS ≤ xfer.ndata := by omega
  rw [appendBlock, usbDataXferAppend, if_neg hlt]
  exact ⟨_, rfl, rfl⟩

def TransferState.free (s : TransferState σ) : Nat := USB_MAX_XFER_BLOCKS - s.xfer.ndata

lemma transferTurn_missing {s : TransferState σ} (hfull : s.free = 0)
    (huses : usesBlock (h.mem s.sc) epid s.place = true) : transferTurn h epid streamid s = .missing := by
  unfold usesBlock at huses
  unfold transferTurn
  cases heff : trbEffect (h.mem s.sc) epid s.place with
  | cycleChanged | errout =>
    rw [heff] at huses
    cases huses
  | block =>
    rw [heff] at huses
    dsimp only at huses ⊢
    rw [appendBlock_full hfull, if_pos huses]

def Returns (h : Handlers σ) (epid : Nat) (streamid : UInt32) (s : TransferState σ) : Prop :=
  ∃ fuel sc xfer, handleTransfer h epid streamid fuel s = some (.done sc xfer)

/-- No request and no completion writes the TRB at the address. -/
def Kept (h : Handlers σ) (a : UInt64) : Prop :=
  (∀ sc x, h.mem (h.ueRequest sc x).1 a = h.mem sc a) ∧
    ∀ sc x e, h.mem (h.xferComplete sc x e).1 a = h.mem sc a

/-- Every completion event is accepted. -/
def Accepting (h : Handlers σ) : Prop := ∀ sc x e, (h.xferComplete sc x e).2.2 = true

def trbTurn (m : UInt64 → Trb) (epid : Nat) (p : Place) : Option Place :=
  (nextPlace m epid p).map Prod.fst

/-- Nothing writes a TRB that the loop comes to. -/
def RingKept (h : Handlers σ) (epid : Nat) (s : TransferState σ) : Prop :=
  ∀ n p, walk (trbTurn (h.mem s.sc) epid) n s.place = some p → Kept h p.addr

lemma trbEffect_congr {m m' : UInt64 → Trb} {p : Place} (hm : m p.addr = m' p.addr) :
    trbEffect m epid p = trbEffect m' epid p := by
  unfold trbEffect
  rw [hm]

lemma leave_ended {t : Trb} {p : Place} {req : BlockReq} {used : Bool} (hepid : epid ≠ 1) {req' : BlockReq}
    {used' : Bool} {p' : Place} : t.leave epid p req used ≠ .block req' used' p' (some true) := by
  intro heq
  have hended := (Effect.block.inj heq).2.2.2
  split_ifs at hended
  · cases hended
  · rw [decide_eq_false hepid] at hended
    cases hended

lemma trbEffect_ended {m : UInt64 → Trb} {p : Place} (hepid : epid ≠ 1) {req : BlockReq}
    {used : Bool} {p' : Place} : trbEffect m epid p ≠ .block req used p' (some true) := by
  unfold trbEffect
  dsimp only
  split_ifs
  all_goals first | exact leave_ended hepid | nofun

lemma finishBatch_done (s : TransferState σ) : ∃ sc x, finishBatch h epid s false = .done sc x := by
  unfold finishBatch
  simp only [Bool.false_and, Bool.false_eq_true, if_false]
  split_ifs
  all_goals exact ⟨_, _, rfl⟩

/-- The block of a TRB is there or not used: the loop goes on to the next one. -/
lemma transferTurn_block {s : TransferState σ} {req : BlockReq} {used : Bool} {place : Place}
    {ended : Option Bool} (heff : trbEffect (h.mem s.sc) epid s.place = .block req used place ended)
    (hfit : s.free = 0 → used = false) : ∃ x, USB_MAX_XFER_BLOCKS - x.ndata = s.free - 1 ∧
      transferTurn h epid streamid s = match ended with
        | none => .more ⟨s.sc, x, place⟩
        | some retry => finishBatch h epid ⟨s.sc, x, place⟩ retry := by
  unfold TransferState.free at *
  unfold transferTurn
  rw [heff]
  dsimp only
  by_cases hfull : USB_MAX_XFER_BLOCKS - s.xfer.ndata = 0
  · rw [appendBlock_full hfull, hfit hfull]
    exact ⟨s.xfer, by omega, by cases ended <;> rfl⟩
  · obtain ⟨x, hx, hndata⟩ := @appendBlock_room streamid s.xfer s.place.addr place.addr req hfull
    rw [hx]
    exact ⟨x, by omega, by cases ended <;> rfl⟩

/-- A batch of the control endpoint that asks for another gets it, unless its completion event
is refused. -/
lemma finishBatch_again (s : TransferState σ) :
    (∃ sc, finishBatch h 1 s true = .retry ⟨sc, {}, { s.place with setup := false }⟩ ∧
      ∀ a, Kept h a → h.mem sc a = h.mem s.sc a) ∨
    (∃ sc x, finishBatch h 1 s true = .done sc x) ∧ ¬Accepting h := by
  unfold finishBatch
  simp only [if_true, Bool.true_and]
  by_cases hempty : s.xfer.ndata = 0
  · rw [if_pos hempty]
    exact .inl ⟨s.sc, rfl, fun _ _ => rfl⟩
  rw [if_neg hempty]
  by_cases hcompletes : completes (h.ueRequest s.sc s.xfer).2.2 = true
  · rw [if_pos hcompletes]
    split
    · refine .inl ⟨_, rfl, fun a ha => ?_⟩
      rw [ha.2, ha.1]
    · rename_i hrefused
      exact .inr ⟨⟨_, _, rfl⟩, fun haccept => hrefused (haccept _ _ _)⟩
  · rw [if_neg hcompletes]
    exact .inl ⟨_, rfl, fun a ha => ha.1 _ _⟩

lemma transferTurn_last {s : TransferState σ}
    (hfit : s.free = 0 → usesBlock (h.mem s.sc) epid s.place = false)
    (hnext : nextPlace (h.mem s.sc) epid s.place = none) :
    ∃ sc x, transferTurn h epid streamid s = .done sc x := by
  unfold usesBlock at hfit
  unfold nextPlace at hnext
  cases heff : trbEffect (h.mem s.sc) epid s.place with
  | cycleChanged =>
    unfold transferTurn
    rw [heff]
    exact finishBatch_done s
  | errout =>
    unfold transferTurn
    rw [heff]
    exact ⟨_, _, rfl⟩
  | block req used place ended =>
    rw [heff] at hnext hfit
    obtain ⟨x, -, hturn⟩ := @transferTurn_block σ h epid streamid s req used place ended heff hfit
    rcases ended with _ | _ | _
    · cases hnext
    · rw [hturn]
      exact finishBatch_done _
    · cases hnext

/-- A turn that comes to another place is at its TRB next. -/
lemma transferTurn_next {s : TransferState σ} {p : Place} {again : Bool}
    (hfit : s.free = 0 → usesBlock (h.mem s.sc) epid s.place = false)
    (hnext : nextPlace (h.mem s.sc) epid s.place = some (p, again)) :
    (∃ t, (transferTurn h epid streamid s = .more t ∨ transferTurn h epid streamid s = .retry t) ∧
      t.place = p ∧ t.free = (if again then USB_MAX_XFER_BLOCKS else s.free - 1) ∧
      ∀ a, (epid = 1 → Kept h a) → h.mem t.sc a = h.mem s.sc a) ∨
    epid = 1 ∧ (∃ sc x, transferTurn h epid streamid s = .done sc x) ∧ ¬Accepting h := by
  unfold usesBlock at hfit
  unfold nextPlace at hnext
  cases heff : trbEffect (h.mem s.sc) epid s.place with
  | cycleChanged | errout =>
    rw [heff] at hnext
    cases hnext
  | block req used place ended =>
    rw [heff] at hnext hfit
    obtain ⟨x, hx, hturn⟩ := @transferTurn_block σ h epid streamid s req used place ended heff hfit
    rcases ended with _ | _ | _
    · cases hnext
      exact .inl ⟨⟨s.sc, x, p⟩, .inl hturn, rfl, hx, fun _ _ => rfl⟩
    · cases hnext
    · have hepid : epid = 1 := by
        by_contra hne
        exact trbEffect_ended hne heff
      subst hepid
      cases hnext
      rcases @finishBatch_again σ h ⟨s.sc, x, place⟩ with ⟨sc, hretry, hmem⟩ | ⟨hdone, hrefused⟩
      · exact .inl ⟨_, .inr (hturn.trans hretry), rfl, rfl, fun a ha => hmem a (ha rfl)⟩
      · rw [hturn]
        exact .inr ⟨rfl, hdone, hrefused⟩

lemma returns_of_turn {s t : TransferState σ} (hturn : transferTurn h epid streamid s = .more t ∨
    transferTurn h epid streamid s = .retry t) :
    Returns h epid streamid s ↔ Returns h epid streamid t := by
  have hrun : ∀ fuel, handleTransfer h epid streamid (fuel + 1) s = handleTransfer h epid streamid fuel t := by
    intro fuel
    rw [handleTransfer]
    rcases hturn with hturn | hturn <;> rw [hturn]
  constructor
  · rintro ⟨_ | fuel, sc, x, hdone⟩
    · cases hdone
    · exact ⟨fuel, sc, x, (hrun fuel).symm.trans hdone⟩
  · rintro ⟨fuel, sc, x, hdone⟩
    exact ⟨fuel + 1, sc, x, (hrun fuel).trans hdone⟩

/-- The loop reads the TRBs of `m` as long as it runs. -/
def Reads (h : Handlers σ) (epid : Nat) (m : UInt64 → Trb) (s : TransferState σ) : Prop :=
  ∀ n p, walk (trbTurn m epid) n s.place = some p →
    h.mem s.sc p.addr = m p.addr ∧ (epid = 1 → Kept h p.addr)

section
variable {m : UInt64 → Trb} {s : TransferState σ} (hreads : Reads h epid m s)
include hreads

lemma Reads.effect : trbEffect (h.mem s.sc) epid s.place = trbEffect m epid s.place :=
  trbEffect_congr (hreads 0 s.place rfl).1

lemma Reads.nextPlace_eq : nextPlace (h.mem s.sc) epid s.place = nextPlace m epid s.place := by
  rw [nextPlace, hreads.effect, nextPlace]

lemma Reads.usesBlock_eq : usesBlock (h.mem s.sc) epid s.place = usesBlock m epid s.place := by
  rw [usesBlock, hreads.effect, usesBlock]

lemma Reads.next {t : TransferState σ} {p : Place} {again : Bool}
    (hnext : nextPlace m epid s.place = some (p, again)) (hp : t.place = p)
    (hmem : ∀ a, (epid = 1 → Kept h a) → h.mem t.sc a = h.mem s.sc a) : Reads h epid m t := by
  intro n q hq
  have hwalk : walk (trbTurn m epid) (n + 1) s.place = some q := by
    rw [walk_succ_front, trbTurn, hnext]
    rw [hp] at hq
    exact hq
  obtain ⟨hread, hkept⟩ := hreads (n + 1) q hwalk
  exact ⟨(hmem q.addr hkept).trans hread, hkept⟩

end

lemma returns_of_fits {m : UInt64 → Trb} {free : Nat} {p : Place} (hfits : TrbsFit m epid free p)
    {s : TransferState σ} (hreads : Reads h epid m s) (hp : s.place = p)
    (hfree : s.free = free) : Returns h epid streamid s := by
  induction hfits generalizing s with
  | last hfit hnext =>
    subst hp
    subst hfree
    rw [← hreads.nextPlace_eq] at hnext
    rw [← hreads.usesBlock_eq] at hfit
    obtain ⟨sc, x, hturn⟩ := @transferTurn_last σ h epid streamid s hfit hnext
    exact ⟨1, sc, x, by rw [handleTransfer, hturn]⟩
  | next hfit hnext _ ih =>
    subst hp
    subst hfree
    rw [← hreads.usesBlock_eq] at hfit
    have hplace := hreads.nextPlace_eq.trans hnext
    rcases @transferTurn_next σ h epid streamid s _ _ hfit hplace with
      ⟨t, hturn, htp, htfree, hmem⟩ | ⟨-, ⟨sc, x, hturn⟩, -⟩
    · exact (returns_of_turn hturn).mpr (ih (hreads.next hnext htp hmem) htp htfree)
    · exact ⟨1, sc, x, by rw [handleTransfer, hturn]⟩

lemma fits_of_returns {m : UInt64 → Trb} (haccept : epid = 1 → Accepting h) {s : TransferState σ}
    (hreads : Reads h epid m s) (hreturns : Returns h epid streamid s) :
    TrbsFit m epid s.free s.place := by
  obtain ⟨fuel, sc, x, hrun⟩ := hreturns
  induction fuel generalizing s with
  | zero => cases hrun
  | succ fuel ih =>
    have hfit : s.free = 0 → usesBlock (h.mem s.sc) epid s.place = false := by
      intro hfull
      by_contra huses
      rw [handleTransfer, transferTurn_missing hfull (Bool.eq_true_of_not_eq_false huses)] at hrun
      cases hrun
    have hfit' := hfit
    rw [hreads.usesBlock_eq] at hfit'
    cases hnext : nextPlace m epid s.place with
    | none => exact .last hfit' hnext
    | some next =>
      have hplace := hreads.nextPlace_eq.trans hnext
      rcases @transferTurn_next σ h epid streamid s _ _ hfit hplace with
        ⟨t, hturn, htp, htfree, hmem⟩ | ⟨hepid, -, hrefused⟩
      · rw [handleTransfer] at hrun
        have hrest : handleTransfer h epid streamid fuel t = some (.done sc x) := by
          rcases hturn with hturn | hturn <;> rw [hturn] at hrun <;> exact hrun
        have hfits := ih (hreads.next hnext htp hmem) hrest
        rw [htp, htfree] at hfits
        exact .next hfit' hnext hfits
      · exact absurd (haccept hepid) hrefused

lemma reads_self {s : TransferState σ} (hring : epid = 1 → RingKept h epid s) :
    Reads h epid (h.mem s.sc) s := by
  intro n p hp
  exact ⟨rfl, fun hepid => hring hepid n p hp⟩

end

def mkTrb (type flags : UInt32) (ptr : UInt64) : Trb :=
  { qwTrb0 := ptr, dwTrb3 := (type <<< (10 : UInt32)) ||| flags }

/-- Memory with one no-op at zero; the TRBs behind it have the other cycle bit. -/
def oneNoop (a : UInt64) : Trb := if a = 0 then mkTrb 0x08 1 0 else {}

def idle (m : UInt64 → Trb) : Handlers Unit where
  mem _ := m
  ueRequest _ xfer := ((), xfer, .normalCompletion)
  xferComplete _ xfer _ := ((), xfer, true)
  tryUsbXfer _ xfer := ((), xfer)

/-- The control endpoint's two batches: a chained no-op that asks for an interrupt, and a last one
behind it. -/
def twoBatches (a : UInt64) : Trb :=
  if a = 0 then mkTrb 0x08 0x31 0 else if a = 16 then mkTrb 0x08 1 0 else {}

/-- A command that writes the ring, which is `m` before and `m'` behind it. -/
def rewriting (m m' : UInt64 → Trb) : Commands Bool := ⟨fun w => if w then m' else m, fun _ _ => true⟩

def linkTo (place ptr : UInt64) (other : Trb) (a : UInt64) : Trb :=
  if a = place then mkTrb 0x06 1 ptr else other

end ScorpiHv.Xhci

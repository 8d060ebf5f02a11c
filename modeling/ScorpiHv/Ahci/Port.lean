import ScorpiHv.Lib.Trace

/-!
# An AHCI port

`pci_ahci.c`: the guest issues slots, the port hands their commands to the block layer
in a pool of request objects, and the block layer calls back. `ahci_handle_port` is a step
for every slot it may take. Time is divided into eras, which end whenever the port reads as
stopped.
-/

namespace ScorpiHv.Ahci
open Function List

/-- The first sector and the length of an entry of a TRIM list. -/
abbrev Range := Nat × Nat

inductive Cmd where
  /-- A command that is retired at once, with success or an error. -/
  | now (ok : Bool)
  /-- A FIS with the C bit clear, which may end a software reset. -/
  | control (reset : Bool)
  | rw
  | flush
  | trim (list : List Range)
  deriving DecidableEq

/-- What a handler reads of the command FIS, and of the PRDT in `ahci_build_iov`. -/
structure Fis where
  ncq : Bool := false
  len : Nat := 0
  todo : Nat := 0
  more : Bool := false

/-- A buffer from `ahci_handle_dsm_trim`, and the command it was read for. -/
structure Dsm where
  uid : Nat
  list : List Range
  deriving DecidableEq

/-- A `struct ahci_ioreq` in flight. -/
structure Aior where
  uid : Nat := 0
  slot : Nat := 0
  len : Nat := 0
  done : Nat := 0
  more : Bool := false
  dsm : Option Dsm := none
  deriving DecidableEq

/-- What became of a command; `passes` are the latest first. -/
structure Record where
  cmd : Cmd := .flush
  era : Nat := 0
  slot : Nat := 0
  deleted : List Range := []
  passes : List (Nat × Nat) := []
  more : Bool := false
  overread : Bool := false
  prdbc : Option Nat := none
  retired : Option Bool := none
  deriving DecidableEq

/-- `struct ahci_port`. A set bit of `ci` or `sact` has the era in which it was set. Of a free
request object only the `dsm` that was left in it matters. -/
structure Port where
  st : Bool := false
  cr : Bool := false
  ci : Nat → Option Nat := fun _ => none
  sact : Nat → Option Nat := fun _ => none
  pending : List Nat := []
  free : List (Option Dsm)
  busy : List Aior := []
  era : Nat := 0
  uid : Nat := 0
  book : Nat → Record := fun _ => {}
  freed : Nat → Nat := fun _ => 0

namespace Port

/-- `pci_ahci_ioreq_init` -/
def init (ioqsz : Nat) : Port := { free := List.replicate ioqsz none }

def note (s : Port) (u : Nat) (r : Record) : Port := { s with book := update s.book u r }

def clear (bits : Nat → Option Nat) (slot : Nat) : Nat → Option Nat := update bits slot none

def checkStopped (s : Port) : Port :=
  if s.st = false ∧ s.pending = [] then
    { s with cr := false, ci := fun _ => none, sact := fun _ => none, era := s.era + 1 }
  else s

/-- `p->pending &= ~(1 << slot)` -/
def unpend (s : Port) (slot : Nat) : Port := { s with pending := s.pending.filter (· ≠ slot) }

/-- `ahci_write_fis_d2h_ncq`, on the first pass of a queued command. -/
def acceptNcq (s : Port) (slot done : Nat) (ncq : Bool) : Port :=
  { s with ci := if ncq ∧ done = 0 then clear s.ci slot else s.ci }

/-- `ahci_write_fis_sdb` and `ahci_write_fis_d2h` -/
def retire (s : Port) (u slot : Nat) (ncq ok : Bool) : Port :=
  { s.note u { s.book u with retired := some ok } with
    ci := if ncq then s.ci else clear s.ci slot
    sact := if ncq ∧ ok then clear s.sact slot else s.sact }

def freeDsm (s : Port) (d : Dsm) : Port :=
  { s with freed := update s.freed d.uid (s.freed d.uid + 1) }

/-- A command's record changes and a request of it is given to the block layer, in the first
object of the free list; without one the assertion fails. -/
def submit (s : Port) (r : Record) (a : Option Dsm → Aior) : Option Port :=
  match s.free with
  | [] => none
  | d :: free =>
    let a := a d
    some { s.note a.uid r with free, busy := a :: s.busy, pending := a.slot :: s.pending }

/-- A request goes back to the free list. -/
def giveBack (s : Port) (a : Aior) (d : Option Dsm) : Port :=
  { s with busy := s.busy.erase a, free := s.free ++ [d] }

/-- `ahci_handle_rw`; the object keeps its `dsm`. Left out are the return for a FIS that is not
H2D and the assertion that `aior->len` is no less than `aior->done`: each pass adds at most what
is left of the length. -/
def handleRw (s : Port) (u slot done : Nat) (f : Fis) : Option Port :=
  (s.acceptNcq slot done f.ncq).submit
    { s.book u with passes := (done, f.todo) :: (s.book u).passes, more := f.more } fun dsm =>
    { uid := u, slot, len := f.len, done := done + f.todo, more := f.more, dsm }

/-- `ahci_handle_flush`; the object keeps its `dsm`. -/
def handleFlush (s : Port) (u slot : Nat) : Option Port :=
  s.submit (s.book u) fun dsm => { uid := u, slot, dsm }

/-- How the search for the next range ends. -/
inductive Found where
  | overread
  | at (done : Nat) (range : Range)

/-- The loop of `ahci_handle_next_trim` over the entries from `done` on. -/
def scan : List Range → Nat → Nat → Found
  | [], done, len => if done < len then .overread else .at done (0, 0)
  | e :: rest, done, len =>
    if done < len then
      if e.2 ≠ 0 then .at (done + 8) e else scan rest (done + 8) len
    else .at done (0, 0)

def handleNextTrim (s : Port) (u slot : Nat) (d : Dsm) (len done : Nat) (ncq : Bool) :
    Option Port :=
  match scan (d.list.drop (done / 8)) done len with
  | .overread => some (s.note u { s.book u with overread := true })
  | .at next range =>
    let s := s.acceptNcq slot done ncq
    if next = len then
      let s := (s.freeDsm d).retire u slot ncq true
      some (if done = 0 then s else (s.unpend slot).checkStopped)
    else
      s.submit { s.book u with deleted := (s.book u).deleted ++ [range] } fun _ =>
        { uid := u, slot, len, done := next, dsm := some d, more := true }

/-- `ahci_handle_slot`, on a bit of `ci` that was set in the era `tag`. -/
def handleSlot (s : Port) (slot tag : Nat) (cmd : Cmd) (f : Fis) : Option Port :=
  let u := s.uid
  let s := { s with uid := u + 1, book := update s.book u { cmd, era := tag, slot } }
  match cmd with
  | .now ok => some (s.retire u slot false ok)
  | .control reset =>
    let s := s.retire u slot false true
    some (if reset then { s with sact := fun _ => none } else s)
  | .rw => s.handleRw u slot 0 f
  | .flush => s.handleFlush u slot
  | .trim list => s.handleNextTrim u slot ⟨u, list⟩ (8 * list.length) 0 f.ncq

def ioreqCb (s : Port) (a : Aior) (err : Bool) (f : Fis) : Option Port :=
  let s := s.giveBack a none
  let s := if err then s else s.note a.uid { s.book a.uid with prdbc := some a.done }
  if err = false ∧ a.more = true then
    match a.dsm with
    | some d => s.handleNextTrim a.uid a.slot d a.len a.done f.ncq
    | none => s.handleRw a.uid a.slot a.done f
  else
    let s := ((s.retire a.uid a.slot f.ncq (!err)).unpend a.slot).checkStopped
    some (match a.dsm with
      | some d => s.freeDsm d
      | none => s)

/-- What `ahci_port_stop` does to a request that `blockif_cancel` took back. -/
def cancel (s : Port) (a : Aior) (ncq : Bool) : Port :=
  if a ∈ s.busy then
    let s := (s.giveBack a a.dsm).unpend a.slot
    if ncq then { s with sact := clear s.sact a.slot } else { s with ci := clear s.ci a.slot }
  else s

end Port

inductive Label where
  | issue (slot : Nat)
  | activate (slot : Nat)
  | exec (slot : Nat) (cmd : Cmd) (f : Fis)
  | callback (a : Aior) (err : Bool) (f : Fis)
  | stop (cancelled : List (Aior × Bool))
  | start
  | comreset
  | hbaReset

def next (s : Port) : Label → Option Port
  | .issue slot =>
    some { s with ci := if (s.ci slot).isSome then s.ci else update s.ci slot (some s.era) }
  | .activate slot => some { s with sact := update s.sact slot (some s.era) }
  | .exec slot cmd f =>
    match s.ci slot with
    | some tag => if s.st = true ∧ slot ∉ s.pending then s.handleSlot slot tag cmd f else none
    | none => none
  | .callback a err f => if a ∈ s.busy then s.ioreqCb a err f else none
  | .stop cancelled =>
    some (cancelled.foldl (fun s c => Port.cancel s c.1 c.2) { s with st := false }).checkStopped
  | .start => some { s with st := true, cr := true }
  | .comreset => if s.st then none else some { s with sact := fun _ => none }
  | .hbaReset =>
    some { s with st := false, cr := false, sact := fun _ => none, era := s.era + 1 }


variable {F : Aior → Record → Prop} {G : Option Dsm → Prop} {L : Nat → Record → Prop}

/-- `F` holds of the requests in flight, `G` of the free objects and `L` of the commands that
are not in flight. A handler works on one command, the hole, that is neither yet. -/
structure Inv (F : Aior → Record → Prop) (G : Option Dsm → Prop) (L : Nat → Record → Prop)
    (hole : Option Nat) (s : Port) : Prop where
  apart : (s.busy.map (·.slot)).Nodup
  pends : ∀ a ∈ s.busy, a.slot ∈ s.pending
  old : ∀ a ∈ s.busy, a.uid < s.uid
  slots : ∀ a ∈ s.busy, (s.book a.uid).slot = a.slot
  flying : ∀ a ∈ s.busy, F a (s.book a.uid)
  clean : ∀ d ∈ s.free, G d
  landed : ∀ u < s.uid, hole ≠ some u → (∀ a ∈ s.busy, a.uid ≠ u) → L u (s.book u)
  held : ∀ u, hole = some u → u < s.uid ∧ ∀ a ∈ s.busy, a.slot ≠ (s.book u).slot

namespace Inv

variable {s t : Port} {u : Nat} {r : Record} {hole : Option Nat}

lemma init (hG : G none) (n : Nat) : Inv F G L none (Port.init n) :=
  ⟨.nil, nofun, nofun, nofun, nofun, fun _ hd => eq_of_mem_replicate hd ▸ hG, nofun, nofun⟩

lemma regs (h : Inv F G L hole s) {st cr : Bool} {ci sact : Nat → Option Nat} {era : Nat}
    {freed : Nat → Nat} : Inv F G L hole { s with st, cr, ci, sact, era, freed } :=
  ⟨h.apart, h.pends, h.old, h.slots, h.flying, h.clean, h.landed, h.held⟩

lemma uid_ne (h : Inv F G L (some u) s) {a : Aior} (ha : a ∈ s.busy) : a.uid ≠ u := by
  rintro rfl
  exact (h.held _ rfl).2 a ha (h.slots a ha).symm

lemma rebook {hole' : Option Nat} (h : Inv F G L hole s) {uid : Nat} {book : Nat → Record}
    (hle : s.uid ≤ uid) (hbook : ∀ a ∈ s.busy, book a.uid = s.book a.uid)
    (hlanded : ∀ v < uid, hole' ≠ some v → v < s.uid ∧ hole ≠ some v ∧ book v = s.book v)
    (hheld : ∀ v, hole' = some v → v < uid ∧ ∀ a ∈ s.busy, a.slot ≠ (book v).slot) :
    Inv F G L hole' { s with uid, book } := by
  refine ⟨h.apart, h.pends, fun a ha => Nat.lt_of_lt_of_le (h.old a ha) hle, ?_, ?_, h.clean, ?_, hheld⟩
  · exact fun a ha => (congrArg Record.slot (hbook a ha)).trans (h.slots a ha)
  · intro a ha
    show F a (book a.uid)
    rw [hbook a ha]
    exact h.flying a ha
  · intro v hv hne hnone
    obtain ⟨hlt, hne', heq⟩ := hlanded v hv hne
    show L v (book v)
    rw [heq]
    exact h.landed v hlt hne' hnone

lemma fresh (h : Inv F G L none s) (hslot : r.slot ∉ s.pending) : Inv F G L (some s.uid)
    { s with uid := s.uid + 1, book := update s.book s.uid r } := by
  apply h.rebook (Nat.le_succ _)
  · exact fun a ha => update_of_ne (Nat.ne_of_lt (h.old a ha)) ..
  · intro v hv hne
    have hvu : v ≠ s.uid := fun heq => hne (heq ▸ rfl)
    exact ⟨by omega, nofun, update_of_ne hvu ..⟩
  · rintro _ ⟨⟩
    refine ⟨Nat.lt_succ_self _, fun a ha heq => hslot ?_⟩
    rw [update_self] at heq
    rw [← heq]
    exact h.pends a ha

section
variable (h : Inv F G L (some u) s)
include h

lemma note (hr : r.slot = (s.book u).slot) : Inv F G L (some u) (s.note u r) := by
  apply h.rebook (Nat.le_refl _)
  · exact fun a ha => update_of_ne (h.uid_ne ha) ..
  · intro v hv hne
    have hvu : v ≠ u := fun heq => hne (heq ▸ rfl)
    exact ⟨hv, hne, update_of_ne hvu ..⟩
  · rintro _ ⟨⟩
    rw [update_self, hr]
    exact h.held u rfl

lemma retire (slot : Nat) (ncq ok : Bool) : Inv F G L (some u) (s.retire u slot ncq ok) :=
  (h.note (show ({ s.book u with retired := some ok } : Record).slot = _ from rfl)).regs

lemma unpend : Inv F G L (some u) (s.unpend (s.book u).slot) := by
  refine ⟨h.apart, ?_, h.old, h.slots, h.flying, h.clean, h.landed, h.held⟩
  intro a ha
  exact mem_filter.mpr ⟨h.pends a ha, decide_eq_true ((h.held u rfl).2 a ha)⟩

lemma land (hL : L u (s.book u)) : Inv F G L none s := by
  refine ⟨h.apart, h.pends, h.old, h.slots, h.flying, h.clean, ?_, nofun⟩
  intro v hv _ hnone
  by_cases hvu : v = u
  · exact hvu ▸ hL
  · exact h.landed v hv (fun heq => hvu (Option.some.inj heq).symm) hnone

lemma submit {a : Option Dsm → Aior} (hr : r.slot = (s.book u).slot)
    (hu : ∀ d, (a d).uid = u) (hslot : ∀ d, (a d).slot = r.slot) (hF : ∀ d, G d → F (a d) r)
    (ht : s.submit r a = some t) : Inv F G L none t := by
  unfold Port.submit at ht
  split at ht
  · cases ht
  next d free hfree =>
    cases ht
    have hn := h.note hr
    have hself : (s.note u r).book u = r := update_self ..
    rw [hu d]
    refine ⟨?_, ?_, ?_, ?_, ?_, ?_, ?_, nofun⟩
    · refine nodup_cons.mpr ⟨fun hin => ?_, h.apart⟩
      obtain ⟨b, hb, heq⟩ := mem_map.mp hin
      exact (h.held u rfl).2 b hb (heq.trans ((hslot d).trans hr))
    all_goals try rw [forall_mem_cons]
    · exact ⟨mem_cons_self, fun b hb => mem_cons_of_mem _ (h.pends b hb)⟩
    · exact ⟨by rw [hu d]; exact (h.held u rfl).1, h.old⟩
    · exact ⟨by rw [hu d, hself, hslot d], hn.slots⟩
    · refine ⟨?_, hn.flying⟩
      rw [hu d, hself]
      exact hF d (h.clean d (hfree ▸ mem_cons_self))
    · exact fun b hb => h.clean b (hfree ▸ mem_cons_of_mem _ hb)
    · intro v hv _ hnone
      rw [forall_mem_cons, hu d] at hnone
      exact hn.landed v hv (fun heq => hnone.1 (Option.some.inj heq)) hnone.2

end

lemma giveBack (h : Inv F G L none s) {a : Aior} (ha : a ∈ s.busy) {d : Option Dsm} (hG : G d) :
    Inv F G L (some a.uid) (s.giveBack a d) := by
  have hperm := (perm_cons_erase ha).map (·.slot)
  obtain ⟨hout, hapart⟩ := nodup_cons.mp (hperm.nodup_iff.mp h.apart)
  have hmem : ∀ b ∈ s.busy.erase a, b ∈ s.busy := fun b hb => mem_of_mem_erase hb
  refine ⟨hapart, fun b hb => h.pends b (hmem b hb), fun b hb => h.old b (hmem b hb),
    fun b hb => h.slots b (hmem b hb), fun b hb => h.flying b (hmem b hb), ?_, ?_, ?_⟩
  · intro e he
    rcases mem_append.mp he with he | he
    · exact h.clean e he
    · exact mem_singleton.mp he ▸ hG
  · intro v hv hne hnone
    refine h.landed v hv nofun fun b hb heq => ?_
    by_cases hba : b = a
    · exact hne (by rw [← hba, heq])
    · exact hnone b ((mem_erase_of_ne hba).mpr hb) heq
  · rintro _ ⟨⟩
    exact ⟨h.old a ha, fun b hb heq => hout (mem_map.mpr ⟨b, hb, heq.trans (h.slots a ha)⟩)⟩

end Inv

end ScorpiHv.Ahci

import ScorpiHv.Sco.Persist

/-!
# The life of an image

An image is created, opened, called, closed and opened again.
-/

namespace ScorpiHv.Sco
open Bytes

/-- `sco_close` and `sco_open`: the file and what the host has yet to sync carry over,
and with them the records of what was issued. -/
def Image.reopen (s : Image) (readonly : Bool) : Except Errno Image := do
  let t ← scoOpen s.fd.file readonly
  .ok { t with fd := s.fd, guestWrites := s.guestWrites, failedCommits := s.failedCommits }

/-- Two images on one file that agree on everything a reader can ask for. -/
structure Reloaded (s s' : Image) : Prop where
  file : s'.fd.file = s.fd.file
  sb : ∃ g r, s'.sb = s.sb.retag g r ∧ (s.sb.retag g r).Sound
  table : ∀ c < s.sb.clusterCount, s'.table c = s.table c
  base : s'.base = s.base

namespace Reloaded
variable {s s' : Image}

variable (h : Reloaded s s')
include h

lemma view (hi : MemInv s) {b : Nat} (hb : b < s.sb.virtualSize) : s'.view b = s.view b := by
  obtain ⟨g, r, hsb, -⟩ := h.sb
  have htable := h.table _ (hi.layout.div_lt_count hb)
  simp only [Image.view, h.file, hsb, Superblock.retag, htable]

lemma lookup (offset length : Nat) :
    scoLookupExtent s' offset length = scoLookupExtent s offset length := by
  obtain ⟨g, r, hsb, -⟩ := h.sb
  simp only [scoLookupExtent, hsb, scoClusterStoredLength, Superblock.retag]
  split
  · rfl
  split
  · rfl
  rw [h.table _ (by omega)]
  rfl

lemma map (offset length : Nat) : scoMap s' offset length = scoMap s offset length := by
  rw [scoMap, h.lookup, scoMap]

lemma readExtent (lookup : Lookup) (offset : Nat) (plan : List Fault) :
    ∃ r plan', exec (readExtent s lookup offset) ⟨s, plan⟩ = (r, ⟨s, plan'⟩) ∧
      exec (Sco.readExtent s' lookup offset) ⟨s', plan⟩ = (r, ⟨s', plan'⟩) := by
  obtain ⟨g, r, hsb, -⟩ := h.sb
  cases hst : lookup.extent.state with
  | present =>
    simp only [Sco.readExtent, hst, readData, exec_bind, exec_nextFault, hsb, Superblock.retag]
    cases plan.headD Fault.none with
    | none =>
      simp only [exec_bind, exec_state, exec_ofExcept, h.file]
      cases readExact s.fd.file (lookup.physicalOffset + offset % s.sb.clusterSize)
          lookup.extent.length with
      | error err | ok buf => exact ⟨_, _, rfl, rfl⟩
    | fail => exact ⟨_, _, rfl, rfl⟩
  | absent | zero | discarded =>
    simp only [Sco.readExtent, hst]
    exact ⟨_, _, rfl, rfl⟩

lemma readLoop (fuel offset len : Nat) (plan : List Fault) :
    ∃ r plan', exec (scoReadLoop fuel offset len) ⟨s, plan⟩ = (r, ⟨s, plan'⟩) ∧
      exec (scoReadLoop fuel offset len) ⟨s', plan⟩ = (r, ⟨s', plan'⟩) := by
  induction fuel generalizing offset len plan with
  | zero => exact ⟨_, _, rfl, rfl⟩
  | succ fuel ih =>
    simp only [scoReadLoop, exec_ite, exec_bind, exec_state, exec_ofExcept, h.lookup]
    by_cases hlen : len = 0
    · rw [if_pos hlen, if_pos hlen]
      exact ⟨_, _, rfl, rfl⟩
    rw [if_neg hlen, if_neg hlen]
    cases scoLookupExtent s offset len with
    | error => exact ⟨_, _, rfl, rfl⟩
    | ok lookup =>
      simp only
      split
      · exact ⟨_, _, rfl, rfl⟩
      obtain ⟨res, plan1, hs, hs'⟩ := h.readExtent lookup offset plan
      simp only [hs, hs']
      cases res with
      | error => exact ⟨_, _, rfl, rfl⟩
      | ok =>
        obtain ⟨res, plan2, hs, hs'⟩ := ih (offset + lookup.extent.length)
          (len - lookup.extent.length) plan1
        simp only [hs, hs']
        cases res with
        | error err | ok rest => exact ⟨_, _, rfl, rfl⟩

lemma read (offset len : Nat) (plan : List Fault) :
    (exec (scoRead offset len) ⟨s', plan⟩).1 = (exec (scoRead offset len) ⟨s, plan⟩).1 := by
  obtain ⟨g, r, hsb, -⟩ := h.sb
  have hvs : s'.sb.virtualSize = s.sb.virtualSize := by rw [hsb]; rfl
  simp only [scoRead, exec_bind, exec_state, exec_ite, hvs]
  split
  · rfl
  · obtain ⟨res, plan', hs, hs'⟩ := h.readLoop len offset len plan
    rw [hs, hs']

end Reloaded

variable {s s' : Image}

lemma MemInv.mapped (h : MemInv s) : Mapped s.fd.file.size s.sb s.table where
  ge := fun _ hc hp => named_ge h hc hp
  stored := h.stored
  distinct := h.distinct

variable {readonly : Bool}

lemma DiskInv.opened {t : Image} (h : DiskInv s) (hi : MemInv s)
    (ho : Opened s.fd.file readonly t) : Reloaded s t ∧ IsPage t.activeSuperblockOffset ∧
      scoSuperblockPageValid (shift s.fd.file.byte t.activeSuperblockOffset) = true ∧
      scoDecodeSuperblock (shift s.fd.file.byte t.activeSuperblockOffset) = t.sb := by
  obtain ⟨hsb, htable, hbase, hpage⟩ := h.current.disk.opened h.sound hi.mapped ho
  refine ⟨⟨?_, hsb, htable, hbase⟩, hpage⟩
  rw [ho.fd_eq]
  rfl

lemma reopen_spec (hi : MemInv s) (h : DiskInv s) (hr : s.reopen readonly = .ok s') :
    MemInv s' ∧ DiskInv s' ∧ Reloaded s s' ∧ s'.failedCommits = s.failedCommits := by
  obtain ⟨t, ht, hs'⟩ := except_bind_ok.mp hr
  obtain rfl := Except.ok.inj hs'
  have ho := opened_of_scoOpen ht
  obtain ⟨hrel, hpage, hvalid, -⟩ := h.opened hi ho
  have hfile : t.fd.file = s.fd.file := hrel.file
  obtain ⟨g, r, hsb, hsound⟩ := hrel.sb
  refine ⟨(opened_memInv ho).of_inUse rfl rfl rfl (Nat.le_of_eq (by rw [hfile]))
    fun _ _ hp => hp.congr rfl rfl rfl, ⟨?_, hpage, ⟨?_, hvalid⟩⟩,
    ⟨rfl, ⟨g, r, hsb, hsound⟩, hrel.table, hrel.base⟩, rfl⟩
  · rw [hsb]
    exact hsound
  · have hdisk := h.current.disk.retag g r
    rw [hsb, hrel.base]
    exact { hdisk with slots := fun c hc => by rw [hrel.table c hc]; exact hdisk.slots c hc }

variable {uuid : List UInt8} {opts : CreateOptions} {f : File}

lemma created_diskInv (huuid : uuid.length = 16) (hcreate : createSco opts uuid = .ok f)
    (hopen : scoOpen f readonly = .ok s) : DiskInv s := by
  obtain ⟨l, hl, hf⟩ := except_bind_ok.mp hcreate
  obtain rfl := Except.ok.inj hf
  have ho := opened_of_scoOpen hopen
  obtain ⟨hsb, hactive⟩ := opened_created huuid hl ho
  obtain ⟨u, -, hsel⟩ := ho.superblock
  obtain ⟨-, hread⟩ := selectSuperblock_reads hsel
  have hfacts := readSuperblock_iff.mp hread
  have hlayout := hfacts.layout
  have hdesc := ho.descriptor
  rw [hsb] at hlayout hdesc
  obtain ⟨hs, hdisk⟩ := created_diskOk huuid hl hlayout hdesc
  have hmapped : Mapped (createdFile opts uuid l).size (createdSuperblock opts uuid l)
      (fun _ => .unmapped) := ⟨nofun, nofun, nofun⟩
  obtain ⟨-, htable, hbase, -⟩ := hdisk.opened hs hmapped ho
  have hfile : s.fd.file = createdFile opts uuid l := by
    rw [ho.fd_eq]
    rfl
  refine ⟨by rw [hsb]; exact hs, Or.inl hactive, ?_, ?_⟩
  · rw [hfile, hsb]
    exact { hdisk with slots := fun c hc => by rw [htable c hc]; exact hdisk.slots c hc }
  · rw [hfile]
    exact hfacts.valid

def Call.isIo : Call → Bool
  | write _ _ => true
  | discard _ _ => true
  | flush => true
  | read _ _ => false
  | setSealed _ => false

def IoStep (s s' : Image) : Prop :=
  ∃ call : Call, call.isIo = true ∧ (exec call.run ⟨s, []⟩).2.st = s'

lemma io_run {call : Call} (hio : call.isIo = true) {w w' : Sys Image} {r : Except Errno Unit}
    (hi : MemInv w.st) (h : exec call.run w = (r, w')) : Ran Event.Data w w' := by
  cases call with
  | write => exact (scoWrite_run hi h).ran
  | discard => exact (scoDiscard_run hi h).ran
  | flush => exact (scoFlush_run h).mono fun _ hq => hq.clean.1
  | read => cases hio
  | setSealed => cases hio

variable {ev : Event}

lemma step_failedCommits (hev : ev.isAbort = false)
    (hstep : Step s ev s') : s'.failedCommits = s.failedCommits := by
  obtain ⟨-, rfl⟩ := hstep
  cases ev with
  | grow => simp only [Event.apply, grow_eq]
  | release p =>
    obtain ⟨n, hr⟩ := release_eq s p
    simp only [Event.apply, hr]
  | failSlot => cases hev
  | failPage => cases hev
  | _ => rfl

lemma trace_failedCommits {evs : List Event} (ht : Trace Step s evs s')
    (hev : ∀ ev ∈ evs, ev.isAbort = false) : s'.failedCommits = s.failedCommits := by
  induction ht with
  | nil => rfl
  | cons hstep _ ih =>
    rw [ih fun ev h => hev ev (List.mem_cons_of_mem _ h)]
    exact step_failedCommits (hev _ List.mem_cons_self) hstep

lemma not_abort (h : ev.isFailure = false) : ev.isAbort = false := by
  cases ev <;> first | rfl | cases h

def SameLow (s s' : Image) : Prop :=
  ∀ i < SCO_METADATA_AREA_OFFSET, s'.fd.file.byte i = s.fd.file.byte i

lemma step_low (hi : MemInv s) (hd : ev.Data) (hstep : Step s ev s') : SameLow s s' := by
  obtain ⟨hen, rfl⟩ := hstep
  intro i hlt
  have hdata := hi.layout.data_ge
  have hpush : ∀ e : Effect, ¬ e.Touches i → (s.push e).fd.file.byte i = s.fd.file.byte i := by
    intro e he
    rw [push_fd, Handle.push_file, Effect.apply_untouched he]
  cases ev with
  | grow => simp only [Event.apply, grow_eq]
  | release p =>
    obtain ⟨n, hr⟩ := release_eq s p
    simp only [Event.apply, hr]
  | fill =>
    refine hpush _ fun ht => ?_
    have hge := hi.data_le hen.2.1.ge
    have := ht.1
    omega
  | overwrite =>
    refine hpush _ fun ht => ?_
    have hge := named_ge hi hen.1 hen.2.1
    have := ht.1
    omega
  | punch =>
    refine hpush _ fun ht => ?_
    have hge := hi.data_le hen.1
    have := ht.1
    omega
  | sync => exact hpush _ fun ht => ht
  | failSlot c e =>
    refine hpush _ fun ht => ?_
    have hge := hi.layout.slot_ge c e.activeSlot
    have := ht.1
    simp only [Image.slotOffset] at this
    omega
  | commit c e =>
    simp only [Event.apply, push_fd, Handle.push_file, Effect.apply, File.pwrite_byte]
    have hge := hi.layout.slot_ge c e.activeSlot
    exact put_outside (by simp only [Image.slotOffset]; omega)
  | failPage => cases hd
  | reseal => cases hd
  | _ => rfl

structure IoInv (s₀ s : Image) : Prop where
  mem : MemInv s
  disk : DiskInv s
  clean : s.failedCommits = []
  sb : s.sb = s₀.sb
  active : s.activeSuperblockOffset = s₀.activeSuperblockOffset
  low : SameLow s₀ s

variable {s₀ : Image}

lemma ioStep_inv (h : IoInv s₀ s) (hstep : IoStep s s') : IoInv s₀ s' := by
  obtain ⟨call, hio, rfl⟩ := hstep
  rcases hx : exec call.run ⟨s, []⟩ with ⟨r, w'⟩
  have hran := io_run hio h.mem hx
  have hmem := hran.memInv h.mem
  have hsame := hran.sameImage
  obtain ⟨evs, ht, hd, hplan⟩ := hran
  have hnil : w'.st.failedCommits = [] :=
    (trace_failedCommits ht fun ev hev => not_abort ((hplan rfl).2 ev hev)).trans h.clean
  have hlow : SameLow s w'.st := Trace.relates MemInv Event.Data (fun _ _ _ hi _ hs => step_memInv hi hs)
    (fun _ _ _ => rfl) (fun _ _ _ hst htu i hi => (htu i hi).trans (hst i hi))
    (fun _ _ _ hi hg hs => step_low hi hg hs) ht hd h.mem
  refine ⟨hmem, trace_diskInv ht h.mem h.disk ?_, hnil, hsame.sb.trans h.sb,
    hsame.active.trans h.active, fun i hi => (hlow i hi).trans (h.low i hi)⟩
  intro r hr
  rw [hnil] at hr
  cases hr

lemma created_pages (huuid : uuid.length = 16) (hcreate : createSco opts uuid = .ok f)
    (hopen : scoOpen f readonly = .ok s) {off : Nat} (hoff : IsPage off)
    (hvalid : scoSuperblockPageValid (shift s.fd.file.byte off) = true) : off = s.activeSuperblockOffset ∧
    scoDecodeSuperblock (shift s.fd.file.byte off) = s.sb ∧ s.sb.isSealed = false := by
  obtain ⟨l, hl, hf⟩ := except_bind_ok.mp hcreate
  obtain rfl := Except.ok.inj hf
  have ho := opened_of_scoOpen hopen
  obtain ⟨hsb, hactive⟩ := opened_created huuid hl ho
  have hfile : s.fd.file = createdFile opts uuid l := by
    rw [ho.fd_eq]
    rfl
  rw [hfile] at hvalid ⊢
  obtain rfl := createdFile_page hl hoff hvalid
  refine ⟨hactive.symm, ?_, ?_⟩
  · rw [hsb]
    exact (createdFile_decode huuid hl ho.size).2
  · rw [hsb]
    simp [Superblock.isSealed, createdSuperblock]

lemma IoInv.of_created (huuid : uuid.length = 16) (hcreate : createSco opts uuid = .ok f)
    (hopen : scoOpen f readonly = .ok s₀) : IoInv s₀ s₀ :=
  ⟨opened_memInv (opened_of_scoOpen hopen), created_diskInv huuid hcreate hopen,
    (opened_of_scoOpen hopen).failedCommits_eq, rfl, rfl, fun _ _ => rfl⟩

theorem persistence_round_trip {opts : CreateOptions} {uuid : List UInt8} {f : File}
    {readonly : Bool} {s₀ s : Image} (huuid : uuid.length = 16)
    (hcreate : createSco opts uuid = .ok f) (hopen : scoOpen f readonly = .ok s₀)
    (hreach : Relation.ReflTransGen IoStep s₀ s) (readonly' : Bool) :
    ∃ s', scoOpen s.fd.file readonly' = .ok s' ∧ s'.sb = s.sb ∧
      (∀ c < s.sb.clusterCount, s'.table c = s.table c) ∧ s'.base = s.base ∧
      (∀ offset length, scoMap s' offset length = scoMap s offset length) ∧
      ∀ offset len, (exec (scoRead offset len) ⟨s', []⟩).1 =
        (exec (scoRead offset len) ⟨s, []⟩).1 := by
  have hinv := invariant_of_steps (IoInv s₀) (fun _ _ => ioStep_inv)
    (IoInv.of_created huuid hcreate hopen) hreach
  -- the pages are still those of the created image
  have hpages : ∀ off, IsPage off → scoSuperblockPageValid (shift s.fd.file.byte off) = true →
      scoDecodeSuperblock (shift s.fd.file.byte off) = s.sb ∧ s.sb.isSealed = false := by
    intro off hoff hvalid
    have hsame : get (shift s.fd.file.byte off) 0 SCO_SUPERBLOCK_SIZE =
        get (shift s₀.fd.file.byte off) 0 SCO_SUPERBLOCK_SIZE := by
      have hin := page_inside hoff
      rw [page_get, page_get]
      exact get_congr fun i _ hlt => hinv.low i (by omega)
    rw [superblockPageValid_congr hsame] at hvalid
    obtain ⟨-, hdec, hun⟩ := created_pages huuid hcreate hopen hoff hvalid
    rw [decodeSuperblock_congr hsame, hinv.sb]
    exact ⟨hdec, hun⟩
  obtain ⟨s', hs'⟩ := hinv.disk.current.disk.scoOpen_ok hinv.disk.sound hinv.mem.mapped
    (fun (_ : readonly' = false) off hoff hvalid => by
      obtain ⟨hdec, hun⟩ := hpages off hoff hvalid
      rw [hdec]
      exact hun)
  obtain ⟨hrel, hoff, hvalid, hdec⟩ := hinv.disk.opened hinv.mem (opened_of_scoOpen hs')
  exact ⟨s', hs', hdec.symm.trans (hpages _ hoff hvalid).1, hrel.table, hrel.base, hrel.map,
    fun offset len => hrel.read offset len []⟩

theorem persistence_round_trip_small : ∃ s₀ s, scoOpen smallFile false = .ok s₀ ∧ IoStep s₀ s ∧
    ∃ s', scoOpen s.fd.file false = .ok s' ∧ s'.sb = s.sb ∧
      (∀ c < s.sb.clusterCount, s'.table c = s.table c) ∧ s'.base = s.base := by
  obtain ⟨s₀, hopen⟩ := small_opens false
  have hstep : IoStep s₀ (exec (Call.write [7] 0).run ⟨s₀, []⟩).2.st := ⟨.write [7] 0, rfl, rfl⟩
  obtain ⟨s', hs', hsb, htable, hbase, -⟩ :=
    persistence_round_trip (by decide) small_created hopen (.single hstep) false
  exact ⟨s₀, _, hopen, hstep, s', hs', hsb, htable, hbase⟩

end ScorpiHv.Sco

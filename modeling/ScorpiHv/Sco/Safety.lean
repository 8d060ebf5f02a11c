import ScorpiHv.Sco.OneCluster

/-!
# Safety of the allocator over whole sessions

A session is any sequence of calls on an open image, each with its own host
failures. Every `pwrite` to the data area is on record as a guest write.
-/

namespace ScorpiHv.Sco
open Bytes List

inductive Call where
  | write (buf : List UInt8) (offset : Nat)
  | discard (offset length : Nat)
  | flush
  | read (offset len : Nat)
  | setSealed (isSealed : Bool)

def Call.run : Call → Run Image Unit
  | write buf offset => scoWrite buf offset
  | discard offset length => scoDiscard offset length
  | flush => scoFlush
  | read offset len => do
    let _ ← scoRead offset len
    pure ()
  | setSealed isSealed => scorpiImageScoSetSealed isSealed

def CallStep (s s' : Image) : Prop :=
  ∃ (call : Call) (plan : List Fault), (exec call.run ⟨s, plan⟩).2.st = s'

variable {r : Except Errno Unit} {w w' : Sys Image}

lemma scoFlush_run (h : exec scoFlush w = (r, w')) : Ran Event.Quiet w w' := by
  obtain ⟨hplan, ⟨-, hst⟩ | ⟨-, hst, -⟩⟩ := fsync_run h
  · exact Ran.event .sync trivial rfl hst fun hp => ⟨hplan hp, rfl⟩
  · exact .idle hst hplan

variable {isSealed : Bool}

lemma setSealed_cases (h : exec (scorpiImageScoSetSealed isSealed) w = (r, w')) :
    w' = w ∨ Step w.st (.reseal isSealed) w'.st ∧ (w.plan = [] → w'.plan = []) ∨
      w.plan ≠ [] ∧ ∃ k, Step w.st (.failPage isSealed k) w'.st := by
  simp only [scorpiImageScoSetSealed, exec_bind, exec_state, exec_ite, exec_throw, exec_pure] at h
  split_ifs at h with hsup
  · cases h
    exact .inl rfl
  · cases h
    exact .inl rfl
  · cases h
    exact .inl rfl
  have hne : superblockPage (w.st.sb.resealed isSealed) ≠ [] :=
    length_pos_iff.mp (by rw [superblockPage_length]; decide)
  simp only [scoCommitSuperblock, exec_bind, exec_state, exec_update] at h
  generalize hx : exec (recordFailure _ _) w = x at h
  obtain ⟨res, w1⟩ := x
  rcases recordFailure_run hne hx with ⟨rfl, hst, hplan⟩ | ⟨⟨err, rfl⟩, hfail, k, hk, hst⟩
  · cases h
    refine .inr (.inl ⟨⟨not_not.mp hsup, ?_⟩, hplan⟩)
    simp only [hst]
    rfl
  · cases h
    refine .inr (.inr ⟨hfail, k, ?_, hst⟩)
    rwa [superblockPage_length] at hk

lemma setSealed_run (h : exec (scorpiImageScoSetSealed isSealed) w = (r, w')) :
    Ran (fun _ => True) w w' := by
  rcases setSealed_cases h with rfl | ⟨⟨hen, hst⟩, hplan⟩ | ⟨hplan, k, hen, hst⟩
  · exact .idle rfl id
  · exact Ran.event (.reseal isSealed) hen trivial hst fun hp => ⟨hplan hp, rfl⟩
  · exact Ran.event (.failPage isSealed k) hen trivial hst fun hp => absurd hp hplan

variable {len : Nat}

lemma scoRead_st {offset : Nat} {r : Except Errno (List UInt8)} (hi : MemInv w.st)
    (h : exec (scoRead offset len) w = (r, w')) : w'.st = w.st ∧ (w.plan = [] → w'.plan = []) := by
  by_cases hend : offset + len ≤ w.st.sb.virtualSize
  · have hrun := scoRead_run hi hend h
    exact ⟨hrun.st, hrun.plan⟩
  simp only [scoRead, exec_bind, exec_state, exec_ite, exec_throw] at h
  rw [if_pos (by omega)] at h
  cases h
  exact ⟨rfl, id⟩

lemma call_run {call : Call} (hi : MemInv w.st)
    (h : exec call.run w = (r, w')) : Ran (fun _ => True) w w' := by
  cases call with
  | write => exact (scoWrite_run hi h).ran.mono fun _ _ => trivial
  | discard => exact (scoDiscard_run hi h).ran.mono fun _ _ => trivial
  | flush => exact (scoFlush_run h).mono fun _ _ => trivial
  | read offset len =>
    simp only [Call.run, exec_bind, exec_pure] at h
    generalize hx : exec (scoRead offset len) w = x at h
    obtain ⟨res, w1⟩ := x
    obtain ⟨hst, hplan⟩ := scoRead_st hi hx
    cases res with
    | error err | ok bs =>
      cases h
      exact .idle hst hplan
  | setSealed => exact setSealed_run h

/-- The bytes `[offset, offset + length)` of a guest write stay off the metadata and
off every physical cluster that another entry owns, a new cluster's off all. -/
structure GuestWrite.Safe (sb : Superblock) (g : GuestWrite) : Prop where
  above : sb.dataAreaOffset ≤ g.offset
  apart : ∀ c < sb.clusterCount, (g.table c).state = .present → c ≠ g.cluster ∨ g.fresh = true →
    ∀ x < sb.clusterSize, ∀ i < g.length,
      g.offset + i ≠ (g.table c).physicalCluster * sb.clusterSize + x

structure GuestInv (s : Image) : Prop where
  safe : ∀ g ∈ s.guestWrites, g.Safe s.sb
  logged : ∀ g ∈ s.guestWrites, ∃ bs, s.fd.log[g.logLength]? = some (.pwrite g.offset bs) ∧
    bs.length ≤ g.length
  covered : ∀ k off bs, s.fd.log[k]? = some (.pwrite off bs) →
    off + bs.length ≤ s.sb.dataAreaOffset ∨
      ∃ g ∈ s.guestWrites, g.logLength = k ∧ g.offset = off ∧ bs.length ≤ g.length

variable {s : Image} {e e' : Effect} {k : Nat}

lemma log_push (h : (s.push e).fd.log[k]? = some e') :
    s.fd.log[k]? = some e' ∨ k = s.fd.log.length ∧ e' = e := by
  simp only [push_fd, Handle.push_log] at h
  rcases Nat.lt_trichotomy k s.fd.log.length with hlt | rfl | hgt
  · rw [List.getElem?_append_left hlt] at h
    exact .inl h
  · rw [List.getElem?_concat_length] at h
    exact .inr ⟨rfl, (Option.some.inj h).symm⟩
  · rw [List.getElem?_eq_none (by simp; omega)] at h
    cases h

lemma log_push_old (h : s.fd.log[k]? = some e') : (s.push e).fd.log[k]? = some e' := by
  have hlt : k < s.fd.log.length := (List.getElem?_eq_some_iff.mp h).1
  simp only [push_fd, Handle.push_log]
  rw [List.getElem?_append_left hlt]
  exact h

namespace GuestInv
variable {s s' : Image}

lemma congr (h : GuestInv s) (hsb : s'.sb = s.sb) (hw : s'.guestWrites = s.guestWrites)
    (hfd : s'.fd = s.fd) : GuestInv s' := by
  refine ⟨?_, ?_, ?_⟩
  · rw [hsb, hw]
    exact h.safe
  · rw [hw, hfd]
    exact h.logged
  · rw [hsb, hw, hfd]
    exact h.covered

lemma push (h : GuestInv s) (he : ∀ off bs, e = .pwrite off bs → off + bs.length ≤ s.sb.dataAreaOffset) :
    GuestInv (s.push e) := by
  refine ⟨h.safe, fun g hg => ?_, fun k off bs hk => ?_⟩
  · obtain ⟨bs, hbs, hle⟩ := h.logged g hg
    exact ⟨bs, log_push_old hbs, hle⟩
  · rcases log_push hk with hold | ⟨rfl, hnew⟩
    · exact h.covered k off bs hold
    · exact .inl (he off bs hnew.symm)

/-- A recorded guest write and the `pwrite` it is the record of. -/
lemma record (h : GuestInv s) {c off pos : Nat} {fresh : Bool} {bs : List UInt8}
    (hsafe : (⟨c, off, pos, len, fresh, s.table, s.fd.log.length⟩ : GuestWrite).Safe s.sb)
    (hlen : bs.length ≤ len) :
    GuestInv ((recordGuestWrite s c off pos len fresh).push (.pwrite pos bs)) := by
  refine ⟨fun g hg => ?_, fun g hg => ?_, fun k o b hk => ?_⟩
  · rcases mem_append.mp hg with hg | hg
    · exact h.safe g hg
    · rw [mem_singleton.mp hg]
      exact hsafe
  · rcases mem_append.mp hg with hg | hg
    · obtain ⟨b, hb, hle⟩ := h.logged g hg
      exact ⟨b, log_push_old hb, hle⟩
    · rw [mem_singleton.mp hg]
      exact ⟨bs, List.getElem?_concat_length, hlen⟩
  · rcases log_push hk with hold | ⟨rfl, hnew⟩
    · rcases h.covered k o b hold with hlow | ⟨g, hg, hrest⟩
      · exact .inl hlow
      · exact .inr ⟨g, mem_append_left _ hg, hrest⟩
    · cases hnew
      exact .inr ⟨_, mem_append_right _ (mem_singleton_self _), rfl, rfl, hlen⟩

end GuestInv

variable {bs : List UInt8}

lemma slot_below (hi : MemInv s) {c : Nat} (hc : c < s.sb.clusterCount) {e : TableEntry}
    (hbs : bs.length ≤ SCO_TABLE_SLOT_SIZE) : ∀ off bs',
    Effect.pwrite (s.slotOffset c e) bs = .pwrite off bs' → off + bs'.length ≤ s.sb.dataAreaOffset := by
  rintro _ _ ⟨⟩
  have hend := hi.layout.slot_end hc e.activeSlot
  simp only [Image.slotOffset]
  omega

lemma page_below (hi : MemInv s) (hbs : bs.length ≤ SCO_SUPERBLOCK_SIZE) : ∀ off bs',
    Effect.pwrite s.pageOffset bs = .pwrite off bs' → off + bs'.length ≤ s.sb.dataAreaOffset := by
  rintro _ _ ⟨⟩
  have hge := hi.layout.data_ge
  have hpage := pageOffset_le s
  simp only [SCO_METADATA_AREA_OFFSET, SCO_SUPERBLOCK_SIZE, SCO_SUPERBLOCK_B_OFFSET] at *
  omega

lemma sync_below {n : Nat} : ∀ off bs, Effect.sync = .pwrite off bs → off + bs.length ≤ n := nofun

lemma step_guestInv {s' : Image} {ev : Event} (hi : MemInv s) (h : GuestInv s)
    (hstep : Step s ev s') : GuestInv s' := by
  obtain ⟨hen, rfl⟩ := hstep
  cases ev with
  | cursor n | mark index | extend n => exact h.congr rfl rfl rfl
  | grow =>
    simp only [Event.apply, grow_eq]
    exact h.congr rfl rfl rfl
  | fill c =>
    obtain ⟨hc, hspare, hlen, hdone⟩ := hen
    refine h.record ⟨hi.data_le hspare.ge, ?_⟩ (by simp [length_take])
    intro d hd hp _ x hx i hin heq
    have hle := stored_le s.sb c
    dsimp only at heq hin
    exact hspare.unnamed d hd hp (clusters_apart hx (by omega) heq.symm)
  | overwrite c =>
    obtain ⟨hc, hpres, hend, hdone⟩ := hen
    have hge := named_ge hi hc hpres
    refine h.record ⟨by dsimp only; omega, ?_⟩ (by simp [length_take])
    intro d hd hp hother x hx i hin heq
    have hle := stored_le s.sb c
    rcases hother with hdc | hfresh
    · dsimp only at heq hin
      rw [add_assoc] at heq
      exact hdc (hi.distinct d hd c hc hp hpres (clusters_apart hx (by omega) heq.symm))
    · cases hfresh
  | sync => exact h.push sync_below
  | punch c p => exact h.push (by rintro _ _ ⟨⟩)
  | failSlot => exact (h.push (slot_below hi hen.1.lt (by simp [length_take]))).congr rfl rfl rfl
  | commit c e =>
    have hslot := h.push (slot_below hi hen.lt (by rw [slotBytes_length]) :
      ∀ off bs, Effect.pwrite (s.slotOffset c e) (slotBytes s.sb c e) = .pwrite off bs → _)
    exact (hslot.push sync_below).congr rfl rfl rfl
  | release p =>
    obtain ⟨n, hr⟩ := release_eq s p
    simp only [Event.apply, hr]
    exact h.congr rfl rfl rfl
  | failPage => exact (h.push (page_below hi (by simp [length_take]))).congr rfl rfl rfl
  | reseal isSealed =>
    have hpage := h.push (page_below hi (by rw [superblockPage_length]) : ∀ off bs,
      Effect.pwrite s.pageOffset (superblockPage (s.sb.resealed isSealed)) = .pwrite off bs → _)
    exact ⟨fun g hg => ⟨(h.safe g hg).above, (h.safe g hg).apart⟩, (hpage.push sync_below).logged,
      (hpage.push sync_below).covered⟩

structure SafeState (s : Image) : Prop where
  mem : MemInv s
  guest : GuestInv s

lemma callStep_safe {s' : Image} (h : SafeState s) (hstep : CallStep s s') : SafeState s' := by
  obtain ⟨call, plan, rfl⟩ := hstep
  obtain ⟨evs, ht, -, -⟩ := call_run h.mem (rfl : exec call.run ⟨s, plan⟩ = (_, _))
  exact Trace.invariant (fun _ => True)
    (fun _ _ _ hs _ hst => ⟨step_memInv hs.mem hst, step_guestInv hs.mem hs.guest hst⟩)
    ht (fun _ _ => trivial) h

lemma session_safe {f : File} {readonly : Bool} {s₀ : Image} (hopen : scoOpen f readonly = .ok s₀)
    (hreach : Relation.ReflTransGen CallStep s₀ s) : SafeState s := by
  have ho := opened_of_scoOpen hopen
  have hguest : GuestInv s₀ := by
    refine ⟨?_, ?_, ?_⟩
    · rw [ho.guestWrites_eq]
      nofun
    · rw [ho.guestWrites_eq]
      nofun
    · rw [ho.fd_eq]
      nofun
  exact invariant_of_steps SafeState (fun _ _ => callStep_safe) ⟨opened_memInv ho, hguest⟩ hreach

theorem allocator_safe {f : File} {readonly : Bool} {s₀ s : Image}
    (hopen : scoOpen f readonly = .ok s₀) (hreach : Relation.ReflTransGen CallStep s₀ s) :
    (∀ c < s.sb.clusterCount, ∀ d < s.sb.clusterCount, (s.table c).state = .present →
      (s.table d).state = .present → c ≠ d →
      (s.table c).physicalCluster ≠ (s.table d).physicalCluster) ∧
    (∀ c < s.sb.clusterCount, (s.table c).state = .present →
      s.dataClusterBase ≤ (s.table c).physicalCluster ∧
      (s.table c).physicalCluster < s.dataClusterBase + s.dataClusterCount ∧
      s.dataClusterUsed ((s.table c).physicalCluster - s.dataClusterBase) = true) ∧
    (∀ g ∈ s.guestWrites, g.Safe s.sb ∧ ∃ bs,
      s.fd.log[g.logLength]? = some (.pwrite g.offset bs) ∧ bs.length ≤ g.length) ∧
    (∀ k off bs, s.fd.log[k]? = some (.pwrite off bs) →
      off + bs.length ≤ s.sb.dataAreaOffset ∨
        ∃ g ∈ s.guestWrites, g.logLength = k ∧ g.offset = off ∧ bs.length ≤ g.length) ∧
    (∀ c < s.sb.clusterCount, ∀ buf : List UInt8,
      buf.length = scoClusterStoredLength s.sb c → ∀ plan off w',
      exec (scoAllocDataCluster c buf) ⟨s, plan⟩ = (.ok off, w') →
      ∀ d < s.sb.clusterCount, (s.table d).state = .present →
        (s.table d).physicalCluster * s.sb.clusterSize ≠ off) := by
  obtain ⟨hmem, hguest⟩ := session_safe hopen hreach
  refine ⟨?_, ?_, ?_, hguest.covered, ?_⟩
  · intro c hc d hd hpc hpd hne heq
    exact hne (hmem.distinct c hc d hd hpc hpd heq)
  · intro c hc hp
    have huse := hmem.inUse c hc hp
    exact ⟨huse.ge, huse.lt, huse.used⟩
  · intro g hg
    exact ⟨hguest.safe g hg, hguest.logged g hg⟩
  intro c hc buf hlen plan off w' hrun d hd hp heq
  obtain ⟨hran, hfill⟩ := scoAllocDataCluster_run (w := ⟨s, plan⟩) hmem hc hlen hrun
  obtain ⟨p, rfl, hf⟩ := hfill off rfl
  have hsame := hran.sameView hmem
  refine hf.spare.unnamed d (by rw [hsame.sb]; exact hd) (by rw [hsame.table]; exact hp) ?_
  rw [hsame.table]
  exact Nat.eq_of_mul_eq_mul_right hmem.layout.cluster_pos heq

theorem allocator_safe_small : ∃ s₀ s, scoOpen smallFile false = .ok s₀ ∧ CallStep s₀ s ∧
    (s.table 0).state = .present ∧ s.dataClusterBase ≤ (s.table 0).physicalCluster ∧
    (s.table 0).physicalCluster < s.dataClusterBase + s.dataClusterCount ∧
    s.dataClusterUsed ((s.table 0).physicalCluster - s.dataClusterBase) = true := by
  obtain ⟨s₀, hopen⟩ := small_opens false
  obtain ⟨s, hw, hsb, -, htable⟩ := small_write hopen
  have hstep : CallStep s₀ s := ⟨.write [1, 1] 0, [], congrArg (fun x => x.2.st) hw⟩
  have hpres : (s.table 0).state = .present := by rw [htable]
  exact ⟨s₀, s, hopen, hstep, hpres,
    (allocator_safe hopen (.single hstep)).2.1 0 (by rw [hsb]; decide) hpres⟩

end ScorpiHv.Sco

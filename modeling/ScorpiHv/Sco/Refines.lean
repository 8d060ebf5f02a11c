import ScorpiHv.Sco.View

/-!
# The operations are made of protocol events

One lemma for each function takes its run apart into events, for every way the
host calls may turn out.
-/

namespace ScorpiHv.Sco
open Bytes List

/-- `w'` comes of `w` by events satisfying `P`; no failure unless the host fails. -/
def Ran (P : Event → Prop) (w w' : Sys Image) : Prop :=
  ∃ evs, Trace Step w.st evs w'.st ∧ (∀ ev ∈ evs, P ev) ∧
    (w.plan = [] → w'.plan = [] ∧ ∀ ev ∈ evs, ev.isFailure = false)

def Event.Quiet (ev : Event) : Prop := ev.isQuiet = true

def Event.Data (ev : Event) : Prop := ev.isData = true

/-- An event that leaves the superblock alone and breaks off no commit. -/
def Event.Clean (ev : Event) : Prop := ev.isData = true ∧ ev.isAbort = false

variable {ev : Event}

lemma Event.Quiet.clean (h : ev.Quiet) : ev.Clean := by
  cases ev <;> first | exact ⟨rfl, rfl⟩ | cases h

namespace Ran
variable {P Q : Event → Prop} {w w' w'' : Sys Image}

lemma idle (hst : w'.st = w.st) (hplan : w.plan = [] → w'.plan = []) : Ran P w w' := by
  refine ⟨[], ?_, nofun, fun hp => ⟨hplan hp, nofun⟩⟩
  rw [hst]
  exact .nil _

lemma event (ev : Event) (hen : ev.Enabled w.st) (hP : P ev) (hst : w'.st = ev.apply w.st)
    (hplan : w.plan = [] → w'.plan = [] ∧ ev.isFailure = false) : Ran P w w' := by
  refine ⟨[ev], .single ⟨hen, hst⟩, ?_, fun hp => ⟨(hplan hp).1, ?_⟩⟩
  · intro ev' hev
    rwa [mem_singleton.mp hev]
  · intro ev' hev
    rw [mem_singleton.mp hev]
    exact (hplan hp).2

lemma trans (h : Ran P w w') (h' : Ran P w' w'') : Ran P w w'' := by
  obtain ⟨evs, ht, hP, hplan⟩ := h
  obtain ⟨evs', ht', hP', hplan'⟩ := h'
  refine ⟨evs ++ evs', ht.append ht', ?_, fun hp => ?_⟩
  · intro ev hev
    exact (mem_append.mp hev).elim (hP ev) (hP' ev)
  · obtain ⟨hp', hf⟩ := hplan hp
    obtain ⟨hp'', hf'⟩ := hplan' hp'
    exact ⟨hp'', fun ev hev => (mem_append.mp hev).elim (hf ev) (hf' ev)⟩

lemma mono (h : Ran P w w') (hPQ : ∀ ev, P ev → Q ev) : Ran Q w w' := by
  obtain ⟨evs, ht, hP, hplan⟩ := h
  exact ⟨evs, ht, fun ev hev => hPQ ev (hP ev hev), hplan⟩

lemma memInv (h : Ran P w w') (hi : MemInv w.st) : MemInv w'.st := by
  obtain ⟨evs, ht, -, -⟩ := h
  exact Trace.invariant (fun _ => True) (fun _ _ _ hs _ => step_memInv hs) ht (fun _ _ => trivial) hi

lemma sameView (h : Ran Event.Quiet w w') (hi : MemInv w.st) : SameView w.st w'.st := by
  obtain ⟨evs, ht, hq, -⟩ := h
  exact (trace_sameView ht hq hi).2

lemma plan (h : Ran P w w') (hp : w.plan = []) : w'.plan = [] := by
  obtain ⟨_, _, _, hplan⟩ := h
  exact (hplan hp).1

end Ran

/-- A call on the data that a failing commit broke off; `Q` tells what the image would
show had that commit gone through. -/
def Broken (Q : Image → Nat → Prop) (w w' : Sys Image) : Prop :=
  w.plan ≠ [] ∧ ∃ w1 c e k, Ran Event.Clean w w1 ∧ Step w1.st (.failSlot c e k) w'.st ∧
    Q ((Event.commit c e).apply w1.st) c

/-- A call on the data runs through; one that fails may have been broken off in a commit. -/
def Ends {α : Type} (Q : Image → Nat → Prop) (w w' : Sys Image) (r : Except Errno α) : Prop :=
  Ran Event.Clean w w' ∨ (∃ err, r = .error err) ∧ Broken Q w w'

namespace Ends
variable {α β : Type} {Q R : Image → Nat → Prop} {w w1 w' : Sys Image} {r : Except Errno α}

lemma ran (h : Ends Q w w' r) : Ran Event.Data w w' := by
  rcases h with h | ⟨-, hplan, w1, c, e, k, h, hstep, -⟩
  · exact h.mono fun _ hev => hev.1
  obtain ⟨evs, ht, hev, -⟩ := h
  refine ⟨evs ++ [.failSlot c e k], ht.append (.single hstep), ?_, fun hp => absurd hp hplan⟩
  intro ev hmem
  rcases mem_append.mp hmem with hmem | hmem
  · exact (hev ev hmem).1
  · rw [mem_singleton.mp hmem]
    rfl

lemma ok {a : α} (h : Ends Q w w' (.ok a : Except Errno α)) : Ran Event.Clean w w' := by
  rcases h with h | ⟨⟨err, herr⟩, -⟩
  · exact h
  · cases herr

lemma after (h : Ran Event.Clean w w1) (h' : Ends Q w1 w' r) : Ends Q w w' r := by
  rcases h' with h' | ⟨herr, hplan, w2, c, e, k, h', hstep, hQ⟩
  · exact .inl (h.trans h')
  · exact .inr ⟨herr, fun hp => hplan (h.plan hp), w2, c, e, k, h.trans h', hstep, hQ⟩

lemma imp (h : Ends Q w w' r) (hQR : ∀ u c, Q u c → R u c) : Ends R w w' r := by
  rcases h with h | ⟨herr, hplan, w1, c, e, k, h, hstep, hQ⟩
  · exact .inl h
  · exact .inr ⟨herr, hplan, w1, c, e, k, h, hstep, hQR _ _ hQ⟩

end Ends

structure SameImage (s s' : Image) : Prop where
  sb : s'.sb = s.sb
  base : s'.base = s.base
  readonly : s'.readonly = s.readonly
  active : s'.activeSuperblockOffset = s.activeSuperblockOffset

variable {s : Image} {s' : Image}

lemma step_sameImage (hd : ev.Data) (hstep : Step s ev s') : SameImage s s' := by
  obtain ⟨-, rfl⟩ := hstep
  cases ev with
  | grow =>
    simp only [Event.apply, grow_eq]
    exact ⟨rfl, rfl, rfl, rfl⟩
  | release p =>
    obtain ⟨n, hr⟩ := release_eq s p
    simp only [Event.apply, hr]
    exact ⟨rfl, rfl, rfl, rfl⟩
  | failPage => cases hd
  | reseal => cases hd
  | _ => exact ⟨rfl, rfl, rfl, rfl⟩

variable {w w' : Sys Image}

lemma Ran.sameImage (h : Ran Event.Data w w') : SameImage w.st w'.st := by
  obtain ⟨evs, ht, hd, -⟩ := h
  refine Trace.relates (fun _ => True) Event.Data (fun _ _ _ _ _ _ => trivial)
    (fun s => ⟨rfl, rfl, rfl, rfl⟩) (fun s t u h h' => ?_)
    (fun _ _ _ _ hg hs => step_sameImage hg hs) ht hd trivial
  exact ⟨h'.sb.trans h.sb, h'.base.trans h.base, h'.readonly.trans h.readonly, h'.active.trans h.active⟩

lemma headD_nil {f : Fault} (h : w.plan.headD .none = f) (hf : f ≠ .none) : w.plan ≠ [] := by
  intro hp
  rw [hp] at h
  exact hf h.symm

lemma tail_nil (h : w.plan = []) : w.plan.tail = [] := by
  rw [h]
  rfl

variable {r : Except Errno Unit} {bs buf : List UInt8} {b c off p : Nat}

lemma writeExact_run (hbs : bs ≠ []) (h : exec (writeExact off bs) w = (r, w')) :
    ∃ k ≤ bs.length, w'.st = w.st.push (.pwrite off (bs.take k)) ∧
      (w.plan = [] → w'.plan = [] ∧ k = bs.length) ∧ (r = .ok () ↔ k = bs.length) := by
  have hpos := length_pos_iff.mpr hbs
  simp only [writeExact, if_neg hbs, exec_bind, exec_nextFault] at h
  cases hf : w.plan.headD .none with
  | none =>
    rw [hf] at h
    cases h
    exact ⟨bs.length, Nat.le_refl _, by rw [take_length], fun hp => ⟨tail_nil hp, rfl⟩, by simp⟩
  | fail err done =>
    rw [hf] at h
    cases h
    refine ⟨min done (bs.length - 1), by omega, rfl, fun hp => ?_, ?_⟩
    · exact absurd hp (headD_nil hf (by simp))
    · simp only [reduceCtorEq, false_iff]
      omega

lemma fsync_run (h : exec fsync w = (r, w')) : (w.plan = [] → w'.plan = []) ∧
      (r = .ok () ∧ w'.st = w.st.push .sync ∨ (∃ err, r = .error err) ∧ w'.st = w.st ∧ w.plan ≠ []) := by
  simp only [fsync, exec_bind, exec_nextFault] at h
  cases hf : w.plan.headD .none with
  | none =>
    rw [hf] at h
    cases h
    exact ⟨tail_nil, .inl ⟨rfl, rfl⟩⟩
  | fail err =>
    rw [hf] at h
    cases h
    exact ⟨tail_nil, .inr ⟨⟨err, rfl⟩, rfl, headD_nil hf (by simp)⟩⟩

variable {len : Nat}

lemma punchHole_run (h : exec (punchHole off len) w = (r, w')) : r = .ok () ∧
    (w.plan = [] → w'.plan = []) ∧ (w'.st = w.st ∨ w'.st = w.st.push (.punch off len)) := by
  by_cases hlen : len = 0
  · simp only [punchHole, if_pos hlen, exec_pure] at h
    cases h
    exact ⟨rfl, id, .inl rfl⟩
  simp only [punchHole, if_neg hlen, exec_bind, exec_nextFault] at h
  cases hf : w.plan.headD .none with
  | none =>
    rw [hf] at h
    cases h
    exact ⟨rfl, tail_nil, .inr rfl⟩
  | fail =>
    rw [hf] at h
    cases h
    exact ⟨rfl, tail_nil, .inl rfl⟩

lemma writeExact_nofail (hbs : bs ≠ []) (s : Image) :
    exec (writeExact off bs) ⟨s, []⟩ = (.ok (), ⟨s.push (.pwrite off bs), []⟩) := by
  simp only [writeExact, if_neg hbs, exec_bind, exec_nextFault]
  rfl

lemma fsync_nofail (s : Image) : exec fsync ⟨s, []⟩ = (.ok (), ⟨s.push .sync, []⟩) := rfl

variable {index : Nat}

lemma findUnused_spec (h : findUnused s = some index) :
    index < s.dataClusterCount ∧ s.dataClusterUsed index = false := by
  have hfree := List.find?_some h
  obtain ⟨checked, hchecked, rfl⟩ := mem_map.mp (mem_of_find?_eq_some h)
  have hpos : 0 < s.dataClusterCount := Nat.zero_lt_of_lt (mem_range.mp hchecked)
  exact ⟨Nat.mod_lt _ hpos, by simpa using hfree⟩

variable {n : Nat}

lemma grow_run (hplan : w'.plan = w.plan)
    (hst : w'.st = { scoDataAllocatorGrow w.st (w.st.dataClusterCount + 1) with
      dataAllocCursor := n }) :
    Ran Event.Quiet w w' ∧ w.st.dataClusterCount < w'.st.dataClusterCount ∧
      w'.st.dataClusterUsed w.st.dataClusterCount = false := by
  have hgrow : Ran Event.Quiet w ⟨scoDataAllocatorGrow w.st (w.st.dataClusterCount + 1),
      w.plan⟩ := Ran.event .grow trivial rfl rfl fun hp => ⟨hp, rfl⟩
  refine ⟨hgrow.trans (Ran.event (.cursor n) trivial rfl hst fun hp => ⟨?_, rfl⟩), ?_, ?_⟩
  · rw [hplan]
    exact hp
  · rw [hst, grow_eq]
    exact Nat.lt_succ_self _
  · rw [hst, grow_eq]
    simp

lemma growDataArea_run {r : Except Errno Nat} (h : exec growDataArea w = (r, w')) :
    Ran Event.Quiet w w' ∧ ∀ p, r = .ok p → ∃ index, p = w'.st.dataClusterBase + index ∧
      index < w'.st.dataClusterCount ∧ w'.st.dataClusterUsed index = false := by
  simp only [growDataArea, exec_bind, exec_state, exec_ite, exec_throw, exec_update, exec_pure] at h
  split_ifs at h
  · cases h
    exact ⟨.idle rfl id, nofun⟩
  · cases h
    exact ⟨.idle rfl id, nofun⟩
  obtain ⟨rfl, hw⟩ := Prod.mk.inj h
  have hplan : w'.plan = w.plan := by rw [← hw]
  obtain ⟨hran, hlt, hfree⟩ := grow_run hplan (by rw [← hw])
  refine ⟨hran, ?_⟩
  intro p hp
  refine ⟨w.st.dataClusterCount, ?_, hlt, hfree⟩
  rw [← Except.ok.inj hp, ← hw, grow_eq]

lemma chooseCluster_run {r : Except Errno Nat} (h : exec chooseCluster w = (r, w')) :
    Ran Event.Quiet w w' ∧ ∀ p, r = .ok p → ∃ index, p = w'.st.dataClusterBase + index ∧
      index < w'.st.dataClusterCount ∧ w'.st.dataClusterUsed index = false := by
  simp only [chooseCluster, exec_bind, exec_state] at h
  cases hfind : findUnused w.st with
  | none =>
    rw [hfind] at h
    exact growDataArea_run h
  | some index =>
    rw [hfind] at h
    obtain ⟨hlt, hfree⟩ := findUnused_spec hfind
    simp only [exec_bind, exec_update, exec_ite, exec_pure] at h
    have hcursor : Ran Event.Quiet w ⟨{ w.st with
        dataAllocCursor := (index + 1) % w.st.dataClusterCount }, w.plan⟩ :=
      Ran.event (.cursor _) trivial rfl rfl fun hp => ⟨hp, rfl⟩
    split_ifs at h
    · obtain ⟨hran, hspec⟩ := growDataArea_run h
      exact ⟨hcursor.trans hran, hspec⟩
    · cases h
      exact ⟨hcursor, fun p hp => ⟨index, (Except.ok.inj hp).symm, hlt, hfree⟩⟩

lemma spare_mark (h : MemInv s) (hlt : index < s.dataClusterCount)
    (hfree : s.dataClusterUsed index = false) (hle : s.dataClusterBase + index ≤ UINT32_MAX) :
    ((Event.mark index).apply s).Spare (s.dataClusterBase + index) := by
  refine ⟨⟨Nat.le_add_right _ _, ?_, hle, ?_⟩, ?_⟩
  · exact Nat.add_lt_add_left hlt _
  · simp [Event.apply, setUsed]
  intro c hc hp heq
  have hused := (h.inUse c hc hp).used
  change (s.table c).physicalCluster = _ at heq
  rw [heq, Nat.add_sub_cancel_left, hfree] at hused
  cases hused

structure Image.Filled (s : Image) (c p : Nat) (buf : List UInt8) : Prop where
  spare : s.Spare p
  bytes : get s.fd.file.byte (p * s.sb.clusterSize) buf.length = buf
  stored : p * s.sb.clusterSize + scoClusterStoredLength s.sb c ≤ s.fd.file.size

lemma writeDataCluster_run {r : Except Errno Nat} (hi : MemInv w.st) (hc : c < w.st.sb.clusterCount)
    (hlen : buf.length = scoClusterStoredLength w.st.sb c) (hp : w.st.Spare p)
    (h : exec (writeDataCluster c p buf) w = (r, w')) : Ran Event.Quiet w w' ∧ ∀ off, r = .ok off →
    off = p * w.st.sb.clusterSize ∧ w'.st.Filled c p buf := by
  have hpos := hi.layout.stored_pos hc
  have hbuf : buf ≠ [] := length_pos_iff.mp (by omega)
  simp only [writeDataCluster, exec_bind, exec_state, exec_ite, exec_throw, exec_update,
    ← hlen, take_length] at h
  split_ifs at h
  · cases h
    exact ⟨.idle rfl id, nofun⟩
  rcases hwrite : exec (writeExact (p * w.st.sb.clusterSize) buf) _ with ⟨res, w1⟩
  rw [hwrite] at h
  obtain ⟨k, hk, hst, hplan, hok⟩ := writeExact_run hbuf hwrite
  have hfill : Ran Event.Quiet w w1 := by
    refine Ran.event (.fill c p buf k) ⟨hc, hp, hlen, hk⟩ rfl hst fun hp => ?_
    obtain ⟨hp1, rfl⟩ := hplan hp
    exact ⟨hp1, by simp [Event.isFailure]⟩
  cases res with
  | error =>
    cases h
    exact ⟨hfill, nofun⟩
  | ok =>
    cases h
    obtain rfl := hok.mp rfl
    refine ⟨hfill.trans (Ran.event (.extend _) trivial rfl rfl fun hp => ⟨hp, rfl⟩), ?_⟩
    intro off hoff
    refine ⟨(Except.ok.inj hoff).symm, ⟨⟨hp.toInUse.congr ?_ ?_ ?_, ?_⟩, ?_, ?_⟩⟩
    all_goals simp only [hst]
    · rfl
    · rfl
    · rfl
    · exact hp.unnamed
    · simp only [push_fd, push_sb, Handle.push_file, Effect.apply, File.pwrite_byte, take_length]
      exact get_put_same _ _ _
    · simp only [push_fd, push_sb, Handle.push_file, Effect.apply, take_length]
      change _ + scoClusterStoredLength w.st.sb c ≤ _
      rw [← hlen]
      exact File.end_le_pwrite _ _ hbuf

lemma scoAllocDataCluster_run {r : Except Errno Nat} (hi : MemInv w.st)
    (hc : c < w.st.sb.clusterCount) (hlen : buf.length = scoClusterStoredLength w.st.sb c)
    (h : exec (scoAllocDataCluster c buf) w = (r, w')) : Ran Event.Quiet w w' ∧ ∀ off, r = .ok off →
    ∃ p, off = p * w.st.sb.clusterSize ∧ w'.st.Filled c p buf := by
  have hpos := hi.layout.stored_pos hc
  simp only [scoAllocDataCluster, exec_bind, exec_state, exec_ite, if_neg hpos.ne'] at h
  rcases hchoose : exec chooseCluster w with ⟨err | p, w1⟩
  · rw [hchoose] at h
    cases h
    exact ⟨(chooseCluster_run hchoose).1, nofun⟩
  rw [hchoose] at h
  obtain ⟨hran, hspec⟩ := chooseCluster_run hchoose
  obtain ⟨index, rfl, hlt, hfree⟩ := hspec p rfl
  have hi1 := hran.memInv hi
  have hsb := (hran.sameView hi).sb
  simp only [exec_throw, exec_update, Nat.add_sub_cancel_left] at h
  split_ifs at h with hbig
  · cases h
    exact ⟨hran, nofun⟩
  have hspare := spare_mark hi1 hlt hfree (by omega)
  have hmark : Ran Event.Quiet w1 ⟨(Event.mark index).apply w1.st, w1.plan⟩ :=
    Ran.event (.mark index) ⟨hlt, hfree⟩ rfl rfl fun hp => ⟨hp, rfl⟩
  have hi2 := hmark.memInv hi1
  have hsb2 : ((Event.mark index).apply w1.st).sb = w.st.sb := hsb
  obtain ⟨hwrite, hfilled⟩ := writeDataCluster_run hi2 (by rw [hsb2]; exact hc)
    (by rw [hsb2]; exact hlen) hspare h
  refine ⟨(hran.trans hmark).trans hwrite, ?_⟩
  intro off hoff
  obtain ⟨rfl, hf⟩ := hfilled off hoff
  exact ⟨_, by rw [hsb2], hf⟩

lemma recordFailure_run {record : Image → FailedCommit} (hbs : bs ≠ [])
    (h : exec (recordFailure record (do writeExact off bs; fsync)) w = (r, w')) :
    r = .ok () ∧ w'.st = (w.st.push (.pwrite off bs)).push .sync ∧ (w.plan = [] → w'.plan = []) ∨
      (∃ err, r = .error err) ∧ w.plan ≠ [] ∧ ∃ k ≤ bs.length,
        w'.st = (w.st.push (.pwrite off (bs.take k))).failed
          (record (w.st.push (.pwrite off (bs.take k)))) := by
  simp only [recordFailure, exec_tryCatch, exec_bind] at h
  rcases hwrite : exec (writeExact off bs) w with ⟨res, w1⟩
  obtain ⟨k, hk, hst, hplan, hok⟩ := writeExact_run hbs hwrite
  rw [hwrite] at h
  cases res with
  | error err =>
    simp only [exec_update, exec_throw] at h
    cases h
    refine .inr ⟨⟨err, rfl⟩, fun hp => ?_, k, hk, ?_⟩
    · exact nomatch hok.mpr (hplan hp).2
    · rw [hst]
      rfl
  | ok =>
    obtain rfl := hok.mp rfl
    rw [take_length] at hst
    rcases hsync : exec fsync w1 with ⟨res, w2⟩
    obtain ⟨hplan2, ⟨rfl, hst2⟩ | ⟨⟨err, rfl⟩, hst2, hp2⟩⟩ := fsync_run hsync
    · simp only [hsync] at h
      cases h
      refine .inl ⟨rfl, ?_, fun hp => hplan2 (hplan hp).1⟩
      rw [hst2, hst]
    · simp only [hsync, exec_update, exec_throw] at h
      cases h
      refine .inr ⟨⟨err, rfl⟩, fun hp => hp2 (hplan hp).1, bs.length, Nat.le_refl _, ?_⟩
      rw [take_length, hst2, hst]
      rfl

variable {e : TableEntry}

lemma replaced_unnamed (hi : MemInv s) (hc : c < s.sb.clusterCount)
    (hold : (s.table c).state = .present) (hne : (s.table c).physicalCluster ≠ e.physicalCluster) :
    ((Event.commit c e).apply s).Unnamed (s.table c).physicalCluster := by
  intro d hd hp heq
  change (setEntry s.table c e d).state = _ at hp
  change (setEntry s.table c e d).physicalCluster = _ at heq
  by_cases hdc : d = c
  · subst hdc
    rw [entry_same] at heq
    exact hne heq.symm
  · rw [entry_other hdc] at hp heq
    exact hdc (hi.distinct d hd c hc hp hold heq)

lemma publishEntry_run (hi : MemInv s) (he : s.NextEntry c e)
    (hst : w.st = (s.push (.pwrite (s.slotOffset c e) (slotBytes s.sb c e))).push .sync)
    (h : exec (publishEntry c e) w = (r, w')) :
    r = .ok () ∧ Ran Event.Quiet ⟨(Event.commit c e).apply s, w.plan⟩ w' := by
  have htable : w.st.table = s.table := by rw [hst]; rfl
  have hsb : w.st.sb = s.sb := by rw [hst]; rfl
  have hnew : ({ w.st with table := setEntry w.st.table c e } : Image) =
      (Event.commit c e).apply s := by
    rw [hst]
    rfl
  simp only [publishEntry, exec_bind, exec_state, exec_update, exec_ite, exec_pure, hnew] at h
  rw [htable, hsb] at h
  split_ifs at h with hrel
  · obtain ⟨rfl, hplan, hpunch⟩ := punchHole_run h
    have hun := replaced_unnamed hi he.lt hrel.1 hrel.2
    have hrelease : Ran Event.Quiet ⟨(Event.commit c e).apply s, w.plan⟩
        ⟨scoDataAllocatorRelease ((Event.commit c e).apply s) (s.table c).physicalCluster,
          w.plan⟩ := Ran.event (.release _) hun rfl rfl fun hp => ⟨hp, rfl⟩
    refine ⟨rfl, hrelease.trans ?_⟩
    rcases hpunch with hsame | hpunched
    · exact .idle hsame hplan
    obtain ⟨n, hr⟩ := release_eq ((Event.commit c e).apply s) (s.table c).physicalCluster
    refine Ran.event (.punch c (s.table c).physicalCluster) ?_ rfl ?_ fun hp => ⟨hplan hp, rfl⟩
    · rw [hr]
      exact ⟨(hi.inUse c he.lt hrel.1).ge, he.lt, hun⟩
    · rw [hpunched, hr]
      rfl
  · cases h
    exact ⟨rfl, .idle rfl id⟩

/-- What a caller has done before it commits cluster `c` to physical offset `off`. -/
def Image.Ready (s : Image) (c off : Nat) (p : Nat) : Prop :=
  off = p * s.sb.clusterSize ∧ s.Spare p ∧ pending s.fd.log = [] ∧
    p * s.sb.clusterSize + scoClusterStoredLength s.sb c ≤ s.fd.file.size

variable {st : MapState}

lemma commitCluster_spec (h : commitCluster s st off = .ok p) :
    (st = .present → off = p * s.sb.clusterSize) ∧ (st ≠ .present → p = 0) := by
  unfold commitCluster at h
  dsimp only at h
  split_ifs at h with hst halign
  · cases h
    refine ⟨fun _ => ?_, fun hne => absurd hst hne⟩
    have hmod : off % s.sb.clusterSize = 0 := by
      by_contra hne
      exact halign (.inr hne)
    exact (Nat.div_mul_cancel (Nat.dvd_of_mod_eq_zero hmod)).symm
  · cases h
    exact ⟨fun hp => absurd hp hst, fun _ => rfl⟩

/-- How a commit ends: refused, broken off, or published and then quiet. -/
def Committed (w w' : Sys Image) (r : Except Errno Unit) (c : Nat)
    (P : TableEntry → Prop) : Prop :=
  (∃ err, r = .error err) ∧
      (w' = w ∨ w.plan ≠ [] ∧ ∃ e k, P e ∧ Step w.st (.failSlot c e k) w'.st) ∨
    r = .ok () ∧ ∃ e plan, w.st.NextEntry c e ∧ P e ∧ (w.plan = [] → plan = []) ∧
      Ran Event.Quiet ⟨(Event.commit c e).apply w.st, plan⟩ w'

lemma commitEntry_run (hi : MemInv w.st) (he : w.st.NextEntry c e)
    (h : exec (commitEntry c e) w = (r, w')) : (∃ err, r = .error err) ∧ w.plan ≠ [] ∧
    (∃ k, Step w.st (.failSlot c e k) w'.st) ∨ r = .ok () ∧ ∃ plan, (w.plan = [] → plan = []) ∧
    Ran Event.Quiet ⟨(Event.commit c e).apply w.st, plan⟩ w' := by
  have hne : slotBytes w.st.sb c e ≠ [] := length_pos_iff.mp (by rw [slotBytes_length]; decide)
  simp only [commitEntry, exec_bind, exec_state] at h
  generalize hx : exec (recordFailure _ _) w = x at h
  obtain ⟨res, w1⟩ := x
  rcases recordFailure_run hne hx with ⟨rfl, hst, hplan⟩ | ⟨⟨err, rfl⟩, hfail, k, hk, hst⟩
  · obtain ⟨rfl, hran⟩ := publishEntry_run hi he hst h
    exact .inr ⟨rfl, w1.plan, hplan, hran⟩
  · cases h
    exact .inl ⟨⟨err, rfl⟩, hfail, k, ⟨he, hk⟩, hst⟩

/-- The entry `sco_commit_table_entry` makes for its arguments. -/
def Image.nextEntry (s : Image) (c : Nat) (st : MapState) (p : Nat) : TableEntry :=
  ⟨(s.table c).generation + 1, p, st, (s.table c).activeSlot.other⟩

lemma scoCommitTableEntry_eq (hc : c < w.st.sb.clusterCount)
    (hp : commitCluster w.st st off = .ok p) (hgen : (w.st.table c).generation ≠ UINT32_MAX) :
    exec (scoCommitTableEntry c st off) w = exec (commitEntry c (w.st.nextEntry c st p)) w := by
  simp only [scoCommitTableEntry, exec_bind, exec_state, exec_ofExcept, hp,
    if_neg (Nat.not_le.mpr hc), if_neg hgen, Image.nextEntry]

lemma nextEntry_ok (hi : MemInv s) (hready : st = .present → ∃ p, s.Ready c off p)
    (hc : c < s.sb.clusterCount) (hp : commitCluster s st off = .ok p)
    (hgen : (s.table c).generation ≠ UINT32_MAX) : s.NextEntry c (s.nextEntry c st p) := by
  obtain ⟨hoff, hzero⟩ := commitCluster_spec hp
  have hp : st = .present → s.Ready c off p := by
    intro hst
    obtain ⟨q, hq⟩ := hready hst
    have hqp : q = p := Nat.eq_of_mul_eq_mul_right hi.layout.cluster_pos (hq.1.symm.trans (hoff hst))
    rwa [hqp] at hq
  have hgenle := hi.generation_le c hc
  exact ⟨hc, rfl, Nat.lt_of_le_of_ne hgenle hgen, rfl, fun hs => (hp hs).2.1,
    fun hs => (hp hs).2.2.2, fun hs => (hp hs).2.2.1, hzero⟩

lemma scoCommitTableEntry_run (hi : MemInv w.st) (hready : st = .present → ∃ p, w.st.Ready c off p)
    (h : exec (scoCommitTableEntry c st off) w = (r, w')) : Committed w w' r c fun e => e.state = st ∧
    (st = .present → off = e.physicalCluster * w.st.sb.clusterSize) := by
  by_cases hc : c < w.st.sb.clusterCount
  swap
  · simp only [scoCommitTableEntry, exec_bind, exec_state, exec_throw, if_pos (Nat.not_lt.mp hc)] at h
    cases h
    exact .inl ⟨⟨_, rfl⟩, .inl rfl⟩
  rcases hcc : commitCluster w.st st off with err | p
  · simp only [scoCommitTableEntry, exec_bind, exec_state, exec_ofExcept, hcc,
      if_neg (Nat.not_le.mpr hc)] at h
    cases h
    exact .inl ⟨⟨_, rfl⟩, .inl rfl⟩
  by_cases hgen : (w.st.table c).generation = UINT32_MAX
  · simp only [scoCommitTableEntry, exec_bind, exec_state, exec_throw, exec_ofExcept,
      hcc, if_neg (Nat.not_le.mpr hc), if_pos hgen] at h
    cases h
    exact .inl ⟨⟨_, rfl⟩, .inl rfl⟩
  rw [scoCommitTableEntry_eq hc hcc hgen] at h
  have hnext := nextEntry_ok hi hready hc hcc hgen
  rcases commitEntry_run hi hnext h with ⟨herr, hplan, k, hstep⟩ | ⟨hr, plan, hrest⟩
  · exact .inl ⟨herr, .inr ⟨hplan, _, k, ⟨rfl, (commitCluster_spec hcc).1⟩, hstep⟩⟩
  · exact .inr ⟨hr, _, plan, hnext, ⟨rfl, (commitCluster_spec hcc).1⟩, hrest⟩

def Replaced (s s' : Image) (c : Nat) (buf : List UInt8) : Prop :=
  ∀ b < s.sb.virtualSize, s'.view b =
    if b / s.sb.clusterSize = c then some (buf.getD (b - c * s.sb.clusterSize) 0) else s.view b

structure ClusterRun (w w' : Sys Image) (r : Except Errno Unit) (c : Nat)
    (buf : List UInt8) : Prop where
  ends : Ends (fun u d => d = c ∧ Replaced w.st u c buf) w w' r
  replaced : r = .ok () → Replaced w.st w'.st c buf
  same : ∀ err, r = .error err → SameView w.st w'.st

lemma Committed.clusterRun {w1 : Sys Image} {P : TableEntry → Prop} (hi : MemInv w.st)
    (hprep : Ran Event.Quiet w w1) (h : Committed w1 w' r c P)
    (hbuf : ∀ e, w1.st.NextEntry c e → P e → ∀ b < w1.st.sb.virtualSize,
      b / w1.st.sb.clusterSize = c → entryByte w1.st.fd.file w1.st.sb.clusterSize e b =
        some (buf.getD (b - c * w1.st.sb.clusterSize) 0)) : ClusterRun w w' r c buf := by
  have hi1 := hprep.memInv hi
  have hsame := hprep.sameView hi
  have hclean := hprep.mono fun _ => Event.Quiet.clean
  have hnew : ∀ e, w1.st.NextEntry c e → P e →
      Replaced w.st ((Event.commit c e).apply w1.st) c buf := by
    intro e he hP b hb
    rw [← hsame.sb] at hb ⊢
    rw [view_commit hi1 he hb]
    split
    · rename_i hbc
      exact hbuf e he hP b hb hbc
    · exact hsame.view b (by rw [← hsame.sb]; exact hb)
  rcases h with ⟨⟨err, rfl⟩, rfl | ⟨hplan, e, k, hP, hstep⟩⟩ | ⟨rfl, e, plan, he, hP, hplan, hran⟩
  · exact ⟨.inl hclean, nofun, fun _ _ => hsame⟩
  · have hbroken : Broken (fun u d => d = c ∧ Replaced w.st u c buf) w1 w' :=
      ⟨hplan, w1, c, e, k, .idle rfl id, hstep, rfl, hnew e hstep.1.1 hP⟩
    exact ⟨Ends.after hclean (.inr ⟨⟨err, rfl⟩, hbroken⟩), nofun,
      fun _ _ => hsame.trans (failSlot_sameView hi1 hstep)⟩
  · have hcommit : Ran Event.Clean w1 ⟨(Event.commit c e).apply w1.st, plan⟩ :=
      Ran.event (.commit c e) he ⟨rfl, rfl⟩ rfl fun hp => ⟨hplan hp, rfl⟩
    have hafter := hran.sameView (hcommit.memInv hi1)
    refine ⟨.inl ((hclean.trans hcommit).trans (hran.mono fun _ => Event.Quiet.clean)), fun _ => ?_, nofun⟩
    intro b hb
    have hb1 : b < ((Event.commit c e).apply w1.st).sb.virtualSize :=
      Nat.lt_of_lt_of_eq hb (congrArg Superblock.virtualSize hsame.sb.symm)
    rw [hafter.view b hb1]
    exact hnew e he hP b hb

lemma scoCommitTableEntry_zero_run (hi : MemInv w.st) (hst : st = .zero ∨ st = .discarded)
    (h : exec (scoCommitTableEntry c st 0) w = (r, w')) :
    ClusterRun w w' r c (List.replicate (scoClusterStoredLength w.st.sb c) 0) := by
  have hcommit := scoCommitTableEntry_run hi (fun hp => by simp [hp] at hst) h
  refine hcommit.clusterRun hi (.idle rfl id) ?_
  rintro e - ⟨rfl, -⟩ b hb rfl
  have hzero : (List.replicate (scoClusterStoredLength w.st.sb (b / w.st.sb.clusterSize))
      (0 : UInt8)).getD (b - b / w.st.sb.clusterSize * w.st.sb.clusterSize) 0 = 0 := by
    rw [getD_eq_getElem?_getD, List.getElem?_replicate]
    split <;> rfl
  rw [hzero]
  rcases hst with hst | hst <;> simp only [entryByte, hst]

lemma pending_push_sync (s : Image) : pending (s.push .sync).fd.log = [] := by simp

lemma Image.Filled.ready (h : s.Filled c p buf) : (s.push .sync).Ready c (p * s.sb.clusterSize) p := by
  refine ⟨rfl, ⟨h.spare.toInUse.congr rfl rfl rfl, h.spare.unnamed⟩, pending_push_sync s, ?_⟩
  simpa [Effect.apply] using h.stored

lemma allocAndCommit_run (hi : MemInv w.st) (hc : c < w.st.sb.clusterCount)
    (hlen : buf.length = scoClusterStoredLength w.st.sb c)
    (h : exec (allocAndCommit c buf) w = (r, w')) : ClusterRun w w' r c buf := by
  simp only [allocAndCommit, exec_bind] at h
  rcases halloc : exec (scoAllocDataCluster c buf) w with ⟨err | off, w1⟩
  · rw [halloc] at h
    cases h
    obtain ⟨hran, -⟩ := scoAllocDataCluster_run hi hc hlen halloc
    exact ⟨.inl (hran.mono fun _ => Event.Quiet.clean), nofun, fun _ _ => hran.sameView hi⟩
  · rw [halloc] at h
    obtain ⟨hran, hfill⟩ := scoAllocDataCluster_run hi hc hlen halloc
    obtain ⟨p, rfl, hf⟩ := hfill off rfl
    have hsb := (hran.sameView hi).sb
    rcases hsync : exec fsync w1 with ⟨res, w2⟩
    obtain ⟨hplan, ⟨rfl, hst⟩ | ⟨⟨err, rfl⟩, hst, hp⟩⟩ := fsync_run hsync
    · simp only [hsync] at h
      have hran2 : Ran Event.Quiet w w2 :=
        hran.trans (Ran.event .sync trivial rfl hst fun hp => ⟨hplan hp, rfl⟩)
      have hi2 := hran2.memInv hi
      have hsb2 : w2.st.sb = w.st.sb := (hran2.sameView hi).sb
      have hready : w2.st.Ready c (p * w.st.sb.clusterSize) p := by
        rw [hst, ← hsb]
        exact hf.ready
      have hcommit := scoCommitTableEntry_run hi2 (fun _ => ⟨p, hready⟩) h
      refine hcommit.clusterRun hi hran2 ?_
      rintro e - ⟨hpres, hoff⟩ b hb rfl
      have hpc : e.physicalCluster = p := by
        have := (hoff rfl).symm
        rw [hsb2] at this
        exact Nat.eq_of_mul_eq_mul_right hi.layout.cluster_pos this
      have hx := hi2.layout.mod_lt_stored.mpr hb
      have hsum := Nat.div_add_mod' b w2.st.sb.clusterSize
      have hbyte : (get w1.st.fd.file.byte (p * w1.st.sb.clusterSize) buf.length).getD
          (b % w2.st.sb.clusterSize) 0 =
            w1.st.fd.file.byte (p * w1.st.sb.clusterSize + b % w2.st.sb.clusterSize) :=
        get_getD (by rw [hlen, ← hsb2]; exact hx)
      rw [hf.bytes] at hbyte
      have hmod : b - b / w2.st.sb.clusterSize * w2.st.sb.clusterSize = b % w2.st.sb.clusterSize := by omega
      rw [hmod, hbyte]
      simp only [entryByte, hpres, hpc, hst, push_fd, push_sb, Handle.push_file, Effect.apply]
    · simp only [hsync] at h
      cases h
      have hran2 : Ran Event.Quiet w w' := hran.trans (.idle hst hplan)
      exact ⟨.inl (hran2.mono fun _ => Event.Quiet.clean), nofun, fun _ _ => hran2.sameView hi⟩

/-- How a write of `bs` at `pos`, or a discard there, ends. A failing one may have stored a first
part; no cluster shows a part of them, save for bytes written in place. -/
structure RangeRun (w w' : Sys Image) (r : Except Errno Unit) (pos : Nat)
    (bs : List UInt8) : Prop where
  ends : Ends (fun u c => (∃ a, pos ≤ a ∧ a < pos + bs.length ∧ a / w.st.sb.clusterSize = c) ∧
    ∀ b < w.st.sb.virtualSize, b / w.st.sb.clusterSize = c → Written w.st u pos bs b) w w' r
  stored : r = .ok () → Stored w.st w'.st pos bs
  torn : ∀ err, r = .error err → ∃ k ≤ bs.length, Stored w.st w'.st pos (bs.take k)
  whole : ∀ c, Whole w.st w'.st pos bs c

lemma SameView.torn (h : SameView s s') (pos : Nat) (bs : List UInt8) :
    ∃ k ≤ bs.length, Stored s s' pos (bs.take k) := by
  refine ⟨0, Nat.zero_le _, ?_⟩
  exact h.stored pos

lemma RangeRun.refused {err : Errno} {pos : Nat} : RangeRun w w (.error err) pos bs :=
  ⟨.inl (.idle rfl id), nofun, fun _ _ => (SameView.refl _).torn _ _, fun _ => .unchanged (SameView.refl _)⟩

/-- A cluster replaced by `bs` among zeros shows what a write of `bs` leaves of it, if
the rest of it read as zero before. -/
lemma Replaced.stored {u : Image} (hi : MemInv s)
    (h : Replaced s u c buf) (hend : off + bs.length ≤ scoClusterStoredLength s.sb c)
    (hbuf : buf = get (put blank off bs) 0 (scoClusterStoredLength s.sb c))
    (hrest : ∀ b < s.sb.virtualSize, b / s.sb.clusterSize = c →
      ¬ (c * s.sb.clusterSize + off ≤ b ∧ b < c * s.sb.clusterSize + off + bs.length) →
      s.view b = some 0 ∨ s.view b = none ∧ s.base = none) :
    Stored s u (c * s.sb.clusterSize + off) bs := by
  have hle := stored_le s.sb c
  constructor
  · intro b hb hge hlt
    have hx := hi.layout.mod_lt_stored.mpr hb
    obtain ⟨hdiv, hmod⟩ := in_cluster (by omega) hge hlt
    rw [h b hb, if_pos hdiv, hbuf, ← hmod, get_getD (by rw [← hdiv]; exact hx)]
    simp only [put, Nat.zero_add]
    rw [if_pos (by omega)]
    congr 2
    omega
  · intro b hb hout
    by_cases hc : b / s.sb.clusterSize = c
    · have hx := hi.layout.mod_lt_stored.mpr hb
      have hsum := Nat.div_add_mod' b s.sb.clusterSize
      rw [hc] at hx hsum
      have hzero : buf.getD (b - c * s.sb.clusterSize) 0 = 0 := by
        rw [hbuf, show b - c * s.sb.clusterSize = b % s.sb.clusterSize by omega,
          get_getD hx, put_outside (by omega)]
        rfl
      have hv := h b hb
      rw [if_pos hc, hzero] at hv
      rcases hrest b hb hc hout with hold | ⟨hold, hbase⟩
      · exact .inl (hv.trans hold.symm)
      · exact .inr ⟨hbase, by rw [hv, hold]; rfl⟩
    · refine .inl ?_
      rw [h b hb, if_neg hc]

lemma ClusterRun.rangeRun (hi : MemInv w.st) (h : ClusterRun w w' r c buf) (hbs : bs ≠ [])
    (hend : off + bs.length ≤ scoClusterStoredLength w.st.sb c)
    (hbuf : buf = get (put blank off bs) 0 (scoClusterStoredLength w.st.sb c))
    (hrest : ∀ b < w.st.sb.virtualSize, b / w.st.sb.clusterSize = c →
      ¬ (c * w.st.sb.clusterSize + off ≤ b ∧ b < c * w.st.sb.clusterSize + off + bs.length) →
      w.st.view b = some 0 ∨ w.st.view b = none ∧ w.st.base = none) :
    RangeRun w w' r (c * w.st.sb.clusterSize + off) bs := by
  have hpos := length_pos_iff.mpr hbs
  have hle := stored_le w.st.sb c
  have hstored := fun (u : Image) (hu : Replaced w.st u c buf) => hu.stored hi hend hbuf hrest
  refine ⟨h.ends.imp ?_, fun hok => hstored _ (h.replaced hok),
    fun err herr => (h.same err herr).torn _ _, fun d => ?_⟩
  · rintro u d ⟨rfl, hu⟩
    have hfirst := in_cluster (b := d * w.st.sb.clusterSize + off) (by omega) (Nat.le_refl _)
      (Nat.lt_add_of_pos_right hpos)
    exact ⟨⟨_, Nat.le_refl _, Nat.lt_add_of_pos_right hpos, hfirst.1⟩,
      fun b hb _ => (hstored u hu).written hb⟩
  · cases r with
    | error err => exact .unchanged (h.same err rfl)
    | ok => exact .all (hstored _ (h.replaced rfl))

lemma lookup_spec (hi : MemInv s) {offset : Nat}
    (hoff : offset < s.sb.virtualSize) (hlen : len ≠ 0) : scoLookupExtent s offset len =
      .ok ⟨⟨offset, min len (scoClusterStoredLength s.sb (offset / s.sb.clusterSize) -
          offset % s.sb.clusterSize), (s.table (offset / s.sb.clusterSize)).state.extent⟩,
        if (s.table (offset / s.sb.clusterSize)).state = .present then
          (s.table (offset / s.sb.clusterSize)).physicalCluster * s.sb.clusterSize else 0⟩ := by
  have hc := hi.layout.div_lt_count hoff
  have hx := hi.layout.mod_lt_stored.mpr hoff
  have hmod : offset - offset / s.sb.clusterSize * s.sb.clusterSize =
      offset % s.sb.clusterSize := by
    have := Nat.div_add_mod' offset s.sb.clusterSize
    omega
  unfold scoLookupExtent
  simp only [hmod]
  rw [if_neg (by omega), if_neg (by omega), if_neg (by omega)]
  congr 3
  split <;> omega

lemma lookup_cluster (hi : MemInv s) (hc : c < s.sb.clusterCount) :
    scoLookupExtent s (c * s.sb.clusterSize) (scoClusterStoredLength s.sb c) =
      .ok ⟨⟨c * s.sb.clusterSize, scoClusterStoredLength s.sb c, (s.table c).state.extent⟩,
        if (s.table c).state = .present then (s.table c).physicalCluster * s.sb.clusterSize
        else 0⟩ := by
  have hpos := hi.layout.stored_pos hc
  have hdiv : c * s.sb.clusterSize / s.sb.clusterSize = c := Nat.mul_div_cancel c hi.layout.cluster_pos
  rw [lookup_spec hi (hi.layout.lt_count_iff.mp hc) hpos.ne', hdiv, Nat.mul_mod_left,
    Nat.sub_zero, Nat.min_self]

lemma view_unmapped (h : (s.table (b / s.sb.clusterSize)).state ≠ .present) : s.view b = some 0 ∨
      s.view b = none ∧ (s.table (b / s.sb.clusterSize)).state = .absent := by
  simp only [Image.view, entryByte]
  cases hst : (s.table (b / s.sb.clusterSize)).state with
  | present => exact absurd hst h
  | absent => exact .inr ⟨rfl, rfl⟩
  | zero | discarded => exact .inl rfl

lemma unsynced_overwrite {done : Nat} (hen : (Event.overwrite c off buf done).Enabled s)
    (hge : c * s.sb.clusterSize + off ≤ b) (hlt : b < c * s.sb.clusterSize + off + buf.length) :
    ((Event.overwrite c off buf done).apply s).Unsynced b := by
  have hle := stored_le s.sb c
  obtain ⟨hdiv, hmod⟩ := in_cluster (Nat.le_trans hen.2.2.1 hle) hge hlt
  refine ⟨_, mem_append_right _ (mem_singleton_self _), ⟨rfl, hdiv.symm, ?_, ?_⟩, ?_⟩
  · change off ≤ b % s.sb.clusterSize
    omega
  · change b % s.sb.clusterSize < off + buf.length
    omega
  have hlen := congrArg List.length (synced_append_pending s.fd.log)
  rw [length_append] at hlen
  change (synced (s.fd.log ++ [_])).length ≤ s.fd.log.length
  rw [synced_snoc rfl]
  omega

lemma overwrite_run (hi : MemInv w.st) (hc : c < w.st.sb.clusterCount)
    (hpres : (w.st.table c).state = .present) (hbuf : buf ≠ [])
    (hend : off + buf.length ≤ scoClusterStoredLength w.st.sb c)
    (h : exec (writeExact ((w.st.table c).physicalCluster * w.st.sb.clusterSize + off) buf)
      ⟨recordGuestWrite w.st c off
        ((w.st.table c).physicalCluster * w.st.sb.clusterSize + off) buf.length false,
        w.plan⟩ = (r, w')) : RangeRun w w' r (c * w.st.sb.clusterSize + off) buf := by
  obtain ⟨k, hk, hst, hplan, hok⟩ := writeExact_run hbuf h
  have hen : (Event.overwrite c off buf k).Enabled w.st := ⟨hc, hpres, hend, hk⟩
  have hstored := stored_overwrite hi hen
  have hst' : w'.st = (Event.overwrite c off buf k).apply w.st := hst
  rw [← hst'] at hstored
  refine ⟨.inl (Ran.event _ hen ⟨rfl, rfl⟩ hst' fun hp => ?_), fun hr => ?_,
    fun err herr => ⟨k, hk, hstored⟩, fun d => .inl fun b hb _ => ?_⟩
  · obtain ⟨hp1, rfl⟩ := hplan hp
    exact ⟨hp1, by simp [Event.isFailure]⟩
  · obtain rfl := hok.mp hr
    rwa [take_length] at hstored
  by_cases hin : c * w.st.sb.clusterSize + off ≤ b ∧ b < c * w.st.sb.clusterSize + off + buf.length
  · refine .inl ?_
    rw [hst']
    exact unsynced_overwrite hen hin.1 hin.2
  · refine .inr (hstored.outside b hb fun hout => hin ⟨hout.1, ?_⟩)
    have := hout.2
    rw [length_take] at this
    omega

lemma zeros_eq (h : bufferAllZero buf = true) (n : Nat) :
    List.replicate n (0 : UInt8) = get (put blank 0 buf) 0 n := by
  have hall : ∀ x ∈ buf, x = 0 := by
    intro x hx
    simpa using all_eq_true.mp h x hx
  rw [← get_replicate_zero n]
  refine get_congr fun i _ _ => ?_
  simp only [put]
  split
  · rw [getD_eq_getElem?_getD]
    cases hx : buf[i - 0]? with
    | none => rfl
    | some x => exact (hall x (mem_of_getElem? hx)).symm
  · rfl

lemma full_chunk {sb : Superblock} (hl : LayoutOk sb) (hb : b < sb.virtualSize)
    (hc : b / sb.clusterSize = c) (hn : n = scoClusterStoredLength sb c) :
    c * sb.clusterSize + 0 ≤ b ∧ b < c * sb.clusterSize + 0 + n := by
  have hx := hl.mod_lt_stored.mpr hb
  have hsum := Nat.div_add_mod' b sb.clusterSize
  rw [hc] at hx hsum
  omega

lemma scoWritePresentCluster_run (hi : MemInv w.st) (hc : c < w.st.sb.clusterCount)
    (hpres : (w.st.table c).state = .present) {ext : Extent}
    (hext : ext.offset = c * w.st.sb.clusterSize) (h : exec (scoWritePresentCluster
      ⟨ext, (w.st.table c).physicalCluster * w.st.sb.clusterSize⟩ off buf) w = (r, w')) :
    RangeRun w w' r (c * w.st.sb.clusterSize + off) buf := by
  have hdiv : ext.offset / w.st.sb.clusterSize = c := by
    rw [hext]
    exact Nat.mul_div_cancel c hi.layout.cluster_pos
  simp only [scoWritePresentCluster, exec_bind, exec_state, exec_ite, exec_throw, exec_update, hdiv] at h
  split_ifs at h with hbuf hrange hzero
  · cases h
    exact .refused
  · cases h
    exact .refused
  · obtain ⟨rfl, hfull, hall⟩ := hzero
    refine (scoCommitTableEntry_zero_run hi (.inl rfl) h).rangeRun hi hbuf (by omega)
      (zeros_eq hall _) fun b hb hbc hout => absurd (full_chunk hi.layout hb hbc hfull) hout
  · exact overwrite_run hi hc hpres hbuf (by omega) h

end ScorpiHv.Sco

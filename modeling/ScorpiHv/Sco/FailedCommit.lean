import ScorpiHv.Sco.Life

/-!
# Commits that fail

A table commit that fails with the slot complete leaves the new entry in the file and
the old one in memory, and what is written in place from then on is lost at the next
open.
-/

namespace ScorpiHv.Sco
open Bytes List

inductive Life : Image → Prop where
  | created {opts : CreateOptions} {uuid : List UInt8} {f : File} {readonly : Bool} {s : Image} :
      uuid.length = 16 → createSco opts uuid = .ok f → scoOpen f readonly = .ok s → Life s
  | call {s s' : Image} : Life s → CallStep s s' → s'.Tidy → Life s'
  | reopen {s s' : Image} {readonly : Bool} : Life s → s.reopen readonly = .ok s' → Life s'

structure LifeInv (s : Image) : Prop where
  mem : MemInv s
  disk : DiskInv s
  tidy : s.Tidy

variable {s : Image}

lemma Life.inv (h : Life s) : LifeInv s := by
  induction h with
  | created huuid hcreate hopen =>
    have ho := opened_of_scoOpen hopen
    refine ⟨opened_memInv ho, created_diskInv huuid hcreate hopen, fun r hr => ?_⟩
    rw [ho.failedCommits_eq] at hr
    cases hr
  | call _ hstep htidy ih =>
    obtain ⟨call, plan, rfl⟩ := hstep
    rcases hx : exec call.run ⟨_, plan⟩ with ⟨r, w'⟩
    rw [hx] at htidy
    have hran := call_run ih.mem hx
    refine ⟨hran.memInv ih.mem, ?_, htidy⟩
    obtain ⟨evs, ht, -, -⟩ := hran
    exact trace_diskInv ht ih.mem ih.disk htidy
  | reopen _ hr ih =>
    obtain ⟨hmem, hdisk, hrel, hfc⟩ := reopen_spec ih.mem ih.disk hr
    refine ⟨hmem, hdisk, fun r hr => ?_⟩
    rw [hfc] at hr
    obtain ⟨g, v, hsb, -⟩ := hrel.sb
    rw [hsb]
    cases r with
    | slot | superblock => exact ih.tidy _ hr

lemma LifeInv.reopens (h : LifeInv s) : ∃ s', s.reopen true = .ok s' ∧
    ∀ b < s.sb.virtualSize, s'.view b = s.view b := by
  obtain ⟨t, ht⟩ := h.disk.current.disk.scoOpen_ok h.disk.sound h.mem.mapped
    (fun (hro : true = false) => by cases hro)
  obtain ⟨s', hr⟩ : ∃ s', s.reopen true = .ok s' := by
    rw [Image.reopen, ht, except_ok_bind]
    exact ⟨_, rfl⟩
  obtain ⟨-, -, hrel, -⟩ := reopen_spec h.mem h.disk hr
  exact ⟨s', hr, fun b hb => hrel.view h.mem hb⟩

variable {c : Nat}

lemma LifeInv.load (h : LifeInv s) (hc : c < s.sb.clusterCount) :
    scoLoadEntry s.fd.file s.sb s.fd.file.size c = s.table c :=
  (h.disk.current.disk.slots c hc).load h.mem.layout (h.mem.stored c hc)

variable {k : Nat} {e : TableEntry}

lemma failedSlot_full (h : LifeInv s) (he : s.NextEntry c e)
    (hfull : get (s.failedSlot c e k).fd.file.byte (s.slotOffset c e) SCO_TABLE_SLOT_SIZE =
      slotBytes s.sb c e) :
    OnDisk (s.failedSlot c e k).fd.file { s with table := setEntry s.table c e } := by
  have hoff := he.slot_ge
  have hlen : ((slotBytes s.sb c e).take k).length ≤ SCO_TABLE_SLOT_SIZE := by simp [length_take]
  have hfile : (s.failedSlot c e k).fd.file =
      s.fd.file.pwrite (s.slotOffset c e) ((slotBytes s.sb c e).take k) := by
    simp [Image.failedSlot, Image.failed, Effect.apply]
  rw [hfile] at hfull ⊢
  have hslot : SlotOk (s.fd.file.pwrite (s.slotOffset c e) ((slotBytes s.sb c e).take k)) s.sb c
      e := by
    refine (h.disk.current.disk.slots c he.lt).commit (NextEntry.entryOk h.mem he) he.slot
      (by rw [he.generation]; omega) (get_put_disjoint ?_) hfull
    have hap := other_slot_apart s.sb c (s.table c).activeSlot
    omega
  rw [hoff] at hslot ⊢
  exact h.disk.current.slotChanged h.disk.sound h.disk.isPage hlen he.lt hslot

lemma failedSlot_agrees (h : LifeInv s)
    (he : s.NextEntry c e) (hk : k ≤ SCO_TABLE_SLOT_SIZE) {found meant left : List UInt8} {i : Slot}
    (hrec : (s.failedSlot c e k).failedCommits = s.failedCommits ++ [.slot c i found meant left])
    (hleft : left = found ∨ left = meant ∨ scoSlotSealed s.sb c i (put blank 0 left) = false) :
    scoLoadEntry (s.failedSlot c e k).fd.file s.sb (s.failedSlot c e k).fd.file.size c =
      s.table c ↔ left ≠ meant := by
  have htail := append_cancel_left hrec
  have hben : FailedCommit.Benign s.sb (.slot c i found meant left) ↔
      left = found ∨ scoSlotSealed s.sb c i (put blank 0 left) = false := Iff.rfl
  simp only [List.cons.injEq, FailedCommit.slot.injEq, true_and, and_true] at htail
  obtain ⟨-, -, hmeant, hleft'⟩ := htail
  by_cases hfull : left = meant
  · have hbytes : get (s.failedSlot c e k).fd.file.byte (s.slotOffset c e) SCO_TABLE_SLOT_SIZE =
        slotBytes s.sb c e := by
      rw [hmeant, ← hfull]
      exact hleft'
    have hslot : SlotOk (s.failedSlot c e k).fd.file s.sb c (setEntry s.table c e c) :=
      (failedSlot_full h he hbytes).disk.slots c he.lt
    rw [entry_same] at hslot
    have hgrow : s.fd.file.size ≤ (s.failedSlot c e k).fd.file.size := by
      simp only [Image.failedSlot, Image.failed, push_fd, Handle.push_file]
      exact Effect.size_le_apply _ _
    have hload := hslot.load h.mem.layout fun hp => Nat.le_trans (he.stored hp) hgrow
    refine iff_of_false (fun heq => ?_) (fun hne => hne hfull)
    have hgen := congrArg TableEntry.generation (hload.symm.trans heq)
    rw [he.generation] at hgen
    omega
  · have htidy : (s.failedSlot c e k).Tidy := by
      intro r hr
      rw [hrec] at hr
      rcases mem_append.mp hr with hr | hr
      · exact h.tidy r hr
      · rw [mem_singleton.mp hr]
        exact hben.mpr (hleft.imp_right fun hor => hor.resolve_left hfull)
    have hstep : Step s (.failSlot c e k) (s.failedSlot c e k) := ⟨⟨he, hk⟩, rfl⟩
    have hinv : LifeInv (s.failedSlot c e k) := ⟨step_memInv h.mem hstep, h.disk.failSlot he htidy, htidy⟩
    exact iff_of_true (hinv.load he.lt) hfull

lemma Tidy.congr {s' : Image} (h : s.Tidy) (hsb : s'.sb = s.sb)
    (hfc : s'.failedCommits = s.failedCommits) : s'.Tidy := by
  rw [Image.Tidy, hsb, hfc]
  exact h

variable {w w' : Sys Image}

lemma clean_failedCommits (h : Ran Event.Clean w w') : w'.st.failedCommits = w.st.failedCommits := by
  obtain ⟨evs, ht, hev, -⟩ := h
  exact trace_failedCommits ht fun ev hmem => (hev ev hmem).2

variable {buf : List UInt8} {offset : Nat}

lemma scoWrite_range (h : exec (scoWrite buf offset) w = (.ok (), w')) :
    offset + buf.length ≤ w.st.sb.virtualSize := by
  simp only [scoWrite, exec_bind, exec_state, exec_ofExcept] at h
  cases hval : scoValidateWriteLocked w.st offset buf.length with
  | error =>
    rw [hval] at h
    cases h
  | ok =>
    simp only [scoValidateWriteLocked] at hval
    split_ifs at hval with hro hrange
    omega

variable {plan : List Fault}

lemma Life.write_flush (h : Life s) {w₁ w₂ : Sys Image}
    (hw : exec (scoWrite buf offset) ⟨s, plan⟩ = (.ok (), w₁)) (hf : exec scoFlush w₁ = (.ok (), w₂)) :
    Life w₂.st ∧ ∀ i < buf.length, w₂.st.view (offset + i) = some (buf.getD i 0) := by
  have hinv := h.inv
  have hrun := scoWrite_run hinv.mem hw
  have hclean := hrun.ends.ok
  have hsb := hrun.ran.sameImage.sb
  have hlife : Life w₁.st := by
    refine .call h ⟨.write buf offset, plan, ?_⟩ (Tidy.congr hinv.tidy hsb (clean_failedCommits hclean))
    rw [Call.run, hw]
  have hquiet := scoFlush_run hf
  have hsame := hquiet.sameView hlife.inv.mem
  refine ⟨.call hlife ⟨.flush, w₁.plan, ?_⟩ ?_, fun i hi => ?_⟩
  · rw [Call.run, hf]
  · exact Tidy.congr hlife.inv.tidy hsame.sb (clean_failedCommits (hquiet.mono fun _ => Event.Quiet.clean))
  have hrange : offset + buf.length ≤ s.sb.virtualSize := scoWrite_range hw
  have hlt : offset + i < w₁.st.sb.virtualSize := by
    rw [hsb]
    change offset + i < s.sb.virtualSize
    omega
  rw [hsame.view _ hlt, (hrun.stored rfl).inside _ (by change _ < s.sb.virtualSize; omega)
    (Nat.le_add_right _ _) (by omega), Nat.add_sub_cancel_left]

theorem failed_commit_agreement {s : Image} (h : Life s) :
    (∀ c < s.sb.clusterCount, s.table c = scoLoadEntry s.fd.file s.sb s.fd.file.size c) ∧
    (∀ buf offset plan w₁ w₂, exec (scoWrite buf offset) ⟨s, plan⟩ = (.ok (), w₁) →
      exec scoFlush w₁ = (.ok (), w₂) →
      (∃ s', w₂.st.reopen true = .ok s') ∧
        ∀ readonly s', w₂.st.reopen readonly = .ok s' →
          ∀ i < buf.length, s'.view (offset + i) = some (buf.getD i 0)) ∧
    ∀ c st off plan err w' i found meant left, (st = .present → ∃ p, s.Ready c off p) →
      exec (scoCommitTableEntry c st off) ⟨s, plan⟩ = (.error err, w') →
      w'.st.failedCommits = s.failedCommits ++ [.slot c i found meant left] →
      (left = found ∨ left = meant ∨ scoSlotSealed s.sb c i (put blank 0 left) = false) →
      (w'.st.table c = scoLoadEntry w'.st.fd.file w'.st.sb w'.st.fd.file.size c ↔
        left ≠ meant) := by
  have hinv := h.inv
  refine ⟨fun c hc => (hinv.load hc).symm, ?_, ?_⟩
  · intro buf offset plan w₁ w₂ hw hf
    obtain ⟨hlife, hview⟩ := h.write_flush hw hf
    obtain ⟨t, ht, -⟩ := hlife.inv.reopens
    refine ⟨⟨t, ht⟩, fun readonly s' hs' i hi => ?_⟩
    obtain ⟨-, -, hrel, -⟩ := reopen_spec hlife.inv.mem hlife.inv.disk hs'
    rw [← hview i hi]
    refine hrel.view hlife.inv.mem ?_
    have hrange : offset + buf.length ≤ s.sb.virtualSize := scoWrite_range hw
    have hsb : w₂.st.sb = s.sb :=
      ((scoFlush_run hf).sameView ((scoWrite_run hinv.mem hw).ran.memInv hinv.mem)).sb.trans
        (scoWrite_run hinv.mem hw).ran.sameImage.sb
    rw [hsb]
    omega
  · intro c st off plan err w' i found meant left hready hrun hrec hleft
    rcases scoCommitTableEntry_run hinv.mem hready hrun with
      ⟨-, rfl | ⟨-, e, k, -, ⟨he, hk⟩, hst⟩⟩ | ⟨hok, -⟩
    · exact absurd hrec (by simp)
    · have hst' : w'.st = s.failedSlot c e k := hst
      rw [hst'] at hrec ⊢
      exact eq_comm.trans (failedSlot_agrees hinv he hk hrec hleft)
    · cases hok

theorem failed_commit_agreement_small : ∃ s, Life s ∧ s.failedCommits ≠ [] ∧
    ∀ c < s.sb.clusterCount, s.table c = scoLoadEntry s.fd.file s.sb s.fd.file.size c := by
  obtain ⟨s₀, hopen⟩ := small_opens false
  obtain ⟨hsb, htable, hro, -⟩ := small_fresh hopen
  have hlife : Life s₀ := .created (by decide) small_created hopen
  have hdiscard := scoDiscard_one (c := 0) [.fail .eio 0] hlife.inv.mem
    (by rw [hsb]; decide) hro (by rw [hsb]; decide) (by rw [htable]; decide)
  have hnil : s₀.failedCommits = [] := (opened_of_scoOpen hopen).failedCommits_eq
  have hlife' : Life (s₀.failedSlot 0 (s₀.nextEntry 0 .discarded 0) 0) := by
    refine .call hlife ⟨.discard _ _, _, congrArg (fun x => x.2.st) hdiscard⟩ fun r hr => ?_
    simp only [Image.failedSlot, Image.failed, Image.push, hnil, nil_append, mem_singleton] at hr
    subst hr
    simp [FailedCommit.Benign, Effect.apply, File.pwrite_byte]
  exact ⟨_, hlife', append_ne_nil_of_right_ne_nil _ (cons_ne_nil _ _),
    (failed_commit_agreement hlife').1⟩

lemma Life.write (h : Life s) (hw : exec (scoWrite buf offset) ⟨s, plan⟩ = (.ok (), w)) : Life w.st := by
  have hrun := scoWrite_run h.inv.mem hw
  refine .call h ⟨.write buf offset, plan, ?_⟩
    (Tidy.congr h.inv.tidy hrun.ran.sameImage.sb (clean_failedCommits hrun.ends.ok))
  rw [Call.run, hw]

lemma failedSlot_whole (s : Image) (c : Nat) (e : TableEntry) :
    get (s.failedSlot c e SCO_TABLE_SLOT_SIZE).fd.file.byte (s.slotOffset c e)
      SCO_TABLE_SLOT_SIZE = slotBytes s.sb c e := by
  have htake : (slotBytes s.sb c e).take SCO_TABLE_SLOT_SIZE = slotBytes s.sb c e :=
    take_of_length_le (by rw [slotBytes_length])
  have hget := get_put_same s.fd.file.byte (s.slotOffset c e) (slotBytes s.sb c e)
  simp only [Image.failedSlot, Image.failed, push_fd, Handle.push_file, Effect.apply, htake]
  exact hget

lemma reopens_as {u v : Image} (hfile : u.fd.file = v.fd.file) (hi : MemInv v) (hd : DiskInv v) :
    ∃ s', u.reopen true = .ok s' ∧ MemInv s' ∧ (∃ g r, s'.sb = v.sb.retag g r) ∧
      ∀ c < v.sb.clusterCount, s'.table c = v.table c := by
  obtain ⟨t, ht⟩ := hd.current.disk.scoOpen_ok hd.sound hi.mapped (fun (hro : true = false) => by cases hro)
  obtain ⟨hrel, -⟩ := hd.opened hi (opened_of_scoOpen ht)
  obtain ⟨g, r, hsb, -⟩ := hrel.sb
  obtain ⟨s', hr, rfl⟩ : ∃ s', u.reopen true = .ok s' ∧
      s' = { t with fd := u.fd, guestWrites := u.guestWrites, failedCommits := u.failedCommits } := by
    rw [Image.reopen, hfile, ht, except_ok_bind]
    exact ⟨_, rfl, rfl⟩
  refine ⟨_, hr, ?_, ⟨g, r, hsb⟩, hrel.table⟩
  exact (opened_memInv (opened_of_scoOpen ht)).of_inUse rfl rfl rfl
    (Nat.le_of_eq (by rw [hfile, ← hrel.file])) fun _ _ hp => hp.congr rfl rfl rfl

lemma unsynced_discard_lost (hi : MemInv s) (hd : DiskInv s) (off : Nat)
    (buf : List UInt8) (hc : c < s.sb.clusterCount) (hpres : (s.table c).state = .present)
    (hgen : (s.table c).generation ≠ UINT32_MAX)
    (hend : off + buf.length ≤ scoClusterStoredLength s.sb c) :
    ∃ s', (((Event.overwrite c off buf buf.length).apply
        (s.failedSlot c (s.nextEntry c .discarded 0) SCO_TABLE_SLOT_SIZE)).push .sync).reopen true =
          .ok s' ∧ MemInv s' ∧ (∃ g r, s'.sb = s.sb.retag g r) ∧
      s'.table c = s.nextEntry c .discarded 0 := by
  have hne : s.NextEntry c (s.nextEntry c .discarded 0) :=
    nextEntry_ok hi nofun hc (rfl : commitCluster s .discarded 0 = .ok 0) hgen
  -- the file is that of the committed discard with the bytes put in the old cluster
  have hdc := hd.commit hi hne
  have hic := step_memInv hi (show Step s (.commit c _) _ from ⟨hne, rfl⟩)
  have huse := hi.inUse c hc hpres
  have hdp : DiskInv (((Event.commit c (s.nextEntry c .discarded 0)).apply s).push
      (.pwrite ((s.table c).physicalCluster * s.sb.clusterSize + off) buf)) :=
    hdc.pushCluster hic huse.ge huse.le (Nat.le_trans hend (stored_le s.sb c))
  obtain ⟨s', hr, hmem, hsb, htable⟩ := reopens_as (u := ((Event.overwrite c off buf
    buf.length).apply (s.failedSlot c (s.nextEntry c .discarded 0) SCO_TABLE_SLOT_SIZE)).push .sync)
    (by
      simp [Event.apply, Effect.apply, Image.failedSlot, Image.failed, recordGuestWrite,
        take_of_length_le]) (hic.push _) hdp
  exact ⟨s', hr, hmem, hsb, (htable c hc).trans (entry_same _ _ _)⟩

lemma write_flush_read {t : Image} (hi : MemInv s) {b : Nat} {x : UInt8}
    (hw : exec (scoWrite [x] b) ⟨s, []⟩ = (.ok (), ⟨t, []⟩)) :
    (exec (scoRead b 1) ⟨t.push .sync, []⟩).1 = .ok [x] := by
  have hrun := scoWrite_run (w := ⟨s, []⟩) hi hw
  have hit : MemInv t := hrun.ran.memInv hi
  have hflush := scoFlush_run (fsync_nofail t)
  have hlt : b < s.sb.virtualSize := scoWrite_range (w := ⟨s, []⟩) hw
  have hltt : b < t.sb.virtualSize := Nat.lt_of_lt_of_eq hlt
    (congrArg Superblock.virtualSize hrun.ran.sameImage.sb).symm
  refine read_byte (hflush.memInv hit) hltt (((hflush.sameView hit).view b hltt).trans ?_)
  have hin := (hrun.stored rfl).inside b hlt (Nat.le_refl _) (Nat.lt_succ_self b)
  rwa [Nat.sub_self] at hin

theorem failed_commit_loses_write : ∃ s₀ s₁ w₂ w₃ w₄ s',
    scoOpen smallFile false = .ok s₀ ∧
    exec (scoWrite [1, 1] 0) ⟨s₀, []⟩ = (.ok (), ⟨s₁, []⟩) ∧
    exec (scoDiscard 0 2) ⟨s₁, [.none, .fail .eio 0]⟩ = (.error .eio, w₂) ∧
    w₂.st.table 0 ≠ scoLoadEntry w₂.st.fd.file w₂.st.sb w₂.st.fd.file.size 0 ∧
    exec (scoWrite [2] 0) w₂ = (.ok (), w₃) ∧ exec scoFlush w₃ = (.ok (), w₄) ∧
    (exec (scoRead 0 1) w₄).1 = .ok [2] ∧
    w₄.st.reopen true = .ok s' ∧ (exec (scoRead 0 1) ⟨s', []⟩).1 = .ok [0] := by
  obtain ⟨s₀, hopen⟩ := small_opens false
  have hlife : Life s₀ := .created (by decide) small_created hopen
  obtain ⟨s₁, hw, hsb, hro, htable⟩ := small_write hopen
  have hinv : LifeInv s₁ := (hlife.write hw).inv
  have hc : 0 < s₁.sb.clusterCount := by rw [hsb]; decide
  have hstored : scoClusterStoredLength s₁.sb 0 = 2 := by rw [hsb]; exact small_stored
  have hpres : (s₁.table 0).state = .present := by rw [htable]
  have hgen : (s₁.table 0).generation ≠ UINT32_MAX := by rw [htable]; decide
  have hdiscard := scoDiscard_one [.none, .fail .eio 0] hinv.mem hc hro
    (by rw [hsb]; decide) hgen
  rw [Nat.zero_mul, hstored, commitEntry_unsynced] at hdiscard
  have hne : s₁.NextEntry 0 (s₁.nextEntry 0 .discarded 0) :=
    nextEntry_ok hinv.mem nofun hc (rfl : commitCluster s₁ .discarded 0 = .ok 0) hgen
  have hi₂ := step_memInv hinv.mem
    (show Step s₁ (.failSlot 0 _ SCO_TABLE_SLOT_SIZE) _ from ⟨⟨hne, Nat.le_refl _⟩, rfl⟩)
  have hwrite := small_overwrite hi₂ hsb hro hpres (i := 0) (x := 2) (by decide) (by decide)
  obtain ⟨s', hr, hmem, ⟨g, r, hsb'⟩, htable'⟩ := unsynced_discard_lost hinv.mem hinv.disk 0 [2] hc
    hpres hgen (by rw [hstored]; decide)
  refine ⟨s₀, s₁, _, _, _, s', hopen, hw, hdiscard, ?_, hwrite, fsync_nofail _, ?_, hr, ?_⟩
  · have hfull : get (s₁.failedSlot 0 (s₁.nextEntry 0 .discarded 0) SCO_TABLE_SLOT_SIZE).fd.file.byte
        (s₁.slotOffset 0 (s₁.nextEntry 0 .discarded 0)) SCO_TABLE_SLOT_SIZE =
        slotBytes s₁.sb 0 (s₁.nextEntry 0 .discarded 0) :=
      failedSlot_whole _ _ _
    exact fun heq => (failedSlot_agrees hinv hne (Nat.le_refl _) rfl (.inr (.inl hfull))).mp
      heq.symm hfull
  · exact write_flush_read hi₂ hwrite
  · have hvs : s'.sb.virtualSize = 2 := by
      rw [hsb', hsb]
      rfl
    have hcs : s'.sb.clusterSize = 0x40000 := by
      rw [hsb', hsb]
      rfl
    refine read_byte hmem (by omega) ?_
    rw [Image.view, hcs]
    rw [htable']
    rfl

end ScorpiHv.Sco

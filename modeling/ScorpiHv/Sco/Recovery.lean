import ScorpiHv.Sco.Crash
import ScorpiHv.Sco.FailedCommit

/-!
# Recovery from a crash inside a call

Whatever call the host crashes in, the surviving file opens, and each cluster of
it reads as before the call or as after it, apart from unsynced writes in place.
-/

namespace ScorpiHv.Sco
open Bytes List

structure CrashInv (s : Image) : Prop where
  mem : MemInv s
  disk : DiskInv s
  durable : DurableInv s
  noSlot : s.NoSlot
  tidy : s.Tidy

variable {s t u : Image}

lemma CrashInv.ready (h : CrashInv s) : CrashReady s :=
  ⟨h.mem, h.disk.sound, h.disk.isPage, h.disk.current.disk.size_le, h.durable⟩

variable {s' : Image}

lemma trace_crashInv {evs : List Event} (htr : Trace Step s evs s')
    (h : CrashInv s) (ht : s'.Tidy) : CrashInv s' := by
  induction htr with
  | nil => exact h
  | cons hstep hrest ih =>
    have htidy := Tidy.of_trace hrest ht
    exact ih ⟨step_memInv h.mem hstep, step_diskInv h.mem h.disk hstep htidy,
      step_durableInv h.mem h.disk h.durable hstep, step_noSlot h.mem h.disk h.noSlot hstep htidy, htidy⟩ ht

variable {w w' : Sys Image}

lemma CrashInv.clean (h : CrashInv w.st) (hran : Ran Event.Clean w w') : CrashInv w'.st := by
  have hsb := (hran.mono fun _ hev => hev.1).sameImage.sb
  have htidy := Tidy.congr h.tidy hsb (clean_failedCommits hran)
  obtain ⟨evs, ht, -, -⟩ := hran
  exact trace_crashInv ht h htidy

def Call.pos : Call → Nat
  | write _ offset => offset
  | discard offset _ => offset
  | _ => 0

def Call.bytes : Call → List UInt8
  | write buf _ => buf
  | discard _ length => List.replicate length 0
  | _ => []

structure CallCrash (s u : Image) (pos : Nat) (bs : List UInt8) : Prop where
  sb : ∃ g r, u.sb = s.sb.retag g r
  base : u.base = s.base
  whole : ∀ c, Whole s u pos bs c
  state : CrashReady u ∧ u.NoSlot ∨ ∃ w1 c e k, CrashInv w1 ∧ w1.NextEntry c e ∧
    k ≤ SCO_TABLE_SLOT_SIZE ∧ u = w1.failedSlot c e k ∧ w1.sb = s.sb ∧
    ∀ b < s.sb.virtualSize, b / s.sb.clusterSize = c →
      Written s ((Event.commit c e).apply w1) pos bs b

lemma CallCrash.of_sameView (h : SameView s u) (hu : CrashInv u) (pos : Nat)
    (bs : List UInt8) : CallCrash s u pos bs :=
  ⟨⟨s.sb.generation, s.sb.readonlyCompatibleFeatures, h.sb⟩, h.base,
    fun _ => .unchanged h, .inl ⟨hu.ready, hu.noSlot⟩⟩

variable {bs : List UInt8} {r : Except Errno Unit} {pos : Nat}

lemma CallCrash.of_range (hs : CrashInv w.st) (h : RangeRun w w' r pos bs) :
    CallCrash w.st w'.st pos bs := by
  have hsame := h.ran.sameImage
  refine ⟨⟨w.st.sb.generation, w.st.sb.readonlyCompatibleFeatures, hsame.sb⟩, hsame.base, h.whole, ?_⟩
  rcases h.ends with hran | ⟨-, -, w1, c, e, k, hran, ⟨⟨he, hk⟩, hst⟩, -, hnew⟩
  · have hinv := hs.clean hran
    exact .inl ⟨hinv.ready, hinv.noSlot⟩
  · exact .inr ⟨w1.st, c, e, k, hs.clean hran, he, hk, hst,
      (hran.mono fun _ hev => hev.1).sameImage.sb, hnew⟩

lemma CallCrash.of_page (hs : CrashInv s) {bs' : List UInt8} (hlen : bs'.length ≤ SCO_SUPERBLOCK_SIZE)
    (hsb : ∃ g r, u.sb = s.sb.retag g r) (hbase : u.base = s.base) (htable : u.table = s.table)
    (hfile : u.fd.file = s.fd.file.pwrite s.pageOffset bs') (hu : CrashReady u) (hno : u.NoSlot) (pos : Nat)
    (bs : List UInt8) : CallCrash s u pos bs := by
  refine ⟨hsb, hbase, fun c => .inl fun b hb _ => .inr (.inl ?_), .inl ⟨hu, hno⟩⟩
  obtain ⟨g, r, hsb⟩ := hsb
  rw [← view_push hs.mem (harmless_page hs.mem hlen) hb]
  simp only [Image.view, htable, hfile, hsb, Superblock.retag, push_fd, push_sb, push_table,
    Handle.push_file, Effect.apply]

variable {plan : List Fault}

lemma call_crash {call : Call} (hs : CrashInv s) (h : exec call.run ⟨s, plan⟩ = (r, w')) :
    CallCrash s w'.st call.pos call.bytes := by
  cases call with
  | write => exact .of_range (w := ⟨s, plan⟩) hs (scoWrite_run hs.mem h)
  | discard => exact .of_range (w := ⟨s, plan⟩) hs (scoDiscard_run hs.mem h)
  | flush =>
    have hran := scoFlush_run h
    have hinv : CrashInv w'.st := CrashInv.clean (w := ⟨s, plan⟩) hs (hran.mono fun _ => Event.Quiet.clean)
    exact .of_sameView (hran.sameView hs.mem) hinv _ _
  | read offset len =>
    simp only [Call.run, exec_bind, exec_pure] at h
    generalize hx : exec (scoRead offset len) _ = x at h
    obtain ⟨res, w1⟩ := x
    obtain ⟨hst, -⟩ := scoRead_st (w := ⟨s, plan⟩) hs.mem hx
    have hst' : w'.st = s := by
      cases res with
      | error | ok =>
        cases h
        exact hst
    rw [hst']
    exact .of_sameView (SameView.refl _) hs _ _
  | setSealed isSealed =>
    rcases setSealed_cases h with rfl | ⟨⟨hen, hst⟩, -⟩ | ⟨-, k, hen, hst⟩
    · exact .of_sameView (SameView.refl _) hs _ _
    · have hd : DiskInv w'.st := hst ▸ hs.disk.reseal isSealed
      have hready : CrashReady w'.st := ⟨step_memInv hs.mem ⟨hen, hst⟩, hd.sound, hd.isPage,
        hd.current.disk.size_le, step_durableInv hs.mem hs.disk hs.durable ⟨hen, hst⟩⟩
      have hno : w'.st.NoSlot := by
        rw [hst]
        exact .of_synced (pending_snoc_sync _)
      refine .of_page hs (le_of_eq (superblockPage_length (s.sb.resealed isSealed))) ?_ ?_ ?_ ?_
        hready hno _ _
      · rw [hst]
        exact ⟨_, _, rfl⟩
      · rw [hst]
        rfl
      · rw [hst]
        rfl
      · rw [hst]
        simp [Event.apply, Effect.apply]
    · have hlen : ((superblockPage (s.sb.resealed isSealed)).take k).length ≤
          SCO_SUPERBLOCK_SIZE := by
        rw [length_take, superblockPage_length]
        omega
      have hfile : w'.st.fd.file = s.fd.file.pwrite s.pageOffset
          ((superblockPage (s.sb.resealed isSealed)).take k) := by
        rw [hst]
        simp [Event.apply, Image.failedPage, Image.failed, Effect.apply]
      have hin := page_inside (pageOffset_isPage s)
      have hdata := hs.mem.layout.data_ge
      have hle := hs.disk.sound.data_le
      have hready : CrashReady w'.st := by
        refine ⟨step_memInv hs.mem ⟨hen, hst⟩, ?_, ?_, ?_,
          step_durableInv hs.mem hs.disk hs.durable ⟨hen, hst⟩⟩
        · rw [hst]
          exact hs.disk.sound
        · rw [hst]
          exact hs.disk.isPage
        · rw [hfile]
          exact put_size_le hs.disk.current.disk.size_le (by omega)
      have hno : w'.st.NoSlot := by
        rw [hst]
        exact failedPage_noSlot hs.mem hs.noSlot
      refine .of_page hs hlen ?_ ?_ ?_ hfile hready hno _ _
      · rw [hst]
        exact ⟨_, _, rfl⟩
      · rw [hst]
        rfl
      · rw [hst]
        rfl

structure Recovered (s u : Image) (g : File) (pos : Nat) (bs : List UInt8)
    (table' : Nat → TableEntry) : Prop where
  disk : OnDisk g { u with table := table' }
  mapped : Mapped g.size u.sb table'
  entry : ∀ c < s.sb.clusterCount, table' c = u.table c ∨
    ∀ b < s.sb.virtualSize, b / s.sb.clusterSize = c →
      ∃ v : Image, entryByte g s.sb.clusterSize (table' c) b = v.view b ∧ Written s v pos bs b

lemma CallCrash.ready (h : CallCrash s u pos bs) : CrashReady u := by
  rcases h.state with ⟨hu, -⟩ | ⟨w1, c, e, k, hw1, he, hk, rfl, -⟩
  · exact hu
  · exact inFlight_ready hw1.ready he hk

variable {g : File}

lemma CallCrash.recovers (h : CallCrash s u pos bs) (hg : Survives u.fd.disk u.fd.log g)
    (ht : TornFails u g) : ∃ table', Recovered s u g pos bs table' := by
  have hready := h.ready
  rcases h.state with ⟨hu, hno⟩ | ⟨w1, c, e, k, hw1, he, hk, rfl, hsb, hnew⟩
  · exact ⟨u.table, survivor_same hu hg ht hno, survivor_mapped hu hg, fun _ _ => .inl rfl⟩
  by_cases hslot : get g.byte (w1.slotOffset c e) SCO_TABLE_SLOT_SIZE = slotBytes w1.sb c e
  · refine ⟨setEntry w1.table c e, ?_, ?_, fun d hd => ?_⟩
    · exact (inFlight_new hw1.ready he hw1.noSlot hk hg ht hslot).congr rfl rfl rfl rfl
    · exact inFlight_mapped (s := w1) hw1.ready he hg
    by_cases hdc : d = c
    · subst hdc
      rw [entry_same]
      refine .inr fun b hb hbc => ⟨_, ?_, hnew b hb hbc⟩
      rw [← hsb] at hb hbc ⊢
      exact inFlight_view hw1.ready he hg hb hbc
    · rw [entry_other hdc]
      exact .inl rfl
  · refine ⟨w1.table, ?_, survivor_mapped hready hg, fun _ _ => .inl rfl⟩
    exact survivor_onDisk hready hg ht fun d hd =>
      inFlight_slot hw1.ready he hw1.noSlot hk hg ht hd fun _ => hslot

variable {readonly : Bool} {f : File}

lemma OnDisk.opened {v : Image} (h : OnDisk f v) (hs : v.sb.Sound) (hm : Mapped f.size v.sb v.table)
    (ho : Opened f readonly t) : DiskInv t ∧ (∃ g r, t.sb = v.sb.retag g r) ∧
    (∀ c < v.sb.clusterCount, t.table c = v.table c) ∧ t.base = v.base := by
  obtain ⟨⟨g, r, hsb, hsound⟩, htable, hbase, hpage, hvalid, -⟩ := h.disk.opened hs hm ho
  have hfile : t.fd.file = f := by
    rw [ho.fd_eq]
    rfl
  refine ⟨⟨?_, hpage, ?_, ?_⟩, ⟨g, r, hsb⟩, htable, hbase⟩
  · rw [hsb]
    exact hsound
  · rw [hfile, hsb, hbase]
    have hdisk := h.disk.retag g r
    exact { hdisk with slots := fun c hc => by rw [htable c hc]; exact hdisk.slots c hc }
  · rw [hfile]
    exact hvalid

lemma CrashInv.of_opened (ho : Opened f readonly t) (hd : DiskInv t) : CrashInv t := by
  have hi := opened_memInv ho
  have hlog : t.fd.log = [] := by rw [ho.fd_eq]
  refine ⟨hi, hd, .of_synced hi hd.current (by rw [hlog]; rfl), .of_synced (by rw [hlog]; rfl), ?_⟩
  intro r hr
  rw [ho.failedCommits_eq] at hr
  cases hr

lemma CrashInv.reopen (h : CrashInv s)
    (hpend : ∀ e ∈ pending s.fd.log, ∀ i < SCO_METADATA_AREA_OFFSET, ¬ e.Touches i)
    (hr : s.reopen readonly = .ok s') : CrashInv s' := by
  obtain ⟨hmem, hdisk, hrel, hfc⟩ := reopen_spec h.mem h.disk hr
  obtain ⟨t, -, hs'⟩ := except_bind_ok.mp hr
  have hfd : s'.fd = s.fd := by rw [← Except.ok.inj hs']
  have hguest : s'.guestWrites = s.guestWrites := by rw [← Except.ok.inj hs']
  obtain ⟨g, r, hsb, -⟩ := hrel.sb
  have hlow : ∀ i < SCO_METADATA_AREA_OFFSET, s.fd.file.byte i = s.fd.durable.byte i := by
    intro i hi
    have hfile : s.fd.file = replay s.fd.durable (pending s.fd.log) :=
      (replay_durable s.fd.disk s.fd.log).symm
    rw [hfile]
    exact replay_untouched (fun e he => hpend e he i hi) _
  refine ⟨hmem, hdisk, ⟨⟨?_, ?_⟩, ?_, ?_, ?_⟩, ?_, ?_⟩
  · rw [hfd, hsb, hrel.base]
    have hok := h.durable.durable.disk.retag g r
    exact { hok with slots := fun c hc => by rw [hrel.table c hc]; exact hok.slots c hc }
  · have hin := page_inside hdisk.isPage
    have hcur := hdisk.current.page
    rw [hfd] at hcur ⊢
    rwa [superblockPageValid_congr]
    rw [page_get, page_get]
    exact get_congr fun i _ hlt => (hlow i (by omega)).symm
  · rw [hfd, hsb]
    intro c hc
    rw [hrel.table c hc]
    exact h.durable.stored c hc
  · rw [hfd, hsb]
    intro e he i hi ht
    rcases h.durable.pendingMeta e he i hi ht with ⟨c, hc, bs, hbs, rfl⟩ | ⟨bs, hbs, rfl, -⟩
    · refine .inl ⟨c, by rw [hsb]; exact hc, bs, hbs, ?_⟩
      rw [hsb, hrel.table c hc]
      rfl
    · have hin := page_inside (pageOffset_isPage s)
      have := ht.2
      exact absurd ht (hpend _ he i (by omega))
  · rw [hfd]
    intro k e hk hlog c hc hp
    rw [hsb] at hc
    rw [hrel.table c hc] at hp ⊢
    rw [hsb, hguest]
    exact h.durable.pendingData k e hk hlog c hc hp
  · intro c hc
    rw [hfd]
    rw [hsb] at hc ⊢
    exact h.noSlot c hc
  · intro x hx
    rw [hfc] at hx
    rw [hsb]
    cases x with
    | slot | superblock => exact h.tidy _ hx

/-- Every state of an image that was created, opened, called, reopened and recovered from crashes,
so long as no commit failed harmfully. -/
inductive CrashLife : Image → Prop where
  | created {opts : CreateOptions} {uuid : List UInt8} {f : File} {readonly : Bool} {s : Image} :
      uuid.length = 16 → createSco opts uuid = .ok f → scoOpen f readonly = .ok s → CrashLife s
  | call {s s' : Image} : CrashLife s → CallStep s s' → s'.Tidy → CrashLife s'
  | reopen {s s' : Image} {readonly : Bool} : CrashLife s →
      (∀ e ∈ pending s.fd.log, ∀ i < SCO_METADATA_AREA_OFFSET, ¬ e.Touches i) →
      s.reopen readonly = .ok s' → CrashLife s'
  | recover {s s' : Image} {call : Call} {plan : List Fault} {r : Except Errno Unit}
      {w : Sys Image} {g : File} {readonly : Bool} : CrashLife s →
      exec call.run ⟨s, plan⟩ = (r, w) → Survives w.st.fd.disk w.st.fd.log g →
      TornFails w.st g → scoOpen g readonly = .ok s' → CrashLife s'

lemma CrashLife.inv (h : CrashLife s) : CrashInv s := by
  induction h with
  | created huuid hcreate hopen =>
    exact .of_opened (opened_of_scoOpen hopen) (created_diskInv huuid hcreate hopen)
  | call _ hstep htidy ih =>
    obtain ⟨call, plan, rfl⟩ := hstep
    rcases hx : exec call.run ⟨_, plan⟩ with ⟨r, w'⟩
    rw [hx] at htidy
    obtain ⟨evs, ht, -, -⟩ := call_run ih.mem hx
    exact trace_crashInv ht ih htidy
  | reopen _ hpend hr ih => exact ih.reopen hpend hr
  | recover _ hx hg ht hopen ih =>
    have hcall := call_crash ih hx
    obtain ⟨table', hrec⟩ := hcall.recovers hg ht
    have ho := opened_of_scoOpen hopen
    exact .of_opened ho (hrec.disk.opened hcall.ready.sound hrec.mapped ho).1

variable {b : Nat}

lemma Kept.congr (h : Kept s t b) (hv : u.view b = t.view b) : Kept s u b := by rwa [Kept, hv]

lemma Written.congr (h : Written s t pos bs b) (hv : u.view b = t.view b) : Written s u pos bs b := by
  rw [Written] at h ⊢
  split
  · rename_i hin
    rw [if_pos hin] at h
    exact hv.trans h
  · rename_i hout
    rw [if_neg hout] at h
    exact h.congr hv

lemma Recovered.shows {table' : Nat → TableEntry} (hcall : CallCrash s u pos bs)
    (hg : Survives u.fd.disk u.fd.log g) (hrec : Recovered s u g pos bs table')
    (hfile : t.fd.file = g) (hsb : ∃ g r, t.sb = s.sb.retag g r)
    (htable : ∀ c < s.sb.clusterCount, t.table c = table' c) : ∀ c < s.sb.clusterCount,
      (t.table c ≠ u.table c → ∀ b < s.sb.virtualSize, b / s.sb.clusterSize = c →
        Written s t pos bs b) ∧
      ((∀ b < s.sb.virtualSize, b / s.sb.clusterSize = c → u.Unsynced b ∨ Kept s t b) ∨
        ∀ b < s.sb.virtualSize, b / s.sb.clusterSize = c →
          u.Unsynced b ∨ Written s t pos bs b) := by
  intro c hc
  obtain ⟨g', r, hsb⟩ := hsb
  obtain ⟨gu, ru, hsbu⟩ := hcall.sb
  have hview : ∀ b < s.sb.virtualSize, b / s.sb.clusterSize = c →
      t.view b = entryByte g s.sb.clusterSize (table' c) b := by
    intro b hb hbc
    have hcs : t.sb.clusterSize = s.sb.clusterSize := by rw [hsb]; rfl
    rw [Image.view, hfile, hcs, hbc, htable c hc]
  rcases hrec.entry c hc with hsame | hnew
  · refine ⟨fun hne => absurd ((htable c hc).trans hsame) hne, ?_⟩
    have hcsu : u.sb.clusterSize = s.sb.clusterSize := by rw [hsbu]; rfl
    have hdata : ∀ b < s.sb.virtualSize, b / s.sb.clusterSize = c →
        t.view b = u.view b ∨ u.Unsynced b := by
      intro b hb hbc
      have hbu : b < u.sb.virtualSize := by
        rw [hsbu]
        exact hb
      have hsurv := survivor_data hcall.ready hg hbu
      rw [hcsu, hbc, ← hsame] at hsurv
      rwa [hview b hb hbc]
    refine (hcall.whole c).imp (fun hold b hb hbc => ?_) fun hold b hb hbc => ?_
    · rcases hdata b hb hbc with hv | hun
      · exact (hold b hb hbc).imp_right fun hk => hk.congr hv
      · exact .inl hun
    · rcases hdata b hb hbc with hv | hun
      · exact (hold b hb hbc).imp_right fun hw => hw.congr hv
      · exact .inl hun
  · have hall : ∀ b < s.sb.virtualSize, b / s.sb.clusterSize = c → Written s t pos bs b := by
      intro b hb hbc
      obtain ⟨v, hv, hw⟩ := hnew b hb hbc
      exact hw.congr ((hview b hb hbc).trans hv)
    exact ⟨fun _ => hall, .inr fun b hb hbc => .inr (hall b hb hbc)⟩

/-- A crash at any point inside a call is a plan under which every host call from that
point on fails without effect. -/
theorem crash_consistency {s : Image} (h : CrashLife s) {call : Call} {plan : List Fault}
    {r : Except Errno Unit} {w : Sys Image} {g : File}
    (hx : exec call.run ⟨s, plan⟩ = (r, w)) (hg : Survives w.st.fd.disk w.st.fd.log g)
    (htorn : TornFails w.st g) :
    (∃ t, scoOpen g true = .ok t ∧ (t.sb.isSealed = false → ∃ t', scoOpen g false = .ok t')) ∧
    ∀ readonly t, scoOpen g readonly = .ok t →
      t.sb.virtualSize = s.sb.virtualSize ∧ t.sb.clusterSize = s.sb.clusterSize ∧
      t.sb.clusterCount = s.sb.clusterCount ∧ t.base = s.base ∧
      (∀ c < s.sb.clusterCount,
        (t.table c ≠ w.st.table c → ∀ b < s.sb.virtualSize, b / s.sb.clusterSize = c →
          Written s t call.pos call.bytes b) ∧
        ((∀ b < s.sb.virtualSize, b / s.sb.clusterSize = c → w.st.Unsynced b ∨ Kept s t b) ∨
          ∀ b < s.sb.virtualSize, b / s.sb.clusterSize = c →
            w.st.Unsynced b ∨ Written s t call.pos call.bytes b)) ∧
      (∀ b < s.sb.virtualSize, ¬ w.st.Unsynced b →
        ¬ (call.pos ≤ b ∧ b < call.pos + call.bytes.length) → Kept s t b) ∧
      ∀ c < t.sb.clusterCount, ∀ d < t.sb.clusterCount, (t.table c).state = .present →
        (t.table d).state = .present →
        (t.table c).physicalCluster = (t.table d).physicalCluster → c = d := by
  have hinv := h.inv
  have hcall := call_crash hinv hx
  obtain ⟨table', hrec⟩ := hcall.recovers hg htorn
  have hsound := hcall.ready.sound
  refine ⟨?_, fun readonly t ht => ?_⟩
  · obtain ⟨t, ht⟩ := hrec.disk.disk.scoOpen_ok hsound hrec.mapped
      (fun (hro : true = false) => by cases hro)
    exact ⟨t, ht, hrec.disk.disk.scoOpen_writable hsound ht⟩
  have ho := opened_of_scoOpen ht
  obtain ⟨-, ⟨gt, rt, hsbt⟩, htable, hbase⟩ := hrec.disk.opened hsound hrec.mapped ho
  obtain ⟨gu, ru, hsbu⟩ := hcall.sb
  have hsb : t.sb = s.sb.retag gt rt := by
    rw [hsbt]
    rw [hsbu]
    rfl
  have hfile : t.fd.file = g := by
    rw [ho.fd_eq]
    rfl
  have hcount : w.st.sb.clusterCount = s.sb.clusterCount := by rw [hsbu]; rfl
  have hshows := hrec.shows hcall hg hfile ⟨gt, rt, hsb⟩
    fun c hc => htable c (by rw [← hcount] at hc; exact hc)
  refine ⟨by rw [hsb]; rfl, by rw [hsb]; rfl, by rw [hsb]; rfl, hbase.trans hcall.base, hshows,
    fun b hb hun hout => ?_, (opened_memInv ho).distinct⟩
  have hc := hinv.mem.layout.div_lt_count hb
  rcases (hshows _ hc).2 with hold | hnew
  · exact (hold b hb rfl).resolve_left hun
  · have hw := (hnew b hb rfl).resolve_left hun
    rwa [Written, if_neg hout] at hw

lemma CrashLife.clean (h : CrashLife s) (call : Call) (hx : exec call.run ⟨s, plan⟩ = (r, w))
    (hran : Ran Event.Clean ⟨s, plan⟩ w) : CrashLife w.st := by
  refine .call h ⟨call, plan, ?_⟩ (CrashInv.clean (w := ⟨s, plan⟩) h.inv hran).tidy
  rw [hx]

/-- A cluster is written and overwritten, and nothing is flushed before the power fails in a
discard. -/
theorem crash_consistency_small : ∃ s₀ s₁ s₂ w g t, scoOpen smallFile false = .ok s₀ ∧
    exec (scoWrite [1, 1] 0) ⟨s₀, []⟩ = (.ok (), ⟨s₁, []⟩) ∧
    exec (scoWrite [2] 0) ⟨s₁, []⟩ = (.ok (), ⟨s₂, []⟩) ∧ pending s₂.fd.log ≠ [] ∧
    exec (Call.discard 0 2).run ⟨s₂, [.fail .eio 0]⟩ = (.error .eio, w) ∧
    Survives w.st.fd.disk w.st.fd.log g ∧ TornFails w.st g ∧ scoOpen g true = .ok t := by
  obtain ⟨s₀, hopen⟩ := small_opens false
  have hlife₀ : CrashLife s₀ := .created (by decide) small_created hopen
  obtain ⟨s₁, hw, hsb, hro, htable⟩ := small_write hopen
  have hlife₁ : CrashLife s₁ :=
    hlife₀.clean (.write [1, 1] 0) hw (scoWrite_run (w := ⟨s₀, []⟩) hlife₀.inv.mem hw).ends.ok
  have hpres : (s₁.table 0).state = .present := by rw [htable]
  have hw₂ := small_overwrite hlife₁.inv.mem hsb hro hpres (i := 0) (x := 2) (by decide) (by decide)
  obtain ⟨s₂, hs₂⟩ : ∃ s₂, s₂ = (Event.overwrite 0 0 [2] 1).apply s₁ := ⟨_, rfl⟩
  rw [← hs₂] at hw₂
  have hlife₂ : CrashLife s₂ :=
    hlife₁.clean (.write [2] 0) hw₂ (scoWrite_run (w := ⟨s₁, []⟩) hlife₁.inv.mem hw₂).ends.ok
  have hpend : pending s₂.fd.log ≠ [] := by
    rw [hs₂]
    change pending (s₁.fd.log ++ [_]) ≠ []
    rw [pending_snoc rfl]
    simp
  have hdiscard := scoDiscard_one (c := 0) [.fail .eio 0] hlife₂.inv.mem
    (by rw [hs₂]; change 0 < s₁.sb.clusterCount; rw [hsb]; decide) (by rw [hs₂]; exact hro)
    (by rw [hs₂]; change s₁.sb.isSealed = false; rw [hsb]; decide)
    (by rw [hs₂]; change (s₁.table 0).generation ≠ UINT32_MAX; rw [htable]; decide)
  have hsb₂ : s₂.sb = smallSuperblock := by rw [hs₂]; exact hsb
  rw [zero_mul, hsb₂, small_stored, commitEntry_unwritten] at hdiscard
  have hsurv := Survives.of_sublist (f := s₂.fd.disk) (nil_sublist (pending
    (s₂.failedSlot 0 (s₂.nextEntry 0 .discarded 0) 0).fd.log))
  have htorn : TornFails (s₂.failedSlot 0 (s₂.nextEntry 0 .discarded 0) 0) (replay (durable
      s₂.fd.disk (s₂.failedSlot 0 (s₂.nextEntry 0 .discarded 0) 0).fd.log) []) :=
    ⟨fun _ _ _ => .inl rfl, fun _ _ => .inl rfl⟩
  have hx : exec (Call.discard 0 2).run ⟨s₂, [.fail .eio 0]⟩ = (.error .eio, _) := hdiscard
  obtain ⟨⟨t, ht, -⟩, -⟩ := crash_consistency hlife₂ hx hsurv htorn
  exact ⟨s₀, s₁, s₂, _, _, t, hopen, hw, hw₂, hpend, hdiscard, hsurv, htorn, ht⟩

lemma failedSlot_unwritten_tidy (h : s.Tidy) (c : Nat) (e : TableEntry) : (s.failedSlot c e 0).Tidy := by
  intro r hr
  rcases mem_append.mp hr with hr | hr
  · exact h r hr
  · rw [mem_singleton.mp hr]
    exact .inl (by simp [Effect.apply])

lemma unsynced_mix {s₄ : Image} {x : UInt8} (hpend : pending s.fd.log = [])
    (hs₄ : s₄ = (Event.overwrite 0 1 [x] 1).apply ((Event.overwrite 0 0 [x] 1).apply s))
    (hlife : CrashLife s₄) (hc : 0 < s.sb.clusterCount) (hpres : (s.table 0).state = .present)
    (hgen : (s.table 0).generation ≠ UINT32_MAX) (hro : s.readonly = false)
    (hun : s.sb.isSealed = false) (hstored : scoClusterStoredLength s.sb 0 = 2) :
    ∃ w g t, exec (scoDiscard 0 2) ⟨s₄, [.fail .eio 0]⟩ = (.error .eio, w) ∧
      Survives w.st.fd.disk w.st.fd.log g ∧ TornFails w.st g ∧ scoOpen g true = .ok t ∧
      t.sb.virtualSize = s.sb.virtualSize ∧ t.view 0 = s.view 0 ∧ t.view 1 = some x := by
  have hinv := hlife.inv
  have hsb : s₄.sb = s.sb := by rw [hs₄]; rfl
  have htable : s₄.table = s.table := by rw [hs₄]; rfl
  have hdiscard := scoDiscard_one (c := 0) [.fail .eio 0] hinv.mem (by rw [hsb]; exact hc)
    (by rw [hs₄]; exact hro) (by rw [hsb]; exact hun) (by rw [htable]; exact hgen)
  rw [zero_mul, hsb, hstored, commitEntry_unwritten] at hdiscard
  obtain ⟨u, hu⟩ : ∃ u, u = s₄.failedSlot 0 (s₄.nextEntry 0 .discarded 0) 0 := ⟨_, rfl⟩
  rw [← hu] at hdiscard
  have hulife : CrashLife u := by
    refine .call hlife ⟨.discard 0 2, [.fail .eio 0], ?_⟩ ?_
    · rw [Call.run, hdiscard]
    · rw [hu]
      exact failedSlot_unwritten_tidy hinv.tidy _ _
  have huinv := hulife.inv
  -- of what is pending only the second byte gets through
  have hlog : pending u.fd.log =
      [.pwrite ((s.table 0).physicalCluster * s.sb.clusterSize + 0) [x],
        .pwrite ((s.table 0).physicalCluster * s.sb.clusterSize + 1) [x],
        .pwrite (s₄.slotOffset 0 (s₄.nextEntry 0 .discarded 0)) []] := by
    rw [hu, hs₄]
    change pending (((s.fd.log ++ [_]) ++ [_]) ++ [_]) = _
    rw [pending_snoc rfl, pending_snoc rfl, pending_snoc rfl, hpend]
    rfl
  have hdur : u.fd.durable = s.fd.file := by
    have hreplay := replay_durable s.fd.disk s.fd.log
    rw [hpend] at hreplay
    rw [hu, hs₄]
    change durable s.fd.disk (((s.fd.log ++ [_]) ++ [_]) ++ [_]) = _
    rw [durable_snoc rfl, durable_snoc rfl, durable_snoc rfl]
    exact hreplay
  have hsurv : Survives u.fd.disk u.fd.log (replay u.fd.durable
      [.pwrite ((s.table 0).physicalCluster * s.sb.clusterSize + 1) [x]]) := by
    refine .of_sublist ?_
    rw [hlog]
    exact .cons _ (.cons_cons _ (.cons _ .slnil))
  rw [hdur] at hsurv
  have husb : u.sb = s.sb := by rw [hu]; exact hsb
  have hutable : u.table = s.table := by rw [hu]; exact htable
  have hge := named_ge huinv.mem (c := 0) (by rw [husb]; exact hc) (by rw [hutable]; exact hpres)
  rw [husb, hutable] at hge
  have htorn : TornFails u (replay s.fd.file
      [.pwrite ((s.table 0).physicalCluster * s.sb.clusterSize + 1) [x]]) := by
    refine .of_data huinv.mem fun i hi => ?_
    rw [husb] at hi
    rw [hdur]
    exact put_outside (.inl (by omega))
  have hdisk := survivor_same huinv.ready hsurv htorn huinv.noSlot
  have hmapped := survivor_mapped huinv.ready hsurv
  obtain ⟨t, ht⟩ := hdisk.disk.scoOpen_ok huinv.disk.sound hmapped
    (fun (hro : true = false) => by cases hro)
  have ho := opened_of_scoOpen ht
  obtain ⟨-, ⟨g, r, hsbt⟩, htablet, -⟩ := hdisk.opened huinv.disk.sound hmapped ho
  have hcs : t.sb.clusterSize = s.sb.clusterSize := by rw [hsbt, husb]; rfl
  have hentry : t.table 0 = s.table 0 := by rw [htablet 0 (by rw [husb]; exact hc), hutable]
  have hlt : 1 < s.sb.clusterSize := by
    have := stored_le s.sb 0
    omega
  have hview : ∀ b < 2, t.view b = some ((replay s.fd.file
      [.pwrite ((s.table 0).physicalCluster * s.sb.clusterSize + 1) [x]]).byte
        ((s.table 0).physicalCluster * s.sb.clusterSize + b)) := by
    intro b hb
    rw [Image.view, hcs, Nat.div_eq_of_lt (by omega), hentry]
    simp only [entryByte, hpres, Nat.mod_eq_of_lt (show b < s.sb.clusterSize by omega), ho.fd_eq]
    rfl
  refine ⟨⟨u, []⟩, _, t, hdiscard, hsurv, htorn, ht, by rw [hsbt, husb]; rfl, ?_, ?_⟩
  · rw [hview 0 (by decide), Image.view, Nat.zero_div]
    simp only [entryByte, hpres, Nat.zero_mod]
    refine congrArg some (put_outside (.inl ?_))
    omega
  · rw [hview 1 (by decide)]
    refine congrArg some ?_
    change put _ _ _ _ = _
    simp [put]

theorem crash_mixes_cluster : ∃ s₀ s₁ s₂ s₃ s₄ w g t,
    scoOpen smallFile false = .ok s₀ ∧
    exec (scoWrite [1, 1] 0) ⟨s₀, []⟩ = (.ok (), ⟨s₁, []⟩) ∧
    exec scoFlush ⟨s₁, []⟩ = (.ok (), ⟨s₂, []⟩) ∧
    exec (scoWrite [2] 0) ⟨s₂, []⟩ = (.ok (), ⟨s₃, []⟩) ∧
    exec (scoWrite [2] 1) ⟨s₃, []⟩ = (.ok (), ⟨s₄, []⟩) ∧
    (exec (scoRead 0 2) ⟨s₄, []⟩).1 = .ok [2, 2] ∧
    exec (scoDiscard 0 2) ⟨s₄, [.fail .eio 0]⟩ = (.error .eio, w) ∧
    Survives w.st.fd.disk w.st.fd.log g ∧ TornFails w.st g ∧ scoOpen g true = .ok t ∧
    (exec (scoRead 0 2) ⟨t, []⟩).1 = .ok [1, 2] := by
  obtain ⟨s₀, hopen⟩ := small_opens false
  obtain ⟨hsb₀, -⟩ := small_fresh hopen
  have hlife₀ : CrashLife s₀ := .created (by decide) small_created hopen
  obtain ⟨s₁, hw, hsb, hro, htable⟩ := small_write hopen
  have hrun₁ := scoWrite_run (w := ⟨s₀, []⟩) hlife₀.inv.mem hw
  have hlife₁ : CrashLife s₁ := hlife₀.clean (.write [1, 1] 0) hw hrun₁.ends.ok
  have hflush := scoFlush_run (fsync_nofail s₁)
  have hlife₂ : CrashLife (s₁.push .sync) :=
    hlife₁.clean .flush (fsync_nofail s₁) (hflush.mono fun _ => Event.Quiet.clean)
  have hpres : (s₁.table 0).state = .present := by rw [htable]
  have hw₃ := small_overwrite hlife₂.inv.mem hsb hro hpres (i := 0) (x := 2) (by decide) (by decide)
  have hrun₃ := scoWrite_run (w := ⟨s₁.push .sync, []⟩) hlife₂.inv.mem hw₃
  have hlife₃ := hlife₂.clean (.write [2] 0) hw₃ hrun₃.ends.ok
  have hw₄ := small_overwrite hlife₃.inv.mem hsb hro hpres (i := 1) (x := 2) (by decide) (by decide)
  have hrun₄ := scoWrite_run hlife₃.inv.mem hw₄
  have hlife₄ := hlife₃.clean (.write [2] 1) hw₄ hrun₄.ends.ok
  have hvs : s₁.sb.virtualSize = 2 := by rw [hsb]; rfl
  obtain ⟨w, g, t, hdiscard, hsurv, htorn, ht, htvs, hzero, hone⟩ :=
    unsynced_mix (s := s₁.push .sync) (pending_push_sync s₁) rfl hlife₄ (by rw [push_sb, hsb]; decide)
      hpres (by rw [push_table, htable]; decide) hro (by rw [push_sb, hsb]; decide)
      (by rw [push_sb, hsb]; exact small_stored)
  refine ⟨s₀, s₁, _, _, _, w, g, t, hopen, hw, fsync_nofail s₁, hw₃, hw₄, ?_, hdiscard, hsurv, htorn,
    ht, ?_⟩
  · have hfirst := (hrun₃.stored rfl).inside 0 (Nat.lt_of_lt_of_eq (by decide) hvs.symm)
      (le_refl _) (by decide)
    have hkept := ((hrun₄.stored rfl).outside 0 (Nat.lt_of_lt_of_eq (by decide) hvs.symm)
      (by decide)).of_some hfirst
    have hsecond := (hrun₄.stored rfl).inside 1 (Nat.lt_of_lt_of_eq (by decide) hvs.symm)
      (le_refl _) (by decide)
    exact read_two hlife₄.inv.mem (le_of_eq hvs.symm) hkept hsecond
  · have hold : (s₁.push .sync).view 0 = some 1 := by
      refine ((hflush.sameView hlife₁.inv.mem).view 0 (by rw [hvs]; decide)).trans ?_
      exact (hrun₁.stored rfl).inside 0 (by rw [hsb₀]; decide) (le_refl _) (by decide)
    exact read_two (opened_memInv (opened_of_scoOpen ht)) (le_of_eq (htvs.trans hvs).symm)
      (hzero.trans hold) hone

end ScorpiHv.Sco

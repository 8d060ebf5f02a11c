import ScorpiHv.Sco.Durable
import ScorpiHv.Sco.Life

/-!
# Crashes

A table slot or a superblock page that got through a crash only in part is taken to
fail its checksum.
-/

namespace ScorpiHv.Sco
open Bytes List

/-- Every slot and page of `g` is as it was at the last sync, or holds a whole later
write, or fails its checksum. -/
structure TornFails (s : Image) (g : File) : Prop where
  slot : ∀ c < s.sb.clusterCount, ∀ i,
    get g.byte (scoTableSlotOffset s.sb c i) SCO_TABLE_SLOT_SIZE =
        get s.fd.durable.byte (scoTableSlotOffset s.sb c i) SCO_TABLE_SLOT_SIZE ∨
      (∃ bs, bs.length = SCO_TABLE_SLOT_SIZE ∧
        Effect.pwrite (scoTableSlotOffset s.sb c i) bs ∈ pending s.fd.log ∧
        get g.byte (scoTableSlotOffset s.sb c i) SCO_TABLE_SLOT_SIZE = bs) ∨
      scoSlotSealed s.sb c i (slotAt g s.sb c i) = false
  page : ∀ off, IsPage off →
    get g.byte off SCO_SUPERBLOCK_SIZE = get s.fd.durable.byte off SCO_SUPERBLOCK_SIZE ∨
      (∃ bs, bs.length = SCO_SUPERBLOCK_SIZE ∧ Effect.pwrite off bs ∈ pending s.fd.log ∧
        get g.byte off SCO_SUPERBLOCK_SIZE = bs) ∨
      scoSuperblockPageValid (shift g.byte off) = false

structure CrashReady (s : Image) : Prop where
  mem : MemInv s
  sound : s.sb.Sound
  isPage : IsPage s.activeSuperblockOffset
  size_le : s.fd.file.size ≤ 2 ^ 55
  durable : DurableInv s

lemma active_page_apart {s : Image} (h : IsPage s.activeSuperblockOffset) :
    s.pageOffset + SCO_SUPERBLOCK_SIZE ≤ s.activeSuperblockOffset ∨
      s.activeSuperblockOffset + SCO_SUPERBLOCK_SIZE ≤ s.pageOffset := by
  simp only [Image.pageOffset, scoInactiveSuperblockOffset]
  rcases h with h | h
  · rw [if_pos h, h]
    exact .inr (by decide)
  · rw [h, if_neg (by decide)]
    exact .inl (by decide)

lemma page_cases {s : Image} (h : IsPage s.activeSuperblockOffset) {off : Nat}
    (hoff : IsPage off) : off = s.pageOffset ∨ off = s.activeSuperblockOffset := by
  simp only [Image.pageOffset, scoInactiveSuperblockOffset]
  rcases h with h | h
  · rw [if_pos h, h]
    exact hoff.symm
  · rw [h, if_neg (by decide)]
    exact hoff

section
variable {s : Image} {g : File} (h : CrashReady s) (hg : Survives s.fd.disk s.fd.log g)
include h hg

lemma survivor_byte {i : Nat} (hi : i < s.sb.dataAreaOffset)
    (hslot : ∀ c < s.sb.clusterCount,
      ¬ (scoTableSlotOffset s.sb c (s.table c).activeSlot.other ≤ i ∧
        i < scoTableSlotOffset s.sb c (s.table c).activeSlot.other + SCO_TABLE_SLOT_SIZE))
    (hpage : ¬ (s.pageOffset ≤ i ∧ i < s.pageOffset + SCO_SUPERBLOCK_SIZE)) :
    g.byte i = s.fd.durable.byte i := by
  rcases hg.byte i with hsame | ⟨e, he, ht, -⟩
  · exact hsame
  rcases h.durable.pendingMeta e he i hi ht with ⟨c, hc, bs, hbs, rfl⟩ | ⟨bs, hbs, rfl, -⟩
  · have := ht.1
    have := ht.2
    exact absurd ⟨by omega, by omega⟩ (hslot c hc)
  · have := ht.1
    have := ht.2
    exact absurd ⟨by omega, by omega⟩ hpage

lemma survivor_active {c : Nat} (hc : c < s.sb.clusterCount) :
    get g.byte (scoTableSlotOffset s.sb c (s.table c).activeSlot) SCO_TABLE_SLOT_SIZE =
      get s.fd.durable.byte (scoTableSlotOffset s.sb c (s.table c).activeSlot)
        SCO_TABLE_SLOT_SIZE := by
  have hend := h.mem.layout.slot_end hc (s.table c).activeSlot
  have hge := h.mem.layout.slot_ge c (s.table c).activeSlot
  have hin := page_inside (pageOffset_isPage s)
  refine get_congr fun i hi hlt => survivor_byte h hg (by omega) (fun d _ hbad => ?_) (by omega)
  have hap : scoTableSlotOffset s.sb c (s.table c).activeSlot + SCO_TABLE_SLOT_SIZE ≤
      scoTableSlotOffset s.sb d (s.table d).activeSlot.other ∨
      scoTableSlotOffset s.sb d (s.table d).activeSlot.other + SCO_TABLE_SLOT_SIZE ≤
      scoTableSlotOffset s.sb c (s.table c).activeSlot := by
    refine slots_apart ?_
    by_cases hcd : c = d
    · subst hcd
      exact .inr (Slot.other_ne _).symm
    · exact .inl hcd
  omega

lemma survivor_page : get g.byte s.activeSuperblockOffset SCO_SUPERBLOCK_SIZE =
    get s.fd.durable.byte s.activeSuperblockOffset SCO_SUPERBLOCK_SIZE := by
  have hin := page_inside h.isPage
  have hdata := h.mem.layout.data_ge
  have hap := active_page_apart h.isPage
  refine get_congr fun i hi hlt => survivor_byte h hg (by omega) (fun d _ hbad => ?_) (by omega)
  have := h.mem.layout.slot_ge d (s.table d).activeSlot.other
  omega

omit hg in
lemma survivor_other_page (ht : TornFails s g) : PageOk s.sb (shift g.byte s.pageOffset) := by
  have hin := page_inside (pageOffset_isPage s)
  have hdata := h.mem.layout.data_ge
  have hsize : SCO_SUPERBLOCK_SIZE = 4096 := rfl
  rcases ht.page _ (pageOffset_isPage s) with hsame | ⟨bs, hbs, hpend, hget⟩ | hbad
  · refine (h.durable.durable.disk.pages _ (pageOffset_isPage s)).congr ?_
    rw [page_get, page_get]
    exact hsame
  · have htouch : (Effect.pwrite s.pageOffset bs).Touches s.pageOffset := ⟨le_refl _, by omega⟩
    rcases h.durable.pendingMeta _ hpend _ (by omega) htouch with
      ⟨c, hc, bs', hbs', heq⟩ | ⟨bs', hbs', heq, hok⟩
    · have hoff := (Effect.pwrite.inj heq).1
      have := h.mem.layout.slot_ge c (s.table c).activeSlot.other
      omega
    · obtain rfl := (Effect.pwrite.inj heq).2
      refine (hok hbs).congr ?_
      have hput := get_put_same blank 0 bs
      rw [hbs] at hput
      rw [page_get, hget, hput]
  · exact .inl hbad

lemma survivor_onDisk (ht : TornFails s g) {table' : Nat → TableEntry}
    (hslots : ∀ c < s.sb.clusterCount, SlotOk g s.sb c (table' c)) : OnDisk g { s with table := table' } := by
  have hl := h.mem.layout
  have htend := hl.table_end
  have hdata := hl.data_ge
  have hin := page_inside (pageOffset_isPage s)
  have hvalid : scoSuperblockPageValid (shift g.byte s.activeSuperblockOffset) = true := by
    rw [superblockPageValid_congr ((page_get _ _).trans ((survivor_page h hg).trans (page_get _ _).symm))]
    exact h.durable.durable.page
  refine ⟨h.durable.durable.disk.rewrite h.sound hg.size_ge
    (le_trans hg.size_le h.size_le) ?_ ?_ ?_
    ⟨_, h.isPage, hvalid⟩ hslots, hvalid⟩
  · intro i hi
    refine survivor_byte h hg (by omega) (fun c _ hbad => ?_) (by omega)
    have := hl.slot_ge c (s.table c).activeSlot.other
    omega
  · intro i hge hlt
    refine survivor_byte h hg (by omega) (fun c _ hbad => ?_) (by omega)
    simp only [scoTableSlotOffset] at hbad
    omega
  · intro off hoff
    rcases page_cases h.isPage hoff with rfl | rfl
    · exact survivor_other_page h ht
    refine (h.durable.durable.disk.pages _ h.isPage).congr ?_
    rw [page_get, page_get]
    exact survivor_page h hg

lemma survivor_data {b : Nat} (hb : b < s.sb.virtualSize) :
    entryByte g s.sb.clusterSize (s.table (b / s.sb.clusterSize)) b = s.view b ∨ s.Unsynced b := by
  have hc := h.mem.layout.div_lt_count hb
  have hx := Nat.mod_lt b h.mem.layout.cluster_pos
  cases hst : (s.table (b / s.sb.clusterSize)).state with
  | present =>
    by_cases htouch : ∃ e ∈ pending s.fd.log, e.Touches
        ((s.table (b / s.sb.clusterSize)).physicalCluster * s.sb.clusterSize + b % s.sb.clusterSize)
    · obtain ⟨e, he, ht⟩ := htouch
      obtain ⟨j, hj⟩ := List.getElem?_of_mem he
      have hlog : s.fd.log[(synced s.fd.log).length + j]? = some e := by
        rw [← synced_append_pending s.fd.log, List.getElem?_append_right (by
          rw [synced_append_pending]; omega), synced_append_pending, Nat.add_sub_cancel_left]
        exact hj
      obtain ⟨r, hr, hk, hin⟩ := h.durable.pendingData _ e (Nat.le_add_right _ _) hlog _ hc hst
        _ hx ht
      exact .inr ⟨r, hr, hin, by rw [hk]; exact Nat.le_add_right _ _⟩
    · refine .inl ?_
      simp only [Image.view, entryByte, hst]
      rw [hg.untouched fun e he ht => htouch ⟨e, he, ht⟩]
      rfl
  | absent | zero | discarded => simp [Image.view, entryByte, hst]

lemma survivor_slot {c : Nat} (hc : c < s.sb.clusterCount)
    (hother : get g.byte (scoTableSlotOffset s.sb c (s.table c).activeSlot.other)
        SCO_TABLE_SLOT_SIZE = get s.fd.durable.byte
          (scoTableSlotOffset s.sb c (s.table c).activeSlot.other) SCO_TABLE_SLOT_SIZE ∨
      scoSlotSealed s.sb c (s.table c).activeSlot.other
        (slotAt g s.sb c (s.table c).activeSlot.other) = false) :
    SlotOk g s.sb c (s.table c) := by
  have hold := h.durable.durable.disk.slots c hc
  refine hold.restale (survivor_active h hg hc) fun n x hx => ?_
  rcases hother with hsame | hbad
  · rw [slotValid_congr ((slotAt_get _ _ _ _).trans (hsame.trans (slotAt_get _ _ _ _).symm))] at hx
    exact hold.stale n x hx
  · exact absurd (hbad.symm.trans (slotValid_some hx).1) Bool.false_ne_true

lemma survivor_mapped : Mapped g.size s.sb s.table where
  ge := h.mem.mapped.ge
  stored := fun c hc hp => le_trans (h.durable.stored c hc hp) hg.size_ge
  distinct := h.mem.distinct

lemma survivor_same (ht : TornFails s g) (hno : s.NoSlot) : OnDisk g s := by
  refine (survivor_onDisk h hg ht fun c hc => survivor_slot h hg hc ?_).congr rfl rfl rfl rfl
  rcases ht.slot c hc (s.table c).activeSlot.other with hsame | ⟨bs, hbs, hpend, -⟩ | hbad
  · exact .inl hsame
  · exact absurd hpend (hno c hc _ bs hbs)
  · exact .inr hbad

end

section
variable {s : Image} {c k : Nat} {e : TableEntry} {g : File} (h : CrashReady s)
  (he : s.NextEntry c e)
include h he

lemma inFlight_ready (hk : k ≤ SCO_TABLE_SLOT_SIZE) : CrashReady (s.failedSlot c e k) := by
  refine ⟨step_memInv h.mem (show Step s (.failSlot c e k) _ from ⟨⟨he, hk⟩, rfl⟩), h.sound,
    h.isPage, ?_, h.durable.failSlot h.mem he⟩
  have hend := h.mem.layout.slot_end he.lt e.activeSlot
  have hdata := h.sound.data_le
  simp only [Image.failedSlot, Image.failed, push_fd, Handle.push_file, Effect.apply]
  refine put_size_le h.size_le ?_
  simp only [length_take, slotBytes_length, Image.slotOffset]
  omega

omit h he in
lemma inFlight_pending {x : Effect} (hx : x ∈ pending (s.failedSlot c e k).fd.log) :
    x ∈ pending s.fd.log ∨ x = .pwrite (s.slotOffset c e) ((slotBytes s.sb c e).take k) := by
  change x ∈ pending (s.fd.log ++ [_]) at hx
  rw [pending_snoc rfl] at hx
  exact (mem_append.mp hx).imp_right mem_singleton.mp

variable (hno : s.NoSlot) (hk : k ≤ SCO_TABLE_SLOT_SIZE)
  (hg : Survives (s.failedSlot c e k).fd.disk (s.failedSlot c e k).fd.log g)
  (ht : TornFails (s.failedSlot c e k) g)
include hno hk hg ht

lemma inFlight_slot {d : Nat} (hd : d < s.sb.clusterCount)
    (hne : d = c → get g.byte (s.slotOffset c e) SCO_TABLE_SLOT_SIZE ≠ slotBytes s.sb c e) :
    SlotOk g s.sb d (s.table d) := by
  refine survivor_slot (inFlight_ready h he hk) hg hd ?_
  rcases ht.slot d hd (s.table d).activeSlot.other with hsame | ⟨bs, hbs, hpend, hget⟩ | hbad
  · exact .inl hsame
  · rcases inFlight_pending hpend with hold | hnew
    · exact absurd hold (hno d hd _ bs hbs)
    obtain ⟨hoff, rfl⟩ := Effect.pwrite.inj hnew
    have hall : (slotBytes s.sb c e).take k = slotBytes s.sb c e := by
      refine take_of_length_le ?_
      rw [length_take, slotBytes_length] at hbs
      rw [slotBytes_length]
      omega
    have hdc : d = c := by
      by_contra hdc
      have hap : scoTableSlotOffset s.sb d (s.table d).activeSlot.other + SCO_TABLE_SLOT_SIZE ≤
          scoTableSlotOffset s.sb c e.activeSlot ∨ scoTableSlotOffset s.sb c e.activeSlot +
          SCO_TABLE_SLOT_SIZE ≤ scoTableSlotOffset s.sb d (s.table d).activeSlot.other :=
        slots_apart (.inl hdc)
      have hoff' : scoTableSlotOffset s.sb d (s.table d).activeSlot.other =
        scoTableSlotOffset s.sb c e.activeSlot := hoff
      simp only [SCO_TABLE_SLOT_SIZE] at hap
      omega
    refine absurd ?_ (hne hdc)
    rw [← hoff, ← hall]
    exact hget
  · exact .inr hbad

lemma inFlight_new (hnew : get g.byte (s.slotOffset c e) SCO_TABLE_SLOT_SIZE =
    slotBytes s.sb c e) : OnDisk g { s with table := setEntry s.table c e } := by
  have hu := inFlight_ready h he hk
  have hdisk : (∀ d < s.sb.clusterCount, SlotOk g s.sb d (setEntry s.table c e d)) →
      OnDisk g { s with table := setEntry s.table c e } :=
    fun hslots => (survivor_onDisk hu hg ht hslots).congr rfl rfl rfl rfl
  refine hdisk fun d hd => ?_
  by_cases hdc : d = c
  · subst hdc
    rw [entry_same]
    exact (hu.durable.durable.disk.slots d hd).commit (NextEntry.entryOk h.mem he) he.slot
      (by change (s.table d).generation < _; rw [he.generation]; omega)
      (survivor_active hu hg hd) hnew
  · rw [entry_other hdc]
    exact inFlight_slot h he hno hk hg ht hd fun heq => absurd heq hdc

omit hno hk ht in
lemma inFlight_mapped : Mapped g.size s.sb (setEntry s.table c e) := by
  have hi := step_memInv h.mem (show Step s (.commit c e) _ from ⟨he, rfl⟩)
  have hsame : (s.failedSlot c e k).fd.durable = s.fd.durable :=
    Handle.durable_push (e := .pwrite _ _) rfl s.fd
  have hdur : s.fd.durable.size ≤ g.size := by
    rw [← hsame]
    exact hg.size_ge
  refine ⟨hi.mapped.ge, fun d hd hp => ?_, hi.mapped.distinct⟩
  by_cases hdc : d = c
  · subst hdc
    rw [entry_same] at hp ⊢
    have hfile : s.fd.durable = s.fd.file := by
      have := replay_durable s.fd.disk s.fd.log
      rw [he.synced hp] at this
      exact this
    rw [hfile] at hdur
    exact le_trans (he.stored hp) hdur
  · rw [entry_other hdc] at hp ⊢
    exact le_trans (h.durable.stored d hd hp) hdur

omit hno hk ht in
lemma inFlight_view {b : Nat} (hb : b < s.sb.virtualSize) (hbc : b / s.sb.clusterSize = c) :
    entryByte g s.sb.clusterSize e b = ((Event.commit c e).apply s).view b := by
  rw [view_commit h.mem he hb, if_pos hbc]
  cases hst : e.state with
  | present =>
    simp only [entryByte, hst]
    have hge := h.mem.data_le (he.spare hst).ge
    have hend := h.mem.layout.slot_end he.lt e.activeSlot
    have hout : ¬ (Effect.pwrite (s.slotOffset c e) ((slotBytes s.sb c e).take k)).Touches
        (e.physicalCluster * s.sb.clusterSize + b % s.sb.clusterSize) := by
      rintro ⟨hlo, hhi⟩
      rw [length_take, slotBytes_length, Image.slotOffset] at hhi
      omega
    rw [hg.untouched fun x hpend => ?_]
    · change some (((s.fd.push _).file).byte _) = _
      rw [Handle.push_file, Effect.apply_untouched hout]
    rcases inFlight_pending hpend with hold | rfl
    · rw [he.synced hst] at hold
      cases hold
    · exact hout
  | absent | zero | discarded => simp [entryByte, hst]

end

lemma TornFails.of_data {s : Image} {g : File} (hi : MemInv s)
    (h : ∀ i < s.sb.dataAreaOffset, g.byte i = s.fd.durable.byte i) : TornFails s g := by
  have hdata := hi.layout.data_ge
  refine ⟨fun c hc i => .inl (get_congr fun j _ hlt => h j ?_),
    fun off hoff => .inl (get_congr fun j _ hlt => h j ?_)⟩
  · have := hi.layout.slot_end hc i
    omega
  · have := page_inside hoff
    omega

end ScorpiHv.Sco

import ScorpiHv.Sco.Safety

/-!
# The file keeps in step with memory

`DiskInv` ties an open image to its file: loading the file again would give the
table in memory.
-/

namespace ScorpiHv.Sco
open Bytes List

section
variable {f f' : File} {sb : Superblock} {c : Nat} {e old : TableEntry}

lemma SlotOk.restale (h : SlotOk f sb c e)
    (hactive : get f'.byte (scoTableSlotOffset sb c e.activeSlot) SCO_TABLE_SLOT_SIZE =
      get f.byte (scoTableSlotOffset sb c e.activeSlot) SCO_TABLE_SLOT_SIZE)
    (hstale : ∀ n x, scoSlotValid sb n c e.activeSlot.other (slotAt f' sb c e.activeSlot.other) =
      some x → x.generation < e.generation) : SlotOk f' sb c e := by
  refine ⟨?_, hstale⟩
  rcases h.active with ⟨rfl, hb⟩ | ⟨he, hbytes⟩
  · refine .inl ⟨rfl, fun n => ?_⟩
    rw [← hb n]
    exact slotValid_congr (by rw [slotAt_get, slotAt_get]; exact hactive)
  · exact .inr ⟨he, hactive.trans hbytes⟩

lemma SlotOk.commit (h : SlotOk f sb c old) (he : EntryOk sb e)
    (hslot : e.activeSlot = old.activeSlot.other) (hgen : old.generation < e.generation)
    (hactive : get f'.byte (scoTableSlotOffset sb c old.activeSlot) SCO_TABLE_SLOT_SIZE =
      get f.byte (scoTableSlotOffset sb c old.activeSlot) SCO_TABLE_SLOT_SIZE)
    (hbytes : get f'.byte (scoTableSlotOffset sb c e.activeSlot) SCO_TABLE_SLOT_SIZE =
      slotBytes sb c e) : SlotOk f' sb c e := by
  have hother : e.activeSlot.other = old.activeSlot := by rw [hslot, Slot.other_other]
  refine ⟨.inr ⟨he, hbytes⟩, fun n x hx => ?_⟩
  have hsame : scoSlotValid sb n c old.activeSlot (slotAt f' sb c old.activeSlot) =
      scoSlotValid sb n c old.activeSlot (slotAt f sb c old.activeSlot) :=
    slotValid_congr (by rw [slotAt_get, slotAt_get]; exact hactive)
  rw [hother, hsame] at hx
  rcases h.active with ⟨rfl, hb⟩ | ⟨hold, hob⟩
  · rw [show TableEntry.unmapped.activeSlot = .b from rfl, hb] at hx
    cases hx
  have hm : get (slotAt f sb c old.activeSlot) 0 SCO_TABLE_SLOT_SIZE = get (scoBuildSlot sb c
      old.activeSlot old.generation old.state old.physicalCluster) 0 SCO_TABLE_SLOT_SIZE := by
    rw [slotAt_get, hob, slotBytes]
  rw [(slotValid_some hx).2, le32dec_agree hm (by decide), buildSlot_generation _ _ _ hold.generation_le]
  exact hgen

lemma SlotOk.retag (h : SlotOk f sb c e) (g r : Nat) : SlotOk f (sb.retag g r) c e := by
  refine ⟨h.active.imp_right fun ⟨he, hbytes⟩ => ⟨?_, hbytes⟩, h.stale⟩
  exact ⟨he.generation_pos, he.generation_le, he.cluster_le, he.cluster_pos, he.cluster_ge, he.zero⟩

lemma DiskOk.retag {table : Nat → TableEntry} {base : Option BaseDescriptor}
    (h : DiskOk f sb table base) (g r : Nat) : DiskOk f (sb.retag g r) table base :=
  ⟨h.size_ge, h.size_le, h.fileId, fun off hoff => (h.pages off hoff).retag g r, h.readable,
    fun c hc => (h.slots c hc).retag g r, h.descriptor⟩

end

variable {s s' : Image}

lemma NextEntry.entryOk (hi : MemInv s) {c : Nat} {e : TableEntry}
    (h : s.NextEntry c e) : EntryOk s.sb e where
  generation_pos := by rw [h.generation]; omega
  generation_le := h.generation_le
  cluster_le := by
    by_cases hp : e.state = .present
    · exact (h.spare hp).le
    · rw [h.zero hp]
      exact Nat.zero_le _
  cluster_pos := by
    intro hp hz
    have hge := hi.data_le (h.spare hp).ge
    have hdata := hi.layout.data_ge
    rw [hz, Nat.zero_mul] at hge
    simp only [SCO_METADATA_AREA_OFFSET] at hdata
    omega
  cluster_ge := fun hp => hi.data_le (h.spare hp).ge
  zero := h.zero

structure OnDisk (f : File) (s : Image) : Prop where
  disk : DiskOk f s.sb s.table s.base
  page : scoSuperblockPageValid (shift f.byte s.activeSuperblockOffset) = true

structure DiskInv (s : Image) : Prop where
  sound : s.sb.Sound
  isPage : IsPage s.activeSuperblockOffset
  current : OnDisk s.fd.file s

def FailedCommit.Benign (sb : Superblock) : FailedCommit → Prop
  | slot c i found _ left => left = found ∨ scoSlotSealed sb c i (put blank 0 left) = false
  | superblock found meant left =>
    left = found ∨ left = meant ∨ scoSuperblockPageValid (put blank 0 left) = false

def Image.Tidy (s : Image) : Prop := ∀ r ∈ s.failedCommits, r.Benign s.sb

variable {off n : Nat} {bs : List UInt8}

lemma put_size_le {f : File} (hf : f.size ≤ n)
    (hend : off + bs.length ≤ n) : (f.pwrite off bs).size ≤ n := by
  simp only [File.pwrite]
  split <;> omega

lemma page_get (f : File) (off : Nat) : get (shift f.byte off) 0 SCO_SUPERBLOCK_SIZE =
    get f.byte off SCO_SUPERBLOCK_SIZE := by rw [get_shift, Nat.add_zero]

lemma page_inside (hoff : IsPage off) :
    SCO_FILE_ID_SIZE ≤ off ∧ off + SCO_SUPERBLOCK_SIZE ≤ SCO_METADATA_AREA_OFFSET := by
  rcases hoff with rfl | rfl <;> decide

namespace OnDisk
variable {s s' : Image} {f f' : File}

lemma congr (h : OnDisk f s) (hsb : s'.sb = s.sb) (htable : s'.table = s.table) (hbase : s'.base = s.base)
    (hactive : s'.activeSuperblockOffset = s.activeSuperblockOffset) : OnDisk f s' := by
  refine ⟨?_, ?_⟩
  · rw [hsb, htable, hbase]
    exact h.disk
  · rw [hactive]
    exact h.page

variable (hs : s.sb.Sound) (hpage : IsPage s.activeSuperblockOffset) (h : OnDisk f s)
include hs hpage h

lemma slotsChanged {table' : Nat → TableEntry} (hge : f.size ≤ f'.size)
    (hle : f'.size ≤ 2 ^ 55) (hlow : ∀ i < s.sb.tableOffset, f'.byte i = f.byte i)
    (hslots : ∀ c < s.sb.clusterCount, SlotOk f' s.sb c (table' c)) :
    OnDisk f' { s with table := table' } := by
  have htab := hs.layoutOk.table_ge
  have hsame : ∀ off, IsPage off → get (shift f'.byte off) 0 SCO_SUPERBLOCK_SIZE =
      get (shift f.byte off) 0 SCO_SUPERBLOCK_SIZE := by
    intro off hoff
    have hin := page_inside hoff
    rw [page_get, page_get]
    exact get_congr fun i _ hlt => hlow i (by omega)
  have hvalid : scoSuperblockPageValid (shift f'.byte s.activeSuperblockOffset) = true := by
    rw [superblockPageValid_congr (hsame _ hpage)]
    exact h.page
  have hid : SCO_FILE_ID_SIZE ≤ SCO_METADATA_AREA_OFFSET := by decide
  refine ⟨h.disk.rewrite hs hge hle (fun i hi => hlow i (by omega)) (fun i _ hi => hlow i hi)
    (fun off hoff => ?_) ⟨_, hpage, hvalid⟩ hslots, hvalid⟩
  exact (h.disk.pages off hoff).congr (hsame off hoff)

lemma dataChanged (hge : f.size ≤ f'.size) (hle : f'.size ≤ 2 ^ 55)
    (hlow : ∀ i < s.sb.dataAreaOffset, f'.byte i = f.byte i) : OnDisk f' s := by
  have htab := hs.layoutOk.table_end
  refine h.slotsChanged hs hpage hge hle (fun i hi => hlow i (by omega)) fun c hc => ?_
  refine (h.disk.slots c hc).congr fun i => get_congr fun j _ hlt => hlow j ?_
  have := hs.layoutOk.slot_end hc i
  omega

lemma slotChanged {c : Nat} {e : TableEntry}
    (hbs : bs.length ≤ SCO_TABLE_SLOT_SIZE) (hc : c < s.sb.clusterCount)
    (hslot : SlotOk (f.pwrite (scoTableSlotOffset s.sb c (s.table c).activeSlot.other) bs) s.sb c e) :
    OnDisk (f.pwrite (scoTableSlotOffset s.sb c (s.table c).activeSlot.other) bs)
      { s with table := setEntry s.table c e } := by
  have hl := hs.layoutOk
  have hend := hl.slot_end hc (s.table c).activeSlot.other
  have hdata := hs.data_le
  refine h.slotsChanged hs hpage (f.size_le_pwrite _ _) (put_size_le h.disk.size_le (by omega)) ?_ ?_
  · intro i hi
    simp only [File.pwrite_byte, scoTableSlotOffset]
    exact put_outside (by omega)
  intro d hd
  by_cases hdc : d = c
  · subst hdc
    rw [entry_same]
    exact hslot
  rw [entry_other hdc]
  refine (h.disk.slots d hd).congr fun i => get_put_disjoint ?_
  have hap : scoTableSlotOffset s.sb d i + SCO_TABLE_SLOT_SIZE ≤ scoTableSlotOffset s.sb c
      (s.table c).activeSlot.other ∨ scoTableSlotOffset s.sb c (s.table c).activeSlot.other +
      SCO_TABLE_SLOT_SIZE ≤ scoTableSlotOffset s.sb d i := slots_apart (.inl hdc)
  omega

lemma pageChanged (hbs : bs.length ≤ SCO_SUPERBLOCK_SIZE)
    (hok : PageOk s.sb (shift (f.pwrite s.pageOffset bs).byte s.pageOffset)) :
    OnDisk (f.pwrite s.pageOffset bs) s := by
  have hl := hs.layoutOk
  have hdata := hl.data_ge
  have hdle := hs.data_le
  have hother : IsPage s.pageOffset ∧ (s.pageOffset + SCO_SUPERBLOCK_SIZE ≤
      s.activeSuperblockOffset ∨ s.activeSuperblockOffset + SCO_SUPERBLOCK_SIZE ≤ s.pageOffset) ∧
      ∀ off, IsPage off → off = s.pageOffset ∨ off = s.activeSuperblockOffset := by
    simp only [Image.pageOffset, scoInactiveSuperblockOffset]
    rcases hpage with hA | hB
    · rw [if_pos hA, hA]
      exact ⟨.inr rfl, .inr (by decide), fun off hoff => hoff.symm⟩
    · rw [hB, if_neg (by decide)]
      exact ⟨.inl rfl, .inl (by decide), fun off hoff => hoff⟩
  obtain ⟨hpo, hap, hall⟩ := hother
  have hin := page_inside hpo
  have hkeep : get (shift (f.pwrite s.pageOffset bs).byte s.activeSuperblockOffset) 0
      SCO_SUPERBLOCK_SIZE = get (shift f.byte s.activeSuperblockOffset) 0 SCO_SUPERBLOCK_SIZE := by
    rw [page_get, page_get]
    exact get_put_disjoint (by omega)
  have hvalid : scoSuperblockPageValid
      (shift (f.pwrite s.pageOffset bs).byte s.activeSuperblockOffset) = true := by
    rw [superblockPageValid_congr hkeep]
    exact h.page
  refine ⟨h.disk.rewrite hs (f.size_le_pwrite _ _) (put_size_le h.disk.size_le (by omega))
    (fun i hi => put_outside (by omega)) (fun i hge _ => put_outside (by omega))
    (fun off hoff => ?_) ⟨_, hpage, hvalid⟩ (fun c hc => ?_), hvalid⟩
  · rcases hall off hoff with rfl | rfl
    · exact hok
    · exact (h.disk.pages _ hpage).congr hkeep
  · refine (h.disk.slots c hc).congr fun i => get_put_disjoint ?_
    have := hl.slot_ge c i
    omega

end OnDisk

lemma setEntry_self (table : Nat → TableEntry) (c : Nat) : setEntry table c (table c) = table := by
  funext d
  simp only [setEntry]
  split
  · rename_i h
    rw [h]
  · rfl

lemma Image.NextEntry.slot_ge {c : Nat} {e : TableEntry} (h : s.NextEntry c e) :
    s.slotOffset c e = scoTableSlotOffset s.sb c (s.table c).activeSlot.other := by
  rw [Image.slotOffset, h.slot]

variable {sb : Superblock}

lemma resealed_sound (h : sb.Sound) (isSealed : Bool) : (sb.resealed isSealed).Sound := by
  have hr := h.readonlyCompatible
  refine h.retag (Nat.mod_lt _ (by decide)) ?_ ?_
  · cases isSealed with
    | true => exact Nat.or_lt_two_pow h.fits.readonlyCompatibleFeatures (by decide)
    | false => exact Nat.lt_of_le_of_lt Nat.and_le_left h.fits.readonlyCompatibleFeatures
  · cases isSealed with
    | true =>
      simp only [unsupported, if_true] at hr ⊢
      rw [Nat.and_or_distrib_right, hr]
      decide
    | false =>
      have hz : unsupported sb.readonlyCompatibleFeatures SCO_RO_COMPAT_SEALED = 0 := hr
      simp only [Bool.false_eq_true, if_false, hz]
      decide

variable {m : Store}

lemma page_built (h : sb.Sound) (hm : get m 0 SCO_SUPERBLOCK_SIZE = superblockPage sb) :
    scoSuperblockPageValid m = true ∧ scoDecodeSuperblock m = sb := by
  have hm' : get m 0 SCO_SUPERBLOCK_SIZE = get (scoBuildSuperblock sb) 0 SCO_SUPERBLOCK_SIZE := hm
  rw [superblockPageValid_congr hm', decodeSuperblock_congr hm', pageValid_built h.fits,
    decode_built h.fits, h.asRead_eq]
  exact ⟨rfl, rfl⟩

variable {isSealed : Bool}

lemma resealed_pageOk (h : sb.Sound)
    (hm : get m 0 SCO_SUPERBLOCK_SIZE = superblockPage (sb.resealed isSealed)) : PageOk sb m := by
  have hs := resealed_sound h isSealed
  exact .inr ⟨_, _, (page_built hs hm).2, hs.readonlyCompatible⟩

lemma pageOffset_isPage (s : Image) : IsPage s.pageOffset := by
  simp only [IsPage, Image.pageOffset, scoInactiveSuperblockOffset]
  split
  · exact .inr rfl
  · exact .inl rfl

lemma failedSlot_benign {c k : Nat} {e : TableEntry} (ht : (s.failedSlot c e k).Tidy) :
    get (put s.fd.file.byte (s.slotOffset c e) ((slotBytes s.sb c e).take k)) (s.slotOffset c e)
        SCO_TABLE_SLOT_SIZE = get s.fd.file.byte (s.slotOffset c e) SCO_TABLE_SLOT_SIZE ∨
      scoSlotSealed s.sb c e.activeSlot (slotAt (s.fd.file.pwrite (s.slotOffset c e)
        ((slotBytes s.sb c e).take k)) s.sb c e.activeSlot) = false := by
  have hbenign := ht _ (mem_append_right _ (mem_singleton_self _))
  simp only [FailedCommit.Benign, push_fd, Handle.push_file, Effect.apply, File.pwrite_byte] at hbenign
  refine hbenign.imp_right fun hbad => ?_
  rw [← hbad]
  refine slotSealed_congr ((slotAt_get _ _ _ _).trans ?_)
  have hput := get_put_same blank 0 (get (put s.fd.file.byte (s.slotOffset c e)
    ((slotBytes s.sb c e).take k)) (s.slotOffset c e) SCO_TABLE_SLOT_SIZE)
  exact hput.symm

lemma failedPage_benign (hs : s.sb.Sound) {k : Nat}
    (hpage : PageOk s.sb (shift s.fd.file.byte s.pageOffset))
    (ht : (s.failedPage isSealed k).Tidy) : PageOk s.sb (shift (s.fd.file.pwrite s.pageOffset
      ((superblockPage (s.sb.resealed isSealed)).take k)).byte s.pageOffset) := by
  have hbenign := ht _ (mem_append_right _ (mem_singleton_self _))
  simp only [FailedCommit.Benign, push_fd, Handle.push_file, Effect.apply, File.pwrite_byte] at hbenign
  have hget := page_get (s.fd.file.pwrite s.pageOffset
    ((superblockPage (s.sb.resealed isSealed)).take k)) s.pageOffset
  rw [File.pwrite_byte] at hget
  rcases hbenign with hsame | hmeant | hbad
  · rw [hsame] at hget
    exact hpage.congr (hget.trans (page_get _ _).symm)
  · exact resealed_pageOk hs (hget.trans hmeant)
  have hput := get_put_same blank 0 (get (put s.fd.file.byte s.pageOffset
    ((superblockPage (s.sb.resealed isSealed)).take k)) s.pageOffset SCO_SUPERBLOCK_SIZE)
  rw [get_length] at hput
  exact .inl ((superblockPageValid_congr (hget.trans hput.symm)).trans hbad)

lemma other_slot_apart (sb : Superblock) (c : Nat) (i : Slot) :
    scoTableSlotOffset sb c i + SCO_TABLE_SLOT_SIZE ≤ scoTableSlotOffset sb c i.other ∨
      scoTableSlotOffset sb c i.other + SCO_TABLE_SLOT_SIZE ≤ scoTableSlotOffset sb c i :=
  slots_apart (.inr (Slot.other_ne i).symm)

namespace DiskInv
variable {s s' : Image}

lemma congr (h : DiskInv s) (hfile : s'.fd.file = s.fd.file) (hsb : s'.sb = s.sb)
    (htable : s'.table = s.table) (hbase : s'.base = s.base)
    (hactive : s'.activeSuperblockOffset = s.activeSuperblockOffset) : DiskInv s' := by
  refine ⟨?_, ?_, ?_⟩
  · rw [hsb]
    exact h.sound
  · rw [hactive]
    exact h.isPage
  · rw [hfile]
    exact h.current.congr hsb htable hbase hactive

lemma push (h : DiskInv s) {e : Effect} (hcur : OnDisk (e.apply s.fd.file) s) : DiskInv (s.push e) := by
  refine ⟨h.sound, h.isPage, ?_⟩
  rw [push_fd, Handle.push_file]
  exact hcur.congr rfl rfl rfl rfl

lemma pushData (h : DiskInv s) {e : Effect} (hge : ∀ i, e.Touches i → s.sb.dataAreaOffset ≤ i)
    (hsize : (e.apply s.fd.file).size ≤ 2 ^ 55) : DiskInv (s.push e) := by
  refine h.push (h.current.dataChanged h.sound h.isPage (e.size_le_apply _) hsize fun i hi => ?_)
  refine e.apply_untouched (fun ht => ?_) _
  have := hge i ht
  omega

lemma pushCluster (h : DiskInv s) (hi : MemInv s) {p : Nat} (hge : s.dataClusterBase ≤ p)
    (hle : p ≤ UINT32_MAX) (hend : off + bs.length ≤ s.sb.clusterSize) :
    DiskInv (s.push (.pwrite (p * s.sb.clusterSize + off) bs)) := by
  have hdle := hi.data_le hge
  have hcs := hi.layout.cluster_le
  have hprod : p * s.sb.clusterSize ≤ UINT32_MAX * SCO_MAX_CLUSTER_SIZE := Nat.mul_le_mul hle hcs
  refine h.pushData (fun i ht => ?_) ?_
  · have := ht.1
    omega
  · refine put_size_le h.current.disk.size_le ?_
    simp only [UINT32_MAX, SCO_MAX_CLUSTER_SIZE] at hprod hcs
    omega

variable {e : TableEntry} {c k : Nat}

lemma failedSlot_stale (h : DiskInv s) (he : s.NextEntry c e)
    (ht : (s.failedSlot c e k).Tidy) (n : Nat) (x : TableEntry)
    (hx : scoSlotValid s.sb n c e.activeSlot (slotAt (s.fd.file.pwrite (s.slotOffset c e)
      ((slotBytes s.sb c e).take k)) s.sb c e.activeSlot) = some x) :
    x.generation < (s.table c).generation := by
  rcases failedSlot_benign ht with hsame | hbad
  · have hget := (slotAt_get (s.fd.file.pwrite (s.slotOffset c e) ((slotBytes s.sb c e).take k))
      s.sb c e.activeSlot).trans hsame
    rw [slotValid_congr (hget.trans (slotAt_get _ _ _ _).symm), he.slot] at hx
    exact (h.current.disk.slots c he.lt).stale n x hx
  · exact absurd (hbad.symm.trans (slotValid_some hx).1) Bool.false_ne_true

lemma fullSlot_valid (hi : MemInv s) (he : s.NextEntry c e)
    (hk : SCO_TABLE_SLOT_SIZE ≤ k) (hn : e.state = .present →
      e.physicalCluster * s.sb.clusterSize + scoClusterStoredLength s.sb c ≤ n) :
    scoSlotValid s.sb n c e.activeSlot (slotAt (s.fd.file.pwrite (s.slotOffset c e)
      ((slotBytes s.sb c e).take k)) s.sb c e.activeSlot) = some e := by
  refine slotValid_built hi.layout (NextEntry.entryOk hi he) hn ?_
  rw [slotAt_get, take_of_length_le (by rw [slotBytes_length]; exact hk)]
  have := get_put_same s.fd.file.byte (s.slotOffset c e) (slotBytes s.sb c e)
  rwa [slotBytes_length] at this

lemma failedSlot_short (h : DiskInv s) (hi : MemInv s)
    (he : s.NextEntry c e) (ht : (s.failedSlot c e k).Tidy) : k < SCO_TABLE_SLOT_SIZE := by
  by_contra hfull
  have hlt := h.failedSlot_stale he ht _ _
    (fullSlot_valid hi he (Nat.le_of_not_lt hfull) fun _ => Nat.le_refl _)
  have := he.generation
  omega

lemma failSlot (h : DiskInv s) (he : s.NextEntry c e)
    (ht : (s.failedSlot c e k).Tidy) : DiskInv (s.failedSlot c e k) := by
  have hoff := he.slot_ge
  have hlen : ((slotBytes s.sb c e).take k).length ≤ SCO_TABLE_SLOT_SIZE := by simp [length_take]
  have hslot : SlotOk (s.fd.file.pwrite (s.slotOffset c e) ((slotBytes s.sb c e).take k)) s.sb c
      (s.table c) := by
    refine (h.current.disk.slots c he.lt).restale (get_put_disjoint ?_)
      (by rw [← he.slot]; exact h.failedSlot_stale he ht)
    have hap := other_slot_apart s.sb c (s.table c).activeSlot
    omega
  have hpush : DiskInv (s.push (.pwrite (s.slotOffset c e) ((slotBytes s.sb c e).take k))) := by
    refine h.push ?_
    rw [hoff] at hslot ⊢
    have hcur := h.current.slotChanged h.sound h.isPage hlen he.lt hslot
    rwa [setEntry_self] at hcur
  exact hpush.congr rfl rfl rfl rfl rfl

lemma commit (h : DiskInv s) (hi : MemInv s)
    (he : s.NextEntry c e) : DiskInv ((Event.commit c e).apply s) := by
  have hoff := he.slot_ge
  have hslot : SlotOk (s.fd.file.pwrite (s.slotOffset c e) (slotBytes s.sb c e)) s.sb c e := by
    refine (h.current.disk.slots c he.lt).commit (NextEntry.entryOk hi he) he.slot
      (by rw [he.generation]; omega) (get_put_disjoint ?_) ?_
    · rw [hoff, slotBytes_length]
      exact other_slot_apart _ _ _
    · have := get_put_same s.fd.file.byte (s.slotOffset c e) (slotBytes s.sb c e)
      rwa [slotBytes_length] at this
  have hdisk : OnDisk (s.fd.file.pwrite (s.slotOffset c e) (slotBytes s.sb c e))
      { s with table := setEntry s.table c e } := by
    rw [hoff] at hslot ⊢
    exact h.current.slotChanged h.sound h.isPage (by rw [slotBytes_length]) he.lt hslot
  have hfile : ((Event.commit c e).apply s).fd.file =
      s.fd.file.pwrite (s.slotOffset c e) (slotBytes s.sb c e) := by
    simp [Event.apply, Effect.apply]
  refine ⟨h.sound, h.isPage, ?_⟩
  rw [hfile]
  exact hdisk.congr rfl rfl rfl rfl

lemma failPage (h : DiskInv s)
    (ht : (s.failedPage isSealed k).Tidy) : DiskInv (s.failedPage isSealed k) := by
  have hok := failedPage_benign h.sound (h.current.disk.pages _ (pageOffset_isPage s)) ht
  have hpush : DiskInv (s.push (.pwrite s.pageOffset
      ((superblockPage (s.sb.resealed isSealed)).take k))) := by
    exact h.push (h.current.pageChanged h.sound h.isPage (by simp [length_take]) hok)
  exact hpush.congr rfl rfl rfl rfl rfl

lemma reseal (h : DiskInv s) (isSealed : Bool) : DiskInv ((Event.reseal isSealed).apply s) := by
  have hs := resealed_sound h.sound isSealed
  have hget : get (shift (s.fd.file.pwrite s.pageOffset
      (superblockPage (s.sb.resealed isSealed))).byte s.pageOffset) 0 SCO_SUPERBLOCK_SIZE =
      superblockPage (s.sb.resealed isSealed) := by
    have := get_put_same s.fd.file.byte s.pageOffset (superblockPage (s.sb.resealed isSealed))
    rw [superblockPage_length] at this
    rw [page_get]
    exact this
  have hdisk := h.current.pageChanged h.sound h.isPage (by rw [superblockPage_length])
    (resealed_pageOk h.sound hget)
  have hfile : ((Event.reseal isSealed).apply s).fd.file =
      s.fd.file.pwrite s.pageOffset (superblockPage (s.sb.resealed isSealed)) := by
    simp [Event.apply, Effect.apply]
  refine ⟨hs, pageOffset_isPage s, ?_⟩
  rw [hfile]
  exact ⟨hdisk.disk.retag _ _, (page_built hs hget).1⟩

end DiskInv

variable {ev : Event}

lemma Tidy.of_step (hstep : Step s ev s') (h : s'.Tidy) : s.Tidy := by
  obtain ⟨-, rfl⟩ := hstep
  intro r hr
  cases ev with
  | grow =>
    simp only [Event.apply, grow_eq] at h
    exact h r hr
  | release p =>
    obtain ⟨n, hrel⟩ := release_eq s p
    simp only [Event.apply, hrel] at h
    exact h r hr
  | failSlot c e done | failPage isSealed done => exact h r (mem_append_left _ hr)
  | _ => exact h r hr

variable {evs : List Event}

lemma Tidy.of_trace (htr : Trace Step s evs s') (h : s'.Tidy) : s.Tidy := by
  induction htr with
  | nil => exact h
  | cons hstep _ ih => exact Tidy.of_step hstep (ih h)

lemma step_diskInv (hi : MemInv s) (h : DiskInv s) (hstep : Step s ev s') (ht : s'.Tidy) : DiskInv s' := by
  obtain ⟨hen, rfl⟩ := hstep
  cases ev with
  | cursor n | mark index | extend n => exact h.congr rfl rfl rfl rfl rfl
  | grow =>
    simp only [Event.apply, grow_eq]
    exact h.congr rfl rfl rfl rfl rfl
  | fill c p buf done =>
    obtain ⟨hc, hspare, hlen, hdone⟩ := hen
    have hle := stored_le s.sb c
    have hshort : 0 + (buf.take done).length ≤ s.sb.clusterSize := by
      rw [length_take]
      omega
    exact (h.pushCluster hi hspare.ge hspare.le hshort).congr rfl rfl rfl rfl rfl
  | overwrite c off buf done =>
    obtain ⟨hc, hpres, hend, hdone⟩ := hen
    have hle := stored_le s.sb c
    have huse := hi.inUse c hc hpres
    have hshort : off + (buf.take done).length ≤ s.sb.clusterSize := by
      rw [length_take]
      omega
    exact (h.pushCluster hi huse.ge huse.le hshort).congr rfl rfl rfl rfl rfl
  | sync => exact h.push h.current
  | failSlot => exact h.failSlot hen.1 ht
  | commit => exact h.commit hi hen
  | release p =>
    obtain ⟨n, hr⟩ := release_eq s p
    simp only [Event.apply, hr]
    exact h.congr rfl rfl rfl rfl rfl
  | punch => exact h.pushData (fun i ht => Nat.le_trans (hi.data_le hen.1) ht.1) h.current.disk.size_le
  | failPage => exact h.failPage ht
  | reseal isSealed => exact h.reseal isSealed

lemma trace_diskInv (htr : Trace Step s evs s')
    (hi : MemInv s) (h : DiskInv s) (ht : s'.Tidy) : DiskInv s' := by
  induction htr with
  | nil => exact h
  | cons hstep hrest ih =>
    have htidy := Tidy.of_trace hrest ht
    exact ih (step_memInv hi hstep) (step_diskInv hi h hstep htidy) ht

end ScorpiHv.Sco

import ScorpiHv.Sco.Invariant

/-!
# The bytes an SCO image shows

`view` gives each byte of the virtual disk as the image itself has it: nothing
for a cluster left to the base, else a byte.
-/

namespace ScorpiHv.Sco
open Bytes List

/-- The byte an entry gives position `b`, `none` where the base shows through. -/
def entryByte (f : File) (clusterSize : Nat) (e : TableEntry) (b : Nat) : Option UInt8 :=
  match e.state with
  | .absent => none
  | .present => some (f.byte (e.physicalCluster * clusterSize + b % clusterSize))
  | .zero => some 0
  | .discarded => some 0

def Image.view (s : Image) (b : Nat) : Option UInt8 :=
  entryByte s.fd.file s.sb.clusterSize (s.table (b / s.sb.clusterSize)) b

/-- The effect changes no byte of a cluster that the table maps. -/
def Image.Harmless (s : Image) (e : Effect) : Prop :=
  ∀ c < s.sb.clusterCount, (s.table c).state = .present →
    ∀ x < s.sb.clusterSize, ¬ e.Touches ((s.table c).physicalCluster * s.sb.clusterSize + x)

variable {b c off : Nat} {s s' t u : Image} {e : Effect}

lemma view_push (h : MemInv s) (he : s.Harmless e)
    (hb : b < s.sb.virtualSize) : (s.push e).view b = s.view b := by
  have hc := h.layout.div_lt_count hb
  simp only [Image.view, push_fd, push_sb, push_table, Handle.push_file, entryByte]
  cases hst : (s.table (b / s.sb.clusterSize)).state with
  | present =>
    have hx := Nat.mod_lt b h.layout.cluster_pos
    simp only [Effect.apply_untouched (he _ hc hst _ hx)]
  | absent => rfl
  | zero => rfl
  | discarded => rfl

section
variable {s : Image} (h : MemInv s)
include h

lemma named_ge {c : Nat} (hc : c < s.sb.clusterCount) (hp : (s.table c).state = .present) :
    s.sb.dataAreaOffset ≤ (s.table c).physicalCluster * s.sb.clusterSize :=
  h.data_le (h.inUse c hc hp).ge

lemma harmless_below (he : ∀ i, e.Touches i → i < s.sb.dataAreaOffset) : s.Harmless e := by
  intro c hc hp x _ ht
  have hge := named_ge h hc hp
  have hlt := he _ ht
  omega

omit h in
lemma harmless_unnamed {p : Nat} (hp : s.Unnamed p)
    (he : ∀ i, e.Touches i → ∃ x < s.sb.clusterSize, i = p * s.sb.clusterSize + x) : s.Harmless e := by
  intro c hc hpres x hx ht
  obtain ⟨y, hy, heq⟩ := he _ ht
  exact hp c hc hpres (clusters_apart hx hy heq)

omit h in
lemma harmless_sync : s.Harmless .sync := fun _ _ _ _ _ ht => ht

lemma harmless_slot {c : Nat} (hc : c < s.sb.clusterCount) (i : Slot) {bs : List UInt8}
    (hbs : bs.length ≤ SCO_TABLE_SLOT_SIZE) : s.Harmless (.pwrite (scoTableSlotOffset s.sb c i) bs) := by
  refine harmless_below h ?_
  rintro j ⟨-, hlt⟩
  have hend := h.layout.slot_end hc i
  omega

omit h in
lemma pageOffset_le (s : Image) : s.pageOffset ≤ SCO_SUPERBLOCK_B_OFFSET := by
  simp only [Image.pageOffset, scoInactiveSuperblockOffset]
  split
  · exact le_refl _
  · decide

lemma harmless_page {bs : List UInt8} (hbs : bs.length ≤ SCO_SUPERBLOCK_SIZE) :
    s.Harmless (.pwrite s.pageOffset bs) := by
  refine harmless_below h ?_
  rintro j ⟨-, hlt⟩
  have hge := h.layout.data_ge
  have hpage := pageOffset_le s
  simp only [SCO_METADATA_AREA_OFFSET, SCO_SUPERBLOCK_SIZE, SCO_SUPERBLOCK_B_OFFSET] at *
  omega

end

@[simp] lemma slotBytes_length (sb : Superblock) (c : Nat) (e : TableEntry) :
    (slotBytes sb c e).length = SCO_TABLE_SLOT_SIZE := by simp [slotBytes]

@[simp] lemma superblockPage_length (sb : Superblock) :
    (superblockPage sb).length = SCO_SUPERBLOCK_SIZE := by simp [superblockPage]

def Event.isQuiet : Event → Bool
  | overwrite _ _ _ _ => false
  | failSlot _ _ _ => false
  | commit _ _ => false
  | failPage _ _ => false
  | reseal _ => false
  | _ => true

structure SameView (s s' : Image) : Prop where
  sb : s'.sb = s.sb
  table : s'.table = s.table
  base : s'.base = s.base
  readonly : s'.readonly = s.readonly
  view : ∀ b < s.sb.virtualSize, s'.view b = s.view b

lemma SameView.refl (s : Image) : SameView s s := ⟨rfl, rfl, rfl, rfl, fun _ _ => rfl⟩

lemma SameView.trans (h : SameView s t) (h' : SameView t u) : SameView s u where
  sb := h'.sb.trans h.sb
  table := h'.table.trans h.table
  base := h'.base.trans h.base
  readonly := h'.readonly.trans h.readonly
  view := fun b hb => (h'.view b (by rw [h.sb]; exact hb)).trans (h.view b hb)

lemma sameView_push (h : MemInv s) (he : s.Harmless e) : SameView s (s.push e) :=
  ⟨rfl, rfl, rfl, rfl, fun _ hb => view_push h he hb⟩

lemma failSlot_sameView {k : Nat} {e : TableEntry} (h : MemInv s)
    (hstep : Step s (.failSlot c e k) s') : SameView s s' := by
  obtain ⟨hen, rfl⟩ := hstep
  have hlen : ((slotBytes s.sb c e).take k).length ≤ SCO_TABLE_SLOT_SIZE := by simp [length_take]
  have := sameView_push h (harmless_slot h hen.1.lt e.activeSlot hlen)
  exact ⟨rfl, rfl, rfl, rfl, this.view⟩

lemma step_sameView {ev : Event} (h : MemInv s) (hq : ev.isQuiet = true)
    (hstep : Step s ev s') : SameView s s' := by
  obtain ⟨hen, rfl⟩ := hstep
  cases ev with
  | cursor n | mark index | extend n => exact ⟨rfl, rfl, rfl, rfl, fun _ _ => rfl⟩
  | grow =>
    simp only [Event.apply, grow_eq]
    exact ⟨rfl, rfl, rfl, rfl, fun _ _ => rfl⟩
  | fill c p buf done =>
    obtain ⟨hc, hspare, hlen, hdone⟩ := hen
    have he : s.Harmless (.pwrite (p * s.sb.clusterSize) (buf.take done)) := by
      refine harmless_unnamed hspare.unnamed ?_
      rintro i ⟨hge, hlt⟩
      have hle := stored_le s.sb c
      refine ⟨i - p * s.sb.clusterSize, ?_, by omega⟩
      simp only [length_take] at hlt
      omega
    have := sameView_push h he
    exact ⟨rfl, rfl, rfl, rfl, this.view⟩
  | overwrite => cases hq
  | sync => exact sameView_push h harmless_sync
  | failSlot => cases hq
  | commit => cases hq
  | release p =>
    obtain ⟨n, hr⟩ := release_eq s p
    simp only [Event.apply, hr]
    exact ⟨rfl, rfl, rfl, rfl, fun _ _ => rfl⟩
  | punch c p =>
    obtain ⟨-, hc, hun⟩ := hen
    refine sameView_push h (harmless_unnamed hun ?_)
    rintro i ⟨hge, hlt⟩
    have hle := stored_le s.sb c
    exact ⟨i - p * s.sb.clusterSize, by omega, by omega⟩
  | failPage => cases hq
  | reseal => cases hq

lemma trace_sameView {evs : List Event} (ht : Trace Step s evs s')
    (hq : ∀ ev ∈ evs, ev.isQuiet = true) (h : MemInv s) : MemInv s' ∧ SameView s s' := by
  have hkeep : ∀ s ev s', MemInv s → Event.isQuiet ev = true → Step s ev s' → MemInv s' :=
    fun _ _ _ hi _ hs => step_memInv hi hs
  refine ⟨Trace.invariant (fun ev => ev.isQuiet = true) hkeep ht hq h, ?_⟩
  exact Trace.relates MemInv (fun ev => ev.isQuiet = true) hkeep SameView.refl
    (fun _ _ _ => SameView.trans) (fun _ _ _ hi hg hs => step_sameView hi hg hs) ht hq h

/-- A byte not addressed by an operation. Without a base it may have gone from
not being stored at all to the zero it read as. -/
def Kept (s s' : Image) (b : Nat) : Prop :=
  s'.view b = s.view b ∨ s.base = none ∧ s'.view b = some ((s.view b).getD 0)

structure Stored (s s' : Image) (pos : Nat) (bs : List UInt8) : Prop where
  inside : ∀ b < s.sb.virtualSize, pos ≤ b → b < pos + bs.length →
    s'.view b = some (bs.getD (b - pos) 0)
  outside : ∀ b < s.sb.virtualSize, ¬ (pos ≤ b ∧ b < pos + bs.length) → Kept s s' b

lemma Kept.trans (h : Kept s t b) (h' : Kept t u b) (hbase : t.base = s.base) : Kept s u b := by
  rcases h with h | ⟨hs, h⟩
  · rcases h' with h' | ⟨ht, h'⟩
    · exact .inl (h'.trans h)
    · exact .inr ⟨hbase ▸ ht, by rw [h', h]⟩
  · rcases h' with h' | ⟨ht, h'⟩
    · exact .inr ⟨hs, h'.trans h⟩
    · exact .inr ⟨hs, by rw [h', h]; rfl⟩

lemma Kept.of_some {x : UInt8} (h : Kept s t b) (hx : s.view b = some x) : t.view b = some x := by
  rcases h with h | ⟨-, h⟩
  · rw [h, hx]
  · rw [h, hx]
    rfl

lemma SameView.stored (h : SameView s s') (pos : Nat) : Stored s s' pos [] where
  inside := fun b _ hge hlt => absurd hlt (by simpa using hge)
  outside := fun b hb _ => .inl (h.view b hb)

variable {bs cs : List UInt8}

lemma Stored.append {pos : Nat} (h : Stored s t pos bs) (h' : Stored t u (pos + bs.length) cs)
    (hsb : t.sb = s.sb) (hbase : t.base = s.base) : Stored s u pos (bs ++ cs) where
  inside := by
    intro b hb hge hlt
    have hb' : b < t.sb.virtualSize := by rwa [hsb]
    rw [length_append] at hlt
    by_cases hin : b < pos + bs.length
    · have hout := h'.outside b hb' (by omega)
      rw [hout.of_some (h.inside b hb hge hin), getD_append _ _ _ _ (by omega)]
    · rw [h'.inside b hb' (by omega) (by omega), getD_append_right _ _ _ _ (by omega)]
      congr 2
      omega
  outside := by
    intro b hb hout
    rw [length_append] at hout
    exact (h.outside b hb (by omega)).trans (h'.outside b (by rwa [hsb]) (by omega)) hbase

def Written (s s' : Image) (pos : Nat) (bs : List UInt8) (b : Nat) : Prop :=
  if pos ≤ b ∧ b < pos + bs.length then s'.view b = some (bs.getD (b - pos) 0) else Kept s s' b

lemma Stored.written {pos : Nat} (h : Stored s s' pos bs)
    (hb : b < s.sb.virtualSize) : Written s s' pos bs b := by
  rw [Written]
  split
  · rename_i hin
    exact h.inside b hb hin.1 hin.2
  · rename_i hout
    exact h.outside b hb hout

lemma Written.append {pos : Nat} (h : Written s t pos bs b) (h' : Written t u (pos + bs.length) cs b)
    (hbase : t.base = s.base) : Written s u pos (bs ++ cs) b := by
  simp only [Written, length_append] at h h' ⊢
  split at h
  · rw [if_neg (by omega)] at h'
    rw [if_pos (by omega), h'.of_some h, getD_append _ _ _ _ (by omega)]
  by_cases hin' : pos + bs.length ≤ b ∧ b < pos + bs.length + cs.length
  · rw [if_pos hin'] at h'
    rw [if_pos (by omega), h', getD_append_right _ _ _ _ (by omega), Nat.sub_add_eq]
  · rw [if_neg hin'] at h'
    rw [if_neg (by omega)]
    exact h.trans h' hbase

lemma written_extend {pos : Nat} (h : Written s t pos bs b)
    (hrest : ¬ (pos + bs.length ≤ b ∧ b < pos + bs.length + cs.length)) : Written s t pos (bs ++ cs) b := by
  simp only [Written, length_append] at h ⊢
  split at h
  · rw [if_pos (by omega), h, getD_append _ _ _ _ (by omega)]
  · rwa [if_neg (by omega)]

def GuestWrite.InPlace (g : GuestWrite) (c x : Nat) : Prop :=
  g.fresh = false ∧ g.cluster = c ∧ g.clusterOffset ≤ x ∧ x < g.clusterOffset + g.length

/-- A write in place addressed byte `b` since the last completed sync. -/
def Image.Unsynced (s : Image) (b : Nat) : Prop :=
  ∃ g ∈ s.guestWrites, g.InPlace (b / s.sb.clusterSize) (b % s.sb.clusterSize) ∧
    (synced s.fd.log).length ≤ g.logLength

/-- Cluster `c` shows nothing of a write or all of it, apart from bytes still unsynced. -/
def Whole (s s' : Image) (pos : Nat) (bs : List UInt8) (c : Nat) : Prop :=
  (∀ b < s.sb.virtualSize, b / s.sb.clusterSize = c → s'.Unsynced b ∨ Kept s s' b) ∨
    ∀ b < s.sb.virtualSize, b / s.sb.clusterSize = c → s'.Unsynced b ∨ Written s s' pos bs b

/-- The range is cut at `pos + n` between two clusters, unless nothing is left. -/
def Cut (sb : Superblock) (pos n m : Nat) : Prop :=
  ∀ a b, pos ≤ a → a < pos + n → pos + n ≤ b → b < pos + n + m → b < sb.virtualSize →
    a / sb.clusterSize ≠ b / sb.clusterSize

namespace Whole
variable {s t u : Image} {pos c : Nat} {bs cs : List UInt8}

lemma unchanged (h : SameView s t) : Whole s t pos bs c :=
  .inl fun b hb _ => .inr (.inl (h.view b hb))

lemma all (h : Stored s t pos bs) : Whole s t pos bs c :=
  .inr fun _ hb _ => .inr (h.written hb)

lemma extend (h : Whole s t pos bs c) (hcut : Cut s.sb pos bs.length cs.length) :
    Whole s t pos (bs ++ cs) c := by
  refine h.elim .inl fun hnew => ?_
  by_cases hin : ∃ a, pos ≤ a ∧ a < pos + bs.length ∧ a / s.sb.clusterSize = c
  · obtain ⟨a, hge, hlt, ha⟩ := hin
    refine .inr fun b hb hbc => (hnew b hb hbc).imp_right fun hw => ?_
    exact written_extend hw fun hrest => hcut a b hge hlt hrest.1 hrest.2 hb (ha.trans hbc.symm)
  · refine .inl fun b hb hbc => (hnew b hb hbc).imp_right fun hw => ?_
    rwa [Written, if_neg fun hbin => hin ⟨b, hbin.1, hbin.2, hbc⟩] at hw

lemma append (h : Stored s t pos bs) (h' : Whole t u (pos + bs.length) cs c)
    (hcut : Cut s.sb pos bs.length cs.length) (hsb : t.sb = s.sb) (hbase : t.base = s.base) :
    Whole s u pos (bs ++ cs) c := by
  rw [Whole, hsb] at h'
  rcases h' with hold | hnew
  · by_cases hin : ∃ a, pos ≤ a ∧ a < pos + bs.length ∧ a / s.sb.clusterSize = c
    · obtain ⟨a, hge, hlt, ha⟩ := hin
      refine .inr fun b hb hbc => (hold b hb hbc).imp_right fun hk => ?_
      refine (h.written hb).append ?_ hbase
      rw [Written, if_neg]
      · exact hk
      · intro hrest
        exact hcut a b hge hlt hrest.1 hrest.2 hb (ha.trans hbc.symm)
    · refine .inl fun b hb hbc => (hold b hb hbc).imp_right fun hk => ?_
      exact (h.outside b hb fun hbin => hin ⟨b, hbin.1, hbin.2, hbc⟩).trans hk hbase
  · exact .inr fun b hb hbc => (hnew b hb hbc).imp_right fun hw => (h.written hb).append hw hbase

end Whole

lemma in_cluster {cs n : Nat} (hend : off + n ≤ cs) (hge : c * cs + off ≤ b)
    (hlt : b < c * cs + off + n) : b / cs = c ∧ b % cs = b - c * cs := by
  have hdiv : b / cs = c := by
    refine Nat.div_eq_of_lt_le ?_ ?_
    · omega
    · rw [Nat.succ_mul]
      omega
  refine ⟨hdiv, ?_⟩
  have := Nat.div_add_mod' b cs
  rw [hdiv] at this
  omega

variable {done : Nat} {buf : List UInt8}

lemma view_overwrite (h : MemInv s)
    (hen : (Event.overwrite c off buf done).Enabled s) (hb : b < s.sb.virtualSize) :
    ((Event.overwrite c off buf done).apply s).view b = if c * s.sb.clusterSize + off ≤ b ∧
          b < c * s.sb.clusterSize + off + (buf.take done).length then
        some ((buf.take done).getD (b - (c * s.sb.clusterSize + off)) 0) else s.view b := by
  obtain ⟨hc, hpres, hend, hdone⟩ := hen
  have hcs := h.layout.cluster_pos
  have hx := Nat.mod_lt b hcs
  have hsum := Nat.div_add_mod' b s.sb.clusterSize
  have hle := stored_le s.sb c
  have hlen : (buf.take done).length ≤ buf.length := by simp [length_take]
  have hd := h.layout.div_lt_count hb
  change (s.push (.pwrite ((s.table c).physicalCluster * s.sb.clusterSize + off)
    (buf.take done))).view b = _
  simp only [Image.view, push_fd, push_sb, push_table, Handle.push_file, entryByte, Effect.apply,
    File.pwrite_byte]
  by_cases hin : c * s.sb.clusterSize + off ≤ b ∧ b < c * s.sb.clusterSize + off + (buf.take done).length
  · obtain ⟨hdiv, hmod⟩ := in_cluster (by omega) hin.1 hin.2
    rw [if_pos hin, hdiv, hpres]
    simp only [put, hmod]
    rw [if_pos (by omega)]
    congr 2
    omega
  · rw [if_neg hin]
    cases hst : (s.table (b / s.sb.clusterSize)).state with
    | present =>
      rw [put_outside]
      by_contra hout
      have hpc : (s.table (b / s.sb.clusterSize)).physicalCluster =
          (s.table c).physicalCluster := by
        refine clusters_apart (y := (s.table (b / s.sb.clusterSize)).physicalCluster *
          s.sb.clusterSize + b % s.sb.clusterSize - (s.table c).physicalCluster *
          s.sb.clusterSize) hx ?_ ?_ <;> omega
      have hdc := h.distinct _ hd _ hc hst hpres hpc
      rw [hdc] at hout hsum
      omega
    | absent => rfl
    | zero => rfl
    | discarded => rfl

lemma stored_overwrite (h : MemInv s) (hen : (Event.overwrite c off buf done).Enabled s) :
    Stored s ((Event.overwrite c off buf done).apply s) (c * s.sb.clusterSize + off) (buf.take done) where
  inside := by
    intro b hb hge hlt
    rw [view_overwrite h hen hb, if_pos ⟨hge, hlt⟩]
  outside := by
    intro b hb hout
    refine .inl ?_
    rw [view_overwrite h hen hb, if_neg hout]

lemma view_commit (h : MemInv s) {e : TableEntry} (he : s.NextEntry c e)
    (hb : b < s.sb.virtualSize) : ((Event.commit c e).apply s).view b =
      if b / s.sb.clusterSize = c then entryByte s.fd.file s.sb.clusterSize e b else s.view b := by
  have hslot : s.Harmless (.pwrite (s.slotOffset c e) (slotBytes s.sb c e)) :=
    harmless_slot h he.lt e.activeSlot (by simp)
  split_ifs with hc
  · simp only [Image.view, Event.apply, push_fd, push_sb, Handle.push_file, entryByte, hc, entry_same]
    cases hst : e.state with
    | present =>
      have hge := h.data_le (he.spare hst).ge
      have hend := h.layout.slot_end he.lt e.activeSlot
      simp only [Effect.apply, File.pwrite_byte, Image.slotOffset]
      rw [put_outside (by simp only [slotBytes_length]; omega)]
    | absent => rfl
    | zero => rfl
    | discarded => rfl
  · rw [← view_push h hslot hb]
    simp only [Image.view, Event.apply, push_fd, push_sb, push_table, Handle.push_file,
      entry_other hc, Effect.apply]

end ScorpiHv.Sco

import ScorpiHv.Sco.Disk

/-!
# Which superblock a mode selects

A page with a read-only compatible feature that is not supported is a superblock
to a read-only open and garbage to a read-write one.
-/

namespace ScorpiHv.Sco
open Bytes

section
variable {f : File} {uuid : List UInt8} {fileSize off : Nat} {sb : Superblock}

def Superblock.Writable (sb : Superblock) : Prop :=
  unsupported sb.readonlyCompatibleFeatures SCO_RO_COMPAT_SUPPORTED = 0

lemma readSuperblock_writable_iff : scoReadSuperblock f off false uuid fileSize = .ok sb ↔
    scoReadSuperblock f off true uuid fileSize = .ok sb ∧ sb.Writable := by
  rw [readSuperblock_iff, readSuperblock_iff]
  constructor
  · intro h
    refine ⟨⟨h.inside, h.valid, h.decoded, h.uuid_eq, h.incompatible, .inr rfl, h.fixedTable, h.layout⟩, ?_⟩
    rcases h.readonlyCompatible with hw | hro
    · exact hw
    · cases hro
  · rintro ⟨h, hw⟩
    exact ⟨h.inside, h.valid, h.decoded, h.uuid_eq, h.incompatible, .inl hw, h.fixedTable, h.layout⟩

lemma inactive_isPage (off : Nat) : IsPage (scoInactiveSuperblockOffset off) := by
  unfold IsPage scoInactiveSuperblockOffset
  split
  · exact .inr rfl
  · exact .inl rfl

lemma inactive_ne (off : Nat) : scoInactiveSuperblockOffset off ≠ off := by
  unfold scoInactiveSuperblockOffset
  split
  · next h =>
    rw [h]
    decide
  · next h => exact fun heq => h heq.symm

lemma inactive_inactive (h : IsPage off) :
    scoInactiveSuperblockOffset (scoInactiveSuperblockOffset off) = off := by
  rcases h with rfl | rfl <;> decide

lemma isPage_cases {off' : Nat} (h : IsPage off) (h' : IsPage off') :
    off' = off ∨ off' = scoInactiveSuperblockOffset off := by
  rcases h with rfl | rfl <;> rcases h' with rfl | rfl <;> decide

def Superblock.Beats (sb : Superblock) (off : Nat) (other : Superblock) : Prop :=
  (off = SCO_SUPERBLOCK_A_OFFSET ∧ other.generation ≤ sb.generation) ∨
    (off = SCO_SUPERBLOCK_B_OFFSET ∧ other.generation < sb.generation)

lemma select_iff {readonly : Bool} : scoSelectSuperblock f readonly uuid fileSize = .ok (sb, off) ↔
    IsPage off ∧ scoReadSuperblock f off readonly uuid fileSize = .ok sb ∧ ∀ other,
    scoReadSuperblock f (scoInactiveSuperblockOffset off) readonly uuid fileSize = .ok other →
    sb.Beats off other := by
  have hA : scoInactiveSuperblockOffset SCO_SUPERBLOCK_A_OFFSET = SCO_SUPERBLOCK_B_OFFSET := if_pos rfl
  have hB : scoInactiveSuperblockOffset SCO_SUPERBLOCK_B_OFFSET = SCO_SUPERBLOCK_A_OFFSET :=
    if_neg (by decide)
  have hne : SCO_SUPERBLOCK_A_OFFSET ≠ SCO_SUPERBLOCK_B_OFFSET := by decide
  simp only [scoSelectSuperblock]
  rcases ha : scoReadSuperblock f SCO_SUPERBLOCK_A_OFFSET readonly uuid fileSize with e | a <;> rcases hb :
    scoReadSuperblock f SCO_SUPERBLOCK_B_OFFSET readonly uuid fileSize with e' | b <;> constructor
  · rintro ⟨⟩
  · rintro ⟨rfl | rfl, hread, -⟩
    · rw [ha] at hread
      cases hread
    · rw [hb] at hread
      cases hread
  · rintro ⟨⟩
    refine ⟨.inr rfl, hb, fun other hother => ?_⟩
    rw [hB, ha] at hother
    cases hother
  · rintro ⟨rfl | rfl, hread, -⟩
    · rw [ha] at hread
      cases hread
    · rw [hb] at hread
      cases hread
      rfl
  · rintro ⟨⟩
    refine ⟨.inl rfl, ha, fun other hother => ?_⟩
    rw [hA, hb] at hother
    cases hother
  · rintro ⟨rfl | rfl, hread, -⟩
    · rw [ha] at hread
      cases hread
      rfl
    · rw [hb] at hread
      cases hread
  · intro h
    dsimp only at h
    split_ifs at h with hlt
    · cases h
      refine ⟨.inr rfl, hb, fun other hother => .inr ⟨rfl, ?_⟩⟩
      rw [hB, ha] at hother
      cases hother
      exact hlt
    · cases h
      refine ⟨.inl rfl, ha, fun other hother => .inl ⟨rfl, ?_⟩⟩
      rw [hA, hb] at hother
      cases hother
      exact not_lt.mp hlt
  · rintro ⟨rfl | rfl, hread, hbeats⟩
    · rw [ha] at hread
      cases hread
      rcases hbeats b (hA.symm ▸ hb) with ⟨-, hle⟩ | ⟨heq, -⟩
      · exact if_neg (not_lt.mpr hle)
      · exact absurd heq hne
    · rw [hb] at hread
      cases hread
      rcases hbeats a (hB.symm ▸ ha) with ⟨heq, -⟩ | ⟨-, hlt⟩
      · exact absurd heq.symm hne
      · exact if_pos hlt

/-- The other page holds a superblock that a read-write open accepts. -/
def OtherReads (f : File) (off : Nat) (uuid : List UInt8) (fileSize : Nat) : Prop :=
  ∃ sb, scoReadSuperblock f (scoInactiveSuperblockOffset off) false uuid fileSize = .ok sb

def ModesAgree (f : File) (uuid : List UInt8) (fileSize : Nat) (sb : Superblock) (off : Nat) :
    Prop :=
  (∃ e, scoSelectSuperblock f false uuid fileSize = .error e) ∨
    scoSelectSuperblock f false uuid fileSize = .ok (sb, off)

lemma select_writable (h : scoSelectSuperblock f true uuid fileSize = .ok (sb, off))
    (hw : sb.Writable) : scoSelectSuperblock f false uuid fileSize = .ok (sb, off) := by
  obtain ⟨hoff, hread, hbeats⟩ := select_iff.mp h
  exact select_iff.mpr ⟨hoff, readSuperblock_writable_iff.mpr ⟨hread, hw⟩, fun other hother =>
    hbeats other (readSuperblock_writable_iff.mp hother).1⟩

/-- A read-only open keeps the choice unless a page that only it reads is newer. -/
lemma select_readonly_iff (h : scoSelectSuperblock f false uuid fileSize = .ok (sb, off)) :
    scoSelectSuperblock f true uuid fileSize = .ok (sb, off) ↔
      ∀ other, scoReadSuperblock f (scoInactiveSuperblockOffset off) true uuid fileSize = .ok other →
        ¬ other.Writable → sb.Beats off other := by
  obtain ⟨hoff, hread, hbeats⟩ := select_iff.mp h
  constructor
  · exact fun hro other hother _ => (select_iff.mp hro).2.2 other hother
  · refine fun hnew => select_iff.mpr ⟨hoff, (readSuperblock_writable_iff.mp hread).1, ?_⟩
    intro other hother
    by_cases hw : other.Writable
    · exact hbeats other (readSuperblock_writable_iff.mpr ⟨hother, hw⟩)
    · exact hnew other hother hw

lemma select_not_writable (h : scoSelectSuperblock f true uuid fileSize = .ok (sb, off))
    (hw : ¬ sb.Writable) {sb' : Superblock} {off' : Nat} :
    scoSelectSuperblock f false uuid fileSize = .ok (sb', off') ↔ off' = scoInactiveSuperblockOffset off ∧
    scoReadSuperblock f off' false uuid fileSize = .ok sb' := by
  obtain ⟨hoff, hread, -⟩ := select_iff.mp h
  have hno : ∀ sb', scoReadSuperblock f off false uuid fileSize ≠ .ok sb' := by
    intro sb' hread'
    obtain ⟨hread'', hw'⟩ := readSuperblock_writable_iff.mp hread'
    rw [hread] at hread''
    cases hread''
    exact hw hw'
  constructor
  · intro hsel
    obtain ⟨hoff', hread', -⟩ := select_iff.mp hsel
    rcases isPage_cases hoff hoff' with rfl | rfl
    · exact absurd hread' (hno sb')
    · exact ⟨rfl, hread'⟩
  · rintro ⟨rfl, hread'⟩
    refine select_iff.mpr ⟨inactive_isPage off, hread', fun other hother => ?_⟩
    rw [inactive_inactive hoff] at hother
    exact absurd hother (hno other)

/-- A read-write open that does not fail selects what a read-only one does, unless that is not
writable and the other page is. -/
theorem select_modes_agree_iff (h : scoSelectSuperblock f true uuid fileSize = .ok (sb, off)) :
    ModesAgree f uuid fileSize sb off ↔ (sb.Writable ∨ ¬ OtherReads f off uuid fileSize) := by
  by_cases hw : sb.Writable
  · exact iff_of_true (.inr (select_writable h hw)) (.inl hw)
  constructor
  · intro hagree
    refine .inr fun ⟨sb', hread'⟩ => ?_
    have hsel := (select_not_writable h hw).mpr ⟨rfl, hread'⟩
    rcases hagree with ⟨e, he⟩ | hsame
    · rw [hsel] at he
      cases he
    · rw [hsel] at hsame
      exact inactive_ne off (congrArg Prod.snd (Except.ok.inj hsame))
  · intro hno
    cases hsel : scoSelectSuperblock f false uuid fileSize with
    | error e => exact .inl ⟨e, hsel⟩
    | ok x =>
      obtain ⟨hoff, hread⟩ := (select_not_writable h hw).mp hsel
      rw [hoff] at hread
      exact absurd ⟨x.1, hread⟩ (hno.resolve_left hw)

end

section
variable (sb : Superblock)

/-- The small image with another superblock in its second page. -/
abbrev rewritten : File := smallFile.pwrite SCO_SUPERBLOCK_B_OFFSET (superblockPage sb)

lemma rewritten_outside {i : Nat}
    (h : i < SCO_SUPERBLOCK_B_OFFSET ∨ SCO_SUPERBLOCK_B_OFFSET + SCO_SUPERBLOCK_SIZE ≤ i) :
    (rewritten sb).byte i = smallFile.byte i := by
  refine put_outside ?_
  rw [superblockPage, get_length]
  exact h

lemma rewritten_size : (rewritten sb).size = 0x40000 := by
  have hlen : (superblockPage sb).length = SCO_SUPERBLOCK_SIZE := get_length ..
  have hne : superblockPage sb ≠ [] := List.length_pos_iff.mp (by rw [hlen]; decide)
  simp only [File.pwrite, if_neg hne, hlen]
  rfl

lemma rewritten_pageA :
    get (shift (rewritten sb).byte SCO_SUPERBLOCK_A_OFFSET) 0 SCO_SUPERBLOCK_SIZE =
      get (shift smallFile.byte SCO_SUPERBLOCK_A_OFFSET) 0 SCO_SUPERBLOCK_SIZE := by
  rw [get_shift, get_shift]
  exact get_congr fun i _ hi => rewritten_outside sb (.inl hi)

lemma rewritten_pageB :
    get (shift (rewritten sb).byte SCO_SUPERBLOCK_B_OFFSET) 0 SCO_SUPERBLOCK_SIZE = superblockPage sb := by
  have hput := get_put_same smallFile.byte SCO_SUPERBLOCK_B_OFFSET (superblockPage sb)
  rw [superblockPage, get_length] at hput
  rw [get_shift, add_zero]
  exact hput

end

def newerSuperblock : Superblock := smallSuperblock.retag 2 2

def forkedFile : File := smallFile.pwrite SCO_SUPERBLOCK_B_OFFSET (superblockPage newerSuperblock)

lemma forkedFile_pageA (readonly : Bool) :
    scoReadSuperblock forkedFile SCO_SUPERBLOCK_A_OFFSET readonly smallSuperblock.imageUuid
      forkedFile.size = .ok smallSuperblock := by
  have hpage : scoSuperblockPageValid (shift smallFile.byte SCO_SUPERBLOCK_A_OFFSET) = true ∧
      scoDecodeSuperblock (shift smallFile.byte SCO_SUPERBLOCK_A_OFFSET) = smallSuperblock :=
    createdFile_decode (by decide) small_layout (by decide)
  have hsame := rewritten_pageA newerSuperblock
  have hsize : forkedFile.size = 0x40000 := rewritten_size _
  have hs := small_disk.1
  rw [readSuperblock_iff, hsize]
  exact ⟨by rw [hsize]; decide, (superblockPageValid_congr hsame).trans hpage.1,
    (decodeSuperblock_congr hsame).trans hpage.2, rfl, hs.incompatible,
    .inl hs.readonlyCompatible, hs.fixedTable, small_valid⟩

lemma forkedFile_pageB :
    scoReadSuperblock forkedFile SCO_SUPERBLOCK_B_OFFSET true smallSuperblock.imageUuid
      forkedFile.size = .ok newerSuperblock := by
  have hs := small_disk.1
  have hfits : newerSuperblock.Fits := hs.fits.retag (by decide) (by decide)
  have hsame := rewritten_pageB newerSuperblock
  have hsize : forkedFile.size = 0x40000 := rewritten_size _
  rw [readSuperblock_iff, hsize]
  exact ⟨by rw [hsize]; decide, (superblockPageValid_congr hsame).trans
    (pageValid_built hfits), (decodeSuperblock_congr hsame).trans (decode_built hfits), rfl,
    hs.incompatible, .inr rfl, hs.fixedTable, small_valid⟩

lemma newerSuperblock_not_writable : ¬ newerSuperblock.Writable := by
  change ¬ unsupported 2 SCO_RO_COMPAT_SUPPORTED = 0
  decide

lemma select_forkedFile :
    scoSelectSuperblock forkedFile true smallSuperblock.imageUuid forkedFile.size =
      .ok (newerSuperblock, SCO_SUPERBLOCK_B_OFFSET) := by
  refine select_iff.mpr ⟨.inr rfl, forkedFile_pageB, fun other hother => .inr ⟨rfl, ?_⟩⟩
  rw [show scoInactiveSuperblockOffset SCO_SUPERBLOCK_B_OFFSET = SCO_SUPERBLOCK_A_OFFSET from
    if_neg (by decide), forkedFile_pageA] at hother
  cases hother
  exact Nat.lt_succ_self 1

lemma select_small_readonly : ∃ sb off,
    scoSelectSuperblock smallFile true smallSuperblock.imageUuid smallFile.size = .ok (sb, off) ∧
    sb.Writable := by
  obtain ⟨hs, hdisk⟩ := small_disk
  obtain ⟨g, r, off, hsel, -, -, -, hsup⟩ := hdisk.select hs true
  exact ⟨_, _, hsel, hsup⟩

/-- The modes agree on the small image, and not where both of its pages can be read. -/
theorem select_modes_agree_iff_small : (∃ sb off,
    scoSelectSuperblock smallFile true smallSuperblock.imageUuid smallFile.size = .ok (sb, off) ∧
    ModesAgree smallFile smallSuperblock.imageUuid smallFile.size sb off) ∧
    ¬ ModesAgree forkedFile smallSuperblock.imageUuid forkedFile.size newerSuperblock
      SCO_SUPERBLOCK_B_OFFSET := by
  obtain ⟨sb, off, hsel, hw⟩ := select_small_readonly
  refine ⟨⟨sb, off, hsel, (select_modes_agree_iff hsel).mpr (.inl hw)⟩, fun hagree => ?_⟩
  rcases (select_modes_agree_iff select_forkedFile).mp hagree with hw | hother
  · exact newerSuperblock_not_writable hw
  · exact hother ⟨smallSuperblock, forkedFile_pageA false⟩

/-- The read-write open falls back to the older superblock. -/
theorem readwrite_open_falls_back :
    scoSelectSuperblock forkedFile true smallSuperblock.imageUuid forkedFile.size =
      .ok (newerSuperblock, SCO_SUPERBLOCK_B_OFFSET) ∧
    scoSelectSuperblock forkedFile false smallSuperblock.imageUuid forkedFile.size =
      .ok (smallSuperblock, SCO_SUPERBLOCK_A_OFFSET) ∧
    smallSuperblock.generation < newerSuperblock.generation :=
  ⟨select_forkedFile, (select_not_writable select_forkedFile newerSuperblock_not_writable).mpr
    ⟨by decide, forkedFile_pageA false⟩, Nat.lt_succ_self 1⟩

end ScorpiHv.Sco

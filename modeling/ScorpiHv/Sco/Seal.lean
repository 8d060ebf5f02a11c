import ScorpiHv.Sco.Crash
import ScorpiHv.Sco.Modes

/-!
# Sealing an image

What a later open finds after `scorpi_image_sco_set_sealed` returned 0.
-/

namespace ScorpiHv.Sco
open Bytes

lemma decode_fits (buf : Store) : (scoDecodeSuperblock buf).Fits where
  generation := leDec_get_lt buf 0x18 8
  virtualSize := leDec_get_lt buf 0x20 8
  logicalSectorSize := leDec_get_lt buf 0x28 4
  physicalSectorSize := leDec_get_lt buf 0x2c 4
  clusterSize := leDec_get_lt buf 0x30 4
  clusterCount := leDec_get_lt buf 0x38 8
  dataAreaOffset := leDec_get_lt buf 0x48 8
  baseDescriptorOffset := leDec_get_lt buf 0x50 8
  baseDescriptorLength := leDec_get_lt buf 0x58 4
  tableOffset := leDec_get_lt buf 0x60 8
  tableLength := leDec_get_lt buf 0x68 4
  incompatibleFeatures := leDec_get_lt buf 0x70 4
  readonlyCompatibleFeatures := leDec_get_lt buf 0x74 4
  compatibleFeatures := leDec_get_lt buf 0x78 4
  imageUuid := get_length ..
  imageDigest := get_length ..

variable {sb : Superblock}

lemma Superblock.Writable.features (h : sb.Writable) (hlt : sb.readonlyCompatibleFeatures < 2 ^ 32) :
    sb.readonlyCompatibleFeatures = if sb.isSealed then 1 else 0 := by
  have hmask : UINT32_MAX = (UINT32_MAX ^^^ SCO_RO_COMPAT_SUPPORTED) ||| 1 := by decide
  have hall : sb.readonlyCompatibleFeatures &&& UINT32_MAX = sb.readonlyCompatibleFeatures :=
    (Nat.and_two_pow_sub_one_eq_mod _ 32).trans (Nat.mod_eq_of_lt hlt)
  have hw : sb.readonlyCompatibleFeatures &&& (UINT32_MAX ^^^ SCO_RO_COMPAT_SUPPORTED) = 0 := h
  have hone : sb.readonlyCompatibleFeatures &&& 1 = sb.readonlyCompatibleFeatures := by
    calc sb.readonlyCompatibleFeatures &&& 1
        = 0 ||| (sb.readonlyCompatibleFeatures &&& 1) := (Nat.zero_or _).symm
      _ = sb.readonlyCompatibleFeatures &&& UINT32_MAX := by rw [hmask, Nat.and_or_distrib_left, hw]
      _ = sb.readonlyCompatibleFeatures := hall
  have hle : sb.readonlyCompatibleFeatures ≤ 1 := by
    rw [← hone]
    exact Nat.and_le_right
  have hsealed : sb.isSealed = (sb.readonlyCompatibleFeatures != 0) := by
    rw [Superblock.isSealed, SCO_RO_COMPAT_SEALED, hone]
  rw [hsealed]
  rcases Nat.le_one_iff_eq_zero_or_eq_one.mp hle with h0 | h1
  · rw [h0]
    rfl
  · rw [h1]
    rfl

lemma resealed_eq (h : sb.Writable) (hlt : sb.readonlyCompatibleFeatures < 2 ^ 32) (isSealed : Bool) :
    sb.resealed isSealed = sb.retag ((sb.generation + 1) % 2 ^ 64) (if isSealed then 1 else 0) := by
  have hzero : unsupported sb.readonlyCompatibleFeatures SCO_RO_COMPAT_SEALED = 0 := h
  cases isSealed with
  | false => simp only [Superblock.resealed, Superblock.retag, hzero, Bool.false_eq_true, if_false]
  | true =>
    have hor : sb.readonlyCompatibleFeatures ||| SCO_RO_COMPAT_SEALED = 1 := by
      rw [h.features hlt]
      cases sb.isSealed <;> rfl
    simp only [Superblock.resealed, Superblock.retag, if_true, hor]

lemma setSealed_ok {s : Image} {isSealed : Bool} {plan : List Fault} {w : Sys Image}
    (h : exec (scorpiImageScoSetSealed isSealed) ⟨s, plan⟩ = (.ok (), w)) :
    s.sb.Writable ∧ ((s.sb.isSealed = isSealed ∧ w = ⟨s, plan⟩) ∨
      (s.sb.isSealed ≠ isSealed ∧ w.st = (Event.reseal isSealed).apply s)) := by
  simp only [scorpiImageScoSetSealed, exec_bind, exec_state, exec_ite, exec_throw, exec_pure] at h
  split_ifs at h with hsup hsame hro
  · cases h
  · cases h
    exact ⟨not_not.mp hsup, .inl ⟨hsame, rfl⟩⟩
  · cases h
  refine ⟨not_not.mp hsup, .inr ⟨hsame, ?_⟩⟩
  have hne : superblockPage (s.sb.resealed isSealed) ≠ [] :=
    List.length_pos_iff.mp (by rw [superblockPage_length]; decide)
  simp only [scoCommitSuperblock, exec_bind, exec_state, exec_update] at h
  generalize hx : exec (recordFailure _ _) _ = x at h
  obtain ⟨res, w1⟩ := x
  rcases recordFailure_run hne hx with ⟨rfl, hst, -⟩ | ⟨⟨err, rfl⟩, -⟩
  · cases h
    simp only [hst]
    rfl
  · cases h

lemma setSealed_again {s : Image} {isSealed : Bool} (hw : s.sb.Writable)
    (hsealed : s.sb.isSealed = isSealed) (plan : List Fault) :
    exec (scorpiImageScoSetSealed isSealed) ⟨s, plan⟩ = (.ok (), ⟨s, plan⟩) := by
  simp only [scorpiImageScoSetSealed, exec_bind, exec_state, exec_ite, exec_pure]
  have hsup : unsupported s.sb.readonlyCompatibleFeatures SCO_RO_COMPAT_SUPPORTED = 0 := hw
  rw [if_neg (not_not.mpr hsup), if_pos hsealed]

def Superblock.SameImage (a b : Superblock) : Prop :=
  (a.retag 0 0).asRead = (b.retag 0 0).asRead ∧
    unsupported a.readonlyCompatibleFeatures SCO_RO_COMPAT_SEALED =
      unsupported b.readonlyCompatibleFeatures SCO_RO_COMPAT_SEALED

def Reseals (g : File) (readonly : Bool) (old : Superblock) (isSealed : Bool) : Prop :=
  ∃ uuid sb off, scoReadFileId g = .ok uuid ∧
    scoSelectSuperblock g readonly uuid g.size = .ok (sb, off) ∧ sb.isSealed = isSealed ∧
    sb.SameImage old

section
variable {f : File} {readonly isSealed : Bool} {s : Image}

def resealedFile (f : File) (s : Image) (isSealed : Bool) : File :=
  f.pwrite s.pageOffset (superblockPage (s.sb.resealed isSealed))

lemma reseal_file (hfd : s.fd = ⟨f, []⟩) :
    ((Event.reseal isSealed).apply s).fd.file = resealedFile f s isSealed := by
  simp only [Event.apply, push_fd, Handle.push_file, Effect.apply, hfd]
  rfl

variable (ho : Opened f readonly s)
include ho

lemma Opened.size_resealed : (resealedFile f s isSealed).size = f.size := by
  have hin := page_inside (pageOffset_isPage s)
  have hmin : SCO_MIN_FILE_SIZE = SCO_METADATA_AREA_OFFSET := rfl
  have hsize := ho.size
  have hlen := superblockPage_length (s.sb.resealed isSealed)
  simp only [resealedFile, File.pwrite]
  split <;> omega

lemma Opened.isPage : IsPage s.activeSuperblockOffset := by
  obtain ⟨uuid, -, hsel⟩ := ho.superblock
  exact (select_iff.mp hsel).1

lemma Opened.fits : s.sb.Fits := by
  obtain ⟨uuid, -, hsel⟩ := ho.superblock
  rw [← (readSuperblock_iff.mp (select_iff.mp hsel).2.1).decoded]
  exact decode_fits _

variable {uuid : List UInt8}

lemma Opened.fileId_resealed (huuid : scoReadFileId f = .ok uuid) :
    scoReadFileId (resealedFile f s isSealed) = .ok uuid := by
  have hmin : SCO_FILE_ID_SIZE ≤ SCO_MIN_FILE_SIZE := by decide
  have hin := page_inside (pageOffset_isPage s)
  have hsize := ho.size
  rw [← huuid]
  refine fileId_congr (by omega) ?_ (get_put_disjoint (by omega))
  rw [ho.size_resealed]
  omega

lemma Opened.active_resealed (hw : s.sb.Writable) (mode : Bool)
    (hread : scoReadSuperblock f s.activeSuperblockOffset readonly uuid f.size = .ok s.sb) :
    scoReadSuperblock (resealedFile f s isSealed) s.activeSuperblockOffset mode uuid f.size = .ok s.sb := by
  have hfacts := readSuperblock_iff.mp hread
  have hlen := superblockPage_length (s.sb.resealed isSealed)
  have hsame : get (shift (resealedFile f s isSealed).byte s.activeSuperblockOffset) 0
      SCO_SUPERBLOCK_SIZE = get (shift f.byte s.activeSuperblockOffset) 0 SCO_SUPERBLOCK_SIZE := by
    rw [get_shift, get_shift]
    refine get_put_disjoint ?_
    have hapart := active_page_apart ho.isPage
    omega
  rw [readSuperblock_iff]
  refine ⟨?_, (superblockPageValid_congr hsame).trans hfacts.valid,
    (decodeSuperblock_congr hsame).trans hfacts.decoded, hfacts.uuid_eq, hfacts.incompatible,
    .inl hw, hfacts.fixedTable, hfacts.layout⟩
  rw [ho.size_resealed]
  exact hfacts.inside

lemma Opened.page_resealed (hw : s.sb.Writable) (mode : Bool)
    (hread : scoReadSuperblock f s.activeSuperblockOffset readonly uuid f.size = .ok s.sb) :
    scoReadSuperblock (resealedFile f s isSealed) s.pageOffset mode uuid f.size =
      .ok (s.sb.resealed isSealed).asRead := by
  have hfacts := readSuperblock_iff.mp hread
  have hfeat : (if isSealed then 1 else 0) < 2 ^ 32 := by cases isSealed <;> decide
  have heq := resealed_eq hw ho.fits.readonlyCompatibleFeatures isSealed
  have hfits : (s.sb.resealed isSealed).Fits := by
    rw [heq]
    exact ho.fits.retag (Nat.mod_lt _ (by decide)) hfeat
  have hpage : get (shift (resealedFile f s isSealed).byte s.pageOffset) 0 SCO_SUPERBLOCK_SIZE =
      get (scoBuildSuperblock (s.sb.resealed isSealed)) 0 SCO_SUPERBLOCK_SIZE := by
    have hput := get_put_same f.byte s.pageOffset (superblockPage (s.sb.resealed isSealed))
    rw [superblockPage_length] at hput
    rw [get_shift, add_zero, resealedFile, File.pwrite_byte, hput, superblockPage]
  have hsup : unsupported (if isSealed then 1 else 0) SCO_RO_COMPAT_SUPPORTED = 0 := by
    cases isSealed <;> decide
  rw [readSuperblock_iff]
  refine ⟨?_, (superblockPageValid_congr hpage).trans (pageValid_built hfits),
    (decodeSuperblock_congr hpage).trans (decode_built hfits), hfacts.uuid_eq,
    hfacts.incompatible, .inl ?_, hfacts.fixedTable, hfacts.layout⟩
  · have hin := page_inside (pageOffset_isPage s)
    have hmin : SCO_MIN_FILE_SIZE = SCO_METADATA_AREA_OFFSET := rfl
    have hsize := ho.size
    rw [ho.size_resealed]
    omega
  · rw [heq]
    exact hsup

lemma Opened.select_active : scoSelectSuperblock f readonly s.sb.imageUuid f.size =
    .ok (s.sb, s.activeSuperblockOffset) := by
  obtain ⟨uuid, -, hsel⟩ := ho.superblock
  rw [(readSuperblock_iff.mp (select_iff.mp hsel).2.1).uuid_eq]
  exact hsel

lemma Opened.read_active : scoReadFileId f = .ok s.sb.imageUuid ∧
    scoReadSuperblock f s.activeSuperblockOffset readonly s.sb.imageUuid f.size = .ok s.sb := by
  obtain ⟨uuid, huuid, hsel⟩ := ho.superblock
  have hread := (select_iff.mp hsel).2.1
  rw [(readSuperblock_iff.mp hread).uuid_eq]
  exact ⟨huuid, hread⟩

lemma Opened.select_new (hw : s.sb.Writable) (hgen : s.sb.generation + 1 < 2 ^ 64) (mode : Bool) :
    scoSelectSuperblock (resealedFile f s isSealed) mode s.sb.imageUuid f.size =
      .ok ((s.sb.resealed isSealed).asRead, s.pageOffset) := by
  obtain ⟨-, hread⟩ := ho.read_active
  refine select_iff.mpr ⟨pageOffset_isPage s, ho.page_resealed hw mode hread, fun other hother => ?_⟩
  rw [Image.pageOffset, inactive_inactive ho.isPage, ho.active_resealed hw mode hread] at hother
  cases hother
  have hlt : s.sb.generation < (s.sb.resealed isSealed).asRead.generation := by
    change _ < (s.sb.generation + 1) % 2 ^ 64
    rw [Nat.mod_eq_of_lt hgen]
    exact Nat.lt_succ_self _
  exact (pageOffset_isPage s).imp (fun h => ⟨h, le_of_lt hlt⟩) fun h => ⟨h, hlt⟩

lemma Opened.select_old (hw : s.sb.Writable) (hgen : s.sb.generation = UINT64_MAX) (mode : Bool) :
    scoSelectSuperblock (resealedFile f s isSealed) mode s.sb.imageUuid f.size =
      .ok (s.sb, s.activeSuperblockOffset) := by
  obtain ⟨-, hread⟩ := ho.read_active
  refine select_iff.mpr ⟨ho.isPage, ho.active_resealed hw mode hread, fun other hother => ?_⟩
  change scoReadSuperblock _ s.pageOffset mode _ _ = _ at hother
  rw [ho.page_resealed hw mode hread] at hother
  cases hother
  have hlt : (s.sb.resealed isSealed).asRead.generation < s.sb.generation := by
    change (s.sb.generation + 1) % 2 ^ 64 < _
    rw [hgen]
    decide
  exact ho.isPage.imp (fun h => ⟨h, le_of_lt hlt⟩) fun h => ⟨h, hlt⟩

end

lemma scoOpen_sealed {f : File} {uuid : List UInt8} {off : Nat} (hsize : SCO_MIN_FILE_SIZE ≤ f.size)
    (huuid : scoReadFileId f = .ok uuid) (hsel : scoSelectSuperblock f false uuid f.size = .ok (sb, off))
    (hsealed : sb.isSealed = true) : scoOpen f false = .error .erofs := by
  simp only [scoOpen, if_neg (not_lt.mpr hsize), huuid, hsel, except_ok_bind, hsealed, and_self, if_true]

lemma asRead_asRead (sb : Superblock) : sb.asRead.asRead = sb.asRead := by
  cases hd : sb.hasImageDigest <;> simp [Superblock.asRead, hd]

lemma resealed_asRead (hw : sb.Writable) (hlt : sb.readonlyCompatibleFeatures < 2 ^ 32) (isSealed : Bool) :
    (sb.resealed isSealed).asRead.isSealed = isSealed ∧ (sb.resealed isSealed).asRead.SameImage sb := by
  rw [resealed_eq hw hlt]
  have hbit : ∀ v : Bool, ((if v then 1 else 0) &&& SCO_RO_COMPAT_SEALED != 0) = v := by decide
  have hrest : ∀ v : Bool, unsupported (if v then 1 else 0) SCO_RO_COMPAT_SEALED = 0 := by decide
  have hzero : unsupported sb.readonlyCompatibleFeatures SCO_RO_COMPAT_SEALED = 0 := hw
  exact ⟨hbit isSealed, asRead_asRead (sb.retag 0 0), (hrest isSealed).trans hzero.symm⟩

/-- What a re-open of an unchanged image selects: the page that a read-write open skips has another
feature word, so it never is the same image. -/
lemma reseals_unchanged_iff {f : File} {uuid : List UInt8} {off : Nat} (huuid : scoReadFileId f = .ok uuid)
    (hrw : scoSelectSuperblock f false uuid f.size = .ok (sb, off)) (hw : sb.Writable) (mode : Bool) :
    Reseals f mode sb sb.isSealed ↔ (mode = true →
      ∀ other, scoReadSuperblock f (scoInactiveSuperblockOffset off) true uuid f.size = .ok other →
        ¬ other.Writable → sb.Beats off other) := by
  cases mode with
  | false => exact iff_of_true ⟨_, _, _, huuid, hrw, rfl, rfl, rfl⟩ nofun
  | true =>
    constructor
    · rintro ⟨uuid', sb', off', huuid', hsel, -, -, hsame⟩ - other hother hro
      obtain rfl := Except.ok.inj (huuid.symm.trans huuid')
      obtain ⟨hoff', hread', hbeats⟩ := select_iff.mp hsel
      obtain ⟨hoff, hread, -⟩ := select_iff.mp hrw
      rcases isPage_cases hoff hoff' with rfl | rfl
      · obtain rfl := Except.ok.inj ((readSuperblock_writable_iff.mp hread).1.symm.trans hread')
        exact hbeats other hother
      · obtain rfl := Except.ok.inj (hother.symm.trans hread')
        exact absurd (hsame.trans hw) hro
    · exact fun hnew => ⟨_, _, _, huuid, (select_readonly_iff hrw).mpr (hnew rfl), rfl, rfl, rfl⟩

/-- What is known once `scorpi_image_sco_set_sealed` has returned 0. -/
theorem seal_commits {f : File} {readonly isSealed : Bool} {s : Image} {plan : List Fault}
    {w : Sys Image} (hopen : scoOpen f readonly = .ok s)
    (h : exec (scorpiImageScoSetSealed isSealed) ⟨s, plan⟩ = (.ok (), w)) :
    (s.sb.isSealed ≠ isSealed → ∀ mode,
      (Reseals w.st.fd.file mode s.sb isSealed ↔ s.sb.generation ≠ UINT64_MAX)) ∧
    (s.sb.isSealed = isSealed → w = ⟨s, plan⟩ ∧ Reseals w.st.fd.file readonly s.sb isSealed ∧
      ∀ mode, (Reseals w.st.fd.file mode s.sb isSealed ↔ (mode = true →
        ∀ other, scoReadSuperblock f s.pageOffset true s.sb.imageUuid f.size = .ok other →
          ¬ other.Writable → s.sb.Beats s.activeSuperblockOffset other))) ∧
    (∀ plan', exec (scorpiImageScoSetSealed isSealed) ⟨w.st, plan'⟩ = (.ok (), ⟨w.st, plan'⟩)) ∧
    (isSealed = true → (s.sb.isSealed = true ∨ s.sb.generation ≠ UINT64_MAX) →
      scoOpen w.st.fd.file false = .error .erofs) := by
  have ho := opened_of_scoOpen hopen
  obtain ⟨hw, hcases⟩ := setSealed_ok h
  obtain ⟨huuid, hread⟩ := ho.read_active
  have hfits := ho.fits
  have hre := resealed_asRead hw hfits.readonlyCompatibleFeatures isSealed
  rcases hcases with ⟨hsame, rfl⟩ | ⟨hne, hst⟩
  · have hfile : s.fd.file = f := by
      rw [ho.fd_eq]
      rfl
    -- a read-write open selects a writable superblock if a read-only one does
    have hrw : scoSelectSuperblock f false s.sb.imageUuid f.size =
        .ok (s.sb, s.activeSuperblockOffset) := by
      cases readonly with
      | false => exact ho.select_active
      | true => exact select_writable ho.select_active hw
    refine ⟨fun hne => absurd hsame hne, fun _ => ⟨rfl, ?_, fun mode => ?_⟩,
      setSealed_again hw hsame, fun hv _ => ?_⟩
    · rw [hfile]
      exact ⟨_, s.sb, s.activeSuperblockOffset, huuid, ho.select_active, hsame, rfl, rfl⟩
    · rw [hfile, ← hsame]
      exact reseals_unchanged_iff huuid hrw hw mode
    · rw [hfile]
      exact scoOpen_sealed ho.size huuid hrw (hsame.trans hv)
  · have hfile : w.st.fd.file = resealedFile f s isSealed := by
      rw [hst]
      exact reseal_file ho.fd_eq
    have hid : scoReadFileId (resealedFile f s isSealed) = .ok s.sb.imageUuid :=
      ho.fileId_resealed huuid
    have hsize : (resealedFile f s isSealed).size = f.size := ho.size_resealed
    have hnew : s.sb.generation ≠ UINT64_MAX → ∀ mode, scoSelectSuperblock
        (resealedFile f s isSealed) mode s.sb.imageUuid (resealedFile f s isSealed).size =
        .ok ((s.sb.resealed isSealed).asRead, s.pageOffset) := by
      intro hgen mode
      have hlt := hfits.generation
      rw [hsize]
      refine ho.select_new hw ?_ mode
      simp only [UINT64_MAX] at hgen
      omega
    have hsb : w.st.sb = s.sb.resealed isSealed := by
      rw [hst]
      rfl
    rw [hfile]
    refine ⟨fun _ mode => ⟨?_, fun hgen => ⟨_, _, _, hid, hnew hgen mode, hre⟩⟩,
      fun hsame => absurd hsame hne, setSealed_again ?_ ?_, fun hv hgen => ?_⟩
    · rintro ⟨uuid, sb, off, huuid', hsel, hsealed, -⟩ hgen
      obtain rfl := Except.ok.inj (hid.symm.trans huuid')
      rw [hsize, ho.select_old hw hgen mode] at hsel
      cases hsel
      exact hne hsealed
    · rw [hsb]
      exact hre.2.2.trans hw
    · rw [hsb]
      exact hre.1
    · rw [hv] at hne
      refine scoOpen_sealed ?_ hid (hnew (hgen.resolve_left hne) false) (hre.1.trans hv)
      rw [hsize]
      exact ho.size

lemma setSealed_nofail {s : Image} (hw : s.sb.Writable) (hopen : s.sb.isSealed = false)
    (hro : s.readonly = false) : ∃ w, exec (scorpiImageScoSetSealed true) ⟨s, []⟩ = (.ok (), w) := by
  have hsup : unsupported s.sb.readonlyCompatibleFeatures SCO_RO_COMPAT_SUPPORTED = 0 := hw
  have hne : superblockPage (s.sb.resealed true) ≠ [] :=
    List.length_pos_iff.mp (by rw [superblockPage_length]; decide)
  simp only [scorpiImageScoSetSealed, exec_bind, exec_state, exec_ite]
  rw [if_neg (not_not.mpr hsup), if_neg (by rw [hopen]; decide), if_neg (by rw [hro]; decide)]
  simp only [scoCommitSuperblock, exec_bind, exec_state, exec_update]
  generalize hx : exec (recordFailure _ _) _ = x
  obtain ⟨res, w1⟩ := x
  rcases recordFailure_run hne hx with ⟨rfl, -⟩ | ⟨-, hplan, -⟩
  · exact ⟨_, rfl⟩
  · exact absurd rfl hplan

theorem seal_commits_small : ∃ s w, scoOpen smallFile false = .ok s ∧
    exec (scorpiImageScoSetSealed true) ⟨s, []⟩ = (.ok (), w) ∧
    (∀ mode, Reseals w.st.fd.file mode s.sb true) ∧
    scoOpen w.st.fd.file false = .error .erofs := by
  obtain ⟨s, hs⟩ := small_opens false
  obtain ⟨hsb, -, hro, -⟩ := small_fresh hs
  have hw : s.sb.Writable := by
    rw [hsb]
    exact small_disk.1.readonlyCompatible
  have hopen : s.sb.isSealed = false := by
    rw [hsb]
    decide
  have hgen : s.sb.generation ≠ UINT64_MAX := by
    rw [hsb]
    decide
  obtain ⟨w, hrun⟩ := setSealed_nofail hw hopen hro
  have hcommit := seal_commits hs hrun
  refine ⟨s, w, hs, hrun, fun mode => (hcommit.1 ?_ mode).mpr hgen, hcommit.2.2.2 rfl (.inr hgen)⟩
  rw [hopen]
  decide

def lastSuperblock : Superblock := smallSuperblock.retag UINT64_MAX 0

def lastFile : File := smallFile.pwrite SCO_SUPERBLOCK_B_OFFSET (superblockPage lastSuperblock)

lemma lastSuperblock_sound : lastSuperblock.Sound :=
  small_disk.1.retag (by decide) (by decide) (by decide)

lemma lastFile_disk : DiskOk lastFile smallSuperblock (fun _ => .unmapped) none := by
  obtain ⟨hs, hdisk⟩ := small_disk
  have hbuilt := page_built lastSuperblock_sound (rewritten_pageB _)
  have hB : SCO_FILE_ID_SIZE ≤ SCO_SUPERBLOCK_B_OFFSET := by decide
  have hend : SCO_SUPERBLOCK_B_OFFSET + SCO_SUPERBLOCK_SIZE ≤ SCO_METADATA_AREA_OFFSET := by decide
  have hsize : lastFile.size = smallFile.size := rewritten_size _
  refine hdisk.rewrite hs (le_of_eq hsize.symm) ?_ (fun i hi => ?_) (fun i hi _ => ?_)
    (fun off hoff => ?_) ⟨_, .inr rfl, hbuilt.1⟩ fun c hc => ?_
  · rw [hsize]
    exact hdisk.size_le
  · exact rewritten_outside _ (.inl (lt_of_lt_of_le hi hB))
  · exact rewritten_outside _ (.inr (le_trans hend hi))
  · rcases hoff with rfl | rfl
    · exact (hdisk.pages _ (.inl rfl)).congr (rewritten_pageA _)
    · exact .inr ⟨_, _, hbuilt.2, lastSuperblock_sound.readonlyCompatible⟩
  · refine (hdisk.slots c hc).congr fun i => get_congr fun j hj _ => rewritten_outside _ (.inr ?_)
    have hge := hs.layoutOk.slot_ge c i
    omega

lemma lastFile_decode {off : Nat} (hoff : IsPage off) :
    scoDecodeSuperblock (shift lastFile.byte off) =
      if off = SCO_SUPERBLOCK_A_OFFSET then smallSuperblock else lastSuperblock := by
  rcases hoff with rfl | rfl
  · have hsmall : scoDecodeSuperblock (shift smallFile.byte SCO_SUPERBLOCK_A_OFFSET) =
        smallSuperblock := (createdFile_decode (by decide) small_layout (by decide)).2
    rw [if_pos rfl, ← hsmall]
    exact decodeSuperblock_congr (rewritten_pageA _)
  · exact (page_built lastSuperblock_sound (rewritten_pageB _)).2

lemma lastFile_opens : ∃ s, scoOpen lastFile false = .ok s := by
  refine lastFile_disk.scoOpen_ok small_disk.1 ⟨nofun, nofun, nofun⟩ fun _ off hoff _ => ?_
  rw [lastFile_decode hoff]
  split <;> decide

lemma lastFile_fresh {s : Image} (h : scoOpen lastFile false = .ok s) : s.sb = lastSuperblock := by
  have ho := opened_of_scoOpen h
  obtain ⟨hoff, hread, hbeats⟩ := select_iff.mp ho.select_active
  have hdec := (readSuperblock_iff.mp hread).decoded
  rw [lastFile_decode hoff] at hdec
  split at hdec
  case isFalse => exact hdec.symm
  case isTrue hA =>
    -- the first page would have to hold the greater generation
    have hvalid := (page_built lastSuperblock_sound (rewritten_pageB _)).1
    obtain ⟨g, r, hlast, -, hother⟩ := lastFile_disk.readPage small_disk.1 (.inr rfl) hvalid false
    rw [lastFile_decode (.inr rfl), if_neg (by decide)] at hlast
    have hbeat : s.sb.Beats s.activeSuperblockOffset (smallSuperblock.retag g r) := by
      refine hbeats _ ?_
      rw [hA, scoInactiveSuperblockOffset, if_pos rfl, ← hdec]
      exact hother
    rw [← hlast, ← hdec] at hbeat
    rcases hbeat with ⟨-, hle⟩ | ⟨-, hlt⟩
    · exact absurd hle (by decide)
    · exact absurd hlt (by decide)

/-- Sealing at the last generation returns 0, and every open selects the unsealed superblock. -/
theorem seal_lost_at_last_generation : ∃ s w, scoOpen lastFile false = .ok s ∧
    exec (scorpiImageScoSetSealed true) ⟨s, []⟩ = (.ok (), w) ∧ s.sb.isSealed = false ∧
    ∀ mode, scoSelectSuperblock w.st.fd.file mode s.sb.imageUuid w.st.fd.file.size =
      .ok (s.sb, s.activeSuperblockOffset) := by
  obtain ⟨s, hs⟩ := lastFile_opens
  have ho := opened_of_scoOpen hs
  have hsb := lastFile_fresh hs
  have hw : s.sb.Writable := by
    rw [hsb]
    exact lastSuperblock_sound.readonlyCompatible
  have hun : s.sb.isSealed = false := by
    rw [hsb]
    decide
  have hgen : s.sb.generation = UINT64_MAX := by
    rw [hsb]
    rfl
  obtain ⟨w, hrun⟩ := setSealed_nofail hw hun ho.readonly_eq
  refine ⟨s, w, hs, hrun, hun, fun mode => ?_⟩
  rcases (setSealed_ok hrun).2 with ⟨hsame, -⟩ | ⟨-, hst⟩
  · rw [hun] at hsame
    cases hsame
  · rw [hst, reseal_file ho.fd_eq, ho.size_resealed]
    exact ho.select_old hw hgen mode

end ScorpiHv.Sco

import ScorpiHv.Sco.Safety

/-!
# Failed writes and the allocator

A write to a cluster that is not mapped takes a physical cluster first. No path gives it
back when the data, the flush before the commit or the commit fails.
-/

namespace ScorpiHv.Sco
open Bytes

def Image.Marked (s : Image) (i : Nat) : Prop :=
  i < s.dataClusterCount ∧ s.dataClusterUsed i = true

def Keeps (s t : Image) : Prop := ∀ i, t.Marked i ↔ s.Marked i

def Takes (s t : Image) : Prop := ∃ i, ¬ s.Marked i ∧ ∀ j, t.Marked j ↔ s.Marked j ∨ j = i

/-- The physical cluster that the next allocation chooses. -/
def Image.nextCluster (s : Image) : Nat :=
  match findUnused s with
  | some index =>
    if s.dataClusterBase + index = 0 then s.dataClusterBase + s.dataClusterCount
    else s.dataClusterBase + index
  | none => s.dataClusterBase + s.dataClusterCount

def Image.HasRoom (s : Image) : Prop := s.nextCluster ≠ 0 ∧ s.nextCluster ≤ UINT32_MAX

/-- The checks before the cluster is written: of the image and the range, and that an absent cluster
over a base is written whole. -/
structure Image.Accepts (s : Image) (c off : Nat) (buf : List UInt8) : Prop where
  nonempty : buf ≠ []
  valid : scoValidateWriteLocked s (c * s.sb.clusterSize + off) buf.length = .ok ()
  start : off < scoClusterStoredLength s.sb c
  inside : buf.length ≤ scoClusterStoredLength s.sb c - off
  whole : (s.table c).state = .absent → s.base.isSome →
    off = 0 ∧ buf.length = scoClusterStoredLength s.sb c

def Image.WholeZero (s : Image) (c off : Nat) (buf : List UInt8) : Prop :=
  off = 0 ∧ buf.length = scoClusterStoredLength s.sb c ∧ bufferAllZero buf = true

variable {c off : Nat} {buf : List UInt8} {w w' : Sys Image} {r : Except Errno Unit}
  {s t u : Image}

lemma Keeps.refl (s : Image) : Keeps s s := fun _ => Iff.rfl

lemma Keeps.takes (h : Keeps s t) (h' : Takes t u) : Takes s u := by
  obtain ⟨i, hi, hall⟩ := h'
  exact ⟨i, mt (h i).mpr hi, fun j => by rw [hall, h]⟩

lemma Takes.keeps (h : Takes s t) (h' : Keeps t u) : Takes s u := by
  obtain ⟨i, hi, hall⟩ := h
  exact ⟨i, hi, fun j => by rw [h', hall]⟩

lemma Takes.not_keeps (h : Takes s t) : ¬ Keeps s t := by
  obtain ⟨i, hi, hall⟩ := h
  exact fun hkeeps => hi ((hkeeps i).mp ((hall i).mpr (.inr rfl)))

lemma growDataArea_keeps {r : Except Errno Nat} (h : exec growDataArea w = (r, w')) : Keeps w.st w'.st := by
  simp only [growDataArea, exec_bind, exec_state, exec_ite, exec_throw, exec_update, exec_pure] at h
  split_ifs at h <;> cases h
  · exact .refl _
  · exact .refl _
  rw [grow_eq]
  intro i
  simp only [Image.Marked]
  split <;> simp <;> omega

lemma chooseCluster_keeps {r : Except Errno Nat} (h : exec chooseCluster w = (r, w')) :
    Keeps w.st w'.st := by
  simp only [chooseCluster, exec_bind, exec_state] at h
  cases hfind : findUnused w.st with
  | none =>
    rw [hfind] at h
    exact growDataArea_keeps h
  | some =>
    rw [hfind] at h
    simp only [exec_bind, exec_update, exec_ite, exec_pure] at h
    split_ifs at h
    · have hgrow := growDataArea_keeps h
      exact hgrow
    · cases h
      exact .refl _

lemma growDataArea_room {r : Except Errno Nat} (h : exec growDataArea w = (r, w')) :
    (∃ err, r = .error err) ∧ ¬ (w.st.dataClusterBase + w.st.dataClusterCount ≠ 0 ∧
      w.st.dataClusterBase + w.st.dataClusterCount ≤ UINT32_MAX) ∨
      r = .ok (w.st.dataClusterBase + w.st.dataClusterCount) := by
  simp only [growDataArea, exec_bind, exec_state, exec_ite, exec_throw, exec_update, exec_pure] at h
  split_ifs at h with hbig hbad <;> cases h
  · refine .inl ⟨⟨_, rfl⟩, ?_⟩
    simp only [UINT64_MAX, UINT32_MAX] at *
    omega
  · exact .inl ⟨⟨_, rfl⟩, fun hroom => hbad.elim hroom.1 (not_lt.mpr hroom.2)⟩
  · exact .inr rfl

/-- The choice is the next cluster, and fails only when there is no room for it. -/
lemma chooseCluster_room {r : Except Errno Nat} (h : exec chooseCluster w = (r, w')) :
    (∃ err, r = .error err) ∧ ¬ w.st.HasRoom ∨ r = .ok w.st.nextCluster := by
  have hgrows : ∀ {w₁ : Sys Image}, exec growDataArea w₁ = (r, w') →
      w₁.st.dataClusterBase + w₁.st.dataClusterCount = w.st.nextCluster →
      (∃ err, r = .error err) ∧ ¬ w.st.HasRoom ∨ r = .ok w.st.nextCluster := by
    intro w₁ hgrow hnext
    have hroom := growDataArea_room hgrow
    rw [hnext] at hroom
    exact hroom
  simp only [chooseCluster, exec_bind, exec_state] at h
  cases hfind : findUnused w.st with
  | none =>
    rw [hfind] at h
    exact hgrows h (by rw [Image.nextCluster, hfind])
  | some index =>
    rw [hfind] at h
    simp only [exec_bind, exec_update, exec_ite, exec_pure] at h
    split_ifs at h with h0
    · refine hgrows h ?_
      simp only [Image.nextCluster, hfind, if_pos h0]
    · cases h
      refine .inr ?_
      simp only [Image.nextCluster, hfind, if_neg h0]

lemma writeDataCluster_keeps {p : Nat} {r : Except Errno Nat} (hl : LayoutOk w.st.sb)
    (hp : p ≤ UINT32_MAX) (hbuf : buf ≠ []) (hlen : buf.length = scoClusterStoredLength w.st.sb c)
    (h : exec (writeDataCluster c p buf) w = (r, w')) : Keeps w.st w'.st := by
  have hfits : ¬ buf.length > UINT64_MAX - p * w.st.sb.clusterSize := by
    have hle := stored_le w.st.sb c
    have hmul := Nat.mul_le_mul hp hl.cluster_le
    have hcs := hl.cluster_le
    simp only [UINT32_MAX, UINT64_MAX, SCO_MAX_CLUSTER_SIZE] at *
    omega
  simp only [writeDataCluster, exec_bind, exec_state, exec_update, ← hlen, if_neg hfits,
    List.take_length] at h
  rcases hwrite : exec (writeExact (p * w.st.sb.clusterSize) buf) _ with ⟨res, w1⟩
  rw [hwrite] at h
  obtain ⟨k, -, hst, -⟩ := writeExact_run hbuf hwrite
  cases res <;> cases h <;> rw [hst] <;> exact fun _ => Iff.rfl

section
variable (hi : MemInv w.st)
include hi

lemma scoAllocDataCluster_takes {r : Except Errno Nat}
    (hc : c < w.st.sb.clusterCount) (hlen : buf.length = scoClusterStoredLength w.st.sb c)
    (h : exec (scoAllocDataCluster c buf) w = (r, w')) :
    (∃ err, r = .error err) ∧ ¬ w.st.HasRoom ∧ Keeps w.st w'.st ∨
      w.st.HasRoom ∧ Takes w.st w'.st := by
  have hpos := hi.layout.stored_pos hc
  simp only [scoAllocDataCluster, exec_bind, exec_state, exec_ite, if_neg hpos.ne'] at h
  rcases hchoose : exec chooseCluster w with ⟨err | p, w1⟩
  · rw [hchoose] at h
    cases h
    have hfull := (chooseCluster_room hchoose).resolve_right (by rintro ⟨⟩)
    exact .inl ⟨⟨err, rfl⟩, hfull.2, chooseCluster_keeps hchoose⟩
  rw [hchoose] at h
  have hkeeps := chooseCluster_keeps hchoose
  have hnext : p = w.st.nextCluster :=
    Except.ok.inj ((chooseCluster_room hchoose).resolve_left (by rintro ⟨⟨_, ⟨⟩⟩, -⟩))
  obtain ⟨hran, hspec⟩ := chooseCluster_run hchoose
  obtain ⟨index, hp, hlt, hfree⟩ := hspec p rfl
  have hsb := (hran.sameView hi).sb
  simp only [exec_throw, exec_update] at h
  split_ifs at h with hbig
  · cases h
    refine .inl ⟨⟨_, rfl⟩, fun hr => ?_, hkeeps⟩
    rw [hnext] at hbig
    exact hbig.elim hr.1 (not_lt.mpr hr.2)
  have hroom : w.st.HasRoom := by
    rw [hnext] at hbig
    exact ⟨fun h0 => hbig (.inl h0), not_lt.mp fun hgt => hbig (.inr hgt)⟩
  rw [hp, Nat.add_sub_cancel_left] at h
  have hmarked := writeDataCluster_keeps (w := ⟨(Event.mark index).apply w1.st, w1.plan⟩)
    (hran.memInv hi).layout (by omega) (List.length_pos_iff.mp (by omega)) (hsb ▸ hlen) h
  refine .inr ⟨hroom, hkeeps.takes ⟨index, ?_, fun j => ?_⟩⟩
  · simp [Image.Marked, hfree]
  rw [hmarked]
  simp only [Image.Marked, Event.apply, setUsed]
  split <;> simp_all

variable {err : Errno}

lemma commit_keeps {st : MapState} (hready : st = .present → ∃ p, w.st.Ready c off p)
    (h : exec (scoCommitTableEntry c st off) w = (.error err, w')) : Keeps w.st w'.st := by
  rcases scoCommitTableEntry_run hi hready h with ⟨-, rfl | ⟨-, e, k, -, -, hst⟩⟩ | ⟨hok, -⟩
  · exact .refl _
  · rw [hst]
    exact fun _ => Iff.rfl
  · cases hok

lemma allocAndCommit_fails (hc : c < w.st.sb.clusterCount)
    (hlen : buf.length = scoClusterStoredLength w.st.sb c)
    (h : exec (allocAndCommit c buf) w = (.error err, w')) :
    ¬ w.st.HasRoom ∧ Keeps w.st w'.st ∨ w.st.HasRoom ∧ Takes w.st w'.st := by
  simp only [allocAndCommit, exec_bind] at h
  rcases halloc : exec (scoAllocDataCluster c buf) w with ⟨err' | off, w1⟩
  · rw [halloc] at h
    cases h
    exact (scoAllocDataCluster_takes hi hc hlen halloc).imp And.right id
  rw [halloc] at h
  obtain ⟨hran, hfill⟩ := scoAllocDataCluster_run hi hc hlen halloc
  obtain ⟨p, rfl, hf⟩ := hfill off rfl
  have hsb := (hran.sameView hi).sb
  obtain ⟨hroom, htakes⟩ :=
    (scoAllocDataCluster_takes hi hc hlen halloc).resolve_left (by rintro ⟨⟨_, ⟨⟩⟩, -⟩)
  rcases hsync : exec fsync w1 with ⟨res, w2⟩
  obtain ⟨-, ⟨rfl, hst⟩ | ⟨⟨e, rfl⟩, hst, -⟩⟩ := fsync_run hsync
  · simp only [hsync] at h
    have hi2 : MemInv w2.st := hst ▸ (hran.memInv hi).push .sync
    have hready : w2.st.Ready c (p * w.st.sb.clusterSize) p := by
      rw [hst, ← hsb]
      exact hf.ready
    have hkeeps := commit_keeps hi2 (fun _ => ⟨p, hready⟩) h
    rw [hst] at hkeeps
    exact .inr ⟨hroom, htakes.keeps hkeeps⟩
  · simp only [hsync] at h
    cases h
    exact .inr ⟨hroom, hst ▸ htakes⟩

lemma scoWriteMaterializedCluster_fails (hc : c < w.st.sb.clusterCount) (hacc : w.st.Accepts c off buf)
    (h : exec (scoWriteMaterializedCluster c off buf) w = (.error err, w')) :
    (w.st.WholeZero c off buf ∨ ¬ w.st.HasRoom) ∧ Keeps w.st w'.st ∨
      (¬ w.st.WholeZero c off buf ∧ w.st.HasRoom) ∧ Takes w.st w'.st := by
  have hpos := hi.layout.stored_pos hc
  have hstart := hacc.start
  have hinside := hacc.inside
  simp only [scoWriteMaterializedCluster, exec_bind, exec_state, exec_ite, exec_throw,
    if_neg hacc.nonempty] at h
  rw [if_neg (by omega)] at h
  split_ifs at h with hfull hzero
  · exact .inl ⟨.inl ⟨hfull.1, hfull.2, hzero⟩, commit_keeps hi (fun hp => by cases hp) h⟩
  · exact (allocAndCommit_fails hi hc hfull.2 h).imp (And.imp_left .inr)
      (And.imp_left fun hroom => ⟨fun hz => hzero hz.2.2, hroom⟩)
  · exact (allocAndCommit_fails hi hc (get_length _ _ _) h).imp (And.imp_left .inr)
      (And.imp_left fun hroom => ⟨fun hz => hfull ⟨hz.1, hz.2.1⟩, hroom⟩)

/-- A chunk of an unmapped cluster is refused without an effect, or comes to be materialised. -/
lemma scoWriteChunk_unmapped (hc : c < w.st.sb.clusterCount) (hst : (w.st.table c).state ≠ .present) :
    (¬ w.st.Accepts c off buf ∧ ∃ err, exec (scoWriteChunk c off buf) w = (.error err, w)) ∨
      w.st.Accepts c off buf ∧
        exec (scoWriteChunk c off buf) w = exec (scoWriteMaterializedCluster c off buf) w := by
  have hpos := hi.layout.stored_pos hc
  have hdecline : ∀ phys, scoWriteIsDataOnly ⟨⟨c * w.st.sb.clusterSize,
      scoClusterStoredLength w.st.sb c, (w.st.table c).state.extent⟩, phys⟩ off buf
      (scoClusterStoredLength w.st.sb c) = false := by
    intro phys
    cases hst' : (w.st.table c).state <;> simp_all [scoWriteIsDataOnly, MapState.extent]
  simp only [scoWriteChunk, scoTryWritePresentDataOnly, exec_bind, exec_state, exec_ite, exec_throw,
    exec_ofExcept, lookup_cluster hi hc]
  by_cases hbuf : buf = []
  · rw [if_pos hbuf]
    exact .inl ⟨fun hacc => hacc.nonempty hbuf, _, rfl⟩
  rw [if_neg hbuf]
  cases hval : scoValidateWriteLocked w.st (c * w.st.sb.clusterSize + off) buf.length with
  | error err =>
    refine .inl ⟨fun hacc => ?_, err, rfl⟩
    have := hval.symm.trans hacc.valid
    cases this
  | ok =>
    dsimp only
    by_cases hrange : scoClusterStoredLength w.st.sb c = 0 ∨ off ≥ scoClusterStoredLength w.st.sb c ∨
        buf.length > scoClusterStoredLength w.st.sb c - off
    · rw [if_pos hrange]
      refine .inl ⟨fun hacc => ?_, _, rfl⟩
      have hstart := hacc.start
      have hinside := hacc.inside
      omega
    rw [if_neg hrange]
    simp only [hdecline, exec_pure, scoWriteMetadataCluster, scoWriteClusterRange, exec_bind, exec_state,
      exec_ite, exec_throw, exec_ofExcept, if_neg hbuf]
    rw [if_pos (by simp)]
    simp only [Bool.false_eq_true, if_false, hval, lookup_cluster hi hc]
    rw [if_neg (by omega)]
    have haccepts : (¬ ((w.st.table c).state = .absent ∧ w.st.base.isSome ∧
        (off ≠ 0 ∨ buf.length ≠ scoClusterStoredLength w.st.sb c))) → w.st.Accepts c off buf := by
      intro hwhole
      refine ⟨hbuf, hval, by omega, by omega, fun habs hbase => ?_⟩
      by_contra hpart
      exact hwhole ⟨habs, hbase, not_and_or.mp hpart⟩
    cases hst' : (w.st.table c).state with
    | present => exact absurd hst' hst
    | absent =>
      simp only [MapState.extent, exec_ite, exec_throw]
      by_cases hpart : w.st.base.isSome ∧ (off ≠ 0 ∨ buf.length ≠ scoClusterStoredLength w.st.sb c)
      · rw [if_pos hpart]
        refine .inl ⟨fun hacc => ?_, _, rfl⟩
        obtain ⟨h0, hlen⟩ := hacc.whole hst' hpart.1
        exact hpart.2.elim (· h0) (· hlen)
      · rw [if_neg hpart]
        exact .inr ⟨haccepts fun hall => hpart hall.2, rfl⟩
    | zero => exact .inr ⟨haccepts (by simp [hst']), rfl⟩
    | discarded => exact .inr ⟨haccepts (by simp [hst']), rfl⟩

end

/-- A failed write to an unmapped cluster leaves the allocator as it was exactly when it was
refused, had no room or is a whole cluster of zeros; otherwise one cluster stays taken. -/
theorem failed_write_leaks {f : File} {readonly : Bool} {s₀ s : Image}
    (hopen : scoOpen f readonly = .ok s₀) (hreach : Relation.ReflTransGen CallStep s₀ s)
    (hc : c < s.sb.clusterCount) (hst : (s.table c).state ≠ .present) {plan : List Fault}
    {err : Errno} (h : exec (scoWriteChunk c off buf) ⟨s, plan⟩ = (.error err, w')) :
    ((∀ i, w'.st.Marked i ↔ s.Marked i) ↔
      ¬ s.Accepts c off buf ∨ ¬ s.HasRoom ∨ s.WholeZero c off buf) ∧
      (s.Accepts c off buf → s.HasRoom → ¬ s.WholeZero c off buf →
        ∃ i, ¬ s.Marked i ∧ ∀ j, w'.st.Marked j ↔ s.Marked j ∨ j = i) := by
  have hi := (session_safe hopen hreach).1
  rcases @scoWriteChunk_unmapped c off buf ⟨s, plan⟩ hi hc hst with
    ⟨hrefused, err', hrun⟩ | ⟨hacc, hrun⟩
  · obtain ⟨-, rfl⟩ := Prod.mk.inj (hrun.symm.trans h)
    exact ⟨iff_of_true (Keeps.refl s) (.inl hrefused), fun hacc => absurd hacc hrefused⟩
  · rw [hrun] at h
    rcases scoWriteMaterializedCluster_fails hi hc hacc h with ⟨hcond, hkeeps⟩ | ⟨⟨hnz, hroom⟩, htakes⟩
    · refine ⟨iff_of_true hkeeps (.inr hcond.symm), fun _ hroom hnz => ?_⟩
      exact absurd hcond (not_or.mpr ⟨hnz, not_not.mpr hroom⟩)
    · refine ⟨iff_of_false htakes.not_keeps ?_, fun _ _ _ => htakes⟩
      exact not_or.mpr ⟨not_not.mpr hacc, not_or.mpr ⟨not_not.mpr hroom, hnz⟩⟩

lemma small_failed_write {s : Image} (hopen : scoOpen smallFile false = .ok s) :
    ∃ w', exec (scoWriteChunk 0 0 [1, 1]) ⟨s, [.fail .eio 0]⟩ = (.error .eio, w') ∧
      w'.st.Marked 0 ∧ ¬ s.Marked 0 := by
  have hi := opened_memInv (opened_of_scoOpen hopen)
  obtain ⟨hsb, htable, hro, hbase, hcount⟩ := small_fresh hopen
  have hval : scoValidateWriteLocked s (0 * s.sb.clusterSize + 0) 2 = .ok () := by
    simp only [scoValidateWriteLocked, hro, hsb]
    decide
  have hnone : findUnused s = none := by
    rw [findUnused, hcount]
    rfl
  have hlen : [1, 1].length = scoClusterStoredLength s.sb 0 := by rw [hsb, small_stored]; rfl
  rw [scoWriteChunk_full hi (by rw [hsb]; decide) (by rw [htable]; decide) hlen (by decide) hval]
  simp only [allocAndCommit, scoAllocDataCluster, chooseCluster, hnone, growDataArea, grow_eq,
    hbase, hcount, hsb, small_stored, writeDataCluster, writeExact, exec_bind, exec_state,
    exec_ite, exec_throw, exec_update, exec_pure, exec_nextFault]
  refine ⟨_, rfl, ⟨Nat.one_pos, rfl⟩, fun hmarked => ?_⟩
  exact absurd (hcount ▸ hmarked.1) (Nat.not_lt_zero 0)

theorem failed_write_leaks_small : ∃ s w', scoOpen smallFile false = .ok s ∧
    exec (scoWriteChunk 0 0 [1, 1]) ⟨s, [.fail .eio 0]⟩ = (.error .eio, w') ∧
    s.Accepts 0 0 [1, 1] ∧ s.HasRoom ∧ ¬ s.WholeZero 0 0 [1, 1] := by
  obtain ⟨s, hopen⟩ := small_opens false
  obtain ⟨hsb, htable, -⟩ := small_fresh hopen
  obtain ⟨w', hrun, htaken, hfree⟩ := small_failed_write hopen
  have hleak := failed_write_leaks hopen .refl (by rw [hsb]; decide) (by rw [htable]; decide) hrun
  have hcond := mt hleak.1.mpr fun hall => hfree ((hall 0).mp htaken)
  simp only [not_or, not_not] at hcond
  exact ⟨s, w', hopen, hrun, hcond⟩

/-- The data of the only cluster cannot be written, and the physical cluster stays taken. -/
theorem failed_write_keeps_cluster : ∃ s w', scoOpen smallFile false = .ok s ∧
    exec (scoWriteChunk 0 0 [1, 1]) ⟨s, [.fail .eio 0]⟩ = (.error .eio, w') ∧
    w'.st.Marked 0 ∧ ¬ s.Marked 0 := by
  obtain ⟨s, hopen⟩ := small_opens false
  obtain ⟨w', hrun, htaken, hfree⟩ := small_failed_write hopen
  exact ⟨s, w', hopen, hrun, htaken, hfree⟩

end ScorpiHv.Sco

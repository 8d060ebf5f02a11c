import ScorpiHv.Sco.Refines

/-!
# Writes and discards, chunk by chunk

The chunk functions and the loops of `sco_write` and `sco_discard` over them.
-/

namespace ScorpiHv.Sco
open Bytes List

variable {c fuel n off : Nat} {bs buf : List UInt8}

lemma get_put_all (h : buf.length = n) : buf = get (put blank 0 buf) 0 n := by
  rw [← h]
  exact (get_put_same blank 0 buf).symm

variable {r : Except Errno Unit} {w w' : Sys Image}

lemma scoWriteMaterializedCluster_run (hi : MemInv w.st) (hc : c < w.st.sb.clusterCount)
    (hrest : ∀ b < w.st.sb.virtualSize, b / w.st.sb.clusterSize = c →
      ¬ (c * w.st.sb.clusterSize + off ≤ b ∧ b < c * w.st.sb.clusterSize + off + buf.length) →
      w.st.view b = some 0 ∨ w.st.view b = none ∧ w.st.base = none)
    (h : exec (scoWriteMaterializedCluster c off buf) w = (r, w')) :
    RangeRun w w' r (c * w.st.sb.clusterSize + off) buf := by
  simp only [scoWriteMaterializedCluster, exec_bind, exec_state, exec_ite, exec_throw] at h
  split_ifs at h with hbuf hrange hfull hzero
  · cases h
    exact .refused
  · cases h
    exact .refused
  · obtain ⟨rfl, hlen⟩ := hfull
    exact (scoCommitTableEntry_zero_run hi (Or.inl rfl) h).rangeRun hi hbuf (by omega)
      (zeros_eq hzero _) hrest
  · obtain ⟨rfl, hlen⟩ := hfull
    exact (allocAndCommit_run hi hc hlen h).rangeRun hi hbuf (by omega) (get_put_all hlen) hrest
  · exact (allocAndCommit_run hi hc (get_length _ _ _) h).rangeRun hi hbuf (by omega) rfl hrest

variable {s : Image}

lemma rest_unmapped (hi : MemInv s) (hst : (s.table c).state ≠ .present)
    (hbase : (s.table c).state = .absent → s.base = none ∨ off = 0 ∧ n = scoClusterStoredLength s.sb c) :
    ∀ b < s.sb.virtualSize, b / s.sb.clusterSize = c →
    ¬ (c * s.sb.clusterSize + off ≤ b ∧ b < c * s.sb.clusterSize + off + n) → s.view b = some 0 ∨
    s.view b = none ∧ s.base = none := by
  intro b hb hbc hout
  rw [← hbc] at hst
  rcases view_unmapped hst with hv | ⟨hv, habs⟩
  · exact Or.inl hv
  rw [hbc] at habs
  rcases hbase habs with hbase | ⟨rfl, hn⟩
  · exact Or.inr ⟨hv, hbase⟩
  · exact absurd (full_chunk hi.layout hb hbc hn) hout

lemma scoWriteClusterRange_run (hi : MemInv w.st) (hc : c < w.st.sb.clusterCount)
    (h : exec (scoWriteClusterRange c off buf) w = (r, w')) :
    RangeRun w w' r (c * w.st.sb.clusterSize + off) buf := by
  simp only [scoWriteClusterRange, exec_bind, exec_state, exec_ite, exec_throw, exec_ofExcept,
    lookup_cluster hi hc] at h
  split at h
  · cases h
    exact .refused
  split at h
  · cases h
    exact .refused
  cases hst : (w.st.table c).state with
  | present =>
    simp only [hst, MapState.extent, if_true] at h
    exact scoWritePresentCluster_run hi hc hst rfl h
  | absent =>
    simp only [hst, MapState.extent, exec_ite, exec_throw] at h
    split_ifs at h with hbase
    · cases h
      exact .refused
    refine scoWriteMaterializedCluster_run hi hc (rest_unmapped hi (by simp [hst]) ?_) h
    intro _
    cases hb : w.st.base with
    | none => exact Or.inl rfl
    | some =>
      rw [hb] at hbase
      exact Or.inr (by simpa using hbase)
  | zero | discarded =>
    simp only [hst, MapState.extent] at h
    exact scoWriteMaterializedCluster_run hi hc (rest_unmapped hi (by simp [hst]) (by simp [hst])) h

lemma zeros_put (off len n : Nat) : List.replicate n (0 : UInt8) =
    get (put blank off (List.replicate len 0)) 0 n := by
  rw [← get_replicate_zero n]
  refine get_congr fun i _ _ => ?_
  simp only [put]
  split
  · rw [getD_eq_getElem?_getD, List.getElem?_replicate]
    split <;> rfl
  · rfl

variable {len : Nat}

lemma scoDiscardClusterRange_run (hi : MemInv w.st) (hc : c < w.st.sb.clusterCount)
    (h : exec (scoDiscardClusterRange c off len) w = (r, w')) :
    RangeRun w w' r (c * w.st.sb.clusterSize + off) (List.replicate len 0) := by
  simp only [scoDiscardClusterRange, exec_bind, exec_state, exec_ite, exec_throw, exec_ofExcept,
    lookup_cluster hi hc] at h
  split at h
  · cases h
    exact .refused
  split at h
  · cases h
    exact .refused
  have hne : List.replicate len (0 : UInt8) ≠ [] := length_pos_iff.mp (by rw [length_replicate]; omega)
  have hend : off + (List.replicate len (0 : UInt8)).length ≤
      scoClusterStoredLength w.st.sb c := by
    rw [length_replicate]
    omega
  -- every discard that is not a write in place commits the cluster as discarded
  have hdiscard : (∀ b < w.st.sb.virtualSize, b / w.st.sb.clusterSize = c →
      ¬ (c * w.st.sb.clusterSize + off ≤ b ∧ b < c * w.st.sb.clusterSize + off +
        (List.replicate len (0 : UInt8)).length) →
      w.st.view b = some 0 ∨ w.st.view b = none ∧ w.st.base = none) →
      exec (scoCommitTableEntry c .discarded 0) w = (r, w') →
      RangeRun w w' r (c * w.st.sb.clusterSize + off) (List.replicate len 0) := by
    intro hrest hrun
    exact (scoCommitTableEntry_zero_run hi (Or.inr rfl) hrun).rangeRun hi hne hend
      (zeros_put off len _) hrest
  by_cases hfull : off = 0 ∧ len = scoClusterStoredLength w.st.sb c
  · simp only [if_pos hfull] at h
    obtain ⟨rfl, rfl⟩ := hfull
    refine hdiscard (fun b hb hbc hout => absurd ?_ hout) h
    exact full_chunk hi.layout hb hbc (length_replicate ..)
  simp only [if_neg hfull] at h
  cases hst : (w.st.table c).state with
  | present =>
    simp only [hst, MapState.extent, if_true] at h
    exact scoWritePresentCluster_run hi hc hst rfl h
  | absent =>
    simp only [hst, MapState.extent, exec_ite, exec_throw] at h
    split_ifs at h with hbase
    · cases h
      exact .refused
    · exact hdiscard (rest_unmapped hi (by simp [hst]) fun _ => Or.inl (by simpa using hbase)) h
  | zero | discarded =>
    simp only [hst, MapState.extent] at h
    exact hdiscard (rest_unmapped hi (by simp [hst]) (by simp [hst])) h

variable {pos : Nat}

lemma RangeRun.ran (h : RangeRun w w' r pos bs) : Ran Event.Data w w' := h.ends.ran

lemma RangeRun.append {w1 : Sys Image} {cs : List UInt8} (h : RangeRun w w1 (.ok ()) pos bs)
    (h' : RangeRun w1 w' r (pos + bs.length) cs) (hcut : Cut w.st.sb pos bs.length cs.length) :
    RangeRun w w' r pos (bs ++ cs) := by
  have hsame := h.ran.sameImage
  have hstored := h.stored rfl
  refine ⟨.after h.ends.ok (h'.ends.imp ?_), fun hr => ?_, fun err herr => ?_, fun c => ?_⟩
  · rintro u c ⟨⟨a, hge, hlt, ha⟩, hu⟩
    rw [hsame.sb] at ha hu
    refine ⟨⟨a, by omega, by rw [length_append]; omega, ha⟩, fun b hb hbc => ?_⟩
    exact (hstored.written hb).append (hu b hb hbc) hsame.base
  · exact hstored.append (h'.stored hr) hsame.sb hsame.base
  · obtain ⟨k, hk, hst⟩ := h'.torn err herr
    refine ⟨bs.length + k, by rw [length_append]; omega, ?_⟩
    rw [take_length_add_append]
    exact hstored.append hst hsame.sb hsame.base
  · exact Whole.append hstored (h'.whole c) hcut hsame.sb hsame.base

lemma RangeRun.failedFirst {err : Errno} (h : RangeRun w w' (.error err) pos bs) (cs : List UInt8)
    (hcut : Cut w.st.sb pos bs.length cs.length) : RangeRun w w' (.error err) pos (bs ++ cs) := by
  refine ⟨h.ends.imp ?_, nofun, fun e he => ?_, fun c => (h.whole c).extend hcut⟩
  · rintro u c ⟨⟨a, hge, hlt, ha⟩, hu⟩
    refine ⟨⟨a, hge, by rw [length_append]; omega, ha⟩, fun b hb hbc => ?_⟩
    exact written_extend (hu b hb hbc) fun hrest => hcut a b hge hlt hrest.1 hrest.2 hb (ha.trans hbc.symm)
  · obtain ⟨k, hk, hst⟩ := h.torn e he
    refine ⟨k, by rw [length_append]; omega, ?_⟩
    rwa [take_append_of_le_length hk]

lemma RangeRun.nothing : RangeRun w w (.ok ()) pos [] :=
  ⟨Or.inl (.idle rfl id), fun _ => (SameView.refl _).stored _, nofun, fun _ => .unchanged (SameView.refl _)⟩

lemma scoTryWritePresentDataOnly_run {r : Except Errno Bool} (hi : MemInv w.st)
    (hc : c < w.st.sb.clusterCount) (h : exec (scoTryWritePresentDataOnly c off buf) w = (r, w')) :
    r = .ok false ∧ w' = w ∨ ∃ res, RangeRun w w' res (c * w.st.sb.clusterSize + off) buf ∧
    (r = res.map fun _ => true) ∧ ((w.st.table c).state ≠ .present → w' = w) := by
  have hdiv : c * w.st.sb.clusterSize / w.st.sb.clusterSize = c :=
    Nat.mul_div_cancel c hi.layout.cluster_pos
  simp only [scoTryWritePresentDataOnly, exec_bind, exec_state, exec_ite, exec_throw,
    exec_ofExcept, lookup_cluster hi hc] at h
  split at h
  · cases h
    exact Or.inr ⟨.error _, .refused, rfl, fun _ => rfl⟩
  rename_i hbuf
  cases hval : scoValidateWriteLocked w.st (c * w.st.sb.clusterSize + off) buf.length with
  | error =>
    rw [hval] at h
    cases h
    exact Or.inr ⟨.error _, .refused, rfl, fun _ => rfl⟩
  | ok u =>
    simp only [hval] at h
    split at h
    · cases h
      exact Or.inr ⟨.error _, .refused, rfl, fun _ => rfl⟩
    by_cases hpres : (w.st.table c).state = .present
    · simp only [hpres, if_true, exec_pure] at h
      split at h
      · cases h
        exact Or.inl ⟨rfl, rfl⟩
      simp only [scoWritePresentClusterData, exec_bind, exec_state, exec_ite, exec_throw,
        exec_update, hdiv, if_neg hbuf] at h
      rw [if_neg (by omega)] at h
      generalize hx : exec (writeExact _ buf) _ = x at h
      obtain ⟨res, w1⟩ := x
      have hrun := overwrite_run hi hc hpres hbuf (by omega) hx
      cases res with
      | error | ok =>
        cases h
        exact Or.inr ⟨_, hrun, rfl, absurd hpres⟩
    · have hdecline : ∀ phys, scoWriteIsDataOnly ⟨⟨c * w.st.sb.clusterSize,
          scoClusterStoredLength w.st.sb c, (w.st.table c).state.extent⟩, phys⟩ off buf
          (scoClusterStoredLength w.st.sb c) = false := by
        intro phys
        cases hst : (w.st.table c).state <;> simp_all [scoWriteIsDataOnly, MapState.extent]
      simp only [hdecline, exec_pure] at h
      cases h
      exact Or.inl ⟨rfl, rfl⟩

lemma scoWriteMetadataCluster_run (hi : MemInv w.st) (hc : c < w.st.sb.clusterCount)
    (h : exec (scoWriteMetadataCluster c off buf) w = (r, w')) :
    RangeRun w w' r (c * w.st.sb.clusterSize + off) buf := by
  simp only [scoWriteMetadataCluster, exec_bind, exec_state, exec_ofExcept] at h
  cases hval : scoValidateWriteLocked w.st (c * w.st.sb.clusterSize + off) buf.length with
  | error =>
    rw [hval] at h
    cases h
    exact .refused
  | ok =>
    rw [hval] at h
    exact scoWriteClusterRange_run hi hc h

lemma scoWriteChunk_run (hi : MemInv w.st) (hc : c < w.st.sb.clusterCount)
    (h : exec (scoWriteChunk c off buf) w = (r, w')) :
    RangeRun w w' r (c * w.st.sb.clusterSize + off) buf := by
  simp only [scoWriteChunk, exec_bind] at h
  rcases htry : exec (scoTryWritePresentDataOnly c off buf) w with ⟨res, w1⟩
  rw [htry] at h
  rcases scoTryWritePresentDataOnly_run hi hc htry with ⟨rfl, rfl⟩ | ⟨res, hrun, rfl, -⟩
  · exact scoWriteMetadataCluster_run hi hc h
  cases res with
  | error | ok =>
    cases h
    exact hrun

variable {offset : Nat}

lemma nextChunk_spec (hi : MemInv s) {chunk : Chunk} (hlen : len ≠ 0)
    (h : nextChunk s.sb.clusterSize s.sb.virtualSize offset len = .ok chunk) :
    chunk.clusterIndex < s.sb.clusterCount ∧
      chunk.clusterIndex * s.sb.clusterSize + chunk.clusterOffset = offset ∧
      0 < chunk.length ∧ chunk.length ≤ len ∧
      chunk.clusterOffset + chunk.length ≤ scoClusterStoredLength s.sb chunk.clusterIndex ∧
      Cut s.sb offset chunk.length (len - chunk.length) := by
  have hsum := Nat.div_add_mod' offset s.sb.clusterSize
  simp only [nextChunk, ← stored_eq_min] at h
  split_ifs at h with hrange
  cases h
  have hoff := hi.layout.mod_lt_stored.mp (by omega :
    offset % s.sb.clusterSize < scoClusterStoredLength s.sb (offset / s.sb.clusterSize))
  refine ⟨hi.layout.div_lt_count hoff, hsum, by dsimp only; omega, by dsimp only; omega,
    by dsimp only; omega, ?_⟩
  -- what is left begins past the stored part of the chunk's cluster
  intro a b hge hlt hge' hlt' hb hab
  dsimp only at hlt hge' hlt'
  have hle := stored_le s.sb (offset / s.sb.clusterSize)
  have hx := hi.layout.mod_lt_stored.mpr hb
  have hsumb := Nat.div_add_mod' b s.sb.clusterSize
  have hfirst : offset / s.sb.clusterSize * s.sb.clusterSize + offset % s.sb.clusterSize ≤ a := by omega
  have hlast : a < offset / s.sb.clusterSize * s.sb.clusterSize + offset % s.sb.clusterSize +
      (scoClusterStoredLength s.sb (offset / s.sb.clusterSize) - offset % s.sb.clusterSize) := by
    omega
  obtain ⟨hdiv, -⟩ := in_cluster (by omega) hfirst hlast
  rw [← hab, hdiv] at hx hsumb
  omega

lemma scoWriteLoop_run {p : List UInt8} (hi : MemInv w.st) (hfuel : p.length ≤ fuel)
    (h : exec (scoWriteLoop w.st.sb.clusterSize w.st.sb.virtualSize fuel offset p) w = (r, w')) :
    RangeRun w w' r offset p := by
  induction fuel generalizing offset p w with
  | zero =>
    obtain rfl := length_eq_zero_iff.mp (Nat.le_zero.mp hfuel)
    cases h
    exact .nothing
  | succ fuel ih =>
    simp only [scoWriteLoop, exec_ite, exec_pure, exec_bind, exec_ofExcept] at h
    split_ifs at h with hp
    · subst hp
      cases h
      exact .nothing
    have hne : p.length ≠ 0 := mt length_eq_zero_iff.mp hp
    cases hchunk : nextChunk w.st.sb.clusterSize w.st.sb.virtualSize offset p.length with
    | error =>
      rw [hchunk] at h
      cases h
      exact .refused
    | ok chunk =>
      simp only [hchunk] at h
      obtain ⟨hc, hpos, hlen, hle, -, hcut⟩ := nextChunk_spec hi hne hchunk
      generalize hx : exec (scoWriteChunk _ _ _) w = x at h
      obtain ⟨res, w1⟩ := x
      have hrun := scoWriteChunk_run hi hc hx
      rw [hpos] at hrun
      have htake : (p.take chunk.length).length = chunk.length := by
        rw [length_take]
        omega
      rw [← take_append_drop chunk.length p]
      have hcut : Cut w.st.sb offset (p.take chunk.length).length (p.drop chunk.length).length := by
        rwa [htake, length_drop]
      cases res with
      | error =>
        cases h
        exact hrun.failedFirst _ hcut
      | ok =>
        rw [← hrun.ran.sameImage.sb] at h
        have hrest := ih (hrun.ran.memInv hi) (by rw [length_drop]; omega) h
        refine hrun.append ?_ hcut
        rwa [htake]

lemma scoWrite_run (hi : MemInv w.st) (h : exec (scoWrite buf offset) w = (r, w')) :
    RangeRun w w' r offset buf := by
  simp only [scoWrite, exec_bind, exec_state, exec_ofExcept] at h
  cases hval : scoValidateWriteLocked w.st offset buf.length with
  | error =>
    rw [hval] at h
    cases h
    exact .refused
  | ok =>
    rw [hval] at h
    exact scoWriteLoop_run hi (Nat.le_refl _) h

lemma scoDiscardLoop_run (hi : MemInv w.st) (hfuel : len ≤ fuel)
    (h : exec (scoDiscardLoop w.st.sb.clusterSize w.st.sb.virtualSize fuel offset len) w =
      (r, w')) : RangeRun w w' r offset (List.replicate len 0) := by
  induction fuel generalizing offset len w with
  | zero =>
    obtain rfl := Nat.le_zero.mp hfuel
    cases h
    exact .nothing
  | succ fuel ih =>
    simp only [scoDiscardLoop, exec_ite, exec_pure, exec_bind, exec_ofExcept] at h
    split_ifs at h with hlen
    · subst hlen
      cases h
      exact .nothing
    cases hchunk : nextChunk w.st.sb.clusterSize w.st.sb.virtualSize offset len with
    | error =>
      rw [hchunk] at h
      cases h
      exact .refused
    | ok chunk =>
      simp only [hchunk] at h
      obtain ⟨hc, hpos, hlt, hle, -, hcut⟩ := nextChunk_spec hi hlen hchunk
      generalize hx : exec (scoDiscardClusterRange _ _ _) w = x at h
      obtain ⟨res, w1⟩ := x
      have hrun := scoDiscardClusterRange_run hi hc hx
      rw [hpos] at hrun
      rw [show len = chunk.length + (len - chunk.length) by omega, ← replicate_append_replicate]
      have hcut : Cut w.st.sb offset (List.replicate chunk.length (0 : UInt8)).length
          (List.replicate (len - chunk.length) (0 : UInt8)).length := by
        rwa [length_replicate, length_replicate]
      cases res with
      | error =>
        cases h
        exact hrun.failedFirst _ hcut
      | ok =>
        rw [← hrun.ran.sameImage.sb] at h
        refine hrun.append ?_ hcut
        rw [length_replicate]
        exact ih (hrun.ran.memInv hi) (by omega) h

lemma scoDiscard_run {length : Nat} (hi : MemInv w.st) (h : exec (scoDiscard offset length) w = (r, w')) :
    RangeRun w w' r offset (List.replicate length 0) := by
  simp only [scoDiscard, exec_bind, exec_state, exec_ite, exec_throw] at h
  split_ifs at h
  · cases h
    exact .refused
  · cases h
    exact .refused
  · exact scoDiscardLoop_run hi (Nat.le_refl _) h

def Image.flat (s : Image) : Store := fun b => (s.view b).getD 0

/-- A read changes nothing and, unless the host fails, returns the bytes shown. -/
structure ReadRun (w w' : Sys Image) (r : Except Errno (List UInt8)) (bs : List UInt8) :
    Prop where
  st : w'.st = w.st
  plan : w.plan = [] → w'.plan = []
  result : r = .ok bs ∨ (∃ err, r = .error err) ∧ w.plan ≠ []

lemma readData_run {r : Except Errno (List UInt8)} (hsize : off + n ≤ w.st.fd.file.size)
    (h : exec (readData off n) w = (r, w')) : ReadRun w w' r (get w.st.fd.file.byte off n) := by
  simp only [readData, exec_bind, exec_nextFault] at h
  cases hf : w.plan.headD .none with
  | none =>
    rw [hf] at h
    simp only [exec_bind, exec_state, exec_ofExcept, readExact, if_pos (Or.inr hsize), exec_pure] at h
    cases h
    refine ⟨rfl, tail_nil, Or.inl ?_⟩
    rw [get_shift, Nat.add_zero]
  | fail err =>
    rw [hf] at h
    cases h
    exact ⟨rfl, tail_nil, Or.inr ⟨⟨err, rfl⟩, headD_nil hf (by simp)⟩⟩

lemma flat_cluster (hi : MemInv s) {i : Nat} (hoff : offset < s.sb.virtualSize)
    (hn : n ≤ scoClusterStoredLength s.sb (offset / s.sb.clusterSize) - offset % s.sb.clusterSize)
    (hlt : i < n) : s.flat (offset + i) = match (s.table (offset / s.sb.clusterSize)).state with
      | .present => s.fd.file.byte ((s.table (offset / s.sb.clusterSize)).physicalCluster *
          s.sb.clusterSize + offset % s.sb.clusterSize + i) | _ => 0 := by
  have hsum := Nat.div_add_mod' offset s.sb.clusterSize
  have hle := stored_le s.sb (offset / s.sb.clusterSize)
  have hge : offset / s.sb.clusterSize * s.sb.clusterSize + offset % s.sb.clusterSize ≤
      offset + i := by omega
  obtain ⟨hdiv, hmod⟩ := in_cluster (n := n) (by omega) hge (by omega)
  have hpos : offset + i - offset / s.sb.clusterSize * s.sb.clusterSize =
      offset % s.sb.clusterSize + i := by omega
  simp only [Image.flat, Image.view, entryByte, hdiv, hmod, hpos, ← Nat.add_assoc]
  cases (s.table (offset / s.sb.clusterSize)).state <;> rfl

lemma readExtent_run {r : Except Errno (List UInt8)}
    {lookup : Lookup} (hi : MemInv w.st) (hoff : offset < w.st.sb.virtualSize) (hlen : len ≠ 0)
    (hlookup : scoLookupExtent w.st offset len = .ok lookup)
    (h : exec (readExtent w.st lookup offset) w = (r, w')) :
    ReadRun w w' r (get w.st.flat offset lookup.extent.length) := by
  rw [lookup_spec hi hoff hlen] at hlookup
  cases hlookup
  have hflat := fun i => flat_cluster hi hoff (i := i) (Nat.min_le_right len _)
  have hzero : ∀ n, (∀ i < n, w.st.flat (offset + i) = 0) →
      get w.st.flat offset n = List.replicate n 0 := by
    intro n hn
    rw [← get_replicate_zero n]
    refine map_congr_left fun i hin => ?_
    rw [hn i (mem_range.mp hin)]
    rfl
  simp only [readExtent] at h
  cases hst : (w.st.table (offset / w.st.sb.clusterSize)).state with
  | present =>
    simp only [hst, MapState.extent, if_true] at h hflat
    have hc := hi.layout.div_lt_count hoff
    have hstored := hi.stored _ hc hst
    have hx := hi.layout.mod_lt_stored.mpr hoff
    have hrun := readData_run (by omega) h
    have heq : get w.st.flat offset (min len (scoClusterStoredLength w.st.sb
        (offset / w.st.sb.clusterSize) - offset % w.st.sb.clusterSize)) = _ :=
      map_congr_left fun i hin => hflat i (mem_range.mp hin)
    rw [heq]
    exact hrun
  | absent | zero | discarded =>
    simp only [hst, MapState.extent, exec_pure] at h hflat
    cases h
    exact ⟨rfl, id, Or.inl (by rw [hzero _ hflat])⟩

lemma scoReadLoop_run {r : Except Errno (List UInt8)} (hi : MemInv w.st) (hfuel : len ≤ fuel)
    (hend : offset + len ≤ w.st.sb.virtualSize) (h : exec (scoReadLoop fuel offset len) w = (r, w')) :
    ReadRun w w' r (get w.st.flat offset len) := by
  induction fuel generalizing offset len w w' r with
  | zero =>
    obtain rfl := Nat.le_zero.mp hfuel
    cases h
    exact ⟨rfl, id, Or.inl rfl⟩
  | succ fuel ih =>
    simp only [scoReadLoop, exec_ite, exec_pure, exec_bind, exec_state, exec_ofExcept] at h
    split_ifs at h with hlen
    · subst hlen
      cases h
      exact ⟨rfl, id, Or.inl rfl⟩
    have hoff : offset < w.st.sb.virtualSize := by omega
    have hx := hi.layout.mod_lt_stored.mpr hoff
    rcases hlookup : scoLookupExtent w.st offset len with err | lookup
    · rw [lookup_spec hi hoff hlen] at hlookup
      cases hlookup
    have hn : lookup.extent.length ≤ len ∧ 0 < lookup.extent.length := by
      have hspec := hlookup
      rw [lookup_spec hi hoff hlen] at hspec
      cases hspec
      exact ⟨Nat.min_le_left _ _, by dsimp only; omega⟩
    simp only [hlookup, exec_throw, if_neg hn.2.ne'] at h
    generalize hpart : exec (readExtent w.st lookup offset) w = x at h
    obtain ⟨res, w1⟩ := x
    obtain ⟨hst, hplan, hres⟩ := readExtent_run hi hoff hlen hlookup hpart
    rcases hres with rfl | ⟨⟨err, rfl⟩, hp⟩
    · simp only at h
      generalize hrest : exec (scoReadLoop fuel _ _) w1 = y at h
      obtain ⟨res, w2⟩ := y
      have hend1 : offset + lookup.extent.length + (len - lookup.extent.length) ≤
          w1.st.sb.virtualSize := by
        rw [hst]
        omega
      have hfuel1 : len - lookup.extent.length ≤ fuel := by omega
      obtain ⟨hst2, hplan2, hres2⟩ := ih (by rw [hst]; exact hi) hfuel1 hend1 hrest
      rcases hres2 with rfl | ⟨⟨err, rfl⟩, hp⟩
      · cases h
        refine ⟨hst2.trans hst, fun hp => hplan2 (hplan hp), Or.inl ?_⟩
        rw [hst, ← get_append, Nat.add_sub_cancel' hn.1]
      · cases h
        exact ⟨hst2.trans hst, fun hp => hplan2 (hplan hp), Or.inr ⟨⟨err, rfl⟩, mt hplan hp⟩⟩
    · cases h
      exact ⟨hst, hplan, Or.inr ⟨⟨err, rfl⟩, hp⟩⟩

lemma scoRead_run {r : Except Errno (List UInt8)}
    (hi : MemInv w.st) (hend : offset + len ≤ w.st.sb.virtualSize)
    (h : exec (scoRead offset len) w = (r, w')) : ReadRun w w' r (get w.st.flat offset len) := by
  simp only [scoRead, exec_bind, exec_state, exec_ite] at h
  rw [if_neg (by omega)] at h
  exact scoReadLoop_run hi (Nat.le_refl _) hend h

end ScorpiHv.Sco

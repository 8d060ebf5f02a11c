import ScorpiHv.Sco.Chunks
import ScorpiHv.Sco.Disk

/-!
# Calls within one cluster

A call that stays within one cluster makes one pass of its loop.
-/

namespace ScorpiHv.Sco
open Bytes List

variable {c off : Nat} {s : Image}

lemma nextChunk_within (hi : MemInv s) {n : Nat} (hn : 0 < n)
    (hend : off + n ≤ scoClusterStoredLength s.sb c) :
    nextChunk s.sb.clusterSize s.sb.virtualSize (c * s.sb.clusterSize + off) n = .ok ⟨c, off, n⟩ := by
  have hle := stored_le s.sb c
  have hoff : off < s.sb.clusterSize := by omega
  have hdiv : (c * s.sb.clusterSize + off) / s.sb.clusterSize = c := by
    rw [Nat.add_comm, Nat.add_mul_div_right _ _ hi.layout.cluster_pos, Nat.div_eq_of_lt hoff, Nat.zero_add]
  have hmod : (c * s.sb.clusterSize + off) % s.sb.clusterSize = off := by
    rw [Nat.add_comm, Nat.add_mul_mod_self_right, Nat.mod_eq_of_lt hoff]
  have hmin : min (scoClusterStoredLength s.sb c - off) n = n := by omega
  simp only [nextChunk, hdiv, hmod, ← stored_eq_min, hmin]
  rw [if_neg (by omega)]

lemma scoWriteLoop_nil (cs vs fuel offset : Nat) (w : Sys Image) :
    exec (scoWriteLoop cs vs fuel offset []) w = (.ok (), w) := by cases fuel <;> rfl

lemma scoWrite_one (buf : List UInt8) (plan : List Fault)
    (hi : MemInv s) (hbuf : buf ≠ []) (hend : off + buf.length ≤ scoClusterStoredLength s.sb c)
    (hval : scoValidateWriteLocked s (c * s.sb.clusterSize + off) buf.length = .ok ()) :
    exec (scoWrite buf (c * s.sb.clusterSize + off)) ⟨s, plan⟩ =
      exec (scoWriteChunk c off buf) ⟨s, plan⟩ := by
  have hlen : 0 < buf.length := length_pos_iff.mpr hbuf
  obtain ⟨n, hn⟩ := Nat.exists_eq_succ_of_ne_zero hlen.ne'
  have hchunk := nextChunk_within hi hlen hend
  simp only [scoWrite, exec_bind, exec_state, exec_ofExcept, hval]
  nth_rewrite 1 [hn]
  simp only [scoWriteLoop, if_neg hbuf, exec_bind, exec_ofExcept, hchunk, take_length,
    drop_length, scoWriteLoop_nil]
  rcases exec (scoWriteChunk c off buf) ⟨s, plan⟩ with ⟨_ | _, _⟩ <;> rfl

lemma scoWriteChunk_full {w : Sys Image} {buf : List UInt8} (hi : MemInv w.st)
    (hc : c < w.st.sb.clusterCount) (hst : (w.st.table c).state ≠ .present)
    (hlen : buf.length = scoClusterStoredLength w.st.sb c) (hnz : bufferAllZero buf = false)
    (hval : scoValidateWriteLocked w.st (c * w.st.sb.clusterSize + 0) buf.length = .ok ()) :
    exec (scoWriteChunk c 0 buf) w = exec (allocAndCommit c buf) w := by
  have hpos := hi.layout.stored_pos hc
  have hbuf : buf ≠ [] := length_pos_iff.mp (by omega)
  have hdecline : ∀ phys, scoWriteIsDataOnly ⟨⟨c * w.st.sb.clusterSize,
      scoClusterStoredLength w.st.sb c, (w.st.table c).state.extent⟩, phys⟩ 0 buf
      (scoClusterStoredLength w.st.sb c) = false := by
    intro phys
    cases hst' : (w.st.table c).state <;> simp_all [scoWriteIsDataOnly, MapState.extent]
  have htry : exec (scoTryWritePresentDataOnly c 0 buf) w = (.ok false, w) := by
    simp only [scoTryWritePresentDataOnly, exec_bind, exec_state, exec_ite, exec_throw,
      exec_ofExcept, lookup_cluster hi hc, if_neg hbuf, hval]
    rw [if_neg (by omega)]
    simp only [hdecline, exec_pure]
    rfl
  have hmat : exec (scoWriteMaterializedCluster c 0 buf) w = exec (allocAndCommit c buf) w := by
    simp only [scoWriteMaterializedCluster, exec_bind, exec_state, exec_ite, exec_throw, if_neg hbuf]
    rw [if_neg (by omega), if_pos ⟨trivial, hlen⟩, if_neg (by simp [hnz])]
  simp only [scoWriteChunk, exec_bind, htry, scoWriteMetadataCluster, exec_state, exec_ofExcept,
    hval, exec_ite]
  simp only [scoWriteClusterRange, exec_bind, exec_state, exec_ite, exec_throw, exec_ofExcept,
    lookup_cluster hi hc, if_neg hbuf]
  rw [if_neg (by simp), if_neg (by omega)]
  cases hst' : (w.st.table c).state with
  | present => exact absurd hst' hst
  | absent =>
    simp only [MapState.extent, exec_ite, exec_throw]
    rw [if_neg (by simp [hlen])]
    exact hmat
  | zero => exact hmat
  | discarded => exact hmat

lemma scoWriteChunk_inPlace {buf : List UInt8} (hi : MemInv s)
    (hc : c < s.sb.clusterCount) (hst : (s.table c).state = .present) (hbuf : buf ≠ [])
    (hend : off + buf.length ≤ scoClusterStoredLength s.sb c) (hnz : bufferAllZero buf = false)
    (hval : scoValidateWriteLocked s (c * s.sb.clusterSize + off) buf.length = .ok ()) :
    exec (scoWriteChunk c off buf) ⟨s, []⟩ =
      (.ok (), ⟨(Event.overwrite c off buf buf.length).apply s, []⟩) := by
  have hlen : 0 < buf.length := length_pos_iff.mpr hbuf
  have hdiv : c * s.sb.clusterSize / s.sb.clusterSize = c := Nat.mul_div_cancel c hi.layout.cluster_pos
  simp only [scoWriteChunk, scoTryWritePresentDataOnly, scoWritePresentClusterData, exec_bind,
    exec_state, exec_ite, exec_throw, exec_ofExcept, lookup_cluster hi hc, if_neg hbuf, hval,
    hst, if_true, hdiv, scoWriteIsDataOnly, MapState.extent, hnz, exec_update]
  rw [if_neg (by omega)]
  simp only [ne_eq, not_true_eq_false, if_false, Bool.false_eq_true, and_false]
  rw [if_neg (by omega)]
  simp only [writeExact_nofail hbuf, Event.apply, take_length, exec_pure]
  rfl

lemma scoDiscardLoop_zero (cs vs fuel offset : Nat) (w : Sys Image) :
    exec (scoDiscardLoop cs vs fuel offset 0) w = (.ok (), w) := by cases fuel <;> rfl

lemma scoDiscard_one (plan : List Fault) (hi : MemInv s)
    (hc : c < s.sb.clusterCount) (hro : s.readonly = false) (hun : s.sb.isSealed = false)
    (hgen : (s.table c).generation ≠ UINT32_MAX) :
    exec (scoDiscard (c * s.sb.clusterSize) (scoClusterStoredLength s.sb c)) ⟨s, plan⟩ =
      exec (commitEntry c (s.nextEntry c .discarded 0)) ⟨s, plan⟩ := by
  have hpos := hi.layout.stored_pos hc
  have hcut := nextChunk_within hi hpos (Nat.le_of_eq (Nat.zero_add (scoClusterStoredLength s.sb c)))
  rw [Nat.add_zero] at hcut
  have hrange : c * s.sb.clusterSize + scoClusterStoredLength s.sb c ≤ s.sb.virtualSize := by
    have := hi.layout.lt_count_iff.mp hc
    rw [stored_eq_min]
    omega
  have hcommit : exec (scoCommitTableEntry c .discarded 0) ⟨s, plan⟩ =
      exec (commitEntry c (s.nextEntry c .discarded 0)) ⟨s, plan⟩ :=
    scoCommitTableEntry_eq hc rfl hgen
  have hone : exec (scoDiscardClusterRange c 0 (scoClusterStoredLength s.sb c)) ⟨s, plan⟩ =
      exec (commitEntry c (s.nextEntry c .discarded 0)) ⟨s, plan⟩ := by
    simp only [scoDiscardClusterRange, exec_bind, exec_state, exec_ite, exec_throw, exec_ofExcept,
      lookup_cluster hi hc, if_neg hpos.ne']
    rw [if_neg (by omega), if_pos ⟨trivial, trivial⟩, hcommit]
  obtain ⟨n, hn⟩ := Nat.exists_eq_succ_of_ne_zero hpos.ne'
  simp only [scoDiscard, exec_bind, exec_state, exec_ite, hro, hun]
  rw [if_neg (by decide), if_neg (by omega)]
  nth_rewrite 1 [hn]
  simp only [scoDiscardLoop, if_neg hpos.ne', exec_bind, exec_ofExcept, hcut, hone, Nat.sub_self,
    scoDiscardLoop_zero]
  rcases exec (commitEntry c (s.nextEntry c .discarded 0)) ⟨s, plan⟩ with ⟨_ | _, _⟩ <;> rfl

lemma commitEntry_unsynced (s : Image) (c : Nat) (e : TableEntry) (err : Errno) (n : Nat) :
    exec (commitEntry c e) ⟨s, [.none, .fail err n]⟩ =
      (.error err, ⟨s.failedSlot c e SCO_TABLE_SLOT_SIZE, []⟩) := by rfl

lemma commitEntry_unwritten (s : Image) (c : Nat) (e : TableEntry) (err : Errno) :
    exec (commitEntry c e) ⟨s, [.fail err 0]⟩ = (.error err, ⟨s.failedSlot c e 0, []⟩) := by rfl

lemma read_nofail (hi : MemInv s) {b n : Nat} (hend : b + n ≤ s.sb.virtualSize) :
    (exec (scoRead b n) ⟨s, []⟩).1 = .ok (get s.flat b n) := by
  rcases hx : exec (scoRead b n) ⟨s, []⟩ with ⟨r, w⟩
  rcases (scoRead_run (w := ⟨s, []⟩) hi hend hx).result with hr | ⟨-, hplan⟩
  · exact hr
  · exact absurd rfl hplan

lemma read_byte (hi : MemInv s) {b : Nat} {x : UInt8} (hb : b < s.sb.virtualSize)
    (hv : s.view b = some x) : (exec (scoRead b 1) ⟨s, []⟩).1 = .ok [x] := by
  have hflat : Bytes.get s.flat b 1 = [s.flat b] := rfl
  rw [read_nofail hi (Nat.succ_le_of_lt hb), hflat, Image.flat, hv]
  rfl

lemma read_two (hi : MemInv s) (hend : 2 ≤ s.sb.virtualSize) {x y : UInt8} (hx : s.view 0 = some x)
    (hy : s.view 1 = some y) : (exec (scoRead 0 2) ⟨s, []⟩).1 = .ok [x, y] := by
  have hflat : Bytes.get s.flat 0 2 = [s.flat 0, s.flat 1] := rfl
  rw [read_nofail hi (by rwa [Nat.zero_add]), hflat, Image.flat, Image.flat, hx, hy]
  rfl

lemma small_stored : scoClusterStoredLength smallSuperblock 0 = 2 := by decide

lemma small_fresh (h : scoOpen smallFile false = .ok s) : s.sb = smallSuperblock ∧ s.table 0 = .unmapped ∧
    s.readonly = false ∧ s.dataClusterBase = 1 ∧ s.dataClusterCount = 0 := by
  have ho := opened_of_scoOpen h
  obtain ⟨hs, hdisk⟩ := small_disk
  have hsb : s.sb = smallSuperblock := (opened_created (by decide) small_layout ho).1
  obtain ⟨-, htable, -⟩ := hdisk.opened hs ⟨nofun, nofun, nofun⟩ ho
  have halloc := ho.allocator
  rw [hsb] at halloc
  obtain ⟨hbase, hcount, -⟩ := allocatorInit_spec halloc
  refine ⟨hsb, htable 0 (by decide), ho.readonly_eq, hbase, ?_⟩
  have hzero : dataClusters smallSuperblock smallFile.size = .ok 0 := by decide
  exact Except.ok.inj (hcount.symm.trans hzero)

lemma small_choose (hbase : s.dataClusterBase = 1) (hcount : s.dataClusterCount = 0) :
    (exec chooseCluster ⟨s, []⟩).1 = .ok 1 := by
  have hnone : findUnused s = none := by
    rw [findUnused, hcount]
    rfl
  simp only [chooseCluster, exec_bind, exec_state, hnone, growDataArea, hbase, hcount, exec_ite,
    exec_throw, exec_update, exec_pure]
  rw [if_neg (by decide), if_neg (by decide)]

lemma small_alloc (h : scoOpen smallFile false = .ok s) :
    ∃ w, exec (scoAllocDataCluster 0 [1, 1]) ⟨s, []⟩ = (.ok 0x40000, w) := by
  have hi := opened_memInv (opened_of_scoOpen h)
  obtain ⟨hsb, -, -, hbase, hcount⟩ := small_fresh h
  have hchoose := small_choose hbase hcount
  rcases hx : exec chooseCluster ⟨s, []⟩ with ⟨r, ⟨t, plan⟩⟩
  rw [hx] at hchoose
  obtain rfl : r = .ok 1 := hchoose
  have hran := (chooseCluster_run hx).1
  obtain rfl : plan = [] := hran.plan rfl
  have htsb : t.sb = smallSuperblock := (hran.sameView hi).sb.trans hsb
  have hstored := small_stored
  have hcs : smallSuperblock.clusterSize = 0x40000 := rfl
  simp only [scoAllocDataCluster, exec_bind, exec_state, exec_ite, hsb, hstored, hx, writeDataCluster,
    exec_update, htsb, hcs, exec_throw]
  exact ⟨_, rfl⟩

lemma small_materialize (h : scoOpen smallFile false = .ok s) :
    ∃ t, exec (allocAndCommit 0 [1, 1]) ⟨s, []⟩ = (.ok (), ⟨t, []⟩) ∧ t.sb = smallSuperblock ∧
      t.readonly = s.readonly ∧ t.table 0 = ⟨1, 1, .present, .a⟩ := by
  have hi := opened_memInv (opened_of_scoOpen h)
  obtain ⟨hsb, htable, -⟩ := small_fresh h
  have hone : (0 : Nat) < s.sb.clusterCount := by rw [hsb]; decide
  have hlen : [1, 1].length = scoClusterStoredLength s.sb 0 := by rw [hsb, small_stored]; rfl
  obtain ⟨⟨t, plan⟩, halloc⟩ := small_alloc h
  obtain ⟨hran, hfill⟩ := scoAllocDataCluster_run (w := ⟨s, []⟩) hi hone hlen halloc
  obtain rfl : plan = [] := hran.plan rfl
  have hsame := hran.sameView hi
  have htsb : t.sb = smallSuperblock := hsame.sb.trans hsb
  have hi2 : MemInv (t.push .sync) := (hran.memInv hi).push _
  obtain ⟨p, hp, hf⟩ := hfill _ rfl
  have hready : (t.push .sync).Ready 0 0x40000 p := by
    have hoff : p * t.sb.clusterSize = 0x40000 := by rw [hsame.sb]; exact hp.symm
    rw [← hoff]
    exact hf.ready
  have hcc : commitCluster (t.push .sync) .present 0x40000 = .ok 1 := by
    simp only [commitCluster, push_sb, htsb]
    decide
  have hentry : (t.push .sync).table 0 = .unmapped := by
    rw [push_table, hsame.table]
    exact htable
  have hgen : ((t.push .sync).table 0).generation ≠ UINT32_MAX := by
    rw [hentry]
    decide
  have hc : 0 < (t.push .sync).sb.clusterCount := by
    rw [push_sb, htsb]
    decide
  have hnext := nextEntry_ok hi2 (fun _ => ⟨p, hready⟩) hc hcc hgen
  simp only [allocAndCommit, exec_bind, halloc, fsync_nofail]
  rw [scoCommitTableEntry_eq hc hcc hgen]
  rcases hy : exec (commitEntry 0 _) ⟨t.push .sync, []⟩ with ⟨r, ⟨u, plan⟩⟩
  rcases commitEntry_run hi2 hnext hy with ⟨-, hplan, -⟩ | ⟨rfl, plan', hplan', hrest⟩
  · exact absurd rfl hplan
  have hafter := hrest.sameView (step_memInv hi2 (show Step _ (.commit _ _) _ from ⟨hnext, rfl⟩))
  obtain rfl : plan = [] := hrest.plan (hplan' rfl)
  refine ⟨u, rfl, hafter.sb.trans htsb, hafter.readonly.trans hsame.readonly, ?_⟩
  have hset : setEntry (t.push .sync).table 0 ((t.push .sync).nextEntry 0 .present 1) 0 =
      (t.push .sync).nextEntry 0 .present 1 := entry_same _ _ _
  rw [hafter.table]
  exact hset.trans (by rw [Image.nextEntry, hentry]; rfl)

lemma small_write (h : scoOpen smallFile false = .ok s) :
    ∃ t, exec (scoWrite [1, 1] 0) ⟨s, []⟩ = (.ok (), ⟨t, []⟩) ∧ t.sb = smallSuperblock ∧
      t.readonly = false ∧ t.table 0 = ⟨1, 1, .present, .a⟩ := by
  have hi := opened_memInv (opened_of_scoOpen h)
  obtain ⟨hsb, htable, hro, -⟩ := small_fresh h
  obtain ⟨t, ht, htsb, htro, htable'⟩ := small_materialize h
  have hval : scoValidateWriteLocked s 0 2 = .ok () := by
    simp only [scoValidateWriteLocked, hro, hsb]
    decide
  refine ⟨t, ?_, htsb, htro.trans hro, htable'⟩
  have hlen : [1, 1].length = scoClusterStoredLength s.sb 0 := by rw [hsb, small_stored]; rfl
  have hone := scoWrite_one [1, 1] [] hi (by decide)
    (Nat.le_of_eq ((Nat.zero_add _).trans hlen)) (by rw [Nat.zero_mul]; exact hval)
  rw [Nat.zero_mul] at hone
  rw [hone, scoWriteChunk_full hi (by rw [hsb]; decide) (by rw [htable]; decide) hlen (by decide)
    (by rw [Nat.zero_mul]; exact hval), ht]

lemma small_overwrite (hi : MemInv s) (hsb : s.sb = smallSuperblock) (hro : s.readonly = false)
    (hpres : (s.table 0).state = .present) {i : Nat} (hlt : i < 2) {x : UInt8} (hx : x ≠ 0) :
    exec (scoWrite [x] i) ⟨s, []⟩ = (.ok (), ⟨(Event.overwrite 0 i [x] 1).apply s, []⟩) := by
  have hun : smallSuperblock.isSealed = false := by decide
  have hvs : smallSuperblock.virtualSize = 2 := rfl
  have hval : scoValidateWriteLocked s (0 * s.sb.clusterSize + i) [x].length = .ok () := by
    simp only [scoValidateWriteLocked, hro, hsb, hun, Nat.zero_mul, Nat.zero_add, hvs, length_singleton]
    rw [if_neg (by decide), if_neg (by omega)]
  have hend : i + [x].length ≤ scoClusterStoredLength s.sb 0 := by
    rw [hsb, small_stored, length_singleton]
    omega
  have hone := scoWrite_one [x] [] hi (cons_ne_nil _ _) hend hval
  rw [Nat.zero_mul, Nat.zero_add] at hone
  rw [hone]
  exact scoWriteChunk_inPlace hi (by rw [hsb]; decide) hpres (cons_ne_nil _ _) hend
    (by simp [bufferAllZero, hx]) hval

end ScorpiHv.Sco

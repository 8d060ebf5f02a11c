import ScorpiHv.Virtio.Getchain

/-!
# Flattened chains

The chain a head names, with every indirect table expanded in place, and the
agreement of `vq_getchain` with it.
-/

namespace ScorpiHv.Virtio
open Bytes List

/-- The descriptors of an indirect table from entry `i` on. -/
inductive TableChain (mem : Store) (table size : Nat) : Nat → List VringDesc → Prop where
  | last {i : Nat} {d : VringDesc} : i < size → d = .load mem (table + VringDesc.size * i) →
      d.isIndirect = false → d.hasNext = false → TableChain mem table size i [d]
  | next {i : Nat} {d : VringDesc} {ds : List VringDesc} : i < size →
      d = .load mem (table + VringDesc.size * i) → d.isIndirect = false → d.hasNext = true →
      TableChain mem table size d.next ds → TableChain mem table size i (d :: ds)

structure VringDesc.Table (d : VringDesc) (env : WalkEnv) : Prop where
  isIndirect : d.isIndirect = true
  offered : env.indirect = true
  whole : d.len % 16 = 0
  nonempty : d.len / 16 ≠ 0

/-- The buffers that one entry of the descriptor table stands for. -/
inductive Expands (env : WalkEnv) (d : VringDesc) : List VringDesc → Prop where
  | direct : d.isIndirect = false → Expands env d [d]
  | table {ds : List VringDesc} : d.Table env → paddrGuest2host env.ram d.addr d.len ≠ 0 →
      TableChain env.mem (paddrGuest2host env.ram d.addr d.len) (d.len / 16) 0 ds →
      Expands env d ds

/-- The flattened chain that starts at entry `i` of the descriptor table. -/
inductive FlatChain (env : WalkEnv) (vq : VqueueInfo) : Nat → List VringDesc → Prop where
  | last {i : Nat} {ds : List VringDesc} : i < vq.qsize → Expands env (vq.descAt env.mem i) ds →
      (vq.descAt env.mem i).hasNext = false → FlatChain env vq i ds
  | next {i : Nat} {ds rest : List VringDesc} : i < vq.qsize →
      Expands env (vq.descAt env.mem i) ds → (vq.descAt env.mem i).hasNext = true →
      FlatChain env vq (vq.descAt env.mem i).next rest → FlatChain env vq i (ds ++ rest)

/-- Within a budget of `k` buffers the chain runs into an indirect descriptor whose table
is not mapped. -/
inductive Strays (env : WalkEnv) (vq : VqueueInfo) : Nat → Nat → Prop where
  | here {i k : Nat} : i < vq.qsize → (vq.descAt env.mem i).Table env →
      paddrGuest2host env.ram (vq.descAt env.mem i).addr (vq.descAt env.mem i).len = 0 →
      0 < k → Strays env vq i k
  | next {i k : Nat} {ds : List VringDesc} : i < vq.qsize →
      Expands env (vq.descAt env.mem i) ds → (vq.descAt env.mem i).hasNext = true →
      Strays env vq (vq.descAt env.mem i).next k → Strays env vq i (ds.length + k)

def Walk.recordAll (env : WalkEnv) (w : Walk) (ds : List VringDesc) : Walk :=
  ds.foldl (Walk.record env) w

section

variable {env : WalkEnv} {w : Walk}

@[simp] lemma Walk.recordAll_append (ds ds' : List VringDesc) :
    w.recordAll env (ds ++ ds') = (w.recordAll env ds).recordAll env ds' :=
  foldl_append ..

@[simp] lemma Walk.recordAll_i (ds : List VringDesc) : (w.recordAll env ds).i = w.i + ds.length := by
  induction ds generalizing w with
  | nil => rfl
  | cons d ds ih =>
    change ((w.record env d).recordAll env ds).i = _
    rw [ih, Walk.record_i, length_cons]
    omega

lemma Walk.recordAll_iov (ds : List VringDesc) (k : Nat) : (w.recordAll env ds).iov k = if w.i ≤ k ∧
      k < env.niov then (ds[k - w.i]?.map (·.buffer env.ram)).getD (w.iov k) else w.iov k := by
  induction ds generalizing w with
  | nil => simp [Walk.recordAll]
  | cons d ds ih =>
    change ((w.record env d).recordAll env ds).iov k = _
    rw [ih, Walk.record_i]
    have hiov : (w.record env d).iov k =
        if k = w.i ∧ w.i < env.niov then d.buffer env.ram else w.iov k := by
      unfold Walk.record vqRecord
      split
      · rw [if_neg (by omega)]
      rename_i hn
      by_cases hk : k = w.i
      · subst hk
        simp [Nat.lt_of_not_le hn]
      · simp [hk]
    by_cases hk : k = w.i
    · subst hk
      by_cases hn : w.i < env.niov
      · simp [hiov, hn]
      · simp [hiov, hn]
    · have hkeep : (w.record env d).iov k = w.iov k := by rw [hiov, if_neg (fun h => hk h.1)]
      rw [hkeep]
      by_cases hle : w.i ≤ k ∧ k < env.niov
      · rw [if_pos (by omega), if_pos hle]
        obtain ⟨j, hj⟩ : ∃ j, k - w.i = j + 1 := ⟨k - w.i - 1, by omega⟩
        rw [hj, show k - (w.i + 1) = j by omega, List.getElem?_cons_succ]
      · rw [if_neg (by omega), if_neg hle]

lemma Walk.recordAll_req (env : WalkEnv) (w : Walk) (ds : List VringDesc) :
    (w.recordAll env ds).req.idx = w.req.idx ∧
    (w.recordAll env ds).req.readable =
      w.req.readable + (ds.take (env.niov - w.i)).countP (fun d => !d.isWrite) ∧
    (w.recordAll env ds).req.writable =
      w.req.writable + (ds.take (env.niov - w.i)).countP (·.isWrite) := by
  induction ds generalizing w with
  | nil => simp [Walk.recordAll]
  | cons d ds ih =>
    change ((w.record env d).recordAll env ds).req.idx = _ ∧ _ ∧ _
    obtain ⟨hidx, hread, hwrite⟩ := ih (w.record env d)
    change _ ∧ ((w.record env d).recordAll env ds).req.readable = _ ∧
      ((w.record env d).recordAll env ds).req.writable = _
    rw [hidx, hread, hwrite, Walk.record_i]
    unfold Walk.record vqRecord
    by_cases hn : env.niov ≤ w.i
    · simp [hn, Nat.sub_eq_zero_of_le hn, Nat.sub_eq_zero_of_le (Nat.le_succ_of_le hn)]
    obtain ⟨j, hj⟩ : ∃ j, env.niov - w.i = j + 1 := ⟨env.niov - w.i - 1, by omega⟩
    rw [hj, show env.niov - (w.i + 1) = j by omega, take_succ_cons]
    cases hw : d.isWrite <;> simp [hn, hw] <;> omega

end

section

variable {env : WalkEnv} {vq : VqueueInfo} {table size next : Nat} {w w' : Walk}
  {log log' : List DescRead} {ds : List VringDesc}

lemma indirectLoop_sound (h : indirectLoop env table size next w log = (.done, w', log'))
    (hnext : next < size) : ∃ ds, TableChain env.mem table size next ds ∧ w' = w.recordAll env ds ∧
    w'.i ≤ VQ_MAX_DESCRIPTORS := by
  fun_induction indirectLoop env table size next w log with
  | case1 | case2 | case4 => simp at h
  | case3 next w log vp log₁ hind hmax hlast =>
    have hw : _ = w' := congrArg (fun r => r.2.1) h
    refine ⟨[vp], .last hnext rfl (by simpa using hind) (by simpa using hlast), hw.symm, ?_⟩
    rw [← hw]
    exact Nat.le_of_not_lt hmax
  | case5 next w log vp log₁ hind hmax hmore hlt ih =>
    obtain ⟨ds, hds, hw, hle⟩ := ih h (Nat.lt_of_not_le hlt)
    exact ⟨vp :: ds, .next hnext rfl (by simpa using hind) (by simpa using hmore) hds, hw, hle⟩

lemma indirectLoop_complete (log : List DescRead) (h : TableChain env.mem table size next ds)
    (hle : w.i + ds.length ≤ VQ_MAX_DESCRIPTORS) :
    ∃ log', indirectLoop env table size next w log = (.done, w.recordAll env ds, log') := by
  induction h generalizing w log with
  | last hi hd hind hlast =>
    subst hd
    have hmax : ¬ VQ_MAX_DESCRIPTORS < w.i + 1 := Nat.not_lt.mpr hle
    rw [indirectLoop]
    simp only [hind, hlast, hmax, if_false, Bool.false_eq_true, Bool.not_false, if_true]
    exact ⟨_, rfl⟩
  | @next i d ds hi hd hind hmore hds ih =>
    subst hd
    rw [length_cons] at hle
    have hmax : ¬ VQ_MAX_DESCRIPTORS < w.i + 1 := by omega
    have hlt : ¬ size ≤ (VringDesc.load env.mem (table + VringDesc.size * i)).next := by cases hds <;> omega
    rw [indirectLoop]
    simp only [hind, hmore, hmax, hlt, if_false, Bool.false_eq_true, Bool.not_true]
    exact ih _ (by rw [Walk.record_i]; omega)

lemma indirectLoop_ne_nullTable : (indirectLoop env table size next w log).1 ≠ .nullTable := by
  fun_induction indirectLoop env table size next w log with
  | case5 _ _ _ _ _ _ _ _ _ ih => exact ih
  | _ => simp

variable {d : VringDesc}

lemma Expands.of_indirectLoop (ht : d.Table env) (hmap : paddrGuest2host env.ram d.addr d.len ≠ 0)
    (h : indirectLoop env (paddrGuest2host env.ram d.addr d.len) (d.len / 16) 0 w log = (.done, w', log')) :
    ∃ ds, Expands env d ds ∧ w' = w.recordAll env ds ∧ w'.i ≤ VQ_MAX_DESCRIPTORS := by
  obtain ⟨ds, hds, hw, hle⟩ := indirectLoop_sound h (Nat.pos_of_ne_zero ht.nonempty)
  exact ⟨ds, .table ht hmap hds, hw, hle⟩

lemma VringDesc.Table.of_guards (hind : ¬ (!d.isIndirect) = true) (hoffer : ¬ (!env.indirect) = true)
    (hlen : ¬ (d.len % 16 ≠ 0 ∨ d.len / 16 = 0)) : d.Table env where
  isIndirect := by simpa using hind
  offered := by simpa using hoffer
  whole := by_contra fun h => hlen (Or.inl h)
  nonempty := fun h => hlen (Or.inr h)

lemma mainLoop_expands (log : List DescRead) (hi : next < vq.qsize) (hw : w.i < VQ_MAX_DESCRIPTORS)
    (hx : Expands env (vq.descAt env.mem next) ds) (hle : w.i + ds.length ≤ VQ_MAX_DESCRIPTORS) :
    ∃ log', mainLoop env vq next w log =
      if (vq.descAt env.mem next).hasNext then
        mainLoop env vq (vq.descAt env.mem next).next (w.recordAll env ds) log'
      else (.done, w.recordAll env ds, log') := by
  rw [mainLoop, if_neg (Nat.not_le.mpr hw), if_neg (Nat.not_le.mpr hi)]
  cases hx with
  | direct hind =>
    simp only [hind, Bool.not_false, if_true]
    exact ⟨_, rfl⟩
  | table ht hmap hds =>
    obtain ⟨log', hloop⟩ := indirectLoop_complete (log ++ [.main next]) hds hle
    have hlen : ¬ ((vq.descAt env.mem next).len % 16 ≠ 0 ∨ (vq.descAt env.mem next).len / 16 = 0) :=
      not_or.mpr ⟨not_not.mpr ht.whole, ht.nonempty⟩
    refine ⟨log', ?_⟩
    simp only [ht.isIndirect, ht.offered, hlen, hmap, Bool.not_true, Bool.false_eq_true, if_false]
    split
    next w' log'' heq =>
      rw [hloop] at heq
      cases heq
      rfl
    next hne => exact absurd hloop (hne _ _)

lemma mainLoop_sound (h : mainLoop env vq next w log = (.done, w', log')) :
    ∃ ds, FlatChain env vq next ds ∧ w' = w.recordAll env ds ∧ w'.i ≤ VQ_MAX_DESCRIPTORS := by
  fun_induction mainLoop env vq next w log with
  | case1 | case2 | case5 | case6 | case7 => simp at h
  | case3 next w log hw hi vdir log₁ hind hmore ih =>
    obtain ⟨ds, hds, hw', hle⟩ := ih h
    exact ⟨[vdir] ++ ds, .next (Nat.lt_of_not_le hi) (.direct (by simpa using hind)) hmore hds, hw', hle⟩
  | case4 next w log hw hi vdir log₁ hind hlast =>
    have hw' : _ = w' := congrArg (fun r => r.2.1) h
    refine ⟨[vdir], .last (Nat.lt_of_not_le hi) (.direct (by simpa using hind))
      (by simpa using hlast), hw'.symm, ?_⟩
    rw [← hw']
    exact Nat.lt_of_not_le hw
  | case8 next w log hw hi vdir log₁ hind hoffer hlen vindir hmap w₁ log₂ hloop hmore ih =>
    obtain ⟨ds, hds, rfl, hle⟩ := Expands.of_indirectLoop (.of_guards hind hoffer hlen) hmap hloop
    obtain ⟨rest, hrest, hw', hle'⟩ := ih h
    refine ⟨ds ++ rest, .next (Nat.lt_of_not_le hi) hds hmore hrest, ?_, hle'⟩
    rw [Walk.recordAll_append]
    exact hw'
  | case9 next w log hw hi vdir log₁ hind hoffer hlen vindir hmap w₁ log₂ hloop hlast =>
    obtain ⟨ds, hds, rfl, hle⟩ := Expands.of_indirectLoop (.of_guards hind hoffer hlen) hmap hloop
    have hw' : _ = w' := congrArg (fun r => r.2.1) h
    subst hw'
    exact ⟨ds, .last (Nat.lt_of_not_le hi) hds (by simpa using hlast), rfl, hle⟩
  | case10 next w log hw hi vdir log₁ hind hoffer hlen vindir hmap hne => exact absurd h (hne _ _)

lemma FlatChain.ne_nil (h : FlatChain env vq next ds) : 0 < ds.length := by
  have hx : ∀ {d : VringDesc} {ds : List VringDesc}, Expands env d ds → 0 < ds.length := by
    intro d ds hx
    cases hx with
    | direct => exact Nat.one_pos
    | table _ _ hds => cases hds <;> exact Nat.succ_pos _
  cases h with
  | last _ hds => exact hx hds
  | next _ hds => rw [length_append]; have := hx hds; omega

lemma mainLoop_complete (log : List DescRead) (h : FlatChain env vq next ds)
    (hle : w.i + ds.length ≤ VQ_MAX_DESCRIPTORS) :
    ∃ log', mainLoop env vq next w log = (.done, w.recordAll env ds, log') := by
  induction h generalizing w log with
  | last hi hx hlast =>
    have hpos := (FlatChain.last hi hx hlast).ne_nil
    obtain ⟨log', hstep⟩ := mainLoop_expands (w := w) log hi (by omega) hx hle
    rw [hlast] at hstep
    exact ⟨log', hstep⟩
  | @next i ds rest hi hx hmore hrest ih =>
    have hpos := hrest.ne_nil
    rw [length_append] at hle
    obtain ⟨log', hstep⟩ := mainLoop_expands (w := w) log hi (by omega) hx (by omega)
    rw [hmore] at hstep
    obtain ⟨log'', hloop⟩ := ih (w := w.recordAll env ds) log' (by rw [Walk.recordAll_i]; omega)
    exact ⟨log'', by rw [Walk.recordAll_append, ← hloop]; exact hstep⟩

lemma mainLoop_strays (h : mainLoop env vq next w log = (.nullTable, w', log')) :
    Strays env vq next (VQ_MAX_DESCRIPTORS - w.i) := by
  fun_induction mainLoop env vq next w log with
  | case1 | case2 | case4 | case5 | case6 | case9 => simp at h
  | case3 next w log hw hi vdir log₁ hind hmore ih =>
    have hs := Strays.next (Nat.lt_of_not_le hi) (.direct (by simpa using hind)) hmore (ih h)
    rwa [show VQ_MAX_DESCRIPTORS - w.i = 1 + (VQ_MAX_DESCRIPTORS - (w.i + 1)) by omega]
  | case7 next w log hw hi vdir log₁ hind hoffer hlen vindir hmap =>
    exact .here (Nat.lt_of_not_le hi) (.of_guards hind hoffer hlen) hmap (by omega)
  | case8 next w log hw hi vdir log₁ hind hoffer hlen vindir hmap w₁ log₂ hloop hmore ih =>
    obtain ⟨ds, hds, rfl, hle⟩ := Expands.of_indirectLoop (.of_guards hind hoffer hlen) hmap hloop
    rw [Walk.recordAll_i] at hle ih
    have hs := Strays.next (Nat.lt_of_not_le hi) hds hmore (ih h)
    rwa [show VQ_MAX_DESCRIPTORS - w.i = ds.length + (VQ_MAX_DESCRIPTORS - (w.i + ds.length)) by omega]
  | case10 => exact absurd (congrArg Prod.fst h) indirectLoop_ne_nullTable

variable {k : Nat}

lemma Strays.pos (h : Strays env vq next k) : 0 < k := by
  induction h with
  | here _ _ _ hk => exact hk
  | next _ _ _ _ ih => exact Nat.add_pos_right _ ih

lemma Strays.mainLoop (h : Strays env vq next k) (hle : w.i + k ≤ VQ_MAX_DESCRIPTORS) :
    (mainLoop env vq next w log).1 = .nullTable := by
  induction h generalizing w log with
  | @here i k hi ht hmap =>
    have hlen : ¬ ((vq.descAt env.mem i).len % 16 ≠ 0 ∨ (vq.descAt env.mem i).len / 16 = 0) :=
      not_or.mpr ⟨not_not.mpr ht.whole, ht.nonempty⟩
    rw [Virtio.mainLoop, if_neg (by omega), if_neg (Nat.not_le.mpr hi)]
    simp only [ht.isIndirect, ht.offered, hlen, hmap, Bool.not_true, Bool.false_eq_true, if_false, if_true]
  | @next i k ds hi hx hmore hrest ih =>
    have hk := hrest.pos
    obtain ⟨log', hstep⟩ := mainLoop_expands (w := w) log hi (by omega) hx (by omega)
    rw [hmore] at hstep
    rw [hstep]
    exact ih (by rw [Walk.recordAll_i]; omega)

def DescRead.Within (vq : VqueueInfo) : DescRead → Prop
  | .main i => i < vq.qsize
  | .indirect _ size i => i < size

def mainReads (log : List DescRead) : Nat := log.countP DescRead.isMain

def tableReads (log : List DescRead) : Nat := log.countP fun r => !r.isMain

@[simp] lemma mainReads_main (i : Nat) : mainReads (log ++ [.main i]) = mainReads log + 1 := by
  simp [mainReads, DescRead.isMain]

@[simp] lemma mainReads_indirect (i : Nat) :
    mainReads (log ++ [.indirect table size i]) = mainReads log := by
  simp [mainReads, DescRead.isMain]

@[simp] lemma tableReads_main (i : Nat) : tableReads (log ++ [.main i]) = tableReads log := by
  simp [tableReads, DescRead.isMain]

@[simp] lemma tableReads_indirect (i : Nat) :
    tableReads (log ++ [.indirect table size i]) = tableReads log + 1 := by
  simp [tableReads, DescRead.isMain]

variable {i : Nat}

lemma within_main (h : ∀ r ∈ log, r.Within vq) (hi : i < vq.qsize) :
    ∀ r ∈ log ++ [.main i], r.Within vq := by
  intro r hmem
  rcases mem_append.mp hmem with hmem | hmem
  · exact h r hmem
  · rw [mem_singleton.mp hmem]
    exact hi

lemma within_table (h : ∀ r ∈ log, r.Within vq) (hi : i < size) :
    ∀ r ∈ log ++ [.indirect table size i], r.Within vq := by
  intro r hmem
  rcases mem_append.mp hmem with hmem | hmem
  · exact h r hmem
  · rw [mem_singleton.mp hmem]
    exact hi

lemma main_read_reads (hi : i < vq.qsize) (hw : w.i < VQ_MAX_DESCRIPTORS)
    (hin : ∀ r ∈ log, r.Within vq) (hm : mainReads log ≤ w.i) (ht : tableReads log ≤ w.i) :
    (∀ d ∈ log ++ [.main i], d.Within vq) ∧ mainReads (log ++ [.main i]) ≤ VQ_MAX_DESCRIPTORS ∧
    tableReads (log ++ [.main i]) ≤ VQ_MAX_DESCRIPTORS + 1 := by
  refine ⟨within_main hin hi, ?_, ?_⟩
  · rw [mainReads_main]
    omega
  · rw [tableReads_main]
    omega

variable {r : WalkEnd × Walk × List DescRead}

lemma indirectLoop_reads (hnext : next < size) (hw : w.i ≤ VQ_MAX_DESCRIPTORS)
    (hin : ∀ r ∈ log, r.Within vq) (ht : tableReads log ≤ w.i)
    (hr : indirectLoop env table size next w log = r) :
    (∀ d ∈ r.2.2, d.Within vq) ∧ mainReads r.2.2 = mainReads log ∧
    tableReads r.2.2 ≤ VQ_MAX_DESCRIPTORS + 1 ∧ (r.1 = .done → tableReads r.2.2 ≤ r.2.1.i) := by
  subst hr
  fun_induction indirectLoop env table size next w log with
  | case1 next w log vp log₁ | case2 next w log vp log₁ | case4 next w log vp log₁ =>
    exact ⟨within_table hin hnext, by simp [log₁], by simp [log₁]; omega, by simp⟩
  | case3 next w log vp log₁ =>
    exact ⟨within_table hin hnext, by simp [log₁], by simp [log₁]; omega, by simp [log₁]; omega⟩
  | case5 next w log vp log₁ hind hmax hmore hlt ih =>
    have h := ih (Nat.lt_of_not_le hlt) (by rw [Walk.record_i]; omega) (within_table hin hnext)
      (by simp [log₁]; omega)
    simpa [log₁] using h

lemma mainLoop_reads (hw : w.i ≤ VQ_MAX_DESCRIPTORS) (hin : ∀ r ∈ log, r.Within vq)
    (hm : mainReads log ≤ w.i) (ht : tableReads log ≤ w.i) (hr : mainLoop env vq next w log = r) :
    (∀ d ∈ r.2.2, d.Within vq) ∧ mainReads r.2.2 ≤ VQ_MAX_DESCRIPTORS ∧
    tableReads r.2.2 ≤ VQ_MAX_DESCRIPTORS + 1 := by
  subst hr
  fun_induction mainLoop env vq next w log with
  | case1 | case2 => exact ⟨hin, by dsimp only; omega, by dsimp only; omega⟩
  | case3 next w log hi hlt vdir log₁ hind hmore ih =>
    exact ih (by rw [Walk.record_i]; omega) (within_main hin (Nat.lt_of_not_le hlt))
      (by simp [log₁]; omega) (by simp [log₁]; omega)
  | case4 next w log hi hlt | case5 next w log hi hlt | case6 next w log hi hlt
  | case7 next w log hi hlt => exact main_read_reads (Nat.lt_of_not_le hlt) (Nat.lt_of_not_le hi) hin hm ht
  | case8 next w log hi hlt vdir log₁ hind hoffer hlen vindir hmap w₁ log₂ hloop hmore ih =>
    have htable := VringDesc.Table.of_guards hind hoffer hlen
    obtain ⟨hin', hm', ht', hdone⟩ := indirectLoop_reads (Nat.pos_of_ne_zero htable.nonempty) hw
      (within_main hin (Nat.lt_of_not_le hlt)) (by simp; omega) hloop
    have hgrow := indirectLoop_grows hloop
    obtain ⟨ds, -, -, hle⟩ := Expands.of_indirectLoop htable hmap hloop
    rw [mainReads_main] at hm'
    exact ih hle hin' (by dsimp only at hm'; omega) (hdone rfl)
  | case9 next w log hi hlt vdir log₁ hind hoffer hlen vindir hmap w₁ log₂ hloop =>
    have htable := VringDesc.Table.of_guards hind hoffer hlen
    obtain ⟨hin', hm', ht', -⟩ := indirectLoop_reads (Nat.pos_of_ne_zero htable.nonempty) hw
      (within_main hin (Nat.lt_of_not_le hlt)) (by simp; omega) hloop
    rw [mainReads_main] at hm'
    exact ⟨hin', by dsimp only at hm' ⊢; omega, ht'⟩
  | case10 next w log hi hlt vdir log₁ hind hoffer hlen =>
    have htable := VringDesc.Table.of_guards hind hoffer hlen
    obtain ⟨hin', hm', ht', -⟩ := indirectLoop_reads (Nat.pos_of_ne_zero htable.nonempty) hw
      (within_main hin (Nat.lt_of_not_le hlt)) (by simp; omega) rfl
    rw [mainReads_main] at hm'
    exact ⟨hin', hm'.le.trans (by omega), ht'⟩

end

/-- The call takes an entry: the guest published one, and no more than the ring holds. -/
def VqueueInfo.Takes (vq : VqueueInfo) (mem : Store) : Prop :=
  vq.availIdx mem ≠ vq.lastAvail ∧ (vq.availIdx mem - vq.lastAvail).toNat ≤ vq.qsize

instance (vq : VqueueInfo) (mem : Store) : Decidable (vq.Takes mem) :=
  inferInstanceAs (Decidable (_ ∧ _))

structure Getchain.IsChain (g : Getchain) (env : WalkEnv) (vq : VqueueInfo) (iov : Nat → Iovec)
    (ds : List VringDesc) : Prop where
  flat : FlatChain env vq (vq.head env.mem) ds
  ret : g.ret = some (ds.length : Int)
  bounded : ds.length ≤ VQ_MAX_DESCRIPTORS
  vq_eq : g.vq = { vq with lastAvail := vq.lastAvail + 1 }
  iov_eq : ∀ k, g.iov k =
    if k < env.niov then (ds[k]?.map (·.buffer env.ram)).getD (iov k) else iov k
  req_eq : g.req = some
    { readable := (ds.take env.niov).countP (fun d => !d.isWrite)
      writable := (ds.take env.niov).countP (·.isWrite)
      idx := vq.head env.mem }

section

variable {env : WalkEnv} {eventIdx : Bool} {vq : VqueueInfo} {iov : Nat → Iovec}

lemma availIdx_sub_eq_zero {mem : Store} :
    (vq.availIdx mem - vq.lastAvail).toNat = 0 ↔ vq.availIdx mem = vq.lastAvail := by
  constructor
  · intro h
    have hsub : vq.availIdx mem - vq.lastAvail = 0 := UInt16.toNat_inj.mp h
    exact sub_eq_zero.mp hsub
  · intro h
    rw [h, sub_self]
    rfl

lemma vqGetchain_empty (h : vq.availIdx env.mem = vq.lastAvail) :
    vqGetchain env eventIdx vq iov = { ret := some 0, vq, mem := env.mem, iov } := by
  rw [vqGetchain, if_pos (availIdx_sub_eq_zero.mpr h)]

lemma vqGetchain_confused (h : vq.availIdx env.mem ≠ vq.lastAvail) (h' : ¬ vq.Takes env.mem) :
    vqGetchain env eventIdx vq iov = { ret := some (-1), vq, mem := env.mem, iov } := by
  have hlt : vq.qsize < (vq.availIdx env.mem - vq.lastAvail).toNat :=
    Nat.lt_of_not_le fun hle => h' ⟨h, hle⟩
  rw [vqGetchain, if_neg (mt availIdx_sub_eq_zero.mp h), if_pos hlt]

lemma vqGetchain_eq_finish (eventIdx : Bool) (iov : Nat → Iovec) (h : vq.Takes env.mem) :
    vqGetchain env eventIdx vq iov = .finish env eventIdx { vq with lastAvail := vq.lastAvail + 1 }
        (mainLoop env vq (vq.head env.mem) (.start (vq.head env.mem) iov) []) := by
  rw [vqGetchain, if_neg (mt availIdx_sub_eq_zero.mp h.1), if_neg (Nat.not_lt.mpr h.2)]

lemma vqGetchain_of_loop (eventIdx : Bool) (h : vq.Takes env.mem) {ds : List VringDesc}
    {log : List DescRead} (hds : FlatChain env vq (vq.head env.mem) ds)
    (hle : ds.length ≤ VQ_MAX_DESCRIPTORS)
    (hloop : mainLoop env vq (vq.head env.mem) (.start (vq.head env.mem) iov) [] =
      (.done, (Walk.start (vq.head env.mem) iov).recordAll env ds, log)) :
    (vqGetchain env eventIdx vq iov).IsChain env vq iov ds := by
  rw [vqGetchain_eq_finish eventIdx iov h, hloop]
  refine ⟨hds, by simp [Getchain.finish], hle, rfl, fun k => ?_, ?_⟩
  · have hiov : ((Walk.start (vq.head env.mem) iov).recordAll env ds).iov k = _ := Walk.recordAll_iov ds k
    simpa [Getchain.finish] using hiov
  · obtain ⟨hidx, hread, hwrite⟩ := Walk.recordAll_req env (.start (vq.head env.mem) iov) ds
    exact congrArg some (ViReq.ext (hread.trans (Nat.zero_add _)) (hwrite.trans (Nat.zero_add _)) hidx)

lemma vqGetchain_isChain {eventIdx : Bool} (h : vq.Takes env.mem) {ds : List VringDesc}
    (hds : FlatChain env vq (vq.head env.mem) ds) (hle : ds.length ≤ VQ_MAX_DESCRIPTORS) :
    (vqGetchain env eventIdx vq iov).IsChain env vq iov ds := by
  obtain ⟨log, hloop⟩ := mainLoop_complete (w := .start (vq.head env.mem) iov) [] hds
    (by rw [Walk.start_i]; omega)
  exact vqGetchain_of_loop eventIdx h hds hle hloop

lemma vqGetchain_vq (env : WalkEnv) (eventIdx : Bool) (vq : VqueueInfo) (iov : Nat → Iovec) :
    ∃ lastAvail, (vqGetchain env eventIdx vq iov).vq = { vq with lastAvail } := by
  by_cases hidx : vq.availIdx env.mem = vq.lastAvail
  · exact ⟨vq.lastAvail, congrArg Getchain.vq (vqGetchain_empty hidx)⟩
  by_cases ht : vq.Takes env.mem
  · refine ⟨vq.lastAvail + 1, ?_⟩
    rw [vqGetchain_eq_finish eventIdx iov ht]
    rcases mainLoop env vq (vq.head env.mem) (.start (vq.head env.mem) iov) [] with ⟨e, w, log⟩
    cases e <;> rfl
  · exact ⟨vq.lastAvail, congrArg Getchain.vq (vqGetchain_confused hidx ht)⟩

lemma vqGetchain_takes (eventIdx : Bool) (iov : Nat → Iovec) (h : vq.Takes env.mem) :
    (∃ ds, (vqGetchain env eventIdx vq iov).IsChain env vq iov ds) ∨
    ((vqGetchain env eventIdx vq iov).ret = some (-1) ∧ (vqGetchain env eventIdx vq iov).req = none ∧
      ∀ ds, FlatChain env vq (vq.head env.mem) ds → VQ_MAX_DESCRIPTORS < ds.length) ∨
    ((vqGetchain env eventIdx vq iov).ret = none ∧
      Strays env vq (vq.head env.mem) VQ_MAX_DESCRIPTORS) := by
  obtain ⟨e, w, log, hloop⟩ : ∃ e w log, mainLoop env vq (vq.head env.mem)
      (.start (vq.head env.mem) iov) [] = (e, w, log) := ⟨_, _, _, rfl⟩
  have hcall := vqGetchain_eq_finish eventIdx iov h
  rw [hloop] at hcall
  cases e with
  | done =>
    obtain ⟨ds, hds, rfl, hle⟩ := mainLoop_sound hloop
    rw [Walk.recordAll_i, Walk.start_i, Nat.zero_add] at hle
    exact Or.inl ⟨ds, vqGetchain_of_loop eventIdx h hds hle hloop⟩
  | invalid =>
    refine Or.inr (Or.inl ⟨congrArg Getchain.ret hcall, congrArg Getchain.req hcall, fun ds hds => ?_⟩)
    by_contra hle
    obtain ⟨log', hdone⟩ := mainLoop_complete (w := .start (vq.head env.mem) iov) [] hds
      (by rw [Walk.start_i]; omega)
    rw [hloop] at hdone
    cases hdone
  | nullTable => exact Or.inr (Or.inr ⟨congrArg Getchain.ret hcall, mainLoop_strays hloop⟩)

lemma vqGetchain_strays (h : vq.Takes env.mem) (hs : Strays env vq (vq.head env.mem) VQ_MAX_DESCRIPTORS) :
    (vqGetchain env eventIdx vq iov).ret = none := by
  have hend : (mainLoop env vq (vq.head env.mem) (.start (vq.head env.mem) iov) []).1 =
      .nullTable :=
    hs.mainLoop (Nat.zero_add _).le
  rw [vqGetchain_eq_finish eventIdx iov h]
  rcases hloop : mainLoop env vq (vq.head env.mem) (.start (vq.head env.mem) iov) [] with
    ⟨e, w, log⟩
  rw [hloop] at hend
  subst hend
  rfl

lemma vqGetchain_reads (env : WalkEnv) (eventIdx : Bool) (vq : VqueueInfo) (iov : Nat → Iovec) :
    (∀ d ∈ (vqGetchain env eventIdx vq iov).log, d.Within vq) ∧
    mainReads (vqGetchain env eventIdx vq iov).log ≤ VQ_MAX_DESCRIPTORS ∧
    tableReads (vqGetchain env eventIdx vq iov).log ≤ VQ_MAX_DESCRIPTORS + 1 := by
  have hnone : (∀ d ∈ ([] : List DescRead), d.Within vq) ∧
      mainReads [] ≤ VQ_MAX_DESCRIPTORS ∧ tableReads [] ≤ VQ_MAX_DESCRIPTORS + 1 :=
    ⟨fun d hd => absurd hd not_mem_nil, Nat.zero_le _, Nat.zero_le _⟩
  by_cases hidx : vq.availIdx env.mem = vq.lastAvail
  · rw [vqGetchain_empty hidx]
    exact hnone
  by_cases ht : vq.Takes env.mem
  · rw [vqGetchain_eq_finish eventIdx iov ht]
    rcases hloop : mainLoop env vq (vq.head env.mem) (.start (vq.head env.mem) iov) [] with
      ⟨e, w, log⟩
    have hreads := mainLoop_reads (Nat.zero_le _) hnone.1 (Nat.zero_le _) (Nat.zero_le _) hloop
    cases e <;> exact hreads
  · rw [vqGetchain_confused hidx ht]
    exact hnone

structure Getchain.Faithful (g : Getchain) (env : WalkEnv) (vq : VqueueInfo)
    (iov : Nat → Iovec) : Prop where
  main_reads : mainReads g.log ≤ VQ_MAX_DESCRIPTORS
  table_reads : tableReads g.log ≤ VQ_MAX_DESCRIPTORS + 1
  within : ∀ d ∈ g.log, d.Within vq
  mapped : g.ret ≠ none
  empty : g.ret = some 0 ↔ vq.availIdx env.mem = vq.lastAvail
  chain : ∀ n : Int, 0 < n → g.ret = some n → ∃ ds, g.IsChain env vq iov ds
  split : ∀ n, g.ret = some n → 0 ≤ n ∨ n = -1
  reqp : ∀ req, g.req = some req → ∃ n : Int, 0 < n ∧ g.ret = some n ∧
    ((req.readable + req.writable : Nat) : Int) = min n env.niov

variable {g : Getchain}

lemma Getchain.Faithful.of_no_chain {n : Int} (hmain : mainReads g.log ≤ VQ_MAX_DESCRIPTORS)
    (htable : tableReads g.log ≤ VQ_MAX_DESCRIPTORS + 1) (hwithin : ∀ d ∈ g.log, d.Within vq)
    (hreq : g.req = none) (hn : n = 0 ∨ n = -1) (hret : g.ret = some n)
    (hempty : n = 0 ↔ vq.availIdx env.mem = vq.lastAvail) : g.Faithful env vq iov where
  main_reads := hmain
  table_reads := htable
  within := hwithin
  mapped := by simp [hret]
  empty := by simpa [hret] using hempty
  chain m hm hm' := by
    have : n = m := by simpa [hret] using hm'
    omega
  split m hm := by
    have : n = m := by simpa [hret] using hm
    omega
  reqp req h := by simp [hreq] at h

lemma Getchain.IsChain.pos {ds : List VringDesc} (h : g.IsChain env vq iov ds) :
    0 < ds.length := h.flat.ne_nil

lemma Getchain.IsChain.faithful {ds : List VringDesc} (h : g.IsChain env vq iov ds)
    (hidx : vq.availIdx env.mem ≠ vq.lastAvail) (hmain : mainReads g.log ≤ VQ_MAX_DESCRIPTORS)
    (htable : tableReads g.log ≤ VQ_MAX_DESCRIPTORS + 1) (hwithin : ∀ d ∈ g.log, d.Within vq) :
    g.Faithful env vq iov where
  main_reads := hmain
  table_reads := htable
  within := hwithin
  mapped := by simp [h.ret]
  empty := by
    refine iff_of_false (fun hzero => ?_) hidx
    have hpos := h.pos
    have : (ds.length : Int) = 0 := by simpa only [h.ret, Option.some.injEq] using hzero
    omega
  chain _ _ _ := ⟨ds, h⟩
  split n hn := by
    have : (ds.length : Int) = n := by simpa [h.ret] using hn
    omega
  reqp req hreq := by
    have hpos := h.pos
    refine ⟨ds.length, by omega, h.ret, ?_⟩
    obtain rfl : _ = req := Option.some.inj (h.req_eq.symm.trans hreq)
    have hcount := length_eq_countP_add_countP (fun d : VringDesc => d.isWrite) (l := ds.take env.niov)
    rw [length_take] at hcount
    simp only [Bool.not_eq_true, Bool.decide_eq_false] at hcount
    dsimp only
    omega

/-- `vq_getchain` is faithful unless the chain it takes reaches, within 512 buffers, an
indirect descriptor whose table guest RAM does not hold. -/
theorem vq_getchain_faithful_iff (env : WalkEnv) (eventIdx : Bool) (vq : VqueueInfo)
    (iov : Nat → Iovec) : (vqGetchain env eventIdx vq iov).Faithful env vq iov ↔
      ¬ (vq.Takes env.mem ∧ Strays env vq (vq.head env.mem) VQ_MAX_DESCRIPTORS) := by
  constructor
  · rintro hf ⟨ht, hs⟩
    exact hf.mapped (vqGetchain_strays ht hs)
  intro hok
  obtain ⟨hwithin, hmain, htable⟩ := vqGetchain_reads env eventIdx vq iov
  by_cases hidx : vq.availIdx env.mem = vq.lastAvail
  · have hret : (vqGetchain env eventIdx vq iov).ret = some 0 := by rw [vqGetchain_empty hidx]
    have hreq : (vqGetchain env eventIdx vq iov).req = none := by rw [vqGetchain_empty hidx]
    exact .of_no_chain hmain htable hwithin hreq (n := 0) (by decide) hret (by simp [hidx])
  by_cases ht : vq.Takes env.mem
  · rcases vqGetchain_takes eventIdx iov ht with ⟨ds, hds⟩ | ⟨hret, hreq, -⟩ | hnull
    · exact hds.faithful hidx hmain htable hwithin
    · exact .of_no_chain hmain htable hwithin hreq (n := -1) (by decide) hret (by simp [hidx])
    · exact absurd ⟨ht, hnull.2⟩ hok
  · have hret : (vqGetchain env eventIdx vq iov).ret = some (-1) := by
      rw [vqGetchain_confused hidx ht]
    have hreq : (vqGetchain env eventIdx vq iov).req = none := by rw [vqGetchain_confused hidx ht]
    exact .of_no_chain hmain htable hwithin hreq (n := -1) (by decide) hret (by simp [hidx])

end

def oneEntry : VqueueInfo :=
  { qsize := 1, maxqsize := 1, flags := VQ_ALLOC, desc := 4096, avail := 4112, used := 4128 }

/-- The guest published entry 0, an indirect descriptor of one table entry at 8192. -/
def strayMem : Store :=
  put (put blank 4096 (leEnc 8 8192 ++ leEnc 4 16 ++ leEnc 2 4 ++ leEnc 2 0)) 4114 (leEnc 2 1)

theorem vq_getchain_reads_null_table :
    paddrGuest2host onePage 0 16 = oneEntry.desc ∧ paddrGuest2host onePage 16 8 = oneEntry.avail ∧
    paddrGuest2host onePage 32 14 = oneEntry.used ∧ paddrGuest2host onePage 8192 16 = 0 ∧
    ¬ (vqGetchain ⟨onePage, strayMem, 0, true⟩ false oneEntry fun _ => ⟨0, 0⟩).Faithful
      ⟨onePage, strayMem, 0, true⟩ oneEntry fun _ => ⟨0, 0⟩ := by
  refine ⟨by decide, by decide, by decide, by decide, fun hf => ?_⟩
  have hs : Strays ⟨onePage, strayMem, 0, true⟩ oneEntry (oneEntry.head strayMem)
      VQ_MAX_DESCRIPTORS := by
    refine .here (by decide +kernel) ⟨by decide +kernel, rfl, by decide +kernel, by decide +kernel⟩
      (by decide +kernel) (by decide)
  exact hf.mapped (vqGetchain_strays (by decide +kernel) hs)

end ScorpiHv.Virtio

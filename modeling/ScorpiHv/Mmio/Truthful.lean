import ScorpiHv.Lib.Trace
import ScorpiHv.Mmio.Mem

/-!
# Registration is truthful

What the callers of `mem.c` were told, against what an access reaches.
-/

namespace ScorpiHv.Mmio
open List

variable {balance : Tree RbRange → Tree RbRange} {m m' : Mem} {t : Tree RbRange}
  {memp : MemRange} {e : RbRange} {addr vcpu : Nat}

def Before (a b : RbRange) : Prop := a.base ≤ a.last ∧ a.last < b.base ∧ b.base ≤ b.last

structure RbRange.Ok (e : RbRange) : Prop where
  base : e.base = e.param.base
  last : e.last + 1 = e.param.base + e.param.size
  size : 0 < e.param.size

lemma RbRange.Ok.le (h : e.Ok) : e.base ≤ e.last := by
  have h1 := h.base
  have h2 := h.last
  have h3 := h.size
  omega

lemma RbRange.Ok.contains (h : e.Ok) : e.param.Contains addr ↔ e.base ≤ addr ∧ addr ≤ e.last := by
  have h1 := h.base
  have h2 := h.last
  unfold MemRange.Contains
  omega

lemma compareAddr_eq : compareAddr addr e = .eq ↔ e.base ≤ addr ∧ addr ≤ e.last := by
  unfold compareAddr
  split
  · simp only [reduceCtorEq, false_iff]
    omega
  split
  · simp only [reduceCtorEq, false_iff]
    omega
  · simp only [true_iff]
    omega

lemma compareAddr_follows (addr : Nat) : Tree.Follows (compareAddr addr) Before := by
  rintro a b ⟨ha, hab, hb⟩
  unfold compareAddr
  constructor
  · intro h
    have hlt : addr < a.base := by
      by_contra hge
      rw [if_neg hge] at h
      split at h <;> cases h
    rw [if_pos (by omega)]
  · intro h
    have hlt : ¬ addr < b.base ∧ b.last < addr := by
      split at h
      · cases h
      rename_i hge
      refine ⟨hge, ?_⟩
      by_contra hle
      rw [if_neg hle] at h
      cases h
    rw [if_neg (by omega), if_pos (by omega)]

variable {a b entry new : RbRange}

lemma compare_lt (h : compare a b = .lt) : a.last < b.base := by
  unfold compare at h
  split at h
  · assumption
  · split at h <;> cases h

lemma compare_gt (h : compare a b = .gt) : b.last < a.base := by
  unfold compare at h
  split at h
  · cases h
  split at h
  · assumption
  · cases h

lemma compare_follows (hnew : new.base ≤ new.last) : Tree.Follows (compare new) Before := by
  rintro a b ⟨ha, hab, hb⟩
  constructor
  · intro h
    have hlt := compare_lt h
    unfold compare
    rw [if_pos (by omega)]
  · intro h
    have hlt := compare_gt h
    unfold compare
    rw [if_neg (by omega), if_pos (by omega)]

structure TreeOk (t : Tree RbRange) : Prop where
  sorted : t.toList.Pairwise Before
  entry : ∀ e ∈ t.toList, e.Ok

lemma TreeOk.apart (h : TreeOk t) (ha : a ∈ t.toList) (hb : b ∈ t.toList) :
    a = b ∨ Before a b ∨ Before b a := by
  have hsorted := h.sorted
  revert ha hb
  generalize t.toList = l at hsorted
  intro ha hb
  induction hsorted with
  | nil => cases ha
  | @cons c l hc _ ih =>
    rcases mem_cons.1 ha with hac | hal
    · rcases mem_cons.1 hb with hbc | hbl
      · exact .inl (hac.trans hbc.symm)
      · exact .inr (.inl (hac ▸ hc b hbl))
    · rcases mem_cons.1 hb with hbc | hbl
      · exact .inr (.inr (hbc ▸ hc a hal))
      · exact ih hal hbl

lemma TreeOk.lookup_iff (h : TreeOk t) :
    rbLookup t addr = some e ↔ e ∈ t.toList ∧ e.param.Contains addr := by
  constructor
  · intro hfind
    obtain ⟨hmem, heq⟩ := Tree.find_some hfind
    exact ⟨hmem, (h.entry e hmem).contains.2 (compareAddr_eq.1 heq)⟩
  rintro ⟨hmem, hin⟩
  have hin := (h.entry e hmem).contains.1 hin
  cases hfind : rbLookup t addr with
  | none =>
    have hnone := Tree.find_none (compareAddr_follows addr) h.sorted hfind e hmem
    exact absurd (compareAddr_eq.2 hin) hnone
  | some =>
    obtain ⟨hmem', heq⟩ := Tree.find_some hfind
    have hin' := compareAddr_eq.1 heq
    rcases h.apart hmem hmem' with rfl | hlt | hlt
    · rfl
    · obtain ⟨_, hlt, _⟩ := hlt
      omega
    · obtain ⟨_, hlt, _⟩ := hlt
      omega

variable {t' : Tree RbRange}

lemma TreeOk.congr (h : TreeOk t) (heq : t'.toList = t.toList) : TreeOk t' :=
  ⟨heq ▸ h.sorted, heq ▸ h.entry⟩

lemma TreeOk.insert (h : TreeOk t) (hnew : new.Ok) (hins : t.insert (compare new) new = .ok t') :
    TreeOk t' ∧ t'.toList.Perm (new :: t.toList) := by
  obtain ⟨l, r, hold, hlist, hgt, hlt⟩ := Tree.insert_ok (compare_follows hnew.le) h.sorted hins
  have hmem : ∀ x, x ∈ t.toList ↔ x ∈ l ∨ x ∈ r := by
    intro x
    rw [hold, mem_append]
  have hsorted := h.sorted
  rw [hold, pairwise_append] at hsorted
  refine ⟨⟨?_, ?_⟩, ?_⟩
  · rw [hlist, pairwise_append, pairwise_cons]
    refine ⟨hsorted.1, ⟨?_, hsorted.2.1⟩, ?_⟩
    · intro x hx
      exact ⟨hnew.le, compare_lt (hlt x hx), (h.entry x ((hmem x).2 (.inr hx))).le⟩
    intro x hx y hy
    rcases mem_cons.1 hy with rfl | hy
    · exact ⟨(h.entry x ((hmem x).2 (.inl hx))).le, compare_gt (hgt x hx), hnew.le⟩
    · exact hsorted.2.2 x hx y hy
  · intro x hx
    rw [hlist] at hx
    rcases mem_append.1 hx with hx | hx
    · exact h.entry x ((hmem x).2 (.inl hx))
    rcases mem_cons.1 hx with rfl | hx
    · exact hnew
    · exact h.entry x ((hmem x).2 (.inr hx))
  · rw [hlist, hold]
    exact perm_middle

structure MemOk (m : Mem) : Prop where
  root : TreeOk m.root
  fallback : TreeOk m.fallback
  fresh : ∀ e ∈ m.root.toList ++ m.fallback.toList, e.id < m.nextId
  nodup : ((m.root.toList ++ m.fallback.toList).map (·.id)).Nodup
  hint : ∀ i e, m.hint i = some e → e ∈ m.root.toList
  readers : ∀ p ∈ m.readers, p.2 ∈ m.root.toList ++ m.fallback.toList
  unlocked : ∀ p ∈ m.unlocked, p.2 ∈ m.root.toList ++ m.fallback.toList ∧ p.2.param.immutable
  removed : ∀ id ∈ m.removed, id < m.nextId ∧
    ∀ e ∈ m.root.toList ++ m.fallback.toList, e.id ≠ id

lemma MemOk.access_eq (h : MemOk m) :
    (m.accessMemory vcpu addr).1 = (rbLookup m.root addr).or (rbLookup m.fallback addr) := by
  unfold Mem.accessMemory
  cases hhint : (m.hint vcpu).filter fun e => e.base ≤ addr && addr ≤ e.last with
  | some entry =>
    rw [Option.filter_eq_some_iff] at hhint
    obtain ⟨hsome, hin⟩ := hhint
    have hmem := h.hint vcpu entry hsome
    have hin' : entry.base ≤ addr ∧ addr ≤ entry.last := by simpa using hin
    have hfind := h.root.lookup_iff.2 ⟨hmem, (h.root.entry entry hmem).contains.2 hin'⟩
    rw [hfind]
    rfl
  | none => cases rbLookup m.root addr <;> rfl

lemma MemOk.access_mem (h : MemOk m) (hr : (m.accessMemory vcpu addr).1 = some e) :
    e ∈ m.root.toList ++ m.fallback.toList := by
  rw [h.access_eq] at hr
  cases hroot : rbLookup m.root addr with
  | some =>
    rw [hroot] at hr
    cases hr
    exact mem_append_left _ (h.root.lookup_iff.1 hroot).1
  | none =>
    rw [hroot] at hr
    exact mem_append_right _ (h.fallback.lookup_iff.1 hr).1

inductive Registered (m : Mem) (k : Kind) (memp : MemRange) (err : Err) (m' : Mem) : Prop where
  | refused : err ≠ .ok → m' = { m with nextId := m'.nextId } → m.nextId ≤ m'.nextId →
      Registered m k memp err m'
  | covered {e : RbRange} : err = .ok → rbLookup (m.tree k) memp.base = some e →
      m' = { m.grant k memp with nextId := m.nextId + 1 } → Registered m k memp err m'
  | added {t : Tree RbRange} : err = .ok → rbLookup (m.tree k) memp.base = none →
      TreeOk t → t.toList.Perm (m.allocated memp :: (m.tree k).toList) →
      m' = { (m.grant k memp).setTree k t with nextId := m.nextId + 1 } →
      Registered m k memp err m'

lemma allocated_ok (h : memp.Plain) (m : Mem) : (m.allocated memp).Ok where
  base := rfl
  last := by
    have := h.1
    unfold Mem.allocated
    dsimp only
    omega
  size := h.1

variable {err : Err} {k : Kind} {malloc : Bool}

lemma registerMemInt_cases
    (hbal : ∀ t, (balance t).toList = t.toList) (ht : TreeOk (m.tree k)) (hplain : memp.Plain)
    (h : m.registerMemInt balance k memp malloc = (err, m')) : Registered m k memp err m' := by
  unfold Mem.registerMemInt at h
  cases malloc with
  | false =>
    cases h
    exact .refused (by decide) rfl (le_refl _)
  | true =>
    cases hfind : rbLookup (m.tree k) memp.base with
    | some =>
      rw [hfind] at h
      cases h
      exact .covered rfl hfind rfl
    | none =>
      rw [hfind] at h
      dsimp only at h
      cases hins : (m.tree k).insert (compare (m.allocated memp)) (m.allocated memp) with
      | error =>
        rw [hins] at h
        cases h
        exact .refused (by decide) rfl (Nat.le_succ _)
      | ok t =>
        rw [hins] at h
        cases h
        obtain ⟨hok, hperm⟩ := ht.insert (allocated_ok hplain m) hins
        refine .added rfl hfind (hok.congr (hbal t)) ?_ rfl
        rw [hbal t]
        exact hperm

def Mem.all (m : Mem) : List RbRange := m.root.toList ++ m.fallback.toList

lemma MemOk.congr (h : MemOk m) (hroot : m'.root = m.root) (hfallback : m'.fallback = m.fallback)
    (hhint : ∀ i e, m'.hint i = some e → e ∈ m.root.toList) (hreaders : ∀ p ∈ m'.readers, p.2 ∈ m.all)
    (hunlocked : ∀ p ∈ m'.unlocked, p.2 ∈ m.all ∧ p.2.param.immutable) (hremoved : m'.removed = m.removed)
    (hnext : m.nextId ≤ m'.nextId) : MemOk m' where
  root := hroot ▸ h.root
  fallback := hfallback ▸ h.fallback
  fresh := by
    intro e he
    rw [hroot, hfallback] at he
    exact lt_of_lt_of_le (h.fresh e he) hnext
  nodup := by rw [hroot, hfallback]; exact h.nodup
  hint := by rw [hroot]; exact hhint
  readers := by rw [hroot, hfallback]; exact hreaders
  unlocked := by rw [hroot, hfallback]; exact hunlocked
  removed := by
    rw [hroot, hfallback, hremoved]
    intro id hid
    exact ⟨lt_of_lt_of_le (h.removed id hid).1 hnext, (h.removed id hid).2⟩

lemma MemOk.added (h : MemOk m) (hnew : new.id = m.nextId)
    (hroot : TreeOk m'.root) (hfallback : TreeOk m'.fallback) (hperm : m'.all.Perm (new :: m.all))
    (hsub : ∀ e ∈ m.root.toList, e ∈ m'.root.toList) (hhint : m'.hint = m.hint)
    (hreaders : m'.readers = m.readers) (hunlocked : m'.unlocked = m.unlocked)
    (hremoved : m'.removed = m.removed) (hnext : m'.nextId = m.nextId + 1) : MemOk m' where
  root := hroot
  fallback := hfallback
  fresh := by
    intro e he
    rw [hnext]
    rcases mem_cons.1 (hperm.mem_iff.1 he) with rfl | hold
    · rw [hnew]
      exact Nat.lt_succ_self _
    · exact Nat.lt_succ_of_lt (h.fresh e hold)
  nodup := by
    have hmap := hperm.map (·.id)
    rw [Mem.all] at hmap
    rw [hmap.nodup_iff, map_cons, nodup_cons]
    refine ⟨?_, h.nodup⟩
    intro hmem
    obtain ⟨e, he, hid⟩ := mem_map.1 hmem
    have := h.fresh e he
    rw [hid, hnew] at this
    exact lt_irrefl _ this
  hint := by
    intro i e he
    rw [hhint] at he
    exact hsub e (h.hint i e he)
  readers := by
    intro p hp
    rw [hreaders] at hp
    exact hperm.mem_iff.2 (mem_cons_of_mem _ (h.readers p hp))
  unlocked := by
    intro p hp
    rw [hunlocked] at hp
    exact ⟨hperm.mem_iff.2 (mem_cons_of_mem _ (h.unlocked p hp).1), (h.unlocked p hp).2⟩
  removed := by
    intro id hid
    rw [hremoved] at hid
    obtain ⟨hlt, hgone⟩ := h.removed id hid
    rw [hnext]
    refine ⟨Nat.lt_succ_of_lt hlt, ?_⟩
    intro e he
    rcases mem_cons.1 (hperm.mem_iff.1 he) with rfl | hold
    · rw [hnew]
      exact Nat.ne_of_gt hlt
    · exact hgone e hold

lemma MemOk.tree (h : MemOk m) (k : Kind) : TreeOk (m.tree k) := by
  cases k with
  | root => exact h.root
  | fallback => exact h.fallback

lemma MemOk.register (hbal : ∀ t, (balance t).toList = t.toList) (h : MemOk m) (hplain : memp.Plain)
    (hreg : m.registerMemInt balance k memp malloc = (err, m')) : MemOk m' := by
  cases registerMemInt_cases hbal (h.tree k) hplain hreg with
  | refused _ heq hle =>
    rw [heq]
    exact h.congr rfl rfl h.hint h.readers h.unlocked rfl hle
  | covered _ _ heq =>
    rw [heq]
    cases k <;> exact h.congr rfl rfl h.hint h.readers h.unlocked rfl (Nat.le_succ _)
  | @added t _ _ hok hperm heq =>
    rw [heq]
    cases k with
    | root =>
      refine h.added rfl hok h.fallback (hperm.append_right _) ?_ rfl rfl rfl rfl rfl
      intro e he
      exact hperm.mem_iff.2 (mem_cons_of_mem _ he)
    | fallback =>
      have hall : (m.root.toList ++ t.toList).Perm (m.allocated memp :: m.all) :=
        (hperm.append_left m.root.toList).trans perm_middle
      exact h.added rfl h.root hok hall (fun _ he => he) rfl rfl rfl rfl rfl

structure Removed (m : Mem) (memp : MemRange) (entry : RbRange) (m' : Mem) : Prop where
  found : rbLookup m.root memp.base = some entry
  same : Mem.sameRange entry.param memp
  mutable : entry.param.immutable = false
  split : ∃ l r, m.root.toList = l ++ entry :: r ∧ m'.root.toList = l ++ r
  eq : m' = { m with
    root := m'.root
    hint := fun i => if m.hint i = some entry then none else m.hint i
    granted := m.granted.eraseP fun g => Mem.sameRange g.2 memp
    removed := entry.id :: m.removed }

lemma unregisterMem_cases (hbal : ∀ t, (balance t).toList = t.toList)
    (h : m.unregisterMem balance memp = some (err, m')) :
    (err = .enoent ∧ m' = m) ∨ err = .ok ∧ ∃ entry, Removed m memp entry m' := by
  unfold Mem.unregisterMem at h
  cases hfind : rbLookup m.root memp.base with
  | none =>
    rw [hfind] at h
    cases h
    exact .inl ⟨rfl, rfl⟩
  | some entry =>
    rw [hfind] at h
    dsimp only at h
    split at h
    · cases h
    rename_i hsame
    split at h
    · cases h
    rename_i himm
    cases h
    obtain ⟨l, r, hold, hnew⟩ := Tree.remove_found hfind
    refine .inr ⟨rfl, entry, hfind, by simpa using hsame, by simpa using himm, ⟨l, r, hold, ?_⟩, rfl⟩
    rw [hbal]
    exact hnew

lemma Removed.perm (h : Removed m memp entry m') : m.all.Perm (entry :: m'.all) := by
  obtain ⟨l, r, hold, hnew⟩ := h.split
  have hfallback : m'.fallback = m.fallback := by rw [h.eq]
  rw [Mem.all, Mem.all, hold, hnew, hfallback]
  exact perm_middle.append_right _

lemma MemOk.unregister (h : MemOk m) (hfree : m.readers = [])
    (hrem : Removed m memp entry m') : MemOk m' := by
  obtain ⟨l, r, hold, hnew⟩ := hrem.split
  have hperm := hrem.perm
  have hnodup : ((entry :: m'.all).map (·.id)).Nodup := (hperm.map (·.id)).nodup_iff.1 h.nodup
  rw [map_cons, nodup_cons] at hnodup
  have hkept : ∀ e ∈ m'.all, e ∈ m.all := fun e he => hperm.mem_iff.2 (mem_cons_of_mem _ he)
  have hsub : (l ++ r).Sublist (l ++ entry :: r) := (sublist_cons_self _ _).append_left l
  have hfallback : m'.fallback = m.fallback := by rw [hrem.eq]
  have hnext : m'.nextId = m.nextId := by rw [hrem.eq]
  refine ⟨⟨?_, ?_⟩, hfallback ▸ h.fallback, ?_, hnodup.2, ?_, ?_, ?_, ?_⟩
  · rw [hnew]
    exact (hold ▸ h.root.sorted).sublist hsub
  · intro e he
    rw [hnew] at he
    exact h.root.entry e (hold ▸ hsub.subset he)
  · intro e he
    rw [hnext]
    exact h.fresh e (hkept e he)
  · intro i e he
    have hhint : m'.hint i = if m.hint i = some entry then none else m.hint i := by rw [hrem.eq]
    rw [hhint] at he
    split at he
    · cases he
    rename_i heq
    have hmem := h.hint i e he
    have hne : e ≠ entry := by
      rintro rfl
      exact heq he
    rw [hold] at hmem
    rw [hnew]
    rcases mem_append.1 hmem with hl | hr
    · exact mem_append_left _ hl
    · exact mem_append_right _ (mem_of_ne_of_mem hne hr)
  · have hnone : m'.readers = [] := by rw [hrem.eq]; exact hfree
    rw [hnone]
    exact fun p hp => nomatch hp
  · have hsame : m'.unlocked = m.unlocked := by rw [hrem.eq]
    rw [hsame]
    intro p hp
    obtain ⟨hmem, himm⟩ := h.unlocked p hp
    refine ⟨?_, himm⟩
    have hne : p.2 ≠ entry := by
      intro heq
      rw [heq, hrem.mutable] at himm
      cases himm
    exact mem_of_ne_of_mem hne (hperm.mem_iff.1 hmem)
  · have hlist : m'.removed = entry.id :: m.removed := by rw [hrem.eq]
    rw [hlist, hnext]
    intro id hid
    rcases mem_cons.1 hid with rfl | hid
    · refine ⟨h.fresh entry (hperm.mem_iff.2 mem_cons_self), ?_⟩
      intro e he heq
      exact hnodup.1 (mem_map.2 ⟨e, he, heq⟩)
    · exact ⟨(h.removed id hid).1, fun e he => (h.removed id hid).2 e (hkept e he)⟩

lemma MemOk.accessMemory (h : MemOk m) (vcpu addr : Nat) : MemOk (m.accessMemory vcpu addr).2 := by
  unfold Mem.accessMemory
  split
  · exact h
  split
  · rename_i entry hfind
    refine h.congr rfl rfl ?_ h.readers h.unlocked rfl (le_refl _)
    intro i e he
    dsimp only at he
    split at he
    · cases he
      exact (h.root.lookup_iff.1 hfind).1
    · exact h.hint i e he
  · exact h

lemma accessMemory_all (m : Mem) (vcpu addr : Nat) : (m.accessMemory vcpu addr).2.all = m.all ∧
      (m.accessMemory vcpu addr).2.granted = m.granted ∧ (m.accessMemory vcpu addr).2.root = m.root := by
  unfold Mem.accessMemory
  split
  · exact ⟨rfl, rfl, rfl⟩
  · split <;> exact ⟨rfl, rfl, rfl⟩

lemma MemOk.enter (h : MemOk m) (he : e ∈ m.all) (vcpu : Nat) : MemOk (m.enter vcpu e) := by
  unfold Mem.enter
  split_ifs with himm
  · refine h.congr rfl rfl h.hint h.readers ?_ rfl (le_refl _)
    intro p hp
    rcases mem_cons.1 hp with rfl | hp
    · exact ⟨he, himm⟩
    · exact h.unlocked p hp
  · refine h.congr rfl rfl h.hint ?_ h.unlocked rfl (le_refl _)
    intro p hp
    rcases mem_cons.1 hp with rfl | hp
    · exact he
    · exact h.readers p hp

lemma MemOk.step {a : Action} (hbal : ∀ t, (balance t).toList = t.toList) (h : MemOk m)
    (hstep : Step balance m a m') : MemOk m' := by
  cases hstep with
  | register _ hplain hreg => exact h.register hbal hplain hreg
  | unregister hfree hun =>
    rcases unregisterMem_cases hbal hun with ⟨_, rfl⟩ | ⟨_, entry, hrem⟩
    · exact h
    · exact h.unregister hfree hrem
  | @miss _ vcpu addr _ hacc =>
    have hok := h.accessMemory vcpu addr
    rw [hacc] at hok
    exact hok
  | @access _ vcpu addr entry _ hacc =>
    have hok := h.accessMemory vcpu addr
    have hall := (accessMemory_all m vcpu addr).1
    have hmem : entry ∈ m.all := h.access_mem (by rw [hacc])
    rw [hacc] at hok hall
    exact hok.enter (hall ▸ hmem) vcpu
  | leave _ =>
    refine h.congr rfl rfl h.hint ?_ ?_ rfl (le_refl _)
    · intro p hp
      exact h.readers p (mem_of_mem_erase hp)
    · intro p hp
      exact h.unlocked p (mem_of_mem_erase hp)

lemma memOk_init (ncpu : Nat) : MemOk (Mem.init ncpu) where
  root := ⟨.nil, fun _ h => nomatch h⟩
  fallback := ⟨.nil, fun _ h => nomatch h⟩
  fresh := fun _ h => nomatch h
  nodup := nodup_nil
  hint := fun _ _ h => nomatch h
  readers := fun _ h => nomatch h
  unlocked := fun _ h => nomatch h
  removed := fun _ h => nomatch h

structure Granted (m : Mem) : Prop where
  entry : ∀ g ∈ m.granted, ∃ e ∈ m.root.toList, e.id = g.1 ∧ e.param = g.2
  nodup : (m.granted.map (·.1)).Nodup

/-- A registration in the first tree whose base lies in no registered range. -/
def Good (m : Mem) : Action → Prop
  | .register .root memp true _ => ∀ e ∈ m.root.toList, ¬ e.param.Contains memp.base
  | _ => True

lemma Granted.congr (h : Granted m) (hgranted : m'.granted = m.granted)
    (hsub : ∀ e ∈ m.root.toList, e ∈ m'.root.toList) : Granted m' where
  entry := by
    intro g hg
    rw [hgranted] at hg
    obtain ⟨e, he, hid⟩ := h.entry g hg
    exact ⟨e, hsub e he, hid⟩
  nodup := by rw [hgranted]; exact h.nodup

lemma Granted.register (hbal : ∀ t, (balance t).toList = t.toList) (hok : MemOk m) (h : Granted m)
    (hplain : memp.Plain) (hgood : Good m (.register k memp malloc err))
    (hreg : m.registerMemInt balance k memp malloc = (err, m')) : Granted m' := by
  cases registerMemInt_cases hbal (hok.tree k) hplain hreg with
  | refused _ heq _ =>
    rw [heq]
    exact h.congr rfl (fun _ he => he)
  | @covered e herr hfind heq =>
    rw [heq]
    cases k with
    | fallback => exact h.congr rfl (fun _ he => he)
    | root =>
      -- the condition excludes a base inside an entry
      obtain ⟨hmem, hin⟩ := hok.root.lookup_iff.1 hfind
      cases malloc with
      | true => exact absurd hin (hgood e hmem)
      | false =>
        cases hreg
        cases herr
  | @added t _ _ _ hperm heq =>
    rw [heq]
    cases k with
    | fallback => exact h.congr rfl (fun _ he => he)
    | root =>
      constructor
      · intro g hg
        rcases mem_cons.1 hg with rfl | hg
        · exact ⟨m.allocated memp, hperm.mem_iff.2 mem_cons_self, rfl, rfl⟩
        · obtain ⟨e, he, hid⟩ := h.entry g hg
          exact ⟨e, hperm.mem_iff.2 (mem_cons_of_mem _ he), hid⟩
      · refine nodup_cons.2 ⟨?_, h.nodup⟩
        intro hmem
        obtain ⟨g, hg, hid⟩ := mem_map.1 hmem
        obtain ⟨e, he, heid, _⟩ := h.entry g hg
        have hlt := hok.fresh e (mem_append_left _ he)
        rw [heid, hid] at hlt
        exact lt_irrefl _ hlt

lemma sameRange_iff {mr : MemRange} :
    Mem.sameRange mr memp ↔ mr.name = memp.name ∧ mr.base = memp.base ∧ mr.size = memp.size := by
  simp [Mem.sameRange, and_assoc]

lemma Granted.unregister (hok : MemOk m) (h : Granted m) (hrem : Removed m memp entry m') : Granted m' := by
  have hgranted : m'.granted = m.granted.eraseP fun g => Mem.sameRange g.2 memp := by rw [hrem.eq]
  obtain ⟨l, r, hold, hnew⟩ := hrem.split
  constructor
  · intro g hg
    rw [hgranted] at hg
    have hg' := mem_of_mem_eraseP hg
    obtain ⟨e, he, hid, hparam⟩ := h.entry g hg'
    refine ⟨e, ?_, hid, hparam⟩
    have hne : e ≠ entry := by
      rintro rfl
      -- the first granted range of these parameters has the same entry
      have hp : Mem.sameRange g.2 memp = true := by
        rw [← hparam]
        exact hrem.same
      obtain ⟨g₀, l₁, l₂, _, hp₀, hsplit, herase⟩ :=
        exists_of_eraseP (p := fun g => Mem.sameRange g.2 memp) hg' hp
      obtain ⟨e₀, he₀, hid₀, hparam₀⟩ := h.entry g₀ (by rw [hsplit]; simp)
      have hsame₀ := sameRange_iff.1 hp₀
      have hcontains : e₀.param.Contains memp.base := by
        have hsize := (hok.root.entry e₀ he₀).size
        rw [← hparam₀] at hsame₀
        unfold MemRange.Contains
        omega
      have hone := hok.root.lookup_iff.2 ⟨he₀, hcontains⟩
      rw [hrem.found] at hone
      cases hone
      have hnodup := h.nodup
      rw [hsplit, map_append, map_cons, nodup_middle, nodup_cons] at hnodup
      rw [herase] at hg
      apply hnodup.1
      rw [← map_append]
      exact mem_map.2 ⟨g, hg, hid.symm.trans hid₀⟩
    rw [hold] at he
    rw [hnew]
    rcases mem_append.1 he with hl | hr
    · exact mem_append_left _ hl
    · exact mem_append_right _ (mem_of_ne_of_mem hne hr)
  · rw [hgranted]
    exact h.nodup.sublist (eraseP_sublist.map _)

def GoodStep (balance : Tree RbRange → Tree RbRange) (m : Mem) (a : Action) (m' : Mem) : Prop :=
  Step balance m a m' ∧ Good m a

lemma Granted.step {a : Action} (hbal : ∀ t, (balance t).toList = t.toList) (hok : MemOk m)
    (h : Granted m) (hstep : GoodStep balance m a m') : Granted m' := by
  obtain ⟨hstep, hgood⟩ := hstep
  cases hstep with
  | register _ hplain hreg => exact h.register hbal hok hplain hgood hreg
  | unregister hfree hun =>
    rcases unregisterMem_cases hbal hun with ⟨_, rfl⟩ | ⟨_, entry, hrem⟩
    · exact h
    · exact h.unregister hok hrem
  | @miss _ vcpu addr _ hacc =>
    obtain ⟨_, hgranted, hroot⟩ := accessMemory_all m vcpu addr
    rw [hacc] at hgranted hroot
    exact h.congr hgranted (fun e he => by rw [hroot]; exact he)
  | @access m₁ vcpu addr entry _ hacc =>
    obtain ⟨_, hgranted, hroot⟩ := accessMemory_all m vcpu addr
    rw [hacc] at hgranted hroot
    have henter : (m₁.enter vcpu entry).granted = m₁.granted ∧
        (m₁.enter vcpu entry).root = m₁.root := by
      unfold Mem.enter
      split <;> exact ⟨rfl, rfl⟩
    refine h.congr (henter.1.trans hgranted) ?_
    intro e he
    rw [henter.2, hroot]
    exact he
  | leave _ => exact h.congr rfl (fun _ he => he)

/-- The trees are disjoint, and no removed range is reached or runs. -/
structure Sound (m : Mem) : Prop where
  root : m.root.toList.Pairwise fun a b => ∀ addr, ¬ (a.param.Contains addr ∧ b.param.Contains addr)
  fallback : m.fallback.toList.Pairwise
    fun a b => ∀ addr, ¬ (a.param.Contains addr ∧ b.param.Contains addr)
  unreached : ∀ id ∈ m.removed, ∀ vcpu addr e, (m.accessMemory vcpu addr).1 = some e → e.id ≠ id
  notRunning : ∀ id ∈ m.removed, ∀ p ∈ m.readers ++ m.unlocked, p.2.id ≠ id

/-- A granted range is reached at each of its addresses, and can be taken back. -/
structure Truthful (balance : Tree RbRange → Tree RbRange) (m : Mem) : Prop where
  reached : ∀ g ∈ m.granted, ∀ vcpu addr, g.2.Contains addr →
    ∃ e, (m.accessMemory vcpu addr).1 = some e ∧ e.id = g.1 ∧ e.param = g.2
  unregisters : ∀ g ∈ m.granted, g.2.immutable = false →
    ∃ m' l e r, m.unregisterMem balance g.2 = some (.ok, m') ∧ e.id = g.1 ∧
      m.root.toList = l ++ e :: r ∧ m'.root.toList = l ++ r ∧ m'.fallback = m.fallback ∧
      m'.removed = g.1 :: m.removed

lemma TreeOk.disjoint (h : TreeOk t) :
    t.toList.Pairwise fun a b => ∀ addr, ¬ (a.param.Contains addr ∧ b.param.Contains addr) := by
  refine h.sorted.imp_of_mem ?_
  rintro a b ha hb ⟨_, hlt, _⟩ addr ⟨hina, hinb⟩
  have h1 := (h.entry a ha).contains.1 hina
  have h2 := (h.entry b hb).contains.1 hinb
  omega

lemma MemOk.sound (h : MemOk m) : Sound m where
  root := h.root.disjoint
  fallback := h.fallback.disjoint
  unreached := by
    intro id hid vcpu addr e hr
    exact (h.removed id hid).2 e (h.access_mem hr)
  notRunning := by
    intro id hid p hp
    rcases mem_append.1 hp with hp | hp
    · exact (h.removed id hid).2 p.2 (h.readers p hp)
    · exact (h.removed id hid).2 p.2 (h.unlocked p hp).1

lemma Granted.truthful (hbal : ∀ t, (balance t).toList = t.toList) (hok : MemOk m)
    (h : Granted m) : Truthful balance m where
  reached := by
    intro g hg vcpu addr hin
    obtain ⟨e, he, hid, hparam⟩ := h.entry g hg
    have hfind := hok.root.lookup_iff.2 ⟨he, by rw [hparam]; exact hin⟩
    refine ⟨e, ?_, hid, hparam⟩
    rw [hok.access_eq, hfind]
    rfl
  unregisters := by
    intro g hg himm
    obtain ⟨e, he, hid, hparam⟩ := h.entry g hg
    have hin : e.param.Contains g.2.base := by
      have hsize := (hok.root.entry e he).size
      unfold MemRange.Contains
      rw [hparam] at hsize ⊢
      omega
    have hfind := hok.root.lookup_iff.2 ⟨he, hin⟩
    have hsame : Mem.sameRange e.param g.2 := by
      rw [hparam]
      exact sameRange_iff.2 ⟨rfl, rfl, rfl⟩
    obtain ⟨m', hun⟩ : ∃ m', m.unregisterMem balance g.2 = some (.ok, m') := by
      rw [Mem.unregisterMem, hfind]
      dsimp only
      rw [if_neg (by rw [hsame]; decide), if_neg (by rw [hparam, himm]; decide)]
      exact ⟨_, rfl⟩
    rcases unregisterMem_cases hbal hun with ⟨herr, _⟩ | ⟨_, entry, hrem⟩
    · cases herr
    have hone := hrem.found
    rw [hfind] at hone
    cases hone
    obtain ⟨l, r, hold, hnew⟩ := hrem.split
    refine ⟨m', l, e, r, hun, hid, hold, hnew, ?_, ?_⟩
    · rw [hrem.eq]
    · rw [hrem.eq, hid]

/-- What becomes of a registration in the first tree that does not meet the condition: it
returns 0 and adds nothing, and every vCPU reaches an older range at its base. -/
lemma covered_registration (hbal : ∀ t, (balance t).toList = t.toList) (hok : MemOk m)
    (hplain : memp.Plain) (hbad : ¬ Good m (.register .root memp true err))
    (hreg : m.registerMemInt balance .root memp true = (err, m')) :
    err = .ok ∧ m'.root = m.root ∧ m'.granted = (m.nextId, memp) :: m.granted ∧
      ∀ vcpu, ∃ e, (m'.accessMemory vcpu memp.base).1 = some e ∧ e.id ≠ m.nextId := by
  have hok' := hok.register hbal hplain hreg
  obtain ⟨e, he, hin⟩ : ∃ e ∈ m.root.toList, e.param.Contains memp.base := by
    by_contra hno
    exact hbad fun e he hin => hno ⟨e, he, hin⟩
  have hfind := hok.root.lookup_iff.2 ⟨he, hin⟩
  have heq : (err, m') =
      (.ok, { m.grant .root memp with nextId := m.nextId + 1 }) := by
    rw [← hreg, Mem.registerMemInt, if_neg (by decide)]
    simp only [Mem.tree, hfind]
  cases heq
  refine ⟨rfl, rfl, rfl, ?_⟩
  intro vcpu
  have hroot : rbLookup ({ m.grant .root memp with nextId := m.nextId + 1 } : Mem).root memp.base =
      some e := hfind
  refine ⟨e, ?_, Nat.ne_of_lt (hok.fresh e (mem_append_left _ he))⟩
  rw [hok'.access_eq, hroot]
  rfl

/-- In every run the trees are disjoint and nothing removed is reached. Along registrations whose
base lies in no registered range, what was granted is reached and can be taken back; any other
in the first tree returns 0 with nothing added. -/
theorem registration_truthful (hbal : ∀ t, (balance t).toList = t.toList) (ncpu : Nat) :
    (∀ as m, Trace (Step balance) (Mem.init ncpu) as m → Sound m ∧
      (∀ memp err m', memp.Plain → ¬ Good m (.register .root memp true err) →
        m.registerMemInt balance .root memp true = (err, m') →
        err = .ok ∧ m'.root = m.root ∧ m'.granted = (m.nextId, memp) :: m.granted ∧
          ∀ vcpu, ∃ e, (m'.accessMemory vcpu memp.base).1 = some e ∧ e.id ≠ m.nextId) ∧
      ∀ e ∈ m.root.toList, e.param.immutable → m.unregisterMem balance e.param = none) ∧
    ∀ as m, Trace (GoodStep balance) (Mem.init ncpu) as m → Truthful balance m := by
  constructor
  · intro as m h
    have keep : ∀ s a t, MemOk s → True → Step balance s a t → MemOk t :=
      fun _ _ _ hs _ hst => hs.step hbal hst
    have hok : MemOk m :=
      h.invariant (fun _ => True) keep (fun _ _ => trivial) (memOk_init ncpu)
    refine ⟨hok.sound, ?_, ?_⟩
    · intro memp err m' hplain hbad hreg
      exact covered_registration hbal hok hplain hbad hreg
    intro e he himm
    have hin : e.param.Contains e.param.base := by
      have hsize := (hok.root.entry e he).size
      unfold MemRange.Contains
      omega
    rw [Mem.unregisterMem, hok.root.lookup_iff.2 ⟨he, hin⟩]
    dsimp only
    split <;> rfl
  · intro as m h
    have keep : ∀ s a t, MemOk s ∧ Granted s → True → GoodStep balance s a t →
        MemOk t ∧ Granted t :=
      fun _ _ _ hs _ hst => ⟨hs.1.step hbal hst.1, hs.2.step hbal hs.1 hst⟩
    have hinit : MemOk (Mem.init ncpu) ∧ Granted (Mem.init ncpu) :=
      ⟨memOk_init ncpu, ⟨(fun _ hg => nomatch hg), nodup_nil⟩⟩
    have hrun := h.invariant (fun _ => True) keep (fun _ _ => trivial) hinit
    exact hrun.2.truthful hbal hrun.1

def bar (name base : Nat) : MemRange := ⟨name, 3, name, 0, 0, base, 4096⟩

def oneBar : Mem := (Mem.init 1).registerMemInt id .root (bar 1 0x1000) true |>.2

lemma oneBar_run : Trace (GoodStep id) (Mem.init 1) [.register .root (bar 1 0x1000) true .ok] oneBar :=
  .single ⟨.register (fun _ => rfl) (by decide) rfl, (fun _ h => nomatch h)⟩

theorem registration_truthful_bar :
    Trace (GoodStep id) (Mem.init 1) [.register .root (bar 1 0x1000) true .ok] oneBar ∧
      ∃ e, (oneBar.accessMemory 0 0x1FFF).1 = some e ∧ e.param = bar 1 0x1000 := by
  have hid : ∀ t : Tree RbRange, (id t).toList = t.toList := fun _ => rfl
  have htrue := (registration_truthful hid 1).2 _ _ oneBar_run
  obtain ⟨e, he, _, hparam⟩ := htrue.reached (0, bar 1 0x1000) mem_cons_self 0 0x1FFF
    (by decide)
  exact ⟨oneBar_run, e, he, hparam⟩

/-- A second BAR that starts inside the first is registered with 0 and never reached, and
taking it back fails an assertion. -/
theorem overlapping_bar_lost :
    let m := (oneBar.registerMemInt id .root (bar 2 0x1800) true).2
    (oneBar.registerMemInt id .root (bar 2 0x1800) true).1 = .ok ∧
      (m.accessMemory 0 0x1800).1.map (·.param.name) = some 1 ∧
      (m.accessMemory 0 0x2000).1 = none ∧
      (m.unregisterMem id (bar 2 0x1800)).isNone := by
  decide

end ScorpiHv.Mmio

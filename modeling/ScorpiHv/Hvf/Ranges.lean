import ScorpiHv.Hvf.Memory
import ScorpiHv.Lib.Trace

/-!
# Guest memory ranges are exclusive

Each call takes one slot out and puts one in. Ranges are multiples of a page, so
looking at one address of each page is enough.
-/

namespace ScorpiHv.Hvf
open List

variable {shift : Nat} {ctx ctx' : Vmctx} {l l' : List MemRange} {s : MemRange}

def Apart (a b : MemRange) : Prop :=
  0 < a.len → 0 < b.len → a.gpa + a.len ≤ b.gpa ∨ b.gpa + b.len ≤ a.gpa

variable {a b : MemRange}

lemma Apart.symm (h : Apart a b) : Apart b a :=
  fun hb ha => (h ha hb).symm

/-- A slot is empty, or holds whole pages below the end of the address space. -/
structure SlotOk (shift : Nat) (s : MemRange) : Prop where
  empty : s.len = 0 → s = { active := s.active }
  range : 0 < s.len → s.gpa % 2 ^ shift = 0 ∧ s.len % 2 ^ shift = 0 ∧ s.gpa + s.len < 2 ^ 64

structure RangesOk (shift : Nat) (ctx : Vmctx) : Prop where
  slot : ∀ s ∈ ctx.memRanges, SlotOk shift s
  apart : ctx.memRanges.Pairwise Apart
  hv : ∀ x a, ctx.hv x = some a ↔
    ∃ s ∈ ctx.memRanges, s.active ∧ s.Contains x ∧ a = s.object + (x - s.gpa)
  setups : ∀ g ∈ ctx.setups, 0 < g.len ∧
    ∃ s ∈ ctx.memRanges, s.gpa = g.gpa ∧ s.len = g.len ∧ s.object = g.object

variable {α : Type}

lemma updateFirst_perm {p : α → Bool} {a : α} {xs : List α} (f : α → α) (h : xs.find? p = some a) :
    ∃ rest, xs.Perm (a :: rest) ∧ (updateFirst p f xs).Perm (f a :: rest) := by
  induction xs with
  | nil => cases h
  | cons b xs ih =>
    rw [updateFirst]
    by_cases hb : p b
    · rw [List.find?_cons_of_pos hb] at h
      cases h
      rw [if_pos hb]
      exact ⟨xs, .refl _, .refl _⟩
    · rw [List.find?_cons_of_neg (by simpa using hb)] at h
      obtain ⟨rest, hold, hnew⟩ := ih h
      rw [if_neg hb]
      exact ⟨b :: rest, (hold.cons b).trans (.swap a b rest), (hnew.cons b).trans (.swap _ b rest)⟩

lemma updateFirst_none {p : α → Bool} {xs : List α} (f : α → α)
    (h : xs.find? p = none) : updateFirst p f xs = xs := by
  induction xs with
  | nil => rfl
  | cons b xs ih =>
    rw [List.find?_eq_none] at h
    rw [updateFirst, if_neg (h b mem_cons_self), ih]
    rw [List.find?_eq_none]
    exact fun x hx => h x (mem_cons_of_mem _ hx)

lemma updateFirst_id {p : α → Bool} {xs : List α} {f : α → α}
    (h : ∀ a ∈ xs, p a → f a = a) : updateFirst p f xs = xs := by
  induction xs with
  | nil => rfl
  | cons b xs ih =>
    rw [updateFirst, ih fun a ha => h a (mem_cons_of_mem _ ha)]
    split
    · rename_i hb
      rw [h b mem_cons_self hb]
    · rfl

lemma free_iff : s.free ↔ s.active = false ∧ s.object = 0 ∧ s.len = 0 := by
  simp [MemRange.free, and_assoc]

lemma SlotOk.free_eq (h : SlotOk shift s) (hfree : s.free) : s = {} := by
  obtain ⟨hactive, _, hlen⟩ := free_iff.1 hfree
  have hs := h.empty hlen
  rw [hactive] at hs
  exact hs

lemma place_perm (hslot : ∀ s ∈ l, SlotOk shift s) (s : MemRange) :
    ∃ rest, (Vmctx.place l s).Perm (s :: rest) ∧ (l.Perm rest ∨ l.Perm ({} :: rest)) := by
  unfold Vmctx.place
  split_ifs with hany
  · obtain ⟨a, ha⟩ : ∃ a, l.find? (·.free) = some a := by
      rw [← Option.isSome_iff_exists, List.find?_isSome]
      simpa using hany
    obtain ⟨rest, hold, hnew⟩ := updateFirst_perm (fun _ => s) ha
    have hmem : a ∈ l := mem_of_find?_eq_some ha
    have hfree := (hslot a hmem).free_eq (List.find?_some ha)
    rw [hfree] at hold
    exact ⟨rest, hnew, .inr hold⟩
  · exact ⟨l, perm_append_singleton s l, .inl (.refl l)⟩

variable {x : Nat}

lemma contains_pos (h : s.Contains x) : 0 < s.len := by
  obtain ⟨h1, h2⟩ := h
  omega

lemma Apart.not_both (h : Apart a b) (x : Nat) : ¬ (a.Contains x ∧ b.Contains x) := by
  rintro ⟨ha, hb⟩
  have hap := h (contains_pos ha) (contains_pos hb)
  unfold MemRange.Contains at ha hb
  omega

lemma apart_of_not_both (h : ∀ x, ¬ (a.Contains x ∧ b.Contains x)) : Apart a b := by
  intro ha hb
  by_contra hno
  apply h (max a.gpa b.gpa)
  unfold MemRange.Contains
  omega

variable {p : Nat}

lemma page_step {a b : Nat} (ha : a % p = 0) (hb : b % p = 0) (h : a < b) : a + p ≤ b := by
  obtain ⟨i, rfl⟩ := Nat.dvd_of_mod_eq_zero ha
  obtain ⟨j, rfl⟩ := Nat.dvd_of_mod_eq_zero hb
  have hij : i < j := Nat.lt_of_mul_lt_mul_left h
  calc p * i + p = p * (i + 1) := by ring
    _ ≤ p * j := Nat.mul_le_mul_left p hij

variable {gpa len : Nat}

lemma mem_pages (hgpa : gpa % 2 ^ shift = 0) (h : p ∈ Vmctx.pages shift gpa len) :
    gpa ≤ p ∧ p % 2 ^ shift = 0 := by
  obtain ⟨i, _, rfl⟩ := mem_map.1 h
  refine ⟨Nat.le_add_right _ _, ?_⟩
  rw [Nat.add_mul_mod_self_right]
  exact hgpa

lemma page_of (hfit : gpa + len < 2 ^ 64) (hlow : gpa ≤ x) (hhigh : x < gpa + len) :
    ∃ p ∈ Vmctx.pages shift gpa len, p ≤ x ∧ x < p + 2 ^ shift := by
  have hp : 0 < 2 ^ shift := Nat.two_pow_pos shift
  have hmod := Nat.div_add_mod (x - gpa) (2 ^ shift)
  rw [Nat.mul_comm] at hmod
  refine ⟨gpa + (x - gpa) / 2 ^ shift * 2 ^ shift, ?_, by omega, by omega⟩
  apply mem_map.2
  refine ⟨(x - gpa) / 2 ^ shift, ?_, rfl⟩
  rw [mem_range, Nat.mod_eq_of_lt hfit]
  calc (x - gpa) / 2 ^ shift ≤ (gpa + len - gpa - 1) / 2 ^ shift := Nat.div_le_div_right (by omega)
    _ < (gpa + len - gpa - 1) / 2 ^ shift + 1 := Nat.lt_succ_self _
    _ = (gpa + len - gpa - 1 + 2 ^ shift) / 2 ^ shift := (Nat.add_div_right _ hp).symm
    _ = (gpa + len - gpa + 2 ^ shift - 1) / 2 ^ shift := by congr 1; omega

lemma RangesOk.allocated_iff (h : RangesOk shift ctx) (hp : p % 2 ^ shift = 0) (hlow : p ≤ x)
    (hhigh : x < p + 2 ^ shift) : ctx.vmMemAllocated p ↔ ∃ s ∈ ctx.memRanges, s.Contains x := by
  have hany : ctx.vmMemAllocated p ↔ ∃ s ∈ ctx.memRanges, s.Contains p := by
    unfold Vmctx.vmMemAllocated
    rw [any_eq_true]
    refine exists_congr fun s => and_congr_right fun hs => ?_
    have hfit : s.gpa + s.len < 2 ^ 64 := by
      rcases Nat.eq_zero_or_pos s.len with hlen | hlen
      · have heq := (h.slot s hs).empty hlen
        rw [heq]
        exact Nat.two_pow_pos 64
      · exact ((h.slot s hs).range hlen).2.2
    rw [Nat.mod_eq_of_lt hfit]
    simp [MemRange.Contains]
  rw [hany]
  refine exists_congr fun s => and_congr_right fun hs => ?_
  have hrange := (h.slot s hs).range
  constructor
  · intro hin
    obtain ⟨hg, hl, _⟩ := hrange (contains_pos hin)
    obtain ⟨h1, h2⟩ := hin
    have hend : (s.gpa + s.len) % 2 ^ shift = 0 := by rw [Nat.add_mod, hg, hl]; simp
    have hstep := page_step hp hend h2
    exact ⟨by omega, by omega⟩
  · intro hin
    obtain ⟨hg, hl, _⟩ := hrange (contains_pos hin)
    obtain ⟨h1, h2⟩ := hin
    refine ⟨?_, by omega⟩
    by_contra hlt
    have hstep := page_step hp hg (Nat.lt_of_not_le hlt)
    omega

def Uncovered (ctx : Vmctx) (gpa len : Nat) : Prop :=
  gpa + len < 2 ^ 64 ∧ ∃ x, gpa ≤ x ∧ x < gpa + len ∧ ∀ s ∈ ctx.memRanges, ¬ s.Contains x

/-- The condition on a call: a segment of whole pages is set up only where it fits and is not
covered already. -/
def Good (shift : Nat) (ctx : Vmctx) : Vmctx.Call → Prop
  | .setup gpa len _ _ _ _ =>
    gpa % 2 ^ shift = 0 → len % 2 ^ shift = 0 → 0 < len → Uncovered ctx gpa len
  | .munmap _ _ _ => True
  | .visible _ _ _ _ => True

/-- What `vm_malloc` found on its way to a result. -/
inductive Malloced (shift : Nat) (ctx : Vmctx) (gpa len prot addr : Nat) :
    Err × Vmctx × Nat → Prop where
  | failed {err : Err} {addr' : Nat} : err ≠ .ok →
      Malloced shift ctx gpa len prot addr (err, ctx, addr')
  | unmapped {err : Err} {addr' : Nat} : err ≠ .ok →
      Malloced shift ctx gpa len prot addr
        (err, { ctx with memRanges := updateFirst (·.free) (fun _ => {}) ctx.memRanges }, addr')
  | covered : 0 < len → gpa % 2 ^ shift = 0 → len % 2 ^ shift = 0 →
      (∃ p, p ∈ Vmctx.pages shift gpa len) →
      (∀ p ∈ Vmctx.pages shift gpa len, ctx.vmMemAllocated p) →
      Malloced shift ctx gpa len prot addr
        (.ok, { ctx with setups := ⟨gpa, len, addr⟩ :: ctx.setups }, addr)
  | mapped {s : MemRange} : 0 < len → gpa % 2 ^ shift = 0 → len % 2 ^ shift = 0 →
      (∀ p ∈ Vmctx.pages shift gpa len, ¬ ctx.vmMemAllocated p) →
      s.gpa = gpa → s.len = len → s.active →
      (prot &&& PROT_DONT_ALLOCATE ≠ 0 → s.object = addr) →
      Malloced shift ctx gpa len prot addr
        (.ok,
          { memRanges := Vmctx.place ctx.memRanges s
            hv := hvVmMap ctx.hv s
            setups := ⟨gpa, len, s.object⟩ :: ctx.setups }, s.object)

lemma vmMalloc_cases (shift : Nat) (ctx : Vmctx) (gpa len prot addr : Nat)
    (memalign : Option Nat) (mapOk : Bool) :
    Malloced shift ctx gpa len prot addr (ctx.vmMalloc shift gpa len prot addr memalign mapOk) := by
  unfold Vmctx.vmMalloc
  split
  · exact .failed (by decide)
  rename_i harg
  have hgpa : gpa % 2 ^ shift = 0 := by
    by_contra h
    exact harg (.inl h)
  have hlen : len % 2 ^ shift = 0 := by
    by_contra h
    exact harg (.inr (.inl h))
  have hpos : 0 < len := Nat.pos_of_ne_zero fun h => harg (.inr (.inr h))
  dsimp only
  split
  · exact .failed (by decide)
  rename_i hmixed
  split
  · rename_i hcov
    obtain ⟨p, hp⟩ := exists_mem_of_ne_nil _ hcov.1
    refine .covered hpos hgpa hlen ⟨p, (mem_filter.1 hp).1⟩ ?_
    intro q hq
    have hnone := filter_eq_nil_iff.1 hcov.2 q hq
    simpa using hnone
  · rename_i hcov
    have hnone : (Vmctx.pages shift gpa len).filter ctx.vmMemAllocated = [] := by
      by_contra hne
      by_cases havail : ((Vmctx.pages shift gpa len).filter fun g => !ctx.vmMemAllocated g) = []
      · exact hcov ⟨hne, havail⟩
      · exact hmixed ⟨hne, havail⟩
    have hfree := filter_eq_nil_iff.1 hnone
    split
    · exact .failed (by decide)
    split
    · exact .failed (by decide)
    rename_i object hobj
    split
    · refine .mapped hpos hgpa hlen hfree rfl rfl rfl ?_
      intro hprot
      rw [if_neg hprot] at hobj
      exact (Option.some.inj hobj).symm
    · exact .unmapped (by decide)

def HvIs (l : List MemRange) (hv : Nat → Option Nat) : Prop :=
  ∀ x a, hv x = some a ↔ ∃ s ∈ l, s.active ∧ s.Contains x ∧ a = s.object + (x - s.gpa)

section
variable {rest : List MemRange} {hv : Nat → Option Nat}

lemma HvIs.perm (h : HvIs l hv) (hperm : l'.Perm l) : HvIs l' hv := by
  intro x a
  rw [h x a]
  exact exists_congr fun s => and_congr_left fun _ => hperm.mem_iff.symm

lemma HvIs.inactive (hoff : s.active = false) : HvIs (s :: rest) hv ↔ HvIs rest hv := by
  refine forall_congr' fun x => forall_congr' fun a => ?_
  simp [hoff]

lemma HvIs.map (h : HvIs rest hv) (hon : s.active) (hapart : ∀ r ∈ rest, Apart s r) :
    HvIs (s :: rest) (hvVmMap hv s) := by
  intro x a
  rw [exists_mem_cons_iff]
  unfold hvVmMap
  split_ifs with hin
  · constructor
    · intro heq
      exact .inl ⟨hon, hin, (Option.some.inj heq).symm⟩
    · rintro (⟨_, _, rfl⟩ | ⟨r, hr, _, hin', _⟩)
      · rfl
      · exact absurd ⟨hin, hin'⟩ ((hapart r hr).not_both x)
  · rw [h x a]
    constructor
    · exact .inr
    rintro (⟨_, hin', _⟩ | hr)
    · exact absurd hin' hin
    · exact hr

lemma HvIs.unmap (h : HvIs (s :: rest) hv) (hapart : ∀ r ∈ rest, Apart s r) :
    HvIs rest (hvVmUnmap hv s) := by
  intro x a
  unfold hvVmUnmap
  split_ifs with hin
  · constructor
    · intro heq
      cases heq
    · rintro ⟨r, hr, _, hin', _⟩
      exact absurd ⟨hin, hin'⟩ ((hapart r hr).not_both x)
  · rw [h x a, exists_mem_cons_iff]
    constructor
    · rintro (⟨_, hin', _⟩ | hr)
      · exact absurd hin' hin
      · exact hr
    · exact .inr

end

lemma apart_perm {xs ys : List MemRange} (hperm : xs.Perm ys) : xs.Pairwise Apart ↔ ys.Pairwise Apart :=
  hperm.pairwise_iff fun h => h.symm

lemma RangesOk.of_perm {l : List MemRange} (hperm : ctx.memRanges.Perm l)
    (hslot : ∀ s ∈ l, SlotOk shift s) (hapart : l.Pairwise Apart) (hhv : HvIs l ctx.hv)
    (hsetups : ∀ g ∈ ctx.setups, 0 < g.len ∧
      ∃ s ∈ l, s.gpa = g.gpa ∧ s.len = g.len ∧ s.object = g.object) : RangesOk shift ctx where
  slot := fun s hs => hslot s (hperm.mem_iff.1 hs)
  apart := (apart_perm hperm).2 hapart
  hv := hhv.perm hperm
  setups := by
    intro g hg
    obtain ⟨hpos, s, hs, hseg⟩ := hsetups g hg
    exact ⟨hpos, s, hperm.mem_iff.2 hs, hseg⟩

lemma slotOk_zero : SlotOk shift {} := ⟨fun _ => rfl, fun h => absurd h (by decide)⟩

section
variable (h : RangesOk shift ctx)
include h

lemma RangesOk.clear_free : updateFirst (·.free) (fun _ => {}) ctx.memRanges = ctx.memRanges :=
  updateFirst_id fun s hs hfree => ((h.slot s hs).free_eq hfree).symm

structure Rest (ctx : Vmctx) (rest : List MemRange) : Prop where
  mem : ∀ r ∈ rest, r ∈ ctx.memRanges
  apart : rest.Pairwise Apart
  hv : HvIs rest ctx.hv
  keeps : ∀ r ∈ ctx.memRanges, 0 < r.len → r ∈ rest

lemma RangesOk.rest {rest : List MemRange}
    (hperm : ctx.memRanges.Perm rest ∨ ctx.memRanges.Perm ({} :: rest)) : Rest ctx rest := by
  rcases hperm with hperm | hperm
  · refine ⟨fun r hr => hperm.mem_iff.2 hr, (apart_perm hperm).1 h.apart,
      HvIs.perm h.hv hperm.symm, fun r hr _ => hperm.mem_iff.1 hr⟩
  have happ := (apart_perm hperm).1 h.apart
  have hhv : HvIs ({} :: rest) ctx.hv := HvIs.perm h.hv hperm.symm
  refine ⟨fun r hr => hperm.mem_iff.2 (mem_cons_of_mem _ hr), (pairwise_cons.1 happ).2,
    (HvIs.inactive rfl).1 hhv, ?_⟩
  intro r hr hpos
  rcases mem_cons.1 (hperm.mem_iff.1 hr) with rfl | hr
  · exact absurd hpos (by decide)
  · exact hr

lemma RangesOk.new_apart (hfit : gpa + len < 2 ^ 64) (hgpa : gpa % 2 ^ shift = 0)
    (hfree : ∀ p ∈ Vmctx.pages shift gpa len, ¬ ctx.vmMemAllocated p)
    (hsg : s.gpa = gpa) (hsl : s.len = len) : ∀ r ∈ ctx.memRanges, Apart s r := by
  intro r hr
  apply apart_of_not_both
  rintro x ⟨hin, hin'⟩
  unfold MemRange.Contains at hin
  rw [hsg, hsl] at hin
  obtain ⟨p, hp, hlow, hhigh⟩ := page_of hfit hin.1 hin.2
  have hmod := (mem_pages hgpa hp).2
  exact hfree p hp ((h.allocated_iff hmod hlow hhigh).2 ⟨r, hr, hin'⟩)

lemma RangesOk.not_covered (hgood : Uncovered ctx gpa len) (hgpa : gpa % 2 ^ shift = 0)
    (hall : ∀ p ∈ Vmctx.pages shift gpa len, ctx.vmMemAllocated p) : False := by
  obtain ⟨hfit, x, hlow, hhigh, hno⟩ := hgood
  obtain ⟨p, hp, hplow, hphigh⟩ := page_of hfit hlow hhigh
  have hmod := (mem_pages hgpa hp).2
  obtain ⟨s, hs, hin⟩ := (h.allocated_iff hmod hplow hphigh).1 (hall p hp)
  exact hno s hs hin

lemma RangesOk.setup {prot addr : Nat}
    {r : Err × Vmctx × Nat} (hcase : Malloced shift ctx gpa len prot addr r)
    (hgood : gpa % 2 ^ shift = 0 → len % 2 ^ shift = 0 → 0 < len → Uncovered ctx gpa len) :
    RangesOk shift r.2.1 := by
  cases hcase with
  | failed => exact h
  | unmapped =>
    rw [h.clear_free]
    exact h
  | covered hpos hgpa hlen _ hall => exact (h.not_covered (hgood hgpa hlen hpos) hgpa hall).elim
  | @mapped s hpos hgpa hlen hfree hsg hsl hon _ =>
    have hfit := (hgood hgpa hlen hpos).1
    obtain ⟨rest, hperm, hold⟩ := place_perm h.slot s
    have hrest := h.rest hold
    have hapart : ∀ r ∈ rest, Apart s r := fun r hr =>
      h.new_apart hfit hgpa hfree hsg hsl r (hrest.mem r hr)
    refine .of_perm hperm ?_ (pairwise_cons.2 ⟨hapart, hrest.apart⟩) (hrest.hv.map hon hapart) ?_
    · intro r hr
      rcases mem_cons.1 hr with rfl | hr
      · refine ⟨fun hz => absurd hz (by omega), fun _ => ?_⟩
        rw [hsg, hsl]
        exact ⟨hgpa, hlen, hfit⟩
      · exact h.slot r (hrest.mem r hr)
    · intro g hg
      rcases mem_cons.1 hg with rfl | hg
      · exact ⟨hpos, s, mem_cons_self, hsg, hsl, rfl⟩
      obtain ⟨hgpos, r, hr, hseg⟩ := h.setups g hg
      refine ⟨hgpos, r, mem_cons_of_mem _ (hrest.keeps r hr ?_), hseg⟩
      rw [hseg.2.1]
      exact hgpos

end

lemma isSegment_iff : Vmctx.isSegment gpa len s ↔ s.gpa = gpa ∧ s.len = len := by
  simp [Vmctx.isSegment]

/-- What a successful `vm_munmap_memseg` did. -/
structure Unmapped (ctx : Vmctx) (gpa len : Nat) (s : MemRange) (rest : List MemRange)
    (ctx' : Vmctx) : Prop where
  at_gpa : s.gpa = gpa
  of_len : s.len = len
  old : ctx.memRanges.Perm (s :: rest)
  new : ctx'.memRanges.Perm ({} :: rest)
  hv : ctx'.hv = if s.active then hvVmUnmap ctx.hv s else ctx.hv
  setups : ctx'.setups = ctx.setups.filter fun g => ¬ (g.gpa = gpa ∧ g.len = len)

lemma munmap_cases (ctx : Vmctx) (gpa len : Nat) (unmapOk : Bool) :
    ((ctx.vmMunmapMemseg gpa len unmapOk).1 ≠ .ok ∧
      (ctx.vmMunmapMemseg gpa len unmapOk).2 = ctx) ∨
    ((ctx.vmMunmapMemseg gpa len unmapOk).1 = .ok ∧
      ∃ s rest, Unmapped ctx gpa len s rest (ctx.vmMunmapMemseg gpa len unmapOk).2) := by
  unfold Vmctx.vmMunmapMemseg
  cases hfind : ctx.memRanges.find? (Vmctx.isSegment gpa len) with
  | none => exact .inl ⟨nofun, rfl⟩
  | some s =>
    dsimp only
    split
    · exact .inl ⟨nofun, rfl⟩
    obtain ⟨hsg, hsl⟩ := isSegment_iff.1 (List.find?_some hfind)
    obtain ⟨rest, hold, hnew⟩ := updateFirst_perm (fun _ => {}) hfind
    exact .inr ⟨rfl, s, rest, hsg, hsl, hold, hnew, rfl, rfl⟩

lemma RangesOk.others (h : RangesOk shift ctx) {rest : List MemRange}
    (hperm : ctx.memRanges.Perm (s :: rest)) :
    (∀ r ∈ rest, Apart s r) ∧ rest.Pairwise Apart ∧ HvIs (s :: rest) ctx.hv :=
  ⟨(pairwise_cons.1 ((apart_perm hperm).1 h.apart)).1,
    (pairwise_cons.1 ((apart_perm hperm).1 h.apart)).2, HvIs.perm h.hv hperm.symm⟩

lemma apart_zero (r : MemRange) : Apart {} r := fun h => absurd h (by decide)

lemma Unmapped.hvIs {rest : List MemRange} (h : RangesOk shift ctx)
    (hun : Unmapped ctx gpa len s rest ctx') : HvIs rest ctx'.hv := by
  obtain ⟨hapart, _, hhv⟩ := h.others hun.old
  rw [hun.hv]
  split_ifs with hon
  · exact hhv.unmap hapart
  · exact (HvIs.inactive (by simpa using hon)).1 hhv

lemma RangesOk.munmap {rest : List MemRange} (h : RangesOk shift ctx)
    (hun : Unmapped ctx gpa len s rest ctx') : RangesOk shift ctx' := by
  obtain ⟨_, hpair, _⟩ := h.others hun.old
  refine .of_perm hun.new ?_ (pairwise_cons.2 ⟨fun r _ => apart_zero r, hpair⟩)
    ((HvIs.inactive rfl).2 (hun.hvIs h)) ?_
  · intro r hr
    rcases mem_cons.1 hr with rfl | hr
    · exact slotOk_zero
    · exact h.slot r (hun.old.mem_iff.2 (mem_cons_of_mem _ hr))
  · intro g hg
    rw [hun.setups, mem_filter] at hg
    obtain ⟨hpos, r, hr, hrg, hrl, hobj⟩ := h.setups g hg.1
    have hne : r ≠ s := by
      rintro rfl
      have hno : ¬ (g.gpa = gpa ∧ g.len = len) := of_decide_eq_true hg.2
      exact hno ⟨hrg.symm.trans hun.at_gpa, hrl.symm.trans hun.of_len⟩
    have hmem := mem_of_ne_of_mem hne (hun.old.mem_iff.1 hr)
    exact ⟨hpos, r, mem_cons_of_mem _ hmem, hrg, hrl, hobj⟩

lemma visible_cases (ctx : Vmctx) (gpa len : Nat) (visible mapOk : Bool) :
    ((ctx.vmSetMemorySegmentVisible gpa len visible mapOk).2 = ctx) ∨
    ((ctx.vmSetMemorySegmentVisible gpa len visible mapOk).1 = .ok ∧
      ∃ s rest, ctx.memRanges.Perm (s :: rest) ∧ s.active = !visible ∧
        (ctx.vmSetMemorySegmentVisible gpa len visible mapOk).2.memRanges.Perm
          ({ s with active := visible } :: rest) ∧
        (ctx.vmSetMemorySegmentVisible gpa len visible mapOk).2.hv =
          (if visible then hvVmMap ctx.hv s else hvVmUnmap ctx.hv s) ∧
        (ctx.vmSetMemorySegmentVisible gpa len visible mapOk).2.setups = ctx.setups) := by
  unfold Vmctx.vmSetMemorySegmentVisible
  cases hfind : ctx.memRanges.find? (Vmctx.isSegment gpa len) with
  | none => exact .inl rfl
  | some s =>
    dsimp only
    split
    · exact .inl rfl
    rename_i hsame
    cases mapOk with
    | false => exact .inl rfl
    | true =>
      obtain ⟨rest, hold, hnew⟩ := updateFirst_perm (fun s : MemRange => { s with active := visible }) hfind
      exact .inr ⟨rfl, s, rest, hold, Bool.eq_not.2 hsame, hnew, rfl, rfl⟩

lemma RangesOk.visible {visible mapOk : Bool} (h : RangesOk shift ctx) :
    RangesOk shift (ctx.vmSetMemorySegmentVisible gpa len visible mapOk).2 := by
  rcases visible_cases ctx gpa len visible mapOk with heq | ⟨_, s, rest, hold, hoff, hnew, hhv, hset⟩
  · rw [heq]
    exact h
  obtain ⟨hapart, hpair, hhvis⟩ := h.others hold
  have hs := h.slot s (hold.mem_iff.2 mem_cons_self)
  refine .of_perm hnew ?_ (pairwise_cons.2 ⟨hapart, hpair⟩) ?_ ?_
  · intro r hr
    rcases mem_cons.1 hr with rfl | hr
    · refine ⟨?_, hs.range⟩
      intro hlen
      have heq := hs.empty hlen
      rw [heq]
    · exact h.slot r (hold.mem_iff.2 (mem_cons_of_mem _ hr))
  · rw [hhv]
    cases visible with
    | true => exact ((HvIs.inactive hoff).1 hhvis).map (s := { s with active := true }) rfl hapart
    | false => exact (HvIs.inactive rfl).2 (hhvis.unmap hapart)
  · rw [hset]
    intro g hg
    obtain ⟨hpos, r, hr, hseg⟩ := h.setups g hg
    rcases mem_cons.1 (hold.mem_iff.1 hr) with rfl | hr
    · exact ⟨hpos, _, mem_cons_self, hseg⟩
    · exact ⟨hpos, r, mem_cons_of_mem _ hr, hseg⟩

namespace Vmctx

def recorded (ctx : Vmctx) : List MemRange := ctx.memRanges.filter fun s => 0 < s.len

/-- A successful setup records and maps the one segment, of the object that `addr` names. -/
structure SetUp (ctx : Vmctx) (gpa len prot addr : Nat) (ctx' : Vmctx) (addr' : Nat) : Prop where
  segment : ∃ s, s.gpa = gpa ∧ s.len = len ∧ s.object = addr' ∧ s.active = true ∧
    ctx'.recorded.Perm (s :: ctx.recorded)
  mapped : ∀ x, ctx'.hv x =
    if gpa ≤ x ∧ x < gpa + len then some (addr' + (x - gpa)) else ctx.hv x
  passed : prot &&& PROT_DONT_ALLOCATE ≠ 0 → addr' = addr

structure TakenOut (ctx : Vmctx) (g : Setup) (ctx' : Vmctx) : Prop where
  segment : ∃ s, s.gpa = g.gpa ∧ s.len = g.len ∧ s.object = g.object ∧
    ctx.recorded.Perm (s :: ctx'.recorded)
  unmapped : ∀ x, ctx'.hv x = if g.gpa ≤ x ∧ x < g.gpa + g.len then none else ctx.hv x

structure Exclusive (shift : Nat) (ctx : Vmctx) : Prop where
  disjoint : ctx.recorded.Pairwise fun a b => ∀ x, ¬ (a.Contains x ∧ b.Contains x)
  nowrap : ∀ s ∈ ctx.recorded, s.gpa + s.len < 2 ^ 64
  mapped : ∀ x, (ctx.hv x).isSome ↔ ∃ s ∈ ctx.recorded, s.active ∧ s.Contains x
  setup : ∀ gpa len prot addr memalign mapOk,
    Good shift ctx (.setup gpa len prot addr memalign mapOk) →
    (ctx.vmMalloc shift gpa len prot addr memalign mapOk).1 = .ok →
    SetUp ctx gpa len prot addr (ctx.vmMalloc shift gpa len prot addr memalign mapOk).2.1
      (ctx.vmMalloc shift gpa len prot addr memalign mapOk).2.2
  munmap : ∀ g ∈ ctx.setups, ∀ unmapOk, (ctx.vmMunmapMemseg g.gpa g.len unmapOk).1 = .ok →
    TakenOut ctx g (ctx.vmMunmapMemseg g.gpa g.len unmapOk).2
  unmaps : ∀ g ∈ ctx.setups, (ctx.vmMunmapMemseg g.gpa g.len true).1 = .ok
  failed : ∀ c, (ctx.call shift c).1 ≠ .ok → (ctx.call shift c).2 = ctx

end Vmctx

lemma recorded_perm {rest : List MemRange} (h : ctx.memRanges.Perm (s :: rest))
    (hpos : 0 < s.len) : ctx.recorded.Perm (s :: rest.filter fun r => 0 < r.len) := by
  have hfilter := h.filter fun r : MemRange => 0 < r.len
  rw [filter_cons_of_pos (by simpa using hpos)] at hfilter
  exact hfilter

lemma recorded_perm_zero {rest : List MemRange} (h : ctx.memRanges.Perm ({} :: rest)) :
    ctx.recorded.Perm (rest.filter fun r => 0 < r.len) :=
  h.filter fun r : MemRange => 0 < r.len

section
variable (h : RangesOk shift ctx)
include h

lemma RangesOk.setUp {prot addr : Nat}
    {r : Err × Vmctx × Nat} (hcase : Malloced shift ctx gpa len prot addr r)
    (hgood : gpa % 2 ^ shift = 0 → len % 2 ^ shift = 0 → 0 < len → Uncovered ctx gpa len)
    (hok : r.1 = .ok) : Vmctx.SetUp ctx gpa len prot addr r.2.1 r.2.2 := by
  cases hcase with
  | failed herr | unmapped herr => exact absurd hok herr
  | covered hpos hgpa hlen _ hall => exact (h.not_covered (hgood hgpa hlen hpos) hgpa hall).elim
  | @mapped s hpos _ _ _ hsg hsl hon hpassed =>
    obtain ⟨rest, hperm, hold⟩ := place_perm h.slot s
    have hrest : ctx.recorded.Perm (rest.filter fun r => 0 < r.len) := by
      rcases hold with hold | hold
      · exact hold.filter fun r : MemRange => 0 < r.len
      · exact recorded_perm_zero hold
    refine ⟨⟨s, hsg, hsl, rfl, hon, ?_⟩, ?_, hpassed⟩
    · have hnew := (hperm.filter fun r : MemRange => 0 < r.len)
      rw [filter_cons_of_pos (by simp [hsl, hpos])] at hnew
      exact hnew.trans (hrest.symm.cons s)
    · intro x
      simp only [hvVmMap, MemRange.Contains, hsg, hsl]

variable {g : Setup}

lemma RangesOk.slot_of_setup (hg : g ∈ ctx.setups)
    {rest : List MemRange} (hperm : ctx.memRanges.Perm (s :: rest)) (hsg : s.gpa = g.gpa)
    (hsl : s.len = g.len) : s.object = g.object := by
  obtain ⟨hpos, r, hr, hrg, hrl, hobj⟩ := h.setups g hg
  rcases mem_cons.1 (hperm.mem_iff.1 hr) with rfl | hr
  · exact hobj
  · have hap := (h.others hperm).1 r hr (by omega) (by omega)
    omega

lemma RangesOk.takenOut (hg : g ∈ ctx.setups) {rest : List MemRange}
    (hun : Unmapped ctx g.gpa g.len s rest ctx') : Vmctx.TakenOut ctx g ctx' := by
  have hpos : 0 < s.len := by
    rw [hun.of_len]
    exact (h.setups g hg).1
  refine ⟨⟨s, hun.at_gpa, hun.of_len, h.slot_of_setup hg hun.old hun.at_gpa hun.of_len, ?_⟩, ?_⟩
  · exact (recorded_perm hun.old hpos).trans ((recorded_perm_zero hun.new).symm.cons s)
  intro x
  obtain ⟨hapart, _, hhv⟩ := h.others hun.old
  have hin : s.Contains x ↔ g.gpa ≤ x ∧ x < g.gpa + g.len := by
    rw [MemRange.Contains, hun.at_gpa, hun.of_len]
  rw [hun.hv]
  split
  · unfold hvVmUnmap
    simp only [hin]
  rename_i hon
  by_cases hx : g.gpa ≤ x ∧ x < g.gpa + g.len
  · -- a segment that is not visible maps nothing, and nothing else maps its addresses
    rw [if_pos hx]
    cases hmap : ctx.hv x with
    | none => rfl
    | some a =>
      obtain ⟨r, hr, honr, hinr, _⟩ := (hhv x a).1 hmap
      rcases mem_cons.1 hr with rfl | hr
      · exact absurd honr hon
      · exact absurd ⟨hin.2 hx, hinr⟩ ((hapart r hr).not_both x)
  · rw [if_neg hx]

lemma RangesOk.failed (c : Vmctx.Call) (herr : (ctx.call shift c).1 ≠ .ok) :
    (ctx.call shift c).2 = ctx := by
  cases c with
  | setup gpa len prot addr memalign mapOk =>
    have hcase := vmMalloc_cases shift ctx gpa len prot addr memalign mapOk
    simp only [Vmctx.call] at herr ⊢
    generalize ctx.vmMalloc shift gpa len prot addr memalign mapOk = r at hcase herr ⊢
    cases hcase with
    | failed => rfl
    | unmapped => rw [h.clear_free]
    | covered | mapped => exact absurd rfl herr
  | munmap gpa len unmapOk =>
    rcases munmap_cases ctx gpa len unmapOk with ⟨_, heq⟩ | ⟨hok, _⟩
    · exact heq
    · exact absurd hok herr
  | visible gpa len visible mapOk =>
    rcases visible_cases ctx gpa len visible mapOk with heq | ⟨hok, _⟩
    · exact heq
    · exact absurd hok herr

lemma RangesOk.unmaps (hg : g ∈ ctx.setups) : (ctx.vmMunmapMemseg g.gpa g.len true).1 = .ok := by
  obtain ⟨_, s, hs, hsg, hsl, _⟩ := h.setups g hg
  unfold Vmctx.vmMunmapMemseg
  cases hfind : ctx.memRanges.find? (Vmctx.isSegment g.gpa g.len) with
  | none =>
    have hno := List.find?_eq_none.1 hfind s hs
    exact absurd (isSegment_iff.2 ⟨hsg, hsl⟩) hno
  | some =>
    dsimp only
    rw [if_neg (fun h => nomatch h.2)]

lemma RangesOk.exclusive : Vmctx.Exclusive shift ctx where
  disjoint := (h.apart.imp fun {_ _} hap => hap.not_both).filter _
  nowrap := by
    intro s hs
    obtain ⟨hmem, hpos⟩ := mem_filter.1 hs
    exact ((h.slot s hmem).range (of_decide_eq_true hpos)).2.2
  mapped := by
    intro x
    rw [Option.isSome_iff_exists]
    constructor
    · rintro ⟨a, ha⟩
      obtain ⟨s, hs, hon, hin, _⟩ := (h.hv x a).1 ha
      exact ⟨s, mem_filter.2 ⟨hs, decide_eq_true (contains_pos hin)⟩, hon, hin⟩
    · rintro ⟨s, hs, hon, hin⟩
      exact ⟨_, (h.hv x _).2 ⟨s, (mem_filter.1 hs).1, hon, hin, rfl⟩⟩
  setup := by
    intro gpa len prot addr memalign mapOk hgood hok
    exact h.setUp (vmMalloc_cases shift ctx gpa len prot addr memalign mapOk) hgood hok
  munmap := by
    intro g hg unmapOk hok
    rcases munmap_cases ctx g.gpa g.len unmapOk with ⟨herr, _⟩ | ⟨_, s, rest, hun⟩
    · exact absurd hok herr
    · exact h.takenOut hg hun
  unmaps := fun g hg => h.unmaps hg
  failed := h.failed

def GoodCall (shift : Nat) (ctx : Vmctx) (c : Vmctx.Call) (ctx' : Vmctx) : Prop :=
  (ctx.call shift c).2 = ctx' ∧ Good shift ctx c

lemma RangesOk.call {c : Vmctx.Call} (hcall : GoodCall shift ctx c ctx') : RangesOk shift ctx' := by
  obtain ⟨rfl, hgood⟩ := hcall
  cases c with
  | setup gpa len prot addr memalign mapOk =>
    exact h.setup (vmMalloc_cases shift ctx gpa len prot addr memalign mapOk) hgood
  | munmap gpa len unmapOk =>
    rcases munmap_cases ctx gpa len unmapOk with ⟨_, heq⟩ | ⟨_, s, rest, hun⟩
    · simp only [Vmctx.call, heq]
      exact h
    · exact h.munmap hun
  | visible gpa len visible => exact h.visible

end

lemma rangesOk_empty (shift : Nat) : RangesOk shift {} where
  slot := fun _ h => nomatch h
  apart := .nil
  hv := by
    intro x a
    constructor
    · intro h
      cases h
    · rintro ⟨s, hs, _⟩
      cases hs
  setups := fun _ h => nomatch h

lemma RangesOk.covered_setup (h : RangesOk shift ctx) (prot addr : Nat)
    (memalign : Option Nat) (mapOk : Bool) (hgpa : gpa % 2 ^ shift = 0)
    (hlen : len % 2 ^ shift = 0) (hpos : 0 < len) (hfit : gpa + len < 2 ^ 64)
    (hcov : ¬ Uncovered ctx gpa len) :
    ctx.vmMalloc shift gpa len prot addr memalign mapOk =
      (.ok, { ctx with setups := ⟨gpa, len, addr⟩ :: ctx.setups }, addr) := by
  have hall : ∀ p ∈ Vmctx.pages shift gpa len, ctx.vmMemAllocated p := by
    intro p hp
    obtain ⟨hlow, hmod⟩ := mem_pages hgpa hp
    have hhigh : p < gpa + len := by
      obtain ⟨i, hi, rfl⟩ := mem_map.1 hp
      rw [mem_range, Nat.mod_eq_of_lt hfit] at hi
      have hi' := (Nat.lt_div_iff_mul_lt (Nat.two_pow_pos shift)).1 hi
      omega
    refine (h.allocated_iff hmod (Nat.le_refl p) (Nat.lt_add_of_pos_right (Nat.two_pow_pos shift))).2 ?_
    by_contra hno
    exact hcov ⟨hfit, p, hlow, hhigh, fun s hs hin => hno ⟨s, hs, hin⟩⟩
  obtain ⟨p, hp, _⟩ : ∃ p ∈ Vmctx.pages shift gpa len, p ≤ gpa ∧ gpa < p + 2 ^ shift :=
    page_of hfit (Nat.le_refl gpa) (by omega)
  have hsome : (Vmctx.pages shift gpa len).filter ctx.vmMemAllocated ≠ [] := by
    intro hnil
    exact filter_eq_nil_iff.1 hnil p hp (hall p hp)
  have hnone : ((Vmctx.pages shift gpa len).filter fun g => !ctx.vmMemAllocated g) = [] := by
    rw [filter_eq_nil_iff]
    intro q hq
    simp [hall q hq]
  unfold Vmctx.vmMalloc
  rw [if_neg (by rintro (h1 | h1 | h1) <;> omega)]
  rw [if_neg (fun hboth => hboth.2 hnone), if_pos ⟨hsome, hnone⟩]

/-- A request whose 64-bit sum wraps is not checked: if it is accepted, it is recorded. -/
lemma wrapping_setup (prot addr : Nat) (memalign : Option Nat) (mapOk : Bool) (hgpa : gpa < 2 ^ 64)
    (hlen : len < 2 ^ 64) (hwrap : 2 ^ 64 ≤ gpa + len) (hslot : ∀ s ∈ ctx.memRanges, SlotOk shift s)
    (hok : (ctx.vmMalloc shift gpa len prot addr memalign mapOk).1 = .ok) :
    ∃ s ∈ (ctx.vmMalloc shift gpa len prot addr memalign mapOk).2.1.recorded, 2 ^ 64 ≤ s.gpa + s.len := by
  have hnil : Vmctx.pages shift gpa len = [] := by
    have hp : 0 < 2 ^ shift := Nat.two_pow_pos shift
    have hsum : (gpa + len) % 2 ^ 64 - gpa = 0 := by omega
    unfold Vmctx.pages
    rw [hsum, Nat.zero_add, Nat.div_eq_of_lt (by omega)]
    rfl
  have hcase := vmMalloc_cases shift ctx gpa len prot addr memalign mapOk
  generalize ctx.vmMalloc shift gpa len prot addr memalign mapOk = r at hcase hok ⊢
  cases hcase with
  | failed herr | unmapped herr => exact absurd hok herr
  | covered _ _ _ hsome =>
    obtain ⟨p, hp⟩ := hsome
    rw [hnil] at hp
    cases hp
  | @mapped s hpos _ _ _ hsg hsl _ _ =>
    obtain ⟨rest, hperm, _⟩ := place_perm hslot s
    refine ⟨s, mem_filter.2 ⟨hperm.mem_iff.2 mem_cons_self, ?_⟩, ?_⟩
    · rw [hsl]
      exact decide_eq_true hpos
    · rw [hsg, hsl]
      exact hwrap

/-- A setup that allocates its memory and cannot map it. -/
def Dangles (prot addr : Nat) (memalign : Option Nat) (mapOk : Bool) : Prop :=
  prot &&& PROT_DONT_ALLOCATE = 0 ∧ mapOk = false ∧ ∃ object, memalign = some object ∧ object ≠ addr

/-- A failed setup leaves `addr` as it was unless it came to map memory of its own. -/
lemma failed_setup_addr (shift : Nat) (ctx : Vmctx) (gpa len prot addr : Nat) (memalign : Option Nat)
    (mapOk : Bool) (herr : (ctx.vmMalloc shift gpa len prot addr memalign mapOk).1 ≠ .ok) :
    (ctx.vmMalloc shift gpa len prot addr memalign mapOk).2.2 = addr ↔
      ¬ ((ctx.vmMalloc shift gpa len prot addr memalign mapOk).1 = .enomem ∧
        Dangles prot addr memalign mapOk) := by
  unfold Vmctx.vmMalloc at herr ⊢
  by_cases howned : prot &&& PROT_DONT_ALLOCATE = 0
  · cases mapOk <;> cases memalign <;>
      simp only [howned, if_true, if_false, Bool.false_eq_true] at herr ⊢ <;>
      split_ifs at herr ⊢ <;> simp_all [Dangles]
  · cases mapOk <;> simp only [howned, if_true, if_false, Bool.false_eq_true] at herr ⊢ <;>
      split_ifs at herr ⊢ <;> simp_all [Dangles]

def setupRam : Vmctx.Call := .setup 0x1000 0x2000 PROT_DONT_ALLOCATE 0x70000 none true

def withRam : Vmctx := (({} : Vmctx).call 12 setupRam).2

lemma withRam_run : Trace (GoodCall 12) {} [setupRam] withRam := by
  refine .single ⟨rfl, ?_⟩
  intro _ _ _
  exact ⟨by decide, 0x1000, by decide, by decide, fun _ hs => nomatch hs⟩

end ScorpiHv.Hvf

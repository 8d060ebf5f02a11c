import ScorpiHv.Hvf.Ranges

/-!
# The segments of a KVM guest

`libvmm/kvm/vmmapi.c` and `libvmm/kvm/x86/vmmapi.c`: the two tables of memory segments.
What the kernel and `posix_memalign` answer is up to the caller. Segments that the kernel
accepts do not reach the end of the address space, so both set-up paths keep them apart.
-/

namespace ScorpiHv.Kvm
open Hvf (MemRange updateFirst PROT_DONT_ALLOCATE)

def VM_MAX_MEMORY_SEGMENTS : Nat := 16
def VM_MAX_MEMSLOTS : Nat := 32
def PAGE_SHIFT : Nat := 12

inductive Err where
  | ok
  | einval
  | eexist
  | e2big
  | enomem
  | enoent
  | kernel
  deriving DecidableEq

def hostOf (prot addr : Nat) (memalign : Option Nat) : Except Err Nat :=
  if prot &&& PROT_DONT_ALLOCATE ≠ 0 then if addr = 0 then .error .einval else .ok addr
  else match memalign with
    | none => .error .enomem
    | some host => .ok host

def withFree (limit : Nat) (slots : List MemRange) : Option (List MemRange) :=
  if slots.any fun s => s.len = 0 then some slots
  else if limit ≤ slots.length then none
  else some (slots ++ [({} : MemRange)])

def fill (slots : List MemRange) (s : MemRange) (kernelOk : Bool) : Err × List MemRange :=
  if kernelOk then (.ok, updateFirst (fun r => r.len == 0) (fun _ => { s with active := true }) slots)
  else (.kernel, updateFirst (fun r => r.len == 0) (fun _ => {}) slots)

/-- `vm_munmap_memseg`, the same under both. -/
def vmMunmapMemseg (slots : List MemRange) (gpa len : Nat) (kernelOk : Bool) :
    Err × List MemRange :=
  match slots.find? fun s => s.gpa = gpa ∧ s.len = len with
  | none => (.enoent, slots)
  | some s =>
    if s.active ∧ kernelOk = false then (.kernel, slots)
    else (.ok, updateFirst (fun s => s.gpa = gpa ∧ s.len = len) (fun _ => {}) slots)

/-- The body of `vm_set_memory_segment_visible`, for the slot that it looks for. -/
def setVisible (slots : List MemRange) (found : MemRange → Bool) (visible kernelOk : Bool) :
    Err × List MemRange :=
  match slots.find? found with
  | none => (.enoent, slots)
  | some s =>
    if s.active = visible then (.ok, slots)
    else if kernelOk = false then (.kernel, slots)
    else (.ok, updateFirst found (fun s => { s with active := visible }) slots)

def badArguments (gpa len : Nat) : Prop := gpa % 2 ^ PAGE_SHIFT ≠ 0 ∨ len % 2 ^ PAGE_SHIFT ≠ 0 ∨ len = 0

instance (gpa len : Nat) : Decidable (badArguments gpa len) := inferInstanceAs (Decidable (_ ∨ _))

namespace Generic

/-- `vm_mem_allocated`, with its 64-bit sum. -/
def vmMemAllocated (slots : List MemRange) (gpa : Nat) : Bool :=
  slots.any fun s => s.len ≠ 0 ∧ s.gpa ≤ gpa ∧ gpa < (s.gpa + s.len) % 2 ^ 64

/-- `vm_setup_memory_segment_internal`; the slot is taken before the caller's address is looked
at. -/
def vmSetupMemorySegment (slots : List MemRange) (gpa len prot addr : Nat)
    (memalign : Option Nat) (kernelOk : Bool) : Err × List MemRange :=
  if badArguments gpa len then (.einval, slots)
  else if (Hvf.Vmctx.pages PAGE_SHIFT gpa len).any (vmMemAllocated slots) then (.eexist, slots)
  else match withFree VM_MAX_MEMORY_SEGMENTS slots with
    | none => (.e2big, slots)
    | some slots =>
      match hostOf prot addr memalign with
      | .error err => (err, slots)
      | .ok object =>
        fill slots { gpa, len, object, prot, owned := prot &&& PROT_DONT_ALLOCATE = 0 } kernelOk

def vmSetMemorySegmentVisible (slots : List MemRange) (gpa len : Nat) (visible kernelOk : Bool) :
    Err × List MemRange :=
  setVisible slots (fun s => s.gpa = gpa ∧ s.len = len) visible kernelOk

/-- `vm_map_gpa`, with its 64-bit sums. -/
def vmMapGpa (slots : List MemRange) (gaddr len : Nat) : Option Nat :=
  (slots.find? fun s => s.active ∧ s.len ≠ 0 ∧ s.gpa ≤ gaddr ∧
    (gaddr + len) % 2 ^ 64 ≤ (s.gpa + s.len) % 2 ^ 64).map fun s => s.object + (gaddr - s.gpa)

end Generic

namespace X86

/-- The test of `vm_add_memslot`. -/
def overlaps (gpa len : Nat) (s : MemRange) : Bool :=
  s.len ≠ 0 ∧ gpa < (s.gpa + s.len) % 2 ^ 64 ∧ s.gpa < (gpa + len) % 2 ^ 64

def vmAddMemslot (slots : List MemRange) (s : MemRange) (kernelOk : Bool) : Err × List MemRange :=
  if slots.any (overlaps s.gpa s.len) then (.eexist, slots)
  else match withFree VM_MAX_MEMSLOTS slots with
    | none => (.e2big, slots)
    | some slots => fill slots s kernelOk

def vmSetupMemorySegment (slots : List MemRange) (gpa len prot addr : Nat)
    (memalign : Option Nat) (kernelOk : Bool) : Err × List MemRange :=
  if badArguments gpa len then (.einval, slots)
  else match hostOf prot addr memalign with
    | .error err => (err, slots)
    | .ok object =>
      vmAddMemslot slots { gpa, len, object, prot, owned := prot &&& PROT_DONT_ALLOCATE = 0 } kernelOk

def vmSetMemorySegmentVisible (slots : List MemRange) (gpa len : Nat) (visible kernelOk : Bool) :
    Err × List MemRange :=
  setVisible slots (fun s => s.len ≠ 0 ∧ s.gpa = gpa ∧ s.len = len) visible kernelOk

/-- `vm_map_gpa`, with its 64-bit sums. -/
def vmMapGpa (slots : List MemRange) (gaddr len : Nat) : Option Nat :=
  (slots.find? fun s => s.active ∧ s.len ≠ 0 ∧ s.gpa ≤ gaddr ∧ len ≤ s.len ∧
    (gaddr + len) % 2 ^ 64 ≤ (s.gpa + s.len) % 2 ^ 64).map fun s => s.object + (gaddr - s.gpa)

end X86

inductive Arch where
  | generic
  | x86

inductive Call where
  | setup (gpa len prot addr : Nat) (memalign : Option Nat) (kernelOk : Bool)
  | visible (gpa len : Nat) (visible kernelOk : Bool)
  | munmap (gpa len : Nat) (kernelOk : Bool)

def call (arch : Arch) (slots : List MemRange) : Call → Err × List MemRange
  | .setup gpa len prot addr memalign kernelOk =>
    match arch with
    | .generic => Generic.vmSetupMemorySegment slots gpa len prot addr memalign kernelOk
    | .x86 => X86.vmSetupMemorySegment slots gpa len prot addr memalign kernelOk
  | .visible gpa len visible kernelOk =>
    match arch with
    | .generic => Generic.vmSetMemorySegmentVisible slots gpa len visible kernelOk
    | .x86 => X86.vmSetMemorySegmentVisible slots gpa len visible kernelOk
  | .munmap gpa len kernelOk => vmMunmapMemseg slots gpa len kernelOk

def run (arch : Arch) (calls : List Call) : List MemRange :=
  calls.foldl (fun slots c => (call arch slots c).2) []

def vmMapGpa (arch : Arch) (slots : List MemRange) (gaddr len : Nat) : Option Nat :=
  match arch with
  | .generic => Generic.vmMapGpa slots gaddr len
  | .x86 => X86.vmMapGpa slots gaddr len

open List

open Hvf (MemRange updateFirst Apart SlotOk)

/-- Whole pages below the end of the address space, apart from each other. -/
structure TableOk (slots : List MemRange) : Prop where
  slot : ∀ s ∈ slots, SlotOk PAGE_SHIFT s
  apart : slots.Pairwise Apart

variable {slots : List MemRange}

lemma tableOk_nil : TableOk [] := ⟨fun s hs => absurd hs not_mem_nil, .nil⟩

lemma TableOk.perm {l : List MemRange} (h : TableOk l) (hperm : slots.Perm l) : TableOk slots :=
  ⟨fun s hs => h.slot s (hperm.mem_iff.mp hs), (Hvf.apart_perm hperm).mpr h.apart⟩

lemma Apart.of_same {a b r : MemRange} (h : Apart a r) (hgpa : b.gpa = a.gpa)
    (hlen : b.len = a.len) : Apart b r := by
  intro hb hr
  rw [hgpa, hlen]
  exact h (hlen ▸ hb) hr

lemma TableOk.update (h : TableOk slots) {p : MemRange → Bool} {f : MemRange → MemRange}
    (hf : ∀ a ∈ slots, p a = true → SlotOk PAGE_SHIFT (f a) ∧
      ((f a).len = 0 ∨ ((f a).gpa = a.gpa ∧ (f a).len = a.len) ∨ ∀ r ∈ slots, Apart (f a) r)) :
    TableOk (updateFirst p f slots) := by
  cases hfind : slots.find? p with
  | none =>
    rw [Hvf.updateFirst_none f hfind]
    exact h
  | some a =>
    obtain ⟨rest, hold, hnew⟩ := Hvf.updateFirst_perm f hfind
    obtain ⟨hok, hplace⟩ := hf a (mem_of_find?_eq_some hfind) (List.find?_some hfind)
    obtain ⟨hhead, htail⟩ := pairwise_cons.mp ((Hvf.apart_perm hold).mp h.apart)
    have hmem : ∀ r ∈ rest, r ∈ slots := fun r hr => hold.mem_iff.mpr (mem_cons_of_mem a hr)
    refine TableOk.perm ⟨?_, pairwise_cons.mpr ⟨?_, htail⟩⟩ hnew
    · intro s hs
      rcases mem_cons.mp hs with rfl | hs
      · exact hok
      · exact h.slot s (hmem s hs)
    · intro r hr
      rcases hplace with hempty | ⟨hgpa, hlen⟩ | hapart
      · exact fun hpos => absurd hempty (Nat.ne_of_gt hpos)
      · exact Apart.of_same (hhead r hr) hgpa hlen
      · exact hapart r (hmem r hr)

lemma TableOk.withFree (h : TableOk slots) {limit : Nat} {slots' : List MemRange}
    (hfree : withFree limit slots = some slots') : TableOk slots' ∧ ∀ r ∈ slots', r ∈ slots ∨ r = {} := by
  rw [Kvm.withFree] at hfree
  split at hfree
  · cases hfree
    exact ⟨h, fun r hr => .inl hr⟩
  split at hfree
  · cases hfree
  cases hfree
  refine ⟨TableOk.perm ⟨?_, pairwise_cons.mpr ⟨fun r _ => Hvf.apart_zero r, h.apart⟩⟩
    (perm_append_singleton {} slots), ?_⟩
  · intro s hs
    rcases mem_cons.mp hs with rfl | hs
    · exact Hvf.slotOk_zero
    · exact h.slot s hs
  · intro r hr
    rcases mem_append.mp hr with hr | hr
    · exact .inl hr
    · exact .inr (mem_singleton.mp hr)

structure Fresh (slots : List MemRange) (s : MemRange) : Prop where
  pos : 0 < s.len
  pages : s.gpa % 2 ^ PAGE_SHIFT = 0 ∧ s.len % 2 ^ PAGE_SHIFT = 0
  fits : s.gpa + s.len < 2 ^ 64
  apart : ∀ r ∈ slots, Apart s r

lemma TableOk.fill (h : TableOk slots) {s : MemRange} {kernelOk : Bool}
    (hfresh : kernelOk = true → Fresh slots s) : TableOk (fill slots s kernelOk).2 := by
  rw [Kvm.fill]
  split
  · rename_i hok
    have hs := hfresh hok
    refine h.update fun a _ _ => ⟨⟨?_, fun _ => ⟨hs.pages.1, hs.pages.2, hs.fits⟩⟩, .inr (.inr ?_)⟩
    · exact fun hempty => absurd hempty (Nat.ne_of_gt hs.pos)
    · exact fun r hr => Apart.of_same (hs.apart r hr) rfl rfl
  · exact h.update fun a _ _ => ⟨Hvf.slotOk_zero, .inl rfl⟩

lemma TableOk.setVisible (h : TableOk slots) (found : MemRange → Bool) (visible kernelOk : Bool) :
    TableOk (setVisible slots found visible kernelOk).2 := by
  rw [Kvm.setVisible]
  split
  · exact h
  split
  · exact h
  split
  · exact h
  refine h.update fun a ha _ => ⟨⟨?_, (h.slot a ha).range⟩, .inr (.inl ⟨rfl, rfl⟩)⟩
  intro hlen
  have heq := (h.slot a ha).empty hlen
  rw [heq]

lemma TableOk.munmap (h : TableOk slots) (gpa len : Nat) (kernelOk : Bool) :
    TableOk (vmMunmapMemseg slots gpa len kernelOk).2 := by
  rw [vmMunmapMemseg]
  split
  · exact h
  split
  · exact h
  · exact h.update fun a _ _ => ⟨Hvf.slotOk_zero, .inl rfl⟩

lemma Generic.apart_of_pages (h : TableOk slots) {s : MemRange}
    (hgpa : s.gpa % 2 ^ PAGE_SHIFT = 0) (hfits : s.gpa + s.len < 2 ^ 64)
    (hfree : (Hvf.Vmctx.pages PAGE_SHIFT s.gpa s.len).any (vmMemAllocated slots) = false) :
    ∀ r ∈ slots, Apart s r := by
  intro r hr hs hpos
  obtain ⟨hrgpa, -, hrfits⟩ := (h.slot r hr).range hpos
  by_contra hno
  have hstart : (max s.gpa r.gpa) % 2 ^ PAGE_SHIFT = 0 := by
    rcases Nat.le_total s.gpa r.gpa with hle | hle
    · rw [Nat.max_eq_right hle]
      exact hrgpa
    · rw [Nat.max_eq_left hle]
      exact hgpa
  obtain ⟨p, hp, hlow, hhigh⟩ : ∃ p ∈ Hvf.Vmctx.pages PAGE_SHIFT s.gpa s.len, p ≤ max s.gpa r.gpa ∧
      max s.gpa r.gpa < p + 2 ^ PAGE_SHIFT := Hvf.page_of hfits (Nat.le_max_left s.gpa r.gpa) (by omega)
  have hpage := (Hvf.mem_pages hgpa hp).2
  have heq : p = max s.gpa r.gpa := by
    by_contra hne
    have hstep := Hvf.page_step hpage hstart (Nat.lt_of_le_of_ne hlow hne)
    omega
  have hnot := any_eq_false.mp hfree p hp
  apply hnot
  rw [vmMemAllocated, any_eq_true]
  refine ⟨r, hr, decide_eq_true ⟨Nat.ne_of_gt hpos, ?_, ?_⟩⟩
  · rw [heq]
    exact Nat.le_max_right _ _
  · omega

lemma X86.apart_of_no_overlap (h : TableOk slots) {s : MemRange} (hfits : s.gpa + s.len < 2 ^ 64)
    (hfree : slots.any (overlaps s.gpa s.len) = false) : ∀ r ∈ slots, Apart s r := by
  intro r hr _ hpos
  obtain ⟨-, -, hrfits⟩ := (h.slot r hr).range hpos
  have hnot := any_eq_false.mp hfree r hr
  rw [overlaps, decide_eq_true_eq, Nat.mod_eq_of_lt hfits, Nat.mod_eq_of_lt hrfits] at hnot
  omega

lemma pages_of_good {gpa len : Nat} (h : ¬badArguments gpa len) :
    0 < len ∧ gpa % 2 ^ PAGE_SHIFT = 0 ∧ len % 2 ^ PAGE_SHIFT = 0 := by
  rw [badArguments, not_or, not_or, not_not, not_not] at h
  exact ⟨Nat.pos_of_ne_zero h.2.2, h.1, h.2.1⟩

section
variable {gpa len prot addr : Nat} {memalign : Option Nat} {kernelOk : Bool} (h : TableOk slots)
  (hfits : kernelOk = true → gpa + len < 2 ^ 64)
include h hfits

lemma TableOk.setup_generic :
    TableOk (Generic.vmSetupMemorySegment slots gpa len prot addr memalign kernelOk).2 := by
  rw [Generic.vmSetupMemorySegment]
  split
  · exact h
  rename_i hargs
  obtain ⟨hpos, hgpa, hlen⟩ := pages_of_good hargs
  split
  · exact h
  rename_i hpages
  split
  · exact h
  rename_i slots' hfree
  obtain ⟨hok, hmem⟩ := h.withFree hfree
  split
  · exact hok
  refine hok.fill fun hkernel => ⟨hpos, ⟨hgpa, hlen⟩, hfits hkernel, ?_⟩
  intro r hr
  rcases hmem r hr with hr | rfl
  · exact Generic.apart_of_pages h hgpa (hfits hkernel) (eq_false_of_ne_true hpages) r hr
  · exact (Hvf.apart_zero _).symm

lemma TableOk.setup_x86 :
    TableOk (X86.vmSetupMemorySegment slots gpa len prot addr memalign kernelOk).2 := by
  rw [X86.vmSetupMemorySegment]
  split
  · exact h
  rename_i hargs
  obtain ⟨hpos, hgpa, hlen⟩ := pages_of_good hargs
  split
  · exact h
  rw [X86.vmAddMemslot]
  split
  · exact h
  rename_i hoverlap
  split
  · exact h
  rename_i slots' hfree
  obtain ⟨hok, hmem⟩ := h.withFree hfree
  refine hok.fill fun hkernel => ⟨hpos, ⟨hgpa, hlen⟩, hfits hkernel, ?_⟩
  intro r hr
  rcases hmem r hr with hr | rfl
  · exact X86.apart_of_no_overlap h (hfits hkernel) (eq_false_of_ne_true hoverlap) r hr
  · exact (Hvf.apart_zero _).symm

end

def Call.Accepted : Call → Prop
  | .setup gpa len _ _ _ kernelOk => kernelOk = true → gpa + len < 2 ^ 64
  | .visible _ _ _ _ => True
  | .munmap _ _ _ => True

lemma TableOk.call (h : TableOk slots) {c : Call} (hc : c.Accepted) (arch : Arch) :
    TableOk (call arch slots c).2 := by
  cases c with
  | setup =>
    cases arch with
    | generic => exact h.setup_generic hc
    | x86 => exact h.setup_x86 hc
  | visible gpa len visible kernelOk =>
    cases arch with
    | generic | x86 => exact h.setVisible _ visible kernelOk
  | munmap gpa len kernelOk => exact h.munmap gpa len kernelOk

lemma TableOk.foldl (h : TableOk slots) {calls : List Call} (hcalls : ∀ c ∈ calls, c.Accepted)
    (arch : Arch) : TableOk (calls.foldl (fun slots c => (Kvm.call arch slots c).2) slots) := by
  induction calls generalizing slots with
  | nil => exact h
  | cons c calls ih =>
    refine ih (h.call (hcalls c mem_cons_self) arch) ?_
    exact fun d hd => hcalls d (mem_cons_of_mem c hd)

def Within (s : MemRange) (gaddr len : Nat) : Prop :=
  0 < s.len ∧ s.gpa ≤ gaddr ∧ gaddr + len ≤ s.gpa + s.len

lemma vmMapGpa_eq (h : TableOk slots) {gaddr len : Nat} (hfit : gaddr + len < 2 ^ 64)
    (arch : Arch) :
    (∀ p, vmMapGpa arch slots gaddr len = some p →
      ∃ s ∈ slots, s.active ∧ Within s gaddr len ∧ p = s.object + (gaddr - s.gpa)) ∧
    (vmMapGpa arch slots gaddr len = none →
      ∀ s ∈ slots, s.active → ¬Within s gaddr len) := by
  have hrange : ∀ s ∈ slots, 0 < s.len → s.gpa + s.len < 2 ^ 64 :=
    fun s hs hpos => ((h.slot s hs).range hpos).2.2
  -- One test for both: the length of the segment bounds the length of the range anyway.
  obtain ⟨test, htest, hiff⟩ : ∃ test : MemRange → Bool,
      vmMapGpa arch slots gaddr len = (slots.find? test).map (fun s => s.object + (gaddr - s.gpa)) ∧
      ∀ s ∈ slots, test s = true ↔ s.active ∧ Within s gaddr len := by
    cases arch with
    | generic =>
      refine ⟨_, rfl, fun s hs => ?_⟩
      have hs := hrange s hs
      rw [decide_eq_true_eq, Nat.mod_eq_of_lt hfit, Within]
      constructor
      · rintro ⟨hactive, hlen, hlow, hhigh⟩
        rw [Nat.mod_eq_of_lt (hs (Nat.pos_of_ne_zero hlen))] at hhigh
        exact ⟨hactive, Nat.pos_of_ne_zero hlen, hlow, hhigh⟩
      · rintro ⟨hactive, hpos, hlow, hhigh⟩
        rw [Nat.mod_eq_of_lt (hs hpos)]
        exact ⟨hactive, Nat.ne_of_gt hpos, hlow, hhigh⟩
    | x86 =>
      refine ⟨_, rfl, fun s hs => ?_⟩
      have hs := hrange s hs
      rw [decide_eq_true_eq, Nat.mod_eq_of_lt hfit, Within]
      constructor
      · rintro ⟨hactive, hlen, hlow, -, hhigh⟩
        rw [Nat.mod_eq_of_lt (hs (Nat.pos_of_ne_zero hlen))] at hhigh
        exact ⟨hactive, Nat.pos_of_ne_zero hlen, hlow, hhigh⟩
      · rintro ⟨hactive, hpos, hlow, hhigh⟩
        rw [Nat.mod_eq_of_lt (hs hpos)]
        exact ⟨hactive, Nat.ne_of_gt hpos, hlow, by omega, hhigh⟩
  rw [htest]
  constructor
  · intro p hp
    obtain ⟨s, hfind, rfl⟩ := Option.map_eq_some_iff.mp hp
    have hs := mem_of_find?_eq_some hfind
    obtain ⟨hactive, hin⟩ := (hiff s hs).mp (List.find?_some hfind)
    exact ⟨s, hs, hactive, hin, rfl⟩
  · intro hnone s hs hactive hin
    rw [Option.map_eq_none_iff, List.find?_eq_none] at hnone
    exact hnone s hs ((hiff s hs).mpr ⟨hactive, hin⟩)

lemma not_within_of_wrap (h : TableOk slots) {gaddr len : Nat} (hwrap : 2 ^ 64 ≤ gaddr + len) :
    ∀ s ∈ slots, ¬Within s gaddr len := by
  rintro s hs ⟨hpos, -, hhigh⟩
  have hfits := ((h.slot s hs).range hpos).2.2
  omega

end ScorpiHv.Kvm

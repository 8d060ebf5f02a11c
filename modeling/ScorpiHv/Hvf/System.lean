import ScorpiHv.Hvf.Ranges

/-!
# System memory under HVF

`vm_setup_memory` sets each of the two banks up as segments, chunk by chunk.
`vm_map_gpa` knows the banks only.
-/

namespace ScorpiHv.Hvf
open List

structure Layout where
  lowBase : Nat
  lowSize : Nat → Nat
  highBase : Nat

def ARM64_HIGHMEM_BASE : Nat := 0x100000000
def ARM64_FIRMWARE_MEMORY_SIZE : Nat := 0x04000000

def arm64LowmemSize (total : Nat) : Nat :=
  if total ≤ ARM64_FIRMWARE_MEMORY_SIZE then 0
  else min (total - ARM64_FIRMWARE_MEMORY_SIZE) 0x20000000

def Layout.arm64 : Layout where
  lowBase := 0x40000000
  lowSize := arm64LowmemSize
  highBase := ARM64_HIGHMEM_BASE

def Layout.amd64 : Layout where
  lowBase := 0
  lowSize := fun memsize => if 3 * 2 ^ 30 < memsize then 3 * 2 ^ 30 else memsize
  highBase := ARM64_HIGHMEM_BASE

structure MemSeg where
  base : Nat := 0
  size : Nat := 0
  addr : Nat := 0
  deriving DecidableEq

structure Machine where
  ctx : Vmctx := {}
  low : MemSeg := {}
  high : MemSeg := {}

/-- What the host answers while one bank is set up: the reserved range, and how each chunk fares. -/
structure BankAnswers where
  reserved : Option Nat
  opened : Nat → Bool
  mapOk : Nat → Bool

/-- `vm_shared_memory_chunk_size`: the loop, for a number of turns. -/
def chunkSizeFrom (highmemSize : Nat) : Nat → Nat → Nat
  | 0, chunk => chunk
  | turns + 1, chunk =>
    if 16 - 1 < highmemSize / chunk + (if highmemSize % chunk ≠ 0 then 1 else 0) then
      chunkSizeFrom highmemSize turns (chunk * 2)
    else chunk

def vmSharedMemoryChunkSize (highmemSize : Nat) : Nat := chunkSizeFrom highmemSize 64 (2 ^ 30)

/-- The loop of `setup_shared_system_memory_segment` from a chunk on. -/
def setupChunks (shift chunk gpa base len : Nat) (answers : BankAnswers) :
    Nat → Nat → Vmctx → Bool × Vmctx
  | 0, _, ctx => (true, ctx)
  | n + 1, i, ctx =>
    if answers.opened i then
      let r := ctx.vmMalloc shift ((gpa + i * chunk) % 2 ^ 64) (min chunk (len - i * chunk))
        (7 ||| PROT_DONT_ALLOCATE) (base + i * chunk) none (answers.mapOk i)
      if r.1 = .ok then setupChunks shift chunk gpa base len answers n (i + 1) r.2.1
      else (false, r.2.1)
    else (false, ctx)

def chunkCount (len chunk : Nat) : Nat := (len + chunk - 1) / chunk

/-- `setup_shared_system_memory_segment`: the host range of the bank, if it is set up. -/
def setupShared (shift : Nat) (ctx : Vmctx) (gpa len chunk : Nat) (answers : BankAnswers) :
    Option Nat × Vmctx :=
  match answers.reserved with
  | none => (none, ctx)
  | some base =>
    let r := setupChunks shift chunk gpa base len answers (chunkCount len chunk) 0 ctx
    if r.1 then (some base, r.2)
    else
      -- the segments past the old end of the table are unmapped and forgotten
      let start := ctx.memRanges.length
      (none, { r.2 with
        memRanges := r.2.memRanges.take start
        hv := (r.2.memRanges.drop start).foldl
          (fun hv s => if s.active then hvVmUnmap hv s else hv) r.2.hv })

namespace Machine

/-- One bank of `vm_setup_memory`; `addr` is stored only where everything is to be mapped. -/
def setupBank (shift : Nat) (ctx : Vmctx) (seg : MemSeg) (chunk : Nat) (mmapAll : Bool)
    (answers : BankAnswers) : Bool × Vmctx × MemSeg :=
  if seg.size = 0 then (true, ctx, seg)
  else match setupShared shift ctx seg.base seg.size chunk answers with
    | (none, ctx) => (false, ctx, seg)
    | (some base, ctx) => (true, ctx, if mmapAll then { seg with addr := base } else seg)

def vmSetupMemory (shift : Nat) (layout : Layout) (m : Machine) (memsize : Nat) (mmapAll : Bool)
    (high low : BankAnswers) : Bool × Machine :=
  let lowSeg := { m.low with base := layout.lowBase, size := layout.lowSize memsize }
  let highSeg := { m.high with base := layout.highBase, size := memsize - layout.lowSize memsize }
  let chunk := vmSharedMemoryChunkSize highSeg.size
  let h := setupBank shift m.ctx highSeg chunk mmapAll high
  if h.1 then
    let l := setupBank shift h.2.1 lowSeg chunk mmapAll low
    (l.1, { ctx := l.2.1, low := l.2.2, high := h.2.2 })
  else (false, { ctx := h.2.1, low := lowSeg, high := h.2.2 })

def inBank (gaddr len : Nat) (seg : MemSeg) : Bool :=
  seg.base ≤ gaddr ∧ gaddr - seg.base < seg.size ∧ len ≤ seg.size - (gaddr - seg.base)

def vmMapGpa (m : Machine) (gaddr len : Nat) : Option Nat :=
  ([m.low, m.high].find? (inBank gaddr len)).map fun seg => seg.addr + (gaddr - seg.base)

def call (shift : Nat) (m : Machine) (c : Vmctx.Call) : Machine :=
  { m with ctx := (m.ctx.call shift c).2 }

end Machine

/-- Every address of a bank is in a segment, at the host address that the bank gives it. -/
def Backed (slots : List MemRange) (gpa len addr : Nat) : Prop :=
  ∀ x, gpa ≤ x → x < gpa + len →
    ∃ s ∈ slots, s.Contains x ∧ s.object + (x - s.gpa) = addr + (x - gpa)

variable {shift : Nat} {ctx : Vmctx}

lemma mem_updateFirst {α : Type} {p : α → Bool} {f : α → α} {xs : List α} {a : α} (h : a ∈ xs) :
    a ∈ updateFirst p f xs ∨ (p a = true ∧ f a ∈ updateFirst p f xs) := by
  induction xs with
  | nil => cases h
  | cons b xs ih =>
    rw [updateFirst]
    split_ifs with hb
    · rcases mem_cons.mp h with rfl | h
      · exact .inr ⟨hb, mem_cons_self⟩
      · exact .inl (mem_cons_of_mem _ h)
    · rcases mem_cons.mp h with rfl | h
      · exact .inl mem_cons_self
      rcases ih h with hmem | ⟨hp, hmem⟩
      · exact .inl (mem_cons_of_mem _ hmem)
      · exact .inr ⟨hp, mem_cons_of_mem _ hmem⟩

variable {s : MemRange}

lemma not_free_of_pos (h : 0 < s.len) : ¬s.free = true := by
  intro hfree
  exact absurd (free_iff.mp hfree).2.2 (Nat.ne_of_gt h)

variable {slots : List MemRange} {r : MemRange}

lemma mem_place (h : r ∈ slots) (hpos : 0 < r.len) : r ∈ Vmctx.place slots s := by
  rw [Vmctx.place]
  split
  · rcases mem_updateFirst h with hmem | ⟨hfree, -⟩
    · exact hmem
    · exact absurd hfree (not_free_of_pos hpos)
  · exact mem_append_left _ h

variable {gpa len addr : Nat} {mapOk : Bool}

lemma mem_vmMalloc {prot : Nat} {memalign : Option Nat} (h : r ∈ ctx.memRanges) (hpos : 0 < r.len) :
    r ∈ (ctx.vmMalloc shift gpa len prot addr memalign mapOk).2.1.memRanges := by
  have hcase := vmMalloc_cases shift ctx gpa len prot addr memalign mapOk
  generalize ctx.vmMalloc shift gpa len prot addr memalign mapOk = result at hcase
  cases hcase with
  | failed => exact h
  | unmapped =>
    rcases mem_updateFirst h with hmem | ⟨hfree, -⟩
    · exact hmem
    · exact absurd hfree (not_free_of_pos hpos)
  | covered => exact h
  | mapped => exact mem_place h hpos

lemma Backed.mono {slots' : List MemRange} (h : Backed slots gpa len addr)
    (hmem : ∀ s ∈ slots, 0 < s.len → s ∈ slots') : Backed slots' gpa len addr := by
  intro x hlow hhigh
  obtain ⟨s, hs, hin, heq⟩ := h x hlow hhigh
  exact ⟨s, hmem s hs (contains_pos hin), hin, heq⟩

lemma Backed.call (h : Backed ctx.memRanges gpa len addr) (c : Vmctx.Call)
    (hc : ∀ g l ok, c = .munmap g l ok → g + l ≤ gpa ∨ gpa + len ≤ g) :
    Backed (ctx.call shift c).2.memRanges gpa len addr := by
  cases c with
  | setup => exact h.mono fun s hs hpos => mem_vmMalloc hs hpos
  | munmap g l unmapOk =>
    simp only [Vmctx.call, Vmctx.vmMunmapMemseg]
    split
    · exact h
    split
    · exact h
    intro x hlow hhigh
    obtain ⟨s, hs, hin, heq⟩ := h x hlow hhigh
    rcases mem_updateFirst hs with hmem | ⟨hseg, -⟩
    · exact ⟨s, hmem, hin, heq⟩
    obtain ⟨hgpa, hlen⟩ := isSegment_iff.mp hseg
    have haway := hc g l unmapOk rfl
    rw [MemRange.Contains, hgpa, hlen] at hin
    omega
  | visible =>
    simp only [Vmctx.call, Vmctx.vmSetMemorySegmentVisible]
    split
    · exact h
    split
    · exact h
    split
    · exact h
    intro x hlow hhigh
    obtain ⟨s, hs, hin, heq⟩ := h x hlow hhigh
    rcases mem_updateFirst hs with hmem | ⟨-, hmem⟩
    · exact ⟨s, hmem, hin, heq⟩
    · exact ⟨_, hmem, hin, heq⟩

structure Filled (shift : Nat) (start : List MemRange) (gpa base done : Nat) (ctx : Vmctx) :
    Prop where
  ok : RangesOk shift ctx
  slots : ∀ s ∈ ctx.memRanges, 0 < s.len →
    s ∈ start ∨ (gpa ≤ s.gpa ∧ s.gpa + s.len ≤ gpa + done)
  kept : ∀ s ∈ start, 0 < s.len → s ∈ ctx.memRanges
  backed : Backed ctx.memRanges gpa done base

variable {start : List MemRange} {base : Nat}

lemma Filled.chunk {done l : Nat}
    (h : Filled shift start gpa base done ctx) (hpos : 0 < l) (hdone : done + l ≤ len)
    (hfit : gpa + len < 2 ^ 64)
    (haway : ∀ s ∈ start, 0 < s.len → s.gpa + s.len ≤ gpa ∨ gpa + len ≤ s.gpa)
    (hok : (ctx.vmMalloc shift (gpa + done) l (7 ||| PROT_DONT_ALLOCATE) (base + done) none
      mapOk).1 = .ok) :
    Filled shift start gpa base (done + l)
      (ctx.vmMalloc shift (gpa + done) l (7 ||| PROT_DONT_ALLOCATE) (base + done) none
        mapOk).2.1 := by
  have hcase := vmMalloc_cases shift ctx (gpa + done) l (7 ||| PROT_DONT_ALLOCATE) (base + done) none mapOk
  have huncovered : Uncovered ctx (gpa + done) l := by
    refine ⟨by omega, gpa + done, le_refl _, by omega, ?_⟩
    intro s hs hin
    have hspos := contains_pos hin
    rw [MemRange.Contains] at hin
    rcases h.slots s hs hspos with hold | hnew
    · have := haway s hold hspos
      omega
    · omega
  have hnext := h.ok.setup hcase fun _ _ _ => huncovered
  have hkept : ∀ s ∈ ctx.memRanges, 0 < s.len → s ∈ (ctx.vmMalloc shift (gpa + done) l
      (7 ||| PROT_DONT_ALLOCATE) (base + done) none mapOk).2.1.memRanges :=
    fun s hs hspos => mem_vmMalloc hs hspos
  generalize ctx.vmMalloc shift (gpa + done) l (7 ||| PROT_DONT_ALLOCATE) (base + done) none mapOk
    = r at hcase hok hnext hkept ⊢
  cases hcase with
  | failed herr | unmapped herr => exact absurd hok herr
  | covered _ hgpa _ _ hall => exact (h.ok.not_covered huncovered hgpa hall).elim
  | @mapped s _ _ _ _ hsg hsl _ hobject =>
    have hobject := hobject (by decide)
    obtain ⟨rest, hperm, hold⟩ := place_perm h.ok.slot s
    refine ⟨hnext, ?_, fun s hs hspos => hkept s (h.kept s hs hspos) hspos, ?_⟩
    · intro r hr hrpos
      rcases mem_cons.mp (hperm.mem_iff.mp hr) with rfl | hr
      · exact .inr ⟨by omega, by omega⟩
      have hrold : r ∈ ctx.memRanges := by
        rcases hold with hold | hold
        · exact hold.mem_iff.mpr hr
        · exact hold.mem_iff.mpr (mem_cons_of_mem _ hr)
      rcases h.slots r hrold hrpos with hstart | ⟨hlow, hhigh⟩
      · exact .inl hstart
      · exact .inr ⟨hlow, by omega⟩
    · intro x hlow hhigh
      by_cases hx : x < gpa + done
      · exact (h.backed.mono hkept) x hlow hx
      · refine ⟨s, hperm.mem_iff.mpr mem_cons_self, ⟨by omega, by omega⟩, ?_⟩
        omega

variable {chunk i n : Nat}

lemma chunkCount_spec (hchunk : 0 < chunk) (h : i + (n + 1) = chunkCount len chunk) : i * chunk < len := by
  have hlt : i < (len + chunk - 1) / chunk := by
    rw [chunkCount] at h
    omega
  have hmul := (Nat.le_div_iff_mul_le hchunk).mp hlt
  have hsucc : (i + 1) * chunk = i * chunk + chunk := by ring
  rw [Nat.succ_eq_add_one, hsucc] at hmul
  omega

variable {answers : BankAnswers}

lemma Filled.chunks (hchunk : 0 < chunk) (hcount : i + n = chunkCount len chunk) (hfit : gpa + len < 2 ^ 64)
    (haway : ∀ s ∈ start, 0 < s.len → s.gpa + s.len ≤ gpa ∨ gpa + len ≤ s.gpa)
    (h : Filled shift start gpa base (min (i * chunk) len) ctx)
    (hok : (setupChunks shift chunk gpa base len answers n i ctx).1 = true) :
    Filled shift start gpa base len (setupChunks shift chunk gpa base len answers n i ctx).2 := by
  induction n generalizing i ctx with
  | zero =>
    have hall : len ≤ i * chunk := by
      have hdiv := Nat.div_add_mod (len + chunk - 1) chunk
      have hmod := Nat.mod_lt (len + chunk - 1) hchunk
      rw [add_zero, chunkCount] at hcount
      rw [← hcount, mul_comm] at hdiv
      omega
    rw [Nat.min_eq_right hall] at h
    exact h
  | succ n ih =>
    have hi := chunkCount_spec hchunk hcount
    have hwrap : (gpa + i * chunk) % 2 ^ 64 = gpa + i * chunk := Nat.mod_eq_of_lt (by omega)
    rw [min_eq_left (le_of_lt hi)] at h
    rw [setupChunks] at hok ⊢
    by_cases hopen : answers.opened i
    · rw [if_pos hopen, hwrap] at hok ⊢
      by_cases hmalloc : (ctx.vmMalloc shift (gpa + i * chunk) (min chunk (len - i * chunk))
          (7 ||| PROT_DONT_ALLOCATE) (base + i * chunk) none (answers.mapOk i)).1 = .ok
      · rw [if_pos hmalloc] at hok ⊢
        have hstep := h.chunk (by omega) (by omega) hfit haway hmalloc
        have hdone : i * chunk + min chunk (len - i * chunk) = min ((i + 1) * chunk) len := by
          have hsucc : (i + 1) * chunk = i * chunk + chunk := by ring
          omega
        rw [hdone] at hstep
        exact ih (by omega) hstep hok
      · rw [if_neg hmalloc] at hok
        cases hok
    · rw [if_neg hopen] at hok
      cases hok

lemma Filled.shared {ctx' : Vmctx}
    (hchunk : 0 < chunk) (hfit : gpa + len < 2 ^ 64) (hranges : RangesOk shift ctx)
    (haway : ∀ s ∈ ctx.memRanges, 0 < s.len → s.gpa + s.len ≤ gpa ∨ gpa + len ≤ s.gpa)
    (h : setupShared shift ctx gpa len chunk answers = (some base, ctx')) :
    Filled shift ctx.memRanges gpa base len ctx' := by
  have hempty : ∀ base, Filled shift ctx.memRanges gpa base (min (0 * chunk) len) ctx := by
    intro base
    refine ⟨hranges, fun s hs _ => .inl hs, fun s hs _ => hs, ?_⟩
    intro x hlow hhigh
    omega
  rw [setupShared] at h
  split at h
  · cases h
  dsimp only at h
  split at h
  · rename_i hok
    cases h
    exact Filled.chunks hchunk (zero_add _) hfit haway (hempty _) hok
  · cases h

end ScorpiHv.Hvf

import ScorpiHv.Hvf.System
import ScorpiHv.Kvm.Segments

/-!
# Guest addresses and host pointers

A pointer that `vm_map_gpa` returns is into guest memory, as long as the sums of the KVM
backends do not wrap and the banks of the HVF backend are not taken out.
-/

namespace ScorpiHv.Hvf
open List

variable {chunk : Nat}

lemma chunkSizeFrom_pos {size turns : Nat} (h : 0 < chunk) : 0 < chunkSizeFrom size turns chunk := by
  induction turns generalizing chunk with
  | zero => exact h
  | succ turns ih =>
    rw [chunkSizeFrom]
    generalize size / chunk + _ = chunks
    split
    · exact ih (by omega)
    · exact h

def Layout.Ordered (layout : Layout) : Prop :=
  ∀ memsize, layout.lowBase + layout.lowSize memsize ≤ layout.highBase

lemma Layout.arm64_ordered : Layout.arm64.Ordered := by
  intro memsize
  simp only [Layout.arm64, arm64LowmemSize, ARM64_HIGHMEM_BASE]
  split <;> omega

lemma Layout.amd64_ordered : Layout.amd64.Ordered := by
  intro memsize
  simp only [Layout.amd64, ARM64_HIGHMEM_BASE]
  split <;> omega

namespace Machine

structure BanksOk (m : Machine) : Prop where
  fits : ∀ seg ∈ [m.low, m.high], seg.base + seg.size < 2 ^ 64
  backed : ∀ seg ∈ [m.low, m.high], Backed m.ctx.memRanges seg.base seg.size seg.addr

variable {shift : Nat} {seg : MemSeg}

lemma setupBank_filled {ctx ctx' : Vmctx} {seg' : MemSeg} {answers : BankAnswers} (hchunk : 0 < chunk)
    (hfit : seg.base + seg.size < 2 ^ 64) (hranges : RangesOk shift ctx)
    (haway : ∀ s ∈ ctx.memRanges, 0 < s.len → s.gpa + s.len ≤ seg.base ∨ seg.base + seg.size ≤ s.gpa)
    (h : setupBank shift ctx seg chunk true answers = (true, ctx', seg')) : seg'.base = seg.base ∧
    seg'.size = seg.size ∧ Filled shift ctx.memRanges seg.base seg'.addr seg.size ctx' := by
  rw [setupBank] at h
  split at h
  · cases h
    refine ⟨rfl, rfl, hranges, fun s hs _ => .inl hs, fun s hs _ => hs, ?_⟩
    intro x hlow hhigh
    omega
  · split at h
    · cases h
    rename_i base ctx'' hshared
    cases h
    exact ⟨rfl, rfl, Filled.shared hchunk hfit hranges haway hshared⟩

variable {m : Machine}

lemma vmSetupMemory_ok {memsize : Nat} {layout : Layout} {high low : BankAnswers}
    (hlayout : layout.Ordered) (hfit : layout.highBase + memsize < 2 ^ 64)
    (h : vmSetupMemory shift layout {} memsize true high low = (true, m)) :
    m.BanksOk ∧ m.low.base = layout.lowBase ∧ m.low.size = layout.lowSize memsize ∧
      m.high.base = layout.highBase ∧ m.high.size = memsize - layout.lowSize memsize := by
  have hordered := hlayout memsize
  rw [vmSetupMemory] at h
  generalize hchunkeq : vmSharedMemoryChunkSize (memsize - layout.lowSize memsize) = chunk at h
  have hchunk : 0 < chunk := by
    rw [← hchunkeq]
    exact chunkSizeFrom_pos (by decide)
  generalize hbankh : setupBank shift _ _ chunk true high = h' at h
  obtain ⟨okh, ctxh, segh⟩ := h'
  cases okh with
  | false => cases h
  | true =>
    generalize hbankl : setupBank shift _ _ chunk true low = l' at h
    obtain ⟨okl, ctxl, segl⟩ := l'
    cases h
    have hempty : ∀ s ∈ ({} : Vmctx).memRanges, 0 < s.len → s.gpa + s.len ≤ layout.highBase ∨
        layout.highBase + (memsize - layout.lowSize memsize) ≤ s.gpa := fun s hs => absurd hs not_mem_nil
    obtain ⟨hhbase, hhsize, hhfilled⟩ :=
      setupBank_filled hchunk (by dsimp only; omega) (rangesOk_empty shift) hempty hbankh
    have haway : ∀ s ∈ ctxh.memRanges, 0 < s.len → s.gpa + s.len ≤ layout.lowBase ∨
        layout.lowBase + layout.lowSize memsize ≤ s.gpa := by
      intro s hs hpos
      rcases hhfilled.slots s hs hpos with hold | ⟨hlow, -⟩
      · exact absurd hold not_mem_nil
      · dsimp only at hlow
        omega
    obtain ⟨hlbase, hlsize, hlfilled⟩ :=
      setupBank_filled hchunk (by dsimp only; omega) hhfilled.ok haway hbankl
    dsimp only at hhbase hhsize hhfilled hlbase hlsize hlfilled ⊢
    refine ⟨⟨?_, ?_⟩, hlbase, hlsize, hhbase, hhsize⟩
    · intro seg hseg
      simp only [mem_cons, not_mem_nil, or_false] at hseg
      rcases hseg with rfl | rfl <;> omega
    intro seg hseg
    simp only [mem_cons, not_mem_nil, or_false] at hseg
    rcases hseg with rfl | rfl
    · rw [hlbase, hlsize]
      exact hlfilled.backed
    · rw [hhbase, hhsize]
      exact hhfilled.backed.mono fun s hs hpos => hlfilled.kept s hs hpos

def Spares (m : Machine) (c : Vmctx.Call) : Prop :=
  ∀ gpa len ok, c = .munmap gpa len ok →
    ∀ seg ∈ [m.low, m.high], gpa + len ≤ seg.base ∨ seg.base + seg.size ≤ gpa

lemma BanksOk.call (h : m.BanksOk) {c : Vmctx.Call} (hc : m.Spares c) : (m.call shift c).BanksOk :=
  ⟨h.fits, fun seg hseg => (h.backed seg hseg).call c fun g l ok heq => hc g l ok heq seg hseg⟩

lemma BanksOk.foldl (h : m.BanksOk) {calls : List Vmctx.Call}
    (hcalls : ∀ c ∈ calls, m.Spares c) : (calls.foldl (Machine.call shift) m).BanksOk := by
  induction calls generalizing m with
  | nil => exact h
  | cons c calls ih =>
    exact ih (h.call (hcalls c mem_cons_self)) fun d hd => hcalls d (mem_cons_of_mem c hd)

def InBank (seg : MemSeg) (gaddr len : Nat) : Prop :=
  seg.base ≤ gaddr ∧ gaddr < seg.base + seg.size ∧ gaddr + len ≤ seg.base + seg.size

lemma inBank_iff {gaddr len : Nat} : inBank gaddr len seg = true ↔ InBank seg gaddr len := by
  rw [inBank, decide_eq_true_eq, InBank]
  omega

lemma vmMapGpa_spec (m : Machine) (gaddr len : Nat) : (∀ p, m.vmMapGpa gaddr len = some p →
      ∃ seg ∈ [m.low, m.high], InBank seg gaddr len ∧ p = seg.addr + (gaddr - seg.base)) ∧
    (m.vmMapGpa gaddr len = none → ∀ seg ∈ [m.low, m.high], ¬InBank seg gaddr len) := by
  constructor
  · intro p hp
    obtain ⟨seg, hfind, rfl⟩ := Option.map_eq_some_iff.mp hp
    exact ⟨seg, mem_of_find?_eq_some hfind, inBank_iff.mp (List.find?_some hfind), rfl⟩
  · intro hnone seg hseg hin
    rw [vmMapGpa, Option.map_eq_none_iff, List.find?_eq_none] at hnone
    exact hnone seg hseg (inBank_iff.mpr hin)

end Machine

end ScorpiHv.Hvf

namespace ScorpiHv

/-- Translation on KVM: a range that does not wrap is mapped into the one segment that has it, or
not at all; one that wraps is in no segment. -/
def KvmInside (arch : Kvm.Arch) (slots : List Hvf.MemRange) : Prop :=
  slots.Pairwise Hvf.Apart ∧ (∀ s ∈ slots, 0 < s.len → s.gpa + s.len < 2 ^ 64) ∧
    ∀ gaddr len,
      (gaddr + len < 2 ^ 64 →
        (∀ p, Kvm.vmMapGpa arch slots gaddr len = some p →
          ∃ s ∈ slots, s.active ∧ Kvm.Within s gaddr len ∧ p = s.object + (gaddr - s.gpa)) ∧
        (Kvm.vmMapGpa arch slots gaddr len = none →
          ∀ s ∈ slots, s.active → ¬Kvm.Within s gaddr len)) ∧
      (2 ^ 64 ≤ gaddr + len → ∀ s ∈ slots, ¬Kvm.Within s gaddr len)

/-- Translation on HVF: a range is mapped into the bank that has it, whose addresses are all in
segments at the bank's host addresses, or not at all. -/
def HvfInside (m : Hvf.Machine) : Prop :=
  ∀ gaddr len,
    (∀ p, m.vmMapGpa gaddr len = some p →
      ∃ seg ∈ [m.low, m.high], Hvf.Machine.InBank seg gaddr len ∧ seg.base + seg.size < 2 ^ 64 ∧
        p = seg.addr + (gaddr - seg.base) ∧
        Hvf.Backed m.ctx.memRanges seg.base seg.size seg.addr) ∧
    (m.vmMapGpa gaddr len = none → ∀ seg ∈ [m.low, m.high], ¬Hvf.Machine.InBank seg gaddr len)

theorem map_gpa_inside (arch : Kvm.Arch) (shift : Nat) :
    (∀ calls, (∀ c ∈ calls, Kvm.Call.Accepted c) → KvmInside arch (Kvm.run arch calls)) ∧
    (∀ layout memsize high low m (calls : List Hvf.Vmctx.Call),
      layout = Hvf.Layout.arm64 ∨ layout = Hvf.Layout.amd64 →
      layout.highBase + memsize < 2 ^ 64 →
      Hvf.Machine.vmSetupMemory shift layout {} memsize true high low = (true, m) →
      (∀ c ∈ calls, m.Spares c) → HvfInside (calls.foldl (Hvf.Machine.call shift) m)) := by
  constructor
  · intro calls hcalls
    have hok := Kvm.tableOk_nil.foldl hcalls arch
    refine ⟨hok.apart, fun s hs hpos => ((hok.slot s hs).range hpos).2.2, ?_⟩
    intro gaddr len
    exact ⟨fun hfit => Kvm.vmMapGpa_eq hok hfit arch, Kvm.not_within_of_wrap hok⟩
  · intro layout memsize high low m calls hlayout hfit hsetup hcalls
    have hordered : layout.Ordered := by
      rcases hlayout with rfl | rfl
      · exact Hvf.Layout.arm64_ordered
      · exact Hvf.Layout.amd64_ordered
    have hbanks := (Hvf.Machine.vmSetupMemory_ok hordered hfit hsetup).1
    have hrun : (calls.foldl (Hvf.Machine.call shift) m).BanksOk := hbanks.foldl hcalls
    intro gaddr len
    obtain ⟨hsome, hnone⟩ :=
      Hvf.Machine.vmMapGpa_spec (calls.foldl (Hvf.Machine.call shift) m) gaddr len
    refine ⟨?_, hnone⟩
    intro p hp
    obtain ⟨seg, hseg, hin, heq⟩ := hsome p hp
    exact ⟨seg, hseg, hin, hrun.fits seg hseg, heq, hrun.backed seg hseg⟩

def kvmPage : List Kvm.Call := [.setup 0 4096 3 0 (some 0x10000) true]

def hvfPage : Hvf.Machine :=
  (Hvf.Machine.vmSetupMemory 14 Hvf.Layout.arm64 {} 16384 true
    ⟨some 0x10000, fun _ => true, fun _ => true⟩ ⟨none, fun _ => true, fun _ => true⟩).2

theorem map_gpa_inside_page :
    KvmInside .generic (Kvm.run .generic kvmPage) ∧ KvmInside .x86 (Kvm.run .x86 kvmPage) ∧
      HvfInside hvfPage ∧ Kvm.vmMapGpa .x86 (Kvm.run .x86 kvmPage) 16 4 = some 0x10010 ∧
      hvfPage.vmMapGpa 0x100000010 4 = some 0x10010 := by
  have haccepted : ∀ c ∈ kvmPage, Kvm.Call.Accepted c := by
    intro c hc
    rw [List.mem_singleton.mp hc]
    exact fun _ => by decide
  refine ⟨(map_gpa_inside .generic 14).1 kvmPage haccepted,
    (map_gpa_inside .x86 14).1 kvmPage haccepted, ?_, by decide, by decide⟩
  exact (map_gpa_inside .generic 14).2 .arm64 16384 _ _ hvfPage [] (.inl rfl) (by decide)
    (Prod.ext (by decide) rfl) fun c hc => absurd hc List.not_mem_nil

/-- Sums that wrap pass the tests of both KVM backends, and a bank whose memory is taken out is
still mapped. -/
theorem map_gpa_outside : (Kvm.vmMapGpa .generic (Kvm.run .generic kvmPage) (2 ^ 64 - 4096) 6144 =
        some (0x10000 + (2 ^ 64 - 4096)) ∧
      ∀ s ∈ Kvm.run .generic kvmPage, ¬Kvm.Within s (2 ^ 64 - 4096) 6144) ∧
    (Kvm.vmMapGpa .x86 (Kvm.run .x86 kvmPage) (2 ^ 64 - 2048) 2048 =
        some (0x10000 + (2 ^ 64 - 2048)) ∧
      ∀ s ∈ Kvm.run .x86 kvmPage, ¬Kvm.Within s (2 ^ 64 - 2048) 2048) ∧
    ((hvfPage.call 14 (.munmap 0x100000000 16384 true)).vmMapGpa 0x100000000 4096 = some 0x10000 ∧
      ∀ s ∈ (hvfPage.call 14 (.munmap 0x100000000 16384 true)).ctx.memRanges, s.len = 0) := by
  simp only [Kvm.Within]
  decide

end ScorpiHv

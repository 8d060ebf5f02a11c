import Mathlib

/-!
# Guest memory under HVF

`libvmm/hvf/vmmapi.c`: the table of memory ranges and what the hypervisor maps. Whether
the calls of the host succeed is up to the caller.
-/

namespace ScorpiHv.Hvf

def VM_MAX_MEMORY_SEGMENTS : Nat := 64
def PROT_DONT_ALLOCATE : Nat := 0x08

/-- `struct mem_range`; a NULL object is 0. -/
structure MemRange where
  gpa : Nat := 0
  len : Nat := 0
  object : Nat := 0
  prot : Nat := 0
  active : Bool := false
  owned : Bool := false
  deriving DecidableEq

namespace MemRange

/-- A slot that `vm_malloc` may use. -/
def free (s : MemRange) : Bool := !s.active && s.object == 0 && s.len == 0

def Contains (s : MemRange) (x : Nat) : Prop := s.gpa ≤ x ∧ x < s.gpa + s.len

instance (s : MemRange) (x : Nat) : Decidable (s.Contains x) := inferInstanceAs (Decidable (_ ∧ _))

end MemRange

/-- A segment as its owner knows it. -/
structure Setup where
  gpa : Nat
  len : Nat
  object : Nat
  deriving DecidableEq

/-- The ranges of `struct vmctx`, what the hypervisor maps each guest address to, and the
segments set up and not taken back. -/
structure Vmctx where
  memRanges : List MemRange := []
  hv : Nat → Option Nat := fun _ => none
  setups : List Setup := []

inductive Err where
  | ok
  | einval
  | e2big
  | enomem
  | enoent
  deriving DecidableEq

def hvVmMap (hv : Nat → Option Nat) (s : MemRange) : Nat → Option Nat :=
  fun x => if s.Contains x then some (s.object + (x - s.gpa)) else hv x

def hvVmUnmap (hv : Nat → Option Nat) (s : MemRange) : Nat → Option Nat :=
  fun x => if s.Contains x then none else hv x

def updateFirst {α : Type} (p : α → Bool) (f : α → α) : List α → List α
  | [] => []
  | a :: l => if p a then f a :: l else a :: updateFirst p f l

namespace Vmctx

/-- `vm_mem_allocated`, with its 64-bit sum. -/
def vmMemAllocated (ctx : Vmctx) (gpa : Nat) : Bool :=
  ctx.memRanges.any fun s => s.gpa ≤ gpa && gpa < (s.gpa + s.len) % 2 ^ 64

/-- The addresses that the loop of `vm_malloc` looks at, from `gpa` below the 64-bit sum. -/
def pages (shift gpa len : Nat) : List Nat :=
  (List.range (((gpa + len) % 2 ^ 64 - gpa + 2 ^ shift - 1) / 2 ^ shift)).map
    fun i => gpa + i * 2 ^ shift

def place (slots : List MemRange) (s : MemRange) : List MemRange :=
  if slots.any (·.free) then updateFirst (·.free) (fun _ => s) slots else slots ++ [s]

/-- `vm_malloc`, which is all that `vm_setup_memory_segment` does: the error, the state and
what is left in `addr`. -/
def vmMalloc (shift : Nat) (ctx : Vmctx) (gpa len prot addr : Nat) (memalign : Option Nat)
    (mapOk : Bool) : Err × Vmctx × Nat :=
  if gpa % 2 ^ shift ≠ 0 ∨ len % 2 ^ shift ≠ 0 ∨ len = 0 then (.einval, ctx, addr)
  else
    let seen := pages shift gpa len
    let allocated := seen.filter ctx.vmMemAllocated
    let available := seen.filter fun g => !ctx.vmMemAllocated g
    let granted := { gpa, len, object := addr : Setup }
    if allocated ≠ [] ∧ available ≠ [] then (.einval, ctx, addr)
    else if allocated ≠ [] ∧ available = [] then
      (.ok, { ctx with setups := granted :: ctx.setups }, addr)
    else if ctx.memRanges.any (·.free) = false ∧ VM_MAX_MEMORY_SEGMENTS ≤ ctx.memRanges.length then
      (.e2big, ctx, addr)
    else
      let owned := prot &&& PROT_DONT_ALLOCATE = 0
      match if owned then memalign else some addr with
      | none => (.enomem, ctx, addr)
      | some object =>
        let s := { gpa, len, object, prot, active := true, owned }
        if mapOk then
          (.ok,
            { memRanges := place ctx.memRanges s
              hv := hvVmMap ctx.hv s
              setups := { granted with object } :: ctx.setups }, object)
        else
          -- the slot is cleared again; `addr` keeps the object that was freed
          (.enomem,
            { ctx with memRanges := updateFirst (·.free) (fun _ => {}) ctx.memRanges }, object)

def isSegment (gpa len : Nat) (s : MemRange) : Bool := s.gpa == gpa && s.len == len

def vmMunmapMemseg (ctx : Vmctx) (gpa len : Nat) (unmapOk : Bool) : Err × Vmctx :=
  match ctx.memRanges.find? (isSegment gpa len) with
  | none => (.enoent, ctx)
  | some s =>
    if s.active ∧ unmapOk = false then (.einval, ctx)
    else
      (.ok,
        { memRanges := updateFirst (isSegment gpa len) (fun _ => {}) ctx.memRanges
          hv := if s.active then hvVmUnmap ctx.hv s else ctx.hv
          setups := ctx.setups.filter fun g => ¬ (g.gpa = gpa ∧ g.len = len) })

def vmSetMemorySegmentVisible (ctx : Vmctx) (gpa len : Nat) (visible mapOk : Bool) :
    Err × Vmctx :=
  match ctx.memRanges.find? (isSegment gpa len) with
  | none => (.enoent, ctx)
  | some s =>
    if s.active = visible then (.ok, ctx)
    else if mapOk = false then (.einval, ctx)
    else
      (.ok,
        { ctx with
          memRanges := updateFirst (isSegment gpa len) (fun s => { s with active := visible })
            ctx.memRanges
          hv := if visible then hvVmMap ctx.hv s else hvVmUnmap ctx.hv s })

inductive Call where
  | setup (gpa len prot addr : Nat) (memalign : Option Nat) (mapOk : Bool)
  | munmap (gpa len : Nat) (unmapOk : Bool)
  | visible (gpa len : Nat) (visible mapOk : Bool)

def call (shift : Nat) (ctx : Vmctx) : Call → Err × Vmctx
  | .setup gpa len prot addr memalign mapOk =>
    let r := ctx.vmMalloc shift gpa len prot addr memalign mapOk
    (r.1, r.2.1)
  | .munmap gpa len unmapOk => ctx.vmMunmapMemseg gpa len unmapOk
  | .visible gpa len visible mapOk => ctx.vmSetMemorySegmentVisible gpa len visible mapOk

end Vmctx

end ScorpiHv.Hvf

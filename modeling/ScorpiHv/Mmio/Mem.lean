import ScorpiHv.Lib.SearchTree

/-!
# Registered memory ranges

`mem.c`: two trees of MMIO ranges under one read-write lock, and a hint for each vCPU.
`balance` stands for the rotations of the red-black trees.
-/

namespace ScorpiHv.Mmio

def MEM_F_IMMUTABLE : UInt32 := 4

/-- `struct mem_range`; names, handlers and arguments are pointers. -/
structure MemRange where
  name : Nat
  flags : UInt32
  handler : Nat
  arg1 : Nat
  arg2 : Int
  base : Nat
  size : Nat
  deriving DecidableEq

def MemRange.Plain (r : MemRange) : Prop := 0 < r.size ∧ r.base + r.size ≤ 2 ^ 64

def MemRange.Contains (r : MemRange) (addr : Nat) : Prop :=
  r.base ≤ addr ∧ addr < r.base + r.size

instance (r : MemRange) : Decidable r.Plain := inferInstanceAs (Decidable (_ ∧ _))
instance (r : MemRange) (addr : Nat) : Decidable (r.Contains addr) :=
  inferInstanceAs (Decidable (_ ∧ _))

def MemRange.immutable (r : MemRange) : Bool := r.flags &&& MEM_F_IMMUTABLE != (0 : UInt32)

/-- `struct mmio_rb_range`; `id` tells one allocation from another. -/
structure RbRange where
  id : Nat
  param : MemRange
  base : Nat
  last : Nat
  deriving DecidableEq

/-- `mmio_rb_range_compare` -/
def compare (a b : RbRange) : Ordering :=
  if a.last < b.base then .lt else if b.last < a.base then .gt else .eq

/-- The key that `mmio_rb_lookup` searches for, as a comparison. -/
def compareAddr (addr : Nat) (b : RbRange) : Ordering :=
  if addr < b.base then .lt else if b.last < addr then .gt else .eq

def rbLookup (t : Tree RbRange) (addr : Nat) : Option RbRange := t.find (compareAddr addr)

inductive Err where
  | ok
  | enomem
  | eexist
  | enoent
  | esrch
  deriving DecidableEq

inductive Kind where
  | root
  | fallback
  deriving DecidableEq

/-- The file's variables. `readers` and `unlocked` are the vCPUs inside a handler, with and
without the lock; `granted` and `removed` are what callers were told. -/
structure Mem where
  root : Tree RbRange := .leaf
  fallback : Tree RbRange := .leaf
  hint : Nat → Option RbRange := fun _ => none
  ncpu : Nat
  nextId : Nat := 0
  readers : List (Nat × RbRange) := []
  unlocked : List (Nat × RbRange) := []
  granted : List (Nat × MemRange) := []
  removed : List Nat := []

namespace Mem

def tree (m : Mem) : Kind → Tree RbRange
  | .root => m.root
  | .fallback => m.fallback

def setTree (m : Mem) (k : Kind) (t : Tree RbRange) : Mem :=
  match k with
  | .root => { m with root := t }
  | .fallback => { m with fallback := t }

/-- A new `mmio_rb_range` for the range. -/
def allocated (m : Mem) (memp : MemRange) : RbRange :=
  ⟨m.nextId, memp, memp.base, memp.base + memp.size - 1⟩

def grant (m : Mem) (k : Kind) (memp : MemRange) : Mem :=
  match k with
  | .root => { m with granted := (m.nextId, memp) :: m.granted }
  | .fallback => m

section
variable (balance : Tree RbRange → Tree RbRange)

/-- `register_mem_int`. A base inside a range of the tree ends it with 0 and nothing added. -/
def registerMemInt (m : Mem) (k : Kind) (memp : MemRange) (malloc : Bool) : Err × Mem :=
  if malloc = false then (.enomem, m)
  else
    match rbLookup (m.tree k) memp.base with
    | some _ => (.ok, { m.grant k memp with nextId := m.nextId + 1 })
    | none =>
      let new := m.allocated memp
      match (m.tree k).insert (compare new) new with
      | .error _ => (.eexist, { m with nextId := m.nextId + 1 })
      | .ok t => (.ok, { (m.grant k memp).setTree k (balance t) with nextId := m.nextId + 1 })

/-- The parameters that `unregister_mem` asserts. -/
def sameRange (mr memp : MemRange) : Bool :=
  mr.name == memp.name && mr.base == memp.base && mr.size == memp.size

/-- `unregister_mem`; `none` is a failed assertion. -/
def unregisterMem (m : Mem) (memp : MemRange) : Option (Err × Mem) :=
  match rbLookup m.root memp.base with
  | none => some (.enoent, m)
  | some entry =>
    if sameRange entry.param memp = false then none
    else if entry.param.immutable then none
    else
      some (.ok, { m with
        root := balance (m.root.remove (compareAddr memp.base))
        hint := fun i => if m.hint i = some entry then none else m.hint i
        granted := m.granted.eraseP fun g => sameRange g.2 memp
        removed := entry.id :: m.removed })

end

/-- The lookup of `access_memory`: the entry reached, with the hint it leaves. -/
def accessMemory (m : Mem) (vcpu addr : Nat) : Option RbRange × Mem :=
  match (m.hint vcpu).filter fun e => e.base ≤ addr && addr ≤ e.last with
  | some entry => (some entry, m)
  | none =>
    match rbLookup m.root addr with
    | some entry =>
      (some entry, { m with hint := fun i => if i = vcpu then some entry else m.hint i })
    | none => (rbLookup m.fallback addr, m)

/-- A vCPU goes into the handler of an entry, with the lock unless the range is immutable. -/
def enter (m : Mem) (vcpu : Nat) (entry : RbRange) : Mem :=
  if entry.param.immutable then { m with unlocked := (vcpu, entry) :: m.unlocked }
  else { m with readers := (vcpu, entry) :: m.readers }

/-- `init_mem` -/
def init (ncpu : Nat) : Mem := { ncpu }

end Mem

inductive Action where
  | register (k : Kind) (memp : MemRange) (malloc : Bool) (err : Err)
  | unregister (memp : MemRange) (err : Err)
  | access (vcpu addr : Nat) (reached : Option RbRange)
  | leave (vcpu : Nat) (entry : RbRange)

/-- A step between two moments at which nobody holds the lock for writing. Writers wait for
the readers. -/
inductive Step (balance : Tree RbRange → Tree RbRange) : Mem → Action → Mem → Prop where
  | register {m m' : Mem} {k : Kind} {memp : MemRange} {malloc : Bool} {err : Err} :
      (malloc → m.readers = []) → memp.Plain → m.registerMemInt balance k memp malloc = (err, m') →
      Step balance m (.register k memp malloc err) m'
  | unregister {m m' : Mem} {memp : MemRange} {err : Err} :
      m.readers = [] → m.unregisterMem balance memp = some (err, m') →
      Step balance m (.unregister memp err) m'
  | miss {m m' : Mem} {vcpu addr : Nat} :
      vcpu < m.ncpu → m.accessMemory vcpu addr = (none, m') →
      Step balance m (.access vcpu addr none) m'
  | access {m m' : Mem} {vcpu addr : Nat} {entry : RbRange} :
      vcpu < m.ncpu → m.accessMemory vcpu addr = (some entry, m') →
      Step balance m (.access vcpu addr (some entry)) (m'.enter vcpu entry)
  | leave {m : Mem} {vcpu : Nat} {entry : RbRange} :
      (vcpu, entry) ∈ m.readers ++ m.unlocked →
      Step balance m (.leave vcpu entry)
        { m with
          readers := m.readers.erase (vcpu, entry), unlocked := m.unlocked.erase (vcpu, entry) }

end ScorpiHv.Mmio

import ScorpiHv.Lib.Liveness

/-!
# Reset and power-off of an x86 machine

The vCPU threads of the KVM backend between `vm_loop`, `vm_run` and the handler
of a suspend exit, one shared access a step. `n` counts the vCPU threads. Device and
vCPU resets succeed; a failure aborts the process.
-/

namespace ScorpiHv.X86
open Function

inductive SuspendHow
  | reset
  | poweroff
  deriving DecidableEq

/-- What `KVM_RUN` returns with. A triple fault is the system event of a reset. -/
inductive KvmExit
  | interrupted
  | io
  | hyperv
  | hlt
  | systemEvent (how : SuspendHow)
  deriving DecidableEq

inductive Pc
  /-- In `vm_wait_for_vcpu_active`. -/
  | waitActive
  /-- Before the first test of `suspend_reason` in `vm_run`. -/
  | entering
  /-- `immediate_exit` is cleared, the second test is due. -/
  | armed
  | guest
  | exited (exit : KvmExit)
  /-- An emulated port or memory access. -/
  | handleIo
  | ioDone
  | systemEvent (how : SuspendHow)
  /-- In the loop of `vm_suspend_all_cpus`. -/
  | suspendCpus (how : SuspendHow) (vcpu : Nat) (inIo : Bool)
  /-- In `vmexit_suspend`. -/
  | suspended (how : SuspendHow)
  | barrier
  | resetDevices
  | resetVcpus (vcpu : Nat)
  /-- In the loop of `vm_resume_all_cpus`. -/
  | resumeCpus (vcpu : Nat)
  | release
  /-- The boot CPU in `fbsdrun_deletecpu`. -/
  | deleteWait
  | gone
  deriving DecidableEq

structure State (n : Nat) where
  suspendReason : Option SuspendHow
  activeCpus : Fin n → Bool
  immediateExit : Fin n → Bool
  resetCpus : Fin n → Bool
  resetExpected : Nat
  cpumask : Fin n → Bool
  pc : Fin n → Pc
  resumed : Nat
  exitStatus : Option Nat
  deviceResets : Nat
  vcpuResets : Fin n → Nat
  rounds : Nat

/-- All vCPU threads are started, and the main thread is about to resume them. -/
def State.init (n : Nat) : State n where
  suspendReason := none
  activeCpus _ := false
  immediateExit _ := false
  resetCpus _ := false
  resetExpected := 0
  cpumask _ := true
  pc _ := .waitActive
  resumed := 0
  exitStatus := none
  deviceResets := 0
  vcpuResets _ := 0
  rounds := 0

/-- What a thread decides: how `KVM_RUN` returns, and whether an access asks for a suspend. -/
inductive Choice
  | go
  | exit (e : KvmExit)
  | request (how : SuspendHow)
  deriving DecidableEq

inductive Label (n : Nat)
  | vcpu (i : Fin n) (c : Choice)
  | main
  | idle
  deriving DecidableEq

variable {n : Nat}

def State.goto (s : State n) (i : Fin n) (p : Pc) : State n :=
  { s with pc := update s.pc i p }

/-- A test of `suspend_reason` in `vm_run`. -/
def State.unlessSuspended (s : State n) (i : Fin n) (t : State n) : State n :=
  match s.suspendReason with
  | some how => s.goto i (.suspended how)
  | none => t

def KvmExit.handler : KvmExit → Pc
  | .interrupted => .entering
  | .io => .handleIo
  | .hyperv => .entering
  | .hlt => .waitActive
  | .systemEvent how => .systemEvent how

def vmSuspend (s : State n) (i : Fin n) (how : SuspendHow) (inIo : Bool) : State n :=
  ({ s with suspendReason := some how } : State n).goto i (.suspendCpus how 0 inIo)

def vmSuspendCpu (s : State n) (k : Fin n) : State n :=
  { s with
    activeCpus := update s.activeCpus k false
    immediateExit := update s.immediateExit k true }

def vmActivateCpu (s : State n) (k : Fin n) : State n :=
  { s with activeCpus := update s.activeCpus k true }

def vmexitResetSeenCount (s : State n) : Nat :=
  (List.finRange n).countP fun i => decide (i.val < s.resetExpected) && s.resetCpus i

variable [NeZero n]

/-- The way into `vmexit_reset_barrier`, up to its wait. -/
def vmexitResetBarrier (s : State n) (i : Fin n) : State n :=
  ({ s with
    resetExpected := if ∀ j, s.resetCpus j = false then n else s.resetExpected
    resetCpus := update s.resetCpus i true } : State n).goto i .barrier

def vmexitResetRelease (s : State n) (i : Fin n) : State n :=
  ({ s with
    resetCpus := fun _ => false
    resetExpected := 0
    rounds := s.rounds + 1 } : State n).goto i .waitActive

def fbsdrunDeletecpu (s : State n) (i : Fin n) : State n :=
  if s.cpumask i then
    ({ s with cpumask := update s.cpumask i false } : State n).goto i
      (if i = 0 then .deleteWait else .gone)
  else { s with exitStatus := some 4 }

def vcpuNext (s : State n) (i : Fin n) (c : Choice) : Option (State n) :=
  match s.pc i, c with
  | .waitActive, .go => if s.activeCpus i then some (s.goto i .entering) else none
  | .entering, .go =>
    let cleared := { s with immediateExit := update s.immediateExit i false }
    some (s.unlessSuspended i (cleared.goto i .armed))
  | .armed, .go => some (s.unlessSuspended i (s.goto i .guest))
  | .guest, .exit e => some (s.goto i (.exited e))
  | .exited e, .go => some (s.unlessSuspended i (s.goto i e.handler))
  | .handleIo, .go => some (s.goto i .ioDone)
  | .handleIo, .request how => some (vmSuspend s i how true)
  | .ioDone, .go => some (s.unlessSuspended i (s.goto i .entering))
  | .systemEvent how', .request how =>
    if how' = how then some (vmSuspend s i how false) else none
  | .suspendCpus how k inIo, .go =>
    if h : k < n then some ((vmSuspendCpu s ⟨k, h⟩).goto i (.suspendCpus how (k + 1) inIo))
    else some (s.goto i (if inIo then .ioDone else .suspended how))
  | .suspended .reset, .go => some (vmexitResetBarrier s i)
  | .suspended .poweroff, .go => some (fbsdrunDeletecpu s i)
  | .barrier, .go =>
    if i = 0 then
      if s.resetExpected ≤ vmexitResetSeenCount s then some (s.goto i .resetDevices) else none
    else if s.resetCpus i then none else some (s.goto i .waitActive)
  | .resetDevices, .go =>
    some (({ s with deviceResets := s.deviceResets + 1 } : State n).goto i (.resetVcpus 0))
  | .resetVcpus k, .go =>
    if h : k < n then
      let resets := update s.vcpuResets ⟨k, h⟩ (s.vcpuResets ⟨k, h⟩ + 1)
      some (({ s with vcpuResets := resets } : State n).goto i (.resetVcpus (k + 1)))
    else some (({ s with suspendReason := none } : State n).goto i (.resumeCpus 0))
  | .resumeCpus k, .go =>
    if h : k < n then some ((vmActivateCpu s ⟨k, h⟩).goto i (.resumeCpus (k + 1)))
    else some (s.goto i .release)
  | .release, .go => some (vmexitResetRelease s i)
  | .deleteWait, .go =>
    if ∀ j, s.cpumask j = false then some { s with exitStatus := some 0 } else none
  | _, _ => none

/-- The main thread in `vm_resume_all_cpus`. -/
def mainNext (s : State n) : Option (State n) :=
  if h : s.resumed < n then
    some { vmActivateCpu s ⟨s.resumed, h⟩ with resumed := s.resumed + 1 }
  else none

def next (s : State n) (l : Label n) : Option (State n) :=
  match l with
  | .idle => some s
  | .main => if s.exitStatus = none then mainNext s else none
  | .vcpu i c => if s.exitStatus = none then vcpuNext s i c else none

abbrev Step (s : State n) (l : Label n) (t : State n) : Prop := next s l = some t

end ScorpiHv.X86

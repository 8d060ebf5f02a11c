import ScorpiHv.Tpm.Crb
import ScorpiHv.Lib.Liveness

/-!
# Each command once

The start bit is set exactly while the thread is busy with the request that set it, if it
waits before the first start, is woken by signals only, and addresses do not wrap.
-/

namespace ScorpiHv.Tpm
open List

open ScorpiHv.Bytes


lemma testBit_setBit : ∀ (b : UInt8) (v : Bool), testBit (setBit b 0 v) 0 = v := by decide +kernel

lemma startBit_setStart (regs : Store) (v : Bool) : startBit (setStart regs v) = v := by
  have hat : setStart regs v CTRL_START = setBit (regs CTRL_START) 0 v := by simp [setStart, setRegBit, put]
  rw [startBit, hat, testBit_setBit]

lemma startBit_put {regs : Store} {off : Nat} {bs : List UInt8}
    (h : CTRL_START < off ∨ off + bs.length ≤ CTRL_START) : startBit (put regs off bs) = startBit regs := by
  rw [startBit, put_outside h]
  rfl

lemma startBit_setRegBit {regs : Store} {off : Nat} {i : UInt8} {v : Bool}
    (h : off ≠ CTRL_START) : startBit (setRegBit regs off i v) = startBit regs := by
  refine startBit_put ?_
  rw [length_singleton]
  omega

lemma stored_ge {word : Nat} (h : stored word = true) : CMD_SIZE ≤ word := by
  simp only [stored, Bool.or_eq_true, Bool.and_eq_true, beq_iff_eq, decide_eq_true_eq] at h
  have hlo : CMD_SIZE ≤ CMD_ADDR_LO := by decide
  have hhi : CMD_SIZE ≤ CMD_ADDR_HI := by decide
  have hsize : CMD_SIZE ≤ RSP_SIZE := by decide
  have haddr : CMD_SIZE ≤ RSP_ADDR := by decide
  have hdata : CMD_SIZE ≤ DATA_BUFFER := by decide
  omega

lemma tpmCrbWrite_start (regs : Store) (a : Access) (off : Nat) : (tpmCrbWrite regs a off).2 = false ∧
    startBit (tpmCrbWrite regs a off).1 = startBit regs ∨ (tpmCrbWrite regs a off).2 = true ∧
    startBit regs = false ∧ startBit (tpmCrbWrite regs a off).1 = true := by
  have hloc : ∀ v : Bool,
      startBit (setRegBit (setRegBit regs LOC_STS 0 v) LOC_STATE 1 v) = startBit regs := by
    intro v
    rw [startBit_setRegBit (by decide), startBit_setRegBit (by decide)]
  have hreq : ∀ v : Bool, startBit (setRegBit regs CTRL_STS 1 v) = startBit regs :=
    fun v => startBit_setRegBit (by decide)
  have hsame : (false = false ∧ startBit regs = startBit regs ∨
      false = true ∧ startBit regs = false ∧ startBit regs = true) := .inl ⟨rfl, rfl⟩
  simp only [tpmCrbWrite]
  split
  · split
    · exact hsame
    split
    · exact .inl ⟨rfl, hloc false⟩
    split
    · exact .inl ⟨rfl, hloc true⟩
    · exact hsame
  · split
    · split
      · exact hsame
      split
      · exact .inl ⟨rfl, hreq false⟩
      split
      · exact .inl ⟨rfl, hreq true⟩
      · exact hsame
    · split
      · exact hsame
      split
      · exact hsame
      split
      · split
        · exact hsame
        split
        · exact hsame
        rename_i hstart
        simp only [Bool.or_eq_true, not_or, Bool.not_eq_true] at hstart
        exact .inr ⟨rfl, hstart.2, startBit_setStart regs true⟩
      · split
        · rename_i hstored
          split
          · have hge := stored_ge hstored
            have hlt : CTRL_START < CMD_SIZE := by decide
            exact .inl ⟨rfl, startBit_put (.inl (by omega))⟩
          · exact hsame
        · exact hsame

lemma tpmCrbMemHandler_start (regs : Store) (a : Access) : (tpmCrbMemHandler regs a).2 = false ∧
    startBit (tpmCrbMemHandler regs a).1 = startBit regs ∨ (tpmCrbMemHandler regs a).2 = true ∧
    startBit regs = false ∧ startBit (tpmCrbMemHandler regs a).1 = true := by
  simp only [tpmCrbMemHandler]
  split
  · exact .inl ⟨rfl, rfl⟩
  split
  · exact .inl ⟨rfl, rfl⟩
  split
  · exact .inl ⟨rfl, rfl⟩
  · exact tpmCrbWrite_start regs a _

structure Job.Inside (j : Job) : Prop where
  cmd_ge : TPM_CRB_DATA_BUFFER_ADDRESS ≤ j.cmdAddr
  cmd_le : j.cmdAddr + j.cmd.length ≤ TPM_CRB_DATA_BUFFER_ADDRESS + TPM_CRB_DATA_BUFFER_SIZE
  rsp_ge : TPM_CRB_DATA_BUFFER_ADDRESS ≤ j.rspAddr
  rsp_le : j.rspAddr + j.rspSize ≤ TPM_CRB_DATA_BUFFER_ADDRESS + TPM_CRB_DATA_BUFFER_SIZE

structure Job.Named (j : Job) (regs : Store) : Prop where
  cmdAddr : j.cmdAddr = crbCmdAddrRead regs
  rspAddr : j.rspAddr = crbRspAddrRead regs
  rspSize : j.rspSize = crbRspSizeRead regs
  cmd : j.cmd = get regs (j.cmdAddr - TPM_CRB_ADDRESS) j.cmd.length

/-- The sums of address and size that the thread computes do not wrap. -/
def NoWrap (regs : Store) : Prop :=
  crbCmdAddrRead regs + crbCmdSizeRead regs < 2 ^ 64 ∧
    crbRspAddrRead regs + crbRspSizeRead regs < 2 ^ 64

lemma take_job {regs : Store} {j : Job} (h : take regs = .job j) :
    j.Inside ∧ j.Named regs ∧ HDR_SIZE ≤ j.cmd.length ∧ HDR_SIZE ≤ j.rspSize := by
  simp only [take] at h
  split_ifs at h with h1 h2 h3 h4 h5
  cases h
  simp only [badBuffer, Bool.or_eq_true, decide_eq_true_eq, not_or] at h1 h2
  obtain ⟨⟨⟨hc1, hc2⟩, hc3⟩, hc4⟩ := h1
  obtain ⟨⟨⟨hr1, hr2⟩, hr3⟩, hr4⟩ := h2
  refine ⟨⟨?_, ?_, ?_, ?_⟩, ⟨rfl, rfl, rfl, ?_⟩, ?_, ?_⟩
  · exact Nat.le_of_not_lt hc1
  · simp only [get_length]
    omega
  · exact Nat.le_of_not_lt hr1
  · dsimp only
    omega
  · have hoff : DATA_BUFFER + (crbCmdAddrRead regs - TPM_CRB_DATA_BUFFER_ADDRESS) =
        crbCmdAddrRead regs - TPM_CRB_ADDRESS := by
      simp only [TPM_CRB_DATA_BUFFER_ADDRESS, DATA_BUFFER] at hc1 ⊢
      omega
    rw [get_length, hoff]
  · simp only [get_length]
    omega
  · exact Nat.le_of_not_lt hr2

lemma take_ne_stray {regs : Store} (h : NoWrap regs) : take regs ≠ .stray := by
  obtain ⟨hcmd, hrsp⟩ := h
  intro hs
  simp only [take] at hs
  split_ifs at hs with h1 h2 h3 h4 h5 <;> simp only [badBuffer, Bool.or_eq_true, decide_eq_true_eq,
    not_or] at h1 h2 <;> rw [Nat.mod_eq_of_lt hcmd] at h1 <;> rw [Nat.mod_eq_of_lt hrsp] at h2 <;> omega

def Pc.busy : Pc → Bool
  | .woken | .sending _ _ | .header _ _ | .body _ _ _ | .storing _ _ => true
  | .created | .waiting | .exited | .stray => false

def Pc.job : Pc → Option Job
  | .sending j _ | .header j _ | .body j _ _ | .storing j _ => some j
  | .created | .waiting | .woken | .exited | .stray => none

def Pc.Bounded : Pc → Prop
  | .sending j _ => HDR_SIZE ≤ j.rspSize
  | .header j got => got.length ≤ HDR_SIZE ∧ HDR_SIZE ≤ j.rspSize
  | .body j got len => got.length ≤ len ∧ len ≤ j.rspSize
  | .storing j rsp => rsp.length ≤ j.rspSize
  | .created | .waiting | .woken | .exited | .stray => True

def Pc.rank : Pc → Nat
  | .woken => 2 ^ 32 + 13 + TPM_CRB_DATA_BUFFER_SIZE
  | .sending _ rest => 2 ^ 32 + 12 + rest.length
  | .header _ got => 2 ^ 32 + 1 + (HDR_SIZE - got.length)
  | .body _ got len => 1 + (len - got.length)
  | _ => 0

structure Inv (s : Sys) : Prop where
  start : startBit s.regs = s.pc.busy
  opened : s.closing = false
  alive : s.pc ≠ .exited ∧ s.pc ≠ .stray
  count : s.accepted = s.executed.length + s.refused + (if s.pc = .woken then 1 else 0)
  paired : s.executed = s.replies.map Prod.fst ++ s.pc.job.toList
  inside : ∀ j ∈ s.executed, j.Inside
  bounded : s.pc.Bounded

/-- What is assumed of a step: no wake-up without a signal, no shutdown, no start before the thread
waits, and no address that wraps. -/
structure Allowed (s : Sys) (l : Label) : Prop where
  calm : l ≠ .spurious ∧ l ≠ .close
  late : ∀ a, l = .access a → s.pc = .created → (tpmCrbMemHandler s.regs a).2 = false
  fits : l = .wake → NoWrap s.regs

def Label.works : Label → Bool
  | .wake | .sock _ | .store => true
  | _ => false

inductive Move (s t : Sys) : Label → Prop where
  | access (l : Label) (regs : Store) : l.works = false → startBit regs = startBit s.regs →
      t = { s with regs } → Move s t l
  | start (a : Access) (regs : Store) : s.pc = .waiting → startBit regs = true →
      t = { s with regs, accepted := s.accepted + 1, pc := .woken } → Move s t (.access a)
  | ready : s.pc = .created → t = { s with pc := .waiting } → Move s t .threadStart
  | refused : s.pc = .woken →
      t = { s with regs := setStart s.regs false, refused := s.refused + 1, pc := .waiting } →
      Move s t .wake
  | taken (j : Job) : s.pc = .woken → take s.regs = .job j →
      t = { s with pc := .sending j j.cmd, executed := s.executed ++ [j] } → Move s t .wake
  | sock (c : Sock) (pc : Pc) (unread : List UInt8) : s.pc.work s.unread c = some (pc, unread) →
      t = { s with pc, unread } → Move s t (.sock c)
  | store (j : Job) (rsp : List UInt8) : s.pc = .storing j rsp →
      t = { s with
        regs := storeReply s.regs j rsp, pc := .waiting
        replies := s.replies ++ [(j, padded j.rspSize rsp)] } → Move s t .store
  | emul (bs : List UInt8) :
      t = { s with unread := s.unread ++ bs, arrived := s.arrived ++ bs } → Move s t (.emulSend bs)

lemma loop_open {s : Sys} (h : s.closing = false) : s.loop = { s with pc := .waiting } := by
  rw [Sys.loop, h]
  rfl

variable {s t : Sys} {l : Label}

lemma Inv.access (h : Inv s) {a : Access} (ha : Allowed s (.access a)) :
    Move s (s.access a) (.access a) := by
  rcases tpmCrbMemHandler_start s.regs a with ⟨hno, hsame⟩ | ⟨hyes, hclear, hset⟩
  · refine .access _ _ rfl hsame ?_
    simp only [Sys.access, hno]
    rfl
  have hwait : s.pc = .waiting := by
    have hidle := h.start.symm.trans hclear
    cases hpc : s.pc with
    | created =>
      rw [ha.late a rfl hpc] at hyes
      cases hyes
    | waiting => rfl
    | exited => exact absurd hpc h.alive.1
    | stray => exact absurd hpc h.alive.2
    | _ =>
      rw [hpc] at hidle
      cases hidle
  refine .start a _ hwait hset ?_
  simp only [Sys.access, hyes, Sys.signal, hwait]
  rfl

lemma Inv.move (h : Inv s) (ha : Allowed s l) (hstep : Step s l t) : Move s t l := by
  cases l with
  | access =>
    cases hstep
    exact h.access ha
  | threadStart =>
    simp only [Step, next, Option.ite_none_right_eq_some, Option.some_inj] at hstep
    obtain ⟨hpc, rfl⟩ := hstep
    exact .ready hpc (loop_open h.opened)
  | spurious => exact absurd rfl ha.calm.1
  | wake =>
    simp only [Step, next, Option.ite_none_right_eq_some, Option.some_inj] at hstep
    obtain ⟨hpc, rfl⟩ := hstep
    cases htake : take s.regs with
    | refused =>
      refine .refused hpc ?_
      rw [Sys.wake, if_neg (by rw [h.opened]; nofun), htake]
      exact loop_open h.opened
    | job j =>
      refine .taken j hpc htake ?_
      simp only [Sys.wake, h.opened, htake]
      rfl
    | stray => exact absurd htake (take_ne_stray (ha.fits rfl))
  | sock c =>
    simp only [Step, next, Option.map_eq_some_iff] at hstep
    obtain ⟨⟨pc, unread⟩, hwork, rfl⟩ := hstep
    exact .sock c pc unread hwork rfl
  | store =>
    simp only [Step, next] at hstep
    split at hstep
    · rename_i j rsp hpc
      cases hstep
      exact .store j rsp hpc (loop_open h.opened)
    · cases hstep
  | emulSend bs =>
    cases hstep
    exact .emul bs rfl
  | close => exact absurd rfl ha.calm.2
  | idle =>
    cases hstep
    exact .access _ _ rfl rfl rfl

lemma hdrLen_lt (hdr : List UInt8) : hdrLen hdr < 2 ^ 32 := by
  have hlt := leDec_lt ((hdr.drop 2).take 4).reverse
  have hlen : ((hdr.drop 2).take 4).reverse.length ≤ 4 := by
    rw [length_reverse, length_take]
    omega
  exact Nat.lt_of_lt_of_le hlt (Nat.pow_le_pow_right (by decide) hlen)

def Pc.GoesOn (pc pc' : Pc) : Prop :=
  ∃ j, pc.job = some j ∧ pc'.job = some j ∧ pc'.rank < pc.rank ∧ (pc.Bounded → pc'.Bounded)

lemma afterHeader_goesOn {j : Job} {got hdr : List UInt8} (hlen : hdr.length = HDR_SIZE) :
    (Pc.header j got).GoesOn (afterHeader j hdr) := by
  have hlt := hdrLen_lt hdr
  rw [afterHeader]
  split_ifs with h1 h2 h3
  · exact ⟨j, rfl, rfl, by simp only [Pc.rank]; omega, fun _ => Nat.zero_le _⟩
  · exact ⟨j, rfl, rfl, by simp only [Pc.rank]; omega, fun _ => Nat.zero_le _⟩
  · refine ⟨j, rfl, rfl, by simp only [Pc.rank]; omega, fun hb => ?_⟩
    exact Nat.le_trans (Nat.le_of_eq hlen) hb.2
  · refine ⟨j, rfl, rfl, by simp only [Pc.rank]; omega, fun _ => ⟨?_, Nat.le_of_not_lt h2⟩⟩
    omega

lemma work_goesOn {pc pc' : Pc} {unread unread' : List UInt8} {c : Sock}
    (h : pc.work unread c = some (pc', unread')) : pc.GoesOn pc' := by
  unfold Pc.work at h
  split at h
  · rename_i job rest n
    simp only [Option.ite_none_right_eq_some, Option.some_inj, Prod.mk.injEq] at h
    obtain ⟨hn, rfl, -⟩ := h
    split
    · exact ⟨job, rfl, rfl, by simp only [Pc.rank, HDR_SIZE, length_nil]; omega,
        fun hb => ⟨Nat.zero_le _, hb⟩⟩
    · exact ⟨job, rfl, rfl, by simp only [Pc.rank, length_drop]; omega, fun hb => hb⟩
  · cases h
    exact ⟨_, rfl, rfl, by simp only [Pc.rank]; omega, fun _ => Nat.zero_le _⟩
  · rename_i job got n
    simp only [Option.ite_none_right_eq_some, Option.some_inj, Prod.mk.injEq] at h
    obtain ⟨hn, rfl, -⟩ := h
    split
    case isTrue hlen => exact afterHeader_goesOn hlen
    case isFalse =>
      refine ⟨job, rfl, rfl, ?_, fun hb => ⟨?_, hb.2⟩⟩
      · simp only [Pc.rank, length_append, length_take]
        omega
      · rw [length_append, length_take]
        omega
  · cases h
    exact ⟨_, rfl, rfl, by simp only [Pc.rank]; omega, fun _ => Nat.zero_le _⟩
  · rename_i job got len n
    simp only [Option.ite_none_right_eq_some, Option.some_inj, Prod.mk.injEq] at h
    obtain ⟨hn, rfl, -⟩ := h
    split
    case isTrue hlen =>
      exact ⟨job, rfl, rfl, by simp only [Pc.rank]; omega, fun hb => Nat.le_trans (Nat.le_of_eq hlen) hb.2⟩
    case isFalse =>
      refine ⟨job, rfl, rfl, ?_, fun hb => ⟨?_, hb.2⟩⟩
      · simp only [Pc.rank, length_append, length_take]
        omega
      · rw [length_append, length_take]
        omega
  · cases h
    exact ⟨_, rfl, rfl, by simp only [Pc.rank]; omega, fun hb => Nat.le_trans hb.1 hb.2⟩
  · cases h

lemma Pc.busy_of_job {pc : Pc} {j : Job} (h : pc.job = some j) :
    pc.busy = true ∧ pc ≠ .woken ∧ pc ≠ .exited ∧ pc ≠ .stray := by
  cases pc <;> cases h <;> exact ⟨rfl, nofun, nofun, nofun⟩

lemma Inv.step (h : Inv s) (hmove : Move s t l) : Inv t := by
  have hcount := h.count
  have hpaired := h.paired
  cases hmove with
  | access l regs _ hsame ht =>
    subst ht
    exact ⟨hsame.trans h.start, h.opened, h.alive, hcount, hpaired, h.inside, h.bounded⟩
  | start a regs hpc hset ht =>
    subst ht
    rw [hpc] at hcount hpaired
    refine ⟨hset, h.opened, ⟨nofun, nofun⟩, ?_, hpaired, h.inside, trivial⟩
    exact congrArg (· + 1) hcount
  | ready hpc ht =>
    subst ht
    have hstart := h.start
    rw [hpc] at hcount hpaired hstart
    exact ⟨hstart, h.opened, ⟨nofun, nofun⟩, hcount, hpaired, h.inside, trivial⟩
  | refused hpc ht =>
    subst ht
    rw [hpc] at hcount hpaired
    exact ⟨startBit_setStart _ _, h.opened, ⟨nofun, nofun⟩, hcount, hpaired, h.inside, trivial⟩
  | taken j hpc htake ht =>
    subst ht
    have hstart := h.start
    obtain ⟨hin, -, -, hsize⟩ := take_job htake
    rw [hpc] at hcount hpaired hstart
    refine ⟨hstart, h.opened, ⟨nofun, nofun⟩, ?_, ?_, fun j' hj' => ?_, hsize⟩
    · dsimp only
      rw [if_neg nofun, hcount, if_pos rfl, length_append, length_singleton]
      omega
    · dsimp only
      rw [hpaired]
      simp [Pc.job]
    · rcases mem_append.mp hj' with hold | hnew
      · exact h.inside j' hold
      · rw [mem_singleton.mp hnew]
        exact hin
  | sock c pc unread hwork ht =>
    subst ht
    obtain ⟨j, hj, hj', -, hb⟩ := work_goesOn hwork
    obtain ⟨hbusy, hwoken, -⟩ := Pc.busy_of_job hj
    obtain ⟨hbusy', hwoken', halive⟩ := Pc.busy_of_job hj'
    rw [if_neg hwoken] at hcount
    rw [hj] at hpaired
    refine ⟨h.start.trans (hbusy.trans hbusy'.symm), h.opened, halive, ?_, ?_, h.inside, hb h.bounded⟩
    · dsimp only
      rw [if_neg hwoken', hcount]
    · dsimp only
      rw [hj', hpaired]
  | store j rsp hpc ht =>
    subst ht
    rw [hpc] at hcount hpaired
    refine ⟨startBit_setStart _ _, h.opened, ⟨nofun, nofun⟩, hcount, ?_, h.inside, trivial⟩
    dsimp only
    rw [hpaired, map_append]
    simp [Pc.job]
  | emul bs ht =>
    subst ht
    exact ⟨h.start, h.opened, h.alive, hcount, hpaired, h.inside, h.bounded⟩

lemma Inv.progress (hbusy : s.pc.busy = true) (hmove : Move s t l) : (l.works = false ∧ t.pc = s.pc) ∨
    (l.works = true ∧ (t.pc.busy = false ∨ t.pc.rank < s.pc.rank)) := by
  cases hmove with
  | access l regs hworks _ ht =>
    subst ht
    exact .inl ⟨hworks, rfl⟩
  | start a regs hpc hset ht | ready hpc ht =>
    rw [hpc] at hbusy
    cases hbusy
  | refused hpc ht | store j rsp hpc ht =>
    subst ht
    exact .inr ⟨rfl, .inl rfl⟩
  | taken j hpc htake ht =>
    subst ht
    have hin := (take_job htake).1
    have hge := hin.cmd_ge
    have hle := hin.cmd_le
    refine .inr ⟨rfl, .inr ?_⟩
    rw [hpc]
    change 2 ^ 32 + 12 + j.cmd.length < 2 ^ 32 + 13 + TPM_CRB_DATA_BUFFER_SIZE
    omega
  | sock c pc unread hwork ht =>
    subst ht
    obtain ⟨j, -, -, hlt, -⟩ := work_goesOn hwork
    exact .inr ⟨rfl, .inr hlt⟩
  | emul bs ht =>
    subst ht
    exact .inl ⟨rfl, rfl⟩

def Fair (b : Behaviour Step) : Prop :=
  ∀ n, (b.state n).pc.busy = true → ∃ m, n ≤ m ∧ (b.label m).works = true

structure Orderly (b : Behaviour Step) : Prop where
  init : b.state 0 = init
  allowed : ∀ n, Allowed (b.state n) (b.label n)

namespace Orderly
variable {b : Behaviour Step}

lemma inv (h : Orderly b) (n : Nat) : Inv (b.state n) := by
  induction n with
  | zero =>
    rw [h.init]
    exact ⟨by decide +kernel, rfl, ⟨nofun, nofun⟩, rfl, rfl, nofun, trivial⟩
  | succ n ih => exact ih.step (ih.move (h.allowed n) (b.step n))

lemma move (h : Orderly b) (n : Nat) : Move (b.state n) (b.state (n + 1)) (b.label n) :=
  (h.inv n).move (h.allowed n) (b.step n)

lemma start_cleared (h : Orderly b) (hfair : Fair b) {n : Nat}
    (hn : startBit (b.state n).regs = true) : ∃ m, n ≤ m ∧ startBit (b.state m).regs = false := by
  have hbusy : (b.state n).pc.busy = true := (h.inv n).start.symm.trans hn
  obtain ⟨m, hle, hm⟩ := b.leads_to_rank (p := fun s => s.pc.busy = true)
    (q := fun s => s.pc.busy = false) (fun s => s.pc.rank) (fun l => l.works = true)
    (fun k hk => by
      obtain ⟨m, hle, hm⟩ := hfair k hk
      exact ⟨m, hle, .inl hm⟩)
    (fun k hk => by
      rcases Inv.progress hk (h.move k) with ⟨hl, hpc⟩ | ⟨-, hdone | hlt⟩
      · refine .inr ⟨by rw [hpc]; exact hk, by rw [hpc], fun hgood => ?_⟩
        rw [hl] at hgood
        cases hgood
      · exact .inl hdone
      · cases hb : (b.state (k + 1)).pc.busy with
        | false => exact .inl rfl
        | true => exact .inr ⟨rfl, Nat.le_of_lt hlt, fun _ => hlt⟩)
    hbusy
  exact ⟨m, hle, (h.inv m).start.trans hm⟩

end Orderly

def answers (ans : Nat → List UInt8) (k : Nat) : List UInt8 := (List.range k).flatMap ans

lemma answers_succ (ans : Nat → List UInt8) (k : Nat) : answers ans (k + 1) = answers ans k ++ ans k := by
  simp [answers, range_succ]

lemma answers_add (ans : Nat → List UInt8) (k d : Nat) :
    ∃ rest, answers ans (k + d) = answers ans k ++ rest := by
  induction d with
  | zero => exact ⟨[], (append_nil _).symm⟩
  | succ d ih =>
    obtain ⟨rest, hrest⟩ := ih
    refine ⟨rest ++ ans (k + d), ?_⟩
    rw [← Nat.add_assoc, answers_succ, hrest, append_assoc]

lemma next_answer {ans : Nat → List UInt8} {k n : Nat} {got rest : List UInt8}
    (h : answers ans k ++ got ++ rest <+: answers ans n) (hlen : got.length ≤ (ans k).length) :
    got = (ans k).take got.length := by
  rcases Nat.lt_or_ge k n with hlt | hge
  · obtain ⟨d, rfl⟩ := Nat.exists_eq_add_of_lt hlt
    obtain ⟨more, hmore⟩ := answers_add ans (k + 1) d
    have heq : k + d + 1 = k + 1 + d := by omega
    rw [heq, hmore, answers_succ, append_assoc, append_assoc, prefix_append_right_inj] at h
    have hgot : got <+: ans k ++ more := (prefix_append got rest).trans h
    have htake := prefix_iff_eq_take.mp hgot
    rwa [take_append_of_le_length hlen] at htake
  · -- the stream is too short for a byte of the next answer
    obtain ⟨d, rfl⟩ := Nat.exists_eq_add_of_le hge
    obtain ⟨more, hmore⟩ := answers_add ans n d
    have hle := h.length_le
    rw [hmore] at hle
    simp only [length_append] at hle
    have hnil : got = [] := length_eq_zero_iff.mp (by omega)
    rw [hnil]
    rfl

def Pc.got : Pc → List UInt8
  | .header _ got | .body _ got _ | .storing _ got => got
  | _ => []

/-- A whole answer that fits into the buffer of its command. -/
def Whole (msg : List UInt8) (j : Job) : Prop :=
  HDR_SIZE ≤ msg.length ∧ msg.length ≤ j.rspSize ∧ hdrLen msg = msg.length

lemma hdrLen_take {msg : List UInt8} : hdrLen (msg.take HDR_SIZE) = hdrLen msg := by
  rw [hdrLen, hdrLen, drop_take, take_take]
  rfl

lemma afterHeader_whole {msg : List UInt8} {j : Job} (h : Whole msg j) :
    afterHeader j (msg.take HDR_SIZE) =
      if msg.length = HDR_SIZE then .storing j msg
      else .body j (msg.take HDR_SIZE) msg.length := by
  obtain ⟨hmin, hmax, hlen⟩ := h
  rw [afterHeader, hdrLen_take, hlen, if_neg (Nat.not_lt.mpr hmin), if_neg (Nat.not_lt.mpr hmax)]
  split
  case isTrue heq => rw [take_of_length_le (Nat.le_of_eq heq)]
  case isFalse => rfl

/-- The emulator sends one whole answer to each command, in order, and the socket does not fail. -/
structure Answers (b : Behaviour Step) (ans : Nat → List UInt8) : Prop where
  sent : ∀ n, ∃ k, (b.state n).arrived <+: answers ans k
  whole : ∀ n k j, (b.state n).executed[k]? = some j → Whole (ans k) j
  steady : ∀ n, b.label n ≠ .sock .sendFail ∧ b.label n ≠ .sock .recvFail

def Pc.Reads (msg : List UInt8) : Pc → Prop
  | .body _ _ len => len = msg.length
  | .storing _ rsp => rsp = msg
  | _ => True

/-- The thread has read the answers to the commands it has finished, and a part of the next. -/
structure Synced (ans : Nat → List UInt8) (s : Sys) : Prop where
  stream : s.arrived = answers ans s.replies.length ++ s.pc.got ++ s.unread
  reads : s.pc.Reads (ans s.replies.length)
  replies : ∀ k r, s.replies[k]? = some r → r.2 = padded r.1.rspSize (ans k)

lemma work_reads {pc pc' : Pc} {msg unread unread' : List UInt8} {c : Sock}
    (h : pc.work unread c = some (pc', unread')) (hsteady : c ≠ .sendFail ∧ c ≠ .recvFail)
    (hreads : pc.Reads msg) (hwhole : ∀ j, pc.job = some j → Whole msg j)
    (hmsg : ∀ n ≤ unread.length, pc.got.length + n ≤ msg.length →
      pc.got ++ unread.take n = msg.take (pc.got.length + n)) :
    pc'.Reads msg ∧ pc'.got ++ unread' = pc.got ++ unread := by
  have hpart : ∀ (got : List UInt8) {n : Nat}, n ≤ unread.length →
      (got ++ unread.take n).length = got.length + n := by
    intro got n hn
    rw [length_append, length_take, Nat.min_eq_left hn]
  have hsplit : ∀ (got : List UInt8) (n : Nat),
      got ++ unread.take n ++ unread.drop n = got ++ unread := by
    intro got n
    rw [append_assoc, take_append_drop]
  unfold Pc.work at h
  split at h
  · simp only [Option.ite_none_right_eq_some, Option.some_inj, Prod.mk.injEq] at h
    obtain ⟨-, rfl, rfl⟩ := h
    split <;> exact ⟨trivial, rfl⟩
  · exact absurd rfl hsteady.1
  · rename_i job got n
    simp only [Option.ite_none_right_eq_some, Option.some_inj, Prod.mk.injEq] at h
    obtain ⟨⟨-, hn, hle⟩, rfl, rfl⟩ := h
    have hw := hwhole job rfl
    split
    case isTrue hlen =>
      have hhdr : got ++ unread.take n = msg.take HDR_SIZE := by
        rw [hpart got hn] at hlen
        rw [← hlen]
        exact hmsg n hn (hlen.trans_le hw.1)
      have hgot : (afterHeader job (got ++ unread.take n)).got = got ++ unread.take n := by
        rw [hhdr, afterHeader_whole hw]
        split
        case isTrue heq => exact (take_of_length_le (Nat.le_of_eq heq)).symm
        case isFalse => rfl
      refine ⟨?_, by rw [hgot, hsplit]; rfl⟩
      rw [hhdr, afterHeader_whole hw]
      split <;> exact rfl
    case isFalse => exact ⟨trivial, hsplit got n⟩
  · exact absurd rfl hsteady.2
  · rename_i job got len n
    simp only [Option.ite_none_right_eq_some, Option.some_inj, Prod.mk.injEq] at h
    obtain ⟨⟨-, hn, hle⟩, rfl, rfl⟩ := h
    split
    case isTrue hlen =>
      refine ⟨?_, hsplit got n⟩
      rw [hpart got hn] at hlen
      have hall := hmsg n hn (Nat.le_of_eq (hlen.trans hreads))
      rwa [show (Pc.body job got len).got.length + n = msg.length from hlen.trans hreads,
        take_length] at hall
    case isFalse => exact ⟨hreads, hsplit got n⟩
  · exact absurd rfl hsteady.2
  · cases h

namespace Synced
variable {ans : Nat → List UInt8}

lemma frame (h : Synced ans s) (hreplies : t.replies = s.replies) (harrived : t.arrived = s.arrived)
    (hunread : t.unread = s.unread) (hgot : t.pc.got = s.pc.got)
    (hreads : s.pc.Reads (ans s.replies.length) → t.pc.Reads (ans s.replies.length)) : Synced ans t := by
  refine ⟨?_, ?_, ?_⟩
  · rw [harrived, hreplies, hgot, hunread]
    exact h.stream
  · rw [hreplies]
    exact hreads h.reads
  · rw [hreplies]
    exact h.replies

lemma step (h : Synced ans s) {k : Nat} (hsent : s.arrived <+: answers ans k)
    (hwhole : ∀ j, s.pc.job = some j → Whole (ans s.replies.length) j)
    (hsteady : l ≠ .sock .sendFail ∧ l ≠ .sock .recvFail) (hmove : Move s t l) : Synced ans t := by
  cases hmove with
  | access l regs _ hsame ht =>
    subst ht
    exact h.frame rfl rfl rfl rfl id
  | start a regs hpc hset ht | ready hpc ht | refused hpc ht | taken j hpc htake ht =>
    subst ht
    exact h.frame rfl rfl rfl (by rw [hpc]; rfl) fun _ => trivial
  | sock c pc unread hwork ht =>
    subst ht
    have hmsg : ∀ n ≤ s.unread.length,
        s.pc.got.length + n ≤ (ans s.replies.length).length →
        s.pc.got ++ s.unread.take n = (ans s.replies.length).take (s.pc.got.length + n) := by
      intro n hn hle
      have hlen : (s.pc.got ++ s.unread.take n).length = s.pc.got.length + n := by
        rw [length_append, length_take, Nat.min_eq_left hn]
      have hstream : s.arrived = answers ans s.replies.length ++ (s.pc.got ++ s.unread.take n) ++
          s.unread.drop n := by
        rw [h.stream]
        simp only [append_assoc, take_append_drop]
      rw [hstream] at hsent
      rw [← hlen] at hle ⊢
      exact next_answer hsent hle
    obtain ⟨hreads, hgot⟩ := work_reads hwork
      ⟨fun hc => hsteady.1 (hc ▸ rfl), fun hc => hsteady.2 (hc ▸ rfl)⟩ h.reads hwhole hmsg
    refine ⟨?_, hreads, h.replies⟩
    dsimp only
    rw [append_assoc, hgot, ← append_assoc]
    exact h.stream
  | store j rsp hpc ht =>
    subst ht
    have hreads := h.reads
    have hstream := h.stream
    rw [hpc] at hreads hstream
    have hrsp : rsp = ans s.replies.length := hreads
    refine ⟨?_, trivial, fun k r hr => ?_⟩
    · dsimp only
      rw [length_append, length_singleton, answers_succ, ← hrsp, hstream]
      simp [Pc.got]
    rw [List.getElem?_append] at hr
    split at hr
    case isTrue => exact h.replies k r hr
    case isFalse hge =>
      rw [List.getElem?_singleton] at hr
      split at hr
      case isTrue hk =>
        cases hr
        have hkeq : k = s.replies.length := by omega
        rw [hkeq, hrsp]
      case isFalse => cases hr
  | emul bs ht =>
    subst ht
    refine ⟨?_, h.reads, h.replies⟩
    dsimp only
    rw [h.stream, append_assoc]

end Synced

lemma Orderly.synced {b : Behaviour Step} (h : Orderly b) {ans : Nat → List UInt8}
    (hans : Answers b ans) (n : Nat) : Synced ans (b.state n) := by
  induction n with
  | zero =>
    rw [h.init]
    exact ⟨rfl, trivial, nofun⟩
  | succ n ih =>
    obtain ⟨k, hk⟩ := hans.sent n
    refine ih.step hk (fun j hj => ?_) (hans.steady n) (h.move n)
    -- the command that runs is the one after the finished ones
    refine hans.whole n (b.state n).replies.length j ?_
    rw [(h.inv n).paired, hj, List.getElem?_append_right (by rw [length_map]), length_map, Nat.sub_self]
    rfl

end ScorpiHv.Tpm

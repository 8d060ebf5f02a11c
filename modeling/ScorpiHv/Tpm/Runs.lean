import ScorpiHv.Tpm.Once

/-!
# Runs of the command response buffer

Orderly runs, and those that are not: a start before the thread waits, a wake-up without
a start, an address that wraps and an answer too long for its buffer.
-/

namespace ScorpiHv.Tpm
open List

open ScorpiHv.Bytes


lemma storeReply_get {regs : Store} {j : Job} {rsp : List UInt8} (hin : j.Inside)
    (hlen : rsp.length ≤ j.rspSize) :
    get (storeReply regs j rsp) (j.rspAddr - TPM_CRB_ADDRESS) j.rspSize = padded j.rspSize rsp := by
  have hge := hin.rsp_ge
  have hoff : DATA_BUFFER + (j.rspAddr - TPM_CRB_DATA_BUFFER_ADDRESS) =
      j.rspAddr - TPM_CRB_ADDRESS := by
    simp only [TPM_CRB_DATA_BUFFER_ADDRESS, DATA_BUFFER] at hge ⊢
    omega
  have hpad : (padded j.rspSize rsp).length = j.rspSize := by
    rw [padded, length_append, length_replicate]
    omega
  have hput := get_put_same (put regs DATA_BUFFER (List.replicate TPM_CRB_DATA_BUFFER_SIZE 0))
    (j.rspAddr - TPM_CRB_ADDRESS) (padded j.rspSize rsp)
  rw [hpad] at hput
  simp only [storeReply, setStart, setRegBit, hoff]
  rw [get_put_disjoint, hput]
  right
  rw [length_singleton]
  have hctrl : CTRL_START < DATA_BUFFER := by decide
  omega

lemma Orderly.wake {b : Behaviour Step} (h : Orderly b) {n : Nat} (hl : b.label n = .wake) :
    startBit (b.state n).regs = true ∧
      ((take (b.state n).regs = .refused ∧ startBit (b.state (n + 1)).regs = false) ∨
        ∃ j, j.Named (b.state n).regs ∧
          (b.state (n + 1)).executed = (b.state n).executed ++ [j]) := by
  have hstep := b.step n
  have hok := h.inv n
  rw [hl] at hstep
  simp only [Step, next, Option.ite_none_right_eq_some, Option.some_inj] at hstep
  obtain ⟨hpc, hstep⟩ := hstep
  refine ⟨hok.start.trans (by rw [hpc]; rfl), ?_⟩
  rw [← hstep, Sys.wake, if_neg (by rw [hok.opened]; exact Bool.false_ne_true)]
  cases htake : take (b.state n).regs with
  | refused => exact .inl ⟨rfl, startBit_setStart _ _⟩
  | job j => exact .inr ⟨j, (take_job htake).2.1, rfl⟩
  | stray => exact absurd htake (take_ne_stray ((h.allowed n).fits hl))

lemma Orderly.store {b : Behaviour Step} (h : Orderly b) {n : Nat} (hl : b.label n = .store) :
    ∃ j rsp, (b.state (n + 1)).replies = (b.state n).replies ++ [(j, rsp)] ∧
      get (b.state (n + 1)).regs (j.rspAddr - TPM_CRB_ADDRESS) j.rspSize = rsp := by
  have hmove := h.move n
  have hok := h.inv n
  rw [hl] at hmove
  cases hmove with
  | access l regs hworks => cases hworks
  | store j rsp hpc ht =>
    have hmem : j ∈ (b.state n).executed := by
      rw [hok.paired, hpc]
      exact mem_append_right _ mem_cons_self
    have hlen := hok.bounded
    rw [hpc] at hlen
    rw [ht]
    exact ⟨j, _, rfl, storeReply_get (hok.inside j hmem) hlen⟩

/-- Each accepted start is taken once or refused, commands and replies are slices of the buffer,
the start bit is cleared in the end, and a reply answers its command. -/
theorem crb_once {b : Behaviour Step} (h : Orderly b) :
    (∀ n, (b.state n).pc ≠ .stray ∧ (∀ j ∈ (b.state n).executed, j.Inside) ∧
      (b.state n).accepted = (b.state n).executed.length + (b.state n).refused +
        (if (b.state n).pc = .woken then 1 else 0)) ∧
    (∀ n, b.label n = .wake → startBit (b.state n).regs = true ∧
      ((take (b.state n).regs = .refused ∧ startBit (b.state (n + 1)).regs = false) ∨
        ∃ j, j.Named (b.state n).regs ∧
          (b.state (n + 1)).executed = (b.state n).executed ++ [j])) ∧
    (∀ n, b.label n = .store →
      ∃ j rsp, (b.state (n + 1)).replies = (b.state n).replies ++ [(j, rsp)] ∧
        get (b.state (n + 1)).regs (j.rspAddr - TPM_CRB_ADDRESS) j.rspSize = rsp) ∧
    (Fair b → ∀ n, startBit (b.state n).regs = true →
      ∃ m, n ≤ m ∧ startBit (b.state m).regs = false) ∧
    ∀ ans, Answers b ans → ∀ n k r, (b.state n).replies[k]? = some r →
      (b.state n).executed[k]? = some r.1 ∧ r.2 = padded r.1.rspSize (ans k) := by
  refine ⟨fun n => ⟨(h.inv n).alive.2, (h.inv n).inside, (h.inv n).count⟩, fun n => h.wake,
    fun n => h.store, fun hfair n => h.start_cleared hfair, fun ans hans n k r hr => ?_⟩
  refine ⟨?_, (h.synced hans n).replies k r hr⟩
  obtain ⟨hk, -⟩ := List.getElem?_eq_some_iff.mp hr
  rw [(h.inv n).paired, List.getElem?_append_left (by rw [length_map]; exact hk),
    List.getElem?_map, hr]
  rfl

abbrev outcome (script : List Label) : Option Sys := script.foldlM next init

def final (script : List Label) : Sys := (outcome script).getD init

lemma next_idle (s : Sys) : next s .idle = some s := rfl

def played (script : List Label) (hrun : (outcome script).isSome = true) : Behaviour Step :=
  .ofScript next .idle next_idle script init hrun

lemma played_all {script : List Label} {hrun : (outcome script).isSome = true} {p : Sys → Label → Prop}
    (hscript : ∀ n : Fin script.length, p ((played script hrun).state n) ((played script hrun).label n))
    (hend : p (final script) .idle) (n : Nat) : p ((played script hrun).state n)
    ((played script hrun).label n) := by
  rcases Nat.lt_or_ge n script.length with hn | hn
  · exact hscript ⟨n, hn⟩
  · rw [played, Behaviour.ofScript_state_of_ge hn, Behaviour.ofScript_label_of_ge hn]
    exact hend

def allowedHere (s : Sys) : Label → Bool
  | .spurious | .close => false
  | .access a => decide (s.pc ≠ .created) || !(tpmCrbMemHandler s.regs a).2
  | .wake => decide (crbCmdAddrRead s.regs + crbCmdSizeRead s.regs < 2 ^ 64) &&
    decide (crbRspAddrRead s.regs + crbRspSizeRead s.regs < 2 ^ 64)
  | _ => true

lemma allowed_of_here {s : Sys} {l : Label} (h : allowedHere s l = true) : Allowed s l := by
  refine ⟨⟨?_, ?_⟩, ?_, ?_⟩
  · rintro rfl
    cases h
  · rintro rfl
    cases h
  · rintro a rfl hpc
    simpa [allowedHere, hpc] using h
  · rintro rfl
    simpa [allowedHere, NoWrap] using h

def poke (off size val : Nat) : Label := .access ⟨true, TPM_CRB_ADDRESS + off, size, val, 0⟩

/-- The header of a command of ten bytes, a reply buffer of ten bytes, and the start. -/
def request : List Label := [poke 0x80 8 0x0a0000000180, poke 0x64 4 10, poke 0x4c 4 1]

def answer : List UInt8 := [0x80, 1, 0, 0, 0, 10, 0, 0, 0, 0]

def oneCommand : List Label := .threadStart :: request ++
  [.wake, .sock (.send 10), .emulSend answer, .sock (.recv 4), .sock (.recv 6), .store]

lemma oneCommand_runs : (outcome oneCommand).isSome = true := by decide +kernel

lemma oneCommand_orderly : Orderly (played oneCommand oneCommand_runs) := by
  refine ⟨rfl, played_all (fun n => allowed_of_here ?_) (allowed_of_here rfl)⟩
  revert n
  decide +kernel

lemma oneCommand_fair : Fair (played oneCommand oneCommand_runs) := by
  have hstore : ∀ n : Fin oneCommand.length, ((played oneCommand oneCommand_runs).label 9).works =
      true ∧ n.val ≤ 9 := by decide +kernel
  intro n hbusy
  rcases Nat.lt_or_ge n oneCommand.length with hn | hn
  · exact ⟨9, (hstore ⟨n, hn⟩).2, (hstore ⟨n, hn⟩).1⟩
  · rw [played, Behaviour.ofScript_state_of_ge hn] at hbusy
    exact absurd hbusy (by decide +kernel)

def answeredHere (s : Sys) (l : Label) : Prop :=
  s.arrived <+: answers (fun _ => answer) 1 ∧ (∀ j ∈ s.executed, j.rspSize = 10) ∧
    l ≠ .sock .sendFail ∧ l ≠ .sock .recvFail

instance (s : Sys) (l : Label) : Decidable (answeredHere s l) :=
  inferInstanceAs (Decidable (_ ∧ _ ∧ _ ∧ _))

lemma oneCommand_answers : Answers (played oneCommand oneCommand_runs) (fun _ => answer) := by
  have hall : ∀ n, answeredHere ((played oneCommand oneCommand_runs).state n)
      ((played oneCommand oneCommand_runs).label n) := played_all (by decide +kernel) (by decide +kernel)
  refine ⟨fun n => ⟨1, (hall n).1⟩, fun n k j hj => ?_, fun n => (hall n).2.2⟩
  have hsize := (hall n).2.1 j (mem_of_getElem? hj)
  exact ⟨by decide, hsize ▸ by decide, by decide⟩

theorem crb_once_one : ∃ b : Behaviour Step, Orderly b ∧ Fair b ∧
    startBit (b.state 4).regs = true ∧ (∃ m, 4 ≤ m ∧ startBit (b.state m).regs = false) ∧
    ∀ n r, (b.state n).replies[0]? = some r → r.2 = padded r.1.rspSize answer := by
  obtain ⟨-, -, -, hlive, hreplies⟩ := crb_once oneCommand_orderly
  have hstart : startBit ((played oneCommand oneCommand_runs).state 4).regs = true := by
    decide +kernel
  exact ⟨_, oneCommand_orderly, oneCommand_fair, hstart, hlive oneCommand_fair 4 hstart,
    fun n r hr => (hreplies _ oneCommand_answers n 0 r hr).2⟩

def earlyStart : List Label := request ++ [.threadStart]

lemma earlyStart_runs : (outcome earlyStart).isSome = true := by decide +kernel

def longAnswer : List Label := .threadStart :: request ++
  [.wake, .sock (.send 10), .emulSend [0x80, 1, 0, 0, 0, 12, 0, 0, 0, 0, 7, 7], .sock (.recv 10),
    .store] ++ request ++
  [.wake, .sock (.send 10), .emulSend answer, .sock (.recv 10), .store]

theorem crb_goes_wrong :
    (∃ b : Behaviour Step, b.state 0 = init ∧ Fair b ∧
      (∀ n, b.label n ≠ .spurious ∧ b.label n ≠ .close) ∧
      ∀ n, 3 ≤ n → startBit (b.state n).regs = true ∧ (b.state n).executed = []) ∧
    ((final [.threadStart, poke 0x80 8 0x0a0000000180, .spurious, .wake]).accepted = 0 ∧
      (final [.threadStart, poke 0x80 8 0x0a0000000180, .spurious, .wake]).executed.length = 1) ∧
    (final (.threadStart :: poke 0x5c 4 0xffffffff :: poke 0x60 4 0xffffffff :: request ++
      [.wake])).pc = .stray ∧
    (final longAnswer).replies.map (·.2) = [List.replicate 10 0, List.replicate 10 0] := by
  have hall : ∀ n, ((played earlyStart earlyStart_runs).state n).pc.busy = false ∧
      ((played earlyStart earlyStart_runs).label n ≠ .spurious ∧
        (played earlyStart earlyStart_runs).label n ≠ .close) ∧
      ((played earlyStart earlyStart_runs).state n).executed = [] :=
    played_all
      (p := fun s l => s.pc.busy = false ∧ (l ≠ .spurious ∧ l ≠ .close) ∧ s.executed = [])
      (by decide +kernel) (by decide +kernel)
  refine ⟨⟨played earlyStart earlyStart_runs, rfl, fun n hbusy => ?_, fun n => (hall n).2.1,
    fun n hn => ⟨?_, (hall n).2.2⟩⟩, by decide +kernel, by decide +kernel, by decide +kernel⟩
  · rw [(hall n).1] at hbusy
    cases hbusy
  rcases Nat.lt_or_ge n earlyStart.length with hlt | hge
  · have hthree : n = 3 := by
      have hlen : earlyStart.length = 4 := rfl
      omega
    rw [hthree]
    decide +kernel
  · rw [played, Behaviour.ofScript_state_of_ge hge]
    decide +kernel

end ScorpiHv.Tpm

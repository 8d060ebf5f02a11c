import ScorpiHv.Lib.Bytes

/-!
# Stream sockets that pass descriptors

A stream is the list of bytes still to be received, each with the descriptors
attached to it. What the kernel answers to the calls of one party is a script.
-/

namespace ScorpiHv.Sock
open Bytes List

inductive Errno where
  | inval
  | again
  | connreset
  | msgsize
  | pipe
  | proto
  | host (code : Nat)
  deriving DecidableEq

structure Cell where
  byte : UInt8
  fds : List Nat
  deriving DecidableEq

abbrev Stream := List Cell

/-- How a `poll` for input ends; an interrupted one is repeated. Data may be there as well
when a hang-up is reported. -/
inductive Poll where
  | ready (hangup : Bool)
  | fail (e : Errno)
  deriving DecidableEq

/-- The answer to a send or a receive. `again` carries what a `poll` behind it reports. -/
inductive Reply where
  | intr
  | again (poll : Poll)
  | count (n : Nat)
  | fail (e : Errno)
  deriving DecidableEq

/-- How a call ends. It is blocked when the script is over before it returns. -/
inductive Ret (α : Type) where
  | ok (a : α)
  | error (e : Errno)
  | blocked
  deriving DecidableEq

def plain (bs : List UInt8) : Stream := bs.map fun b => ⟨b, []⟩

def attach (fds : List Nat) : List UInt8 → Stream
  | [] => []
  | b :: bs => ⟨b, fds⟩ :: plain bs

def bytes (s : Stream) : List UInt8 := s.map Cell.byte

def span : Stream → Nat
  | [] => 0
  | _ :: s => 1 + (s.takeWhile fun c => c.fds.isEmpty).length

/-- How many bytes a receive of at most `len` bytes returns when the kernel offers `n`. -/
def delivered (n len : Nat) (s : Stream) : Nat := max 1 (min n (min len (span s)))

lemma delivered_pos (n len : Nat) (s : Stream) : 0 < delivered n len s := by
  unfold delivered
  omega

lemma delivered_le {n len : Nat} (s : Stream) (h : 0 < len) : delivered n len s ≤ len := by
  unfold delivered
  omega

@[simp] lemma bytes_plain (bs : List UInt8) : bytes (plain bs) = bs := by
  unfold bytes plain
  rw [map_map]
  exact map_id bs

@[simp] lemma bytes_attach (fds : List Nat) (bs : List UInt8) : bytes (attach fds bs) = bs := by
  cases bs with
  | nil => rfl
  | cons b bs =>
    change b :: bytes (plain bs) = b :: bs
    rw [bytes_plain]

@[simp] lemma plain_length (bs : List UInt8) : (plain bs).length = bs.length := length_map _

@[simp] lemma attach_length (fds : List Nat) (bs : List UInt8) : (attach fds bs).length = bs.length := by
  cases bs with
  | nil => rfl
  | cons b bs => exact congrArg (· + 1) (plain_length bs)

lemma attach_nil (bs : List UInt8) : attach [] bs = plain bs := by cases bs <;> rfl

lemma attach_append (fds : List Nat) {as : List UInt8} (bs : List UInt8) (h : as ≠ []) :
    attach fds (as ++ bs) = attach fds as ++ plain bs := by
  cases as with
  | nil => exact absurd rfl h
  | cons a as =>
    change _ :: plain (as ++ bs) = _ :: (plain as ++ plain bs)
    rw [plain, map_append]
    rfl

def Reply.calm : Reply → Bool
  | .intr => true
  | .again (.ready hangup) => !hangup
  | .again (.fail _) => false
  | .count _ => true
  | .fail _ => false

def Calm (script : List Reply) : Prop := ∀ r ∈ script, r.calm = true

instance (script : List Reply) : Decidable (Calm script) :=
  inferInstanceAs (Decidable (∀ r ∈ script, r.calm = true))

lemma Reply.calm_cases {r : Reply} (h : r.calm = true) :
    r = .intr ∨ r = .again (.ready false) ∨ ∃ n, r = .count n := by
  cases r with
  | intr => exact .inl rfl
  | again poll =>
    cases poll with
    | ready hangup =>
      cases hangup with
      | false => exact .inr (.inl rfl)
      | true => cases h
    | fail => cases h
  | count n => exact .inr (.inr ⟨n, rfl⟩)
  | fail => cases h

def counts : List Reply → Nat
  | [] => 0
  | .count _ :: script => counts script + 1
  | .intr :: script => counts script
  | .again _ :: script => counts script
  | .fail _ :: script => counts script

lemma Calm.tail {r : Reply} {script : List Reply} (h : Calm (r :: script)) : Calm script :=
  fun r' hr => h r' (mem_cons_of_mem r hr)

end ScorpiHv.Sock

import ScorpiHv.Lib.Bytes

/-!
# Files, crashes and system calls that may fail

A program leaves a state whether it returns or fails. A descriptor is the contents
found at open and the effects issued since, oldest first. A crash keeps what a completed
`sync` made durable and, byte by byte, any part of what was issued later, which is more
than a subset of whole writes (`Survives.of_sublist`). Every call takes its outcome from
a plan fixed beforehand: a run over all plans is a run over every way the host may fail.
-/

namespace ScorpiHv

abbrev Prog (σ ε α : Type) := ExceptT ε (StateM σ) α

def exec {σ ε α : Type} (x : Prog σ ε α) (s : σ) : Except ε α × σ := x.run.run s

section
variable {σ ε α β : Type} {x : Prog σ ε α} {s s' : σ}

@[simp] lemma exec_pure (a : α) (s : σ) : exec (pure a : Prog σ ε α) s = (.ok a, s) := rfl

@[simp] lemma exec_throw (e : ε) (s : σ) : exec (throw e : Prog σ ε α) s = (.error e, s) := rfl

@[simp] lemma exec_ite (c : Prop) [Decidable c] (x y : Prog σ ε α) (s : σ) :
    exec (if c then x else y) s = if c then exec x s else exec y s := by split <;> rfl

lemma exec_bind (x : Prog σ ε α) (f : α → Prog σ ε β) (s : σ) :
    exec (x >>= f) s = match exec x s with
      | (.ok a, t) => exec (f a) t
      | (.error e, t) => (.error e, t) := by
  simp only [exec, StateT.run_bind]
  change (ExceptT.bindCont f (x.run.run s).1).run (x.run.run s).2 = _
  rcases x.run.run s with ⟨_ | _, t⟩ <;> rfl

@[simp] lemma exec_ofExcept (x : Except ε α) (s : σ) :
    exec (MonadExcept.ofExcept x : Prog σ ε α) s = (x, s) := by cases x <;> rfl

lemma exec_tryCatch (x : Prog σ ε α) (f : ε → Prog σ ε α) (s : σ) :
    exec (tryCatch x f) s = match exec x s with
      | (.ok a, t) => (.ok a, t)
      | (.error e, t) => exec (f e) t := by
  change (match (x.run.run s).1 with
    | .ok a => (pure (.ok a) : StateM σ (Except ε α))
    | .error e => (f e).run).run (x.run.run s).2 = _
  simp only [exec]
  rcases x.run.run s with ⟨_ | _, t⟩ <;> rfl

end

@[simp] lemma except_ok_bind {ε α β : Type} (a : α) (f : α → Except ε β) :
    ((.ok a : Except ε α) >>= f) = f a := rfl

lemma except_bind_ok {ε α β : Type} {x : Except ε α} {f : α → Except ε β} {b : β} :
    (x >>= f) = .ok b ↔ ∃ a, x = .ok a ∧ f a = .ok b := by
  cases x with
  | error =>
    constructor
    · intro h
      cases h
    · rintro ⟨a, h, -⟩
      cases h
  | ok a =>
    constructor
    · intro h
      exact ⟨a, rfl, h⟩
    · rintro ⟨a', h, hf⟩
      cases h
      exact hf

lemma invariant_of_steps {σ : Type} {step : σ → σ → Prop} (inv : σ → Prop)
    (keep : ∀ s s', inv s → step s s' → inv s') {s s' : σ}
    (hs : inv s) (h : Relation.ReflTransGen step s s') : inv s' := by
  induction h with
  | refl => exact hs
  | tail _ hst ih => exact keep _ _ ih hst

open Bytes List

@[ext] structure File where
  size : Nat
  byte : Store
  beyond : ∀ i, size ≤ i → byte i = 0

namespace File

def empty : File := ⟨0, blank, fun _ _ => rfl⟩

def pwrite (f : File) (off : Nat) (bs : List UInt8) : File where
  size := if bs = [] then f.size else max f.size (off + bs.length)
  byte := put f.byte off bs
  beyond := by
    intro i hi
    split at hi
    · rename_i hbs
      subst hbs
      simpa using f.beyond i hi
    · rw [put_outside (by omega)]
      exact f.beyond i (by omega)

def punch (f : File) (off len : Nat) : File where
  size := f.size
  byte := fun i => if off ≤ i ∧ i < off + len then 0 else f.byte i
  beyond := by
    intro i hi
    split
    · rfl
    · exact f.beyond i hi

def truncate (f : File) (n : Nat) : File where
  size := n
  byte := fun i => if i < n then f.byte i else 0
  beyond := by
    intro i hi
    rw [if_neg (by omega)]

@[simp] lemma pwrite_byte (f : File) (off : Nat) (bs : List UInt8) :
    (f.pwrite off bs).byte = put f.byte off bs := rfl

lemma size_le_pwrite (f : File) (off : Nat) (bs : List UInt8) : f.size ≤ (f.pwrite off bs).size := by
  simp only [pwrite]
  split <;> omega

lemma end_le_pwrite (f : File) (off : Nat) {bs : List UInt8} (h : bs ≠ []) :
    off + bs.length ≤ (f.pwrite off bs).size := by
  simp only [pwrite, if_neg h]
  omega

end File

inductive Effect where
  | pwrite (off : Nat) (bs : List UInt8)
  | punch (off len : Nat)
  | sync

namespace Effect

def apply : Effect → File → File
  | pwrite off bs, f => f.pwrite off bs
  | punch off len, f => f.punch off len
  | sync, f => f

def Touches (i : Nat) : Effect → Prop
  | pwrite off bs => off ≤ i ∧ i < off + bs.length
  | punch off len => off ≤ i ∧ i < off + len
  | sync => False

def value (i : Nat) : Effect → UInt8
  | pwrite off bs => bs.getD (i - off) 0
  | punch _ _ => 0
  | sync => 0

def isSync : Effect → Bool
  | sync => true
  | _ => false

variable {i : Nat}

lemma apply_touched {e : Effect} (h : e.Touches i) (f : File) : (e.apply f).byte i = e.value i := by
  cases e with
  | pwrite => simp only [Touches] at h; simp [apply, value, put, h]
  | punch => simp only [Touches] at h; simp [apply, value, File.punch, h]
  | sync => exact h.elim

lemma apply_untouched {e : Effect} (h : ¬ e.Touches i) (f : File) : (e.apply f).byte i = f.byte i := by
  cases e with
  | pwrite => simp only [Touches] at h; simp [apply, put, h]
  | punch => simp only [Touches] at h; simp [apply, File.punch, h]
  | sync => rfl

lemma size_le_apply (e : Effect) (f : File) : f.size ≤ (e.apply f).size := by
  cases e with
  | pwrite off bs => exact f.size_le_pwrite off bs
  | punch | sync => exact le_refl _

lemma apply_size_mono (e : Effect) {f g : File} (h : f.size ≤ g.size) :
    (e.apply f).size ≤ (e.apply g).size := by
  cases e with
  | pwrite =>
    simp only [apply, File.pwrite]
    split <;> omega
  | punch => exact h
  | sync => exact h

end Effect

def replay (f : File) (log : List Effect) : File := log.foldl (fun f e => e.apply f) f

@[simp] lemma replay_nil (f : File) : replay f [] = f := rfl

@[simp] lemma replay_append (f : File) (as bs : List Effect) :
    replay f (as ++ bs) = replay (replay f as) bs := by simp [replay]

@[simp] lemma replay_cons (f : File) (e : Effect) (es : List Effect) :
    replay f (e :: es) = replay (e.apply f) es := rfl

lemma size_le_replay (f : File) (log : List Effect) : f.size ≤ (replay f log).size := by
  induction log generalizing f with
  | nil => exact le_refl _
  | cons e log ih => exact le_trans (e.size_le_apply f) (ih (e.apply f))

variable {log : List Effect}

lemma replay_untouched {i : Nat} (h : ∀ e ∈ log, ¬ e.Touches i) (f : File) :
    (replay f log).byte i = f.byte i := by
  induction log generalizing f with
  | nil => rfl
  | cons e log ih =>
    rw [replay_cons, ih (fun e' he' => h e' (mem_cons_of_mem e he')),
      Effect.apply_untouched (h e mem_cons_self)]

lemma replay_byte (f : File) (log : List Effect) (i : Nat) : (replay f log).byte i = f.byte i ∨
      ∃ e ∈ log, e.Touches i ∧ (replay f log).byte i = e.value i := by
  induction log generalizing f with
  | nil => exact .inl rfl
  | cons e log ih =>
    rcases ih (e.apply f) with h | ⟨e', he', ht, hv⟩
    · by_cases ht : e.Touches i
      · exact .inr ⟨e, mem_cons_self, ht, h.trans (e.apply_touched ht f)⟩
      · exact .inl (h.trans (e.apply_untouched ht f))
    · exact .inr ⟨e', mem_cons_of_mem e he', ht, hv⟩

def synced (log : List Effect) : List Effect :=
  (log.reverse.dropWhile fun e => !e.isSync).reverse

def pending (log : List Effect) : List Effect :=
  (log.reverse.takeWhile fun e => !e.isSync).reverse

lemma synced_append_pending (log : List Effect) : synced log ++ pending log = log := by
  rw [synced, pending, ← reverse_append, takeWhile_append_dropWhile, reverse_reverse]

@[simp] lemma synced_snoc_sync (log : List Effect) :
    synced (log ++ [Effect.sync]) = log ++ [Effect.sync] := by simp [synced, Effect.isSync]

@[simp] lemma pending_snoc_sync (log : List Effect) : pending (log ++ [Effect.sync]) = [] := by
  simp [pending, Effect.isSync]

variable {e : Effect}

lemma synced_snoc (he : e.isSync = false) (log : List Effect) : synced (log ++ [e]) = synced log := by
  simp [synced, he]

lemma pending_snoc (he : e.isSync = false) (log : List Effect) :
    pending (log ++ [e]) = pending log ++ [e] := by simp [pending, he]

def durable (f : File) (log : List Effect) : File := replay f (synced log)

lemma replay_durable (f : File) (log : List Effect) :
    replay (durable f log) (pending log) = replay f log := by
  rw [durable, ← replay_append, synced_append_pending]

lemma durable_snoc (he : e.isSync = false) (f : File) (log : List Effect) :
    durable f (log ++ [e]) = durable f log := by simp [durable, synced_snoc he]

/-- The files a crash may leave after a log. -/
structure Survives (f : File) (log : List Effect) (g : File) : Prop where
  size_ge : (durable f log).size ≤ g.size
  size_le : g.size ≤ (replay f log).size
  byte : ∀ i, g.byte i = (durable f log).byte i ∨
    ∃ e ∈ pending log, e.Touches i ∧ g.byte i = e.value i

namespace Survives

variable {f g : File}

lemma replay_size_le_of_sublist {as bs : List Effect} (h : as.Sublist bs)
    (hfg : f.size ≤ g.size) : (replay f as).size ≤ (replay g bs).size := by
  induction h generalizing f g with
  | slnil => exact hfg
  | cons e _ ih => exact ih (le_trans hfg (e.size_le_apply g))
  | cons_cons e _ ih => exact ih (e.apply_size_mono hfg)

lemma of_sublist {kept : List Effect} (h : kept.Sublist (pending log)) :
    Survives f log (replay (durable f log) kept) where
  size_ge := size_le_replay _ _
  size_le := by
    rw [← replay_durable f log]
    exact replay_size_le_of_sublist h (le_refl _)
  byte := by
    intro i
    rcases replay_byte (durable f log) kept i with hi | ⟨e, he, ht, hv⟩
    · exact .inl hi
    · exact .inr ⟨e, h.subset he, ht, hv⟩

lemma untouched (h : Survives f log g) {i : Nat}
    (hi : ∀ e ∈ pending log, ¬ e.Touches i) : g.byte i = (replay f log).byte i := by
  rw [← replay_durable, replay_untouched hi]
  rcases h.byte i with hb | ⟨e, he, ht, _⟩
  · exact hb
  · exact (hi e he ht).elim

end Survives

inductive Errno where
  | einval | eio | erofs | efbig | eopnotsupp | enotsup | enoent | eloop | e2big | enosys
  | host (code : Nat)
deriving DecidableEq

/-- One call's outcome; a failing write got `done` bytes through first. -/
inductive Fault where
  | none
  | fail (err : Errno) (done : Nat)
deriving DecidableEq

/-- An open file: the contents found at open and the effects issued since. -/
structure Handle where
  disk : File
  log : List Effect

namespace Handle

def file (h : Handle) : File := replay h.disk h.log

def durable (h : Handle) : File := ScorpiHv.durable h.disk h.log

def push (h : Handle) (e : Effect) : Handle := { h with log := h.log ++ [e] }

@[simp] lemma push_log (h : Handle) (e : Effect) : (h.push e).log = h.log ++ [e] := rfl

@[simp] lemma push_disk (h : Handle) (e : Effect) : (h.push e).disk = h.disk := rfl

@[simp] lemma push_file (h : Handle) (e : Effect) : (h.push e).file = e.apply h.file := by
  simp [file]

lemma durable_push {e : Effect} (he : e.isSync = false) (h : Handle) :
    (h.push e).durable = h.durable := durable_snoc he _ _

end Handle

/-- A component's state beside the outcomes of the host calls still to come. -/
structure Sys (σ : Type) where
  st : σ
  plan : List Fault

abbrev Run (σ α : Type) := Prog (Sys σ) Errno α

variable {σ : Type}

def state : Run σ σ := do
  let w ← get
  pure w.st

protected def update (f : σ → σ) : Run σ Unit :=
  modify fun w => { w with st := f w.st }

def nextFault : Run σ Fault := do
  let w ← get
  match w.plan with
  | [] => pure .none
  | f :: fs =>
    set { w with plan := fs }
    pure f

@[simp] lemma exec_state (w : Sys σ) : exec state w = (.ok w.st, w) := rfl

@[simp] lemma exec_update (f : σ → σ) (w : Sys σ) :
    exec (ScorpiHv.update f) w = (.ok (), { w with st := f w.st }) := rfl

lemma exec_nextFault (w : Sys σ) :
    exec nextFault w = (.ok (w.plan.headD .none), { w with plan := w.plan.tail }) := by
  rcases w with ⟨st, _ | ⟨f, fs⟩⟩ <;> rfl

end ScorpiHv

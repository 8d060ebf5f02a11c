import ScorpiHv.Lib.LinkedQueue
import ScorpiHv.Lib.Trace
import ScorpiHv.Vhost.Message

/-!
# Delivery of backend events

Messages are read under `io_mtx`. The callbacks run outside the lock and may call the
transport again, so a thread is a stack of the functions it is in.
-/

namespace ScorpiHv.Vhost
open Function List Bool

def SCORPI_VHOST_FLAG_REPLY : UInt32 := 1

def Msg.isReply (m : Msg) : Bool := m.header.flags &&& SCORPI_VHOST_FLAG_REPLY ≠ 0

structure Event where
  msg : Msg
  conn : Nat

/-- Where a thread is. `receive` and `request` are on the way to `io_mtx`, `reading` and
`exchange` hold it; a dispatcher has `taken` an event, is in its `callback`, or looks `again`. -/
inductive Frame where
  | receive
  | reading
  | request
  | exchange
  | dispatch
  | taken (a : Nat)
  | callback (a : Nat)
  | again
  deriving DecidableEq

/-- `io_mtx` and what it guards, with the stacks of the threads. `reads` and `handled` are
history: the events read, and the calls of `handle_backend_event`. -/
structure Channel where
  io : Option Nat := none
  queue : LinkedQueue Event
  dispatching : Bool := false
  conn : Nat := 0
  threads : Nat → List Frame := fun _ => []
  reads : List Event := []
  handled : List Event := []

namespace Channel

def setStack (ch : Channel) (t : Nat) (fs : List Frame) : Channel :=
  { ch with threads := update ch.threads t fs }

/-- `virtio_vhost_transport_queue_event`, the new node being at address `a`. -/
def queueEvent (ch : Channel) (a : Nat) (m : Msg) : Channel :=
  { ch with
    queue := ch.queue.enqueue a ⟨m, ch.conn⟩
    reads := ch.reads ++ [⟨m, ch.conn⟩] }

/-- The `while` of `virtio_vhost_transport_dispatch_events` up to the next callback. -/
def dispatchLoop (ch : Channel) (t : Nat) (fs : List Frame) : Channel :=
  match ch.queue.dequeue with
  | none => { ch.setStack t fs with dispatching := false }
  | some (a, queue) => { ch.setStack t (.taken a :: fs) with queue, dispatching := true }

/-- What `virtio_vhost_transport_connect_backend` does to the list. -/
def connectBackend (ch : Channel) : Channel :=
  { ch with queue := ch.queue.clear, conn := ch.conn + 1 }

/-- An address `malloc` may return. -/
def Fresh (ch : Channel) (a : Nat) : Prop :=
  (∀ as, LinkedQueue.Linked ch.queue.heap ch.queue.head as → a ∉ as) ∧
    ∀ t, .taken a ∉ ch.threads t ∧ .callback a ∉ ch.threads t

end Channel

inductive EventLabel where
  | enter (t : Nat) (f : Frame)
  | lock (t : Nat)
  | read (t : Nat) (m : Msg)
  | unlock (t : Nat)
  | dispatch (t : Nat)
  | handle (t : Nat)
  | leave (t : Nat)
  | connect

inductive EventStep (ch : Channel) : EventLabel → Channel → Prop where
  /-- A thread calls the transport, from outside or from a callback. -/
  | enter {t : Nat} {f : Frame} :
      (ch.threads t = [] ∨ ∃ a fs, ch.threads t = .callback a :: fs) →
      f = .receive ∨ f = .request → EventStep ch (.enter t f) (ch.setStack t (f :: ch.threads t))
  | lockReceive {t : Nat} {fs : List Frame} : ch.threads t = .receive :: fs → ch.io = none →
      EventStep ch (.lock t) { ch.setStack t (.reading :: fs) with io := some t }
  | receiveEvent {t a : Nat} {fs : List Frame} {m : Msg} : ch.threads t = .reading :: fs →
      ch.io = some t → ch.Fresh a →
      EventStep ch (.read t m) { (ch.queueEvent a m).setStack t (.receive :: fs) with io := none }
  /-- Nothing to read, or the socket fails. -/
  | receiveEnd {t : Nat} {fs : List Frame} : ch.threads t = .reading :: fs → ch.io = some t →
      EventStep ch (.unlock t) { ch.setStack t (.dispatch :: fs) with io := none }
  | lockExchange {t : Nat} {fs : List Frame} : ch.threads t = .request :: fs → ch.io = none →
      EventStep ch (.lock t) { ch.setStack t (.exchange :: fs) with io := some t }
  /-- `virtio_vhost_transport_recv_reply` meets an event. -/
  | exchangeEvent {t a : Nat} {fs : List Frame} {m : Msg} : ch.threads t = .exchange :: fs →
      ch.io = some t → m.isReply = false → ch.Fresh a →
      EventStep ch (.read t m) (ch.queueEvent a m)
  | exchangeReply {t : Nat} {fs : List Frame} {m : Msg} : ch.threads t = .exchange :: fs →
      ch.io = some t → m.isReply = true → EventStep ch (.read t m) ch
  | exchangeEnd {t : Nat} {fs : List Frame} : ch.threads t = .exchange :: fs → ch.io = some t →
      EventStep ch (.unlock t) { ch.setStack t (.dispatch :: fs) with io := none }
  | dispatchBusy {t : Nat} {fs : List Frame} : ch.threads t = .dispatch :: fs → ch.io = none →
      ch.dispatching = true → EventStep ch (.dispatch t) (ch.setStack t fs)
  | dispatch {t : Nat} {fs : List Frame} : ch.threads t = .dispatch :: fs → ch.io = none →
      ch.dispatching = false → EventStep ch (.dispatch t) (ch.dispatchLoop t fs)
  | again {t : Nat} {fs : List Frame} : ch.threads t = .again :: fs → ch.io = none →
      EventStep ch (.dispatch t) (ch.dispatchLoop t fs)
  | handle {t a : Nat} {fs : List Frame} : ch.threads t = .taken a :: fs →
      EventStep ch (.handle t)
        { ch.setStack t (.callback a :: fs) with
          handled := ch.handled ++ [(ch.queue.heap a).val] }
  | leave {t a : Nat} {fs : List Frame} : ch.threads t = .callback a :: fs →
      EventStep ch (.leave t) (ch.setStack t (.again :: fs))
  | connect : ch.io = none → EventStep ch .connect ch.connectBackend

def onConn (c : Nat) (es : List Event) : List Event := es.filter fun e => e.conn = c

/-- The events as they are spread over the list `as`, the one in flight and the handled. -/
structure Lists (ch : Channel) (as : List Nat) (flight : List Event) : Prop where
  queue : ch.queue.Holds as
  fresh : ∀ e ∈ ch.queue.vals as, e.conn = ch.conn
  bound : ∀ e ∈ ch.reads ++ (ch.handled ++ flight), e.conn ≤ ch.conn
  current : onConn ch.conn ch.reads =
    onConn ch.conn (ch.handled ++ flight) ++ ch.queue.vals as
  earlier : ∀ c, c < ch.conn → onConn c (ch.handled ++ flight) <+: onConn c ch.reads

variable {flight : List Event} {as : List Nat} {ch ch' : Channel}

lemma Lists.congr (h : Lists ch as flight) (hq : ch'.queue = ch.queue) (hc : ch'.conn = ch.conn)
    (hr : ch'.reads = ch.reads) (hh : ch'.handled = ch.handled) : Lists ch' as flight := by
  refine ⟨?_, ?_, ?_, ?_, ?_⟩
  · rw [hq]
    exact h.queue
  · rw [hq, hc]
    exact h.fresh
  · rw [hr, hh, hc]
    exact h.bound
  · rw [hq, hc, hr, hh]
    exact h.current
  · rw [hc, hr, hh]
    exact h.earlier

lemma onConn_append (c : Nat) (es es' : List Event) :
    onConn c (es ++ es') = onConn c es ++ onConn c es' := filter_append _ _

variable {c : Nat} {e : Event}

lemma onConn_singleton (h : e.conn = c) : onConn c [e] = [e] :=
  filter_cons_of_pos (decide_eq_true h)

lemma onConn_eq_nil {es : List Event} (h : ∀ e ∈ es, e.conn ≠ c) : onConn c es = [] :=
  filter_eq_nil_iff.mpr fun e he => by simpa using h e he

variable {a : Nat}

lemma Lists.queueEvent (h : Lists ch as flight) (ha : a ∉ as) (m : Msg) :
    Lists (ch.queueEvent a m) (as ++ [a]) flight := by
  refine ⟨h.queue.enqueue _ ha, ?_, ?_, ?_, ?_⟩
  · intro e he
    change e ∈ (ch.queue.enqueue a ⟨m, ch.conn⟩).vals (as ++ [a]) at he
    rw [LinkedQueue.vals_enqueue _ _ ha] at he
    rcases mem_append.mp he with he | he
    · exact h.fresh e he
    · rw [mem_singleton.mp he]
      rfl
  · intro e he
    change e.conn ≤ ch.conn
    rcases mem_append.mp he with he | he
    · rcases mem_append.mp he with he | he
      · exact h.bound e (mem_append_left _ he)
      · rw [mem_singleton.mp he]
    · exact h.bound e (mem_append_right _ he)
  · change onConn ch.conn (ch.reads ++ [⟨m, ch.conn⟩]) =
      onConn ch.conn (ch.handled ++ flight) ++ (ch.queue.enqueue a ⟨m, ch.conn⟩).vals (as ++ [a])
    have hself : onConn ch.conn [⟨m, ch.conn⟩] = [⟨m, ch.conn⟩] := onConn_singleton rfl
    rw [LinkedQueue.vals_enqueue _ _ ha, onConn_append, hself, h.current, append_assoc]
  · intro c hc
    change onConn c (ch.handled ++ flight) <+: onConn c (ch.reads ++ [⟨m, ch.conn⟩])
    rw [onConn_append c ch.reads]
    exact (h.earlier c hc).trans (prefix_append _ _)

lemma Lists.take {queue : LinkedQueue Event}
    (h : Lists ch as []) (ch' : Channel) (hq : ch.queue.dequeue = some (a, queue)) (hq' : ch'.queue = queue)
    (hc : ch'.conn = ch.conn) (hr : ch'.reads = ch.reads) (hh : ch'.handled = ch.handled) :
    ∃ bs, as = a :: bs ∧ Lists ch' bs [(ch.queue.heap a).val] ∧ ch'.queue.heap = ch.queue.heap := by
  obtain ⟨bs, rfl, hbs, hheap⟩ := h.queue.dequeue_some hq
  have hvals : ch.queue.vals (a :: bs) = (ch.queue.heap a).val :: queue.vals bs := by
    unfold LinkedQueue.vals
    rw [map_cons, hheap]
  have hfirst : (ch.queue.heap a).val.conn = ch.conn := h.fresh _ (hvals ▸ mem_cons_self)
  have hnil : ch.handled ++ [] = ch.handled := append_nil _
  have hcur := h.current
  have hbound := h.bound
  have hearlier := h.earlier
  rw [hvals, hnil] at hcur
  rw [hnil] at hbound hearlier
  refine ⟨bs, rfl, ⟨?_, ?_, ?_, ?_, ?_⟩, hq' ▸ hheap⟩
  · rw [hq']
    exact hbs
  · rw [hq', hc]
    exact fun e he => h.fresh e (hvals ▸ mem_cons_of_mem _ he)
  · rw [hr, hh, hc]
    intro e he
    rw [← append_assoc] at he
    rcases mem_append.mp he with he | he
    · exact hbound e he
    · rw [mem_singleton.mp he]
      exact hfirst.le
  · rw [hq', hc, hr, hh, onConn_append, onConn_singleton hfirst, hcur, append_assoc]
    rfl
  · intro c hlt
    rw [hc] at hlt
    have hnone : onConn c [(ch.queue.heap a).val] = [] := onConn_eq_nil fun e he => by
      rw [mem_singleton.mp he, hfirst]
      exact hlt.ne'
    rw [hr, hh, onConn_append, hnone, append_nil]
    exact hearlier c hlt

lemma Lists.land (h : Lists ch as [e]) (hq : ch'.queue = ch.queue) (hc : ch'.conn = ch.conn)
    (hr : ch'.reads = ch.reads) (hh : ch'.handled = ch.handled ++ [e]) : Lists ch' as [] := by
  have hnil : ch'.handled ++ [] = ch.handled ++ [e] := by rw [append_nil, hh]
  refine ⟨?_, ?_, ?_, ?_, ?_⟩
  · rw [hq]
    exact h.queue
  · rw [hq, hc]
    exact h.fresh
  · rw [hr, hnil, hc]
    exact h.bound
  · rw [hq, hc, hr, hnil]
    exact h.current
  · rw [hc, hr, hnil]
    exact h.earlier

lemma Lists.connect (h : Lists ch as flight) : Lists ch.connectBackend [] flight := by
  have hnone : ∀ es : List Event, (∀ e ∈ es, e.conn ≤ ch.conn) → onConn (ch.conn + 1) es = [] :=
    fun es hes => onConn_eq_nil fun e he => (Nat.lt_succ_of_le (hes e he)).ne
  have hread := hnone ch.reads fun e he => h.bound e (mem_append_left _ he)
  have hdone := hnone (ch.handled ++ flight) fun e he => h.bound e (mem_append_right _ he)
  refine ⟨⟨rfl, rfl, nodup_nil⟩, fun e he => absurd he not_mem_nil, ?_, ?_, ?_⟩
  · exact fun e he => (h.bound e he).trans (Nat.le_succ _)
  · change onConn (ch.conn + 1) ch.reads = onConn (ch.conn + 1) (ch.handled ++ flight) ++ []
    rw [hread, hdone]
    rfl
  · intro c hc
    rcases Nat.lt_succ_iff_lt_or_eq.mp hc with hlt | rfl
    · exact h.earlier c hlt
    · exact ⟨_, h.current.symm⟩

/-- The frames of a thread that has set `dispatching_events`. -/
def Frame.dispatcher : Frame → Bool
  | .taken _ | .callback _ | .again => true
  | _ => false

/-- The frames that will come to `virtio_vhost_transport_dispatch_events`. -/
def Frame.owes : Frame → Bool
  | .receive | .reading | .request | .exchange | .dispatch => true
  | _ => false

structure Threads (ch : Channel) (as : List Nat) (flight : List Event) (d : Option Nat) : Prop where
  flag : ch.dispatching = d.isSome
  frames : ∀ t, (ch.threads t).countP Frame.dispatcher = if d = some t then 1 else 0
  apart : ∀ t a, .taken a ∈ ch.threads t ∨ .callback a ∈ ch.threads t → a ∉ as
  airborne : ∀ t a, .taken a ∈ ch.threads t → flight = [(ch.queue.heap a).val]
  landed : (∀ t a, .taken a ∉ ch.threads t) → flight = []
  wake : as ≠ [] → ch.dispatching = true ∨ ∃ t, ∃ f ∈ ch.threads t, f.owes = true

section

variable {ch : Channel} {as : List Nat} {flight : List Event} {d : Option Nat} {t : Nat}
  {f f' : Frame} {fs : List Frame}

lemma Threads.idle (h : Threads ch as flight none) (u : Nat) :
    ∀ f ∈ ch.threads u, f.dispatcher = false := by
  have hcount := h.frames u
  rw [if_neg (Option.some_ne_none u).symm, countP_eq_zero] at hcount
  exact fun f hf => eq_false_iff.mpr (hcount f hf)

variable {u : Nat}

lemma mem_setStack (h : f ∈ (ch.setStack t fs).threads u) :
    (u = t ∧ f ∈ fs) ∨ (u ≠ t ∧ f ∈ ch.threads u) := by
  change f ∈ update ch.threads t fs u at h
  by_cases hu : u = t
  · subst hu
    rw [update_self] at h
    exact .inl ⟨rfl, h⟩
  · rw [update_of_ne hu] at h
    exact .inr ⟨hu, h⟩

lemma setStack_self : (ch.setStack t fs).threads t = fs := update_self _ _ _

lemma setStack_of_ne (h : u ≠ t) : (ch.setStack t fs).threads u = ch.threads u :=
  update_of_ne h _ _

section
variable (h : Threads ch as flight d)
include h

lemma Threads.setStack {gs : List Frame} (hold : ch.threads t = gs)
    (hsame : fs.filter Frame.dispatcher = gs.filter Frame.dispatcher)
    (howes : ch.dispatching = true ∨ ∃ f ∈ fs, f.owes = true) : Threads (ch.setStack t fs) as flight d := by
  have hmem : ∀ u g, g.dispatcher = true →
      (g ∈ (ch.setStack t fs).threads u ↔ g ∈ ch.threads u) := by
    intro u g hg
    by_cases hu : u = t
    · subst hu
      rw [setStack_self, hold]
      have hfs : g ∈ fs ↔ g ∈ fs.filter Frame.dispatcher := by
        rw [mem_filter]
        exact ⟨fun h => ⟨h, hg⟩, fun h => h.1⟩
      have hgs : g ∈ gs ↔ g ∈ gs.filter Frame.dispatcher := by
        rw [mem_filter]
        exact ⟨fun h => ⟨h, hg⟩, fun h => h.1⟩
      rw [hfs, hgs, hsame]
    · rw [setStack_of_ne hu]
  refine ⟨h.flag, ?_, ?_, ?_, ?_, ?_⟩
  · intro u
    by_cases hu : u = t
    · subst hu
      rw [setStack_self, countP_eq_length_filter, hsame, ← hold, ← countP_eq_length_filter]
      exact h.frames u
    · rw [setStack_of_ne hu]
      exact h.frames u
  · intro u a ha
    rw [hmem u _ rfl, hmem u _ rfl] at ha
    exact h.apart u a ha
  · intro u a ha
    exact h.airborne u a ((hmem u _ rfl).mp ha)
  · intro hnone
    exact h.landed fun u a ha => hnone u a ((hmem u _ rfl).mpr ha)
  · intro _
    rcases howes with hflag | ⟨g, hg, howes⟩
    · exact .inl hflag
    refine .inr ⟨t, g, ?_, howes⟩
    rw [setStack_self]
    exact hg

lemma Threads.queueEvent (hfresh : ch.Fresh a) (m : Msg) (howes : ∃ t, ∃ f ∈ ch.threads t, f.owes = true) :
    Threads (ch.queueEvent a m) (as ++ [a]) flight d := by
  refine ⟨h.flag, h.frames, ?_, ?_, h.landed, fun _ => .inr howes⟩
  · intro t b hb hmem
    rcases mem_append.mp hmem with hmem | hmem
    · exact h.apart t b hb hmem
    · rw [mem_singleton.mp hmem] at hb
      exact hb.elim (hfresh.2 t).1 (hfresh.2 t).2
  · intro t b hb
    have hne : b ≠ a := by
      rintro rfl
      exact (hfresh.2 t).1 hb
    rw [h.airborne t b hb]
    exact congrArg (fun e => [e]) (LinkedQueue.enqueue_val_of_ne _ _ hne).symm

lemma Threads.congr {ch' : Channel} (hd : ch'.dispatching = ch.dispatching) (ht : ch'.threads = ch.threads)
    (hq : ch'.queue.heap = ch.queue.heap) : Threads ch' as flight d := by
  refine ⟨?_, ?_, ?_, ?_, ?_, ?_⟩
  · rw [hd]
    exact h.flag
  · rw [ht]
    exact h.frames
  · rw [ht]
    exact h.apart
  · rw [ht, hq]
    exact h.airborne
  · rw [ht]
    exact h.landed
  · rw [hd, ht]
    exact h.wake

lemma Threads.only (hold : ch.threads t = f :: fs) (hf : f.dispatcher = true) :
    ch.dispatching = true ∧ ∀ u, ∀ g ∈ (ch.setStack t fs).threads u, g.dispatcher = false := by
  have hcount := h.frames t
  rw [hold, countP_cons_of_pos hf] at hcount
  split at hcount
  · rename_i hd
    refine ⟨by rw [h.flag, hd]; rfl, fun u g hg => ?_⟩
    rcases mem_setStack hg with ⟨rfl, hmem⟩ | ⟨hu, hg⟩
    · have hzero := countP_eq_zero.mp (Nat.succ.inj hcount)
      exact eq_false_iff.mpr (hzero g hmem)
    · have hother := h.frames u
      rw [hd, if_neg fun heq => hu (Option.some.inj heq).symm, countP_eq_zero] at hother
      exact eq_false_iff.mpr (hother g hg)
  · cases hcount

lemma Threads.landed_of_only (hold : ch.threads t = f :: fs)
    (hf : f.dispatcher = true) (hne : ∀ a, f ≠ .taken a) : flight = [] := by
  obtain ⟨-, hzero⟩ := h.only hold hf
  refine h.landed fun u a ha => ?_
  by_cases hu : u = t
  · subst hu
    rw [hold] at ha
    rcases mem_cons.mp ha with heq | hmem
    · exact hne a heq.symm
    · cases hzero u _ (by rw [setStack_self]; exact hmem)
  · cases hzero u _ (by rw [setStack_of_ne hu]; exact ha)

end

lemma Threads.single (hflag : ch.dispatching = true)
    (hzero : ∀ u, ∀ g ∈ (ch.setStack t fs).threads u, g.dispatcher = false) (hf : f.dispatcher = true)
    (hapart : ∀ a, f = .taken a ∨ f = .callback a → a ∉ as)
    (hair : ∀ a, f = .taken a → flight = [(ch.queue.heap a).val])
    (hland : (∀ a, f ≠ .taken a) → flight = []) : Threads (ch.setStack t (f :: fs)) as flight (some t) := by
  have honly : ∀ u g, g ∈ (ch.setStack t (f :: fs)).threads u → g.dispatcher = true → g = f := by
    intro u g hg hdisp
    rcases mem_setStack hg with ⟨rfl, hmem⟩ | ⟨hu, hg⟩
    · rcases mem_cons.mp hmem with rfl | hg
      · rfl
      have hno := hzero u g (by rw [setStack_self]; exact hg)
      rw [hno] at hdisp
      cases hdisp
    · have hno := hzero u g (by rw [setStack_of_ne hu]; exact hg)
      rw [hno] at hdisp
      cases hdisp
  refine ⟨hflag, ?_, ?_, ?_, ?_, fun _ => .inl hflag⟩
  · intro u
    by_cases hu : u = t
    · subst hu
      rw [setStack_self, countP_cons_of_pos hf, if_pos rfl]
      refine congrArg (· + 1) (countP_eq_zero.mpr fun g hg => ?_)
      rw [hzero u g (by rw [setStack_self]; exact hg)]
      exact false_ne_true
    · rw [if_neg fun heq => hu (Option.some.inj heq).symm]
      refine countP_eq_zero.mpr fun g hg => ?_
      rw [setStack_of_ne hu] at hg
      rw [hzero u g (by rw [setStack_of_ne hu]; exact hg)]
      exact false_ne_true
  · intro u a ha
    exact hapart a (ha.imp (fun h => (honly u _ h rfl).symm) fun h => (honly u _ h rfl).symm)
  · intro u a ha
    exact hair a (honly u _ ha rfl).symm
  · intro hnone
    refine hland fun a heq => hnone t a ?_
    rw [setStack_self, heq]
    exact mem_cons_self

end

def EventInv (ch : Channel) : Prop := ∃ as flight d, Lists ch as flight ∧ Threads ch as flight d

variable {fs : List Frame}

lemma EventInv.dispatchLoop {t : Nat} (hl : Lists ch as [])
    (hzero : ∀ u, ∀ g ∈ (ch.setStack t fs).threads u, g.dispatcher = false) :
    EventInv (ch.dispatchLoop t fs) := by
  unfold Channel.dispatchLoop
  cases hq : ch.queue.dequeue with
  | none =>
    obtain rfl := hl.queue.dequeue_none hq
    refine ⟨[], [], none, hl.congr rfl rfl rfl rfl, rfl, ?_, ?_, ?_, fun _ => rfl, fun h => absurd rfl h⟩
    · intro u
      exact countP_eq_zero.mpr fun g hg => eq_false_iff.mp (hzero u g hg)
    · rintro u a (ha | ha)
      · cases hzero u _ ha
      · cases hzero u _ ha
    · intro u a ha
      cases hzero u _ ha
  | some pair =>
    obtain ⟨a, queue⟩ := pair
    obtain ⟨bs, rfl, hl', hheap⟩ := hl.take { ch.setStack t (.taken a :: fs) with
      queue, dispatching := true } hq rfl rfl rfl rfl
    refine ⟨bs, _, some t, hl', ?_⟩
    have hth : Threads (Channel.setStack { ch with dispatching := true } t (.taken a :: fs)) bs
        [(ch.queue.heap a).val] (some t) := by
      refine Threads.single rfl hzero rfl ?_ ?_ ?_
      · rintro b (heq | heq)
        · cases heq
          exact (nodup_cons.mp hl.queue.nodup).1
        · cases heq
      · intro b heq
        cases heq
        rfl
      · intro hne
        exact absurd rfl (hne a)
    exact hth.congr rfl rfl hheap

lemma EventInv.setStack {t : Nat} {f f' : Frame} (h : EventInv ch) (io : Option Nat)
    (hold : ch.threads t = f :: fs) (hf : f.dispatcher = false) (hf' : f'.dispatcher = false)
    (howes : f'.owes = true) : EventInv { ch.setStack t (f' :: fs) with io } := by
  obtain ⟨as, flight, d, hl, ht⟩ := h
  have hsame : (f' :: fs).filter Frame.dispatcher = (f :: fs).filter Frame.dispatcher := by
    rw [filter_cons_of_neg (eq_false_iff.mp hf'), filter_cons_of_neg (eq_false_iff.mp hf)]
  have hth := ht.setStack hold hsame (.inr ⟨f', mem_cons_self, howes⟩)
  exact ⟨as, flight, d, hl.congr rfl rfl rfl rfl, hth.congr rfl rfl rfl⟩

lemma EventInv.queueEvent {t : Nat} {f : Frame} (h : EventInv ch) (m : Msg) (hold : ch.threads t = f :: fs)
    (howes : f.owes = true) (hfresh : ch.Fresh a) : EventInv (ch.queueEvent a m) := by
  obtain ⟨as, flight, d, hl, ht⟩ := h
  have hmem : f ∈ ch.threads t := hold ▸ mem_cons_self
  exact ⟨as ++ [a], flight, d, hl.queueEvent (hfresh.1 as hl.queue.linked) m,
    ht.queueEvent hfresh m ⟨t, f, hmem, howes⟩⟩

lemma EventInv.step {l : EventLabel} (h : EventInv ch) (hstep : EventStep ch l ch') : EventInv ch' := by
  cases hstep with
  | @enter t f _ hf =>
    obtain ⟨as, flight, d, hl, ht⟩ := h
    have hplain : f.dispatcher = false ∧ f.owes = true := by rcases hf with rfl | rfl <;> exact ⟨rfl, rfl⟩
    refine ⟨as, flight, d, hl.congr rfl rfl rfl rfl, ht.setStack rfl ?_ (.inr ⟨f, mem_cons_self, hplain.2⟩)⟩
    rw [filter_cons_of_neg (eq_false_iff.mp hplain.1)]
  | lockReceive hold | receiveEnd hold | lockExchange hold | exchangeEnd hold =>
    exact h.setStack _ hold rfl rfl rfl
  | receiveEvent hold _ hfresh => exact (h.queueEvent _ hold rfl hfresh).setStack none hold rfl rfl rfl
  | exchangeEvent hold _ _ hfresh => exact h.queueEvent _ hold rfl hfresh
  | exchangeReply => exact h
  | dispatchBusy hold _ hflag =>
    obtain ⟨as, flight, d, hl, ht⟩ := h
    refine ⟨as, flight, d, hl.congr rfl rfl rfl rfl, ht.setStack hold ?_ (.inl hflag)⟩
    rw [filter_cons_of_neg (by decide)]
  | @dispatch t fs hold _ hflag =>
    obtain ⟨as, flight, d, hl, ht⟩ := h
    obtain rfl : d = none := by
      have hd := ht.flag
      rw [hflag] at hd
      exact Option.isSome_eq_false_iff.mp hd.symm |> Option.isNone_iff_eq_none.mp
    obtain rfl : flight = [] := ht.landed fun u a ha => by cases ht.idle u _ ha
    refine EventInv.dispatchLoop hl fun u g hg => ?_
    rcases mem_setStack hg with ⟨rfl, hmem⟩ | ⟨_, hmem⟩
    · exact ht.idle u g (hold ▸ mem_cons_of_mem _ hmem)
    · exact ht.idle u g hmem
  | @again t fs hold =>
    obtain ⟨as, flight, d, hl, ht⟩ := h
    obtain ⟨-, hzero⟩ := ht.only hold rfl
    obtain rfl := ht.landed_of_only hold rfl fun a heq => by cases heq
    exact EventInv.dispatchLoop hl hzero
  | @handle t a fs hold =>
    obtain ⟨as, flight, d, hl, ht⟩ := h
    obtain ⟨hflag, hzero⟩ := ht.only hold rfl
    have hmem : .taken a ∈ ch.threads t := hold ▸ mem_cons_self
    obtain rfl := ht.airborne t a hmem
    refine ⟨as, [], some t, hl.land rfl rfl rfl rfl, ?_⟩
    · have hth : Threads (ch.setStack t (.callback a :: fs)) as [] (some t) := by
        refine Threads.single hflag hzero rfl ?_ (fun b heq => by cases heq) fun _ => rfl
        rintro b (heq | heq)
        · cases heq
        · cases heq
          exact ht.apart t a (.inl hmem)
      exact hth.congr rfl rfl rfl
  | @leave t a fs hold =>
    obtain ⟨as, flight, d, hl, ht⟩ := h
    obtain ⟨hflag, hzero⟩ := ht.only hold rfl
    obtain rfl := ht.landed_of_only hold rfl fun a heq => by cases heq
    refine ⟨as, [], some t, hl.congr rfl rfl rfl rfl, ?_⟩
    refine Threads.single hflag hzero rfl ?_ (fun b heq => by cases heq) fun _ => rfl
    rintro b (heq | heq) <;> cases heq
  | connect =>
    obtain ⟨as, flight, d, hl, ht⟩ := h
    refine ⟨[], flight, d, hl.connect, ht.flag, ht.frames, fun _ _ _ => not_mem_nil,
      ht.airborne, ht.landed, fun h => absurd rfl h⟩

def Channel.init (heap : Nat → Node Event) : Channel where
  queue := { heap }

lemma EventInv.init (heap : Nat → Node Event) : EventInv (.init heap) := by
  refine ⟨[], [], none, ⟨⟨rfl, rfl, nodup_nil⟩, ?_, ?_, rfl, ?_⟩, rfl, fun _ => rfl, ?_, ?_,
    fun _ => rfl, fun h => absurd rfl h⟩
  · exact fun e he => absurd he not_mem_nil
  · exact fun e he => absurd he not_mem_nil
  · exact fun c hc => absurd hc (Nat.not_lt_zero c)
  · rintro t a (ha | ha) <;> cases ha
  · intro t a ha
    cases ha

/-- The events of every connection are handled in the order they were read, each once. On the
current one the others are in flight or listed; on an earlier one they are gone. -/
structure Delivered (ch : Channel) : Prop where
  spread : ∃ as flight, ch.queue.Holds as ∧
    (flight = [] ∨ ∃ t a, .taken a ∈ ch.threads t ∧ flight = [(ch.queue.heap a).val]) ∧
    onConn ch.conn ch.reads = onConn ch.conn (ch.handled ++ flight) ++ ch.queue.vals as ∧
    ∀ c, c < ch.conn → onConn c (ch.handled ++ flight) <+: onConn c ch.reads
  alone : ∀ t u a b, .callback a ∈ ch.threads t → .callback b ∈ ch.threads u →
    t = u ∧ (ch.threads t).countP Frame.dispatcher = 1
  quiet : (∀ t, ch.threads t = []) →
    ch.queue.head = none ∧ onConn ch.conn ch.handled = onConn ch.conn ch.reads
  tail : ch.io = none → ∃ as, LinkedQueue.Linked ch.queue.heap ch.queue.head as ∧
    ch.queue.tail = as.getLast?

lemma Threads.of_callback {d : Option Nat}
    (h : Threads ch as flight d) {t : Nat} (ha : .callback a ∈ ch.threads t) : d = some t := by
  by_contra hd
  have hcount := h.frames t
  rw [if_neg hd, countP_eq_zero] at hcount
  exact hcount _ ha rfl

lemma EventInv.delivered (h : EventInv ch) : Delivered ch := by
  obtain ⟨as, flight, d, hl, ht⟩ := h
  refine ⟨⟨as, flight, hl.queue, ?_, hl.current, hl.earlier⟩, ?_, ?_, ?_⟩
  · by_cases hair : ∃ t a, .taken a ∈ ch.threads t
    · obtain ⟨t, a, ha⟩ := hair
      exact .inr ⟨t, a, ha, ht.airborne t a ha⟩
    · exact .inl (ht.landed fun t a ha => hair ⟨t, a, ha⟩)
  · intro t u a b ha hb
    have hd := ht.of_callback ha
    refine ⟨Option.some.inj (hd.symm.trans (ht.of_callback hb)), ?_⟩
    rw [ht.frames t, if_pos hd]
  · intro hquiet
    have hnone : ∀ t (f : Frame), f ∉ ch.threads t := by
      intro t f hf
      rw [hquiet t] at hf
      cases hf
    obtain rfl := ht.landed fun t a => hnone t _
    have hflag : ch.dispatching = false := by
      rw [ht.flag]
      cases d with
      | none => rfl
      | some t =>
        have hcount := ht.frames t
        rw [hquiet t, if_pos rfl] at hcount
        cases hcount
    obtain rfl : as = [] := by
      by_contra hne
      rcases ht.wake hne with hd | ⟨t, f, hf, -⟩
      · rw [hflag] at hd
        cases hd
      · exact hnone t f hf
    have hcur := hl.current
    rw [append_nil] at hcur
    exact ⟨hl.queue.linked, (hcur.trans (append_nil _)).symm⟩
  · exact fun _ => ⟨as, hl.queue.linked, hl.queue.tail⟩

theorem events_delivered {heap : Nat → Node Event} {ls : List EventLabel} {ch : Channel}
    (hrun : Trace EventStep (.init heap) ls ch) : Delivered ch := by
  have hkeep : ∀ s l t, EventInv s → True → EventStep s l t → EventInv t :=
    fun _ _ _ h _ hstep => h.step hstep
  have hinv := hrun.invariant (fun _ => True) hkeep (fun _ _ => trivial) (.init heap)
  exact hinv.delivered

private def event (request : UInt32) : Msg where
  header := { request, size := 0 }
  payload := List.replicate PAYLOAD_SIZE 0
  sized := length_replicate

private def emptyHeap : Nat → Node Event := fun _ => ⟨⟨event 23, 0⟩, none⟩

private lemma fresh_empty {a : Nat} (hhead : ch.queue.head = none)
    (h : ∀ t, .taken a ∉ ch.threads t ∧ .callback a ∉ ch.threads t) : ch.Fresh a := by
  refine ⟨fun as has => ?_, h⟩
  cases as with
  | nil => exact not_mem_nil
  | cons =>
    rw [hhead] at has
    cases has.1

/-- While one thread handles an event another reads the next one, which is left to the first. -/
theorem events_delivered_two :
    ∃ ls ch, Trace EventStep (.init emptyHeap) ls ch ∧
      ch.handled = [⟨event 23, 0⟩, ⟨event 24, 0⟩] ∧ Delivered ch := by
  have hrun : Trace EventStep (.init emptyHeap) _ _ :=
    .cons (@EventStep.enter _ 0 .receive (.inl rfl) (.inl rfl)) <|
    .cons (@EventStep.lockReceive _ 0 [] rfl rfl) <|
    .cons (@EventStep.receiveEvent _ 0 7 [] (event 23) rfl rfl (fresh_empty rfl (by
      rintro (_ | t)
      · exact ⟨by decide, by decide⟩
      · exact ⟨not_mem_nil, not_mem_nil⟩))) <|
    .cons (@EventStep.lockReceive _ 0 [] rfl rfl) <|
    .cons (@EventStep.receiveEnd _ 0 [] rfl rfl) <|
    .cons (@EventStep.dispatch _ 0 [] rfl rfl rfl) <|
    .cons (@EventStep.handle _ 0 7 [] rfl) <|
    .cons (@EventStep.enter _ 1 .request (.inl rfl) (.inr rfl)) <|
    .cons (@EventStep.lockExchange _ 1 [] rfl rfl) <|
    .cons (@EventStep.exchangeEvent _ 1 8 [] (event 24) rfl rfl (by decide) (fresh_empty rfl (by
      rintro (_ | _ | t)
      · exact ⟨by decide, by decide⟩
      · exact ⟨by decide, by decide⟩
      · exact ⟨not_mem_nil, not_mem_nil⟩))) <|
    .cons (@EventStep.exchangeEnd _ 1 [] rfl rfl) <|
    .cons (@EventStep.dispatchBusy _ 1 [] rfl rfl rfl) <|
    .cons (@EventStep.leave _ 0 7 [] rfl) <|
    .cons (@EventStep.again _ 0 [] rfl rfl) <|
    .cons (@EventStep.handle _ 0 8 [] rfl) <|
    .cons (@EventStep.leave _ 0 8 [] rfl) <|
    .cons (@EventStep.again _ 0 [] rfl rfl) (.nil _)
  exact ⟨_, _, hrun, rfl, events_delivered hrun⟩

end ScorpiHv.Vhost

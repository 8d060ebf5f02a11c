import Mathlib

/-!
# Requests of the control socket

A client message reaches `cnc_receive_command` in fragments. The session keeps a buffer,
its length and a discard flag between them; fragments of all sessions come in any order.
-/

namespace ScorpiHv.Cnc
open Function List


def MAX_REQUEST_SIZE : Nat := 64 * 1024

def cString (buf : List UInt8) : List UInt8 := buf.takeWhile (· ≠ 0)

/-- What `json_read_object` fills in. -/
structure Request where
  reqType : List UInt8
  reqId : Int
  action : List UInt8
  argv : List (List UInt8)
deriving DecidableEq

structure CncCommand (σ : Type) where
  cmd : List UInt8
  cmdHandler : Nat → Int → List (List UInt8) → σ → σ

/-- The JSON library and the process around the server; handlers may change the command set. -/
structure Host (σ : Type) where
  jsonReadObject : List UInt8 → Option Request
  cmdSet : σ → List (CncCommand σ)

variable {σ : Type}

def requestType : List UInt8 := [0x72, 0x65, 0x71, 0x75, 0x65, 0x73, 0x74]

def cncExecuteCommand (host : Host σ) (conn : Nat) (json : List UInt8) (env : σ) : σ :=
  match host.jsonReadObject (cString json) with
  | none => env
  | some req =>
    if req.reqType ≠ requestType then env
    else
      match (host.cmdSet env).find? (fun c => c.cmd = req.action) with
      | none => env
      | some c => c.cmdHandler conn req.reqId req.argv env

structure Fragment where
  data : List UInt8
  isFinalFragment : Bool
  remainingPacketPayload : Nat
  -- whether `realloc` succeeds for this fragment
  allocates : Bool
deriving DecidableEq

def Fragment.final (fr : Fragment) : Bool :=
  fr.isFinalFragment && fr.remainingPacketPayload == 0

structure PerSessionData where
  rxData : Option (List UInt8)
  rxLen : Nat
  rxDiscarding : Bool
deriving DecidableEq

def cncInitSession : PerSessionData := ⟨none, 0, false⟩

def cncResetRxMessage (pss : PerSessionData) : PerSessionData :=
  { pss with rxData := none, rxLen := 0 }

def cncAppendRxMessage (pss : PerSessionData) (fr : Fragment) : PerSessionData × Bool :=
  if fr.data.length > MAX_REQUEST_SIZE - 1 ∨
      pss.rxLen > MAX_REQUEST_SIZE - 1 - fr.data.length then
    ({ cncResetRxMessage pss with rxDiscarding := true }, false)
  else if fr.allocates = false then
    ({ cncResetRxMessage pss with rxDiscarding := true }, false)
  else
    ({ pss with
        rxData := some ((pss.rxData.getD []).take pss.rxLen ++ fr.data ++ [0])
        rxLen := pss.rxLen + fr.data.length }, true)

/-- The new session data, and the buffer handed to `cnc_execute_command`, if any. -/
def cncReceiveCommand (pss : PerSessionData) (fr : Fragment) :
    PerSessionData × Option (List UInt8) :=
  if pss.rxDiscarding then
    (if fr.final then { pss with rxDiscarding := false } else pss, none)
  else
    let (pss, appended) := cncAppendRxMessage pss fr
    if appended = false then (pss, none)
    else if fr.final then (cncResetRxMessage pss, pss.rxData)
    else (pss, none)

inductive Event where
  | established
  | receive (fr : Fragment)
  | closed
deriving DecidableEq

/-- The part of `cnc_callback` that touches the received message. -/
def cncCallback (pss : PerSessionData) : Event → PerSessionData × Option (List UInt8)
  | .established => (cncInitSession, none)
  | .receive fr => cncReceiveCommand pss fr
  | .closed => (cncResetRxMessage pss, none)

/-- All sessions, the process, and the text of each command executed with its session. -/
structure Server (σ : Type) where
  sessions : Nat → PerSessionData
  env : σ
  log : List (Nat × List UInt8)

def Server.step (host : Host σ) (s : Server σ) (ev : Nat × Event) : Server σ :=
  let (pss, json) := cncCallback (s.sessions ev.1) ev.2
  let sessions := update s.sessions ev.1 pss
  match json with
  | none => { s with sessions }
  | some buf => ⟨sessions, cncExecuteCommand host ev.1 buf s.env, s.log ++ [(ev.1, cString buf)]⟩

def Server.run (host : Host σ) (s : Server σ) (evs : List (Nat × Event)) : Server σ :=
  evs.foldl (Server.step host) s

def eventsOf (i : Nat) (evs : List (Nat × Event)) : List Event :=
  (evs.filter (·.1 = i)).map (·.2)

def textsOf (i : Nat) (log : List (Nat × List UInt8)) : List (List UInt8) :=
  (log.filter (·.1 = i)).map (·.2)

def sessionRun (pss : PerSessionData) : List Event → PerSessionData × List (List UInt8)
  | [] => (pss, [])
  | ev :: evs =>
    let (pss', json) := cncCallback pss ev
    let (last, texts) := sessionRun pss' evs
    (last, (json.map cString).toList ++ texts)

lemma sessionRun_append (pss : PerSessionData) (evs evs' : List Event) :
    sessionRun pss (evs ++ evs') =
      ((sessionRun (sessionRun pss evs).1 evs').1,
        (sessionRun pss evs).2 ++ (sessionRun (sessionRun pss evs).1 evs').2) := by
  induction evs generalizing pss with
  | nil => rfl
  | cons ev evs ih =>
    simp only [cons_append, sessionRun]
    rw [ih]
    simp only [append_assoc]

lemma run_session (host : Host σ) (s : Server σ) (evs : List (Nat × Event)) (i : Nat) :
    (s.run host evs).sessions i = (sessionRun (s.sessions i) (eventsOf i evs)).1 ∧
    textsOf i (s.run host evs).log = textsOf i s.log ++ (sessionRun (s.sessions i) (eventsOf i evs)).2 := by
  induction evs generalizing s with
  | nil => exact ⟨rfl, (append_nil _).symm⟩
  | cons ev evs ih =>
    obtain ⟨j, ev⟩ := ev
    obtain ⟨hpss, htexts⟩ := ih (s.step host (j, ev))
    change (Server.run host (s.step host (j, ev)) evs).sessions i = _ ∧
      textsOf i (Server.run host (s.step host (j, ev)) evs).log = _
    rw [hpss, htexts]
    by_cases hji : j = i
    · subst hji
      have hev : eventsOf j ((j, ev) :: evs) = ev :: eventsOf j evs := by simp [eventsOf]
      rw [hev]
      simp only [sessionRun, Server.step]
      rcases hcb : cncCallback (s.sessions j) ev with ⟨pss, _ | buf⟩
      · simp
      · simp [textsOf]
    · have hev : eventsOf i ((j, ev) :: evs) = eventsOf i evs := by simp [eventsOf, hji]
      rw [hev]
      simp only [Server.step]
      rcases hcb : cncCallback (s.sessions j) ev with ⟨pss, _ | buf⟩
      · simp [update_of_ne (Ne.symm hji)]
      · simp [textsOf, hji, update_of_ne (Ne.symm hji)]

lemma cString_cString (buf : List UInt8) : cString (cString buf) = cString buf := by
  simp [cString, takeWhile_takeWhile]

lemma run_env (host : Host σ) (s : Server σ) (evs : List (Nat × Event)) :
    ∃ log, (s.run host evs).log = s.log ++ log ∧
      (s.run host evs).env = log.foldl (fun env e => cncExecuteCommand host e.1 e.2 env) s.env := by
  induction evs generalizing s with
  | nil => exact ⟨[], (append_nil _).symm, rfl⟩
  | cons ev evs ih =>
    obtain ⟨log, hlog, henv⟩ := ih (s.step host ev)
    change ∃ log, (Server.run host (s.step host ev) evs).log = _ ∧
      (Server.run host (s.step host ev) evs).env = _
    rw [hlog, henv]
    simp only [Server.step]
    rcases hcb : cncCallback (s.sessions ev.1) ev.2 with ⟨pss, _ | buf⟩
    · exact ⟨log, rfl, rfl⟩
    · refine ⟨(ev.1, cString buf) :: log, append_assoc _ _ _, ?_⟩
      simp only [foldl_cons, cncExecuteCommand, cString_cString]

structure Message where
  pieces : List Fragment
  last : Fragment
  pieces_final : ∀ fr ∈ pieces, fr.final = false
  last_final : last.final = true
  allocates : ∀ fr ∈ pieces ++ [last], fr.allocates = true

def textOf (frs : List Fragment) : List UInt8 := frs.flatMap (·.data)

namespace Message

def events (m : Message) : List Event := (m.pieces ++ [m.last]).map Event.receive

def text (m : Message) : List UInt8 := textOf (m.pieces ++ [m.last])

def Fits (m : Message) : Prop := m.text.length ≤ MAX_REQUEST_SIZE - 1

instance : DecidablePred Fits := fun _ => inferInstanceAs (Decidable (_ ≤ _))

def Late (m : Message) : Prop := (textOf m.pieces).length ≤ MAX_REQUEST_SIZE - 1 ∧ ¬ m.Fits

instance : DecidablePred Late := fun _ => inferInstanceAs (Decidable (_ ∧ _))

def leaves (discarding : Bool) (m : Message) : Bool := !discarding && decide m.Late

end Message

lemma textOf_append (frs frs' : List Fragment) :
    textOf (frs ++ frs') = textOf frs ++ textOf frs' := flatMap_append

def idle (discarding : Bool) : PerSessionData := ⟨none, 0, discarding⟩

structure Holds (pss : PerSessionData) (t : List UInt8) : Prop where
  discarding : pss.rxDiscarding = false
  len : pss.rxLen = t.length
  data : (pss.rxData.getD []).take pss.rxLen = t
  fits : t.length ≤ MAX_REQUEST_SIZE - 1

lemma idle_holds : Holds (idle false) [] := ⟨rfl, rfl, rfl, Nat.zero_le _⟩

variable {pss : PerSessionData} {t : List UInt8} {fr : Fragment}

lemma Holds.append (h : Holds pss t) (halloc : fr.allocates = true)
    (hfits : (t ++ fr.data).length ≤ MAX_REQUEST_SIZE - 1) :
    ∃ pss', cncAppendRxMessage pss fr = (pss', true) ∧ Holds pss' (t ++ fr.data) ∧
      pss'.rxData = some (t ++ fr.data ++ [0]) := by
  rw [length_append] at hfits
  have hlen := h.len
  refine ⟨⟨some (t ++ fr.data ++ [0]), t.length + fr.data.length, false⟩, ?_, ?_, rfl⟩
  · rw [cncAppendRxMessage, if_neg (by omega), if_neg (by rw [halloc]; decide), h.data, hlen, h.discarding]
  · refine ⟨rfl, (length_append).symm, ?_, by rwa [length_append]⟩
    rw [← length_append]
    exact take_left

lemma Holds.overflow (h : Holds pss t) (hlong : MAX_REQUEST_SIZE - 1 < (t ++ fr.data).length) :
    cncAppendRxMessage pss fr = (idle true, false) := by
  rw [length_append] at hlong
  have hlen := h.len
  rw [cncAppendRxMessage, if_pos (by omega)]
  rfl

variable {frs : List Fragment}

lemma discarding_run (hfinal : ∀ fr ∈ frs, fr.final = false) :
    sessionRun (idle true) (frs.map Event.receive) = (idle true, []) := by
  induction frs with
  | nil => rfl
  | cons fr frs ih =>
    have hfr := hfinal fr mem_cons_self
    have hstep : cncCallback (idle true) (.receive fr) = (idle true, none) := by
      simp [cncCallback, cncReceiveCommand, idle, hfr]
    simp only [map_cons, sessionRun, hstep]
    rw [ih fun fr' hfr' => hfinal fr' (mem_cons_of_mem _ hfr')]
    rfl

lemma Holds.piece (h : Holds pss t) (halloc : fr.allocates = true) (hfinal : fr.final = false)
    (hfits : (t ++ fr.data).length ≤ MAX_REQUEST_SIZE - 1) :
    ∃ pss', cncCallback pss (.receive fr) = (pss', none) ∧ Holds pss' (t ++ fr.data) := by
  obtain ⟨pss', happ, hholds, -⟩ := h.append halloc hfits
  refine ⟨pss', ?_, hholds⟩
  simp [cncCallback, cncReceiveCommand, h.discarding, happ, hfinal]

lemma Holds.dropped (h : Holds pss t) (hlong : MAX_REQUEST_SIZE - 1 < (t ++ fr.data).length) :
    cncCallback pss (.receive fr) = (idle true, none) := by
  simp [cncCallback, cncReceiveCommand, h.discarding, h.overflow hlong]

lemma Holds.last (h : Holds pss t) (halloc : fr.allocates = true) (hfinal : fr.final = true)
    (hfits : (t ++ fr.data).length ≤ MAX_REQUEST_SIZE - 1) :
    cncCallback pss (.receive fr) = (idle false, some (t ++ fr.data ++ [0])) := by
  obtain ⟨pss', happ, hholds, hdata⟩ := h.append halloc hfits
  have hreset : cncResetRxMessage pss' = idle false := by
    rw [cncResetRxMessage, hholds.discarding]
    rfl
  simp [cncCallback, cncReceiveCommand, h.discarding, happ, hfinal, hreset, hdata]

lemma pieces_run (hfinal : ∀ fr ∈ frs, fr.final = false)
    (halloc : ∀ fr ∈ frs, fr.allocates = true) (h : Holds pss t) :
    ∃ pss', sessionRun pss (frs.map Event.receive) = (pss', []) ∧
      if (t ++ textOf frs).length ≤ MAX_REQUEST_SIZE - 1 then Holds pss' (t ++ textOf frs)
      else pss' = idle true := by
  induction frs generalizing pss t with
  | nil =>
    refine ⟨pss, rfl, ?_⟩
    rw [textOf, flatMap_nil, append_nil, if_pos h.fits]
    exact h
  | cons fr frs ih =>
    have hfr := hfinal fr mem_cons_self
    have hrest := fun fr' hfr' => hfinal fr' (mem_cons_of_mem fr hfr')
    have htext : t ++ textOf (fr :: frs) = t ++ fr.data ++ textOf frs := by
      rw [textOf, flatMap_cons, append_assoc]
      rfl
    rw [htext]
    simp only [map_cons, sessionRun]
    by_cases hfits : (t ++ fr.data).length ≤ MAX_REQUEST_SIZE - 1
    · obtain ⟨pss1, hstep, hholds⟩ := h.piece (halloc fr mem_cons_self) hfr hfits
      obtain ⟨pss2, hrun, hend⟩ := ih hrest (fun fr' hfr' => halloc fr' (mem_cons_of_mem fr hfr')) hholds
      rw [hstep, hrun]
      exact ⟨pss2, rfl, hend⟩
    · rw [h.dropped (Nat.lt_of_not_le hfits), discarding_run hrest]
      refine ⟨idle true, rfl, ?_⟩
      rw [if_neg]
      rw [length_append]
      omega

lemma sessionRun_single (pss : PerSessionData) (ev : Event) :
    sessionRun pss [ev] = ((cncCallback pss ev).1, ((cncCallback pss ev).2.map cString).toList) := by
  simp [sessionRun]

lemma message_run (m : Message) (discarding : Bool) :
    sessionRun (idle discarding) m.events =
      (idle (m.leaves discarding),
        if discarding = false ∧ m.Fits then [cString (m.text ++ [0])] else []) := by
  have hlast : m.last.allocates = true := m.allocates _ (by simp)
  have htext : m.text = textOf m.pieces ++ m.last.data := by
    rw [Message.text, textOf_append, textOf, textOf, flatMap_singleton]
  rw [Message.events, map_append, sessionRun_append]
  cases discarding with
  | true =>
    have hstep : cncCallback (idle true) (.receive m.last) = (idle false, none) := by
      simp [cncCallback, cncReceiveCommand, idle, m.last_final]
    rw [discarding_run m.pieces_final, map_singleton, sessionRun_single, hstep]
    rfl
  | false =>
    obtain ⟨pss, hrun, hend⟩ := pieces_run m.pieces_final
      (fun fr hfr => m.allocates fr (mem_append_left _ hfr)) idle_holds
    rw [hrun, map_singleton, sessionRun_single]
    rw [nil_append] at hend
    split_ifs at hend with hpieces
    · by_cases hfits : m.Fits
      · have hlen : (textOf m.pieces ++ m.last.data).length ≤ MAX_REQUEST_SIZE - 1 := htext ▸ hfits
        have hlate : ¬ m.Late := fun hl => hl.2 hfits
        rw [hend.last hlast m.last_final hlen, if_pos ⟨rfl, hfits⟩, htext]
        simp [Message.leaves, hlate]
      · have hlen : MAX_REQUEST_SIZE - 1 < (textOf m.pieces ++ m.last.data).length := by
          rw [← htext]
          exact Nat.lt_of_not_le hfits
        have hlate : m.Late := ⟨hpieces, hfits⟩
        rw [hend.dropped hlen, if_neg fun h => hfits h.2]
        simp [Message.leaves, hlate]
    · subst hend
      have hfits : ¬ m.Fits := by
        intro hfits
        rw [Message.Fits, htext, length_append] at hfits
        omega
      have hlate : ¬ m.Late := fun hl => hpieces hl.1
      rw [if_neg fun h => hfits h.2]
      simp [cncCallback, cncReceiveCommand, idle, m.last_final, Message.leaves, hlate]

def executed (discarding : Bool) : List Message → List (List UInt8)
  | [] => []
  | m :: ms =>
    (if discarding = false ∧ m.Fits then [cString (m.text ++ [0])] else []) ++
      executed (m.leaves discarding) ms

lemma messages_run (ms : List Message) (discarding : Bool) :
    sessionRun (idle discarding) (ms.flatMap Message.events) =
      (idle (ms.foldl (fun d m => m.leaves d) discarding), executed discarding ms) := by
  induction ms generalizing discarding with
  | nil => rfl
  | cons m ms ih =>
    rw [flatMap_cons, sessionRun_append, message_run, ih]
    rfl

def Spared (discarding : Bool) (ms : List Message) : Prop :=
  ∀ pre m post, ms = pre ++ m :: post → m.Fits →
    pre.foldl (fun d m => m.leaves d) discarding = false ∧ 0 ∉ m.text

variable {ms : List Message}

lemma spared_cons {discarding : Bool} {m : Message} : Spared discarding (m :: ms) ↔
    (m.Fits → discarding = false ∧ 0 ∉ m.text) ∧ Spared (m.leaves discarding) ms := by
  constructor
  · intro h
    refine ⟨h [] m ms rfl, fun pre m' post hms => ?_⟩
    exact h (m :: pre) m' post (by rw [hms, cons_append])
  rintro ⟨hm, hms⟩ pre m' post heq
  cases pre with
  | nil =>
    obtain ⟨rfl, -⟩ := List.cons.inj heq
    exact hm
  | cons p pre =>
    obtain ⟨rfl, htail⟩ := List.cons.inj heq
    exact hms pre m' post htail

lemma cString_terminated (t : List UInt8) : cString (t ++ [0]) = t ↔ 0 ∉ t := by
  induction t with
  | nil => simp [cString]
  | cons b t ih =>
    by_cases hb : b = 0
    · simp [cString, hb]
    have hstep : cString (b :: t ++ [0]) = b :: cString (t ++ [0]) := by simp [cString, hb]
    rw [hstep, cons_inj_right, ih, mem_cons, not_or]
    exact ⟨fun h => ⟨Ne.symm hb, h⟩, fun h => h.2⟩

lemma executed_length_le (ms : List Message) (discarding : Bool) :
    (executed discarding ms).length ≤ (ms.filter (fun m => m.Fits)).length := by
  induction ms generalizing discarding with
  | nil => exact Nat.le_refl _
  | cons m ms ih =>
    have hms := ih (m.leaves discarding)
    by_cases hfits : m.Fits
    · rw [filter_cons_of_pos (by simpa using hfits), executed, length_append, length_cons]
      split
      · rw [length_singleton]
        omega
      · rw [length_nil]
        omega
    · rw [filter_cons_of_neg (by simpa using hfits), executed, if_neg fun h => hfits h.2]
      exact hms

lemma executed_eq_iff (ms : List Message) (discarding : Bool) :
    executed discarding ms = (ms.filter (fun m => m.Fits)).map Message.text ↔ Spared discarding ms := by
  induction ms generalizing discarding with
  | nil => exact ⟨fun _ pre m post h => by simp at h, fun _ => rfl⟩
  | cons m ms ih =>
    rw [spared_cons, ← ih]
    by_cases hfits : m.Fits
    · rw [filter_cons_of_pos (by simpa using hfits), map_cons, executed]
      cases discarding with
      | false =>
        rw [if_pos ⟨rfl, hfits⟩, singleton_append, List.cons.injEq, cString_terminated]
        exact ⟨fun h => ⟨fun _ => ⟨rfl, h.1⟩, h.2⟩, fun h => ⟨(h.1 hfits).2, h.2⟩⟩
      | true =>
        -- a message that fits is lost, and no other can make up for it
        rw [if_neg nofun, nil_append]
        refine ⟨fun h => ?_, fun h => nomatch (h.1 hfits).1⟩
        have hlen := congrArg List.length h
        have hle := executed_length_le ms (m.leaves true)
        rw [length_cons, length_map] at hlen
        omega
    · rw [filter_cons_of_neg (by simpa using hfits), executed, if_neg fun h => hfits h.2]
      exact ⟨fun h => ⟨fun hf => absurd hf hfits, h⟩, fun h => h.2⟩

lemma unfinished_run (hfinal : ∀ fr ∈ frs, fr.final = false) (halloc : ∀ fr ∈ frs, fr.allocates = true)
    (discarding : Bool) : (sessionRun (idle discarding) (frs.map Event.receive)).2 = [] := by
  cases discarding with
  | false =>
    obtain ⟨pss, hrun, -⟩ := pieces_run hfinal halloc idle_holds
    rw [hrun]
  | true => rw [discarding_run hfinal]

structure Session (evs : List Event) (ms : List Message) where
  unfinished : List Fragment
  ending : List Event
  unfinished_final : ∀ fr ∈ unfinished, fr.final = false
  unfinished_allocates : ∀ fr ∈ unfinished, fr.allocates = true
  ending_closed : ending = [] ∨ ending = [.closed]
  events_eq : evs = .established ::
    (ms.flatMap Message.events ++ (unfinished.map Event.receive ++ ending))

lemma Session.texts {evs : List Event} (h : Session evs ms)
    (pss : PerSessionData) : (sessionRun pss evs).2 = executed false ms := by
  have hend : ∀ pss, (sessionRun pss h.ending).2 = [] := by
    intro pss
    rcases h.ending_closed with heq | heq <;> rw [heq] <;> rfl
  have hfirst : sessionRun pss (.established ::
      (ms.flatMap Message.events ++ (h.unfinished.map Event.receive ++ h.ending))) =
      sessionRun (idle false)
        (ms.flatMap Message.events ++ (h.unfinished.map Event.receive ++ h.ending)) := rfl
  rw [h.events_eq, hfirst, sessionRun_append, messages_run, sessionRun_append]
  simp only [unfinished_run h.unfinished_final h.unfinished_allocates, hend, append_nil]

/-- The messages of a session that fit are the commands executed for it, exactly when each finds
the discard flag clear; only these change the process. -/
theorem requests_apart (host : Host σ) (s : Server σ) (evs : List (Nat × Event)) (i : Nat)
    (ms : List Message) (hnew : textsOf i s.log = []) (h : Session (eventsOf i evs) ms) :
    (textsOf i (s.run host evs).log = (ms.filter (fun m => m.Fits)).map Message.text ↔
      Spared false ms) ∧
    ∃ log, (s.run host evs).log = s.log ++ log ∧
      (s.run host evs).env =
        log.foldl (fun env e => cncExecuteCommand host e.1 e.2 env) s.env := by
  refine ⟨?_, run_env host s evs⟩
  rw [(run_session host s evs i).2, hnew, nil_append, h.texts, executed_eq_iff]

def Message.whole (data : List UInt8) : Message where
  pieces := []
  last := ⟨data, true, 0, true⟩
  pieces_final := nofun
  last_final := rfl
  allocates := by simp

def Message.split (first rest : List UInt8) : Message where
  pieces := [⟨first, false, 0, true⟩]
  last := ⟨rest, true, 0, true⟩
  pieces_final := by simp [Fragment.final]
  last_final := rfl
  allocates := by simp

def sessionOf (ms : List Message) : Session (.established :: ms.flatMap Message.events) ms where
  unfinished := []
  ending := []
  unfinished_final := nofun
  unfinished_allocates := nofun
  ending_closed := Or.inl rfl
  events_eq := by simp

def sessionEvents (ms : List Message) : List (Nat × Event) :=
  (.established :: ms.flatMap Message.events).map (fun ev => (0, ev))

lemma eventsOf_session (ms : List Message) :
    eventsOf 0 (sessionEvents ms) = .established :: ms.flatMap Message.events := by
  simp [eventsOf, sessionEvents, filter_map, Function.comp_def]

def quietHost : Host Unit := ⟨fun _ => none, fun _ => []⟩

def freshServer : Server Unit := ⟨fun _ => cncInitSession, (), []⟩

def spaces : List UInt8 := List.replicate 65536 0x20

lemma spaces_long (frs : List Fragment) {fr : Fragment} (h : fr.data = spaces) :
    ¬ (textOf (fr :: frs)).length ≤ MAX_REQUEST_SIZE - 1 := by
  have hcons : textOf (fr :: frs) = fr.data ++ textOf frs := rfl
  rw [hcons, h, spaces, length_append, length_replicate, MAX_REQUEST_SIZE]
  omega

/-- Requests in two fragments, and between them one that is too long before its last fragment. -/
theorem requests_apart_pair :
    textsOf 0 (freshServer.run quietHost (sessionEvents
      [.split [0x7b] [0x7d], .split spaces [], .split [0x5b] [0x5d]])).log =
      [[0x7b, 0x7d], [0x5b, 0x5d]] := by
  have hlong : ¬ (Message.split spaces []).Fits := spaces_long _ rfl
  have hsession := sessionOf [.split [0x7b] [0x7d], .split spaces [], .split [0x5b] [0x5d]]
  rw [← eventsOf_session] at hsession
  have h := (requests_apart quietHost freshServer _ 0 _ rfl hsession).1
  rw [filter_cons_of_pos (by decide), filter_cons_of_neg (by simpa using hlong)] at h
  refine h.mpr ?_
  rw [spared_cons, spared_cons, spared_cons]
  refine ⟨fun _ => ⟨rfl, by decide⟩, fun hfits => absurd hfits hlong, fun _ => ⟨?_, by decide⟩, ?_⟩
  · have hlate : ¬ (Message.split spaces []).Late := fun h => spaces_long [] rfl h.1
    rw [Message.leaves, decide_eq_false hlate, Bool.and_false]
  · exact fun pre m post h => absurd h (by simp)

lemma fresh_texts (ms : List Message) :
    textsOf 0 (freshServer.run quietHost (sessionEvents ms)).log = executed false ms := by
  rw [(run_session quietHost freshServer _ 0).2, eventsOf_session, (sessionOf ms).texts]
  rfl

/-- A long message whose last fragment exceeds the limit takes the next one with it; a zero byte
ends the text that is executed. -/
theorem long_message_drops_next :
    textsOf 0 (freshServer.run quietHost
      (sessionEvents [.whole spaces, .whole [0x7b, 0x7d]])).log = [] ∧
    textsOf 0 (freshServer.run quietHost
      (sessionEvents [.whole [0x7b, 0x7d, 0, 0x5b, 0x5d]])).log = [[0x7b, 0x7d]] := by
  have hlong : ¬ (Message.whole spaces).Fits := spaces_long [] rfl
  have hlate : (Message.whole spaces).Late := ⟨by decide, hlong⟩
  have hleaves : (Message.whole spaces).leaves false = true := by
    rw [Message.leaves, decide_eq_true hlate]
    rfl
  rw [fresh_texts, fresh_texts]
  refine ⟨?_, by decide⟩
  rw [executed, hleaves, if_neg fun h => hlong h.2]
  rfl

end ScorpiHv.Cnc

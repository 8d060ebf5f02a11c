import ScorpiHv.Sco.Recovery

/-!
# A session is a run of a flat disk

Whatever fails on the host, a call stores a first part of its bytes and changes no others.
-/

namespace ScorpiHv.Sco
open Bytes List

abbrev Reply := Call × Except Errno Unit

def SessionStep (s : Image) (l : Reply) (s' : Image) : Prop :=
  ∃ plan w, exec l.1.run ⟨s, plan⟩ = (l.2, w) ∧ w.st = s'

def Image.disk (s : Image) : Nat × Store := (s.sb.virtualSize, s.flat)

/-- A call on a disk of a fixed size; a failing one may stop after `k` bytes. -/
def FlatStep (d : Nat × Store) (l : Reply) (d' : Nat × Store) : Prop :=
  d'.1 = d.1 ∧ ∃ k ≤ l.1.bytes.length, (l.2 = .ok () → k = l.1.bytes.length) ∧
    ∀ b < d.1, d'.2 b = put d.2 l.1.pos (l.1.bytes.take k) b

variable {s s' : Image} {w w' : Sys Image} {r : Except Errno Unit} {call : Call}

lemma Stored.flat {pos b : Nat} {bs : List UInt8} (h : Stored s s' pos bs)
    (hb : b < s.sb.virtualSize) : s'.flat b = put s.flat pos bs b := by
  simp only [put, Image.flat]
  split_ifs with hin
  · rw [h.inside b hb hin.1 hin.2, Option.getD_some]
  · rcases h.outside b hb hin with hk | ⟨-, hk⟩ <;> simp [hk]

lemma RangeRun.flatStep (h : RangeRun w w' r call.pos call.bytes) :
    FlatStep w.st.disk (call, r) w'.st.disk := by
  refine ⟨congrArg Superblock.virtualSize h.ran.sameImage.sb, ?_⟩
  cases r with
  | ok =>
    refine ⟨_, le_rfl, fun _ => rfl, fun b hb => ?_⟩
    rw [take_length]
    exact (h.stored rfl).flat hb
  | error err =>
    obtain ⟨k, hk, hs⟩ := h.torn err rfl
    exact ⟨k, hk, nofun, fun b hb => hs.flat hb⟩

lemma call_flatStep {plan : List Fault} (hi : MemInv s)
    (h : exec call.run ⟨s, plan⟩ = (r, w')) : FlatStep s.disk (call, r) w'.st.disk := by
  have idle {c : Call} (hc : c.bytes = []) (hsize : w'.st.sb.virtualSize = s.sb.virtualSize)
      (hview : ∀ b < s.sb.virtualSize, w'.st.view b = s.view b) :
      FlatStep s.disk (c, r) w'.st.disk :=
    ⟨hsize, 0, Nat.zero_le _, fun _ => by rw [hc]; rfl, fun b hb => by
      simp [Image.disk, Image.flat, hview b hb]⟩
  cases call with
  | write => exact RangeRun.flatStep (w := ⟨s, plan⟩) (scoWrite_run hi h)
  | discard => exact RangeRun.flatStep (w := ⟨s, plan⟩) (scoDiscard_run hi h)
  | flush =>
    have hsame := (scoFlush_run h).sameView hi
    exact idle rfl (by rw [hsame.sb]) hsame.view
  | read offset len =>
    simp only [Call.run, exec_bind, exec_pure] at h
    generalize hx : exec (scoRead offset len) _ = x at h
    obtain ⟨hst, -⟩ := scoRead_st (w := ⟨s, plan⟩) hi hx
    obtain ⟨res | res, w1⟩ := x <;> cases h <;> exact idle rfl (by rw [hst]) fun _ _ => by rw [hst]
  | setSealed isSealed =>
    rcases setSealed_cases h with rfl | ⟨⟨-, hst⟩, -⟩ | ⟨-, k, -, hst⟩
    · exact idle rfl rfl fun _ _ => rfl
    · rw [hst] at idle ⊢
      refine idle rfl rfl fun b hb => ?_
      rw [← view_push hi (harmless_page hi (superblockPage_length (s.sb.resealed isSealed)).le) hb]
      simp [Image.view, Event.apply, Effect.apply, Superblock.resealed]
    · rw [hst] at idle ⊢
      exact idle rfl rfl fun _ => view_push hi (harmless_page hi (by simp))

/-- Every session on a file that opens is a run of the flat disk, and reads return its bytes. -/
theorem session_refines_flat {f : File} {readonly : Bool} {s₀ : Image} {ls : List Reply}
    (hopen : scoOpen f readonly = .ok s₀) (h : Trace SessionStep s₀ ls s) :
    Trace FlatStep s₀.disk ls s.disk ∧ ∀ {offset len}, offset + len ≤ s.sb.virtualSize →
      (exec (scoRead offset len) ⟨s, []⟩).1 = .ok (get s.flat offset len) := by
  have keep : ∀ t l t', SafeState t → SessionStep t l t' → SafeState t' := by
    rintro t l _ ht ⟨plan, w, hx, rfl⟩
    exact callStep_safe ht ⟨l.1, plan, by rw [hx]⟩
  have hs₀ := session_safe hopen .refl
  refine ⟨h.simulate SafeState Image.disk keep ?_ hs₀, ?_⟩
  · rintro t l _ ht ⟨plan, w, hx, rfl⟩
    exact call_flatStep ht.mem hx
  · exact read_nofail (h.invariant (fun _ => True) (fun t l t' ht _ => keep t l t' ht)
      (fun _ _ => trivial) hs₀).mem

theorem session_refines_flat_small : ∃ s₀ l s, scoOpen smallFile false = .ok s₀ ∧
    SessionStep s₀ l s ∧ Trace FlatStep s₀.disk [l] s.disk := by
  obtain ⟨s, hs⟩ := small_opens false
  have hstep : SessionStep s (.write [7] 0, _) _ := ⟨[], _, rfl, rfl⟩
  exact ⟨s, _, _, hs, hstep, (session_refines_flat hs (.single hstep)).1⟩

end ScorpiHv.Sco

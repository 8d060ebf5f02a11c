import ScorpiHv.Lib.Trace
import ScorpiHv.Vhost.Display

/-!
# The published display is usable

What the viewer was told fits: dimensions that the pointer can be scaled by, those of
what is shown, and scanouts within their shared memory.
-/

namespace ScorpiHv.Vhost
open List

open Usb (UmouseSoftc INT_MAX INT_MIN MOUSE_MAX scaleCoordinate)

def Mappable (size : Int) : Prop := 0 < size ∧ size ≤ 65536

/-- A line holds the pixels, and the memory holds the lines. -/
def Scanout.Fits (s : Scanout) : Prop := 4 * s.w ≤ s.stride ∧ s.stride * s.h ≤ s.shmSize

def PointerMaps (c : Console) : Prop :=
  ∀ (mouse : UmouseSoftc) (button : UInt8) (x y delta : Int),
    0 ≤ x → x < c.w → 0 ≤ y → y < c.h →
    ∃ t, mouse.umouseScrollEvent c.scanoutSize button x y delta = .ok t ∧
      (0 ≤ t.umReport.x ∧ t.umReport.x ≤ 32767) ∧ 0 ≤ t.umReport.y ∧ t.umReport.y ≤ 32767

namespace DisplaySoftc

structure Usable (sc : DisplaySoftc) : Prop where
  positive : sc.console.isActive → 0 < sc.console.w ∧ 0 < sc.console.h
  shown : sc.console.isActive → shown sc.console.log = some (sc.console.w, sc.console.h)
  source : sc.rendererScanoutActive →
    (rendererScanoutOf sc.console.log).map (fun s => (s.w, s.h)) =
      some (sc.console.w, sc.console.h)
  pointer : sc.console.isActive → PointerMaps sc.console
  noDivide : ∀ (mouse : UmouseSoftc) (button : UInt8) (x y delta : Int),
    mouse.umouseScrollEvent sc.console.scanoutSize button x y delta ≠ .error .divideByZero
  exclusive : ¬ (sc.rendererScanoutActive ∧ sc.rendererSurfaceActive)
  published : ∀ s, Notification.setScanout s ∈ sc.console.log → s.shmSize ≠ 0 → Scanout.Fits s

/-- What every run keeps: the flags agree with the console and its log. -/
structure FlagsOk (sc : DisplaySoftc) : Prop where
  surface : sc.console.displaySurfaceActive = sc.rendererSurfaceActive
  scanout : sc.rendererScanoutActive → sc.console.scanoutActive
  exclusive : sc.rendererScanoutActive → sc.rendererSurfaceActive = false
  fb : sc.legacyFbBase → sc.legacyFbSize = VHOST_LEGACY_FB_SIZE
  scanoutLog : sc.console.scanoutActive = (scanoutOf sc.console.log).isSome
  surfaceLog : sc.console.displaySurfaceActive = (surfaceOf sc.console.log).isSome

/-- What `Usable` comes to in terms of numbers. -/
structure Sized (sc : DisplaySoftc) : Prop where
  sized : sc.console.isActive → Mappable sc.console.w ∧ Mappable sc.console.h ∧
    ScorpiHv.shown sc.console.log = some (sc.console.w, sc.console.h)
  source : sc.rendererScanoutActive →
    (rendererScanoutOf sc.console.log).map (fun s => (s.w, s.h)) =
      some (sc.console.w, sc.console.h)
  published : ∀ s, Notification.setScanout s ∈ sc.console.log → s.shmSize ≠ 0 → Scanout.Fits s

end DisplaySoftc

variable {v size : Int}

lemma scaleCoordinate_ok (hsize : Mappable size) (h0 : 0 ≤ v) (hv : v < size) :
    ∃ r, scaleCoordinate v size = .ok r ∧ 0 ≤ r ∧ r ≤ 32767 := by
  obtain ⟨hpos, hmax⟩ := hsize
  have hlow : 0 ≤ MOUSE_MAX * v := Int.mul_nonneg (by decide) h0
  have hhigh : MOUSE_MAX * v ≤ INT_MAX := by
    simp only [MOUSE_MAX, INT_MAX]
    omega
  unfold scaleCoordinate
  rw [if_neg, if_neg (by omega), if_neg (by omega)]
  · refine ⟨_, rfl, Int.tdiv_nonneg hlow (by omega), ?_⟩
    rw [Int.tdiv_eq_ediv_of_nonneg hlow]
    have hlt : MOUSE_MAX * v / size < 32768 := by
      apply Int.ediv_lt_of_lt_mul hpos
      simp only [MOUSE_MAX]
      omega
    omega
  · simp only [INT_MIN]
    omega

lemma scaleCoordinate_not_div (h : size ≠ 0) : scaleCoordinate v size ≠ .error .divideByZero := by
  unfold scaleCoordinate
  dsimp only
  split
  · intro heq
    cases heq
  · split <;> intro heq <;> cases heq

variable {r : Int}

lemma mappable_of_scale (hpos : 0 < size)
    (h : scaleCoordinate (size - 1) size = .ok r) : Mappable size := by
  refine ⟨hpos, ?_⟩
  by_contra hbig
  have hover : MOUSE_MAX * (size - 1) < INT_MIN ∨ INT_MAX < MOUSE_MAX * (size - 1) := by
    right
    simp only [MOUSE_MAX, INT_MAX]
    omega
  unfold scaleCoordinate at h
  rw [if_pos hover] at h
  cases h

lemma bmod_small (h0 : 0 ≤ r) (h : r ≤ 32767) : r.bmod (2 ^ 16) = r := by
  apply Int.bmod_eq_of_le <;> omega

lemma scrollEvent_eq (mouse : UmouseSoftc) (size : Option (Int × Int)) (button : UInt8)
    (x y delta : Int) :
    mouse.umouseScrollEvent size button x y delta =
      (scaleCoordinate y (size.getD (1024, 768)).2).bind fun y' =>
        (scaleCoordinate x (size.getD (1024, 768)).1).bind fun x' =>
          .ok { mouse.leaveRelative with
            pendingScroll := Usb.clamp INT_MAX (mouse.leaveRelative.pendingScroll + delta)
            umReport :=
              { reportId := Usb.UMOUSE_ABSOLUTE_REPORT
                buttons := button &&& 7
                x := x'.bmod (2 ^ 16)
                y := y'.bmod (2 ^ 16)
                z := 0 }
            newdata := true } := rfl

variable {c : Console}

lemma pointerMaps_of_mappable (hactive : c.isActive) (hw : Mappable c.w)
    (hh : Mappable c.h) : PointerMaps c := by
  intro mouse button x y delta hx0 hx hy0 hy
  obtain ⟨rx, hrx, hrx0, hrx1⟩ := scaleCoordinate_ok hw hx0 hx
  obtain ⟨ry, hry, hry0, hry1⟩ := scaleCoordinate_ok hh hy0 hy
  rw [scrollEvent_eq, Console.scanoutSize, if_pos hactive, Option.getD_some, hry, hrx]
  refine ⟨_, rfl, ?_⟩
  rw [bmod_small hrx0 hrx1, bmod_small hry0 hry1]
  exact ⟨⟨hrx0, hrx1⟩, hry0, hry1⟩

lemma mappable_of_pointerMaps (hactive : c.isActive) (hw : 0 < c.w)
    (hh : 0 < c.h) (h : PointerMaps c) : Mappable c.w ∧ Mappable c.h := by
  obtain ⟨t, ht, _⟩ := h UmouseSoftc.umouseInit 0 (c.w - 1) (c.h - 1) 0
    (by omega) (by omega) (by omega) (by omega)
  rw [scrollEvent_eq, Console.scanoutSize, if_pos hactive, Option.getD_some] at ht
  cases hy : scaleCoordinate (c.h - 1) c.h with
  | error =>
    rw [hy] at ht
    cases ht
  | ok =>
    cases hx : scaleCoordinate (c.w - 1) c.w with
    | error =>
      rw [hy, hx] at ht
      cases ht
    | ok => exact ⟨mappable_of_scale hw hx, mappable_of_scale hh hy⟩

lemma no_divide (h : c.isActive → c.w ≠ 0 ∧ c.h ≠ 0) (mouse : UmouseSoftc) (button : UInt8)
    (x y delta : Int) : mouse.umouseScrollEvent c.scanoutSize button x y delta ≠ .error .divideByZero := by
  have hsize : (c.scanoutSize.getD (1024, 768)).1 ≠ 0 ∧ (c.scanoutSize.getD (1024, 768)).2 ≠ 0 := by
    unfold Console.scanoutSize
    split
    · rename_i hactive
      exact h hactive
    · decide
  rw [scrollEvent_eq]
  intro heq
  cases hy : scaleCoordinate y (c.scanoutSize.getD (1024, 768)).2 with
  | error =>
    rw [hy] at heq
    cases heq
    exact scaleCoordinate_not_div hsize.2 hy
  | ok =>
    rw [hy] at heq
    cases hx : scaleCoordinate x (c.scanoutSize.getD (1024, 768)).1 with
    | error =>
      rw [Except.bind, hx] at heq
      cases heq
      exact scaleCoordinate_not_div hsize.1 hx
    | ok =>
      rw [Except.bind, hx] at heq
      cases heq

namespace DisplaySoftc

variable {s sc t : DisplaySoftc}

lemma usable_iff (hflags : FlagsOk sc) : Usable sc ↔ Sized sc := by
  constructor
  · intro h
    refine ⟨?_, h.source, h.published⟩
    intro hactive
    obtain ⟨hw, hh⟩ := h.positive hactive
    obtain ⟨mw, mh⟩ := mappable_of_pointerMaps hactive hw hh (h.pointer hactive)
    exact ⟨mw, mh, h.shown hactive⟩
  · intro h
    constructor
    · intro hactive
      obtain ⟨mw, mh, _⟩ := h.sized hactive
      exact ⟨mw.1, mh.1⟩
    · intro hactive
      exact (h.sized hactive).2.2
    · exact h.source
    · intro hactive
      obtain ⟨mw, mh, _⟩ := h.sized hactive
      exact pointerMaps_of_mappable hactive mw mh
    · apply no_divide
      intro hactive
      obtain ⟨mw, mh, _⟩ := h.sized hactive
      exact ⟨Int.ne_of_gt mw.1, Int.ne_of_gt mh.1⟩
    · rintro ⟨hscanout, hsurface⟩
      rw [hflags.exclusive hscanout] at hsurface
      cases hsurface
    · exact h.published

def ScanoutGood (s : Scanout) : Prop := Mappable s.w ∧ Mappable s.h ∧ Scanout.Fits s

def LegacyGood (sc : DisplaySoftc) : Prop := sc.legacyFbBase → ScanoutGood sc.legacyScanout

def BarPublishes (sc : DisplaySoftc) (host : BarHost) (baridx : Int) (enabled : Bool) : Prop :=
  baridx = VHOST_LEGACY_FB_BAR ∧ enabled ∧ (sc.legacyFbBase ∨ (host.shmOpens ∧ host.shmMaps))

def Good (sc : DisplaySoftc) : DisplayAction → Prop
  | .scanout m =>
    if ScanoutMsg.disabled m then sc.rendererSurfaceActive ∨ sc.LegacyGood
    else sc.driverOk ∧ m.shmName ≠ "" ∧ m.shmSize ≠ 0 → ScanoutGood (rendererScanout m)
  | .displaySurface m =>
    if DisplaySurfaceMsg.disabled m then sc.rendererScanoutActive = false ∧ sc.LegacyGood
    else sc.driverOk → Mappable (rendererSurface m).w ∧ Mappable (rendererSurface m).h
  | .legacyCtrl offset size value =>
    sc.rendererScanoutActive = false → sc.rendererSurfaceActive = false →
      offset + size ≤ VHOST_LEGACY_CTRL_SIZE →
      (offset = 4 → { sc with resx := value.toUInt32 }.LegacyGood) ∧
      (offset = 6 → { sc with resy := value.toUInt32 }.LegacyGood)
  | .baraddr host baridx enabled _ =>
    sc.BarPublishes host baridx enabled →
      ScanoutGood { sc.legacyScanout with shmSize := VHOST_LEGACY_FB_SIZE } ∧
      (sc.rendererScanoutActive ∨ sc.rendererSurfaceActive →
        (sc.legacyScanout.w, sc.legacyScanout.h) = (sc.console.w, sc.console.h))
  | .reset => sc.LegacyGood
  | .driverOk _ => True
  | .resize _ _ => True
  | .pointer _ _ _ _ => True

structure SameDisplay (s t : DisplaySoftc) : Prop where
  scanout : t.rendererScanoutActive = s.rendererScanoutActive
  surface : t.rendererSurfaceActive = s.rendererSurfaceActive
  console : t.console = s.console
  fb : t.legacyFbBase → t.legacyFbSize = VHOST_LEGACY_FB_SIZE

lemma SameDisplay.flags (h : SameDisplay s t) (hs : FlagsOk s) : FlagsOk t where
  surface := by rw [h.console, h.surface]; exact hs.surface
  scanout := by rw [h.console, h.scanout]; exact hs.scanout
  exclusive := by rw [h.surface, h.scanout]; exact hs.exclusive
  fb := h.fb
  scanoutLog := by rw [h.console]; exact hs.scanoutLog
  surfaceLog := by rw [h.console]; exact hs.surfaceLog

lemma SameDisplay.sized (h : SameDisplay s t) : Sized t ↔ Sized s := by
  constructor
  · intro ht
    refine ⟨?_, ?_, ?_⟩
    · rw [← h.console]; exact ht.sized
    · rw [← h.console, ← h.scanout]; exact ht.source
    · rw [← h.console]; exact ht.published
  · intro hs
    refine ⟨?_, ?_, ?_⟩
    · rw [h.console]; exact hs.sized
    · rw [h.console, h.scanout]; exact hs.source
    · rw [h.console]; exact hs.published

def LogFits (log : List Notification) : Prop :=
  ∀ s, Notification.setScanout s ∈ log → s.shmSize ≠ 0 → Scanout.Fits s

lemma setScanout_sized {s : Scanout} (hsize : s.shmSize ≠ 0) (hlog : surfaceOf sc.console.log = none)
    (hsource : sc.rendererScanoutActive → s.redrawOnTimer = false) (hpub : LogFits sc.console.log) :
    Sized { sc with console := sc.console.setScanout s } ↔ ScanoutGood s := by
  constructor
  · intro h
    have hsized := h.sized rfl
    exact ⟨hsized.1, hsized.2.1, h.published _ mem_cons_self hsize⟩
  rintro ⟨mw, mh, hfits⟩
  refine ⟨?_, ?_, ?_⟩
  · intro _
    refine ⟨mw, mh, ?_⟩
    simp [shown, Console.setScanout, surfaceOf, scanoutOf, hlog]
  · intro hactive
    simp [Console.setScanout, rendererScanoutOf, hsource hactive]
  · intro s' hs hne
    rcases mem_cons.1 hs with heq | hold
    · cases heq
      exact hfits
    · exact hpub s' hold hne

lemma setLegacyScanout_sized (hfb : sc.legacyFbBase → sc.legacyFbSize = VHOST_LEGACY_FB_SIZE)
    (hscanout : sc.rendererScanoutActive = false)
    (hsurface : sc.console.displaySurfaceActive = false) (hlog : surfaceOf sc.console.log = none)
    (hpub : LogFits sc.console.log) : Sized sc.setLegacyScanout ↔ sc.LegacyGood := by
  have hidle : ¬ (sc.rendererScanoutActive : Prop) := by
    rw [hscanout]
    decide
  unfold setLegacyScanout LegacyGood
  by_cases hbase : sc.legacyFbBase
  · have hsize : sc.legacyScanout.shmSize ≠ 0 := by
      have hne : VHOST_LEGACY_FB_SIZE ≠ 0 := by decide
      rw [← hfb hbase] at hne
      exact hne
    rw [if_pos hbase, setScanout_sized hsize hlog (fun h => absurd h hidle) hpub]
    exact ⟨fun h _ => h, fun h => h hbase⟩
  · rw [if_neg hbase]
    refine ⟨fun _ h => absurd h hbase, fun _ => ⟨?_, fun h => absurd h hidle, ?_⟩⟩
    · intro hactive
      simp [Console.isActive, Console.unsetScanout, hsurface] at hactive
    intro s hs hne
    rcases mem_cons.1 hs with heq | hold
    · cases heq
    · exact hpub s hold hne

lemma FlagsOk.surfaceOf_none (hflags : FlagsOk sc)
    (h : sc.rendererSurfaceActive = false) : surfaceOf sc.console.log = none := by
  have hlog := hflags.surfaceLog
  rw [hflags.surface, h] at hlog
  exact Option.isNone_iff_eq_none.1 (by rw [← Option.not_isSome, ← hlog]; rfl)

lemma setScanout_over {s : Scanout} (hflags : FlagsOk sc) (hs : Sized sc) (hsize : s.shmSize ≠ 0)
    (hredraw : s.redrawOnTimer = true) (hactive : sc.rendererScanoutActive ∨ sc.rendererSurfaceActive) :
    Sized { sc with console := sc.console.setScanout s } ↔
      ScanoutGood s ∧ (s.w, s.h) = (sc.console.w, sc.console.h) := by
  have hgood (h : Sized { sc with console := sc.console.setScanout s }) : ScanoutGood s := by
    have hsized := h.sized rfl
    exact ⟨hsized.1, hsized.2.1, h.published _ mem_cons_self hsize⟩
  have hfits (h : ScanoutGood s) : LogFits (.setScanout s :: sc.console.log) := by
    intro s' hmem hne
    rcases mem_cons.1 hmem with heq | hold
    · cases heq
      exact h.2.2
    · exact hs.published s' hold hne
  rcases hactive with hscanout | hsurface
  · -- the renderer's scanout is the one not redrawn on a timer, whatever is published over it
    have hold := hs.source hscanout
    have hnone := hflags.surfaceOf_none (hflags.exclusive hscanout)
    constructor
    · intro h
      have hnew := h.source hscanout
      simp only [Console.setScanout, rendererScanoutOf, hredraw, if_true] at hnew
      exact ⟨hgood h, Option.some.inj (hnew.symm.trans hold)⟩
    · rintro ⟨hg, heq⟩
      refine ⟨fun _ => ⟨hg.1, hg.2.1, ?_⟩, fun _ => ?_, hfits hg⟩
      · simp [ScorpiHv.shown, Console.setScanout, surfaceOf, scanoutOf, hnone]
      · simp only [Console.setScanout, rendererScanoutOf, hredraw, if_true, heq]
        exact hold
  · have hdisplay : sc.console.displaySurfaceActive = true := by
      rw [hflags.surface]
      exact hsurface
    have hidle : ¬ (sc.rendererScanoutActive : Prop) := by
      intro h
      rw [hflags.exclusive h] at hsurface
      cases hsurface
    have hshown := (hs.sized (by simp [Console.isActive, hdisplay])).2.2
    obtain ⟨f, hf⟩ := Option.isSome_iff_exists.1 (hflags.surfaceLog.symm.trans hdisplay)
    simp only [ScorpiHv.shown, hf] at hshown
    constructor
    · intro h
      have hnew := (h.sized rfl).2.2
      simp only [ScorpiHv.shown, Console.setScanout, surfaceOf, hf] at hnew
      exact ⟨hgood h, Option.some.inj (hnew.symm.trans hshown)⟩
    · rintro ⟨hg, heq⟩
      refine ⟨fun _ => ⟨hg.1, hg.2.1, ?_⟩, fun h => absurd h hidle, hfits hg⟩
      simp only [ScorpiHv.shown, Console.setScanout, surfaceOf, hf]
      rw [heq]
      exact hshown

lemma FlagsOk.setScanout (h : FlagsOk sc) (s : Scanout) :
    FlagsOk { sc with console := sc.console.setScanout s } where
  surface := h.surface
  scanout := fun _ => rfl
  exclusive := h.exclusive
  fb := h.fb
  scanoutLog := rfl
  surfaceLog := h.surfaceLog

lemma FlagsOk.setLegacyScanout (h : FlagsOk sc)
    (hidle : sc.rendererScanoutActive = false ∨ sc.legacyFbBase) : FlagsOk sc.setLegacyScanout := by
  unfold DisplaySoftc.setLegacyScanout
  split_ifs with hbase
  · exact h.setScanout _
  have hoff : sc.rendererScanoutActive = false := hidle.resolve_right hbase
  refine ⟨h.surface, fun hon => ?_, h.exclusive, h.fb, rfl, h.surfaceLog⟩
  rw [hoff] at hon
  cases hon

lemma FlagsOk.unsetDisplaySurface (h : FlagsOk sc) : FlagsOk { sc with
      rendererSurfaceActive := false, console := sc.console.unsetDisplaySurface } where
  surface := rfl
  scanout := h.scanout
  exclusive := fun _ => rfl
  fb := h.fb
  scanoutLog := h.scanoutLog
  surfaceLog := rfl

lemma FlagsOk.clearScanout (h : FlagsOk sc) : FlagsOk { sc with rendererScanoutActive := false } where
  surface := h.surface
  scanout := fun hon => nomatch hon
  exclusive := fun hon => nomatch hon
  fb := h.fb
  scanoutLog := h.scanoutLog
  surfaceLog := h.surfaceLog

structure StepOk (s : DisplaySoftc) (a : DisplayAction) (t : DisplaySoftc) : Prop where
  flags : FlagsOk t
  sized : Sized s → (Sized t ↔ s.Good a)

variable {a : DisplayAction}

lemma StepOk.same (hs : FlagsOk s) (h : SameDisplay s t) (hgood : s.Good a) : StepOk s a t := by
  refine ⟨h.flags hs, fun hsized => ?_⟩
  rw [h.sized]
  exact ⟨fun _ => hgood, fun _ => hsized⟩

lemma SameDisplay.refl (hs : FlagsOk s) : SameDisplay s s :=
  ⟨rfl, rfl, rfl, hs.fb⟩

lemma Sized.clearScanout (h : Sized sc) : Sized { sc with rendererScanoutActive := false } :=
  ⟨h.sized, (nomatch ·), h.published⟩

lemma StepOk.scanout (hs : FlagsOk s) (m : ScanoutMsg) :
    StepOk s (.scanout m) (s.applyRendererScanout m) := by
  unfold applyRendererScanout
  split
  · rename_i hdis
    have hgood : s.Good (.scanout m) ↔ s.rendererSurfaceActive ∨ s.LegacyGood := by
      simp only [Good, if_pos hdis]
    by_cases hsurf : s.rendererSurfaceActive
    · rw [if_pos hsurf]
      refine ⟨hs.clearScanout, fun hsized => ?_⟩
      rw [hgood]
      exact ⟨fun _ => .inl hsurf, fun _ => hsized.clearScanout⟩
    · rw [if_neg hsurf]
      have hoff : s.rendererSurfaceActive = false := by simpa using hsurf
      refine ⟨hs.clearScanout.setLegacyScanout (.inl rfl), fun hsized => ?_⟩
      have hset : Sized { s with rendererScanoutActive := false }.setLegacyScanout ↔
          s.LegacyGood := setLegacyScanout_sized hs.fb rfl (hs.surface.trans hoff)
          (hs.surfaceOf_none hoff) hsized.published
      rw [hgood, hset]
      exact ⟨fun h => .inr h, fun h => h.resolve_left hsurf⟩
  · rename_i hdis
    have hgood : s.Good (.scanout m) ↔
        (s.driverOk ∧ m.shmName ≠ "" ∧ m.shmSize ≠ 0 → ScanoutGood (rendererScanout m)) := by
      simp only [Good, if_neg hdis]
    split
    · rename_i hok
      refine .same hs (.refl hs) (hgood.2 ?_)
      rintro ⟨h, _⟩
      rw [hok] at h
      cases h
    · rename_i hok
      split_ifs with hshm
      · refine .same hs (.refl hs) (hgood.2 ?_)
        rintro ⟨_, hname, hsize⟩
        exact absurd hshm (not_or.2 ⟨hname, hsize⟩)
      have hshm := not_or.1 hshm
      have hdriver : s.driverOk = true := by simpa using hok
      have hsize : (rendererScanout m).shmSize ≠ 0 := by
        intro h
        exact hshm.2 (UInt64.toNat_inj.1 h)
      constructor
      · exact ⟨rfl, fun _ => rfl, fun _ => rfl, hs.fb, rfl, rfl⟩
      intro hsized
      have hpub : LogFits s.console.unsetDisplaySurface.log := by
        intro s' hmem hne
        rcases mem_cons.1 hmem with heq | hold
        · cases heq
        · exact hsized.published s' hold hne
      rw [hgood]
      let off : DisplaySoftc := { s with
        rendererScanoutActive := true, rendererSurfaceActive := false
        console := s.console.unsetDisplaySurface }
      have hset : Sized { off with console := off.console.setScanout (rendererScanout m) } ↔
          ScanoutGood (rendererScanout m) := setScanout_sized hsize rfl (fun _ => rfl) hpub
      exact hset.trans ⟨fun h _ => h, fun h => h ⟨hdriver, hshm.1, hshm.2⟩⟩

lemma logFits_unset {log : List Notification} (h : LogFits log) :
    LogFits (.unsetDisplaySurface :: log) := by
  intro s hmem hne
  rcases mem_cons.1 hmem with heq | hold
  · cases heq
  · exact h s hold hne

lemma setDisplaySurface_sized (f : DisplaySurface) (hpub : LogFits s.console.log) : Sized { s with
        rendererSurfaceActive := true, rendererScanoutActive := false
        console := s.console.setDisplaySurface f } ↔ Mappable f.w ∧ Mappable f.h := by
  constructor
  · intro h
    have hactive : (s.console.setDisplaySurface f).isActive := by
      simp [Console.isActive, Console.setDisplaySurface]
    have hnew := h.sized hactive
    exact ⟨hnew.1, hnew.2.1⟩
  · rintro ⟨mw, mh⟩
    refine ⟨fun _ => ⟨mw, mh, rfl⟩, (nomatch ·), ?_⟩
    intro s' hmem hne
    rcases mem_cons.1 hmem with heq | hold
    · cases heq
    · exact hpub s' hold hne

lemma StepOk.displaySurface (hs : FlagsOk s) (m : DisplaySurfaceMsg) :
    StepOk s (.displaySurface m) (s.applyRendererDisplaySurface m) := by
  unfold applyRendererDisplaySurface
  split
  · rename_i hdis
    have hgood : s.Good (.displaySurface m) ↔ s.rendererScanoutActive = false ∧ s.LegacyGood := by
      simp only [Good, if_pos hdis]
    by_cases hscan : s.rendererScanoutActive
    · rw [if_pos hscan]
      refine ⟨hs.unsetDisplaySurface, fun _ => ?_⟩
      rw [hgood]
      constructor
      · -- the scanout is still active, and its dimensions are gone
        intro h
        have hactive : s.console.unsetDisplaySurface.isActive := by
          simp [Console.isActive, Console.unsetDisplaySurface, hs.scanout hscan]
        exact absurd (h.sized hactive).1.1 (Int.lt_irrefl 0)
      · rintro ⟨hoff, _⟩
        rw [hoff] at hscan
        cases hscan
    · rw [if_neg hscan]
      have hoff : s.rendererScanoutActive = false := by simpa using hscan
      refine ⟨hs.unsetDisplaySurface.setLegacyScanout (.inl hoff), fun hsized => ?_⟩
      have hset : Sized { s with
          rendererSurfaceActive := false
          console := s.console.unsetDisplaySurface }.setLegacyScanout ↔ s.LegacyGood :=
        setLegacyScanout_sized hs.fb hoff rfl rfl (logFits_unset hsized.published)
      rw [hgood, hset]
      exact ⟨fun h => ⟨hoff, h⟩, fun h => h.2⟩
  · rename_i hdis
    have hgood : s.Good (.displaySurface m) ↔
        (s.driverOk → Mappable (rendererSurface m).w ∧ Mappable (rendererSurface m).h) := by
      simp only [Good, if_neg hdis]
    split_ifs with hok
    · refine .same hs (.refl hs) (hgood.2 ?_)
      intro h
      rw [hok] at h
      cases h
    · have hdriver : s.driverOk = true := by simpa using hok
      refine ⟨⟨rfl, (nomatch ·), (nomatch ·), hs.fb, hs.scanoutLog, rfl⟩, fun hsized => ?_⟩
      rw [hgood, setDisplaySurface_sized (rendererSurface m) hsized.published]
      exact ⟨fun h _ => h, fun h => h hdriver⟩

lemma StepOk.reset (hs : FlagsOk s) : StepOk s .reset s.reset := by
  have hflags := hs.clearScanout.unsetDisplaySurface.setLegacyScanout (.inl rfl)
  have hsame (t : DisplaySoftc) (ht : FlagsOk t) : SameDisplay t { t with driverOk := false } :=
    ⟨rfl, rfl, rfl, ht.fb⟩
  refine ⟨(hsame _ hflags).flags hflags, fun hsized => ?_⟩
  have hset : Sized { s with
      rendererScanoutActive := false, rendererSurfaceActive := false
      console := s.console.unsetDisplaySurface }.setLegacyScanout ↔ s.LegacyGood :=
    setLegacyScanout_sized hs.fb rfl rfl rfl (logFits_unset hsized.published)
  exact (hsame _ hflags).sized.trans hset

lemma StepOk.publish (hs : FlagsOk s) (h : SameDisplay s t)
    (hgood : s.Good a ↔ (s.rendererScanoutActive = false → s.rendererSurfaceActive = false →
      t.LegacyGood)) : StepOk s a t.legacyCtrlPublish := by
  have ht := h.flags hs
  unfold legacyCtrlPublish
  split_ifs with hidle
  · refine ⟨ht.setLegacyScanout (.inl hidle.1), fun hsized => ?_⟩
    rw [setLegacyScanout_sized ht.fb hidle.1 (ht.surface.trans hidle.2)
      (ht.surfaceOf_none hidle.2) (h.sized.2 hsized).published, hgood]
    exact ⟨fun hlegacy _ _ => hlegacy, fun hlegacy => hlegacy (h.scanout ▸ hidle.1) (h.surface ▸ hidle.2)⟩
  · refine .same hs h (hgood.2 ?_)
    intro hscan hsurf
    exact absurd ⟨h.scanout.trans hscan, h.surface.trans hsurf⟩ hidle

lemma StepOk.legacyCtrl (hs : FlagsOk s) (offset size : Nat) (value : UInt64) :
    StepOk s (.legacyCtrl offset size value) (s.legacyCtrlWrite offset size value) := by
  unfold legacyCtrlWrite
  split
  · rename_i hout
    refine .same hs (.refl hs) ?_
    intro _ _ hin
    exact absurd hin (Nat.not_le.2 hout)
  · rename_i hout
    have hin := Nat.not_lt.1 hout
    split
    · rename_i hx
      refine .publish hs ⟨rfl, rfl, rfl, hs.fb⟩ ?_
      subst hx
      constructor
      · intro h hscan hsurf
        exact (h hscan hsurf hin).1 rfl
      · intro h hscan hsurf _
        exact ⟨fun _ => h hscan hsurf, fun h6 => absurd h6 (by decide)⟩
    · rename_i hx
      split_ifs with hy
      · refine .publish hs ⟨rfl, rfl, rfl, hs.fb⟩ ?_
        subst hy
        constructor
        · intro h hscan hsurf
          exact (h hscan hsurf hin).2 rfl
        · intro h hscan hsurf _
          exact ⟨fun h4 => absurd h4 (by decide), fun _ => h hscan hsurf⟩
      · refine .same hs (.refl hs) ?_
        intro _ _ _
        exact ⟨fun h => absurd h hx, fun h => absurd h hy⟩

/-- `t` has the display and the frame buffer's resolution of `s`. -/
structure SameScreen (s t : DisplaySoftc) : Prop extends SameDisplay s t where
  resx : t.resx = s.resx
  resy : t.resy = s.resy

lemma SameScreen.trans {u : DisplaySoftc} (h : SameScreen s t) (h' : SameScreen t u) : SameScreen s u where
  scanout := h'.scanout.trans h.scanout
  surface := h'.surface.trans h.surface
  console := h'.console.trans h.console
  fb := h'.fb
  resx := h'.resx.trans h.resx
  resy := h'.resy.trans h.resy

lemma SameScreen.legacyGood (h : SameScreen s t) (hbase : t.legacyFbBase) : ScanoutGood t.legacyScanout ↔
    ScanoutGood { s.legacyScanout with shmSize := VHOST_LEGACY_FB_SIZE } := by
  have hsize := h.fb hbase
  simp only [ScanoutGood, Scanout.Fits, legacyScanout, legacyStride, h.resx, h.resy, hsize]

lemma unmapLegacyFb_same (hs : FlagsOk s) :
    SameScreen s s.unmapLegacyFb ∧ s.unmapLegacyFb.legacyFbBase = s.legacyFbBase := by
  unfold unmapLegacyFb
  split <;> exact ⟨⟨⟨rfl, rfl, rfl, hs.fb⟩, rfl, rfl⟩, rfl⟩

lemma destroyLegacyFb_same (s : DisplaySoftc) : SameScreen s s.destroyLegacyFb := by
  unfold destroyLegacyFb unmapLegacyFb
  split <;> exact ⟨⟨rfl, rfl, rfl, (nomatch ·)⟩, rfl, rfl⟩

lemma createLegacyFb_same (hs : FlagsOk s) (host : BarHost) : SameScreen s (s.createLegacyFb host).1 ∧
    ((s.createLegacyFb host).2 ↔ s.legacyFbBase ∨ (host.shmOpens ∧ host.shmMaps)) ∧
    ((s.createLegacyFb host).2 → (s.createLegacyFb host).1.legacyFbBase) := by
  unfold createLegacyFb
  split
  · rename_i hbase
    exact ⟨⟨.refl hs, rfl, rfl⟩, ⟨fun _ => .inl hbase, fun _ => rfl⟩, fun _ => hbase⟩
  rename_i hbase
  cases hopen : host.shmOpens with
  | false => exact ⟨⟨⟨rfl, rfl, rfl, hs.fb⟩, rfl, rfl⟩, by simp [hbase], (nomatch ·)⟩
  | true =>
    cases hmap : host.shmMaps with
    | false =>
      have hsame := destroyLegacyFb_same { s with
        legacyFbShmName := host.shmName, legacyFbSize := VHOST_LEGACY_FB_SIZE }
      exact ⟨⟨⟨hsame.scanout, hsame.surface, hsame.console, hsame.fb⟩, hsame.resx, hsame.resy⟩,
        by simp [hbase], (nomatch ·)⟩
    | true => exact ⟨⟨⟨rfl, rfl, rfl, fun _ => rfl⟩, rfl, rfl⟩, by simp, fun _ => rfl⟩

lemma mapLegacyFb_same (hs : FlagsOk s) (host : BarHost) (address : UInt64) :
    SameScreen s (s.mapLegacyFb host address) ∧
      (s.mapLegacyFb host address).legacyFbBase = s.legacyFbBase := by
  unfold mapLegacyFb
  split <;> exact ⟨⟨⟨rfl, rfl, rfl, hs.fb⟩, rfl, rfl⟩, rfl⟩

inductive BarCase (s : DisplaySoftc) (publishes : Prop) (t : DisplaySoftc) : Prop where
  | quiet : ¬ publishes → SameScreen s t → BarCase s publishes t
  | publish {u : DisplaySoftc} : publishes → SameScreen s u → u.legacyFbBase →
      t = u.setLegacyScanout → BarCase s publishes t

lemma baraddr_cases (hs : FlagsOk s) (host : BarHost) (baridx : Int) (enabled : Bool) (address : UInt64) :
    BarCase s (s.BarPublishes host baridx enabled) (s.baraddr host baridx enabled address) := by
  unfold baraddr
  by_cases hbar : baridx = VHOST_LEGACY_FB_BAR
  · rw [if_neg (not_not.2 hbar)]
    cases enabled with
    | false =>
      rw [if_pos rfl]
      refine .quiet (fun h => nomatch h.2.1) ?_
      split
      · exact (unmapLegacyFb_same hs).1
      · exact ⟨.refl hs, rfl, rfl⟩
    | true =>
      dsimp only
      -- the old mapping may go first; nothing that is published changes with it
      generalize hmoved : (if s.legacyFbDirectMapped ∧ s.legacyFbDirectGpa ≠ address then
        s.unmapLegacyFb else s) = u
      have hu : SameScreen s u ∧ u.legacyFbBase = s.legacyFbBase := by
        rw [← hmoved]
        split
        · exact unmapLegacyFb_same hs
        · exact ⟨⟨.refl hs, rfl, rfl⟩, rfl⟩
      have hflags := hu.1.flags hs
      obtain ⟨hsame, hiff, hbase⟩ := createLegacyFb_same hflags host
      rw [hu.2] at hiff
      generalize u.createLegacyFb host = created at hsame hiff hbase ⊢
      obtain ⟨v, ok⟩ := created
      have hv := hu.1.trans hsame
      cases ok with
      | false =>
        refine .quiet (fun h => ?_) hv
        cases hiff.2 h.2.2
      | true =>
        obtain ⟨hmap, hkeep⟩ := mapLegacyFb_same (hv.flags hs) host address
        exact .publish ⟨hbar, rfl, hiff.1 rfl⟩ (hv.trans hmap) (hkeep.trans (hbase rfl)) rfl
  · rw [if_pos hbar]
    exact .quiet (fun h => hbar h.1) ⟨.refl hs, rfl, rfl⟩

lemma StepOk.baraddr (hs : FlagsOk s) (host : BarHost) (baridx : Int) (enabled : Bool) (address : UInt64) :
    StepOk s (.baraddr host baridx enabled address) (s.baraddr host baridx enabled address) := by
  cases baraddr_cases hs host baridx enabled address with
  | quiet hno hsame => exact .same hs hsame.toSameDisplay (fun h => absurd h hno)
  | @publish u hpub hsame hbase heq =>
    have hu := hsame.flags hs
    have hlegacy := hsame.legacyGood hbase
    have hdims : (u.legacyScanout.w, u.legacyScanout.h) =
        (s.legacyScanout.w, s.legacyScanout.h) := by
      simp only [legacyScanout, hsame.resx, hsame.resy]
    have hsize : u.legacyScanout.shmSize ≠ 0 := by
      have hne : VHOST_LEGACY_FB_SIZE ≠ 0 := by decide
      rw [← hsame.fb hbase] at hne
      exact hne
    rw [heq]
    refine ⟨hu.setLegacyScanout (.inr hbase), fun hsized => ?_⟩
    have husized := hsame.sized.2 hsized
    have hgood : s.Good (.baraddr host baridx enabled address) ↔
        ScanoutGood u.legacyScanout ∧ (u.rendererScanoutActive ∨ u.rendererSurfaceActive →
          (u.legacyScanout.w, u.legacyScanout.h) = (u.console.w, u.console.h)) := by
      rw [hlegacy, hdims, hsame.console, hsame.scanout, hsame.surface]
      exact ⟨fun h => h hpub, fun h _ => h⟩
    rw [hgood, DisplaySoftc.setLegacyScanout, if_pos hbase]
    by_cases hactive : (u.rendererScanoutActive : Prop) ∨ (u.rendererSurfaceActive : Prop)
    · rw [setScanout_over hu husized hsize rfl hactive]
      exact ⟨fun h => ⟨h.1, fun _ => h.2⟩, fun h => ⟨h.1, h.2 hactive⟩⟩
    have hoff := not_or.1 hactive
    have hsurf : u.rendererSurfaceActive = false := by simpa using hoff.2
    rw [setScanout_sized hsize (hu.surfaceOf_none hsurf) (fun h => absurd h hoff.1) husized.published]
    exact ⟨fun h => ⟨h, fun hact => absurd hact hactive⟩, fun h => h.1⟩

lemma stepOk (hs : FlagsOk s) (a : DisplayAction) : StepOk s a (s.act a) := by
  cases a with
  | scanout m => exact .scanout hs m
  | displaySurface m => exact .displaySurface hs m
  | legacyCtrl offset size value => exact .legacyCtrl hs offset size value
  | baraddr host baridx enabled address => exact .baraddr hs host baridx enabled address
  | reset => exact .reset hs
  | driverOk => exact .same hs ⟨rfl, rfl, rfl, hs.fb⟩ trivial
  | resize =>
    refine .same hs ?_ trivial
    unfold act resizeEvent
    dsimp only
    split <;> exact ⟨rfl, rfl, rfl, hs.fb⟩
  | pointer => exact .same hs (.refl hs) trivial

end DisplaySoftc

namespace Desktop
open DisplaySoftc (FlagsOk Sized Usable)

def Step (d : Desktop) (a : DisplayAction) (d' : Desktop) : Prop := d.act a = .ok d'

def GoodStep (d : Desktop) (a : DisplayAction) (d' : Desktop) : Prop := Step d a d' ∧ d.gpu.Good a

variable {d d' : Desktop}

lemma Step.gpu {a : DisplayAction} (h : Step d a d') : d'.gpu = d.gpu.act a := by
  unfold Step act at h
  cases a with
  | pointer button x y delta =>
    dsimp only at h
    cases hm : d.mouse.umouseScrollEvent d.gpu.console.scanoutSize button x y delta with
    | error =>
      rw [hm] at h
      cases h
    | ok =>
      rw [hm] at h
      cases h
      rfl
  | _ =>
    cases h
    rfl

lemma Step.flags {a : DisplayAction} (hs : FlagsOk d.gpu) (h : Step d a d') : FlagsOk d'.gpu := by
  rw [h.gpu]
  exact (DisplaySoftc.stepOk hs a).flags

lemma init_flags (resx resy : UInt32) : FlagsOk (init resx resy).gpu :=
  ⟨rfl, (nomatch ·), (nomatch ·), (nomatch ·), rfl, rfl⟩

variable {as : List DisplayAction}

lemma flags_run (hs : FlagsOk d.gpu) (h : Trace Step d as d') : FlagsOk d'.gpu := by
  have keep : ∀ s a t, FlagsOk s.gpu → True → Step s a t → FlagsOk t.gpu :=
    fun _ _ _ hs _ hst => hst.flags hs
  have hrun := h.invariant (fun _ => True) keep (fun _ _ => trivial)
  exact hrun hs

lemma sized_run (hs : FlagsOk d.gpu ∧ Sized d.gpu) (h : Trace GoodStep d as d') :
    FlagsOk d'.gpu ∧ Sized d'.gpu := by
  have keep : ∀ s a t, FlagsOk s.gpu ∧ Sized s.gpu → True → GoodStep s a t →
      FlagsOk t.gpu ∧ Sized t.gpu := by
    rintro s a t ⟨hflags, hsized⟩ _ ⟨hstep, hgood⟩
    refine ⟨hstep.flags hflags, ?_⟩
    rw [hstep.gpu]
    exact ((DisplaySoftc.stepOk hflags a).sized hsized).2 hgood
  have hrun := h.invariant (fun _ => True) keep (fun _ _ => trivial)
  exact hrun hs

/-- No run makes two renderer sources active. From each state reached along steps that meet the
condition, one more step keeps the display usable exactly if it meets it. -/
theorem display_usable_iff (resx resy : UInt32) : (∀ as d, Trace Step (init resx resy) as d →
      ¬ (d.gpu.rendererScanoutActive ∧ d.gpu.rendererSurfaceActive)) ∧
    ∀ as d, Trace GoodStep (init resx resy) as d →
      Usable d.gpu ∧ ∀ a d', Step d a d' → (Usable d'.gpu ↔ d.gpu.Good a) := by
  constructor
  · rintro as d h ⟨hscanout, hsurface⟩
    have hflags := flags_run (init_flags resx resy) h
    rw [hflags.exclusive hscanout] at hsurface
    cases hsurface
  · intro as d h
    obtain ⟨hflags, hsized⟩ := sized_run
      ⟨init_flags resx resy, (nomatch ·), (nomatch ·), fun _ h => nomatch h⟩ h
    refine ⟨(DisplaySoftc.usable_iff hflags).2 hsized, ?_⟩
    intro a d' hstep
    rw [DisplaySoftc.usable_iff (hstep.flags hflags), hstep.gpu]
    exact (DisplaySoftc.stepOk hflags a).sized hsized

def run (d : Desktop) : List DisplayAction → Except Usb.Trap Desktop
  | [] => .ok d
  | a :: as => do
    let d ← d.act a
    d.run as

def enableFb : DisplayAction :=
  .baraddr ⟨true, "/fb", true, true, true, true⟩ VHOST_LEGACY_FB_BAR true 0x80000000

def showScanout (stride : UInt32) : DisplayAction :=
  .scanout ⟨1, 640, 480, stride, 0, 1228800, "/scanout"⟩

instance (size : Int) : Decidable (Mappable size) := inferInstanceAs (Decidable (_ ∧ _))
instance (s : Scanout) : Decidable (Scanout.Fits s) := inferInstanceAs (Decidable (_ ∧ _))
instance (s : Scanout) : Decidable (DisplaySoftc.ScanoutGood s) :=
  inferInstanceAs (Decidable (_ ∧ _ ∧ _))

lemma enableFb_good : (init 1024 768).gpu.Good enableFb := by
  intro _
  refine ⟨by decide +kernel, ?_⟩
  rintro (h | h) <;> cases h

theorem display_usable_iff_firmware :
    let d : Desktop := { init 1024 768 with gpu := (init 1024 768).gpu.act enableFb }
    Trace GoodStep (init 1024 768) [enableFb] d ∧ d.gpu.console.isActive = true ∧
      Usable d.gpu := by
  intro d
  have h : Trace GoodStep (init 1024 768) [enableFb] d := .single ⟨rfl, enableFb_good⟩
  exact ⟨h, by decide +kernel, ((display_usable_iff 1024 768).2 _ _ h).1⟩

/-- A width of 0 makes a pointer event divide by it. A surface disabled while a scanout is shown
leaves a console of size 0 by 0. A BAR that moves publishes the frame buffer's size over the
scanout's. A stride is not checked. -/
theorem display_unusable :
    ((init 1024 768).run [enableFb, .legacyCtrl 4 2 0, .pointer 0 5 5 0]).map (fun _ => ()) =
        .error .divideByZero ∧
      ((init 1024 768).run [enableFb, .driverOk true, showScanout 2560,
          .displaySurface ⟨0, 0, 0, 0, 0, 0, 0, 0, 0⟩]).map
        (fun d => (d.gpu.console.isActive, d.gpu.console.w, d.gpu.console.h)) =
          .ok (true, 0, 0) ∧
      ((init 1024 768).run [enableFb, .driverOk true, showScanout 2560, enableFb]).map
        (fun d => (d.gpu.rendererScanoutActive, d.gpu.console.w, d.gpu.console.h)) =
          .ok (true, 1024, 768) ∧
      ((init 1024 768).run [enableFb, .driverOk true, showScanout 1]).map
        (fun d => (scanoutOf d.gpu.console.log).map fun s => (s.w, s.stride)) =
          .ok (some (640, 1)) := by
  refine ⟨?_, ?_, ?_, ?_⟩ <;> decide +kernel

end Desktop

end ScorpiHv.Vhost

import ScorpiHv.Lib.Bytes

/-!
# Records of fields at fixed offsets

A page is written field by field over zeros. Fields that do not overlap can be
read back one by one.
-/

namespace ScorpiHv.Bytes
open List

abbrev Field := Nat × List UInt8

def writeFields (fs : List Field) : Store := fs.foldl (fun m f => put m f.1 f.2) blank

def Field.Apart (f g : Field) : Prop := f.1 + f.2.length ≤ g.1 ∨ g.1 + g.2.length ≤ f.1

variable {fs : List Field}

lemma apart_of_chain (h : fs.IsChain fun f g => f.1 + f.2.length ≤ g.1) : fs.Pairwise Field.Apart := by
  have htrans : IsTrans Field fun f g => f.1 + f.2.length ≤ g.1 := ⟨fun _ _ _ _ _ => by omega⟩
  exact h.pairwise.imp Or.inl

lemma foldl_put_outside {fs : List Field} {i : Nat} (h : ∀ f ∈ fs, i < f.1 ∨ f.1 + f.2.length ≤ i)
    (m : Store) : fs.foldl (fun m f => put m f.1 f.2) m i = m i := by
  induction fs generalizing m with
  | nil => rfl
  | cons f fs ih =>
    rw [foldl_cons, ih (fun g hg => h g (mem_cons_of_mem f hg)), put_outside (h f mem_cons_self)]

lemma foldl_put_get {fs : List Field} (hd : fs.Pairwise Field.Apart) {f : Field} (hf : f ∈ fs)
    (m : Store) : get (fs.foldl (fun m f => put m f.1 f.2) m) f.1 f.2.length = f.2 := by
  induction fs generalizing m with
  | nil => cases hf
  | cons g fs ih =>
    obtain ⟨hg, hd⟩ := pairwise_cons.mp hd
    rw [foldl_cons]
    rcases mem_cons.mp hf with rfl | hf
    · refine Eq.trans (get_congr fun i hge hlt => foldl_put_outside (fun g' hg' => ?_) _)
        (get_put_same m f.1 f.2)
      have hap := hg g' hg'
      simp only [Field.Apart] at hap
      omega
    · exact ih hd hf _

lemma get_writeFields (hd : fs.Pairwise Field.Apart) {off : Nat}
    {bs : List UInt8} (hf : (off, bs) ∈ fs) : get (writeFields fs) off bs.length = bs :=
  foldl_put_get hd hf blank

lemma writeFields_outside {i : Nat} (h : ∀ f ∈ fs, i < f.1 ∨ f.1 + f.2.length ≤ i) : writeFields fs i = 0 :=
  foldl_put_outside h blank

lemma get_writeFields_zero {off len : Nat} (h : ∀ f ∈ fs, f.1 + f.2.length ≤ off ∨ off + len ≤ f.1) :
    get (writeFields fs) off len = List.replicate len 0 := by
  rw [← get_replicate_zero len]
  refine map_congr_left fun i hi => ?_
  have hlt := mem_range.mp hi
  rw [writeFields_outside fun f hf => ?_]
  · rfl
  · have := h f hf
    omega

lemma writeFields_at (hd : fs.Pairwise Field.Apart) {f : Field} (hf : f ∈ fs)
    {i : Nat} (hi : i < f.2.length) : writeFields fs (f.1 + i) = f.2.getD i 0 := by
  have hget : get (writeFields fs) f.1 f.2.length = f.2 := get_writeFields hd hf
  have hat : (get (writeFields fs) f.1 f.2.length).getD i 0 = writeFields fs (f.1 + i) := get_getD hi
  rw [← hat, hget]

lemma writeFields_filter (hd : fs.Pairwise Field.Apart) (p : Field → Bool)
    (h : ∀ f ∈ fs, p f = false → ∀ i, f.2.getD i 0 = 0) : writeFields (fs.filter p) = writeFields fs := by
  have hsub : (fs.filter p).Pairwise Field.Apart := hd.filter p
  funext i
  by_cases hin : ∃ f ∈ fs, f.1 ≤ i ∧ i < f.1 + f.2.length
  · obtain ⟨f, hf, hge, hlt⟩ := hin
    obtain ⟨j, rfl⟩ := Nat.exists_eq_add_of_le hge
    rw [writeFields_at hd hf (by omega)]
    cases hp : p f with
    | true => exact writeFields_at hsub (mem_filter.mpr ⟨hf, hp⟩) (by omega)
    | false =>
      rw [h f hf hp j]
      refine writeFields_outside fun g hg => ?_
      obtain ⟨hgf, hpg⟩ := mem_filter.mp hg
      have hne : g ≠ f := by
        rintro rfl
        rw [hp] at hpg
        cases hpg
      have hsymm : Std.Symm Field.Apart := ⟨fun _ _ => Or.symm⟩
      have hap : Field.Apart g f := hd.forall hgf hf hne
      simp only [Field.Apart] at hap
      omega
  · have hout : ∀ f ∈ fs, i < f.1 ∨ f.1 + f.2.length ≤ i := by
      intro f hf
      by_contra hcon
      exact hin ⟨f, hf, by omega, by omega⟩
    rw [writeFields_outside hout, writeFields_outside fun f hf => hout f (mem_filter.mp hf).1]

lemma put_zero {m : Store} {off n : Nat} (h : ∀ i, off ≤ i → i < off + n → m i = 0) :
    put m off (List.replicate n 0) = m := by
  funext i
  by_cases hi : off ≤ i ∧ i < off + n
  · obtain ⟨j, rfl⟩ := Nat.exists_eq_add_of_le hi.1
    rw [put_inside (by rw [length_replicate]; omega), h _ hi.1 hi.2]
    rw [getD_eq_getElem?_getD, List.getElem?_replicate, if_pos (by omega)]
    rfl
  · exact put_outside (by rw [length_replicate]; omega)

lemma zeros_getD (n i : Nat) : (List.replicate n (0 : UInt8)).getD i 0 = 0 := by
  rw [getD_eq_getElem?_getD, List.getElem?_replicate]
  split <;> rfl

lemma leEnc_zero (n : Nat) : leEnc n 0 = List.replicate n 0 := by
  induction n with
  | zero => rfl
  | succ n ih =>
    rw [leEnc, replicate_succ, Nat.zero_div, ih]
    rfl

lemma leEnc_zero_getD (n i : Nat) : (leEnc n 0).getD i 0 = 0 := by
  rw [leEnc_zero]
  exact zeros_getD n i

end ScorpiHv.Bytes

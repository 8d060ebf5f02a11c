import Mathlib

/-!
# Byte stores and fixed-width integers

A store maps every position to a byte. Buffers, pages and files are stores read over
a finite range.
-/

namespace ScorpiHv.Bytes
open List

abbrev Store := Nat → UInt8

def blank : Store := fun _ => 0

def put (m : Store) (off : Nat) (bs : List UInt8) : Store :=
  fun i => if off ≤ i ∧ i < off + bs.length then bs.getD (i - off) 0 else m i

def get (m : Store) (off len : Nat) : List UInt8 :=
  (List.range len).map fun i => m (off + i)

def shift (m : Store) (off : Nat) : Store := fun i => m (off + i)

variable {bs : List UInt8} {i off : Nat} {m : Store}

lemma put_inside (hi : i < bs.length) : put m off bs (off + i) = bs.getD i 0 := by simp [put, hi]

lemma put_at (hge : off ≤ i) (hlt : i < off + bs.length) : put m off bs i = bs.getD (i - off) 0 := by
  simp [put, hge, hlt]

lemma put_outside (hi : i < off ∨ off + bs.length ≤ i) : put m off bs i = m i := by
  simp only [put]
  rw [if_neg (by omega)]

@[simp] lemma put_nil (m : Store) (off : Nat) : put m off [] = m := by
  funext i
  exact put_outside (by simp; omega)

@[simp] lemma get_length (m : Store) (off len : Nat) : (get m off len).length = len := by simp [get]

lemma get_replicate_zero (n : Nat) : get blank 0 n = List.replicate n 0 := by simp [get, blank]

variable {len : Nat}

lemma get_getElem? (hi : i < len) : (get m off len)[i]? = some (m (off + i)) := by simp [get, hi]

lemma get_getD (hi : i < len) : (get m off len).getD i 0 = m (off + i) := by
  rw [getD_eq_getElem?_getD, get_getElem? hi, Option.getD_some]

variable {m' : Store}

lemma get_congr (h : ∀ i, off ≤ i → i < off + len → m i = m' i) : get m off len = get m' off len := by
  apply map_congr_left
  intro i hi
  exact h _ (Nat.le_add_right _ _) (by simpa using hi)

variable {off' : Nat}

lemma get_inj (h : get m off len = get m' off' len) (hi : i < len) : m (off + i) = m' (off' + i) := by
  have hm : (get m off len).getD i 0 = m (off + i) := get_getD hi
  rw [h, get_getD hi] at hm
  exact hm.symm

lemma get_shift (m : Store) (base off len : Nat) : get (shift m base) off len = get m (base + off) len := by
  simp [get, shift, Nat.add_assoc]

lemma get_append (m : Store) (off a b : Nat) : get m off (a + b) = get m off a ++ get m (off + a) b := by
  simp [get, range_add, Nat.add_assoc]

lemma get_take (m : Store) (off len k : Nat) : (get m off len).take k = get m off (min k len) := by
  simp [get, ← map_take, take_range]

lemma get_put_same (m : Store) (off : Nat) (bs : List UInt8) : get (put m off bs) off bs.length = bs := by
  apply ext_getElem?
  intro i
  by_cases hi : i < bs.length
  · rw [get_getElem? hi, put_inside hi]
    simp [getD_eq_getElem?_getD, hi]
  · simp [hi]

lemma get_put_disjoint (h : off' + len ≤ off ∨ off + bs.length ≤ off') :
    get (put m off bs) off' len = get m off' len :=
  get_congr fun i hi hi' => put_outside (by omega)

lemma put_put_same {as : List UInt8} (h : as.length = bs.length) :
    put (put m off as) off bs = put m off bs := by
  funext i
  by_cases hi : off ≤ i ∧ i < off + bs.length
  · obtain ⟨j, rfl⟩ := Nat.exists_eq_add_of_le hi.1
    rw [put_inside (by omega), put_inside (by omega)]
  · rw [put_outside (by omega), put_outside (by omega), put_outside (by omega)]

lemma put_append (m : Store) (off : Nat) (as bs : List UInt8) :
    put (put m off as) (off + as.length) bs = put m off (as ++ bs) := by
  funext i
  simp only [put, length_append]
  by_cases has : i < off + as.length
  · rw [if_neg (by omega)]
    by_cases hge : off ≤ i
    · rw [if_pos ⟨hge, has⟩, if_pos ⟨hge, by omega⟩, getD_append _ _ _ _ (by omega)]
    · rw [if_neg (by omega), if_neg (by omega)]
  · by_cases hlt : i < off + as.length + bs.length
    · rw [if_pos ⟨by omega, hlt⟩, if_pos ⟨by omega, by omega⟩,
        getD_append_right _ _ _ _ (by omega), Nat.sub_sub]
    · rw [if_neg (by omega), if_neg (by omega), if_neg (by omega)]

/-- Little-endian encoding of the low `n` bytes of a number. -/
def leEnc : Nat → Nat → List UInt8
  | 0, _ => []
  | n + 1, v => UInt8.ofNat (v % 256) :: leEnc n (v / 256)

def leDec : List UInt8 → Nat
  | [] => 0
  | b :: bs => b.toNat + 256 * leDec bs

/-- Big-endian decoding, as the image formats of other vendors store integers. -/
def beDec (bs : List UInt8) : Nat := leDec bs.reverse

@[simp] lemma leEnc_length (n v : Nat) : (leEnc n v).length = n := by
  induction n generalizing v with
  | zero => rfl
  | succ n ih => simp [leEnc, ih]

lemma leDec_leEnc {n v : Nat} (h : v < 256 ^ n) : leDec (leEnc n v) = v := by
  induction n generalizing v with
  | zero => simp only [Nat.pow_zero] at h; simp [leEnc, leDec]; omega
  | succ n ih =>
    have hv : v / 256 < 256 ^ n := by
      rw [Nat.div_lt_iff_lt_mul (by decide)]
      rwa [Nat.pow_succ] at h
    simp only [leEnc, leDec, ih hv, UInt8.toNat_ofNat']
    omega

lemma leDec_lt (bs : List UInt8) : leDec bs < 256 ^ bs.length := by
  induction bs with
  | nil => simp [leDec]
  | cons b =>
    have hb := b.toNat_lt
    simp only [leDec, length_cons, Nat.pow_succ]
    omega

lemma leDec_get_lt (m : Store) (off n : Nat) : leDec (get m off n) < 256 ^ n := by
  simpa using leDec_lt (get m off n)

lemma leDec_replicate_zero (n : Nat) : leDec (List.replicate n 0) = 0 := by
  induction n with
  | zero => rfl
  | succ n ih => simp [replicate_succ, leDec, ih]

end ScorpiHv.Bytes

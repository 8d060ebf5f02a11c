import ScorpiHv.Sco.Format

/-!
# CRC-32C on hosts with an instruction for it

`scorpi_crc32c.c`: the loops cut the input into words of eight, four, two bytes or one. An
instruction takes the bytes of its word lowest first.
-/

namespace ScorpiHv
open Bytes List

/-- `__crc32cd`, `_mm_crc32_u32` and their like, on a word of `n` bytes. -/
def crcWord (n : Nat) (crc : UInt32) (word : Nat) : UInt32 := (leEnc n word).foldl crcByte crc

/-- The bytes left and the register. -/
abbrev CrcState := List UInt8 × UInt32

/-- One word: the body of the loops and of the tests after them. -/
def crcNext (n : Nat) (s : CrcState) : CrcState :=
  (s.1.drop n, crcWord n s.2 (leDec (s.1.take n)))

def crcIf (n : Nat) (s : CrcState) : CrcState := if n ≤ s.1.length then crcNext n s else s

def crcWhile (n : Nat) (s : CrcState) : CrcState :=
  if _h : 0 < n ∧ n ≤ s.1.length then crcWhile n (crcNext n s) else s
termination_by s.1.length
decreasing_by simp only [crcNext, length_drop]; omega

def crc32cArm64 (bs : List UInt8) : Nat :=
  (~~~ (crcIf 1 (crcIf 2 (crcIf 4 (crcWhile 8 (bs, 0xffffffff))))).2).toNat

def crc32cSse42 (x86_64 : Bool) (bs : List UInt8) : Nat :=
  let s := if x86_64 then crcWhile 8 (bs, 0xffffffff) else (bs, 0xffffffff)
  (~~~ (crcWhile 1 (crcWhile 4 s)).2).toNat

lemma leEnc_leDec (bs : List UInt8) : leEnc bs.length (leDec bs) = bs := by
  induction bs with
  | nil => rfl
  | cons b bs ih =>
    have hlow : (b.toNat + 256 * leDec bs) % 256 = b.toNat := by
      have := b.toNat_lt
      omega
    have hhigh : (b.toNat + 256 * leDec bs) / 256 = leDec bs := by
      have := b.toNat_lt
      omega
    rw [length_cons, leDec, leEnc, hlow, hhigh, ih, UInt8.ofNat_toNat]

/-- The register once the bytes left are taken one by one. -/
def CrcState.ends (s : CrcState) : UInt32 := s.1.foldl crcByte s.2

variable {n : Nat} {s : CrcState}

lemma ends_crcNext (h : n ≤ s.1.length) : (crcNext n s).ends = s.ends := by
  have hword := leEnc_leDec (s.1.take n)
  rw [length_take, Nat.min_eq_left h] at hword
  rw [CrcState.ends, crcNext, crcWord, hword, ← foldl_append, take_append_drop, CrcState.ends]

lemma ends_crcIf : (crcIf n s).ends = s.ends := by
  unfold crcIf
  split
  · exact ends_crcNext ‹_›
  · rfl

lemma ends_crcWhile : (crcWhile n s).ends = s.ends := by
  fun_induction crcWhile n s with
  | case1 s h ih => rw [ih, ends_crcNext h.2]
  | case2 => rfl

lemma crcIf_short (h : s.1.length < 2 * n) : (crcIf n s).1.length < n := by
  unfold crcIf
  split
  · rw [crcNext, length_drop]
    omega
  · omega

lemma crcWhile_short (hn : 0 < n) : (crcWhile n s).1.length < n := by
  fun_induction crcWhile n s with
  | case1 s h ih => exact ih
  | case2 s h => omega

lemma CrcState.ends_of_short (h : s.1.length < 1) : s.ends = s.2 := by
  rw [ends, eq_nil_of_length_eq_zero (Nat.lt_one_iff.mp h), foldl_nil]

lemma crc32cArm64_eq (bs : List UInt8) : crc32cArm64 bs = crc32c bs := by
  -- At most seven bytes follow the words of eight, so one word of each smaller size takes them.
  have h8 : (crcWhile 8 (bs, 0xffffffff)).1.length < 2 * 4 := crcWhile_short (by decide)
  have h1 := crcIf_short (n := 1) (crcIf_short (n := 2) (crcIf_short h8))
  rw [crc32cArm64, ← CrcState.ends_of_short h1, ends_crcIf, ends_crcIf, ends_crcIf, ends_crcWhile]
  rfl

lemma crc32cSse42_eq (x86_64 : Bool) (bs : List UInt8) : crc32cSse42 x86_64 bs = crc32c bs := by
  rw [crc32cSse42, ← CrcState.ends_of_short (crcWhile_short Nat.one_pos), ends_crcWhile, ends_crcWhile]
  cases x86_64 with
  | false => rfl
  | true =>
    rw [if_pos rfl, ends_crcWhile]
    rfl

/-- Every host computes one checksum, which goes on from the register after a first part. -/
theorem crc32c_hosts_agree (bs tail : List UInt8) :
    crc32cArm64 bs = crc32c bs ∧ (∀ x86_64, crc32cSse42 x86_64 bs = crc32c bs) ∧
      crc32c (bs ++ tail) = (~~~ tail.foldl crcByte (bs.foldl crcByte 0xffffffff)).toNat := by
  refine ⟨crc32cArm64_eq bs, fun x86_64 => crc32cSse42_eq x86_64 bs, ?_⟩
  rw [crc32c, foldl_append]

end ScorpiHv

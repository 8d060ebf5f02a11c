import ScorpiHv.Virtio.Getchain

/-!
# Scatter-gather vectors

`iov.c`: vectors of memory as the bytes they hold. Each helper is a list operation on
those bytes, however they are split.
-/

namespace ScorpiHv
open Function Bytes List
open Virtio (Iovec)

def gather (m : Store) (iov : List Iovec) : List UInt8 := iov.flatMap fun v => get m v.base v.len

def addrs (iov : List Iovec) : List Nat := iov.flatMap fun v => List.range' v.base v.len

/-- Bytes stored along the vectors, as `buf_to_iov` and a vectored read do. -/
def scatter (m : Store) (iov : List Iovec) (bs : List UInt8) : Store :=
  ((addrs iov).zip bs).foldl (fun m p => update m p.1 p.2) m

def countIov (iov : List Iovec) : Nat := (iov.map (·.len)).sum

def iovTrim : List Iovec → Nat → List Iovec
  | [], _ => []
  | v :: vs, n =>
    if n = 0 then v :: vs
    else if v.len ≤ n then iovTrim vs (n - v.len)
    else ⟨v.base + n, v.len - n⟩ :: vs

/-- The first loop of `iov_copy` and `make_iov`: the entries from the one that holds a position on,
and the position in that entry. -/
def iovStart : List Iovec → Nat → List Iovec × Nat
  | [], remaining => ([], remaining)
  | v :: vs, remaining =>
    if v.len ≤ remaining then iovStart vs (remaining - v.len) else (v :: vs, remaining)

/-- The second loop of `make_iov`: the entries of `iov2` and `total_copied`. -/
def makeLoop : List Iovec → Nat → Nat → List Iovec × Nat
  | [], _, _ => ([], 0)
  | v :: vs, skip, len =>
    if len = 0 then ([], 0)
    else
      let toCopy := if v.len - skip < len then v.len - skip else len
      let r := makeLoop vs 0 (len - toCopy)
      (⟨v.base + skip, toCopy⟩ :: r.1, toCopy + r.2)

/-- `make_iov`: the entries of `iov2` and the number of bytes in them. -/
def makeIov (iov : List Iovec) (seek len : Nat) : List Iovec × Nat :=
  let start := iovStart iov seek
  if start.1.isEmpty then ([], 0) else makeLoop start.1 start.2 len

/-- The second loop of `iov_copy`: the bytes and `copied`. -/
def copyLoop (m : Store) : List Iovec → Nat → Nat → List UInt8 × Nat
  | [], _, _ => ([], 0)
  | v :: vs, skip, len =>
    if len = 0 then ([], 0)
    else
      let toCopy := if v.len - skip < len then v.len - skip else len
      let r := copyLoop m vs 0 (len - toCopy)
      (get m (v.base + skip) toCopy ++ r.1, toCopy + r.2)

/-- `iov_copy`: the bytes written to the buffer, and their number. -/
def iovCopy (m : Store) (iov : List Iovec) (len offset : Nat) : List UInt8 × Nat :=
  let start := iovStart iov offset
  if start.1.isEmpty then ([], 0) else copyLoop m start.1 start.2 len

def seekIov : List Iovec → Nat → List Iovec
  | [], _ => []
  | v :: vs, left =>
    let toseek := min left v.len
    if toseek = v.len then seekIov vs (left - toseek)
    else if left - toseek = 0 then ⟨v.base + toseek, v.len - toseek⟩ :: vs
    -- Not reached: a position inside the entry leaves nothing to seek.
    else seekIov vs (left - toseek)

def truncateIov : List Iovec → Nat → List Iovec
  | [], _ => []
  | v :: vs, length =>
    let toseek := min length v.len
    -- As `toseek` is never above `v.len`, the other branch is not taken.
    if toseek ≤ v.len then [⟨v.base, toseek⟩] else v :: truncateIov vs (length - toseek)

def iovToBuf (m : Store) (iov : List Iovec) : List UInt8 :=
  iov.foldl (fun buf v => buf ++ get m v.base v.len) []

/-- The loop of `buf_to_iov` over the bytes that are left. -/
def storeLoop : Store → List Iovec → List UInt8 → Store × Nat
  | m, [], _ => (m, 0)
  | m, v :: vs, buf =>
    if buf.isEmpty then (m, 0)
    else
      let len := min v.len buf.length
      let r := storeLoop (put m v.base (buf.take len)) vs (buf.drop len)
      (r.1, len + r.2)

/-- `buf_to_iov`: the memory and the number of bytes stored. -/
def bufToIov (m : Store) (buf : List UInt8) (iov : List Iovec) (seek : Nat) : Store × Nat :=
  storeLoop m (if seek > 0 then seekIov iov seek else iov) buf

@[simp] lemma addrs_nil : addrs [] = [] := rfl

@[simp] lemma addrs_cons (v : Iovec) (vs : List Iovec) :
    addrs (v :: vs) = List.range' v.base v.len ++ addrs vs := rfl

lemma addrs_length (iov : List Iovec) : (addrs iov).length = countIov iov := by
  induction iov with
  | nil => rfl
  | cons v vs ih =>
    rw [addrs_cons, length_append, length_range', ih]
    rfl

variable {n : Nat}

lemma drop_past (v : Iovec) (vs : List Iovec) (h : v.len ≤ n) :
    (addrs (v :: vs)).drop n = (addrs vs).drop (n - v.len) := by
  have hnil : (List.range' v.base v.len).drop n = [] := drop_of_length_le (by simpa using h)
  rw [addrs_cons, drop_append, hnil, length_range', nil_append]

lemma drop_within (v : Iovec) (vs : List Iovec) (h : ¬ v.len ≤ n) :
    (addrs (v :: vs)).drop n = addrs (⟨v.base + n, v.len - n⟩ :: vs) := by
  have hn : n - v.len = 0 := by omega
  rw [addrs_cons, addrs_cons, drop_append, drop_range', length_range', hn, drop_zero, Nat.mul_one]

lemma addrs_iovTrim (iov : List Iovec) (n : Nat) : addrs (iovTrim iov n) = (addrs iov).drop n := by
  induction iov generalizing n with
  | nil => simp [iovTrim]
  | cons v vs ih =>
    rw [iovTrim]
    split
    · rename_i h0
      rw [h0, drop_zero]
    · split_ifs with hle
      · rw [ih, drop_past v vs hle]
      · rw [drop_within v vs hle]

lemma addrs_seekIov (iov : List Iovec) (n : Nat) : addrs (seekIov iov n) = (addrs iov).drop n := by
  induction iov generalizing n with
  | nil => simp [seekIov]
  | cons v vs ih =>
    rw [seekIov]
    by_cases hle : v.len ≤ n
    · rw [Nat.min_eq_right hle, if_pos rfl, ih, drop_past v vs hle]
    · rw [Nat.min_eq_left (by omega), if_neg (by omega), if_pos (Nat.sub_self n), drop_within v vs hle]

lemma take_range' (base n k : Nat) : (List.range' base n).take k = List.range' base (min k n) := by
  rw [List.range'_eq_map_range, List.range'_eq_map_range, ← map_take, take_range]

lemma addrs_makeLoop (vs : List Iovec) (len : Nat) :
    addrs (makeLoop vs 0 len).1 = (addrs vs).take len := by
  induction vs generalizing len with
  | nil => simp [makeLoop]
  | cons v vs ih =>
    rw [makeLoop]
    split_ifs with h0 hlt
    · rw [h0, take_zero, addrs_nil]
    · rw [addrs_cons, addrs_cons, ih, take_append, length_range', take_range']
      simp only [Nat.sub_zero, Nat.add_zero] at hlt ⊢
      rw [Nat.min_eq_right hlt.le]
    · rw [addrs_cons, addrs_cons, ih, take_append, length_range', take_range']
      simp only [Nat.sub_zero, Nat.add_zero] at hlt ⊢
      rw [Nat.min_eq_left (by omega), Nat.sub_self, Nat.sub_eq_zero_of_le (by omega)]

/-- Entries from the middle of the first one on. -/
lemma makeLoop_skip (v : Iovec) (vs : List Iovec) (skip len : Nat) :
    makeLoop (v :: vs) skip len = makeLoop (⟨v.base + skip, v.len - skip⟩ :: vs) 0 len := rfl

lemma makeLoop_count (vs : List Iovec) (skip len : Nat) :
    (makeLoop vs skip len).2 = countIov (makeLoop vs skip len).1 := by
  induction vs generalizing skip len with
  | nil => rfl
  | cons v vs ih =>
    rw [makeLoop]
    split_ifs
    · rfl
    · exact congrArg _ (ih _ _)
    · exact congrArg _ (ih _ _)

lemma makeIov_cons (v : Iovec) (vs : List Iovec) (seek len : Nat) :
    makeIov (v :: vs) seek len = if v.len ≤ seek then makeIov vs (seek - v.len) len
      else makeLoop (⟨v.base + seek, v.len - seek⟩ :: vs) 0 len := by
  unfold makeIov
  rw [iovStart]
  split_ifs with hle
  · rfl
  · exact makeLoop_skip v vs seek len

lemma addrs_makeIov (iov : List Iovec) (seek len : Nat) :
    addrs (makeIov iov seek len).1 = ((addrs iov).drop seek).take len := by
  induction iov generalizing seek with
  | nil => simp [makeIov, iovStart]
  | cons v vs ih =>
    rw [makeIov_cons]
    split_ifs with hle
    · rw [ih, drop_past v vs hle]
    · rw [addrs_makeLoop, drop_within v vs hle]

lemma makeIov_count (iov : List Iovec) (seek len : Nat) :
    (makeIov iov seek len).2 = countIov (makeIov iov seek len).1 := by
  dsimp only [makeIov]
  split
  · rfl
  · exact makeLoop_count _ _ _

lemma makeLoop_length_le (vs : List Iovec) (skip len : Nat) :
    (makeLoop vs skip len).1.length ≤ vs.length := by
  induction vs generalizing skip len with
  | nil => exact le_rfl
  | cons v vs ih =>
    rw [makeLoop]
    split
    · exact Nat.zero_le _
    · exact Nat.succ_le_succ (ih _ _)

lemma makeIov_length_le (iov : List Iovec) (seek len : Nat) :
    (makeIov iov seek len).1.length ≤ iov.length := by
  induction iov generalizing seek with
  | nil => exact le_rfl
  | cons v vs ih =>
    rw [makeIov_cons]
    split
    · exact Nat.le_succ_of_le (ih _)
    · exact makeLoop_length_le _ _ _

section
variable (m : Store)

lemma gather_eq_map (iov : List Iovec) : gather m iov = (addrs iov).map m := by
  unfold gather addrs
  rw [map_flatMap]
  apply flatMap_congr
  intro v _
  rw [List.range'_eq_map_range, map_map]
  rfl

@[simp] lemma gather_nil : gather m [] = [] := rfl

@[simp] lemma gather_cons (v : Iovec) (vs : List Iovec) :
    gather m (v :: vs) = get m v.base v.len ++ gather m vs := rfl

lemma gather_length (iov : List Iovec) : (gather m iov).length = countIov iov := by
  rw [gather_eq_map, length_map, addrs_length]

lemma gather_iovTrim (iov : List Iovec) (n : Nat) : gather m (iovTrim iov n) = (gather m iov).drop n := by
  rw [gather_eq_map, gather_eq_map, addrs_iovTrim, map_drop]

lemma gather_makeIov (iov : List Iovec) (seek len : Nat) :
    gather m (makeIov iov seek len).1 = ((gather m iov).drop seek).take len := by
  rw [gather_eq_map, gather_eq_map, addrs_makeIov, map_take, map_drop]

lemma copyLoop_eq (vs : List Iovec) (skip len : Nat) : copyLoop m vs skip len =
    (gather m (makeLoop vs skip len).1, (makeLoop vs skip len).2) := by
  induction vs generalizing skip len with
  | nil => rfl
  | cons v vs ih =>
    rw [copyLoop, makeLoop]
    by_cases h0 : len = 0
    · rw [if_pos h0, if_pos h0, gather_nil]
    · rw [if_neg h0, if_neg h0]
      simp only [ih, gather_cons]

/-- `iov_copy` copies what `make_iov` would point to, and counts it. -/
lemma iovCopy_eq (iov : List Iovec) (len offset : Nat) : iovCopy m iov len offset =
    (((gather m iov).drop offset).take len, (((gather m iov).drop offset).take len).length) := by
  have hmake : iovCopy m iov len offset =
      (gather m (makeIov iov offset len).1, (makeIov iov offset len).2) := by
    dsimp only [iovCopy, makeIov]
    split
    · rfl
    · exact copyLoop_eq m _ _ _
  rw [hmake, makeIov_count, ← gather_length m, gather_makeIov]

end

lemma makeIov_returns (iov : List Iovec) (seek len : Nat) :
    (makeIov iov seek len).2 = min len (countIov iov - seek) := by
  rw [makeIov_count, ← gather_length blank, gather_makeIov, length_take, length_drop, gather_length]

lemma countIov_iovTrim (iov : List Iovec) (n : Nat) : countIov (iovTrim iov n) = countIov iov - n := by
  rw [← addrs_length, addrs_iovTrim, length_drop, addrs_length]

lemma le_countIov_of_iovTrim {iov : List Iovec} (h : iovTrim iov n ≠ []) : n ≤ countIov iov := by
  induction iov generalizing n with
  | nil => exact absurd rfl h
  | cons v vs ih =>
    have hcons : countIov (v :: vs) = v.len + countIov vs := rfl
    rw [iovTrim] at h
    split_ifs at h with h0 hle
    · omega
    · have := ih h
      omega
    · omega

variable {as : List Nat}

lemma store_outside {bs : List UInt8} {m : Store} {a : Nat} (h : a ∉ as) :
    (as.zip bs).foldl (fun m p => update m p.1 p.2) m a = m a := by
  induction as generalizing bs m with
  | nil => rfl
  | cons x as ih =>
    cases bs with
    | nil => rfl
    | cons =>
      obtain ⟨hne, hnot⟩ := ne_and_not_mem_of_not_mem_cons h
      rw [zip_cons_cons, foldl_cons, ih hnot]
      exact update_of_ne hne ..

lemma map_store (hnodup : as.Nodup) {bs : List UInt8} {m : Store} :
    as.map ((as.zip bs).foldl (fun m p => update m p.1 p.2) m) =
      bs.take as.length ++ (as.drop bs.length).map m := by
  induction as generalizing bs m with
  | nil => simp
  | cons x as ih =>
    cases bs with
    | nil => rfl
    | cons b bs =>
      obtain ⟨hnot, hrest⟩ := nodup_cons.mp hnodup
      -- The rest of the addresses does not meet `x`, on either side of the end of `bs`.
      have hdrop : (as.drop bs.length).map (update m x b) = (as.drop bs.length).map m := by
        apply map_congr_left
        intro a ha
        have hne : a ≠ x := fun h => hnot (h ▸ mem_of_mem_drop ha)
        exact update_of_ne hne ..
      rw [zip_cons_cons, foldl_cons, map_cons, store_outside hnot, ih hrest, hdrop]
      exact congrArg (· :: _) (update_self ..)

variable {bs : List UInt8} {iov : List Iovec}

lemma gather_scatter {m : Store} (hd : (addrs iov).Nodup) (hlen : bs.length ≤ countIov iov) :
    gather (scatter m iov bs) iov = bs ++ (gather m iov).drop bs.length := by
  rw [gather_eq_map, scatter, map_store hd, addrs_length, take_of_length_le hlen, gather_eq_map, map_drop]

lemma take_gather_scatter {m : Store} (hd : (addrs iov).Nodup) :
    (gather (scatter m (iovTrim iov n) bs) iov).take n = (gather m iov).take n := by
  rw [gather_eq_map, gather_eq_map, ← map_take, ← map_take]
  apply map_congr_left
  intro a ha
  apply store_outside
  rw [addrs_iovTrim]
  intro hb
  have hsplit := (take_append_drop n (addrs iov)).symm ▸ hd
  exact (nodup_append.mp hsplit).2.2 a ha a hb rfl

lemma iovTrim_length_le (iov : List Iovec) (n : Nat) : (iovTrim iov n).length ≤ iov.length := by
  induction iov generalizing n with
  | nil => exact le_rfl
  | cons v vs ih =>
    rw [iovTrim]
    split_ifs
    · exact le_rfl
    · exact Nat.le_succ_of_le (ih _)
    · exact le_rfl

variable {m : Store}

lemma iovToBuf_eq : iovToBuf m iov = gather m iov := by
  have hfrom : ∀ buf : List UInt8, iov.foldl (fun buf v => buf ++ get m v.base v.len) buf =
      buf ++ gather m iov := by
    induction iov with
    | nil => exact fun buf => (append_nil buf).symm
    | cons v vs ih =>
      intro buf
      rw [foldl_cons, ih, append_assoc]
      rfl
  exact (hfrom []).trans (nil_append _)

/-- The first entry ends the loop of `truncate_iov`, so only its bytes are kept. -/
lemma gather_truncateIov (v : Iovec) (vs : List Iovec) (length : Nat) :
    gather m (truncateIov (v :: vs) length) = (get m v.base v.len).take length := by
  rw [truncateIov, if_pos (Nat.min_le_right _ _), get_take]
  exact append_nil _

lemma truncateIov_take_iff (length : Nat) :
    gather m (truncateIov iov length) = (gather m iov).take length ↔
      min length (countIov iov) ≤ (iov.head?.map (·.len)).getD 0 := by
  cases iov with
  | nil => simp [truncateIov, countIov]
  | cons v vs =>
    have hcons : countIov (v :: vs) = v.len + countIov vs := rfl
    rw [gather_truncateIov, gather_cons, hcons, head?_cons, Option.map_some, Option.getD_some]
    constructor
    · intro h
      have hlen := congrArg List.length h
      simp only [length_take, length_append, get_length, gather_length] at hlen
      omega
    · intro hle
      rw [take_append, get_length]
      by_cases hin : length ≤ v.len
      · rw [Nat.sub_eq_zero_of_le hin, take_zero, append_nil]
      · -- The entry is shorter than `length`, so nothing follows it.
        have hnil : gather m vs = [] := eq_nil_of_length_eq_zero (by rw [gather_length]; omega)
        rw [hnil, take_nil, append_nil]

lemma iovTrim_concat (vs : List Iovec) (v : Iovec) (n : Nat) :
    iovTrim (vs ++ [v]) n = [] ↔ countIov vs < n ∧ countIov vs + v.len ≤ n := by
  induction vs generalizing n with
  | nil =>
    rw [nil_append, iovTrim]
    split_ifs <;> simp [countIov, iovTrim] <;> omega
  | cons w vs ih =>
    have hcons : countIov (w :: vs) = w.len + countIov vs := rfl
    rw [cons_append, iovTrim, hcons]
    split_ifs
    · simp
      omega
    · rw [ih]
      omega
    · simp
      omega

/-- A last entry without bytes is still there when exactly the bytes before it are taken. -/
lemma iovTrim_eq_nil_iff (hlen : Nat) :
    (iovTrim iov hlen = [] ↔ (gather m iov).drop hlen = []) ↔
      ∀ v ∈ iov.getLast?, v.len ≠ 0 ∨ hlen ≠ countIov iov.dropLast := by
  rcases eq_nil_or_concat iov with rfl | ⟨vs, v, rfl⟩
  · simp [iovTrim]
  · have hcount : countIov (vs ++ [v]) = countIov vs + v.len := by simp [countIov]
    simp only [concat_eq_append, iovTrim_concat, drop_eq_nil_iff, gather_length, hcount,
      getLast?_concat, Option.mem_some_iff, forall_eq', dropLast_concat]
    omega

lemma update_eq_put (m : Store) (a : Nat) (b : UInt8) : update m a b = put m a [b] := by
  funext i
  by_cases hi : i = a
  · subst hi
    simp [put]
  · rw [update_of_ne hi, put_outside (by rw [length_singleton]; omega)]

lemma foldl_update_range' (base n : Nat) (bs : List UInt8) (m : Store) :
    ((List.range' base n).zip bs).foldl (fun m p => update m p.1 p.2) m = put m base (bs.take n) := by
  induction n generalizing base bs m with
  | zero => exact (put_nil m base).symm
  | succ n ih =>
    cases bs with
    | nil => exact (put_nil m base).symm
    | cons b bs =>
      rw [List.range'_succ, zip_cons_cons, foldl_cons, ih, update_eq_put, take_succ_cons]
      exact put_append m base [b] (bs.take n)

lemma zip_append_left (as as' : List Nat) (bs : List UInt8) :
    (as ++ as').zip bs = as.zip bs ++ as'.zip (bs.drop as.length) := by
  induction as generalizing bs with
  | nil => rfl
  | cons a as ih =>
    cases bs with
    | nil => simp
    | cons b bs => rw [cons_append, zip_cons_cons, ih]; rfl

lemma scatter_cons (v : Iovec) (vs : List Iovec) (buf : List UInt8) :
    scatter m (v :: vs) buf = scatter (put m v.base (buf.take v.len)) vs (buf.drop v.len) := by
  rw [scatter, addrs_cons, zip_append_left, foldl_append, length_range', foldl_update_range', scatter]

lemma storeLoop_eq (buf : List UInt8) :
    storeLoop m iov buf = (scatter m iov buf, min (countIov iov) buf.length) := by
  induction iov generalizing m buf with
  | nil => simp [storeLoop, scatter, countIov]
  | cons v vs ih =>
    have hcons : countIov (v :: vs) = v.len + countIov vs := rfl
    rw [storeLoop]
    by_cases hnil : buf = []
    · subst hnil
      simp [scatter]
    · rw [if_neg (by simpa using hnil)]
      dsimp only
      rw [ih, scatter_cons, hcons, length_drop, ← take_eq_take_min, ← drop_eq_drop_min]
      exact Prod.ext rfl (by dsimp only; omega)

lemma bufToIov_eq (buf : List UInt8) (seek : Nat) : bufToIov m buf iov seek =
    ((((addrs iov).drop seek).zip buf).foldl (fun m p => update m p.1 p.2) m,
      min (countIov iov - seek) buf.length) := by
  have haddrs : addrs (if seek > 0 then seekIov iov seek else iov) = (addrs iov).drop seek := by
    split_ifs with hpos
    · exact addrs_seekIov iov seek
    · rw [Nat.eq_zero_of_not_pos hpos, drop_zero]
  rw [bufToIov, storeLoop_eq, scatter, ← addrs_length, haddrs, length_drop, addrs_length]

lemma gather_bufToIov (hd : (addrs iov).Nodup) (buf : List UInt8) (seek : Nat) :
    gather (bufToIov m buf iov seek).1 iov = (gather m iov).take seek ++
      (buf.take (countIov iov - seek) ++ (gather m iov).drop (seek + buf.length)) := by
  have hsplit := take_append_drop seek (addrs iov)
  have hapart := (nodup_append.mp (hsplit.symm ▸ hd)).2.2
  rw [bufToIov_eq, gather_eq_map, gather_eq_map]
  conv_lhs => rw [← hsplit, map_append]
  rw [hsplit, map_store (hd.sublist (drop_sublist ..)), length_drop, addrs_length, drop_drop,
    map_drop, ← map_take]
  congr 1
  -- What lies before `seek` is apart from what is stored.
  apply map_congr_left
  intro a ha
  exact store_outside fun hb => hapart a ha a hb rfl

/-- What `iov.c` does with the bytes of the entries. `truncate_iov` keeps the first entry only, and
`iov_trim` leaves an empty last entry where nothing is left. -/
theorem iov_helpers_iff (m : Store) (iov : List Iovec) :
    ((∀ seek, gather m (seekIov iov seek) = (gather m iov).drop seek) ∧
      (∀ hlen, gather m (iovTrim iov hlen) = (gather m iov).drop hlen) ∧
      (∀ len offset, (iovCopy m iov len offset).1 = ((gather m iov).drop offset).take len ∧
        (iovCopy m iov len offset).2 = (((gather m iov).drop offset).take len).length) ∧
      (∀ seek len, gather m (makeIov iov seek len).1 = ((gather m iov).drop seek).take len ∧
        (makeIov iov seek len).2 = (((gather m iov).drop seek).take len).length) ∧
      iovToBuf m iov = gather m iov ∧
      ∀ buf seek, (bufToIov m buf iov seek).2 = min (countIov iov - seek) buf.length ∧
        (∀ a ∉ addrs iov, (bufToIov m buf iov seek).1 a = m a) ∧
        ((addrs iov).Nodup → gather (bufToIov m buf iov seek).1 iov = (gather m iov).take seek ++
          (buf.take (countIov iov - seek) ++ (gather m iov).drop (seek + buf.length)))) ∧
    (∀ length, gather m (truncateIov iov length) = (gather m iov).take length ↔
      min length (countIov iov) ≤ (iov.head?.map (·.len)).getD 0) ∧
    ∀ hlen, (iovTrim iov hlen = [] ↔ (gather m iov).drop hlen = []) ↔
      ∀ v ∈ iov.getLast?, v.len ≠ 0 ∨ hlen ≠ countIov iov.dropLast := by
  refine ⟨⟨fun seek => ?_, gather_iovTrim m iov, fun len offset => ?_, fun seek len => ?_,
    iovToBuf_eq, fun buf seek => ⟨?_, fun a ha => ?_, ?_⟩⟩, truncateIov_take_iff, iovTrim_eq_nil_iff⟩
  · rw [gather_eq_map, gather_eq_map, addrs_seekIov, map_drop]
  · rw [iovCopy_eq]
    exact ⟨rfl, rfl⟩
  · rw [makeIov_count, ← gather_length m, gather_makeIov]
    exact ⟨rfl, rfl⟩
  · rw [bufToIov_eq]
  · rw [bufToIov_eq]
    exact store_outside fun hmem => ha (mem_of_mem_drop hmem)
  · exact fun hd => gather_bufToIov hd buf seek

theorem truncate_keeps_first :
    gather blank (truncateIov [⟨0, 1⟩, ⟨1, 1⟩] 2) ≠ (gather blank [⟨0, 1⟩, ⟨1, 1⟩]).take 2 ∧
      iovTrim [⟨0, 1⟩, ⟨1, 0⟩] 1 ≠ [] ∧ (gather blank [⟨0, 1⟩, ⟨1, 0⟩]).drop 1 = [] := by
  decide

end ScorpiHv

import Mathlib

/-!
# Name-value lists

An `nvlist` is a list of named entries, each a string or a list of its own. Names are unique.
-/

namespace ScorpiHv

abbrev Str := List Char

inductive Nvlist where
  | nil
  | string (name value : Str) (rest : Nvlist)
  | nvlist (name : Str) (sub rest : Nvlist)
  deriving DecidableEq

namespace Nvlist

/-- `nvlist_get_string`, where `nvlist_exists_string` holds. -/
def getString : Nvlist → Str → Option Str
  | nil, _ => none
  | string n v rest, name => if n = name then some v else rest.getString name
  | nvlist _ _ rest, name => rest.getString name

/-- `nvlist_get_nvlist`, where `nvlist_exists_nvlist` holds. -/
def getNvlist : Nvlist → Str → Option Nvlist
  | nil, _ => none
  | string _ _ rest, name => rest.getNvlist name
  | nvlist n sub rest, name => if n = name then some sub else rest.getNvlist name

/-- `nvlist_exists` -/
def mem : Nvlist → Str → Bool
  | nil, _ => false
  | string n _ rest, name => decide (n = name) || rest.mem name
  | nvlist n _ rest, name => decide (n = name) || rest.mem name

def addString : Nvlist → Str → Str → Nvlist
  | nil, name, value => string name value nil
  | string n v rest, name, value => string n v (rest.addString name value)
  | nvlist n sub rest, name, value => nvlist n sub (rest.addString name value)

/-- `nvlist_move_nvlist` -/
def addNvlist : Nvlist → Str → Nvlist → Nvlist
  | nil, name, t => nvlist name t nil
  | string n v rest, name, t => string n v (rest.addNvlist name t)
  | nvlist n sub rest, name, t => nvlist n sub (rest.addNvlist name t)

def freeString : Nvlist → Str → Nvlist
  | nil, _ => nil
  | string n v rest, name => if n = name then rest else string n v (rest.freeString name)
  | nvlist n sub rest, name => nvlist n sub (rest.freeString name)

def setNvlist : Nvlist → Str → Nvlist → Nvlist
  | nil, _, _ => nil
  | string n v rest, name, t => string n v (rest.setNvlist name t)
  | nvlist n sub rest, name, t =>
    if n = name then nvlist n t rest else nvlist n sub (rest.setNvlist name t)

/-- A pair cannot be made with a name of so many characters. -/
def NV_NAME_MAX : Nat := 2048

def tooLong (name : Str) : Bool := decide (NV_NAME_MAX ≤ name.length)

/-- `nvl_error` is set: a pair with too long a name was to be inserted. The list did not get the
pair, and the entry with that name stands for the error. -/
def broken : Nvlist → Bool
  | nil => false
  | string n _ rest => tooLong n || rest.broken
  | nvlist n _ rest => tooLong n || rest.broken

/-- No list of the tree holds an error. -/
def Intact : Nvlist → Prop
  | nil => True
  | string n _ rest => tooLong n = false ∧ rest.Intact
  | nvlist n sub rest => tooLong n = false ∧ sub.Intact ∧ rest.Intact

def stringAt : Nvlist → List Str → Option Str
  | _, [] => none
  | t, [leaf] => t.getString leaf
  | t, name :: next :: path => (t.getNvlist name).bind fun sub => sub.stringAt (next :: path)

def setAt : Nvlist → List Str → Str → Str → Option Nvlist
  | t, [], leaf, value =>
    if (t.getString leaf).isSome then some ((t.freeString leaf).addString leaf value)
    else if t.mem leaf then none
    else some (t.addString leaf value)
  | t, name :: path, leaf, value =>
    if name = [] then none
    else match t.getNvlist name with
      | some sub => (sub.setAt path leaf value).map (t.setNvlist name)
      | none => if t.mem name then none else (nil.setAt path leaf value).map (t.addNvlist name)

def Unique : Nvlist → Prop
  | nil => True
  | string n _ rest => rest.mem n = false ∧ rest.Unique
  | nvlist n sub rest => rest.mem n = false ∧ sub.Unique ∧ rest.Unique

variable {t sub : Nvlist} {name other value : Str}

section
variable (h : t.Intact)
include h

lemma Intact.not_broken : t.broken = false := by
  induction t with
  | nil => rfl
  | string _ _ _ ih => rw [broken, h.1, ih h.2, Bool.or_self]
  | nvlist _ _ _ _ ih => rw [broken, h.1, ih h.2.2, Bool.or_self]

lemma Intact.addString (hname : tooLong name = false) : (t.addString name value).Intact := by
  induction t with
  | nil => exact ⟨hname, trivial⟩
  | string _ _ _ ih => exact ⟨h.1, ih h.2⟩
  | nvlist _ _ _ _ ih => exact ⟨h.1, h.2.1, ih h.2.2⟩

lemma Intact.addNvlist (hname : tooLong name = false) (hsub : sub.Intact) :
    (t.addNvlist name sub).Intact := by
  induction t with
  | nil => exact ⟨hname, hsub, trivial⟩
  | string _ _ _ ih => exact ⟨h.1, ih h.2⟩
  | nvlist _ _ _ _ ih => exact ⟨h.1, h.2.1, ih h.2.2⟩

lemma Intact.freeString : (t.freeString name).Intact := by
  induction t with
  | nil => trivial
  | string n v rest ih =>
    rw [Nvlist.freeString]
    split
    · exact h.2
    · exact ⟨h.1, ih h.2⟩
  | nvlist _ _ _ _ ih => exact ⟨h.1, h.2.1, ih h.2.2⟩

lemma Intact.setNvlist (hsub : sub.Intact) : (t.setNvlist name sub).Intact := by
  induction t with
  | nil => trivial
  | string _ _ _ ih => exact ⟨h.1, ih h.2⟩
  | nvlist n other rest _ ih =>
    rw [Nvlist.setNvlist]
    split
    · exact ⟨h.1, hsub, h.2.2⟩
    · exact ⟨h.1, h.2.1, ih h.2.2⟩

lemma Intact.getNvlist (hget : t.getNvlist name = some sub) : sub.Intact := by
  induction t with
  | nil => cases hget
  | string _ _ _ ih => exact ih h.2 hget
  | nvlist n other rest _ ih =>
    rw [Nvlist.getNvlist] at hget
    split at hget
    · cases hget
      exact h.2.1
    · exact ih h.2.2 hget

/-- A store under names that fit leaves no error. -/
lemma Intact.setAt {path : List Str} {leaf : Str} {t' : Nvlist}
    (hpath : ∀ name ∈ path, tooLong name = false) (hleaf : tooLong leaf = false)
    (hset : t.setAt path leaf value = some t') : t'.Intact := by
  induction path generalizing t t' with
  | nil =>
    rw [Nvlist.setAt] at hset
    split_ifs at hset
    · cases hset
      exact h.freeString.addString hleaf
    · cases hset
      exact h.addString hleaf
  | cons name path ih =>
    obtain ⟨hname, hrest⟩ := List.forall_mem_cons.mp hpath
    rw [Nvlist.setAt] at hset
    split at hset
    · cases hset
    split at hset
    · rename_i sub hget
      obtain ⟨sub', hsub', rfl⟩ := Option.map_eq_some_iff.mp hset
      exact h.setNvlist (ih (h.getNvlist hget) hrest hsub')
    · split at hset
      · cases hset
      obtain ⟨sub', hsub', rfl⟩ := Option.map_eq_some_iff.mp hset
      have hnil : Nvlist.nil.Intact := trivial
      exact h.addNvlist hname (ih hnil hrest hsub')

end

lemma getString_of_not_mem (h : t.mem name = false) : t.getString name = none := by
  induction t with
  | nil => rfl
  | string n v rest ih =>
    simp only [mem, Bool.or_eq_false_iff, decide_eq_false_iff_not] at h
    rw [getString, if_neg h.1, ih h.2]
  | nvlist n sub rest _ ih =>
    simp only [mem, Bool.or_eq_false_iff] at h
    rw [getString, ih h.2]

lemma mem_addString (t : Nvlist) (name value other : Str) :
    (t.addString name value).mem other = (t.mem other || decide (name = other)) := by
  induction t with
  | nil => simp [addString, mem]
  | string _ _ _ ih | nvlist _ _ _ _ ih => simp [addString, mem, ih, Bool.or_assoc]

lemma mem_addNvlist (t : Nvlist) (name : Str) (sub : Nvlist) (other : Str) :
    (t.addNvlist name sub).mem other = (t.mem other || decide (name = other)) := by
  induction t with
  | nil => simp [addNvlist, mem]
  | string _ _ _ ih | nvlist _ _ _ _ ih => simp [addNvlist, mem, ih, Bool.or_assoc]

lemma mem_setNvlist (t : Nvlist) (name : Str) (sub : Nvlist) (other : Str) :
    (t.setNvlist name sub).mem other = t.mem other := by
  induction t with
  | nil => rfl
  | string n v rest ih => simp [setNvlist, mem, ih]
  | nvlist n sub rest _ ih =>
    rw [setNvlist]
    split <;> simp [mem, ih]

lemma mem_freeString_le (h : t.mem other = false) : (t.freeString name).mem other = false := by
  induction t with
  | nil => rfl
  | string n v rest ih =>
    simp only [mem, Bool.or_eq_false_iff] at h
    rw [freeString]
    split
    · exact h.2
    · simp only [mem, Bool.or_eq_false_iff]
      exact ⟨h.1, ih h.2⟩
  | nvlist n sub rest _ ih =>
    simp only [mem, Bool.or_eq_false_iff] at h
    simp only [freeString, mem, Bool.or_eq_false_iff]
    exact ⟨h.1, ih h.2⟩

section
variable (hu : t.Unique)
include hu

lemma mem_freeString_self (h : (t.getString name).isSome = true) :
    (t.freeString name).mem name = false := by
  induction t with
  | nil => rfl
  | string n v rest ih =>
    obtain ⟨hn, hrest⟩ := hu
    rw [freeString]
    split
    · rename_i heq
      rw [← heq]
      exact hn
    · rename_i hne
      rw [getString, if_neg hne] at h
      simp only [mem, Bool.or_eq_false_iff, decide_eq_false_iff_not]
      exact ⟨hne, ih hrest h⟩
  | nvlist n sub rest _ ih =>
    obtain ⟨hn, -, hrest⟩ := hu
    rw [getString] at h
    simp only [freeString, mem, Bool.or_eq_false_iff, decide_eq_false_iff_not]
    refine ⟨?_, ih hrest h⟩
    rintro rfl
    rw [getString_of_not_mem hn] at h
    cases h

lemma Unique.addString (h : t.mem name = false) (value : Str) : (t.addString name value).Unique := by
  induction t with
  | nil => exact ⟨rfl, trivial⟩
  | string n v rest ih =>
    simp only [mem, Bool.or_eq_false_iff, decide_eq_false_iff_not] at h
    refine ⟨?_, ih hu.2 h.2⟩
    simp only [mem_addString, hu.1, Bool.false_or, decide_eq_false_iff_not]
    exact fun heq => h.1 heq.symm
  | nvlist n sub rest _ ih =>
    simp only [mem, Bool.or_eq_false_iff, decide_eq_false_iff_not] at h
    refine ⟨?_, hu.2.1, ih hu.2.2 h.2⟩
    simp only [mem_addString, hu.1, Bool.false_or, decide_eq_false_iff_not]
    exact fun heq => h.1 heq.symm

lemma Unique.addNvlist (h : t.mem name = false) (hsub : sub.Unique) : (t.addNvlist name sub).Unique := by
  induction t with
  | nil => exact ⟨rfl, hsub, trivial⟩
  | string n v rest ih =>
    simp only [mem, Bool.or_eq_false_iff, decide_eq_false_iff_not] at h
    refine ⟨?_, ih hu.2 h.2⟩
    simp only [mem_addNvlist, hu.1, Bool.false_or, decide_eq_false_iff_not]
    exact fun heq => h.1 heq.symm
  | nvlist n sub' rest _ ih =>
    simp only [mem, Bool.or_eq_false_iff, decide_eq_false_iff_not] at h
    refine ⟨?_, hu.2.1, ih hu.2.2 h.2⟩
    simp only [mem_addNvlist, hu.1, Bool.false_or, decide_eq_false_iff_not]
    exact fun heq => h.1 heq.symm

lemma Unique.freeString (name : Str) : (t.freeString name).Unique := by
  induction t with
  | nil => exact hu
  | string n v rest ih =>
    rw [Nvlist.freeString]
    split
    · exact hu.2
    · exact ⟨mem_freeString_le hu.1, ih hu.2⟩
  | nvlist n sub rest _ ih => exact ⟨mem_freeString_le hu.1, hu.2.1, ih hu.2.2⟩

lemma Unique.setNvlist (name : Str) (hsub : sub.Unique) : (t.setNvlist name sub).Unique := by
  induction t with
  | nil => exact hu
  | string n v rest ih =>
    refine ⟨?_, ih hu.2⟩
    rw [mem_setNvlist]
    exact hu.1
  | nvlist n sub' rest _ ih =>
    rw [Nvlist.setNvlist]
    split
    · exact ⟨hu.1, hsub, hu.2.2⟩
    refine ⟨?_, hu.2.1, ih hu.2.2⟩
    rw [mem_setNvlist]
    exact hu.1

lemma Unique.getNvlist (h : t.getNvlist name = some sub) : sub.Unique := by
  induction t with
  | nil => cases h
  | string n v rest ih => exact ih hu.2 h
  | nvlist n sub' rest _ ih =>
    rw [Nvlist.getNvlist] at h
    split at h
    · cases h
      exact hu.2.1
    · exact ih hu.2.2 h

lemma Unique.setAt {path : List Str} {leaf : Str} {t' : Nvlist}
    (h : t.setAt path leaf value = some t') : t'.Unique := by
  induction path generalizing t t' with
  | nil =>
    rw [Nvlist.setAt] at h
    split at h
    · rename_i hstring
      cases h
      exact (hu.freeString leaf).addString (mem_freeString_self hu hstring) value
    · split at h
      · cases h
      rename_i hmem
      cases h
      exact hu.addString (eq_false_of_ne_true hmem) value
  | cons name path ih =>
    rw [Nvlist.setAt] at h
    split at h
    · cases h
    split at h
    · rename_i sub hsub
      obtain ⟨sub', hset, rfl⟩ := Option.map_eq_some_iff.mp h
      exact hu.setNvlist name (ih (hu.getNvlist hsub) hset)
    split at h
    · cases h
    rename_i hmem
    obtain ⟨sub', hset, rfl⟩ := Option.map_eq_some_iff.mp h
    have hnil : Nvlist.nil.Unique := trivial
    exact hu.addNvlist (eq_false_of_ne_true hmem) (ih hnil hset)

end

lemma getString_addString (h : t.mem name = false) :
    (t.addString name value).getString other = if name = other then some value else t.getString other := by
  induction t with
  | nil => rfl
  | string n v rest ih =>
    simp only [mem, Bool.or_eq_false_iff, decide_eq_false_iff_not] at h
    rw [Nvlist.addString, getString, getString, ih h.2]
    by_cases hn : n = other
    · rw [if_pos hn, if_pos hn, if_neg (fun heq => h.1 (hn.trans heq.symm))]
    · rw [if_neg hn, if_neg hn]
  | nvlist n sub rest _ ih =>
    simp only [mem, Bool.or_eq_false_iff] at h
    exact ih h.2

lemma getNvlist_addString (t : Nvlist) (name value other : Str) :
    (t.addString name value).getNvlist other = t.getNvlist other := by
  induction t with
  | nil => rfl
  | string n v rest ih => exact ih
  | nvlist n sub rest _ ih => rw [Nvlist.addString, getNvlist, getNvlist, ih]

lemma getString_addNvlist (t : Nvlist) (name : Str) (sub : Nvlist) (other : Str) :
    (t.addNvlist name sub).getString other = t.getString other := by
  induction t with
  | nil => rfl
  | string n v rest ih => rw [Nvlist.addNvlist, getString, getString, ih]
  | nvlist n sub rest _ ih => exact ih

lemma getNvlist_addNvlist (h : t.mem name = false) :
    (t.addNvlist name sub).getNvlist other = if name = other then some sub else t.getNvlist other := by
  induction t with
  | nil => rfl
  | string n v rest ih =>
    simp only [mem, Bool.or_eq_false_iff] at h
    exact ih h.2
  | nvlist n sub' rest _ ih =>
    simp only [mem, Bool.or_eq_false_iff, decide_eq_false_iff_not] at h
    rw [Nvlist.addNvlist, Nvlist.getNvlist, Nvlist.getNvlist, ih h.2]
    by_cases hn : n = other
    · rw [if_pos hn, if_pos hn, if_neg (fun heq => h.1 (hn.trans heq.symm))]
    · rw [if_neg hn, if_neg hn]

lemma getString_freeString (h : name ≠ other) :
    (t.freeString name).getString other = t.getString other := by
  induction t with
  | nil => rfl
  | string n v rest ih =>
    rw [Nvlist.freeString, getString]
    split
    · rename_i hn
      rw [if_neg (fun heq => h (hn.symm.trans heq))]
    · rw [getString, ih]
  | nvlist n sub rest _ ih => exact ih

lemma getNvlist_freeString (t : Nvlist) (name other : Str) :
    (t.freeString name).getNvlist other = t.getNvlist other := by
  induction t with
  | nil => rfl
  | string n v rest ih =>
    rw [Nvlist.freeString]
    split
    · rfl
    · exact ih
  | nvlist n sub rest _ ih => rw [Nvlist.freeString, Nvlist.getNvlist, Nvlist.getNvlist, ih]

lemma getString_setNvlist (t : Nvlist) (name : Str) (sub : Nvlist) (other : Str) :
    (t.setNvlist name sub).getString other = t.getString other := by
  induction t with
  | nil => rfl
  | string n v rest ih => rw [Nvlist.setNvlist, getString, getString, ih]
  | nvlist n sub' rest _ ih =>
    rw [Nvlist.setNvlist]
    split
    · rfl
    · exact ih

lemma getNvlist_setNvlist {old : Nvlist} (h : t.getNvlist name = some old) :
    (t.setNvlist name sub).getNvlist other = if name = other then some sub else t.getNvlist other := by
  induction t with
  | nil => cases h
  | string n v rest ih => exact ih h
  | nvlist n sub' rest _ ih =>
    rw [Nvlist.getNvlist] at h
    rw [Nvlist.setNvlist]
    by_cases hn : n = name
    · rw [if_pos hn, Nvlist.getNvlist, Nvlist.getNvlist, hn]
      split <;> rfl
    rw [if_neg hn] at h
    rw [if_neg hn, Nvlist.getNvlist, Nvlist.getNvlist, ih h]
    by_cases hother : n = other
    · rw [if_pos hother, if_pos hother, if_neg (fun heq => hn (hother.trans heq.symm))]
    · rw [if_neg hother, if_neg hother]

lemma stringAt_nil (path : List Str) : nil.stringAt path = none := by
  cases path with
  | nil => rfl
  | cons name path => cases path <;> rfl

lemma stringAt_of_update {t' : Nvlist}
    (h : ∀ other, t'.getNvlist other = if name = other then some sub else t.getNvlist other)
    (path : List Str) (next : Str) :
    t'.stringAt (other :: next :: path) =
      if name = other then sub.stringAt (next :: path) else t.stringAt (other :: next :: path) := by
  rw [stringAt, h, stringAt]
  split <;> rfl

lemma stringAt_setAt {path : List Str} {leaf : Str} {t' : Nvlist} (hu : t.Unique)
    (h : t.setAt path leaf value = some t') (q : List Str) :
    t'.stringAt q = if q = path ++ [leaf] then some value else t.stringAt q := by
  induction path generalizing t t' q with
  | nil =>
    have hat : (∀ other, t'.getString other = if leaf = other then some value
        else t.getString other) ∧ ∀ other, t'.getNvlist other = t.getNvlist other := by
      rw [Nvlist.setAt] at h
      split at h
      · rename_i hstring
        cases h
        refine ⟨fun other => ?_, fun other => ?_⟩
        · rw [getString_addString (mem_freeString_self hu hstring)]
          by_cases hother : leaf = other
          · rw [if_pos hother, if_pos hother]
          · rw [if_neg hother, if_neg hother, getString_freeString hother]
        · rw [getNvlist_addString, getNvlist_freeString]
      · split at h
        · cases h
        rename_i hmem
        cases h
        exact ⟨fun other => getString_addString (eq_false_of_ne_true hmem),
          fun other => getNvlist_addString t leaf value other⟩
    match q with
    | [] => rfl
    | [other] =>
      rw [stringAt, hat.1, List.nil_append, stringAt]
      split
      · rename_i hother
        rw [if_pos (by rw [hother])]
      · rename_i hother
        rw [if_neg (fun heq => hother (List.cons.inj heq).1.symm)]
    | other :: next :: rest => rw [stringAt, hat.2, if_neg (by simp), stringAt]
  | cons name path ih =>
    obtain ⟨old, new, hold, hset, hstring, hnvlist⟩ : ∃ old new : Nvlist,
        (∀ q, t.stringAt (name :: q) = if q = [] then t.getString name else old.stringAt q) ∧
        (∀ q, new.stringAt q = if q = path ++ [leaf] then some value else old.stringAt q) ∧
        (∀ other, t'.getString other = t.getString other) ∧
        ∀ other, t'.getNvlist other = if name = other then some new else t.getNvlist other := by
      rw [Nvlist.setAt] at h
      split at h
      · cases h
      split at h
      · rename_i old hold
        obtain ⟨new, hnew, rfl⟩ := Option.map_eq_some_iff.mp h
        refine ⟨old, new, ?_, ih (hu.getNvlist hold) hnew, getString_setNvlist t name new,
          fun other => getNvlist_setNvlist hold⟩
        intro q
        cases q with
        | nil => rfl
        | cons => rw [stringAt, hold, if_neg (by simp)]; rfl
      · rename_i hnone
        split at h
        · cases h
        rename_i hmem
        obtain ⟨new, hnew, rfl⟩ := Option.map_eq_some_iff.mp h
        have hnil : Nvlist.nil.Unique := trivial
        refine ⟨.nil, new, ?_, ih hnil hnew, getString_addNvlist t name new,
          fun other => getNvlist_addNvlist (eq_false_of_ne_true hmem)⟩
        intro q
        cases q with
        | nil => rfl
        | cons => rw [stringAt, hnone, if_neg (by simp), stringAt_nil]; rfl
    match q with
    | [] => rfl
    | [other] => rw [stringAt, hstring, if_neg (by simp), stringAt]
    | other :: next :: rest =>
      rw [stringAt_of_update hnvlist, List.cons_append]
      by_cases hother : name = other
      · subst hother
        rw [if_pos rfl, hset, hold, if_neg (List.cons_ne_nil next rest)]
        simp only [List.cons.injEq, true_and]
      · rw [if_neg hother, if_neg (fun heq => hother (List.cons.inj heq).1.symm)]

end Nvlist

end ScorpiHv

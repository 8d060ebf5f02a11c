import ScorpiHv.Config.Export

/-!
# References in configuration values

`config.c`: `%(path)` in a value stands for the value at the path, and a backslash takes the
next character as it is.
-/

namespace ScorpiHv.Config
open List

def getRawConfigValue (t : Nvlist) (path : Str) : Option Str :=
  (findNode t (splitDots path).dropLast).bind fun sub =>
    sub.getString ((splitDots path).getLast?.getD [])

/-- The path of the reference that a `%` begins, from the text behind it. -/
def reference : Str → Option Str
  | '(' :: cs => if ')' ∈ cs then some (cs.takeWhile (· ≠ ')')) else none
  | _ => none

inductive Piece where
  | char (c : Char)
  | ref (path : Str)
  deriving DecidableEq

/-- The scanner of `_expand_config_value`, with the number of characters it has still to pass
over. Without `refs` the recursion has become too deep, and a `%` stands for itself. -/
def scan (refs : Bool) : Nat → Str → List Piece
  | _, [] => []
  | skip + 1, _ :: cs => scan refs skip cs
  | 0, '%' :: cs =>
    match if refs then reference cs else none with
    | some path => .ref path :: scan refs (path.length + 2) cs
    | none => .char '%' :: scan refs 0 cs
  | 0, ['\\'] => []
  | 0, '\\' :: c :: cs => .char c :: scan refs 0 cs
  | 0, c :: cs => .char c :: scan refs 0 cs

def Piece.text (f : Str → Option Str) : Piece → Str
  | .char c => [c]
  | .ref path => (f path).getD []

variable (raw : Str → Option Str)

/-- The value that a reference names. An empty one is passed over. -/
def target (path : Str) : Option Str := if path = [] then none else raw path

/-- `_expand_config_value` at depth `16 - levels`. -/
def expandAt : Nat → Str → Str
  | 0, value => (scan false 0 value).flatMap (Piece.text fun _ => none)
  | levels + 1, value =>
    (scan true 0 value).flatMap (Piece.text fun path => (target raw path).map (expandAt levels))

def expandConfigValue (t : Nvlist) (value : Str) : Str :=
  if '%' ∈ value then expandAt (getRawConfigValue t) 16 value else value

def getConfigValue (t : Nvlist) (path : Str) : Option Str :=
  (getRawConfigValue t path).map (expandConfigValue t)

/-- Each reference is replaced by what the value it names stands for. -/
inductive Expansion : List Piece → Str → Prop
  | nil : Expansion [] []
  | char {c : Char} {ps : List Piece} {out : Str} :
      Expansion ps out → Expansion (.char c :: ps) (c :: out)
  | unknown {path out : Str} {ps : List Piece} :
      target raw path = none → Expansion ps out → Expansion (.ref path :: ps) out
  | known {path value out rest : Str} {ps : List Piece} : target raw path = some value →
      Expansion (scan true 0 value) out → Expansion ps rest →
      Expansion (.ref path :: ps) (out ++ rest)

/-- The references reachable from the value nest at most so deep. -/
def Nests : Nat → Str → Prop
  | 0, value => ∀ path, .ref path ∈ scan true 0 value → target raw path = none
  | n + 1, value => ∀ path next, .ref path ∈ scan true 0 value → target raw path = some next →
      Nests n next

variable {raw} {ps : List Piece}

lemma Expansion.unique {a b : Str} (ha : Expansion raw ps a) (hb : Expansion raw ps b) : a = b := by
  induction ha generalizing b with
  | nil =>
    cases hb
    rfl
  | char _ ih =>
    cases hb with
    | char hb => rw [ih hb]
  | unknown hnone _ ih =>
    cases hb with
    | unknown _ hb => exact ih hb
    | known hsome => rw [hnone] at hsome; cases hsome
  | known hsome _ _ ih ihs =>
    cases hb with
    | unknown hnone => rw [hnone] at hsome; cases hsome
    | known hsome' hv hb =>
      rw [hsome] at hsome'
      cases hsome'
      rw [ih hv, ihs hb]

lemma expansion_pieces {f : Str → Str}
    (hf : ∀ path value, .ref path ∈ ps → target raw path = some value →
      Expansion raw (scan true 0 value) (f value)) :
    Expansion raw ps (ps.flatMap (Piece.text fun path => (target raw path).map f)) := by
  induction ps with
  | nil => exact .nil
  | cons p ps ih =>
    have hrest := ih fun path value hmem => hf path value (mem_cons_of_mem p hmem)
    cases p with
    | char => exact .char hrest
    | ref path =>
      cases htarget : target raw path with
      | none =>
        rw [flatMap_cons, Piece.text, htarget]
        exact .unknown htarget hrest
      | some value =>
        rw [flatMap_cons, Piece.text, htarget]
        exact .known htarget (hf path value mem_cons_self htarget) hrest

variable {n : Nat} {value : Str}

lemma expandAt_expansion {levels : Nat} (h : Nests raw n value)
    (hlt : n < levels) : Expansion raw (scan true 0 value) (expandAt raw levels value) := by
  induction levels generalizing n value with
  | zero => cases hlt
  | succ levels ih =>
    refine expansion_pieces ?_
    intro path next hmem htarget
    cases n with
    | zero => rw [h path hmem] at htarget; cases htarget
    | succ => exact ih (h path next hmem htarget) (Nat.lt_of_succ_lt_succ hlt)

lemma expansion_chars (s : Str) : Expansion raw (s.map .char) s := by
  induction s with
  | nil => exact .nil
  | cons c s ih => exact .char ih

lemma scan_plain (h : '%' ∉ value) : ∃ s, scan true 0 value = s.map .char ∧
    s.length ≤ value.length ∧ (s = value ↔ '\\' ∉ value) := by
  generalize hskip : 0 = skip
  fun_induction scan true skip value with
  | case1 => exact ⟨[], rfl, le_rfl, by simp⟩
  | case2 => cases hskip
  | case3 | case4 => exact absurd mem_cons_self h
  | case5 => exact ⟨[], rfl, Nat.zero_le 1, by simp⟩
  | case6 c cs ih =>
    simp only [mem_cons, not_or] at h
    obtain ⟨s, hscan, hlen, -⟩ := ih h.2.2 rfl
    refine ⟨c :: s, by rw [hscan]; rfl, Nat.succ_le_succ (Nat.le_succ_of_le hlen), ?_⟩
    constructor
    · intro heq
      have hlong := congrArg List.length heq
      simp only [length_cons] at hlong
      omega
    · exact fun hno => absurd mem_cons_self hno
  | case7 c cs _ hlast hslash ih =>
    rw [mem_cons, not_or] at h
    obtain ⟨s, hscan, hlen, hsame⟩ := ih h.2 rfl
    refine ⟨c :: s, by rw [hscan]; rfl, Nat.succ_le_succ hlen, ?_⟩
    have hc : '\\' ≠ c := by
      rintro rfl
      cases cs with
      | nil => exact hlast rfl rfl
      | cons d ds => exact hslash d ds rfl rfl
    rw [cons_inj_right, hsame, mem_cons, not_or]
    exact ⟨fun hno => ⟨hc, hno⟩, And.right⟩

lemma scan_other {c : Char} (hpercent : c ≠ '%') (hslash : c ≠ '\\') (cs : Str) :
    scan true 0 (c :: cs) = .char c :: scan true 0 cs := by
  rw [scan]
  · exact hpercent
  · exact fun hc _ => hslash hc
  · exact fun _ _ hc _ => hslash hc

def escape (s : Str) : Str := s.flatMap fun c => if c = '\\' ∨ c = '%' then ['\\', c] else [c]

lemma scan_escape (s : Str) : scan true 0 (escape s) = s.map .char := by
  induction s with
  | nil => rfl
  | cons c s ih =>
    rw [escape, flatMap_cons, map_cons]
    split
    · exact congrArg (Piece.char c :: ·) ih
    rename_i hplain
    rw [not_or] at hplain
    rw [singleton_append, scan_other hplain.2 hplain.1]
    exact congrArg (Piece.char c :: ·) ih

lemma mem_escape (s : Str) : ('%' ∈ escape s ↔ '%' ∈ s) ∧ ('\\' ∈ escape s ↔ '\\' ∈ s ∨ '%' ∈ s) := by
  induction s with
  | nil => simp [escape]
  | cons c s ih =>
    rw [escape, flatMap_cons, ← escape]
    simp only [mem_append, mem_cons, ih]
    split_ifs with hc
    · rcases hc with rfl | rfl <;> simp
    · rw [not_or] at hc
      simp [Ne.symm hc.1, Ne.symm hc.2]

lemma scan_skip (cs : Str) : scan true cs.length cs = [] := by
  induction cs with
  | nil => rfl
  | cons c cs ih => exact ih

lemma scan_reference {path : Str} (h : ')' ∉ path) :
    scan true 0 ('%' :: '(' :: (path ++ [')'])) = [.ref path] := by
  have href : reference ('(' :: (path ++ [')'])) = some path := by
    rw [reference, if_pos (by simp), takeWhile_append_of_pos (by
      intro c hc
      exact decide_eq_true (ne_of_mem_of_not_mem hc h))]
    simp
  have hlength : path.length + 2 = ('(' :: (path ++ [')'])).length := by simp
  rw [scan]
  simp only [if_true, href, hlength, scan_skip]

lemma nests_chars {s : Str} (h : scan true 0 value = s.map .char) (n : Nat) : Nests raw n value := by
  have hnone : ∀ path, .ref path ∉ scan true 0 value := by simp [h]
  cases n with
  | zero => exact fun path hmem => absurd hmem (hnone path)
  | succ => exact fun path _ hmem => absurd hmem (hnone path)

/-- A value stands for one text, and is read as that text unless it has escapes and no `%`. -/
lemma expandConfigValue_spec {t : Nvlist} (h : Nests (getRawConfigValue t) n value) (hn : n ≤ 15) :
    ∃ out, (∀ out', Expansion (getRawConfigValue t) (scan true 0 value) out' ↔ out' = out) ∧
    (expandConfigValue t value = out ↔ '%' ∈ value ∨ '\\' ∉ value) := by
  have hout := expandAt_expansion h (Nat.lt_succ_of_le hn)
  refine ⟨_, fun out' => ⟨fun hout' => hout'.unique hout, fun heq => heq ▸ hout⟩, ?_⟩
  rw [expandConfigValue]
  split_ifs with hpercent
  · simp [hpercent]
  obtain ⟨s, hscan, -, hsame⟩ := scan_plain hpercent
  rw [hscan] at hout
  rw [hout.unique (expansion_chars s), eq_comm, hsame]
  simp [hpercent]

theorem references_transparent (t : Nvlist) :
    (∀ value, Nests (getRawConfigValue t) 15 value → ∃ out,
      (∀ out', Expansion (getRawConfigValue t) (scan true 0 value) out' ↔ out' = out) ∧
      (expandConfigValue t value = out ↔ '%' ∈ value ∨ '\\' ∉ value)) ∧
    (∀ name path value, getRawConfigValue t name = some ('%' :: '(' :: (path ++ [')'])) →
      path ≠ [] → ')' ∉ path → getRawConfigValue t path = some value →
      Nests (getRawConfigValue t) 14 value →
      (getConfigValue t name = getConfigValue t path ↔ '%' ∈ value ∨ '\\' ∉ value)) ∧
    ∀ s, expandConfigValue t (escape s) = s ↔ '%' ∈ s ∨ '\\' ∉ s := by
  refine ⟨fun value h => expandConfigValue_spec h le_rfl, ?_, ?_⟩
  · intro name path value hname hne hpath hvalue hnests
    have hscan := scan_reference hpath
    have htarget : target (getRawConfigValue t) path = some value := by
      rw [target, if_neg hne, hvalue]
    have hfirst : Nests (getRawConfigValue t) 15 ('%' :: '(' :: (path ++ [')'])) := by
      intro path' next hmem hnext
      rw [hscan, mem_singleton] at hmem
      cases hmem
      rw [htarget] at hnext
      cases hnext
      exact hnests
    obtain ⟨out, hout, hread⟩ := expandConfigValue_spec hnests (by decide)
    obtain ⟨out', hout', hread'⟩ := expandConfigValue_spec hfirst le_rfl
    rw [hscan] at hout'
    have hsame := (hout' (out ++ [])).mp (.known htarget ((hout out).mpr rfl) .nil)
    rw [getConfigValue, getConfigValue, hname, hvalue, Option.map_some, Option.map_some,
      Option.some_inj, hread'.mpr (.inl mem_cons_self), ← hsame, append_nil, eq_comm,
      hread]
  · intro s
    have hnests : Nests (getRawConfigValue t) 15 (escape s) := nests_chars (scan_escape s) 15
    obtain ⟨out, hout, hread⟩ := expandConfigValue_spec hnests le_rfl
    rw [scan_escape] at hout
    rw [← (hout s).mp (expansion_chars s), (mem_escape s).1, (mem_escape s).2] at hread
    rw [hread]
    tauto

/-- `a` is written as a path with its backslashes escaped, and `b` refers to it. -/
def escapedPath : Nvlist :=
  .string "a".toList "c:\\\\x".toList (.string "b".toList "%(a)".toList .nil)

theorem escaped_path_read_raw :
    escape "c:\\x".toList = "c:\\\\x".toList ∧
      getConfigValue escapedPath "a".toList = some "c:\\\\x".toList ∧
      getConfigValue escapedPath "b".toList = some "c:\\x".toList := by
  decide

end ScorpiHv.Config

import Boardfarm.Python

/-!
# `re.search` for the patterns of `get_details_dict`

The patterns `get_details_dict` and `stat_file_timestamp` look for are sequences of literal
characters, single characters of a class, greedy runs of a class (`.*`, the tail of `\d+`) and
capturing groups. Such a pattern is a flat list of tokens, a group a pair of markers around its
tokens. `matchToks` is Python's backtracking matcher on it: the alternatives in the order `sre`
tries them, a greedy run longest first, the first success winning; `search` tries each start in
turn, as `re.search` does.

What a match spells is proved token by token (`matchToks_lits`, `matchToks_star_eq_some`,
`matchToks_digitsGroup`), so it holds whatever alternative the matcher settles on.
-/

namespace Boardfarm

/-- One token of a pattern. -/
inductive Tok where
  /-- A literal character. -/
  | lit (c : Char)
  /-- One character of the class. -/
  | cls (p : Char → Bool)
  /-- A greedy run of characters of the class. -/
  | star (p : Char → Bool)
  /-- Where group `n` starts. -/
  | groupStart (n : Nat)
  /-- Where group `n` ends. -/
  | groupEnd (n : Nat)

/-- The groups of a match so far: where each open group started (the rest of the subject there),
and the text of each closed group, the latest first. -/
structure Captures where
  starts : List (Nat × List Char)
  groups : List (Nat × List Char)

/-- `m.group(n)`. -/
def Captures.group (c : Captures) (n : Nat) : Option (List Char) := c.groups.lookup n

/-- The pattern of a literal string. -/
def lits (w : String) : List Tok := w.data.map .lit

/-- The first way the tokens match a prefix of `s`, in the order Python's matcher tries them: the
rest of `s` after the match, and the groups. -/
def matchToks : List Tok → List Char → Captures → Option (List Char × Captures)
  | [], s, c => some (s, c)
  | .lit d :: ts, s, c =>
    match s with
    | x :: s => if x = d then matchToks ts s c else none
    | [] => none
  | .cls p :: ts, s, c =>
    match s with
    | x :: s => if p x then matchToks ts s c else none
    | [] => none
  | .star p :: ts, s, c =>
    (List.range ((s.takeWhile p).length + 1)).reverse.findSome? fun k => matchToks ts (s.drop k) c
  | .groupStart n :: ts, s, c => matchToks ts s { c with starts := (n, s) :: c.starts }
  | .groupEnd n :: ts, s, c =>
    let start := (c.starts.lookup n).getD s
    matchToks ts s { c with groups := (n, start.take (start.length - s.length)) :: c.groups }

/-- `re.search(pattern, s)`: the groups of the first match, from the first start that has one. -/
def search (ts : List Tok) (s : List Char) : Option Captures :=
  (List.range (s.length + 1)).findSome? fun i => (matchToks ts (s.drop i) ⟨[], []⟩).map (·.2)

/-- `re.search(pattern, s)` with where its match ends: the rest of `s` after the first match, and
the groups. -/
def searchMatch (ts : List Tok) (s : List Char) : Option (List Char × Captures) :=
  (List.range (s.length + 1)).findSome? fun i => matchToks ts (s.drop i) ⟨[], []⟩

/-- `re.search` for a pattern with one alternation, given as the alternatives each followed by the
rest of the pattern: at each start `sre` tries them in turn, backtracking into the alternation only
when the rest fails after the alternative it took. -/
def searchAlts (alts : List (List Tok)) (s : List Char) : Option Captures :=
  (List.range (s.length + 1)).findSome? fun i =>
    alts.findSome? fun ts => (matchToks ts (s.drop i) ⟨[], []⟩).map (·.2)

/-- `(\d+)\r`, the digits as group `n`. -/
def digitsGroup (n : Nat) : List Tok :=
  [.groupStart n, .cls Py.isDecimal, .star Py.isDecimal, .groupEnd n, .lit '\r']

/-- `Connecting to host (.*), port (\d+)\r`. -/
def connectingPattern : List Tok :=
  lits "Connecting to host " ++ [.groupStart 1, .star (· != '\n'), .groupEnd 1] ++ lits ", port " ++
    digitsGroup 2

/-- `(Server listening on (\d+)\r)`. -/
def listeningPattern : List Tok :=
  .groupStart 1 :: lits "Server listening on " ++ digitsGroup 2 ++ [.groupEnd 1]

/-- `([0-9]{20})`. -/
def twentyAsciiDigits : List Tok :=
  .groupStart 1 :: List.replicate 20 (.cls Py.isAsciiDigit) ++ [.groupEnd 1]

section Lemmas

variable {ts : List Tok} {c : Captures}

theorem matchToks_lit_cons (d x : Char) (s : List Char) :
    matchToks (.lit d :: ts) (x :: s) c = if x = d then matchToks ts s c else none := rfl

theorem matchToks_cls_cons (p : Char → Bool) (x : Char) (s : List Char) :
    matchToks (.cls p :: ts) (x :: s) c = if p x then matchToks ts s c else none := rfl

theorem matchToks_groupStart (n : Nat) (s : List Char) :
    matchToks (.groupStart n :: ts) s c = matchToks ts s { c with starts := (n, s) :: c.starts } :=
  rfl

theorem matchToks_groupEnd (n : Nat) (s : List Char) :
    matchToks (.groupEnd n :: ts) s c =
      matchToks ts s { c with groups := (n, ((c.starts.lookup n).getD s).take
        (((c.starts.lookup n).getD s).length - s.length)) :: c.groups } := rfl

theorem matchToks_lits (w : List Char) :
    ∀ s : List Char, matchToks (w.map .lit ++ ts) s c =
      if w.isPrefixOf s then matchToks ts (s.drop w.length) c else none := by
  induction w with
  | nil => intro s; simp [List.isPrefixOf]
  | cons d w ih =>
    intro s
    cases s with
    | nil => rfl
    | cons x s =>
      rw [List.map_cons, List.cons_append, matchToks_lit_cons, ih, List.isPrefixOf_cons₂]
      by_cases hx : x = d
      · simp [hx]
      · simp [hx, Ne.symm hx]

/-- A greedy run takes some prefix of the run of its class, then the rest of the pattern matches. -/
theorem matchToks_star_eq_some {p : Char → Bool} {s : List Char} {r : List Char × Captures}
    (h : matchToks (.star p :: ts) s c = some r) :
    ∃ k, k ≤ (s.takeWhile p).length ∧ matchToks ts (s.drop k) c = some r := by
  obtain ⟨k, hk, hm⟩ := List.exists_of_findSome?_eq_some h
  exact ⟨k, by simpa [Nat.lt_succ_iff] using hk, hm⟩

theorem forall_mem_take_of_le_takeWhile {p : Char → Bool} {s : List Char} {k : Nat}
    (hk : k ≤ (s.takeWhile p).length) : ∀ x ∈ s.take k, p x := by
  have hpre : s.take k = (s.takeWhile p).take k := by
    rw [List.prefix_iff_eq_take.mp (List.takeWhile_prefix p), List.take_take, Nat.min_eq_left hk]
  intro x hx
  rw [hpre] at hx
  exact List.mem_takeWhile_imp (List.mem_of_mem_take hx)

theorem matchToks_digitsGroup {n : Nat} {s : List Char} {r : List Char × Captures}
    (h : matchToks (digitsGroup n ++ ts) s c = some r) :
    ∃ port rest, s = port ++ '\r' :: rest ∧ port ≠ [] ∧ (∀ x ∈ port, Py.isDecimal x) ∧
      matchToks ts rest
        { c with starts := (n, s) :: c.starts, groups := (n, port) :: c.groups } = some r := by
  cases s with
  | nil => cases h
  | cons x s =>
    simp only [digitsGroup, List.cons_append, matchToks_groupStart, List.nil_append,
      matchToks_cls_cons] at h
    split_ifs at h with hx
    obtain ⟨k, hk, h⟩ := matchToks_star_eq_some h
    have hks : k ≤ s.length := hk.trans (List.takeWhile_prefix _).length_le
    rw [matchToks_groupEnd] at h
    simp only [List.lookup_cons_self, Option.getD_some, List.length_cons, List.length_drop] at h
    rw [show s.length + 1 - (s.length - k) = k + 1 by omega, List.take_succ_cons] at h
    cases hr : s.drop k with
    | nil => rw [hr] at h; cases h
    | cons y rest =>
      rw [hr, matchToks_lit_cons] at h
      split_ifs at h with hy
      subst hy
      refine ⟨x :: s.take k, rest, ?_, List.cons_ne_nil _ _, ?_, h⟩
      · rw [List.cons_append, ← hr, List.take_append_drop]
      · intro z hz
        rcases List.mem_cons.mp hz with rfl | hz
        · exact hx
        · exact forall_mem_take_of_le_takeWhile hk z hz

theorem searchAlts_eq_some {alts : List (List Tok)} {s : List Char} (h : searchAlts alts s = some c) :
    ∃ i, ∃ ts ∈ alts, ∃ r, matchToks ts (s.drop i) ⟨[], []⟩ = some (r, c) := by
  obtain ⟨i, -, hi⟩ := List.exists_of_findSome?_eq_some h
  obtain ⟨ts, hts, hm⟩ := List.exists_of_findSome?_eq_some hi
  obtain ⟨⟨r, c'⟩, hm', rfl⟩ := Option.map_eq_some'.mp hm
  exact ⟨i, ts, hts, r, hm'⟩

theorem search_eq_some {s : List Char} (h : search ts s = some c) :
    ∃ i r, matchToks ts (s.drop i) ⟨[], []⟩ = some (r, c) := by
  obtain ⟨i, -, hi⟩ := List.exists_of_findSome?_eq_some h
  obtain ⟨⟨r, c'⟩, hm, rfl⟩ := Option.map_eq_some'.mp hi
  exact ⟨i, r, hm⟩

/-- The start a search settles on is the first that matches. -/
theorem exists_first_of_findSome?_range {β : Type} {f : Nat → Option β} {b : β} :
    ∀ {n : Nat}, (List.range n).findSome? f = some b → ∃ i < n, f i = some b ∧ ∀ j < i, f j = none
  | 0, h => by cases h
  | n + 1, h => by
    rw [List.range_succ, List.findSome?_append] at h
    cases hn : (List.range n).findSome? f with
    | some b' =>
      rw [hn, Option.or_some] at h
      obtain ⟨i, hi, hfi, hj⟩ := exists_first_of_findSome?_range (hn.trans h)
      exact ⟨i, by omega, hfi, hj⟩
    | none =>
      rw [hn, Option.none_or, List.findSome?_cons] at h
      refine ⟨n, by omega, ?_, fun j hj => List.findSome?_eq_none_iff.mp hn j (List.mem_range.mpr hj)⟩
      revert h; cases f n <;> simp

theorem eq_append_of_isPrefixOf {w s : List Char} (h : w.isPrefixOf s) : s = w ++ s.drop w.length :=
  (List.prefix_iff_eq_append.mp (List.isPrefixOf_iff_prefix.mp h)).symm

theorem matchToks_replicate_cls {p : Char → Bool} :
    ∀ (n : Nat) {s : List Char} {r : List Char × Captures},
      matchToks (List.replicate n (.cls p) ++ ts) s c = some r →
      ∃ d rest, s = d ++ rest ∧ d.length = n ∧ (∀ x ∈ d, p x) ∧ matchToks ts rest c = some r
  | 0, s, _, h => ⟨[], s, rfl, rfl, by simp, h⟩
  | n + 1, [], _, h => by cases h
  | n + 1, x :: s, _, h => by
    rw [List.replicate_succ, List.cons_append, matchToks_cls_cons] at h
    split_ifs at h with hx
    obtain ⟨d, rest, rfl, hl, hd, h⟩ := matchToks_replicate_cls n h
    exact ⟨x :: d, rest, rfl, by simp [hl], by simpa [hx] using hd, h⟩

theorem matchToks_replicate_cls_append {p : Char → Bool} :
    ∀ (d rest : List Char), (∀ x ∈ d, p x) →
      matchToks (List.replicate d.length (.cls p) ++ ts) (d ++ rest) c = matchToks ts rest c
  | [], _, _ => rfl
  | x :: d, rest, h => by
    rw [List.length_cons, List.replicate_succ, List.cons_append, List.cons_append, matchToks_cls_cons,
      if_pos (h x (List.mem_cons_self _ _)),
      matchToks_replicate_cls_append d rest fun y hy => h y (List.mem_cons_of_mem _ hy)]

theorem matchToks_lits_append (w s : List Char) :
    matchToks (w.map .lit ++ ts) (w ++ s) c = matchToks ts s c := by
  rw [matchToks_lits, if_pos (List.isPrefixOf_iff_prefix.mpr (List.prefix_append w s)),
    List.drop_left]

/-- A greedy run matches when the rest of the pattern matches after some prefix of the run: the
matcher tries every length, longest first. -/
theorem matchToks_star_isSome {p : Char → Bool} {s : List Char} {k : Nat}
    (hk : k ≤ (s.takeWhile p).length) (h : (matchToks ts (s.drop k) c).isSome) :
    (matchToks (.star p :: ts) s c).isSome :=
  List.findSome?_isSome_iff.mpr
    ⟨k, List.mem_reverse.mpr (List.mem_range.mpr (Nat.lt_succ_of_le hk)), h⟩

theorem matchToks_digitsGroup_isSome {n : Nat} {port rest : List Char} (hne : port ≠ [])
    (hd : ∀ x ∈ port, Py.isDecimal x) (h : ∀ c', (matchToks ts rest c').isSome) :
    (matchToks (digitsGroup n ++ ts) (port ++ '\r' :: rest) c).isSome := by
  obtain ⟨x, ps, rfl⟩ := List.exists_cons_of_ne_nil hne
  simp only [digitsGroup, List.cons_append, List.nil_append, matchToks_groupStart,
    matchToks_cls_cons, if_pos (hd x (List.mem_cons_self _ _))]
  refine matchToks_star_isSome (k := ps.length) ?_ ?_
  · rw [List.takeWhile_append_of_pos fun y hy => hd y (List.mem_cons_of_mem _ hy),
      List.length_append]
    exact Nat.le_add_right _ _
  · rw [List.drop_left, matchToks_groupEnd, matchToks_lit_cons, if_pos rfl]
    exact h _

theorem search_isSome {s : List Char} {i : Nat} (hi : i ≤ s.length)
    (h : (matchToks ts (s.drop i) ⟨[], []⟩).isSome) : (search ts s).isSome :=
  List.findSome?_isSome_iff.mpr
    ⟨i, List.mem_range.mpr (Nat.lt_succ_of_le hi), by rwa [Option.isSome_map']⟩

theorem matchToks_group_lits (n : Nat) (w s : List Char) :
    matchToks (.groupStart n :: (w.map .lit ++ .groupEnd n :: ts)) s c =
      if w.isPrefixOf s then
        matchToks ts (s.drop w.length) ⟨(n, s) :: c.starts, (n, w) :: c.groups⟩
      else none := by
  rw [matchToks_groupStart, matchToks_lits]
  split_ifs with h
  · have hp := List.isPrefixOf_iff_prefix.mp h
    rw [matchToks_groupEnd]
    simp only [List.lookup_cons_self, Option.getD_some, List.length_drop,
      Nat.sub_sub_self hp.length_le, ← List.prefix_iff_eq_take.mp hp]
  · rfl

theorem matchToks_star_of_isSome {p : Char → Bool} {s : List Char}
    (h : ∀ s c, (matchToks ts s c).isSome) :
    matchToks (.star p :: ts) s c = matchToks ts (s.dropWhile p) c := by
  have hd : s.drop (s.takeWhile p).length = s.dropWhile p := by
    have := List.drop_left (s.takeWhile p) (s.dropWhile p)
    rwa [List.takeWhile_append_dropWhile] at this
  show (List.range ((s.takeWhile p).length + 1)).reverse.findSome? _ = _
  rw [List.range_succ, List.reverse_append, List.reverse_singleton, List.singleton_append,
    List.findSome?_cons_of_isSome (f := fun k => matchToks ts (s.drop k) c) _ (h _ _), hd]

end Lemmas

/-! ## What the patterns find -/

/-- What `Connecting to host (.*), port (\d+)\r` finds: a host on one line, then the port, a run
of decimal digits followed by `\r`, which is group 2. -/
theorem search_connecting {s : List Char} {c : Captures} (h : search connectingPattern s = some c) :
    ∃ pre host port rest,
      s = pre ++ "Connecting to host ".data ++ host ++ ", port ".data ++ port ++ '\r' :: rest ∧
        (∀ x ∈ host, x ≠ '\n') ∧ port ≠ [] ∧ (∀ x ∈ port, Py.isDecimal x) ∧ c.group 2 = some port := by
  obtain ⟨i, r, h⟩ := search_eq_some h
  rw [connectingPattern, lits, List.append_assoc, List.append_assoc, matchToks_lits] at h
  split_ifs at h with h₁
  simp only [List.cons_append, matchToks_groupStart] at h
  obtain ⟨k, hk, h⟩ := matchToks_star_eq_some h
  rw [matchToks_groupEnd, List.nil_append, lits, matchToks_lits] at h
  split_ifs at h with h₂
  obtain ⟨port, rest, hs, hne, hd, h⟩ := @matchToks_digitsGroup [] _ _ _ _
    (by rwa [List.append_nil])
  obtain ⟨rfl, rfl⟩ := Prod.mk.inj (Option.some.inj h)
  have e₁ := eq_append_of_isPrefixOf h₁
  have e₂ := eq_append_of_isPrefixOf h₂
  refine ⟨s.take i, ((s.drop i).drop "Connecting to host ".data.length).take k, port, rest, ?_,
    fun x hx => by simpa using forall_mem_take_of_le_takeWhile hk x hx, hne, hd, rfl⟩
  calc s = s.take i ++ s.drop i := (List.take_append_drop i s).symm
    _ = _ := by
      conv_lhs => rw [e₁, ← List.take_append_drop k (List.drop _ (List.drop i s)), e₂, hs]
      simp only [List.append_assoc]

/-- What `(Server listening on (\d+)\r)` finds: the port, a run of decimal digits followed by
`\r`, which is group 2. -/
theorem search_listening {s : List Char} {c : Captures} (h : search listeningPattern s = some c) :
    ∃ pre port rest, s = pre ++ "Server listening on ".data ++ port ++ '\r' :: rest ∧ port ≠ [] ∧
      (∀ x ∈ port, Py.isDecimal x) ∧ c.group 2 = some port := by
  obtain ⟨i, r, h⟩ := search_eq_some h
  rw [listeningPattern, List.cons_append, List.cons_append, matchToks_groupStart, lits,
    List.append_assoc, matchToks_lits] at h
  split_ifs at h with h₁
  obtain ⟨port, rest, hs, hne, hd, h⟩ := matchToks_digitsGroup h
  rw [matchToks_groupEnd] at h
  obtain ⟨rfl, rfl⟩ := Prod.mk.inj (Option.some.inj h)
  refine ⟨s.take i, port, rest, ?_, hne, hd, rfl⟩
  calc s = s.take i ++ s.drop i := (List.take_append_drop i s).symm
    _ = _ := by
      conv_lhs => rw [eq_append_of_isPrefixOf h₁, hs]
      simp only [List.append_assoc]

/-- What `([0-9]{20})` first finds: twenty ASCII digits, which are group 1, where no twenty ASCII
digits start earlier; and the rest of the subject after them. -/
theorem searchMatch_twentyAsciiDigits {s rest : List Char} {c : Captures}
    (h : searchMatch twentyAsciiDigits s = some (rest, c)) :
    ∃ pre digits, s = pre ++ digits ++ rest ∧ digits.length = 20 ∧
      (∀ x ∈ digits, Py.isAsciiDigit x) ∧ c.group 1 = some digits ∧
      ∀ i < pre.length, ∃ x ∈ (s.drop i).take 20, Py.isAsciiDigit x = false := by
  obtain ⟨i, hi, hm, hfirst⟩ := exists_first_of_findSome?_range h
  rw [twentyAsciiDigits, List.cons_append, matchToks_groupStart] at hm
  obtain ⟨digits, r, hs, hl, hd, hm⟩ := matchToks_replicate_cls 20 hm
  rw [matchToks_groupEnd] at hm
  obtain ⟨rfl, rfl⟩ := Prod.mk.inj (Option.some.inj hm).symm
  have hsplit : s = s.take i ++ digits ++ rest := by
    rw [List.append_assoc, ← hs, List.take_append_drop]
  have hlen : i + 20 ≤ s.length := by
    have := congrArg List.length hs
    simp only [List.length_drop, List.length_append, hl] at this
    omega
  refine ⟨s.take i, digits, hsplit, hl, hd, by simp [Captures.group, hs], fun j hj => ?_⟩
  rw [List.length_take, Nat.min_eq_left (by omega)] at hj
  by_contra hall
  push_neg at hall
  have hdj : ((s.drop j).take 20).length = 20 := by
    rw [List.length_take, List.length_drop]
    omega
  have hsome := @matchToks_replicate_cls_append [.groupEnd 1] ⟨[(1, s.drop j)], []⟩ _
    ((s.drop j).take 20) ((s.drop j).drop 20) fun x hx => Bool.of_not_eq_false (hall x hx)
  rw [hdj, List.take_append_drop] at hsome
  have hnone := hfirst j hj
  rw [twentyAsciiDigits, List.cons_append, matchToks_groupStart, hsome, matchToks_groupEnd] at hnone
  cases hnone

/-! ## When the patterns match -/

theorem search_connecting_isSome {pre host port rest : List Char} (hh : ∀ x ∈ host, x ≠ '\n')
    (hne : port ≠ []) (hd : ∀ x ∈ port, Py.isDecimal x) :
    (search connectingPattern
      (pre ++ "Connecting to host ".data ++ host ++ ", port ".data ++ port ++ '\r' :: rest)).isSome := by
  refine search_isSome (i := pre.length) (by simp) ?_
  rw [show pre ++ "Connecting to host ".data ++ host ++ ", port ".data ++ port ++ '\r' :: rest =
      pre ++ ("Connecting to host ".data ++ (host ++ (", port ".data ++ (port ++ '\r' :: rest)))) by
    simp only [List.append_assoc], List.drop_left, connectingPattern, lits, lits, List.append_assoc,
    List.append_assoc, matchToks_lits_append, List.cons_append, List.cons_append, List.cons_append,
    List.nil_append, matchToks_groupStart]
  refine matchToks_star_isSome (k := host.length) ?_ ?_
  · rw [List.takeWhile_append_of_pos fun y hy => bne_iff_ne.mpr (hh y hy), List.length_append]
    exact Nat.le_add_right _ _
  · rw [List.drop_left, matchToks_groupEnd, matchToks_lits_append, ← List.append_nil (digitsGroup 2)]
    exact matchToks_digitsGroup_isSome hne hd fun _ => rfl

theorem search_listening_isSome {pre port rest : List Char} (hne : port ≠ [])
    (hd : ∀ x ∈ port, Py.isDecimal x) :
    (search listeningPattern (pre ++ "Server listening on ".data ++ port ++ '\r' :: rest)).isSome := by
  refine search_isSome (i := pre.length) (by simp) ?_
  simp only [List.append_assoc, List.drop_left, listeningPattern, lits, List.cons_append,
    matchToks_groupStart, matchToks_lits_append]
  exact matchToks_digitsGroup_isSome hne hd fun _ => rfl

end Boardfarm

import Mathlib.Algebra.Group.Int
import Mathlib.Algebra.Group.Nat.Basic
import Mathlib.Data.List.Basic
import Mathlib.Data.List.Infix

/-!
# Python's text primitives

The string operations the modelled code calls, as CPython 3.11 computes them: `str.isdigit`,
`int()`, `str.strip`, `str.split` on one character and on a longer separator, `str.replace` of
one character, `in` between strings, `str.startswith` and the `repr` of a string that error
messages quote. Character classes follow the Unicode 14 database CPython 3.11 ships: a decimal
digit (what `\d` matches and `int()` reads) lies in one of the 66 runs of ten code points that
start at `decimalZeros`.

The exceptions the modelled code raises, or lets through, are `PyError`.
-/

namespace Boardfarm

/-- Results compare by their constructor and what it holds. -/
instance instDecidableEqExcept {ε α : Type} [DecidableEq ε] [DecidableEq α] :
    DecidableEq (Except ε α) := fun x y =>
  match x, y with
  | .error a, .error b =>
    if h : a = b then isTrue (h ▸ rfl) else isFalse fun e => h (Except.error.inj e)
  | .ok a, .ok b => if h : a = b then isTrue (h ▸ rfl) else isFalse fun e => h (Except.ok.inj e)
  | .error _, .ok _ => isFalse fun e => Except.noConfusion e
  | .ok _, .error _ => isFalse fun e => Except.noConfusion e

/-- The exceptions the modelled code raises, or lets through from what it calls. -/
inductive PyError where
  | valueError (msg : String)
  | typeError (msg : String)
  | indexError (msg : String)
  | attributeError (msg : String)
  | assertionError
  | addressValueError (msg : String)
  | overflowError (msg : String)
  | eofError (msg : String)
  | codeError (msg : String)
  | contingencyCheckError (msg : String)
  | other (cls msg : String)
  deriving DecidableEq, Repr

/-- What a call that changes an object leaves: the object's new state, and the exception the call
raised, if any. Python keeps the changes made before a raise. -/
structure Outcome (σ : Type) where
  state : σ
  raised : Option PyError

/-- Every exception the computation raises satisfies `P`. -/
def Raises {α : Type} (P : PyError → Prop) (x : Except PyError α) : Prop :=
  ∀ e, x = .error e → P e

theorem Raises.bind {α β : Type} {P : PyError → Prop} {x : Except PyError α}
    {f : α → Except PyError β} (hx : Raises P x) (hf : ∀ a, Raises P (f a)) : Raises P (x >>= f) := by
  intro e h
  cases x with
  | error e₀ =>
    have he : Except.error e₀ = Except.error e := h
    cases he
    exact hx _ rfl
  | ok a => exact hf a e h

theorem Raises.ok {α : Type} {P : PyError → Prop} (a : α) : Raises P (.ok a) := by
  rintro e ⟨⟩

theorem Raises.error {α : Type} {P : PyError → Prop} {e : PyError} (he : P e) :
    Raises P (.error e : Except PyError α) := by
  rintro e' ⟨⟩
  exact he

theorem Raises.dite {α : Type} {P : PyError → Prop} {c : Prop} [Decidable c]
    {a : c → Except PyError α} {b : ¬c → Except PyError α} (ha : ∀ h, Raises P (a h))
    (hb : ∀ h, Raises P (b h)) : Raises P (dite c a b) := by
  by_cases h : c
  · rw [dif_pos h]
    exact ha h
  · rw [dif_neg h]
    exact hb h

theorem dite_error_eq_ok {α : Type} {c : Prop} [Decidable c] {e : c → PyError}
    {b : ¬c → Except PyError α} {t : α} (h : dite c (fun hc => .error (e hc)) b = .ok t) :
    ∃ hc : ¬c, b hc = .ok t := by
  by_cases hc : c
  · rw [dif_pos hc] at h
    cases h
  · rw [dif_neg hc] at h
    exact ⟨hc, h⟩

theorem Raises.imp {α : Type} {P Q : PyError → Prop} {x : Except PyError α} (h : Raises P x)
    (hpq : ∀ e, P e → Q e) : Raises Q x :=
  fun e he => hpq e (h e he)

theorem bind_eq_ok {α β : Type} {x : Except PyError α} {f : α → Except PyError β} {b : β}
    (h : (x >>= f) = .ok b) : ∃ a, x = .ok a ∧ f a = .ok b := by
  cases x with
  | error e => cases h
  | ok a => exact ⟨a, rfl, h⟩

theorem mapM_cons_eq_ok {α β : Type} {f : α → Except PyError β} {a : α} {l : List α}
    {bs : List β} (h : (a :: l).mapM f = .ok bs) :
    ∃ b bs', f a = .ok b ∧ l.mapM f = .ok bs' ∧ bs = b :: bs' := by
  rw [List.mapM_cons] at h
  obtain ⟨b, hb, h⟩ := bind_eq_ok h
  obtain ⟨bs', hbs', h⟩ := bind_eq_ok h
  cases h
  exact ⟨b, bs', hb, hbs', rfl⟩

def IsValueError (e : PyError) : Prop := ∃ msg, e = .valueError msg

namespace Py

section Chars

/-- The first code point of each run of ten decimal digits. -/
def decimalZeros : List Nat :=
  [48, 1632, 1776, 1984, 2406, 2534, 2662, 2790, 2918, 3046, 3174, 3302, 3430, 3558, 3664, 3792,
    3872, 4160, 4240, 6112, 6160, 6470, 6608, 6784, 6800, 6992, 7088, 7232, 7248, 42528, 43216,
    43264, 43472, 43504, 43600, 44016, 65296, 66720, 68912, 69734, 69872, 69942, 70096, 70384,
    70736, 70864, 71248, 71360, 71472, 71904, 72016, 72784, 73040, 73120, 92768, 92864, 93008,
    120782, 120792, 120802, 120812, 120822, 123200, 123632, 125264, 130032]

/-- The runs of characters `str.isdigit` accepts that are not decimal digits: superscripts,
circled and parenthesised digits and the like. -/
def digitOnlyRuns : List (Nat × Nat) :=
  [(178, 179), (185, 185), (4969, 4977), (6618, 6618), (8304, 8304), (8308, 8313), (8320, 8329),
    (9312, 9320), (9332, 9340), (9352, 9360), (9450, 9450), (9461, 9469), (9471, 9471),
    (10102, 10110), (10112, 10120), (10122, 10130), (68160, 68163), (69216, 69224),
    (69714, 69722), (127232, 127242)]

/-- The runs of characters `str.isspace` accepts. -/
def spaceRuns : List (Nat × Nat) :=
  [(9, 13), (28, 32), (133, 133), (160, 160), (5760, 5760), (8192, 8202), (8232, 8233),
    (8239, 8239), (8287, 8287), (12288, 12288)]

def inRuns (runs : List (Nat × Nat)) (c : Char) : Bool :=
  runs.any fun r => r.1 ≤ c.toNat && c.toNat ≤ r.2

/-- The digit a decimal digit stands for; `none` for any other character. -/
def decimalValue (c : Char) : Option Nat :=
  (decimalZeros.find? fun z => z ≤ c.toNat && c.toNat < z + 10).map (c.toNat - ·)

/-- `c.isdecimal()`, the class `\d` matches. -/
def isDecimal (c : Char) : Bool := (decimalValue c).isSome

/-- `c.isdigit()`. -/
def isDigitChar (c : Char) : Bool := isDecimal c || inRuns digitOnlyRuns c

/-- `c.isspace()`. -/
def isSpace (c : Char) : Bool := inRuns spaceRuns c

/-- The whitespace `int()` skips around a numeral: the six ASCII blanks, and every non-ASCII
character `str.isspace` accepts. -/
def isIntSpace (c : Char) : Bool :=
  (9 ≤ c.toNat && c.toNat ≤ 13) || c.toNat = 32 || (127 < c.toNat && isSpace c)

theorem decimalValue_ascii {c : Char} (h0 : 48 ≤ c.toNat) (h9 : c.toNat < 58) :
    decimalValue c = some (c.toNat - 48) := by
  simp [decimalValue, decimalZeros, h0, h9]

theorem decimalValue_lt_ten {c : Char} {v : Nat} (h : decimalValue c = some v) : v < 10 := by
  simp only [decimalValue, Option.map_eq_some'] at h
  obtain ⟨z, hz, rfl⟩ := h
  have := List.find?_some hz
  simp only [Bool.and_eq_true, decide_eq_true_eq] at this
  omega

end Chars

section Strings

def trimBy (p : Char → Bool) (l : List Char) : List Char :=
  ((l.dropWhile p).reverse.dropWhile p).reverse

/-- `s.strip()`. -/
def strip (s : String) : String := ⟨trimBy isSpace s.data⟩

/-- `s.split(sep)` for a one-character separator. -/
def split (s : String) (sep : Char) : List String := (s.data.splitOn sep).map String.mk

theorem splitOnP_append_sep {p : Char → Bool} {sep : Char} (hsep : p sep) :
    ∀ (a b : List Char), (a ++ sep :: b).splitOnP p = a.splitOnP p ++ b.splitOnP p
  | [], b => by simp [hsep]
  | x :: a, b => by
    rw [List.cons_append, List.splitOnP_cons, List.splitOnP_cons, splitOnP_append_sep hsep a b]
    split
    · rfl
    · obtain ⟨l, ls, hl⟩ := List.exists_cons_of_ne_nil (List.splitOnP_ne_nil p a)
      rw [hl]
      rfl

theorem split_append_sep (a b : List Char) (sep : Char) :
    split ⟨a ++ sep :: b⟩ sep = split ⟨a⟩ sep ++ split ⟨b⟩ sep := by
  simp only [split, List.splitOn]
  rw [splitOnP_append_sep (p := (· == sep)) (beq_self_eq_true sep), List.map_append]

theorem split_of_not_mem {s : String} {sep : Char} (h : sep ∉ s.data) : split s sep = [s] := by
  rw [split, List.splitOn, List.splitOnP_eq_single _ _ fun x hx hb => h (by
    simp only [beq_iff_eq] at hb
    exact hb ▸ hx)]
  rfl

/-- The pieces `s.split(sep)` cuts `s` into. The scan goes from the left, and after an occurrence
of `sep` it passes the `skip` characters of that occurrence still ahead, so occurrences do not
overlap. -/
def splitStrFrom (sep : List Char) : Nat → List Char → List (List Char)
  | _, [] => [[]]
  | skip + 1, _ :: s => splitStrFrom sep skip s
  | 0, c :: s =>
    if sep.isPrefixOf (c :: s) then [] :: splitStrFrom sep (sep.length - 1) s
    else (splitStrFrom sep 0 s).modifyHead (c :: ·)

/-- `s.split(sep)`, which refuses an empty separator. -/
def splitStr (s sep : String) : Except PyError (List String) :=
  if sep.isEmpty then .error (.valueError "empty separator")
  else .ok ((splitStrFrom sep.data 0 s.data).map String.mk)

/-- `s.replace(old, new)` for a one-character `old` and `new`. -/
def replace (s : String) (old new : Char) : String := ⟨s.data.map fun c => if c = old then new else c⟩

/-- What `s.replace(old, new)` makes of `s` for a non-empty `old`: the scan goes from the left, and
after an occurrence it passes the `skip` characters of that occurrence still ahead, so occurrences
do not overlap. -/
def replaceFrom (old new : List Char) : Nat → List Char → List Char
  | _, [] => []
  | skip + 1, _ :: s => replaceFrom old new skip s
  | 0, c :: s =>
    if old.isPrefixOf (c :: s) then new ++ replaceFrom old new (old.length - 1) s
    else c :: replaceFrom old new 0 s

/-- `s.replace(old, new)`; an empty `old` matches before each character and at the end. -/
def replaceStr (s old new : String) : String :=
  if old.isEmpty then ⟨new.data ++ s.data.flatMap fun c => c :: new.data⟩
  else ⟨replaceFrom old.data new.data 0 s.data⟩

/-- No occurrence of `sep` starts inside `xs` when `rest` follows it. -/
def NoMatchIn (sep xs rest : List Char) : Prop :=
  ∀ t ∈ xs.tails, t ≠ [] → sep.isPrefixOf (t ++ rest) = false

theorem isPrefixOf_cons_of_head? {e : Char} {ds l : List Char} (h : l.head? ≠ some e) :
    (e :: ds).isPrefixOf l = false := by
  cases l with
  | nil => rfl
  | cons x l =>
    have hx : e ≠ x := fun he => h (he ▸ rfl)
    simp [List.isPrefixOf, hx]

theorem noMatchIn_of_not_mem {d : Char} {ds xs : List Char} (rest : List Char) (h : d ∉ xs) :
    NoMatchIn (d :: ds) xs rest := by
  intro t ht hne
  obtain ⟨y, t', rfl⟩ := List.exists_cons_of_ne_nil hne
  have hy : y ∈ xs := ((List.mem_tails _ _).mp ht).subset (List.mem_cons_self _ _)
  exact isPrefixOf_cons_of_head? fun he => h (Option.some_injective _ he ▸ hy)

theorem noMatchIn_of_not_mem_second {d e : Char} {ds xs rest : List Char} (h : e ∉ xs)
    (hrest : rest.head? ≠ some e) : NoMatchIn (d :: e :: ds) xs rest := by
  intro t ht hne
  obtain ⟨y, t', rfl⟩ := List.exists_cons_of_ne_nil hne
  have hsub : t' ⊆ xs := fun z hz =>
    ((List.mem_tails _ _).mp ht).subset (List.mem_cons_of_mem _ hz)
  have hsecond : (t' ++ rest).head? ≠ some e := by
    cases t' with
    | nil => exact hrest
    | cons z t' => exact fun he => h (Option.some_injective _ he ▸ hsub (List.mem_cons_self _ _))
  rw [List.cons_append, List.isPrefixOf, isPrefixOf_cons_of_head? hsecond, Bool.and_false]

theorem splitStrFrom_skip (sep : List Char) :
    ∀ (l s : List Char), splitStrFrom sep l.length (l ++ s) = splitStrFrom sep 0 s
  | [], _ => rfl
  | _ :: l, s => splitStrFrom_skip sep l s

theorem splitStrFrom_append_sep {sep : List Char} (hsep : sep ≠ []) :
    ∀ {xs : List Char} (rest : List Char), NoMatchIn sep xs (sep ++ rest) →
      splitStrFrom sep 0 (xs ++ (sep ++ rest)) = xs :: splitStrFrom sep 0 rest
  | [], rest, _ => by
    obtain ⟨d, ds, rfl⟩ := List.exists_cons_of_ne_nil hsep
    have hpre : (d :: ds).isPrefixOf (d :: (ds ++ rest)) :=
      List.isPrefixOf_iff_prefix.mpr (List.prefix_append (d :: ds) rest)
    rw [List.nil_append, List.cons_append, splitStrFrom, if_pos hpre, List.length_cons,
      Nat.add_sub_cancel, splitStrFrom_skip]
  | x :: xs, rest, h => by
    have hx := h (x :: xs) ((List.mem_tails _ _).mpr (List.suffix_refl _)) (List.cons_ne_nil _ _)
    rw [List.cons_append, splitStrFrom, if_neg (by rw [← List.cons_append, hx]; decide),
      splitStrFrom_append_sep hsep rest fun t ht => h t (List.mem_cons_of_mem _ ht)]
    rfl

theorem splitStrFrom_of_noMatchIn {sep : List Char} (hsep : sep ≠ []) :
    ∀ {xs : List Char}, NoMatchIn sep xs [] → splitStrFrom sep 0 xs = [xs]
  | [], _ => rfl
  | x :: xs, h => by
    have hx := h (x :: xs) ((List.mem_tails _ _).mpr (List.suffix_refl _)) (List.cons_ne_nil _ _)
    rw [List.append_nil] at hx
    rw [splitStrFrom, if_neg (by rw [hx]; decide),
      splitStrFrom_of_noMatchIn hsep fun t ht => h t (List.mem_cons_of_mem _ ht)]
    rfl

theorem replaceFrom_skip (old new : List Char) :
    ∀ (l s : List Char), replaceFrom old new l.length (l ++ s) = replaceFrom old new 0 s
  | [], _ => rfl
  | _ :: l, s => replaceFrom_skip old new l s

theorem replaceFrom_of_noMatchIn {old : List Char} (new : List Char) :
    ∀ {xs : List Char}, NoMatchIn old xs [] → replaceFrom old new 0 xs = xs
  | [], _ => rfl
  | x :: xs, h => by
    have hx := h (x :: xs) ((List.mem_tails _ _).mpr (List.suffix_refl _)) (List.cons_ne_nil _ _)
    rw [List.append_nil] at hx
    rw [replaceFrom, if_neg (by rw [hx]; decide),
      replaceFrom_of_noMatchIn new fun t ht => h t (List.mem_cons_of_mem _ ht)]

theorem replaceFrom_append_sep {old : List Char} (new : List Char) (hold : old ≠ []) :
    ∀ {xs : List Char} (rest : List Char), NoMatchIn old xs (old ++ rest) →
      replaceFrom old new 0 (xs ++ (old ++ rest)) = xs ++ (new ++ replaceFrom old new 0 rest)
  | [], rest, _ => by
    obtain ⟨d, ds, rfl⟩ := List.exists_cons_of_ne_nil hold
    have hpre : (d :: ds).isPrefixOf (d :: (ds ++ rest)) :=
      List.isPrefixOf_iff_prefix.mpr (List.prefix_append (d :: ds) rest)
    rw [List.nil_append, List.cons_append, replaceFrom, if_pos hpre, List.length_cons,
      Nat.add_sub_cancel, replaceFrom_skip, List.nil_append]
  | x :: xs, rest, h => by
    have hx := h (x :: xs) ((List.mem_tails _ _).mpr (List.suffix_refl _)) (List.cons_ne_nil _ _)
    rw [List.cons_append, replaceFrom, if_neg (by rw [← List.cons_append, hx]; decide),
      replaceFrom_append_sep new hold rest fun t ht => h t (List.mem_cons_of_mem _ ht)]
    rfl

theorem noMatchIn_of_count_lt {old xs : List Char} {c : Char} (h : xs.count c < old.count c) :
    NoMatchIn old xs [] := by
  intro t ht _
  rw [List.append_nil, ← Bool.not_eq_true]
  intro hp
  have hsub := (List.isPrefixOf_iff_prefix.mp hp).sublist.trans ((List.mem_tails _ _).mp ht).sublist
  exact absurd (hsub.count_le c) (by omega)

/-- `sub in s`. -/
def contains (s sub : String) : Bool := s.data.tails.any (sub.data.isPrefixOf ·)

theorem contains_of_eq_append {s sub : String} {a b : List Char} (h : s.data = a ++ sub.data ++ b) :
    contains s sub = true := by
  rw [contains, h, List.any_eq_true]
  exact ⟨sub.data ++ b, (List.mem_tails _ _).mpr ⟨a, (List.append_assoc _ _ _).symm⟩,
    List.isPrefixOf_iff_prefix.mpr (List.prefix_append _ _)⟩

theorem contains_append_left (u : List Char) {v : List Char} {sub : String}
    (h : contains ⟨v⟩ sub) : contains ⟨u ++ v⟩ sub := by
  obtain ⟨t, ht, hp⟩ := List.any_eq_true.mp h
  exact List.any_eq_true.mpr
    ⟨t, (List.mem_tails _ _).mpr (((List.mem_tails _ _).mp ht).trans (List.suffix_append u v)), hp⟩

/-- `s.startswith(pre)`. -/
def startswith (s pre : String) : Bool := pre.data.isPrefixOf s.data

/-- `a < b` between the characters of two strings: the first code point where they differ
decides, and a proper prefix is the smaller. -/
def strLt : List Char → List Char → Bool
  | _, [] => false
  | [], _ :: _ => true
  | c :: cs, d :: ds => c.toNat < d.toNat || (c.toNat = d.toNat && strLt cs ds)

/-- `s.isdigit()`: non-empty, and every character a digit. -/
def isdigit (s : String) : Bool := !s.data.isEmpty && s.data.all isDigitChar

/-- The value of the digits after the first of a numeral, single underscores allowed between
digits. -/
def numeralFrom : Nat → List Char → Option Nat
  | acc, [] => some acc
  | acc, '_' :: c :: rest => (decimalValue c).bind fun v => numeralFrom (acc * 10 + v) rest
  | acc, c :: rest => (decimalValue c).bind fun v => numeralFrom (acc * 10 + v) rest

/-- The value of a base-10 numeral. -/
def numeralValue : List Char → Option Nat
  | [] => none
  | c :: rest => (decimalValue c).bind fun v => numeralFrom v rest

/-- The escape `repr` writes for one character of a string quoted with `q`. Non-ASCII characters
are written as they are. -/
def reprChar (q c : Char) : String :=
  if c = q || c = '\\' then ⟨['\\', c]⟩
  else if c = '\t' then "\\t" else if c = '\n' then "\\n" else if c = '\r' then "\\r"
  else if c.toNat < 32 || c.toNat = 127 then
    "\\x" ++ ⟨(Nat.toDigits 16 (c.toNat / 16)) ++ Nat.toDigits 16 (c.toNat % 16)⟩
  else ⟨[c]⟩

/-- `repr(s)`: quoted with `'`, or with `"` when `s` holds a `'` and no `"`. -/
def repr (s : String) : String :=
  let q := if s.data.contains '\'' && !s.data.contains '"' then '"' else '\''
  ⟨[q]⟩ ++ String.join (s.data.map (reprChar q)) ++ ⟨[q]⟩

/-- The sign `int()` reads before a numeral: whether it is `-`, and what follows the sign. -/
def splitSign : List Char → Bool × List Char
  | '-' :: r => (true, r)
  | '+' :: r => (false, r)
  | r => (false, r)

/-- `int(s)` in base 10: an optionally signed numeral between blanks. -/
def int (s : String) : Except PyError Int :=
  let signed := splitSign (trimBy isIntSpace s.data)
  match numeralValue signed.2 with
  | some n => .ok (if signed.1 then -(n : Int) else n)
  | none => .error (.valueError ("invalid literal for int() with base 10: " ++ repr s))

/-- `int()` raises nothing but `ValueError`. -/
theorem int_raises (s : String) : Raises IsValueError (int s) := by
  intro e h
  unfold int at h
  dsimp only at h
  split at h
  · cases h
  · cases h
    exact ⟨_, rfl⟩

def isAsciiDigit (c : Char) : Bool := 48 ≤ c.toNat && c.toNat < 58

def asciiValue (l : List Char) : Nat := l.foldl (fun acc c => acc * 10 + (c.toNat - 48)) 0

theorem trimBy_of_forall {p : Char → Bool} {l : List Char} (h : ∀ c ∈ l, p c = false) :
    trimBy p l = l := by
  have hd : ∀ l : List Char, (∀ c ∈ l, p c = false) → l.dropWhile p = l := by
    intro l h
    cases l with
    | nil => rfl
    | cons c l => simp [List.dropWhile_cons, h c (List.mem_cons_self c l)]
  rw [trimBy, hd l h, hd l.reverse (by simpa using h), List.reverse_reverse]

theorem numeralFrom_ascii (l : List Char) (acc : Nat) (h : ∀ c ∈ l, isAsciiDigit c) :
    numeralFrom acc l = some (l.foldl (fun acc c => acc * 10 + (c.toNat - 48)) acc) := by
  induction l generalizing acc with
  | nil => rfl
  | cons c l ih =>
    have hc := h c (List.mem_cons_self c l)
    simp only [isAsciiDigit, Bool.and_eq_true, decide_eq_true_eq] at hc
    rw [numeralFrom.eq_3 _ _ _ fun _ _ e => by subst e; simp at hc, decimalValue_ascii hc.1 hc.2,
      Option.some_bind, ih _ fun c hc => h c (List.mem_cons_of_mem _ hc), List.foldl_cons]

theorem int_ascii {l : List Char} (hne : l ≠ []) (hl : ∀ c ∈ l, isAsciiDigit c) :
    int (String.mk l) = .ok (asciiValue l) := by
  have hsp : ∀ c ∈ l, isIntSpace c = false := fun c hc => by
    have := hl c hc
    simp only [isAsciiDigit, Bool.and_eq_true, decide_eq_true_eq] at this
    simp only [isIntSpace, Bool.or_eq_false_iff, Bool.and_eq_false_iff, decide_eq_false_iff_not]
    omega
  obtain ⟨c, l', rfl⟩ := List.exists_cons_of_ne_nil hne
  have hc := hl c (List.mem_cons_self c l')
  simp only [isAsciiDigit, Bool.and_eq_true, decide_eq_true_eq] at hc
  have hsign : splitSign (c :: l') = (false, c :: l') := by
    unfold splitSign
    split
    · rename_i e; cases e; simp at hc
    · rename_i e; cases e; simp at hc
    · rfl
  simp only [int, trimBy_of_forall hsp, hsign, numeralValue, decimalValue_ascii hc.1 hc.2,
    Option.some_bind, numeralFrom_ascii _ _ fun c hc => hl c (List.mem_cons_of_mem _ hc)]
  simp [asciiValue]

theorem mem_of_mem_trimBy {p : Char → Bool} {l : List Char} {c : Char} (h : c ∈ trimBy p l) :
    c ∈ l := by
  rw [trimBy, List.mem_reverse] at h
  exact (List.dropWhile_suffix p).subset
    (List.mem_reverse.mp ((List.dropWhile_suffix p).subset h))

theorem int_nonneg {s : String} {k : Int} (hs : '-' ∉ s.data) (h : int s = .ok k) : 0 ≤ k := by
  have hsign : (splitSign (trimBy isIntSpace s.data)).1 = false := by
    generalize ht : trimBy isIntSpace s.data = t
    have hmem : ∀ c ∈ t, c ≠ '-' := fun c hc e => hs (e ▸ mem_of_mem_trimBy (ht ▸ hc))
    unfold splitSign
    split
    · exact absurd rfl (hmem _ (List.mem_cons_self _ _))
    · rfl
    · rfl
  simp only [int, hsign, Bool.false_eq_true, if_false] at h
  split at h
  · cases h
    exact Int.natCast_nonneg _
  · cases h

end Strings

/-- `l[i]`, a negative `i` counting from the end. -/
def subscript {α : Type} (l : List α) (i : Int) : Except PyError α :=
  let j := if i < 0 then i + l.length else i
  if h : 0 ≤ j ∧ j.toNat < l.length then .ok (l.get ⟨j.toNat, h.2⟩)
  else .error (.indexError "list index out of range")

theorem subscript_raises {α : Type} (l : List α) (i : Int) :
    Raises (· = .indexError "list index out of range") (subscript l i) := by
  intro e h
  unfold subscript at h
  dsimp only at h
  split_ifs at h <;> cases h <;> rfl

theorem subscript_neg_one {α : Type} {l : List α} (h : l ≠ []) : subscript l (-1) = .ok (l.getLast h) := by
  have hlen : 0 < l.length := List.length_pos.mpr h
  simp only [subscript, show (-1 : Int) < 0 by decide, if_true]
  rw [dif_pos (by omega)]
  simp only [List.getLast_eq_getElem, List.get_eq_getElem]
  congr 2
  omega

theorem subscript_of_lt {α : Type} {l : List α} {i : Nat} (h : i < l.length) :
    subscript l i = .ok l[i] := by
  simp only [subscript, show ¬ (i : Int) < 0 by omega, if_false]
  rw [dif_pos (by omega)]
  simp

theorem subscript_mem {α : Type} {l : List α} {i : Int} {x : α} (h : subscript l i = .ok x) :
    x ∈ l := by
  unfold subscript at h
  dsimp only at h
  split_ifs at h <;> cases h <;> exact List.get_mem _ _ _

theorem subscript_isOk {α : Type} {l : List α} {i : Int} (h1 : -(l.length : Int) ≤ i)
    (h2 : i < l.length) : ∃ x, subscript l i = .ok x := by
  unfold subscript
  rw [dif_pos (by split <;> omega)]
  exact ⟨_, rfl⟩

end Py

end Boardfarm

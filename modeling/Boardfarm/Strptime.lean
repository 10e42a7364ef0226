import Boardfarm.Python
import Mathlib.Data.Nat.Digits

/-!
# `datetime.strptime` and `strftime` for `%Y%m%d%H%M%S%f`

`check_file` parses a timestamp with `datetime.strptime(s, "%Y%m%d%H%M%S%f")`. CPython builds a
regular expression from the format, one named group per directive, with the alternatives of
`_strptime.TimeRE`; `re.match` takes the first match its backtracking search finds, `strptime`
rejects a match that leaves characters over, reads each group with `int()`, and builds the
`datetime`, whose constructor checks the fields.

The matcher is `matchGroups`: every match of a sequence of groups, in the order `re` tries them,
so `re.match` is its first element (`reMatch`). `reMatch_cons` says when that first match takes a
given alternative; `mem_matchGroups` says what any match is made of.

On twenty ASCII digits the first match takes the fixed fields `YYYYMMDDHHMMSSffffff` exactly
when each field is one a two-digit alternative accepts, and any other match leaves characters
over (`strptime_ascii`); a longer string never matches whole (`strptime_long`).
-/

namespace Boardfarm

/-! ## The regular expression `_strptime` compiles -/

/-- A class of characters in the patterns `_strptime.TimeRE` builds. -/
inductive CharClass where
  /-- `\d`: a Unicode decimal digit. -/
  | digit
  /-- `[lo-hi]`. -/
  | range (lo hi : Char)
  /-- A literal character. -/
  | char (c : Char)
  deriving DecidableEq, Repr

/-- Whether the class matches a character; `re` compares code points. The pattern is compiled
with `IGNORECASE`, which changes nothing here: no other character folds to an ASCII digit or a
blank. -/
def CharClass.test : CharClass → Char → Bool
  | digit, c => Py.isDecimal c
  | range lo hi, c => lo.toNat ≤ c.toNat && c.toNat ≤ hi.toNat
  | char d, c => c.toNat == d.toNat

/-- A sequence of classes, one character each: an alternative of a directive's pattern. -/
abbrev Alternative := List CharClass

/-- A directive's named group: its alternatives in the order `re` tries them. -/
abbrev Group := List Alternative

/-- Match an alternative at the start of the input: the characters it takes, and the rest. -/
def matchAlternative : Alternative → List Char → Option (List Char × List Char)
  | [], w => some ([], w)
  | _ :: _, [] => none
  | k :: ks, c :: w =>
    if k.test c then (matchAlternative ks w).map fun p => (c :: p.1, p.2) else none

/-- Every way a sequence of groups matches at the start of the input, in the order the
backtracking matcher of `re` tries them: the text each group captured, and the rest. -/
def matchGroups : List Group → List Char → List (List (List Char) × List Char)
  | [], w => [([], w)]
  | g :: gs, w => g.flatMap fun alt =>
    match matchAlternative alt w with
    | none => []
    | some (t, r) => (matchGroups gs r).map fun p => (t :: p.1, p.2)

/-- `re.match`: the first match `re` finds. -/
def reMatch (gs : List Group) (w : List Char) : Option (List (List Char) × List Char) :=
  (matchGroups gs w).head?

/-- `TimeRE["Y"]`: `\d\d\d\d`. -/
def yearGroup : Group := [[.digit, .digit, .digit, .digit]]

/-- `TimeRE["m"]`: `1[0-2]|0[1-9]|[1-9]`. -/
def monthGroup : Group :=
  [[.char '1', .range '0' '2'], [.char '0', .range '1' '9'], [.range '1' '9']]

/-- `TimeRE["d"]`: `3[0-1]|[1-2]\d|0[1-9]|[1-9]| [1-9]`. -/
def dayGroup : Group :=
  [[.char '3', .range '0' '1'], [.range '1' '2', .digit], [.char '0', .range '1' '9'],
    [.range '1' '9'], [.char ' ', .range '1' '9']]

/-- `TimeRE["H"]`: `2[0-3]|[0-1]\d|\d`. -/
def hourGroup : Group := [[.char '2', .range '0' '3'], [.range '0' '1', .digit], [.digit]]

/-- `TimeRE["M"]`: `[0-5]\d|\d`. -/
def minuteGroup : Group := [[.range '0' '5', .digit], [.digit]]

/-- `TimeRE["S"]`: `6[0-1]|[0-5]\d|\d`. -/
def secondGroup : Group := [[.char '6', .range '0' '1'], [.range '0' '5', .digit], [.digit]]

/-- `TimeRE["f"]`: `[0-9]{1,6}`, greedy, so six digits are tried first. -/
def fractionGroup : Group := [6, 5, 4, 3, 2, 1].map fun n => List.replicate n (.range '0' '9')

/-- The format `check_file` passes. -/
def timestampFormat : String := "%Y%m%d%H%M%S%f"

/-- `TimeRE().compile("%Y%m%d%H%M%S%f")`. -/
def timestampPattern : List Group :=
  [yearGroup, monthGroup, dayGroup, hourGroup, minuteGroup, secondGroup, fractionGroup]

/-! ## `datetime` -/

/-- `_is_leap(year)`. -/
def isLeap (year : Nat) : Bool := year % 4 == 0 && (year % 100 != 0 || year % 400 == 0)

/-- `_days_in_month(year, month)`. -/
def daysInMonth (year month : Nat) : Nat :=
  if month = 2 ∧ isLeap year then 29
  else [31, 28, 31, 30, 31, 30, 31, 31, 30, 31, 30, 31].getD (month - 1) 0

/-- A `datetime.datetime` without a time zone; its fields are in the ranges the constructor
checks. -/
structure DateTime where
  year : Nat
  month : Nat
  day : Nat
  hour : Nat
  minute : Nat
  second : Nat
  microsecond : Nat
  year_mem : 1 ≤ year ∧ year ≤ 9999
  month_mem : 1 ≤ month ∧ month ≤ 12
  day_mem : 1 ≤ day ∧ day ≤ daysInMonth year month
  hour_lt : hour < 24
  minute_lt : minute < 60
  second_lt : second < 60
  microsecond_lt : microsecond < 1000000
  deriving DecidableEq

/-- `datetime(year, month, day, hour, minute, second, microsecond)`: the date is checked first
(`check_date_args`), then the time (`check_time_args`). -/
def datetime (year month day hour minute second microsecond : Int) : Except PyError DateTime :=
  if hy : year < 1 ∨ 9999 < year then
    .error (.valueError ("year " ++ toString year ++ " is out of range"))
  else if hm : month < 1 ∨ 12 < month then .error (.valueError "month must be in 1..12")
  else if hd : day < 1 ∨ daysInMonth year.toNat month.toNat < day then
    .error (.valueError "day is out of range for month")
  else if hh : hour < 0 ∨ 23 < hour then .error (.valueError "hour must be in 0..23")
  else if hmi : minute < 0 ∨ 59 < minute then .error (.valueError "minute must be in 0..59")
  else if hs : second < 0 ∨ 59 < second then .error (.valueError "second must be in 0..59")
  else if hus : microsecond < 0 ∨ 999999 < microsecond then
    .error (.valueError "microsecond must be in 0..999999")
  else .ok ⟨year.toNat, month.toNat, day.toNat, hour.toNat, minute.toNat, second.toNat,
    microsecond.toNat, by omega, by omega, by omega, by omega, by omega, by omega, by omega⟩

/-- `datetime.strptime(data_string, "%Y%m%d%H%M%S%f")`: match the compiled pattern, require the
match to take the whole string, read each group with `int()` (the fraction padded with zeros to
six digits), then build the `datetime`. `_strptime` first computes the Julian day from
`date(year, month, day)`, which raises what the date checks of `datetime` raise. -/
def strptime (dataString : String) : Except PyError DateTime :=
  match reMatch timestampPattern dataString.data with
  | none => .error (.valueError ("time data " ++ Py.repr dataString ++ " does not match format " ++
      Py.repr timestampFormat))
  | some (groups, rest) =>
    if rest ≠ [] then .error (.valueError ("unconverted data remains: " ++ String.mk rest))
    else do
      let field (i : Nat) := Py.int (String.mk (groups.getD i []))
      let year ← field 0
      let month ← field 1
      let day ← field 2
      let hour ← field 3
      let minute ← field 4
      let second ← field 5
      let f := groups.getD 6 []
      let fraction ← Py.int (String.mk (f ++ List.replicate (6 - f.length) '0'))
      datetime year month day hour minute second fraction

/-- The last `width` decimal digits of `v`, most significant first: what `%02d` and `%06d` write
for a value below `10 ^ width`. -/
def zeroPad : Nat → Nat → List Char
  | 0, _ => []
  | width + 1, v => zeroPad width (v / 10) ++ [Nat.digitChar (v % 10)]

/-- `t.strftime("%Y%m%d%H%M%S%f")`: `datetime` writes `%f` as six digits and leaves the rest to
the C library, whose `%Y` is the year in decimal with no padding. -/
def strftime (t : DateTime) : String :=
  toString t.year ++ String.mk (zeroPad 2 t.month ++ zeroPad 2 t.day ++ zeroPad 2 t.hour ++
    zeroPad 2 t.minute ++ zeroPad 2 t.second ++ zeroPad 6 t.microsecond)

/-! ## The matcher -/

theorem matchAlternative_eq_some {alt : Alternative} {w t r : List Char} :
    matchAlternative alt w = some (t, r) ↔
      w = t ++ r ∧ List.Forall₂ (fun k c => k.test c = true) alt t := by
  induction alt generalizing w t r with
  | nil =>
    simp only [matchAlternative, Option.some.injEq, Prod.mk.injEq, List.forall₂_nil_left_iff]
    constructor
    · rintro ⟨rfl, rfl⟩; exact ⟨rfl, rfl⟩
    · rintro ⟨rfl, rfl⟩; exact ⟨rfl, rfl⟩
  | cons k ks ih =>
    cases w with
    | nil => simp [matchAlternative]; rintro rfl - h; cases h
    | cons c w =>
      simp only [matchAlternative]
      split
      · simp only [Option.map_eq_some', ih, Prod.mk.injEq, List.forall₂_cons_left_iff]
        constructor
        · rintro ⟨⟨t', r'⟩, ⟨rfl, h⟩, rfl, rfl⟩
          exact ⟨rfl, c, t', ‹_›, h, rfl⟩
        · rintro ⟨hw, c', t', hc, h, rfl⟩
          simp only [List.cons_append, List.cons.injEq] at hw
          obtain ⟨rfl, rfl⟩ := hw
          exact ⟨⟨t', r⟩, ⟨rfl, h⟩, rfl, rfl⟩
      · simp only [reduceCtorEq, false_iff, not_and]
        intro hw h
        obtain ⟨c', t', hc, -, rfl⟩ := List.forall₂_cons_left_iff.mp h
        simp only [List.cons_append, List.cons.injEq] at hw
        obtain ⟨rfl, -⟩ := hw
        simp_all

/-- An alternative of `g` takes exactly `t`. -/
def Spans (g : Group) (t : List Char) : Prop :=
  ∃ alt ∈ g, List.Forall₂ (fun k c => k.test c = true) alt t

theorem mem_matchGroups {gs : List Group} {w : List Char} {ts : List (List Char)} {r : List Char}
    (h : (ts, r) ∈ matchGroups gs w) : w = ts.flatten ++ r ∧ List.Forall₂ (fun t g => Spans g t) ts gs := by
  induction gs generalizing w ts r with
  | nil =>
    simp only [matchGroups, List.mem_singleton, Prod.mk.injEq] at h
    obtain ⟨rfl, rfl⟩ := h
    exact ⟨rfl, .nil⟩
  | cons g gs ih =>
    simp only [matchGroups, List.mem_flatMap] at h
    obtain ⟨alt, halt, hm⟩ := h
    split at hm
    · cases hm
    · rename_i t r' heq
      obtain ⟨⟨ts', r''⟩, hp, he⟩ := List.mem_map.mp hm
      cases he
      obtain ⟨hw, hf⟩ := matchAlternative_eq_some.mp heq
      obtain ⟨hr', hf'⟩ := ih hp
      exact ⟨by rw [hw, hr', List.flatten_cons, List.append_assoc], .cons ⟨alt, halt, hf⟩ hf'⟩

theorem reMatch_cons {pre post : Group} {alt : Alternative} {gs : List Group} {w t r : List Char}
    {p : List (List Char) × List Char} (hpre : ∀ a ∈ pre, matchAlternative a w = none)
    (halt : matchAlternative alt w = some (t, r)) (hp : reMatch gs r = some p) :
    reMatch ((pre ++ alt :: post) :: gs) w = some (t :: p.1, p.2) := by
  have hnil : pre.flatMap (fun a => match matchAlternative a w with
      | none => []
      | some (t, r) => (matchGroups gs r).map fun p => (t :: p.1, p.2)) = [] :=
    List.flatMap_eq_nil_iff.mpr fun a ha => by rw [hpre a ha]
  unfold reMatch at hp ⊢
  rw [matchGroups, List.flatMap_append, hnil, List.flatMap_cons, halt]
  simp [hp]

def maxWidth (g : Group) : Nat := (g.map List.length).foldr max 0

theorem Spans.length_le {g : Group} {t : List Char} (h : Spans g t) : t.length ≤ maxWidth g := by
  obtain ⟨alt, halt, hf⟩ := h
  rw [← hf.length_eq]
  induction g with
  | nil => cases halt
  | cons a g ih =>
    simp only [maxWidth, List.map_cons, List.foldr_cons] at ih ⊢
    rcases List.mem_cons.mp halt with rfl | h
    · exact le_max_left _ _
    · exact le_trans (ih h) (le_max_right _ _)

theorem flatten_length_le {ts : List (List Char)} {gs : List Group}
    (h : List.Forall₂ (fun t g => t.length ≤ maxWidth g) ts gs) :
    ts.flatten.length ≤ (gs.map maxWidth).sum := by
  induction h with
  | nil => simp
  | cons _ _ ih =>
    simp only [List.flatten_cons, List.length_append, List.map_cons, List.sum_cons]
    omega

theorem forall₂_width_eq {ts : List (List Char)} {gs : List Group}
    (h : List.Forall₂ (fun t g => t.length ≤ maxWidth g) ts gs)
    (hsum : ts.flatten.length = (gs.map maxWidth).sum) :
    List.Forall₂ (fun t g => t.length = maxWidth g) ts gs := by
  induction h with
  | nil => exact .nil
  | cons hle h ih =>
    have hrest := flatten_length_le h
    simp only [List.flatten_cons, List.length_append, List.map_cons, List.sum_cons] at hsum
    exact .cons (by omega) (ih (by omega))

theorem timestampPattern_widths : timestampPattern.map maxWidth = [4, 2, 2, 2, 2, 2, 6] := by
  decide

/-! ## Only `ValueError` -/

theorem datetime_raisesOnlyValueError (y m d hh mm ss us : Int) :
    Raises IsValueError (datetime y m d hh mm ss us) := by
  have hv : ∀ msg, Raises IsValueError (.error (.valueError msg) : Except PyError DateTime) :=
    fun msg => .error ⟨msg, rfl⟩
  unfold datetime
  exact .dite (fun _ => hv _) fun _ => .dite (fun _ => hv _) fun _ => .dite (fun _ => hv _) fun _ =>
    .dite (fun _ => hv _) fun _ => .dite (fun _ => hv _) fun _ => .dite (fun _ => hv _) fun _ =>
    .dite (fun _ => hv _) fun _ => .ok _

/-- `strptime` raises nothing but `ValueError`. -/
theorem strptime_raisesOnlyValueError (s : String) : Raises IsValueError (strptime s) := by
  unfold strptime
  split
  · rintro e ⟨⟩; exact ⟨_, rfl⟩
  · split
    · rintro e ⟨⟩; exact ⟨_, rfl⟩
    · exact .bind (Py.int_raises _) fun _ => .bind (Py.int_raises _)
        fun _ => .bind (Py.int_raises _) fun _ => .bind (Py.int_raises _)
        fun _ => .bind (Py.int_raises _) fun _ => .bind (Py.int_raises _)
        fun _ => .bind (Py.int_raises _) fun _ => datetime_raisesOnlyValueError _ _ _ _ _ _ _

/-- A string longer than twenty characters never parses: no match takes more than twenty. -/
theorem strptime_long {s : String} (h : 20 < s.length) : ∃ msg, strptime s = .error (.valueError msg) := by
  unfold strptime
  split
  · exact ⟨_, rfl⟩
  · rename_i groups rest hm
    have hmem : (groups, rest) ∈ matchGroups timestampPattern s.data := List.mem_of_mem_head? hm
    obtain ⟨hw, hf⟩ := mem_matchGroups hmem
    have hle := flatten_length_le (hf.imp fun _ _ h => Spans.length_le h)
    rw [timestampPattern_widths] at hle
    have hlen := congrArg List.length hw
    simp only [List.length_append] at hlen
    have : rest ≠ [] := by
      rintro rfl
      have hs : 20 < s.data.length := h
      simp at hle hlen
      omega
    rw [if_pos this]
    exact ⟨_, rfl⟩

/-! ## Twenty ASCII digits -/

/-- A string cut into pieces of the given widths, the rest last. -/
def splitWidths : List Nat → List Char → List (List Char)
  | [], s => [s]
  | n :: ns, s => s.take n :: splitWidths ns (s.drop n)

/-- The fields `YYYY`, `mm`, `dd`, `HH`, `MM`, `SS` and `ffffff` of a timestamp. -/
def fixedFields (s : List Char) : List (List Char) := splitWidths [4, 2, 2, 2, 2, 2] s

/-- The `datetime` the fixed fields of twenty ASCII digits spell, when they make one. -/
def spelledDateTime (s : List Char) : Option DateTime :=
  let v (i : Nat) : Int := Py.asciiValue ((fixedFields s).getD i [])
  (datetime (v 0) (v 1) (v 2) (v 3) (v 4) (v 5) (v 6)).toOption

theorem test_digit_of_isAsciiDigit {c : Char} (h : Py.isAsciiDigit c) : CharClass.digit.test c = true := by
  simp only [Py.isAsciiDigit, Bool.and_eq_true, decide_eq_true_eq] at h
  simp [CharClass.test, Py.isDecimal, Py.decimalValue_ascii h.1 h.2]

/-- Whatever follows `t`, the first alternative of `g` that matches takes `t`. -/
def TakesFirst (g : Group) (t : List Char) : Prop :=
  ∀ w, ∃ pre alt post, g = pre ++ alt :: post ∧ (∀ a ∈ pre, matchAlternative a (t ++ w) = none) ∧
    matchAlternative alt (t ++ w) = some (t, w)

theorem reMatch_cons_of_takesFirst {g : Group} {gs : List Group} {t w : List Char}
    {p : List (List Char) × List Char} (h : TakesFirst g t) (hp : reMatch gs w = some p) :
    reMatch (g :: gs) (t ++ w) = some (t :: p.1, p.2) := by
  obtain ⟨pre, alt, post, rfl, hpre, halt⟩ := h w
  exact reMatch_cons hpre halt hp

theorem matchAlternative_cons_of_test {k : CharClass} {ks : Alternative} {c : Char} {w : List Char}
    (h : k.test c = false) : matchAlternative (k :: ks) (c :: w) = none := by
  simp [matchAlternative, h]

theorem matchAlternative_of_forall₂ {alt : Alternative} {t w : List Char}
    (h : List.Forall₂ (fun k c => k.test c = true) alt t) : matchAlternative alt (t ++ w) = some (t, w) :=
  matchAlternative_eq_some.mpr ⟨rfl, h⟩

theorem forall₂_replicate_iff {k : CharClass} {n : Nat} {t : List Char} :
    List.Forall₂ (fun k c => k.test c = true) (List.replicate n k) t ↔
      t.length = n ∧ ∀ c ∈ t, k.test c = true := by
  induction n generalizing t with
  | zero => cases t <;> simp
  | succ n ih =>
    cases t with
    | nil => simp
    | cons c t => simp [List.replicate_succ, ih, and_left_comm]

section Fields

variable {t : List Char}

theorem exists_two_digits (ht : t.length = 2) (hd : ∀ c ∈ t, Py.isAsciiDigit c) :
    ∃ a b, t = [a, b] ∧ (48 ≤ a.toNat ∧ a.toNat < 58) ∧ (48 ≤ b.toNat ∧ b.toNat < 58) ∧
      Py.isDecimal b = true ∧ Py.asciiValue t = (a.toNat - 48) * 10 + (b.toNat - 48) := by
  obtain ⟨a, b, rfl⟩ := List.length_eq_two.mp ht
  have hb := test_digit_of_isAsciiDigit (hd b (by simp))
  simp [Py.isAsciiDigit] at hd
  exact ⟨a, b, rfl, hd.1, hd.2, hb, by simp [Py.asciiValue]⟩

theorem takesFirst_yearGroup (ht : t.length = 4) (hd : ∀ c ∈ t, Py.isAsciiDigit c) :
    TakesFirst yearGroup t := fun _ =>
  ⟨[], _, [], rfl, nofun, matchAlternative_of_forall₂ <| (forall₂_replicate_iff (n := 4)).mpr
    ⟨ht, fun c hc => test_digit_of_isAsciiDigit (hd c hc)⟩⟩

theorem takesFirst_fractionGroup (ht : t.length = 6) (hd : ∀ c ∈ t, Py.isAsciiDigit c) :
    TakesFirst fractionGroup t := fun _ =>
  ⟨[], _, _, rfl, nofun, matchAlternative_of_forall₂ <| forall₂_replicate_iff.mpr
    ⟨ht, fun c hc => by
      have := hd c hc
      simp only [Py.isAsciiDigit, Bool.and_eq_true, decide_eq_true_eq] at this
      simp only [CharClass.test, Char.reduceToNat, Bool.and_eq_true, decide_eq_true_eq]
      omega⟩⟩

theorem takesFirst_monthGroup (ht : t.length = 2) (hd : ∀ c ∈ t, Py.isAsciiDigit c)
    (hv : 1 ≤ Py.asciiValue t ∧ Py.asciiValue t ≤ 12) : TakesFirst monthGroup t := by
  obtain ⟨a, b, rfl, ha, hb, hbd, hval⟩ := exists_two_digits ht hd
  rw [hval] at hv
  intro w
  by_cases h1 : a.toNat = 49
  · exact ⟨[], _, _, rfl, by simp, matchAlternative_of_forall₂ (by simp [CharClass.test]; omega)⟩
  · exact ⟨[_], _, _, rfl, by simp [matchAlternative_cons_of_test, CharClass.test, h1],
      matchAlternative_of_forall₂ (by simp [CharClass.test]; omega)⟩

theorem takesFirst_dayGroup (ht : t.length = 2) (hd : ∀ c ∈ t, Py.isAsciiDigit c)
    (hv : 1 ≤ Py.asciiValue t ∧ Py.asciiValue t ≤ 31) : TakesFirst dayGroup t := by
  obtain ⟨a, b, rfl, ha, hb, hbd, hval⟩ := exists_two_digits ht hd
  rw [hval] at hv
  intro w
  by_cases h3 : a.toNat = 51
  · exact ⟨[], _, _, rfl, by simp, matchAlternative_of_forall₂ (by simp [CharClass.test]; omega)⟩
  · by_cases h12 : 49 ≤ a.toNat ∧ a.toNat ≤ 50
    · exact ⟨[_], _, _, rfl, by simp [matchAlternative_cons_of_test, CharClass.test, h3],
        matchAlternative_of_forall₂ (by simp [CharClass.test, hbd]; omega)⟩
    · have ha0 : a.toNat = 48 := by omega
      exact ⟨[_, _], _, _, rfl, by simp [matchAlternative_cons_of_test, CharClass.test, ha0],
        matchAlternative_of_forall₂ (by simp [CharClass.test, ha0]; omega)⟩

theorem takesFirst_hourGroup (ht : t.length = 2) (hd : ∀ c ∈ t, Py.isAsciiDigit c)
    (hv : Py.asciiValue t ≤ 23) : TakesFirst hourGroup t := by
  obtain ⟨a, b, rfl, ha, hb, hbd, hval⟩ := exists_two_digits ht hd
  rw [hval] at hv
  intro w
  by_cases h2 : a.toNat = 50
  · exact ⟨[], _, _, rfl, by simp, matchAlternative_of_forall₂ (by simp [CharClass.test]; omega)⟩
  · exact ⟨[_], _, _, rfl, by simp [matchAlternative_cons_of_test, CharClass.test, h2],
      matchAlternative_of_forall₂ (by simp [CharClass.test, hbd]; omega)⟩

theorem takesFirst_minuteGroup (ht : t.length = 2) (hd : ∀ c ∈ t, Py.isAsciiDigit c)
    (hv : Py.asciiValue t ≤ 59) : TakesFirst minuteGroup t := by
  obtain ⟨a, b, rfl, ha, hb, hbd, hval⟩ := exists_two_digits ht hd
  rw [hval] at hv
  exact fun w => ⟨[], _, _, rfl, by simp,
    matchAlternative_of_forall₂ (by simp [CharClass.test, hbd]; omega)⟩

theorem takesFirst_secondGroup (ht : t.length = 2) (hd : ∀ c ∈ t, Py.isAsciiDigit c)
    (hv : Py.asciiValue t ≤ 61) : TakesFirst secondGroup t := by
  obtain ⟨a, b, rfl, ha, hb, hbd, hval⟩ := exists_two_digits ht hd
  rw [hval] at hv
  intro w
  by_cases h6 : a.toNat = 54
  · exact ⟨[], _, _, rfl, by simp, matchAlternative_of_forall₂ (by simp [CharClass.test]; omega)⟩
  · exact ⟨[_], _, _, rfl, by simp [matchAlternative_cons_of_test, CharClass.test, h6],
      matchAlternative_of_forall₂ (by simp [CharClass.test, hbd]; omega)⟩

theorem spans_two_digits (ht : t.length = 2) (hd : ∀ c ∈ t, Py.isAsciiDigit c) :
    (Spans monthGroup t → 1 ≤ Py.asciiValue t ∧ Py.asciiValue t ≤ 12) ∧
    (Spans dayGroup t → 1 ≤ Py.asciiValue t ∧ Py.asciiValue t ≤ 31) ∧
    (Spans hourGroup t → Py.asciiValue t ≤ 23) ∧ (Spans minuteGroup t → Py.asciiValue t ≤ 59) ∧
    (Spans secondGroup t → Py.asciiValue t ≤ 61) := by
  obtain ⟨a, b, rfl, ha, hb, hbd, hval⟩ := exists_two_digits ht hd
  rw [hval]
  clear hbd
  simp only [Spans, monthGroup, dayGroup, hourGroup, minuteGroup, secondGroup, List.mem_cons,
    List.mem_singleton, List.not_mem_nil, exists_eq_or_imp, exists_eq_left, or_false,
    List.forall₂_cons, List.Forall₂.nil, List.forall₂_nil_left_iff, CharClass.test,
    Bool.and_eq_true, decide_eq_true_eq, beq_iff_eq, List.cons_ne_nil, and_false, false_or, and_true,
    Char.reduceToNat]
  refine ⟨?_, ?_, ?_, ?_, ?_⟩ <;> intro h <;> omega

end Fields

theorem daysInMonth_le (year month : Nat) : daysInMonth year month ≤ 31 := by
  unfold daysInMonth
  split
  · omega
  · generalize month - 1 = i
    rw [List.getD_eq_getElem?_getD]
    by_cases h : i < 12
    · interval_cases i <;> decide
    · rw [List.getElem?_eq_none (by simpa using h)]
      decide

theorem datetime_eq_ok {y m d hh mm ss us : Int} {t : DateTime}
    (h : datetime y m d hh mm ss us = .ok t) :
    (1 ≤ m ∧ m ≤ 12) ∧ (1 ≤ d ∧ d ≤ 31) ∧ (0 ≤ hh ∧ hh ≤ 23) ∧ (0 ≤ mm ∧ mm ≤ 59) ∧
      (0 ≤ ss ∧ ss ≤ 59) ∧ t.year = y.toNat ∧ t.month = m.toNat ∧ t.day = d.toNat ∧
      t.hour = hh.toNat ∧ t.minute = mm.toNat ∧ t.second = ss.toNat ∧ t.microsecond = us.toNat := by
  unfold datetime at h
  obtain ⟨_, h⟩ := dite_error_eq_ok h
  obtain ⟨_, h⟩ := dite_error_eq_ok h
  obtain ⟨_, h⟩ := dite_error_eq_ok h
  obtain ⟨_, h⟩ := dite_error_eq_ok h
  obtain ⟨_, h⟩ := dite_error_eq_ok h
  obtain ⟨_, h⟩ := dite_error_eq_ok h
  obtain ⟨_, h⟩ := dite_error_eq_ok h
  cases h
  have := daysInMonth_le y.toNat m.toNat
  refine ⟨by omega, by omega, by omega, by omega, by omega, rfl, rfl, rfl, rfl, rfl, rfl, rfl⟩

/-- Digits whose two-digit fields are in the ranges the pattern's groups accept match group by
group, and `strptime` hands their values to `datetime`. -/
theorem strptime_eq_datetime {ty tm td tH tM tS tf : List Char} (hy : ty.length = 4)
    (hm : tm.length = 2) (hd : td.length = 2) (hH : tH.length = 2) (hM : tM.length = 2)
    (hS : tS.length = 2) (hf : tf.length = 6)
    (dy : ∀ c ∈ ty, Py.isAsciiDigit c) (dm : ∀ c ∈ tm, Py.isAsciiDigit c)
    (dd : ∀ c ∈ td, Py.isAsciiDigit c) (dH : ∀ c ∈ tH, Py.isAsciiDigit c)
    (dM : ∀ c ∈ tM, Py.isAsciiDigit c) (dS : ∀ c ∈ tS, Py.isAsciiDigit c)
    (df : ∀ c ∈ tf, Py.isAsciiDigit c) (h1 : 1 ≤ Py.asciiValue tm ∧ Py.asciiValue tm ≤ 12)
    (h2 : 1 ≤ Py.asciiValue td ∧ Py.asciiValue td ≤ 31) (h3 : Py.asciiValue tH ≤ 23)
    (h4 : Py.asciiValue tM ≤ 59) (h5 : Py.asciiValue tS ≤ 61) :
    strptime ⟨ty ++ (tm ++ (td ++ (tH ++ (tM ++ (tS ++ tf)))))⟩ =
      datetime (Py.asciiValue ty) (Py.asciiValue tm) (Py.asciiValue td) (Py.asciiValue tH)
        (Py.asciiValue tM) (Py.asciiValue tS) (Py.asciiValue tf) := by
  have hmatch : reMatch timestampPattern (ty ++ (tm ++ (td ++ (tH ++ (tM ++ (tS ++ (tf ++ []))))))) =
      some ([ty, tm, td, tH, tM, tS, tf], []) :=
    reMatch_cons_of_takesFirst (takesFirst_yearGroup hy dy) <|
    reMatch_cons_of_takesFirst (takesFirst_monthGroup hm dm h1) <|
    reMatch_cons_of_takesFirst (takesFirst_dayGroup hd dd h2) <|
    reMatch_cons_of_takesFirst (takesFirst_hourGroup hH dH h3) <|
    reMatch_cons_of_takesFirst (takesFirst_minuteGroup hM dM h4) <|
    reMatch_cons_of_takesFirst (takesFirst_secondGroup hS dS h5) <|
    reMatch_cons_of_takesFirst (takesFirst_fractionGroup hf df)
      (show reMatch [] [] = some ([], []) from rfl)
  rw [List.append_nil] at hmatch
  have ne : ∀ {l : List Char} {n : Nat}, l.length = n + 1 → l ≠ [] := fun h e => by simp [e] at h
  simp only [strptime, hmatch, ne_eq, not_true_eq_false, if_false, List.getD_cons_zero,
    List.getD_cons_succ, Py.int_ascii (ne hy) dy, Py.int_ascii (ne hm) dm, Py.int_ascii (ne hd) dd,
    Py.int_ascii (ne hH) dH, Py.int_ascii (ne hM) dM, Py.int_ascii (ne hS) dS, hf,
    Nat.sub_self, List.replicate_zero, List.append_nil, Py.int_ascii (ne hf) df]
  rfl

theorem fieldWidths_eq {a b c d e f g : Nat} (ha : a ≤ maxWidth yearGroup)
    (hb : b ≤ maxWidth monthGroup) (hc : c ≤ maxWidth dayGroup) (hd : d ≤ maxWidth hourGroup)
    (he : e ≤ maxWidth minuteGroup) (hf : f ≤ maxWidth secondGroup) (hg : g ≤ maxWidth fractionGroup)
    (h : a + (b + (c + (d + (e + (f + g))))) = 4 + (2 + (2 + (2 + (2 + (2 + 6)))))) :
    4 = a ∧ 2 = b ∧ 2 = c ∧ 2 = d ∧ 2 = e ∧ 2 = f := by
  have w : maxWidth yearGroup = 4 ∧ maxWidth monthGroup = 2 ∧ maxWidth dayGroup = 2 ∧
      maxWidth hourGroup = 2 ∧ maxWidth minuteGroup = 2 ∧ maxWidth secondGroup = 2 ∧
      maxWidth fractionGroup = 6 := by decide
  omega

/-- Digits `strptime` parses have two-digit fields in the ranges the pattern's groups accept: the
fields are the groups of the one whole match, by their widths. -/
theorem inRange_of_strptime_eq_ok {ty tm td tH tM tS tf : List Char} (hy : ty.length = 4)
    (hm : tm.length = 2) (hd : td.length = 2) (hH : tH.length = 2) (hM : tM.length = 2)
    (hS : tS.length = 2) (hf : tf.length = 6) (dm : ∀ c ∈ tm, Py.isAsciiDigit c)
    (dd : ∀ c ∈ td, Py.isAsciiDigit c) (dH : ∀ c ∈ tH, Py.isAsciiDigit c)
    (dM : ∀ c ∈ tM, Py.isAsciiDigit c) (dS : ∀ c ∈ tS, Py.isAsciiDigit c) {t : DateTime}
    (h : strptime ⟨ty ++ (tm ++ (td ++ (tH ++ (tM ++ (tS ++ tf)))))⟩ = .ok t) :
    (1 ≤ Py.asciiValue tm ∧ Py.asciiValue tm ≤ 12) ∧
      (1 ≤ Py.asciiValue td ∧ Py.asciiValue td ≤ 31) ∧ Py.asciiValue tH ≤ 23 ∧
      Py.asciiValue tM ≤ 59 ∧ Py.asciiValue tS ≤ 61 := by
  unfold strptime at h
  split at h
  · cases h
  · rename_i groups rest hmatch
    split at h
    · cases h
    · obtain rfl : rest = [] := by simpa using ‹¬rest ≠ []›
      obtain ⟨hw, hsp⟩ := mem_matchGroups (List.mem_of_mem_head? hmatch)
      simp only [timestampPattern, List.forall₂_cons_right_iff, List.forall₂_nil_right_iff] at hsp
      obtain ⟨gy, _, sy, ⟨gm, _, sm, ⟨gd, _, sd, ⟨gH, _, sH, ⟨gM, _, sM, ⟨gS, _, sS,
        ⟨gf, _, sf, rfl, rfl⟩, rfl⟩, rfl⟩, rfl⟩, rfl⟩, rfl⟩, rfl⟩ := hsp
      have hlen := congrArg List.length hw
      simp only [List.flatten_cons, List.flatten_nil, List.append_nil, List.length_append, hy, hm, hd,
        hH, hM, hS, hf] at hw hlen
      obtain ⟨l1, l2, l3, l4, l5, l6⟩ := fieldWidths_eq sy.length_le sm.length_le sd.length_le
        sH.length_le sM.length_le sS.length_le sf.length_le hlen.symm
      obtain ⟨-, hw⟩ := List.append_inj hw (hy.trans l1)
      obtain ⟨em, hw⟩ := List.append_inj hw (hm.trans l2)
      obtain ⟨ed, hw⟩ := List.append_inj hw (hd.trans l3)
      obtain ⟨eH, hw⟩ := List.append_inj hw (hH.trans l4)
      obtain ⟨eM, hw⟩ := List.append_inj hw (hM.trans l5)
      obtain ⟨eS, -⟩ := List.append_inj hw (hS.trans l6)
      exact ⟨(spans_two_digits hm dm).1 (em ▸ sm), (spans_two_digits hd dd).2.1 (ed ▸ sd),
        (spans_two_digits hH dH).2.2.1 (eH ▸ sH), (spans_two_digits hM dM).2.2.2.1 (eM ▸ sM),
        (spans_two_digits hS dS).2.2.2.2 (eS ▸ sS)⟩

/-- On ASCII digits cut at the fields' widths, `strptime` gives what `datetime` gives on the fields'
values: with the two-digit fields in the groups' ranges it calls `datetime` on them, and out of
those ranges neither gives a date-time. -/
theorem strptime_fields {ty tm td tH tM tS tf : List Char} (hy : ty.length = 4)
    (hm : tm.length = 2) (hd : td.length = 2) (hH : tH.length = 2) (hM : tM.length = 2)
    (hS : tS.length = 2) (hf : tf.length = 6)
    (hs : ∀ c ∈ ty ++ (tm ++ (td ++ (tH ++ (tM ++ (tS ++ tf))))), Py.isAsciiDigit c) (t : DateTime) :
    strptime ⟨ty ++ (tm ++ (td ++ (tH ++ (tM ++ (tS ++ tf)))))⟩ = .ok t ↔
      datetime (Py.asciiValue ty) (Py.asciiValue tm) (Py.asciiValue td) (Py.asciiValue tH)
        (Py.asciiValue tM) (Py.asciiValue tS) (Py.asciiValue tf) = .ok t := by
  have dy : ∀ c ∈ ty, Py.isAsciiDigit c := fun c h => hs c (by simp [h])
  have dm : ∀ c ∈ tm, Py.isAsciiDigit c := fun c h => hs c (by simp [h])
  have dd : ∀ c ∈ td, Py.isAsciiDigit c := fun c h => hs c (by simp [h])
  have dH : ∀ c ∈ tH, Py.isAsciiDigit c := fun c h => hs c (by simp [h])
  have dM : ∀ c ∈ tM, Py.isAsciiDigit c := fun c h => hs c (by simp [h])
  have dS : ∀ c ∈ tS, Py.isAsciiDigit c := fun c h => hs c (by simp [h])
  have df : ∀ c ∈ tf, Py.isAsciiDigit c := fun c h => hs c (by simp [h])
  by_cases hshape : (1 ≤ Py.asciiValue tm ∧ Py.asciiValue tm ≤ 12) ∧
      (1 ≤ Py.asciiValue td ∧ Py.asciiValue td ≤ 31) ∧ Py.asciiValue tH ≤ 23 ∧
      Py.asciiValue tM ≤ 59 ∧ Py.asciiValue tS ≤ 61
  · obtain ⟨h1, h2, h3, h4, h5⟩ := hshape
    rw [strptime_eq_datetime hy hm hd hH hM hS hf dy dm dd dH dM dS df h1 h2 h3 h4 h5]
  · refine ⟨fun h => absurd (inRange_of_strptime_eq_ok hy hm hd hH hM hS hf dm dd dH dM dS h) hshape,
      fun h => absurd ?_ hshape⟩
    obtain ⟨⟨m1, m2⟩, ⟨d1, d2⟩, ⟨-, h3⟩, ⟨-, h4⟩, ⟨-, h5⟩, -⟩ := datetime_eq_ok h
    clear hshape
    omega

theorem toOption_eq_some_iff {ε α : Type} {x : Except ε α} {a : α} :
    x.toOption = some a ↔ x = .ok a := by
  cases x <;> simp [Except.toOption]

theorem exists_fixedFields {s : List Char} (hlen : s.length = 20) :
    ∃ ty tm td tH tM tS tf : List Char, fixedFields s = [ty, tm, td, tH, tM, tS, tf] ∧
      s = ty ++ (tm ++ (td ++ (tH ++ (tM ++ (tS ++ tf))))) ∧ ty.length = 4 ∧ tm.length = 2 ∧
      td.length = 2 ∧ tH.length = 2 ∧ tM.length = 2 ∧ tS.length = 2 ∧ tf.length = 6 := by
  refine ⟨_, _, _, _, _, _, _, rfl, by simp only [List.take_append_drop], ?_⟩
  simp [hlen]

theorem strptime_ascii {s : List Char} (hlen : s.length = 20) (hs : ∀ c ∈ s, Py.isAsciiDigit c)
    (t : DateTime) : strptime ⟨s⟩ = .ok t ↔ spelledDateTime s = some t := by
  obtain ⟨ty, tm, td, tH, tM, tS, tf, hfix, rfl, hy, hm, hd, hH, hM, hS, hf⟩ := exists_fixedFields hlen
  simp only [strptime_fields hy hm hd hH hM hS hf hs t, spelledDateTime, hfix, List.getD_cons_zero,
    List.getD_cons_succ, toOption_eq_some_iff]

theorem digitChar_ascii {c : Char} (h : Py.isAsciiDigit c) : Nat.digitChar (c.toNat - 48) = c := by
  simp only [Py.isAsciiDigit, Bool.and_eq_true, decide_eq_true_eq] at h
  obtain ⟨k, hk, e⟩ : ∃ k, k < 10 ∧ c.toNat = 48 + k := ⟨c.toNat - 48, by omega, by omega⟩
  have hc : c = Char.ofNat (48 + k) := by rw [← e, Char.ofNat_toNat]
  subst hc
  interval_cases k <;> rfl

theorem zeroPad_asciiValue {l : List Char} {n : Nat} (hn : l.length = n)
    (hl : ∀ c ∈ l, Py.isAsciiDigit c) : zeroPad n (Py.asciiValue l) = l := by
  subst hn
  induction l using List.reverseRecOn with
  | nil => rfl
  | append_singleton l c ih =>
    have hc := hl c (by simp)
    have hd : c.toNat - 48 < 10 := by
      simp only [Py.isAsciiDigit, Bool.and_eq_true, decide_eq_true_eq] at hc; omega
    have hv : Py.asciiValue (l ++ [c]) = Py.asciiValue l * 10 + (c.toNat - 48) := by
      simp [Py.asciiValue, List.foldl_append]
    rw [List.length_append, List.length_singleton, zeroPad, hv,
      show (Py.asciiValue l * 10 + (c.toNat - 48)) / 10 = Py.asciiValue l by omega,
      show (Py.asciiValue l * 10 + (c.toNat - 48)) % 10 = c.toNat - 48 by omega,
      ih fun c h => hl c (by simp [h]), digitChar_ascii hc]

theorem toDigitsCore_step {f v : Nat} {ds : List Char} (h : v / 10 ≠ 0) :
    Nat.toDigitsCore 10 (f + 1) v ds = Nat.toDigitsCore 10 f (v / 10) (Nat.digitChar (v % 10) :: ds) := by
  simp [Nat.toDigitsCore, h]

theorem toDigitsCore_last {f v : Nat} {ds : List Char} (h : v / 10 = 0) :
    Nat.toDigitsCore 10 (f + 1) v ds = Nat.digitChar (v % 10) :: ds := by
  simp [Nat.toDigitsCore, h]

theorem toString_four_digits {v : Nat} (h1 : 1000 ≤ v) (h2 : v < 10000) :
    (toString v).data = zeroPad 4 v := by
  show Nat.toDigitsCore 10 (v + 1) v [] = _
  rw [show v + 1 = v - 3 + 1 + 1 + 1 + 1 by omega, toDigitsCore_step (by omega),
    toDigitsCore_step (by omega), toDigitsCore_step (by omega), toDigitsCore_last (by omega)]
  simp only [zeroPad, Nat.div_div_eq_div_mul, List.nil_append, List.cons_append, List.singleton_append]

theorem strftime_fields {ty tm td tH tM tS tf : List Char} (hy : ty.length = 4)
    (hm : tm.length = 2) (hd : td.length = 2) (hH : tH.length = 2) (hM : tM.length = 2)
    (hS : tS.length = 2) (hf : tf.length = 6)
    (hs : ∀ c ∈ ty ++ (tm ++ (td ++ (tH ++ (tM ++ (tS ++ tf))))), Py.isAsciiDigit c) {t : DateTime}
    (h : datetime (Py.asciiValue ty) (Py.asciiValue tm) (Py.asciiValue td) (Py.asciiValue tH)
        (Py.asciiValue tM) (Py.asciiValue tS) (Py.asciiValue tf) = .ok t) :
    strftime t = ⟨ty ++ (tm ++ (td ++ (tH ++ (tM ++ (tS ++ tf)))))⟩ ↔ 1000 ≤ t.year := by
  obtain ⟨-, -, -, -, -, hyv, hmv, hdv, hHv, hMv, hSv, hfv⟩ := datetime_eq_ok h
  simp only [Int.toNat_ofNat] at hyv hmv hdv hHv hMv hSv hfv
  have hrest : zeroPad 2 t.month ++ zeroPad 2 t.day ++ zeroPad 2 t.hour ++ zeroPad 2 t.minute ++
      zeroPad 2 t.second ++ zeroPad 6 t.microsecond = tm ++ (td ++ (tH ++ (tM ++ (tS ++ tf)))) := by
    rw [hmv, hdv, hHv, hMv, hSv, hfv, zeroPad_asciiValue hm fun c h => hs c (by simp [h]),
      zeroPad_asciiValue hd fun c h => hs c (by simp [h]), zeroPad_asciiValue hH fun c h => hs c (by simp [h]),
      zeroPad_asciiValue hM fun c h => hs c (by simp [h]), zeroPad_asciiValue hS fun c h => hs c (by simp [h]),
      zeroPad_asciiValue hf fun c h => hs c (by simp [h])]
    simp only [List.append_assoc]
  unfold strftime
  rw [hrest]
  constructor
  · intro he
    by_contra hlt
    have hrepr := Nat.repr_length t.year 3 (by omega) (by omega)
    have hlen : ((toString t.year).data ++ (tm ++ (td ++ (tH ++ (tM ++ (tS ++ tf)))))).length =
        (ty ++ (tm ++ (td ++ (tH ++ (tM ++ (tS ++ tf)))))).length :=
      congrArg (fun s : String => s.data.length) he
    have hrl : (toString t.year).data.length = (Nat.repr t.year).length := rfl
    simp only [List.length_append, hy, hm, hd, hH, hM, hS, hf] at hlen
    omega
  · intro hge
    have hyd : (toString t.year).data = ty := by
      rw [toString_four_digits hge (by have := t.year_mem; omega), hyv,
        zeroPad_asciiValue hy fun c h => hs c (by simp [h])]
    exact String.ext (by simp [hyd])

/-- The `datetime` twenty ASCII digits spell is written back as those digits exactly when its year
has four digits: the C library writes a smaller year with fewer. -/
theorem strftime_spelled {s : List Char} {t : DateTime} (hlen : s.length = 20)
    (hs : ∀ c ∈ s, Py.isAsciiDigit c) (h : spelledDateTime s = some t) :
    strftime t = String.mk s ↔ 1000 ≤ t.year := by
  obtain ⟨ty, tm, td, tH, tM, tS, tf, hfix, rfl, hy, hm, hd, hH, hM, hS, hf⟩ := exists_fixedFields hlen
  simp only [spelledDateTime, hfix, List.getD_cons_zero, List.getD_cons_succ, toOption_eq_some_iff] at h
  exact strftime_fields hy hm hd hH hM hS hf hs h

end Boardfarm

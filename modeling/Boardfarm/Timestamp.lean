import Boardfarm.Strptime

/-!
# `check_file`: the timestamp of an iperf log

`GenericWrapper.check_file(device, fname)` lists the log, reads the companion file
`<fname>.timestamp`, and parses it with `strptime` when it starts with twenty decimal digits
(`re.match(r"\d{20}", ...)`), or returns `None` so that `get_details_dict` falls back to the file's
modification time.

The guard and the parser accept different strings: the guard takes any string that starts with
twenty decimal digits, and `strptime` rejects every such string whose fixed fields are no date,
and every longer one. `checkFile_timestamp` says what `check_file` does with every content of
the companion file.

The device is what `check_output` answers to each command.
-/

namespace Boardfarm

/-- `re.compile(r"\d{20}")`: one group of twenty `\d`. -/
def twentyDigitsPattern : List Group := [[List.replicate 20 .digit]]

def lsCommand (fname : String) : String := "ls -l --time-style=\"+%Y%m%d%H%M%S%6N\" " ++ fname

def catTimestampCommand (fname : String) : String := "cat " ++ fname ++ ".timestamp"

/-- `GenericWrapper.check_file(device, fname)`. -/
def checkFile (checkOutput : String → String) (fname : String) : Except PyError (Option DateTime) :=
  if Py.contains (checkOutput (lsCommand fname)) "No such file or directory" then
    .error .assertionError
  else
    let timestamp := checkOutput (catTimestampCommand fname)
    if (reMatch twentyDigitsPattern timestamp.data).isNone then .ok none
    else (strptime timestamp).map some

/-- `re.match(r"\d{20}", s)` finds a match exactly when `s` starts with twenty decimal digits. -/
theorem reMatch_twentyDigits_isSome (w : List Char) :
    (reMatch twentyDigitsPattern w).isSome ↔ 20 ≤ w.length ∧ ∀ c ∈ w.take 20, Py.isDecimal c := by
  have hm : (reMatch twentyDigitsPattern w).isSome =
      (matchAlternative (List.replicate 20 .digit) w).isSome := by
    simp only [reMatch, twentyDigitsPattern, matchGroups, List.flatMap_cons, List.flatMap_nil,
      List.append_nil]
    split <;> simp_all
  rw [hm, Option.isSome_iff_exists]
  constructor
  · rintro ⟨⟨t, r⟩, h⟩
    obtain ⟨rfl, hf⟩ := matchAlternative_eq_some.mp h
    obtain ⟨hl, hd⟩ := forall₂_replicate_iff.mp hf
    refine ⟨by simp; omega, ?_⟩
    rw [List.take_left' hl]
    exact hd
  · rintro ⟨hl, hd⟩
    exact ⟨(w.take 20, w.drop 20), matchAlternative_eq_some.mpr
      ⟨(List.take_append_drop _ _).symm, forall₂_replicate_iff.mpr ⟨by simp; omega, hd⟩⟩⟩

section CheckFile

variable (checkOutput : String → String) (fname : String)

/-- `check_file` on an existing log: `None` without the twenty-digit prefix, else `strptime`. -/
theorem checkFile_eq
    (hls : Py.contains (checkOutput (lsCommand fname)) "No such file or directory" = false) :
    checkFile checkOutput fname =
      if 20 ≤ (checkOutput (catTimestampCommand fname)).data.length ∧
          ∀ c ∈ (checkOutput (catTimestampCommand fname)).data.take 20, Py.isDecimal c then
        (strptime (checkOutput (catTimestampCommand fname))).map some
      else .ok none := by
  rw [checkFile, if_neg (by simp [hls])]
  simp only [Option.isNone_iff_eq_none, ← Option.not_isSome_iff_eq_none,
    reMatch_twentyDigits_isSome]
  split_ifs <;> simp_all

/-- What `check_file` does with every content `s` of the companion file of an existing log: it
returns `None` exactly when `s` does not start with twenty decimal digits, and raises nothing but
`ValueError`. On twenty ASCII digits it returns the `datetime` whose fields the fixed fields
`YYYYMMDDHHMMSSffffff` spell when they make one, and raises otherwise; that `datetime` is written
back as `s` exactly when its year has four digits. A longer string that starts with twenty
decimal digits always raises. -/
theorem checkFile_timestamp
    (hls : Py.contains (checkOutput (lsCommand fname)) "No such file or directory" = false) :
    let s := (checkOutput (catTimestampCommand fname)).data
    (checkFile checkOutput fname = .ok none ↔
        ¬(20 ≤ s.length ∧ ∀ c ∈ s.take 20, Py.isDecimal c)) ∧
    (∀ e, checkFile checkOutput fname = .error e → ∃ msg, e = .valueError msg) ∧
    (s.length = 20 → (∀ c ∈ s, Py.isAsciiDigit c) →
      ∀ t, checkFile checkOutput fname = .ok (some t) ↔ spelledDateTime s = some t) ∧
    (s.length = 20 → (∀ c ∈ s, Py.isAsciiDigit c) →
      ∀ t, spelledDateTime s = some t → (strftime t = String.mk s ↔ 1000 ≤ t.year)) ∧
    (20 < s.length → (∀ c ∈ s.take 20, Py.isDecimal c) →
      ∃ msg, checkFile checkOutput fname = .error (.valueError msg)) := by
  intro s
  have heq := checkFile_eq checkOutput fname hls
  rw [show (checkOutput (catTimestampCommand fname)).data = s from rfl] at heq
  have hascii : s.length = 20 → (∀ c ∈ s, Py.isAsciiDigit c) → ∀ c ∈ s.take 20, Py.isDecimal c :=
    fun hl hs c hc => test_digit_of_isAsciiDigit (hs c (List.mem_of_mem_take hc))
  refine ⟨?_, ?_, fun hl hs t => ?_, fun hl hs _ => strftime_spelled hl hs, fun hl hd => ?_⟩
  · rw [heq]
    split_ifs with h
    · simp only [not_not_intro h, iff_false]
      cases strptime _ <;> simp [Except.map]
    · simp [h]
  · intro e he
    rw [heq] at he
    split_ifs at he
    · cases hs : strptime (checkOutput (catTimestampCommand fname)) <;>
        simp only [hs, Except.map, Except.error.injEq, reduceCtorEq] at he
      exact strptime_raisesOnlyValueError _ _ (he ▸ hs)
  · rw [heq, if_pos ⟨by omega, hascii hl hs⟩, ← strptime_ascii hl hs]
    cases strptime _ <;> simp [Except.map]
  · obtain ⟨msg, hmsg⟩ := strptime_long (s := checkOutput (catTimestampCommand fname)) hl
    rw [heq, if_pos ⟨by omega, hd⟩, hmsg]
    exact ⟨msg, rfl⟩

end CheckFile

/-- A device whose log `log` exists and whose companion file holds `content`. -/
def timestampDevice (content : String) (command : String) : String :=
  if command = catTimestampCommand "log" then content else ""

/-- Twenty decimal digits with month `13` pass the guard, and `strptime` then raises: its first
match reads the month as `1` and leaves a digit over. -/
theorem checkFile_month_thirteen :
    checkFile (timestampDevice "20231301000000000000") "log" =
      .error (.valueError "unconverted data remains: 0") := by
  decide

theorem checkFile_timestamp_leap_day :
    Py.contains (timestampDevice "20240229235959999999" (lsCommand "log"))
      "No such file or directory" = false ∧
    let s := (timestampDevice "20240229235959999999" (catTimestampCommand "log")).data
    (checkFile (timestampDevice "20240229235959999999") "log" = .ok none ↔
        ¬(20 ≤ s.length ∧ ∀ c ∈ s.take 20, Py.isDecimal c)) ∧
    (∀ e, checkFile (timestampDevice "20240229235959999999") "log" = .error e →
      ∃ msg, e = .valueError msg) ∧
    (s.length = 20 → (∀ c ∈ s, Py.isAsciiDigit c) →
      ∀ t, checkFile (timestampDevice "20240229235959999999") "log" = .ok (some t) ↔
        spelledDateTime s = some t) ∧
    (s.length = 20 → (∀ c ∈ s, Py.isAsciiDigit c) →
      ∀ t, spelledDateTime s = some t → (strftime t = String.mk s ↔ 1000 ≤ t.year)) ∧
    (20 < s.length → (∀ c ∈ s.take 20, Py.isDecimal c) →
      ∃ msg, checkFile (timestampDevice "20240229235959999999") "log" =
        .error (.valueError msg)) :=
  have hls : Py.contains (timestampDevice "20240229235959999999" (lsCommand "log"))
      "No such file or directory" = false := by decide
  ⟨hls, checkFile_timestamp (timestampDevice "20240229235959999999") "log" hls⟩

end Boardfarm

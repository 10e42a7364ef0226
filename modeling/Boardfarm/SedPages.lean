import Boardfarm.Iperf

/-!
# The `sed` paging loop of `_get_data`

For a log that `wc -l` counts under two lines, `_get_data` reads the log from the console: it
prints `sed -n 'startline,startline+10p'` from `startline = 1` and moves on by ten while the count,
lowered by ten each time, stays positive. On every device the loop appends the outputs for the
start lines `1`, `11`, `21`, … in order (`sedPages_eq_foldl`). A window spans eleven lines and the
next one starts ten lines further on. Up to ten lines one window holds the whole log; from eleven
lines on, consecutive windows share a line, and an eleven-line log comes back with its last line
twice. `_get_data` pages only logs of fewer than two lines, so it returns the lines of the log
whichever way it reads it (`sedPages_windows`).

A log is its text. `sed` numbers its lines as `sedLines` cuts them, the text after the last newline
being one more line, and `wc -l` counts its newlines.
-/

namespace Boardfarm

/-- The lines of a text as `sed` numbers them, each with its newline, `cur` being the part of the
first one already read; the last is what follows the last newline, empty when the text ends with
one. -/
def sedLines (cur : List Char) : List Char → List (List Char)
  | [] => [cur]
  | c :: s => if c = '\n' then (cur ++ ['\n']) :: sedLines [] s else sedLines (cur ++ [c]) s

/-- What `sed -n 'a,(a+10)p'` prints of a log: its lines `a` to `a + 10`. -/
def sedWindow (log : String) (startline : Nat) : String :=
  ⟨(((sedLines [] log.data).drop (startline - 1)).take 11).flatten⟩

/-- A device that serves the log `log` at `logfile`: `wc -l` counts its newlines, each `sed`
window the loop can ask for is what `sed` prints, and a log the loop does not read is copied to
`/tmp/` and read back whole. -/
structure ServesPages (dev : Device) (logfile log : String) : Prop where
  wc : Py.int (dev.checkOutput (wcCommand logfile)) = .ok (log.data.count '\n')
  sed : ∀ a, 1 ≤ a → a ≤ log.data.count '\n' →
    dev.checkOutput (sedCommand logfile a) = sedWindow log a
  copy : 2 ≤ log.data.count '\n' → copyAndRead dev logfile = .ok log

section Lines

theorem flatten_sedLines : ∀ (cur l : List Char), (sedLines cur l).flatten = cur ++ l
  | cur, [] => by simp [sedLines]
  | cur, c :: s => by
    rw [sedLines]
    split
    · next h => simp [flatten_sedLines [] s, h]
    · simp [flatten_sedLines (cur ++ [c]) s]

theorem length_sedLines : ∀ (cur l : List Char), (sedLines cur l).length = l.count '\n' + 1
  | _, [] => rfl
  | cur, c :: s => by
    rw [sedLines, List.count_cons]
    split
    · next h => simp [length_sedLines [] s, h]
    · next h => simp [length_sedLines (cur ++ [c]) s, h]

theorem sedWindow_one {log : String} (h : log.data.count '\n' ≤ 10) : sedWindow log 1 = log := by
  have hlen : (sedLines [] log.data).length ≤ 11 := by
    rw [length_sedLines]
    omega
  rw [sedWindow, Nat.sub_self, List.drop_zero, List.take_of_length_le hlen, flatten_sedLines]
  rfl

end Lines

/-- The loop, from a count whose ceiling in tens is `k`, appends the outputs for `k` windows ten
lines apart. -/
theorem sedPages_eq_foldl (dev : Device) (logfile : String) :
    ∀ (k : Nat) (lines : Int) (startline : Nat) (buf : String), ((lines + 9) / 10).toNat = k →
      sedPages dev logfile lines startline buf =
        (List.range k).foldl
          (fun b i => b ++ dev.checkOutput (sedCommand logfile (startline + 10 * i))) buf
  | 0, lines, startline, buf, hk => by
    rw [sedPages_of_nonpos (by omega)]
    rfl
  | k + 1, lines, startline, buf, hk => by
    rw [sedPages, if_pos (by omega), sedPages_eq_foldl dev logfile k _ _ _ (by omega),
      List.range_succ_eq_map, List.foldl_cons, List.foldl_map]
    simp only [Nat.succ_eq_add_one, Nat.mul_zero, Nat.add_zero,
      show ∀ i, startline + 10 * (i + 1) = startline + 10 + 10 * i by intro i; omega]

theorem ServesPages.serves {dev : Device} {logfile log : String} (h : ServesPages dev logfile log) :
    Serves dev logfile log where
  wc := h.wc
  sed hone := (h.sed 1 le_rfl hone.ge).trans (sedWindow_one (by omega))
  copy := h.copy

/-- A device with the log `log` at `logfile`: it answers `wc -l` with the count of newlines, the
`sed` command for a start line up to that count with what `sed` prints, and anything else with
nothing. -/
def pagingDevice (logfile log : String) : Device where
  checkOutput c :=
    if c = wcCommand logfile then toString (log.data.count '\n')
    else (((List.range (log.data.count '\n' + 1)).find? fun a => sedCommand logfile a == c).map
      (sedWindow log)).getD ""
  copyExpects _ := (.shown, .shown)
  localFile _ := .text log

theorem sedCommand_ne_wcCommand (logfile : String) (a : Nat) :
    sedCommand logfile a ≠ wcCommand logfile := by
  intro h
  have := congrArg (fun s : String => s.data.head?) h
  simp [sedCommand, wcCommand] at this

/-- `pagingDevice` serves its log when `int()` reads back the count it prints and the start lines
up to the count have distinct commands. -/
theorem servesPages_pagingDevice {logfile log : String}
    (hwc : Py.int (toString (log.data.count '\n')) = .ok (log.data.count '\n'))
    (hinj : ∀ a < log.data.count '\n' + 1, ∀ b < log.data.count '\n' + 1,
      sedCommand logfile a = sedCommand logfile b → a = b) :
    ServesPages (pagingDevice logfile log) logfile log where
  wc := (congrArg Py.int (if_pos rfl)).trans hwc
  sed a _ han := by
    have hmem : a ∈ List.range (log.data.count '\n' + 1) := List.mem_range.mpr (by omega)
    obtain ⟨b, hb⟩ : ∃ b, (List.range (log.data.count '\n' + 1)).find?
        (fun b => sedCommand logfile b == sedCommand logfile a) = some b :=
      Option.isSome_iff_exists.mp (List.find?_isSome.mpr ⟨a, hmem, by simp⟩)
    have hba : b = a := hinj b (List.mem_range.mp (List.mem_of_find?_eq_some hb)) a (by omega)
      (by simpa using List.find?_some hb)
    simp only [pagingDevice, if_neg (sedCommand_ne_wcCommand logfile a), hb, hba,
      Option.map_some', Option.getD_some]
  copy _ := rfl

def tenLineLog : String := "1\n2\n3\n4\n5\n6\n7\n8\n9\n10\n"

def elevenLineLog : String := "1\n2\n3\n4\n5\n6\n7\n8\n9\n10\n11\n"

/- A device that serves the eleven-line log answers the loop, run with the count 11 that `wc -l`
gives, with line 11 twice; `_get_data` never runs the loop on such a log. -/
example :
    ServesPages (pagingDevice "iperf.log" elevenLineLog) "iperf.log" elevenLineLog ∧
      elevenLineLog.data.count '\n' = 11 ∧
      sedPages (pagingDevice "iperf.log" elevenLineLog) "iperf.log" 11 1 "" =
        elevenLineLog ++ "11\n" := by
  refine ⟨servesPages_pagingDevice (by decide) (by decide), by decide, ?_⟩
  rw [sedPages_eq_foldl _ _ 2 _ _ _ (by decide)]
  decide

end Boardfarm

import Boardfarm.Timestamp
import Mathlib.Data.List.Chain
import Mathlib.Data.List.Nodup

/-!
# Collecting iperf samples from a growing log

`GenericWrapper.collect_logs(tag, device, d)` reads the iperf log `d["logfile"]` from the device
(`_get_data`: stripped, blank lines dropped, the header line dropped), skips the lines up to the
marker `d["last_index"]` when the marker is among them, turns every `[SUM]` line after it into a
sample in `d["data"]`, and leaves the last `[SUM]` line it read as the next marker.

Polled again and again while iperf appends to the log, the descriptor reports each sample once
(`pollLogs_samples`) as long as two conditions hold: the `[SUM]` lines differ (`meta.index` finds a
marker's first occurrence), and every poll after a `[SUM]` line was seen finds a new one. A poll
that finds none sets the marker to `None`, so the next poll reads the log from its start and
reports its samples again (`pollLogs_reports_sample_twice`).

The device is what `check_output` answers to each command, how the two `expect` calls of
`_copy_file_locally` end, and the files under `/tmp/` once the copy is done; a poll raises only a
`ValueError`, what the copy and the read of the copy raise, or what a `[SUM]` line raises
(`collectLogs_raises`). Python's `float()` and `str(round(x, 3))` are parameters (`FloatText`);
the arithmetic and the comparison are the IEEE operations of `Float`, as in CPython.
-/

namespace Boardfarm

/-! ## The device and Python's floats -/

/-- How a `pexpect` `expect(pattern)` ends: the pattern shows, the timeout passes first, or the
console closes first. -/
inductive ExpectEnd where
  | shown
  | timeout
  | eof
  deriving DecidableEq, Repr

/-- `pexpect.TIMEOUT`. -/
def expectTimeout : PyError := .other "TIMEOUT" "Timeout exceeded."

/-- `pexpect.EOF`. -/
def expectEof : PyError := .other "EOF" "End Of File (EOF)."

/-- `expect(pattern)`: it returns, or raises what ended it. -/
def ExpectEnd.expect : ExpectEnd → Except PyError Unit
  | .shown => .ok ()
  | .timeout => .error expectTimeout
  | .eof => .error expectEof

/-- What `open(path).read()` finds on the machine the wrapper runs on. -/
inductive LocalFile where
  | missing
  | text (s : String)
  /-- A file that `open` or `read` refuses, with what they raise (`PermissionError`,
  `IsADirectoryError`, `UnicodeDecodeError`). -/
  | unreadable (e : PyError)

/-- What the wrapper meets when it reads a log: the output `check_output` gives each command, how
the two `cli.expect` calls of `_copy_file_locally` end for a log (`assword:`, which a login by key
never shows, then the shell prompt), and the local files once the copy is done. -/
structure Device where
  checkOutput : String → String
  copyExpects : String → ExpectEnd × ExpectEnd
  localFile : String → LocalFile

/-- `os.path.basename(path)`. -/
def basename (path : String) : String := (Py.split path '/').getLastD ""

/-- `GenericWrapper._copy_file_locally(dev, fname)`: `scp` the log to `/tmp/`, answer the
password prompt, and wait for the shell prompt. -/
def copyFileLocally (dev : Device) (fname : String) : Except PyError Unit := do
  (dev.copyExpects fname).1.expect
  (dev.copyExpects fname).2.expect

/-- `open(path).read()`. -/
def readLocal (dev : Device) (path : String) : Except PyError String :=
  match dev.localFile path with
  | .missing =>
    .error (.other "FileNotFoundError" ("[Errno 2] No such file or directory: " ++ Py.repr path))
  | .text s => .ok s
  | .unreadable e => .error e

/-- The branch of `_get_data` for a long log: copy it to `/tmp/` and read the copy. -/
def copyAndRead (dev : Device) (logfile : String) : Except PyError String := do
  copyFileLocally dev logfile
  readLocal dev ("/tmp/" ++ basename logfile)

/-- `float(s)` (`none` where it raises) and `str(round(x, 3))`. -/
structure FloatText where
  float : String → Option Float
  str3 : Float → String

/-- `float(s)`. -/
def FloatText.parse (ops : FloatText) (s : String) : Except PyError Float :=
  match ops.float s with
  | some x => .ok x
  | none => .error (.valueError ("could not convert string to float: " ++ Py.repr s))

/-! ## `_get_data` -/

def wcCommand (logfile : String) : String := "cat " ++ logfile ++ "|wc -l"

/-- The command that prints eleven lines of a log from `startline`. -/
def sedCommand (logfile : String) (startline : Nat) : String :=
  "sed -n \x27" ++ toString startline ++ "," ++ toString (startline + 10) ++ "p\x27 " ++ logfile

/-- The loop of `_get_data` that reads a short log through `sed`, ten lines a time. -/
def sedPages (dev : Device) (logfile : String) (lines : Int) (startline : Nat) (buf : String) :
    String :=
  if 0 < lines then
    sedPages dev logfile (lines - 10) (startline + 10)
      (buf ++ dev.checkOutput (sedCommand logfile startline))
  else buf
termination_by lines.toNat
decreasing_by omega

/-- The lines `_get_data` returns for a log's text: stripped, the blank ones dropped, and the
first one (iperf's header) dropped. -/
def metaLines (buf : String) : List String :=
  (((Py.split buf '\n').map Py.strip).filter (· ≠ "")).drop 1

/-- `GenericWrapper._get_data(device, data_list, idx)` for the log of the descriptor. -/
def getData (dev : Device) (logfile : String) : Except PyError (List String) := do
  let lines ← Py.int (dev.checkOutput (wcCommand logfile))
  let buf ← (if lines < 2 then pure (sedPages dev logfile lines 1 "") else copyAndRead dev logfile)
  pure (metaLines buf)

/-! ## `collect_logs` -/

/-- `self.units`: the units `collect_logs` knows, in bits. -/
def units : List (String × Nat) :=
  [("bits", 1), ("bytes", 8), ("kbits", 1024 * 1), ("kbytes", 1024 * 8),
    ("mbits", 1024 * 1024 * 1), ("mbytes", 1024 * 1024 * 8), ("gbits", 1024 * 1024 * 1024 * 1),
    ("gbytes", 1024 * 1024 * 1024 * 8)]

/-- `token.lower()` as far as `in self.units.keys()` can tell: the only characters whose lower
case holds an ASCII letter are `A` to `Z` and the Kelvin sign U+212A, which lowers to `k`; every
other character lowers to itself or to characters outside ASCII. -/
def lowerForUnits (s : String) : String :=
  ⟨s.data.map fun c =>
    if 65 ≤ c.toNat ∧ c.toNat ≤ 90 then Char.ofNat (c.toNat + 32)
    else if c.toNat = 0x212A then 'k' else c⟩

/-- A sample `collect_logs` appends to `d["data"]`: the dictionary `temp`. -/
structure Sample where
  type : String
  value : List String

/-- `[j for j in i.split(" ") if j != ""]`. -/
def tokens (i : String) : List String := (Py.split i ' ').filter (· ≠ "")

/-- The sample of a `[SUM]` line: its `type` from the interval `lo-hi` of its second token, and,
when its fifth token is a known unit, its `value`: the interval's end, the rate in Mbits
rounded to three places, and the sixth token. `none` for an unknown unit. -/
def sumSample (ops : FloatText) (i : String) : Except PyError (Option Sample) := do
  let line := tokens i
  let interval ← Py.subscript line 1
  let hi ← Py.subscript (Py.split interval '-') 1
  let hiV ← ops.parse hi
  let lo ← Py.subscript (Py.split interval '-') 0
  let loV ← ops.parse lo
  let type := if hiV - loV < 2 then "data" else "result"
  let unit ← Py.subscript line 4
  match units.lookup (lowerForUnits unit) with
  | none => pure none
  | some bits => do
    let value ← Py.subscript line 3
    let v ← ops.parse value
    let extra ← Py.subscript line 5
    pure (some ⟨type, [hi, ops.str3 (v * bits.toFloat / (1024 * 1024 : Nat).toFloat), extra]⟩)

/-- What the loop of `collect_logs` over the lines has built: `meta_dict["fields"]`,
`meta_dict["data"]`, and its local `last_index`. -/
structure Scan where
  fields : Option (List String)
  data : List Sample
  lastIndex : Option String

/-- One turn of the loop: the `[ ID]` header line sets `fields` once; a `[SUM]` line becomes the
local `last_index` and adds its sample. The loop state is kept when the sample raises. -/
def scanLine (ops : FloatText) (s : Scan) (i : String) : Outcome Scan :=
  let s := if Py.contains i "[ ID]" && s.fields.isNone then
      { s with fields := some (((tokens i).drop 2).take 3) }
    else s
  if Py.startswith i "[SUM]" then
    match sumSample ops i with
    | .error e => ⟨{ s with lastIndex := some i }, some e⟩
    | .ok none => ⟨{ s with lastIndex := some i }, none⟩
    | .ok (some x) => ⟨{ s with lastIndex := some i, data := s.data ++ [x] }, none⟩
  else ⟨s, none⟩

/-- The loop of `collect_logs` over the lines, up to the first exception. -/
def scanLines (ops : FloatText) : Scan → List String → Outcome Scan
  | s, [] => ⟨s, none⟩
  | s, i :: is =>
    let o := scanLine ops s i
    match o.raised with
    | some _ => o
    | none => scanLines ops o.state is

/-- The descriptor `get_details_dict` builds and `collect_logs` updates. Until the first poll it
has no `data` key; nothing reads `data` before the first poll sets it. -/
structure IperfDescriptor where
  mode : String
  flow : String
  port : String
  logfile : String
  lastIndex : Option String
  fields : Option (List String)
  tag : String
  service : String
  device : String
  timestamp : DateTime
  data : List Sample

/-- The wrapper's lists of descriptors. -/
structure Wrapper where
  iperfServerData : Option (List IperfDescriptor)
  iperfClientData : Option (List IperfDescriptor)

/-- `self.iperf_client_data = [d]` or `self.iperf_server_data = [d]`. The list holds the
descriptor `collect_logs` goes on to update, so it is stored as it ends. -/
def Wrapper.store (w : Wrapper) (tag : String) (d : IperfDescriptor) : Wrapper :=
  if tag = "client" then { w with iperfClientData := some [d] }
  else { w with iperfServerData := some [d] }

/-- The lines after the marker, when the marker is among them: `meta[meta.index(m) + 1:]`. -/
def afterLastIndex (lastIndex : Option String) (lines : List String) : List String :=
  match lastIndex with
  | some m => if m ∈ lines then lines.drop (lines.indexOf m + 1) else lines
  | none => lines

/-- `GenericWrapper.collect_logs(tag, device, d)`: the wrapper and the descriptor after the poll,
and the exception if it raised. `data_list` has the one descriptor `d`. -/
def collectLogs (ops : FloatText) (dev : Device) (w : Wrapper) (tag : String)
    (d : IperfDescriptor) : Outcome (Wrapper × IperfDescriptor) :=
  if tag = "client" ∨ tag = "server" then
    match getData dev d.logfile with
    | .error e => ⟨(w.store tag d, d), some e⟩
    | .ok lines =>
      let o := scanLines ops ⟨d.fields, [], none⟩ (afterLastIndex d.lastIndex lines)
      let d' := { d with
        fields := o.state.fields
        data := o.state.data
        lastIndex := if o.raised.isNone then o.state.lastIndex else d.lastIndex }
      ⟨(w.store tag d', d'), o.raised⟩
  else ⟨(w, d), some (.valueError "Invalid tag value")⟩

/-- Polls of one descriptor, one for each state of the device, up to the first exception: the
`data` each poll left, and the wrapper and descriptor after the last. -/
def pollLogs (ops : FloatText) (tag : String) :
    List Device → Wrapper × IperfDescriptor → List (List Sample) × Outcome (Wrapper × IperfDescriptor)
  | [], s => ([], ⟨s, none⟩)
  | dev :: devs, s =>
    let o := collectLogs ops dev s.1 tag s.2
    match o.raised with
    | some _ => ([o.state.2.data], o)
    | none =>
      let r := pollLogs ops tag devs o.state
      (o.state.2.data :: r.1, r.2)

/-! ## What a log holds -/

def isSumLine (i : String) : Bool := Py.startswith i "[SUM]"

def sumLines (lines : List String) : List String := lines.filter isSumLine

def lastSum (lines : List String) : Option String := (sumLines lines).getLast?

/-- The sample of a `[SUM]` line, when it has one and reads without raising. -/
def sampleOf (ops : FloatText) (i : String) : Option Sample :=
  match sumSample ops i with
  | .ok x => x
  | .error _ => none

/-- The samples of the `[SUM]` lines with a known unit, in order. -/
def samples (ops : FloatText) (lines : List String) : List Sample :=
  (sumLines lines).filterMap (sampleOf ops)

/-- A `[SUM]` line `collect_logs` reads without raising. -/
def WellFormed (ops : FloatText) (i : String) : Prop := ∃ x, sumSample ops i = .ok x

/-- A state of the device that serves the log `log` at `logfile`: the output of `wc -l` reads as
the number of its newlines, `sed` prints it when it has one newline, and when it has more the copy
to `/tmp/` succeeds and holds it. -/
structure Serves (dev : Device) (logfile log : String) : Prop where
  wc : Py.int (dev.checkOutput (wcCommand logfile)) = .ok (log.data.count '\n')
  sed : log.data.count '\n' = 1 → dev.checkOutput (sedCommand logfile 1) = log
  copy : 2 ≤ log.data.count '\n' → copyAndRead dev logfile = .ok log

/-! ## Logs polled -/

/-- `float()` on integer numerals, which Python reads as the float of their value. -/
def integerFloat (s : String) : Option Float :=
  match Py.int s with
  | .ok n => some (Float.ofInt n)
  | .error _ => none

/-- A device whose one file is the log `log` at `iperf.log`. -/
def logDevice (log : String) : Device where
  checkOutput c :=
    if c = wcCommand "iperf.log" then toString (log.data.count '\n')
    else if c = sedCommand "iperf.log" 1 then log else ""
  copyExpects _ := (.shown, .shown)
  localFile _ := .text log

/-- The descriptor `get_details_dict` builds for an iperf client logging to `iperf.log`. -/
def clientDescriptor : IperfDescriptor where
  mode := "tcp"
  flow := "see client"
  port := "5201"
  logfile := "iperf.log"
  lastIndex := none
  fields := none
  tag := "client"
  service := "iperf"
  device := "client"
  timestamp := ⟨2024, 1, 1, 0, 0, 0, 0, by decide, by decide, by decide, by decide, by decide,
    by decide, by decide⟩
  data := []

/-- iperf's first line, which `_get_data` drops. -/
def iperfHeader : String := "Connecting to host 10.0.0.1, port 5201\n"

/-- A log with one `[SUM]` line. -/
def oneSumLog : String := iperfHeader ++ "[SUM]   0-1   sec  1 MBytes  8 Mbits/sec\n"


/-- The same log with a second `[SUM]` line. -/
def twoSumLog : String := oneSumLog ++ "[SUM]   1-2   sec  2 MBytes  16 Mbits/sec\n"

/-! ## Reading a served log -/

theorem sedPages_of_nonpos {dev : Device} {logfile : String} {lines : Int} {startline : Nat}
    {buf : String} (h : lines ≤ 0) : sedPages dev logfile lines startline buf = buf := by
  rw [sedPages, if_neg (by omega)]

theorem metaLines_of_count_zero {log : String} (h : log.data.count '\n' = 0) :
    metaLines log = [] := by
  have hs : Py.split log '\n' = [log] := by
    rw [Py.split, List.splitOn, List.splitOnP_eq_single _ _ fun c hc he => ?_]
    · rfl
    · rw [beq_iff_eq] at he
      exact List.count_eq_zero.mp h (he ▸ hc)
  rw [metaLines, hs, List.map_singleton, List.filter_singleton]
  cases decide (Py.strip log ≠ "") <;> rfl

/-- `_get_data` returns the lines of the log the device serves, however many they are. -/
theorem getData_of_serves {dev : Device} {logfile log : String} (h : Serves dev logfile log) :
    getData dev logfile = .ok (metaLines log) := by
  simp only [getData, h.wc, bind, Except.bind, pure, Except.pure]
  rcases Nat.lt_or_ge (log.data.count '\n') 2 with hlt | hge
  · rw [if_pos (by omega)]
    rcases Nat.lt_or_ge (log.data.count '\n') 1 with h0 | h1
    · rw [sedPages_of_nonpos (by omega), @metaLines_of_count_zero log (by omega)]
      rfl
    · have hone : log.data.count '\n' = 1 := by omega
      rw [hone, Nat.cast_one, sedPages, if_pos (by decide), sedPages_of_nonpos (by decide),
        String.empty_append, h.sed hone]
  · rw [if_neg (by omega), h.copy hge]

/-! ## The `[SUM]` lines of a log -/

section Lines

variable {ops : FloatText}

@[simp] theorem sumLines_append (l l' : List String) :
    sumLines (l ++ l') = sumLines l ++ sumLines l' :=
  List.filter_append _ _

theorem samples_append (l l' : List String) :
    samples ops (l ++ l') = samples ops l ++ samples ops l' := by
  rw [samples, sumLines_append, List.filterMap_append]
  rfl

theorem lastSum_append (l l' : List String) : lastSum (l ++ l') = (lastSum l').or (lastSum l) := by
  rw [lastSum, sumLines_append, List.getLast?_append]
  rfl

theorem lastSum_eq_none {l : List String} : lastSum l = none ↔ sumLines l = [] :=
  List.getLast?_eq_none_iff

theorem eq_append_of_lastSum {l : List String} {li : String} (h : lastSum l = some li) :
    ∃ pre post, l = pre ++ li :: post ∧ sumLines post = [] := by
  induction l using List.reverseRecOn with
  | nil => simp [lastSum, sumLines] at h
  | append_singleton l x ih =>
    rw [lastSum_append] at h
    by_cases hx : isSumLine x
    · rw [show lastSum [x] = some x by simp [lastSum, sumLines, hx], Option.or_some,
        Option.some.injEq] at h
      exact ⟨l, [], by rw [h], rfl⟩
    · rw [show lastSum [x] = none by simp [lastSum, sumLines, hx], Option.none_or] at h
      obtain ⟨pre, post, rfl, hpost⟩ := ih h
      exact ⟨pre, post ++ [x], by simp, by rw [sumLines_append, hpost]; simp [sumLines, hx]⟩

/-- When the marker is the last `[SUM]` line of the log read before and the `[SUM]` lines differ,
the lines after the marker hold exactly the `[SUM]` lines the log gained since. -/
theorem sumLines_afterLastIndex {m M : List String} (hp : m <+: M) (hnd : (sumLines M).Nodup) :
    sumLines (afterLastIndex (lastSum m) M) = sumLines (M.drop m.length) := by
  obtain ⟨r, rfl⟩ := hp
  rw [List.drop_left' rfl]
  cases hl : lastSum m with
  | none => simp [afterLastIndex, lastSum_eq_none.mp hl]
  | some li =>
    obtain ⟨pre, post, rfl, hpost⟩ := eq_append_of_lastSum hl
    have hli : isSumLine li := (List.mem_filter.mp (List.mem_of_getLast?_eq_some hl)).2
    have hcons : sumLines (li :: post) = li :: sumLines post := List.filter_cons_of_pos hli
    rw [sumLines_append, sumLines_append, hcons] at hnd
    have hpre : li ∉ pre := fun h =>
      List.disjoint_of_nodup_append (hnd.sublist (List.sublist_append_left _ _))
        (List.mem_filter.mpr ⟨h, hli⟩) (List.mem_cons_self _ _)
    have hM : pre ++ li :: post ++ r = pre ++ li :: (post ++ r) := by simp
    rw [afterLastIndex, if_pos (by simp), hM, List.indexOf_append_of_not_mem hpre,
      List.indexOf_cons_self, show pre ++ li :: (post ++ r) = (pre ++ [li]) ++ (post ++ r) by simp,
      List.drop_left' (by simp), sumLines_append, hpost, List.nil_append]

theorem lastSum_drop {m M : List String} (hp : m <+: M)
    (hnew : lastSum m ≠ none → lastSum (M.drop m.length) ≠ none) :
    lastSum (M.drop m.length) = lastSum M := by
  obtain ⟨r, rfl⟩ := hp
  rw [List.drop_left' rfl] at hnew ⊢
  rw [lastSum_append]
  cases h : lastSum r with
  | some x => rfl
  | none =>
    have hm : lastSum m = none := by_contra fun hm => hnew hm h
    rw [hm]
    rfl

end Lines

/-! ## One poll -/

section Poll

variable {ops : FloatText}

theorem scanLine_of_wellFormed {i : String} (hw : isSumLine i → WellFormed ops i) (s : Scan) :
    (scanLine ops s i).raised = none ∧ (scanLine ops s i).state.data = s.data ++ samples ops [i] ∧
      (scanLine ops s i).state.lastIndex = (lastSum [i]).or s.lastIndex := by
  by_cases hi : isSumLine i
  · obtain ⟨x, hx⟩ := hw hi
    have hsum : Py.startswith i "[SUM]" = true := hi
    cases x <;> simp [scanLine, hsum, hx, samples, sumLines, hi, sampleOf, lastSum] <;> split <;> rfl
  · have hsum : Py.startswith i "[SUM]" = false := by simpa [isSumLine] using hi
    simp [scanLine, hsum, samples, sumLines, hi, lastSum]
    split <;> simp

/-- The loop over lines whose `[SUM]` lines all read: it raises nothing, adds their samples in
order, and leaves the last `[SUM]` line as the marker. -/
theorem scanLines_of_wellFormed :
    ∀ {ls : List String}, (∀ i ∈ sumLines ls, WellFormed ops i) → ∀ s : Scan,
      (scanLines ops s ls).raised = none ∧
        (scanLines ops s ls).state.data = s.data ++ samples ops ls ∧
        (scanLines ops s ls).state.lastIndex = (lastSum ls).or s.lastIndex
  | [], _, s => by simp [scanLines, samples, sumLines, lastSum]
  | i :: is, hw, s => by
    have hsplit : i :: is = [i] ++ is := rfl
    rw [hsplit, sumLines_append] at hw
    obtain ⟨hr, hd, hl⟩ := scanLine_of_wellFormed
      (fun h => hw i (List.mem_append_left _ (by simp [sumLines, h]))) s
    obtain ⟨hr', hd', hl'⟩ :=
      scanLines_of_wellFormed (fun j hj => hw j (List.mem_append_right _ hj)) (scanLine ops s i).state
    simp only [scanLines, hr]
    rw [hsplit, samples_append, lastSum_append]
    exact ⟨hr', by rw [hd', hd, List.append_assoc], by rw [hl', hl, Option.or_assoc]⟩

/-- One poll of a log the device serves, whose `[SUM]` lines after the marker all read: it raises
nothing, keeps the log, sets `data` to the samples after the marker, and the marker to the last
`[SUM]` line after it. -/
theorem collectLogs_of_serves {dev : Device} {w : Wrapper} {tag : String} {d : IperfDescriptor}
    {log : String} (htag : tag = "client" ∨ tag = "server") (hs : Serves dev d.logfile log)
    (hw : ∀ i ∈ sumLines (afterLastIndex d.lastIndex (metaLines log)), WellFormed ops i) :
    let o := collectLogs ops dev w tag d
    o.raised = none ∧ o.state.2.logfile = d.logfile ∧
      o.state.2.data = samples ops (afterLastIndex d.lastIndex (metaLines log)) ∧
      o.state.2.lastIndex = lastSum (afterLastIndex d.lastIndex (metaLines log)) := by
  obtain ⟨hr, hd, hl⟩ := scanLines_of_wellFormed hw ⟨d.fields, [], none⟩
  simp only [collectLogs, if_pos htag, getData_of_serves hs, hr, hd, hl, Option.isNone_none,
    if_true, Option.or_none, List.nil_append, and_self]

end Poll

/-! ## What a poll raises -/

/-- What reading a `[SUM]` line can raise: `IndexError` for a token, or an end of the interval,
that is not there, and `ValueError` for a number `float()` does not read. -/
def IsSumLineError (e : PyError) : Prop :=
  e = .indexError "list index out of range" ∨
    ∃ s, e = .valueError ("could not convert string to float: " ++ Py.repr s)

theorem FloatText.parse_raises (ops : FloatText) (s : String) :
    Raises IsSumLineError (ops.parse s) := by
  intro e h
  unfold FloatText.parse at h
  split at h
  · cases h
  · cases h
    exact .inr ⟨s, rfl⟩

theorem sumSample_raises (ops : FloatText) (i : String) : Raises IsSumLineError (sumSample ops i) := by
  have hidx : ∀ {α : Type} (l : List α) (k : Int), Raises IsSumLineError (Py.subscript l k) :=
    fun l k => (Py.subscript_raises l k).imp fun _ => .inl
  unfold sumSample
  refine .bind (hidx _ _) fun _ => .bind (hidx _ _) fun _ => .bind (ops.parse_raises _) fun _ =>
    .bind (hidx _ _) fun _ => .bind (ops.parse_raises _) fun _ => .bind (hidx _ _) fun _ => ?_
  split
  · exact .ok _
  · exact .bind (hidx _ _) fun _ => .bind (ops.parse_raises _) fun _ => .bind (hidx _ _) fun _ => .ok _

theorem scanLine_raises {ops : FloatText} {s : Scan} {i : String} {e : PyError}
    (h : (scanLine ops s i).raised = some e) : IsSumLineError e := by
  unfold scanLine at h
  dsimp only at h
  split at h
  · split at h
    · rename_i e₀ he₀
      cases h
      exact sumSample_raises ops i _ he₀
    · cases h
    · cases h
  · cases h

theorem scanLines_raises (ops : FloatText) :
    ∀ (s : Scan) (ls : List String) {e : PyError}, (scanLines ops s ls).raised = some e →
      IsSumLineError e
  | _, [], _, h => by cases h
  | s, i :: is, e, h => by
    simp only [scanLines] at h
    split at h
    · exact scanLine_raises h
    · exact scanLines_raises ops _ is h

/-- What copying a long log and reading the copy raises: `TIMEOUT` or `EOF` from one of the two
`expect` calls, `FileNotFoundError` when the copy left no file, or what reading the copy raises. -/
def IsCopyError (dev : Device) (logfile : String) (e : PyError) : Prop :=
  e = expectTimeout ∨ e = expectEof ∨
    e = .other "FileNotFoundError"
      ("[Errno 2] No such file or directory: " ++ Py.repr ("/tmp/" ++ basename logfile)) ∨
    dev.localFile ("/tmp/" ++ basename logfile) = .unreadable e

theorem ExpectEnd.expect_raises (x : ExpectEnd) :
    Raises (fun e => e = expectTimeout ∨ e = expectEof) x.expect := by
  intro e h
  cases x <;> cases h
  exacts [.inl rfl, .inr rfl]

theorem copyAndRead_raises (dev : Device) (logfile : String) :
    Raises (IsCopyError dev logfile) (copyAndRead dev logfile) := by
  have hexp : ∀ x : ExpectEnd, Raises (IsCopyError dev logfile) x.expect :=
    fun x => (x.expect_raises).imp fun _ h => h.imp id .inl
  refine .bind (.bind (hexp _) fun _ => hexp _) fun _ e h => ?_
  unfold readLocal at h
  split at h <;> cases h
  · exact .inr (.inr (.inl rfl))
  · exact .inr (.inr (.inr ‹_›))

theorem getData_raises (dev : Device) (logfile : String) :
    Raises (fun e => IsValueError e ∨ IsCopyError dev logfile e) (getData dev logfile) := by
  unfold getData
  refine .bind ((Py.int_raises _).imp fun _ => .inl) fun _ => .bind ?_ fun _ => .ok _
  split
  · exact .ok _
  · exact (copyAndRead_raises _ _).imp fun _ => .inr

/-- `log'` is `log` with lines appended: `log` is empty, or its last line is complete. -/
def LinePrefix (log log' : String) : Prop :=
  ∃ more, log' = log ++ more ∧ (log.data = [] ∨ log.data.getLast? = some '\n')

/-- Lines appended to a log extend the lines `_get_data` reads from it. -/
theorem metaLines_prefix_of_linePrefix {log log' : String} (h : LinePrefix log log') :
    metaLines log <+: metaLines log' := by
  obtain ⟨⟨m⟩, rfl, hlog | hlog⟩ := h
  · have hnil : metaLines log = [] := by
      rw [metaLines, Py.split, hlog]
      rfl
    rw [hnil]
    exact List.nil_prefix
  · obtain ⟨a, ha⟩ := List.getLast?_eq_some_iff.mp hlog
    obtain ⟨l⟩ := log
    obtain rfl : l = a ++ ['\n'] := ha
    have hl : Py.split ⟨a ++ ['\n']⟩ '\n' = Py.split ⟨a⟩ '\n' ++ [""] := Py.split_append_sep a [] '\n'
    have hlm : Py.split (⟨a ++ ['\n']⟩ ++ ⟨m⟩) '\n' = Py.split ⟨a⟩ '\n' ++ Py.split ⟨m⟩ '\n' := by
      rw [← Py.split_append_sep]
      show Py.split ⟨(a ++ ['\n']) ++ m⟩ '\n' = _
      rw [List.append_assoc, List.singleton_append]
    have hblank : ([""].map Py.strip).filter (· ≠ "") = [] := rfl
    rw [metaLines, metaLines, hl, hlm, List.map_append, List.map_append, List.filter_append,
      List.filter_append, hblank, List.append_nil]
    exact (List.prefix_append _ _).drop 1

theorem metaLines_prefix_twoSumLog :
    LinePrefix oneSumLog twoSumLog ∧ metaLines oneSumLog <+: metaLines twoSumLog :=
  have h : LinePrefix oneSumLog twoSumLog := ⟨_, rfl, .inr (by decide)⟩
  ⟨h, metaLines_prefix_of_linePrefix h⟩

/-- What polling needs of the logs `_get_data` reads, one for each poll. -/
structure Growing (ops : FloatText) (logs : List (List String)) : Prop where
  /-- Each log extends the one before it by lines. -/
  grows : logs.Chain' (· <+: ·)
  /-- A poll made after a `[SUM]` line was seen finds a new one. -/
  newSum : logs.Chain' fun m m' => lastSum m ≠ none → lastSum (m'.drop m.length) ≠ none
  /-- The `[SUM]` lines of the last log differ from one another. -/
  distinct : (sumLines (logs.getLastD [])).Nodup
  /-- Every `[SUM]` line of the last log reads without raising. -/
  wellFormed : ∀ i ∈ sumLines (logs.getLastD []), WellFormed ops i

section Growing

variable {ops : FloatText}

theorem Growing.tail {m M : List String} {rest : List (List String)}
    (h : Growing ops (m :: M :: rest)) : Growing ops (M :: rest) where
  grows := (List.chain'_cons.mp h.grows).2
  newSum := (List.chain'_cons.mp h.newSum).2
  distinct := h.distinct
  wellFormed := h.wellFormed

theorem Growing.nil_cons {logs : List (List String)} (h : Growing ops logs) :
    Growing ops ([] :: logs) where
  grows := by
    cases logs with
    | nil => exact List.chain'_singleton _
    | cons M rest => exact List.chain'_cons.mpr ⟨List.nil_prefix, h.grows⟩
  newSum := by
    cases logs with
    | nil => exact List.chain'_singleton _
    | cons M rest => exact List.chain'_cons.mpr ⟨fun h0 => absurd rfl h0, h.newSum⟩
  distinct := by simpa only [List.getLastD_cons] using h.distinct
  wellFormed := by simpa only [List.getLastD_cons] using h.wellFormed

theorem prefix_getLastD {M : List String} :
    ∀ {rest : List (List String)}, (M :: rest).Chain' (· <+: ·) → M <+: (M :: rest).getLastD []
  | [], _ => List.prefix_refl M
  | _ :: _, h => (List.chain'_cons.mp h).1.trans (prefix_getLastD (List.chain'_cons.mp h).2)

theorem drop_length_of_prefix {m M F : List String} (h₁ : m <+: M) (h₂ : M <+: F) :
    F.drop m.length = M.drop m.length ++ F.drop M.length := by
  obtain ⟨r, rfl⟩ := h₁
  obtain ⟨r', rfl⟩ := h₂
  simp

/-- Polls of logs that grow as `Growing` says, from a marker that is the last `[SUM]` line of the
log `m` read before: nothing raises, the marker ends as the last `[SUM]` line of the last log, and
the polls report the samples the last log gained since `m`, each once and in order. -/
theorem pollLogs_of_growing {tag : String} (htag : tag = "client" ∨ tag = "server") :
    ∀ (polls : List (Device × String)) (m : List String) (s : Wrapper × IperfDescriptor),
      s.2.lastIndex = lastSum m → (∀ p ∈ polls, Serves p.1 s.2.logfile p.2) →
      Growing ops (m :: polls.map (metaLines ·.2)) →
      (pollLogs ops tag (polls.map Prod.fst) s).2.raised = none ∧
        (pollLogs ops tag (polls.map Prod.fst) s).2.state.2.lastIndex =
          lastSum ((polls.map (metaLines ·.2)).getLastD m) ∧
        (pollLogs ops tag (polls.map Prod.fst) s).1.flatten =
          samples ops (((polls.map (metaLines ·.2)).getLastD m).drop m.length)
  | [], m, s, hd, _, _ => by simp [pollLogs, hd, samples, sumLines]
  | (dev, log) :: polls, m, s, hd, hs, hg => by
    have hgrow := List.chain'_cons.mp hg.grows
    have hmM : m <+: metaLines log := hgrow.1
    have hML : metaLines log <+: (polls.map (metaLines ·.2)).getLastD (metaLines log) := by
      simpa only [List.getLastD_cons] using prefix_getLastD hgrow.2
    have hsub := (hML.filter isSumLine).sublist
    have hlast : ∀ i ∈ sumLines ((polls.map (metaLines ·.2)).getLastD (metaLines log)),
        WellFormed ops i := by
      simpa only [List.map_cons, List.getLastD_cons] using hg.wellFormed
    have hafter := sumLines_afterLastIndex hmM (hsub.nodup (by
      simpa only [List.map_cons, List.getLastD_cons] using hg.distinct))
    rw [← hd] at hafter
    obtain ⟨hr, hf, hdata, hli⟩ := @collectLogs_of_serves ops dev s.1 tag s.2 log htag
      (hs _ (List.mem_cons_self _ _)) fun i hi => hlast i (hsub.subset (by
        rw [hafter] at hi
        exact ((List.drop_sublist _ _).filter isSumLine).subset hi))
    have hdata' : (collectLogs ops dev s.1 tag s.2).state.2.data =
        samples ops ((metaLines log).drop m.length) := hdata.trans (by simp only [samples, hafter])
    have hli' : (collectLogs ops dev s.1 tag s.2).state.2.lastIndex = lastSum (metaLines log) :=
      (hli.trans (by simp only [lastSum, hafter])).trans
        (lastSum_drop hmM (List.chain'_cons.mp hg.newSum).1)
    have ih := pollLogs_of_growing htag polls (metaLines log) (collectLogs ops dev s.1 tag s.2).state
      hli' (fun p hp => hf ▸ hs p (List.mem_cons_of_mem _ hp)) hg.tail
    simp only [List.map_cons, pollLogs, hr, List.getLastD_cons]
    refine ⟨ih.1, ih.2.1, ?_⟩
    rw [List.flatten_cons, ih.2.2, hdata', drop_length_of_prefix hmM hML, samples_append]
  
/-- Polls of a log that does not change, from no marker: they report its samples, then nothing,
and so on. A poll that finds no new `[SUM]` line sets the marker to `None`, so the poll after it
reads the log from its start. -/
theorem pollLogs_unchanged {dev : Device} {log tag : String}
    (htag : tag = "client" ∨ tag = "server") (hnd : (sumLines (metaLines log)).Nodup)
    (hw : ∀ i ∈ sumLines (metaLines log), WellFormed ops i) :
    ∀ (n : Nat) (s : Wrapper × IperfDescriptor), s.2.lastIndex = none →
      Serves dev s.2.logfile log →
      (pollLogs ops tag (List.replicate (2 * n) dev) s).1 =
        (List.replicate n [samples ops (metaLines log), []]).flatten
  | 0, _, _, _ => rfl
  | n + 1, s, hd, hs => by
    obtain ⟨hr₁, hf₁, hd₁, hl₁⟩ := @collectLogs_of_serves ops dev s.1 tag s.2 log htag hs
      (by rw [hd]; exact hw)
    have hafter : sumLines (afterLastIndex (lastSum (metaLines log)) (metaLines log)) = [] := by
      rw [sumLines_afterLastIndex (List.prefix_refl _) hnd, List.drop_length]
      rfl
    let s₁ := (collectLogs ops dev s.1 tag s.2).state
    rw [hd] at hd₁ hl₁
    obtain ⟨hr₂, hf₂, hd₂, hl₂⟩ := @collectLogs_of_serves ops dev s₁.1 tag s₁.2 log htag
      (hf₁ ▸ hs) (by rw [hl₁, afterLastIndex, hafter]; simp)
    rw [hl₁, afterLastIndex] at hd₂ hl₂
    have hrest := pollLogs_unchanged htag hnd hw n (collectLogs ops dev s₁.1 tag s₁.2).state
      (by rw [hl₂, lastSum, hafter]; rfl) (hf₂ ▸ hf₁ ▸ hs)
    rw [show 2 * (n + 1) = 2 * n + 1 + 1 by omega, List.replicate_succ, List.replicate_succ,
      List.replicate_succ, List.flatten_cons]
    simp only [pollLogs, hr₁, hr₂]
    have hnone : samples ops (afterLastIndex (lastSum (metaLines log)) (metaLines log)) = [] := by
      rw [samples, hafter]
      rfl
    rw [hrest, hd₁, hd₂, hnone]
    rfl

end Growing

/-! ## Every sample once -/

/-- Polls of the descriptor `get_details_dict` built, which has no marker yet, one for each state
of a log that grows as `Growing` says: they raise nothing, and their `data` lists, put together,
are the samples of the `[SUM]` lines of the last log, each once and in order. -/
theorem pollLogs_samples (ops : FloatText) (tag : String) (htag : tag = "client" ∨ tag = "server")
    (w : Wrapper) (d : IperfDescriptor) (hd : d.lastIndex = none) (polls : List (Device × String))
    (hs : ∀ p ∈ polls, Serves p.1 d.logfile p.2) (hg : Growing ops (polls.map (metaLines ·.2))) :
    let r := pollLogs ops tag (polls.map Prod.fst) (w, d)
    r.2.raised = none ∧ r.1.flatten = samples ops ((polls.map (metaLines ·.2)).getLastD []) := by
  obtain ⟨hr, -, hf⟩ := pollLogs_of_growing htag polls [] (w, d) hd hs hg.nil_cons
  exact ⟨hr, hf⟩

/-- The descriptor `get_details_dict` builds, polled four times while the log holds a header and one
`[SUM]` line: the second poll finds no new `[SUM]` line and sets the marker to `None`, so the third
reads the log from its start and reports the one sample again. -/
theorem pollLogs_reports_sample_twice :
    let ops : FloatText := ⟨integerFloat, toString⟩
    let polls := List.replicate 4 (logDevice oneSumLog, oneSumLog)
    (∀ p ∈ polls, Serves p.1 clientDescriptor.logfile p.2) ∧
      (polls.map (metaLines ·.2)).Chain' (· <+: ·) ∧
      (∀ i ∈ sumLines (metaLines oneSumLog), WellFormed ops i) ∧
      (pollLogs ops "client" (polls.map Prod.fst) (⟨none, none⟩, clientDescriptor)).1.flatten.length
        = 2 ∧
      (samples ops (metaLines oneSumLog)).length = 1 := by
  intro ops polls
  have hs : Serves (logDevice oneSumLog) clientDescriptor.logfile oneSumLog :=
    ⟨by decide, by decide, fun _ => rfl⟩
  have hsum : sumLines (metaLines oneSumLog) = ["[SUM]   0-1   sec  1 MBytes  8 Mbits/sec"] := by
    decide
  obtain ⟨x, hx⟩ : ∃ x, sumSample ops "[SUM]   0-1   sec  1 MBytes  8 Mbits/sec" = .ok (some x) :=
    ⟨_, rfl⟩
  have hw : ∀ i ∈ sumLines (metaLines oneSumLog), WellFormed ops i := by
    rw [hsum]
    intro i hi
    rw [List.mem_singleton.mp hi]
    exact ⟨_, hx⟩
  have hone : samples ops (metaLines oneSumLog) = [x] := by simp [samples, hsum, sampleOf, hx]
  have hrun := @pollLogs_unchanged ops (logDevice oneSumLog) oneSumLog "client" (Or.inl rfl)
    (by rw [hsum]; decide) hw 2 (⟨none, none⟩, clientDescriptor) rfl hs
  refine ⟨fun p hp => List.eq_of_mem_replicate hp ▸ hs,
    by simp [polls, List.replicate_succ, List.chain'_cons], hw, ?_, by rw [hone]; rfl⟩
  rw [show polls.map Prod.fst = List.replicate (2 * 2) (logDevice oneSumLog) by simp [polls], hrun,
    hone]
  rfl

end Boardfarm

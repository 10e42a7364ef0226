import Boardfarm.Search

/-!
# Capturing with `tcpdump`

`start_tcpdump` starts `tcpdump -U -i {interface} -n -w {output_file}` in the background and
reads its process id off what the shell prints for the job, `[1] 4242`:
`re.search(r"(\[\d{1,10}\]\s(\d{1,6}))", output)[2]`. `stop_tcpdump` kills that id.

`sre` runs a greedy repeat of one class from its longest count down, so at each start the two
repeats try the counts `(10, 6), (10, 5), …, (1, 1)` in turn (`pidAlts`), and `searchAlts` is
`re.search` on them. A job number is the whole run of digits between the brackets; the id is cut
at six digits, since nothing after the group can fail. At a job line `[job] pid` with no `[`
before it, `start_tcpdump` returns the first six digits of `pid` (`startTcpdump_pid`): a process id
of seven digits, which Linux hands out once `pid_max` passes 999999, comes back cut, and
`stop_tcpdump` is then given the id of another process.

The console is what `execute_command` returns for a command, and whether `expect_exact` then
sees a text before its timeout.
-/

namespace Boardfarm

/-- What the helpers see of a Linux console. -/
structure LinuxConsole where
  /-- What `execute_command(command)` returns. -/
  executeCommand : String → String
  /-- Whether, after `command`, `expect_exact([text, pexpect.TIMEOUT])` sees `text` (index `0`)
  rather than timing out (index `1`). -/
  shows : String → String → Bool

/-- The counts a greedy repeat `{1,n}` of one class tries, most first. -/
def greedyCounts : Nat → List Nat
  | 0 => []
  | n + 1 => (n + 1) :: greedyCounts n

/-- The alternative of `(\[\d{1,10}\]\s(\d{1,6}))` with `a` digits of job number and `b` digits of
process id. -/
def pidAlt (a b : Nat) : List Tok :=
  .groupStart 1 :: .lit '[' :: (List.replicate a (.cls Py.isDecimal) ++
    .lit ']' :: .cls Py.isSpace :: .groupStart 2 ::
      (List.replicate b (.cls Py.isDecimal) ++ [.groupEnd 2, .groupEnd 1]))

/-- `(\[\d{1,10}\]\s(\d{1,6}))` as the alternatives `sre` tries at a start, in its order. -/
def pidAlts : List (List Tok) :=
  (greedyCounts 10).flatMap fun a => (greedyCounts 6).map (pidAlt a)

/-- `" ".join([" ".join(i) for i in filters.items()]) if filters is not None else ""`. -/
def filterText (filters : Option (List (String × String))) : String :=
  match filters with
  | none => ""
  | some items => " ".intercalate (items.map fun i => i.1 ++ " " ++ i.2)

/-- The command `start_tcpdump` runs, for the filter text it built. -/
def tcpdumpCommand (interface : String) (port : Option String) (outputFile filterStr : String) :
    String :=
  let command := "tcpdump -U -i " ++ interface ++ " -n -w " ++ outputFile ++ " "
  match port with
  | some p =>
    if p.isEmpty then command ++ " " ++ filterStr ++ " &"
    else command ++ " \x27portrange " ++ p ++ "\x27 " ++ filterStr ++ " &"
  | none => command ++ " " ++ filterStr ++ " &"

/-- `start_tcpdump(console, interface, port, output_file, filters, additional_filters)`: the
process id, or `None` where the match has no group 2. -/
def startTcpdump (console : LinuxConsole) (interface : String) (port : Option String)
    (outputFile : String) (filters : Option (List (String × String)))
    (additionalFilters : Option String) : Except PyError (Option String) :=
  match additionalFilters with
  | none => .error (.typeError "can only concatenate str (not \"NoneType\") to str")
  | some extra =>
    let command := tcpdumpCommand interface port outputFile (filterText filters ++ extra)
    let output := console.executeCommand command
    if !console.shows command ("tcpdump: listening on " ++ interface) then
      .error (.valueError ("Failed to start tcpdump on " ++ interface))
    else
      match searchAlts pidAlts output.data with
      | none => .error (.typeError "\x27NoneType\x27 object is not subscriptable")
      | some m => .ok ((m.group 2).map String.mk)

/-- `stop_tcpdump(console, process_id)`: the command it sends, and whether it raises. -/
def stopTcpdump (console : LinuxConsole) (processId : String) : String × Except PyError Unit :=
  ("kill " ++ processId,
    if console.shows ("kill " ++ processId) "packets captured" then .ok ()
    else .error (.valueError ("Failed to stop tcpdump process with PID " ++ processId)))

/-! ## The counts `sre` tries -/

section Counts

variable {β : Type}

theorem mem_greedyCounts {j : Nat} : ∀ {n : Nat}, j ∈ greedyCounts n ↔ 1 ≤ j ∧ j ≤ n
  | 0 => by simp [greedyCounts]; omega
  | n + 1 => by
    rw [greedyCounts, List.mem_cons, mem_greedyCounts]
    omega

theorem findSome?_greedyCounts {f : Nat → Option β} {k : Nat} {r : β} (hk : 1 ≤ k)
    (hr : f k = some r) :
    ∀ n, k ≤ n → (∀ j, k < j → j ≤ n → f j = none) → (greedyCounts n).findSome? f = some r
  | 0, h, _ => absurd h (by omega)
  | n + 1, h, hnone => by
    rw [greedyCounts, List.findSome?_cons]
    rcases Nat.lt_or_eq_of_le h with hlt | rfl
    · rw [hnone (n + 1) hlt le_rfl]
      exact findSome?_greedyCounts hk hr n (by omega) fun j hj hjn => hnone j hj (by omega)
    · rw [hr]

theorem findSome?_flatMap {α γ : Type} (F : β → Option γ) (g : α → List β) :
    ∀ l : List α, (l.flatMap g).findSome? F = l.findSome? fun a => (g a).findSome? F
  | [] => rfl
  | a :: l => by
    rw [List.flatMap_cons, List.findSome?_append, List.findSome?_cons, findSome?_flatMap F g l]
    cases (g a).findSome? F <;> rfl

/-- The first start that succeeds is the one `re.search` reports. -/
theorem findSome?_range {f : Nat → Option β} {n k : Nat} {r : β} (hk : k < n) (hr : f k = some r)
    (hnone : ∀ i < k, f i = none) : (List.range n).findSome? f = some r := by
  have hsplit : List.range n =
      List.range k ++ k :: (List.range (n - k - 1)).map fun x => k + Nat.succ x := by
    conv_lhs => rw [show n = k + ((n - k - 1) + 1) by omega]
    rw [List.range_add, List.range_succ_eq_map, List.map_cons, List.map_map]
    rfl
  exact List.findSome?_eq_some_iff.mpr
    ⟨_, k, _, hsplit, hr, fun i hi => hnone i (List.mem_range.mp hi)⟩

end Counts

/-! ## What the alternatives match -/

section Match

variable {ts : List Tok} {c : Captures}

theorem isDecimal_bracket : Py.isDecimal ']' = false := by decide

theorem matchToks_replicate_bracket :
    ∀ (job u : List Char) (a : Nat), (∀ x ∈ job, Py.isDecimal x) →
      matchToks (List.replicate a (.cls Py.isDecimal) ++ .lit ']' :: ts) (job ++ ']' :: u) c =
        if a = job.length then matchToks ts u c else none
  | [], u, 0, _ => by simp [matchToks_lit_cons]
  | [], u, a + 1, _ => by simp [List.replicate_succ, matchToks_cls_cons, isDecimal_bracket]
  | x :: job, u, 0, h => by
    have hx : x ≠ ']' := fun e => by simpa [e, isDecimal_bracket] using h x (List.mem_cons_self _ _)
    simp [matchToks_lit_cons, hx]
  | x :: job, u, a + 1, h => by
    rw [List.replicate_succ, List.cons_append, List.cons_append, matchToks_cls_cons,
      if_pos (h x (List.mem_cons_self _ _)),
      matchToks_replicate_bracket job u a fun y hy => h y (List.mem_cons_of_mem _ hy)]
    simp

theorem matchToks_replicate_decimal (rest : List Char)
    (hrest : ∀ x ∈ rest.head?, Py.isDecimal x = false) :
    ∀ (pid : List Char) (b : Nat), (∀ x ∈ pid, Py.isDecimal x) →
      matchToks (List.replicate b (.cls Py.isDecimal) ++ ts) (pid ++ rest) c =
        if b ≤ pid.length then matchToks ts (pid.drop b ++ rest) c else none
  | [], 0, _ => by simp
  | [], b + 1, _ => by
    rcases rest with _ | ⟨x, rest⟩
    · rfl
    · simp [List.replicate_succ, matchToks_cls_cons, hrest x rfl]
  | x :: pid, 0, _ => by simp
  | x :: pid, b + 1, h => by
    rw [List.replicate_succ, List.cons_append, List.cons_append, matchToks_cls_cons,
      if_pos (h x (List.mem_cons_self _ _)),
      matchToks_replicate_decimal rest hrest pid b fun y hy => h y (List.mem_cons_of_mem _ hy)]
    simp

variable {job pid rest : List Char} {w : Char} (hjob : ∀ x ∈ job, Py.isDecimal x)
  (hw : Py.isSpace w) (hpid : ∀ x ∈ pid, Py.isDecimal x)
  (hrest : ∀ x ∈ rest.head?, Py.isDecimal x = false)
include hjob hw hpid hrest

theorem matchToks_pidAlt_isSome {b : Nat} (hb : b ≤ pid.length) :
    ∃ r, matchToks (pidAlt job.length b) ('[' :: (job ++ ']' :: w :: (pid ++ rest))) c = some r ∧
      r.2.group 2 = some (pid.take b) := by
  rw [pidAlt, matchToks_groupStart, matchToks_lit_cons, if_pos rfl,
    matchToks_replicate_bracket job _ _ hjob, if_pos rfl, matchToks_cls_cons, if_pos hw,
    matchToks_groupStart, matchToks_replicate_decimal rest hrest pid b hpid, if_pos hb]
  refine ⟨_, rfl, ?_⟩
  have hlen : pid.length + rest.length - (pid.length - b + rest.length) = b := by omega
  simp [Captures.group, List.lookup_cons, hlen, List.take_append_of_le_length hb]

theorem matchToks_pidAlt_eq_none {a b : Nat} (h : a ≠ job.length ∨ pid.length < b) :
    matchToks (pidAlt a b) ('[' :: (job ++ ']' :: w :: (pid ++ rest))) c = none := by
  rw [pidAlt, matchToks_groupStart, matchToks_lit_cons, if_pos rfl,
    matchToks_replicate_bracket job _ _ hjob]
  split_ifs with ha
  · rw [matchToks_cls_cons, if_pos hw, matchToks_groupStart,
      matchToks_replicate_decimal rest hrest pid b hpid, if_neg (by omega)]
  · rfl

end Match

/-- What an alternative matches: `[`, `a` digits, `]`, a blank and `b` digits, those last as
group 2. -/
theorem matchToks_pidAlt_eq_some {a b : Nat} {s : List Char} {c : Captures}
    {r : List Char × Captures} (h : matchToks (pidAlt a b) s c = some r) :
    ∃ job w pid rest, s = '[' :: (job ++ ']' :: w :: (pid ++ rest)) ∧ job.length = a ∧
      (∀ x ∈ job, Py.isDecimal x) ∧ Py.isSpace w ∧ pid.length = b ∧
      (∀ x ∈ pid, Py.isDecimal x) ∧ r.2.group 2 = some pid := by
  rw [pidAlt, matchToks_groupStart] at h
  obtain _ | ⟨x, s⟩ := s
  · cases h
  rw [matchToks_lit_cons] at h
  split_ifs at h with hx
  obtain ⟨job, _ | ⟨y, _ | ⟨w, s⟩⟩, rfl, hjl, hjob, h⟩ := matchToks_replicate_cls a h
  · cases h
  · rw [matchToks_lit_cons] at h
    split_ifs at h
    cases h
  rw [matchToks_lit_cons] at h
  split_ifs at h with hy
  rw [matchToks_cls_cons] at h
  split_ifs at h with hw
  rw [matchToks_groupStart] at h
  obtain ⟨pid, rest, rfl, hpl, hpid, h⟩ := matchToks_replicate_cls b h
  rw [matchToks_groupEnd, matchToks_groupEnd] at h
  cases h
  subst hx hy
  refine ⟨job, w, pid, rest, rfl, hjl, hjob, hw, hpl, hpid, ?_⟩
  simp [Captures.group, List.lookup_cons]

/-! ## The process id -/

theorem matchToks_pidAlt_of_ne {x : Char} (hx : x ≠ '[') (s : List Char) (c : Captures) (a b : Nat) :
    matchToks (pidAlt a b) (x :: s) c = none := by
  rw [pidAlt, matchToks_groupStart, matchToks_lit_cons, if_neg hx]

/-- At a job line `[job] pid` with no `[` before it, where `job` is one to ten digits and the
digits `pid` are followed by no digit, `re.search` reads the first six digits of `pid`. -/
theorem searchAlts_pidAlts {pre job pid rest : List Char} {w : Char} (hpre : '[' ∉ pre)
    (hjob : job ≠ [] ∧ job.length ≤ 10 ∧ ∀ x ∈ job, Py.isDecimal x) (hw : Py.isSpace w)
    (hpid : pid ≠ [] ∧ ∀ x ∈ pid, Py.isDecimal x) (hrest : ∀ x ∈ rest.head?, Py.isDecimal x = false) :
    ∃ m, searchAlts pidAlts (pre ++ '[' :: (job ++ ']' :: w :: (pid ++ rest))) = some m ∧
      m.group 2 = some (pid.take 6) := by
  have hjl := List.length_pos.mpr hjob.1
  have hpl := List.length_pos.mpr hpid.1
  obtain ⟨r, hr, hg⟩ := matchToks_pidAlt_isSome (c := ⟨[], []⟩) hjob.2.2 hw hpid.2 hrest
    (b := min 6 pid.length) (Nat.min_le_right _ _)
  refine ⟨r.2, ?_, by rw [hg, ← List.take_take, List.take_length]⟩
  refine findSome?_range (k := pre.length) (by simp; omega) ?_ fun i hi => ?_
  · rw [List.drop_left, pidAlts, findSome?_flatMap]
    refine findSome?_greedyCounts (k := job.length) hjl ?_ 10 hjob.2.1 fun a ha _ => ?_
    · rw [List.findSome?_map]
      refine findSome?_greedyCounts (k := min 6 pid.length) (by omega) (by simp [hr]) 6
        (Nat.min_le_left _ _) fun b hb _ => ?_
      simp [matchToks_pidAlt_eq_none (a := job.length) (b := b) hjob.2.2 hw hpid.2 hrest
        (.inr (by omega))]
    · rw [List.findSome?_map]
      exact List.findSome?_eq_none_iff.mpr fun b _ => by
        simp [matchToks_pidAlt_eq_none (a := a) (b := b) hjob.2.2 hw hpid.2 hrest (.inl (by omega))]
  · have hx : pre[i] ≠ '[' := fun e => hpre (e ▸ List.getElem_mem _)
    rw [List.drop_append_of_le_length hi.le, List.drop_eq_getElem_cons hi, List.cons_append]
    exact List.findSome?_eq_none_iff.mpr fun ts hts => by
      obtain ⟨a, -, hts⟩ := List.mem_flatMap.mp hts
      obtain ⟨b, -, rfl⟩ := List.mem_map.mp hts
      simp [matchToks_pidAlt_of_ne hx]

/-- Over every console and every call whose output holds a job line `[job] pid` with no `[`
before it (`job` one to ten digits, `pid` a run of digits, a blank between them), and whose console
shows that `tcpdump` listens: `start_tcpdump` returns the first six digits of `pid`, so any process
id of more than six digits comes back cut. -/
theorem startTcpdump_pid (console : LinuxConsole) (interface : String) (port : Option String)
    (outputFile : String) (filters : Option (List (String × String))) (extra : String)
    (pre job pid rest : List Char) (w : Char)
    (hout : (console.executeCommand
      (tcpdumpCommand interface port outputFile (filterText filters ++ extra))).data =
        pre ++ '[' :: (job ++ ']' :: w :: (pid ++ rest)))
    (hpre : '[' ∉ pre) (hjob : job ≠ [] ∧ job.length ≤ 10 ∧ ∀ x ∈ job, Py.isDecimal x)
    (hw : Py.isSpace w) (hpid : pid ≠ [] ∧ ∀ x ∈ pid, Py.isDecimal x)
    (hrest : ∀ x ∈ rest.head?, Py.isDecimal x = false)
    (hlisten : console.shows (tcpdumpCommand interface port outputFile (filterText filters ++ extra))
      ("tcpdump: listening on " ++ interface)) :
    startTcpdump console interface port outputFile filters (some extra) =
      .ok (some ⟨pid.take 6⟩) := by
  obtain ⟨m, hm, hg⟩ := searchAlts_pidAlts hpre hjob hw hpid hrest
  simp only [startTcpdump, hlisten, Bool.not_true, Bool.false_eq_true, if_false, hout, hm, hg,
    Option.map_some']

/-- A console whose every command prints `output` and that shows every text it is waited for. -/
def jobConsole (output : String) : LinuxConsole := ⟨fun _ => output, fun _ _ => true⟩

/-- The job line of a process with the seven-digit id `1234567`: `start_tcpdump` returns
`123456`. -/
theorem startTcpdump_pid_sevenDigits :
    (jobConsole "[1] 1234567\n").executeCommand
        (tcpdumpCommand "eth1" none "pkt_capture.pcap" (filterText none ++ "")) =
          ⟨[] ++ '[' :: (['1'] ++ ']' :: ' ' :: ("1234567".data ++ ['\n']))⟩ ∧
      startTcpdump (jobConsole "[1] 1234567\n") "eth1" none "pkt_capture.pcap" none (some "") =
        .ok (some ⟨"1234567".data.take 6⟩) :=
  ⟨rfl, startTcpdump_pid _ _ _ _ _ _ [] ['1'] "1234567".data ['\n'] ' ' rfl (by decide)
    (by decide) (by decide) (by decide) (by decide) rfl⟩

/-- Over every console and every call: whatever `start_tcpdump` returns is a process id, never the
`None` of a match without group 2, and it is one to six digits that the output shows in a job
line `[job] pid`, after a job number of one to ten digits and a blank, once the console showed
that `tcpdump` listens on the interface. -/
theorem startTcpdump_eq_ok (console : LinuxConsole) (interface : String) (port : Option String)
    (outputFile : String) (filters : Option (List (String × String)))
    (additionalFilters : Option String) (r : Option String)
    (h : startTcpdump console interface port outputFile filters additionalFilters = .ok r) :
    ∃ extra, additionalFilters = some extra ∧
      console.shows (tcpdumpCommand interface port outputFile (filterText filters ++ extra))
        ("tcpdump: listening on " ++ interface) = true ∧
      ∃ pid, r = some ⟨pid⟩ ∧ 1 ≤ pid.length ∧ pid.length ≤ 6 ∧ (∀ x ∈ pid, Py.isDecimal x) ∧
        ∃ pre job w rest, (console.executeCommand
            (tcpdumpCommand interface port outputFile (filterText filters ++ extra))).data =
              pre ++ '[' :: (job ++ ']' :: w :: (pid ++ rest)) ∧
          1 ≤ job.length ∧ job.length ≤ 10 ∧ (∀ x ∈ job, Py.isDecimal x) ∧ Py.isSpace w := by
  obtain _ | extra := additionalFilters
  · cases h
  simp only [startTcpdump] at h
  split_ifs at h with hlisten
  split at h
  · cases h
  rename_i m hm
  obtain ⟨i, ts, hts, _, hmatch⟩ := searchAlts_eq_some hm
  obtain ⟨a, ha, hts⟩ := List.mem_flatMap.mp hts
  obtain ⟨b, hb, rfl⟩ := List.mem_map.mp hts
  obtain ⟨job, w, pid, rest, hs, hjl, hjob, hw, hpl, hpid, hg⟩ := matchToks_pidAlt_eq_some hmatch
  rw [mem_greedyCounts] at ha hb
  have hout := (List.take_append_drop i (console.executeCommand
    (tcpdumpCommand interface port outputFile (filterText filters ++ extra))).data).symm
  rw [hs] at hout
  cases h
  exact ⟨extra, rfl, by simpa using hlisten, pid, by simp [hg], by omega, by omega, hpid,
    _, job, w, rest, hout, by omega, by omega, hjob, hw⟩

/-- The job line of a seven-digit process id: the six digits returned are shown after `[1] `. -/
theorem startTcpdump_eq_ok_sevenDigits :
    startTcpdump (jobConsole "[1] 1234567\n") "eth1" none "pkt_capture.pcap" none (some "") =
        .ok (some "123456") ∧
      ∃ extra, some "" = some extra ∧
        (jobConsole "[1] 1234567\n").shows
          (tcpdumpCommand "eth1" none "pkt_capture.pcap" (filterText none ++ extra))
          ("tcpdump: listening on " ++ "eth1") = true ∧
        ∃ pid, some "123456" = some (⟨pid⟩ : String) ∧ 1 ≤ pid.length ∧ pid.length ≤ 6 ∧
          (∀ x ∈ pid, Py.isDecimal x) ∧
          ∃ pre job w rest, ((jobConsole "[1] 1234567\n").executeCommand
              (tcpdumpCommand "eth1" none "pkt_capture.pcap" (filterText none ++ extra))).data =
                pre ++ '[' :: (job ++ ']' :: w :: (pid ++ rest)) ∧
            1 ≤ job.length ∧ job.length ≤ 10 ∧ (∀ x ∈ job, Py.isDecimal x) ∧ Py.isSpace w :=
  have h : startTcpdump (jobConsole "[1] 1234567\n") "eth1" none "pkt_capture.pcap" none (some "") =
      .ok (some "123456") := by decide
  ⟨h, startTcpdump_eq_ok _ _ _ _ _ _ _ h⟩

end Boardfarm

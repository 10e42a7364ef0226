import Boardfarm.Search
import Boardfarm.Iperf

/-!
# `get_details_dict`: the descriptor of an iperf log

`GenericWrapper.get_details_dict(device, fname)` builds the descriptor `collect_logs` polls: the
timestamp from the companion file (`check_file`) or, when that has none, from the log's
modification time (`stat_file_timestamp`), the mode, the flow and the port from the first ten
lines of the log, and no marker yet.

A descriptor it builds has no marker and no fields (`getDetailsDict_eq_ok`), so the polls of
`pollLogs_of_growing` apply to it; its port is a run of decimal digits the head of the log spells
after `, port ` or after `Server listening on ` (`getDetailsDict_port`); its timestamp is the
companion file's, or the first twenty ASCII digits the console shows after the `date` command,
followed by the prompt (`getDetailsDict_timestamp`).

The console of `stat_file_timestamp` is the text the device shows after the `date` command is sent.
The first `expect` finds the first twenty ASCII digits in it and the second the prompt in what
follows them; where a pattern never shows, `expect` raises `EOF` if the console closes after its
text and `TIMEOUT` if it stays open.
-/

namespace Boardfarm

/-- What `get_details_dict` reads from a device: the output `check_output` gives each command, the
text the console shows after a line is sent to it and whether the console closes after that text,
and which texts hold a match of `device.prompt`. -/
structure IperfHost where
  checkOutput : String → String
  console : String → String
  closes : String → Bool
  showsPrompt : List Char → Bool

/-- The command whose output `stat_file_timestamp` waits for. -/
def dateCommand (fname : String) : String :=
  "date +%Y%m%d%H%M%S%6N -d \"$(stat -c %y \"" ++ fname ++ "\")\""

/-- What `expect` raises on the console after `command` when its pattern never shows. -/
def IperfHost.expectFails (host : IperfHost) (command : String) : PyError :=
  if host.closes command then expectEof else expectTimeout

/-- `GenericWrapper.stat_file_timestamp(device, fname)`: the first twenty ASCII digits the console
shows after the `date` command, once the prompt shows after them, read by `strptime`. -/
def statFileTimestamp (host : IperfHost) (fname : String) : Except PyError DateTime :=
  match searchMatch twentyAsciiDigits (host.console (dateCommand fname)).data with
  | none => .error (host.expectFails (dateCommand fname))
  | some (rest, c) =>
    if host.showsPrompt rest then strptime ⟨(c.group 1).getD []⟩
    else .error (host.expectFails (dateCommand fname))

def headCommand (fname : String) : String := "head -10 " ++ fname

/-- The exception `re.search(...).group(2)` raises when the search finds nothing. -/
def noMatchError : PyError := .attributeError "\x27NoneType\x27 object has no attribute \x27group\x27"

/-- `re.search(pattern, val).group(2)`. -/
def searchGroup2 (ts : List Tok) (val : String) : Except PyError String :=
  match search ts val.data with
  | none => .error noMatchError
  | some c => .ok ⟨(c.group 2).getD []⟩

/-- The port `get_details_dict` reads from the head `val` of the log `fname`. -/
def portOf (fname val : String) : Except PyError String :=
  if Py.contains val "Connecting to host" then searchGroup2 connectingPattern val
  else if Py.contains val "Server listening on" then searchGroup2 listeningPattern val
  else .error (.codeError ("Cannot find port in log " ++ fname ++ "\n" ++ val))

/-- The head of a log that holds a port: a line `Connecting to host <host>, port <digits>\r` with
the host on one line, or, when the head has no `Connecting to host`, a line
`Server listening on <digits>\r`. -/
def HasPortLine (val : String) : Prop :=
  (∃ pre host port rest, val.data = pre ++ "Connecting to host ".data ++ host ++ ", port ".data ++
      port ++ '\r' :: rest ∧ (∀ x ∈ host, x ≠ '\n') ∧ port ≠ [] ∧ ∀ x ∈ port, Py.isDecimal x) ∨
    (Py.contains val "Connecting to host" = false ∧ ∃ pre port rest,
      val.data = pre ++ "Server listening on ".data ++ port ++ '\r' :: rest ∧ port ≠ [] ∧
        ∀ x ∈ port, Py.isDecimal x)

/-- The timestamp `get_details_dict` settles on: `check_file`'s, or `stat_file_timestamp`'s when
`check_file` returns `None`. -/
def detailsTimestamp (host : IperfHost) (fname : String) : Except PyError DateTime := do
  match ← checkFile host.checkOutput fname with
  | some t => pure t
  | none => statFileTimestamp host fname

/-- `GenericWrapper.get_details_dict(device, fname)`. -/
def getDetailsDict (host : IperfHost) (fname : String) : Except PyError IperfDescriptor := do
  let timestamp ← detailsTimestamp host fname
  let val := host.checkOutput (headCommand fname)
  let port ← portOf fname val
  let tag := if Py.contains val "Server" then "server" else "client"
  pure {
    mode := if Py.contains val "Datagrams" then "udp" else "tcp"
    flow := if Py.contains val "Reverse mode" then "DS" else "see client"
    port := port
    logfile := fname
    lastIndex := none
    fields := none
    tag := tag
    service := "iperf"
    device := tag
    timestamp := timestamp
    data := [] }

/-- A client logging to `iperf.log` with no companion timestamp file: `cat` prints an error, so
the timestamp comes from the console, which echoes the `date` command before its output and shows
the prompt after it. -/
def detailsHost : IperfHost where
  checkOutput c :=
    if c = lsCommand "iperf.log" then "-rw-r--r-- 1 root root 120 20240101000000000000 iperf.log"
    else if c = headCommand "iperf.log" then
      "Connecting to host 10.0.0.1, port 5201\r\n[  5] local 10.0.0.2 port 40000 connected\r\n"
    else "cat: iperf.log.timestamp: No such file or directory"
  console c := c ++ "\r\n20240101000000000000\r\nroot@iperf:~# "
  closes _ := false
  showsPrompt t := t.contains '#'

theorem getDetailsDict_detailsHost : getDetailsDict detailsHost "iperf.log" = .ok clientDescriptor :=
  rfl

section Details

variable {host : IperfHost} {fname : String}

/-- A descriptor `get_details_dict` returns: its timestamp and its port as they were read, no
marker, no fields, and the rest from the head of the log. -/
theorem getDetailsDict_eq_ok {d : IperfDescriptor} (h : getDetailsDict host fname = .ok d) :
    ∃ stamp, checkFile host.checkOutput fname = .ok stamp ∧
      (stamp = some d.timestamp ∨
        stamp = none ∧ statFileTimestamp host fname = .ok d.timestamp) ∧
      portOf fname (host.checkOutput (headCommand fname)) = .ok d.port ∧
      d.lastIndex = none ∧ d.fields = none ∧ d.logfile = fname ∧ d.data = [] ∧ d.device = d.tag := by
  obtain ⟨t, ht, h⟩ := bind_eq_ok h
  obtain ⟨port, hport, h⟩ := bind_eq_ok h
  cases h
  obtain ⟨stamp, hstamp, ht⟩ := bind_eq_ok ht
  refine ⟨stamp, hstamp, ?_, hport, rfl, rfl, rfl, rfl, rfl⟩
  cases stamp with
  | some t' => exact .inl (by cases ht; rfl)
  | none => exact .inr ⟨rfl, ht⟩

/-- The port of a descriptor `get_details_dict` returns is a run of decimal digits that the head of
the log spells after `Connecting to host <host>, port ` (the host on one line) or after
`Server listening on `, and before `\r`. -/
theorem getDetailsDict_port {d : IperfDescriptor} (h : getDetailsDict host fname = .ok d) :
    let val := (host.checkOutput (headCommand fname)).data
    d.port.data ≠ [] ∧ (∀ x ∈ d.port.data, Py.isDecimal x) ∧
      ((∃ pre hostName rest, val = pre ++ "Connecting to host ".data ++ hostName ++ ", port ".data ++
          d.port.data ++ '\r' :: rest ∧ ∀ x ∈ hostName, x ≠ '\n') ∨
        ∃ pre rest, val = pre ++ "Server listening on ".data ++ d.port.data ++ '\r' :: rest) := by
  intro val
  obtain ⟨-, -, -, hport, -⟩ := getDetailsDict_eq_ok h
  unfold portOf searchGroup2 at hport
  split_ifs at hport
  · split at hport
    · cases hport
    · rename_i c hc
      obtain ⟨pre, hn, port, rest, hs, hh, hne, hd, hg⟩ := search_connecting hc
      rw [hg, Option.getD_some, Except.ok.injEq] at hport
      rw [← hport]
      exact ⟨hne, hd, .inl ⟨pre, hn, rest, hs, hh⟩⟩
  · split at hport
    · cases hport
    · rename_i c hc
      obtain ⟨pre, port, rest, hs, hne, hd, hg⟩ := search_listening hc
      rw [hg, Option.getD_some, Except.ok.injEq] at hport
      rw [← hport]
      exact ⟨hne, hd, .inr ⟨pre, rest, hs⟩⟩

theorem getDetailsDict_port_detailsHost :
    getDetailsDict detailsHost "iperf.log" = .ok clientDescriptor ∧
    let val := (detailsHost.checkOutput (headCommand "iperf.log")).data
    clientDescriptor.port.data ≠ [] ∧ (∀ x ∈ clientDescriptor.port.data, Py.isDecimal x) ∧
      ((∃ pre hostName rest, val = pre ++ "Connecting to host ".data ++ hostName ++
          ", port ".data ++ clientDescriptor.port.data ++ '\r' :: rest ∧
          ∀ x ∈ hostName, x ≠ '\n') ∨
        ∃ pre rest, val = pre ++ "Server listening on ".data ++ clientDescriptor.port.data ++
          '\r' :: rest) :=
  ⟨getDetailsDict_detailsHost, getDetailsDict_port getDetailsDict_detailsHost⟩

/-- The timestamp of a descriptor `get_details_dict` returns: the one `check_file` read from the
companion file, or, when it read none, the date-time spelled by the leftmost twenty ASCII digits
the console shows after the `date` command, with the prompt after them. -/
theorem getDetailsDict_timestamp {d : IperfDescriptor} (h : getDetailsDict host fname = .ok d) :
    checkFile host.checkOutput fname = .ok (some d.timestamp) ∨
      checkFile host.checkOutput fname = .ok none ∧
        ∃ pre digits rest, (host.console (dateCommand fname)).data = pre ++ digits ++ rest ∧
          digits.length = 20 ∧ (∀ x ∈ digits, Py.isAsciiDigit x) ∧
          (∀ i < pre.length, ∃ x ∈ ((host.console (dateCommand fname)).data.drop i).take 20,
            Py.isAsciiDigit x = false) ∧
          host.showsPrompt rest = true ∧ spelledDateTime digits = some d.timestamp := by
  obtain ⟨stamp, hstamp, hs | ⟨rfl, hstat⟩, -⟩ := getDetailsDict_eq_ok h
  · exact .inl (hs ▸ hstamp)
  · refine .inr ⟨hstamp, ?_⟩
    unfold statFileTimestamp at hstat
    split at hstat
    · cases hstat
    · rename_i rest c hc
      split_ifs at hstat with hp
      obtain ⟨pre, digits, hs, hl, hd, hg, hfirst⟩ := searchMatch_twentyAsciiDigits hc
      rw [hg, Option.getD_some] at hstat
      exact ⟨pre, digits, rest, hs, hl, hd, hfirst, hp, (strptime_ascii hl hd _).mp hstat⟩

theorem getDetailsDict_timestamp_detailsHost :
    getDetailsDict detailsHost "iperf.log" = .ok clientDescriptor ∧
    (checkFile detailsHost.checkOutput "iperf.log" = .ok (some clientDescriptor.timestamp) ∨
      checkFile detailsHost.checkOutput "iperf.log" = .ok none ∧
        ∃ pre digits rest,
          (detailsHost.console (dateCommand "iperf.log")).data = pre ++ digits ++ rest ∧
          digits.length = 20 ∧ (∀ x ∈ digits, Py.isAsciiDigit x) ∧
          (∀ i < pre.length, ∃ x ∈ ((detailsHost.console (dateCommand "iperf.log")).data.drop i).take 20,
            Py.isAsciiDigit x = false) ∧
          detailsHost.showsPrompt rest = true ∧
          spelledDateTime digits = some clientDescriptor.timestamp) :=
  ⟨getDetailsDict_detailsHost, getDetailsDict_timestamp getDetailsDict_detailsHost⟩

theorem searchGroup2_isOk {ts : List Tok} {val : String} (h : (search ts val.data).isSome) :
    ∃ port, searchGroup2 ts val = .ok port := by
  unfold searchGroup2
  cases hs : search ts val.data with
  | none => simp [hs] at h
  | some c => exact ⟨_, rfl⟩

theorem portOf_isOk {fname val : String} (h : HasPortLine val) : ∃ port, portOf fname val = .ok port := by
  unfold portOf
  rcases h with ⟨pre, host, port, rest, hs, hh, hne, hd⟩ | ⟨hc, pre, port, rest, hs, hne, hd⟩
  · have hin : val.data = pre ++ "Connecting to host".data ++
        (' ' :: (host ++ ", port ".data ++ port ++ '\r' :: rest)) := by
      rw [hs]
      simp only [List.append_assoc]
      rfl
    rw [if_pos (Py.contains_of_eq_append hin)]
    exact searchGroup2_isOk (hs ▸ search_connecting_isSome hh hne hd)
  · have hin : val.data = pre ++ "Server listening on".data ++ (' ' :: (port ++ '\r' :: rest)) := by
      rw [hs]
      simp only [List.append_assoc]
      rfl
    rw [if_neg (by simp [hc]), if_pos (Py.contains_of_eq_append hin)]
    exact searchGroup2_isOk (hs ▸ search_listening_isSome hne hd)

/-- `get_details_dict` returns a descriptor when the timestamp is read and the head of the log has a
port line. -/
theorem getDetailsDict_isOk {t : DateTime} (ht : detailsTimestamp host fname = .ok t)
    (h : HasPortLine (host.checkOutput (headCommand fname))) :
    ∃ d, getDetailsDict host fname = .ok d ∧ d.timestamp = t := by
  obtain ⟨port, hp⟩ := @portOf_isOk fname _ h
  exact ⟨_, by simp only [getDetailsDict, ht, hp]; rfl, by rfl⟩

theorem getDetailsDict_isOk_detailsHost :
    detailsTimestamp detailsHost "iperf.log" = .ok clientDescriptor.timestamp ∧
      HasPortLine (detailsHost.checkOutput (headCommand "iperf.log")) ∧
      ∃ d, getDetailsDict detailsHost "iperf.log" = .ok d ∧ d.timestamp = clientDescriptor.timestamp :=
  have ht : detailsTimestamp detailsHost "iperf.log" = .ok clientDescriptor.timestamp := rfl
  have hl : HasPortLine (detailsHost.checkOutput (headCommand "iperf.log")) :=
    .inl ⟨[], "10.0.0.1".data, "5201".data, "\n[  5] local 10.0.0.2 port 40000 connected\r\n".data,
      rfl, by decide, by decide, by decide⟩
  ⟨ht, hl, getDetailsDict_isOk ht hl⟩

/-- What `get_details_dict` raises: `check_file`'s `AssertionError` for a missing log, a
`ValueError` of `strptime`, `TIMEOUT` or `EOF` when the console shows no timestamp or no prompt
after it, the `AttributeError` of `.group` when the head has `Connecting to host` or
`Server listening on` but no port after it, and `CodeError` when it has neither. -/
def IsDetailsError (fname val : String) (e : PyError) : Prop :=
  e = .assertionError ∨ IsValueError e ∨ (e = expectTimeout ∨ e = expectEof) ∨ e = noMatchError ∨
    e = .codeError ("Cannot find port in log " ++ fname ++ "\n" ++ val)

theorem checkFile_raises (checkOutput : String → String) (fname : String) :
    Raises (fun e => e = .assertionError ∨ IsValueError e) (checkFile checkOutput fname) := by
  unfold checkFile
  dsimp only
  split_ifs
  · exact .error (.inl rfl)
  · exact .ok _
  · intro e he
    cases hs : strptime (checkOutput (catTimestampCommand fname)) <;>
      simp only [hs, Except.map, Except.error.injEq, reduceCtorEq] at he
    exact .inr (strptime_raisesOnlyValueError _ _ (he ▸ hs))

theorem IperfHost.expectFails_eq (host : IperfHost) (command : String) :
    host.expectFails command = expectTimeout ∨ host.expectFails command = expectEof := by
  unfold IperfHost.expectFails
  split
  exacts [.inr rfl, .inl rfl]

theorem statFileTimestamp_raises (host : IperfHost) (fname : String) :
    Raises (fun e => (e = expectTimeout ∨ e = expectEof) ∨ IsValueError e)
      (statFileTimestamp host fname) := by
  unfold statFileTimestamp
  split
  · exact .error (.inl (host.expectFails_eq _))
  · split
    · exact (strptime_raisesOnlyValueError _).imp fun _ => .inr
    · exact .error (.inl (host.expectFails_eq _))

theorem portOf_raises (fname val : String) :
    Raises (fun e => e = noMatchError ∨
      e = .codeError ("Cannot find port in log " ++ fname ++ "\n" ++ val)) (portOf fname val) := by
  have hs : ∀ ts, Raises (fun e => e = noMatchError ∨
      e = .codeError ("Cannot find port in log " ++ fname ++ "\n" ++ val)) (searchGroup2 ts val) := by
    intro ts
    unfold searchGroup2
    split
    · exact .error (.inl rfl)
    · exact .ok _
  unfold portOf
  split_ifs
  · exact hs _
  · exact hs _
  · exact .error (.inr rfl)

theorem getDetailsDict_raises (host : IperfHost) (fname : String) :
    Raises (IsDetailsError fname (host.checkOutput (headCommand fname)))
      (getDetailsDict host fname) := by
  have hstamp : Raises (IsDetailsError fname (host.checkOutput (headCommand fname)))
      (detailsTimestamp host fname) := by
    refine .bind ((checkFile_raises _ _).imp fun _ he => he.elim Or.inl (Or.inr ∘ Or.inl))
      fun stamp => ?_
    cases stamp with
    | some t => exact .ok t
    | none => exact (statFileTimestamp_raises _ _).imp fun _ he =>
        he.elim (Or.inr ∘ Or.inr ∘ Or.inl) (Or.inr ∘ Or.inl)
  exact .bind hstamp fun _ => .bind ((portOf_raises _ _).imp fun _ he =>
    he.elim (Or.inr ∘ Or.inr ∘ Or.inr ∘ Or.inl) (Or.inr ∘ Or.inr ∘ Or.inr ∘ Or.inr)) fun _ => .ok _

end Details

end Boardfarm

import Mathlib.Data.List.Sort
import Boardfarm.Python

/-!
# The interactive device shell

`boardfarm_post_deploy_devices` lists the devices sorted by name, reads a device ID, then (for a
device with two consoles or more) a console ID, and hands the terminal to the chosen console. An ID
goes through `str.isdigit`, then `int()`, then a check against the top of the range only: `"0"`
passes as index `-1`, the last entry (`getDeviceNameFromUser_zero`), and a digit `int()` cannot
read raises. At the console prompt nothing reads the `q` the menu offers, so `"q"` is refused as
wrong input and the prompt comes back (`boardfarmShell_console_q`).

A run is what the shell does for a list of input lines: what it prints, the sessions it starts, and
how it ends. The device table stays the same for the whole run; the tables it prints are left out.

Over every device table and every list of lines, each session the shell starts is on a console of
a listed device, and never on a device named `q`: picking that device ends the shell
(`boardfarmShell_sessions`). The shell raises only `EOFError`, when the lines run out, or the
`ValueError` of `int()` for a line that `str.isdigit` accepts and `int()` cannot read, such as `²`
(`boardfarmShell_raises`): an ID in range never makes the list lookup raise, `0` included.
-/

namespace Boardfarm

/-- A device as the shell sees it: its type and the names of its interactive consoles. -/
structure ShellDevice where
  deviceType : String
  consoles : List String

/-- `sorted(names)`: `a` goes before `b` unless `b < a`. -/
def sortedNames (names : List String) : List String :=
  names.insertionSort fun a b => !Py.strLt b.data a.data

/-- The error the device prompt prints for a line that is not all digits. -/
def wrongInputText : String := "\nERROR: Wrong input. Please try again.\n"

/-- The error the device prompt prints for an ID past the last device. -/
def wrongDeviceIdText : String := "\nERROR: Wrong device ID. Please try again.\n"

/-- The error the console prompt prints for an ID past the last console. -/
def wrongConsoleIdText : String := "\nERROR: Wrong console ID. Please try again.\n"

/-- The error printed for a device without consoles. -/
def noConsoleText (deviceName : String) : String :=
  "\nERROR: No console available for " ++ deviceName ++ ". Please try another device.\n"

/-- `_get_device_name_from_user(devices_dict, exit_code)` once the operator has typed `deviceId`:
the name it returns (`none` for `None`), and the error it printed, if any. -/
def getDeviceNameFromUser (deviceNames : List String) (exitCode deviceId : String) :
    Except PyError (Option String × Option String) :=
  if deviceId = exitCode then .ok (some deviceId, none)
  else if !Py.isdigit deviceId then .ok (none, some wrongInputText)
  else
    match Py.int deviceId with
    | .error e => .error e
    | .ok k =>
      if k > deviceNames.length then .ok (none, some wrongDeviceIdText)
      else
        match Py.subscript deviceNames (k - 1) with
        | .error e => .error e
        | .ok name => .ok (some name, none)

/-- One pass of the loop of `_get_console_name_from_user` for a device with two consoles or more,
once the operator has typed `consoleId`: the console chosen, or the error printed before the next
pass. -/
def getConsoleNameFromUser (consoleNames : List String) (consoleId : String) :
    Except PyError (String ⊕ String) :=
  if !Py.isdigit consoleId then .ok (.inr wrongInputText)
  else
    match Py.int consoleId with
    | .error e => .error e
    | .ok k =>
      if k > consoleNames.length then .ok (.inr wrongConsoleIdText)
      else (Py.subscript consoleNames (k - 1)).map .inl

/-- Where the shell waits for input. -/
inductive ShellMode where
  | devicePrompt
  | consolePrompt (deviceName : String) (consoleNames : List String)

/-- What the shell does that the operator sees. -/
inductive ShellEvent where
  | printed (text : String)
  | session (deviceName consoleName : String)
  deriving DecidableEq, Repr

/-- How a run of the shell ends. -/
inductive ShellEnd where
  | bye
  | raised (e : PyError)
  deriving DecidableEq, Repr

/-- `input()` past the last line. -/
def eofError : PyError := .eofError "EOF when reading a line"

/-- `boardfarm_post_deploy_devices` from a prompt, for the input lines left. -/
def boardfarmShell (devices : List (String × ShellDevice)) :
    ShellMode → List String → List ShellEvent × ShellEnd
  | .devicePrompt, lines =>
    if devices.isEmpty then ([.printed "No device available in the environment.", .printed "Bye."], .bye)
    else
      match lines with
      | [] => ([], .raised eofError)
      | line :: rest =>
        match getDeviceNameFromUser (sortedNames (devices.map (·.1))) "q" line with
        | .error e => ([], .raised e)
        | .ok (_, some err) =>
          let r := boardfarmShell devices .devicePrompt rest
          (.printed err :: r.1, r.2)
        | .ok (none, none) => boardfarmShell devices .devicePrompt rest
        | .ok (some name, none) =>
          if name = "q" then ([.printed "Bye."], .bye)
          else
            match sortedNames (((devices.lookup name).map (·.consoles)).getD []) with
            | [] =>
              let r := boardfarmShell devices .devicePrompt rest
              (.printed (noConsoleText name) :: r.1, r.2)
            | [c] =>
              let r := boardfarmShell devices .devicePrompt rest
              (.session name c :: r.1, r.2)
            | cs => boardfarmShell devices (.consolePrompt name cs) rest
  | .consolePrompt _ _, [] => ([], .raised eofError)
  | .consolePrompt name cs, line :: rest =>
    match getConsoleNameFromUser cs line with
    | .error e => ([], .raised e)
    | .ok (.inr err) =>
      let r := boardfarmShell devices (.consolePrompt name cs) rest
      (.printed err :: r.1, r.2)
    | .ok (.inl c) =>
      let r := boardfarmShell devices .devicePrompt rest
      (.session name c :: r.1, r.2)

/-- `"0"` passes both checks of the device prompt and picks the last device. -/
theorem getDeviceNameFromUser_zero {deviceNames : List String} (h : deviceNames ≠ []) :
    getDeviceNameFromUser deviceNames "q" "0" = .ok (some (deviceNames.getLast h), none) := by
  simp only [getDeviceNameFromUser]
  rw [if_neg (by decide), if_neg (by decide), show Py.int "0" = .ok 0 by decide]
  dsimp only
  rw [if_neg (by omega), Int.zero_sub, Py.subscript_neg_one h]

/-- At the console prompt `"q"` is answered as wrong input, and the same prompt comes back. -/
theorem boardfarmShell_console_q (devices : List (String × ShellDevice)) (name : String)
    (cs rest : List String) :
    boardfarmShell devices (.consolePrompt name cs) ("q" :: rest) =
      (.printed wrongInputText :: (boardfarmShell devices (.consolePrompt name cs) rest).1,
        (boardfarmShell devices (.consolePrompt name cs) rest).2) := by
  simp only [boardfarmShell, getConsoleNameFromUser, show Py.isdigit "q" = false by decide]
  rfl

/-- One device with consoles `c1` and `c2`, and the lines `1`, `q`, `q`: the console prompt refuses
both `q`s, and the shell never returns to the device prompt, let alone ends with `Bye.`. -/
theorem boardfarmShell_q_at_console_prompt :
    boardfarmShell [("a_dev", ⟨"linux", ["c1", "c2"]⟩)] .devicePrompt ["1", "q", "q"] =
      ([.printed wrongInputText, .printed wrongInputText], .raised eofError) := by
  decide

/-! ## The two prompts -/

section Prompts

theorem mem_sortedNames {c : String} {l : List String} : c ∈ sortedNames l ↔ c ∈ l :=
  (List.perm_insertionSort _ l).mem_iff

theorem sortedNames_ne_nil {l : List String} (h : l ≠ []) : sortedNames l ≠ [] := fun e => by
  have hp : List.Perm (sortedNames l) l := List.perm_insertionSort _ l
  rw [e] at hp
  exact h hp.nil_eq.symm

theorem not_mem_minus_of_isdigit {s : String} (h : Py.isdigit s = true) : '-' ∉ s.data :=
  fun hm => absurd (List.all_eq_true.mp ((Bool.and_eq_true _ _).mp h).2 '-' hm) (by decide)

theorem subscript_pred_isOk {l : List String} (hne : l ≠ []) {k : Int} (hk0 : 0 ≤ k)
    (hk : ¬k > l.length) : ∃ x, Py.subscript l (k - 1) = .ok x :=
  Py.subscript_isOk (by have := List.length_pos.mpr hne; omega) (by omega)

variable {names : List String} {exitCode deviceId consoleId : String}

theorem getDeviceNameFromUser_ok {name : String} {err : Option String}
    (h : getDeviceNameFromUser names exitCode deviceId = .ok (some name, err)) :
    err = none ∧ (name = exitCode ∨ name ∈ names) := by
  unfold getDeviceNameFromUser at h
  split_ifs at h with hexit hdig
  · cases h
    exact ⟨rfl, .inl hexit⟩
  · cases h
  · split at h
    · cases h
    · split_ifs at h
      · cases h
      · split at h
        · cases h
        · next hs =>
          cases h
          exact ⟨rfl, .inr (Py.subscript_mem hs)⟩

theorem getDeviceNameFromUser_raises (hne : names ≠ []) :
    Raises (fun e => Py.isdigit deviceId ∧ Py.int deviceId = .error e)
      (getDeviceNameFromUser names exitCode deviceId) := by
  intro e h
  unfold getDeviceNameFromUser at h
  split_ifs at h with hexit hdig
  have hdig' : Py.isdigit deviceId = true := by simpa using hdig
  split at h
  · next hint =>
    cases h
    exact ⟨hdig', hint⟩
  · next k hint =>
    split_ifs at h with hk
    obtain ⟨x, hx⟩ :=
      subscript_pred_isOk hne (Py.int_nonneg (not_mem_minus_of_isdigit hdig') hint) hk
    rw [hx] at h
    cases h

theorem getConsoleNameFromUser_inl {cs : List String} {c : String}
    (h : getConsoleNameFromUser cs consoleId = .ok (.inl c)) : c ∈ cs := by
  unfold getConsoleNameFromUser at h
  split_ifs at h
  · cases h
  · split at h
    · cases h
    · next k _ =>
      split_ifs at h
      · cases h
      · cases hs : Py.subscript cs (k - 1) with
        | error e => rw [hs] at h; cases h
        | ok x =>
          rw [hs] at h
          cases h
          exact Py.subscript_mem hs

theorem getConsoleNameFromUser_raises {cs : List String} (hne : cs ≠ []) :
    Raises (fun e => Py.isdigit consoleId ∧ Py.int consoleId = .error e)
      (getConsoleNameFromUser cs consoleId) := by
  intro e h
  unfold getConsoleNameFromUser at h
  split_ifs at h with hdig
  have hdig' : Py.isdigit consoleId = true := by simpa using hdig
  split at h
  · next hint =>
    cases h
    exact ⟨hdig', hint⟩
  · next k hint =>
    split_ifs at h with hk
    obtain ⟨x, hx⟩ :=
      subscript_pred_isOk hne (Py.int_nonneg (not_mem_minus_of_isdigit hdig') hint) hk
    rw [hx] at h
    cases h

end Prompts

/-! ## Every run -/

section Runs

variable (devices : List (String × ShellDevice))

/-- Where a run can wait: at the console prompt of a device other than `q`, with consoles of that
device on offer. -/
def ShellMode.Valid : ShellMode → Prop
  | .devicePrompt => True
  | .consolePrompt name cs =>
    name ≠ "q" ∧ cs ≠ [] ∧ ∃ dev, devices.lookup name = some dev ∧ ∀ c ∈ cs, c ∈ dev.consoles

/-- A session on a console of a listed device other than `q`; any printed text. -/
def ShellEvent.Valid : ShellEvent → Prop
  | .printed _ => True
  | .session d c => d ≠ "q" ∧ ∃ dev, devices.lookup d = some dev ∧ c ∈ dev.consoles

/-- How a run on `lines` can end: with `Bye.`, when the lines run out, or with the error of
`int()` for one of its lines of digits. -/
def ShellEnd.Valid (lines : List String) : ShellEnd → Prop
  | .bye => True
  | .raised e => e = eofError ∨ ∃ line ∈ lines, Py.isdigit line ∧ Py.int line = .error e

/-- What every run on `lines` does. -/
def RunValid (lines : List String) (r : List ShellEvent × ShellEnd) : Prop :=
  (∀ ev ∈ r.1, ev.Valid devices) ∧ r.2.Valid lines

variable {devices} {line : String} {rest : List String} {r : List ShellEvent × ShellEnd}

theorem RunValid.skip (h : RunValid devices rest r) : RunValid devices (line :: rest) r := by
  refine ⟨h.1, ?_⟩
  rcases r with ⟨_, _ | e⟩
  · trivial
  · exact h.2.imp_right fun ⟨l, hl, hl'⟩ => ⟨l, List.mem_cons_of_mem _ hl, hl'⟩

theorem RunValid.cons {ev : ShellEvent} (hev : ev.Valid devices) (h : RunValid devices rest r) :
    RunValid devices (line :: rest) (ev :: r.1, r.2) :=
  ⟨List.forall_mem_cons.mpr ⟨hev, h.1⟩, (RunValid.skip h : RunValid devices (line :: rest) r).2⟩

theorem RunValid.printed {t : String} (h : RunValid devices rest r) :
    RunValid devices (line :: rest) (.printed t :: r.1, r.2) :=
  h.cons trivial

theorem runValid_raised {e : PyError} (h : Py.isdigit line ∧ Py.int line = .error e) :
    RunValid devices (line :: rest) ([], .raised e) :=
  ⟨fun _ hm => absurd hm (List.not_mem_nil _), .inr ⟨line, List.mem_cons_self _ _, h⟩⟩

theorem lookup_of_mem_consoles {name c : String}
    (h : c ∈ sortedNames (((devices.lookup name).map (·.consoles)).getD [])) :
    ∃ dev, devices.lookup name = some dev ∧ c ∈ dev.consoles := by
  cases hl : devices.lookup name with
  | none => rw [hl] at h; exact absurd h (List.not_mem_nil _)
  | some dev => rw [hl] at h; exact ⟨dev, rfl, mem_sortedNames.mp h⟩

/-- Every run from a prompt the shell can reach keeps to `RunValid`. -/
theorem boardfarmShell_valid (mode : ShellMode) (lines : List String) (hmode : mode.Valid devices) :
    RunValid devices lines (boardfarmShell devices mode lines) := by
  induction mode, lines using boardfarmShell.induct devices with
  | case1 lines hempty =>
    cases lines <;> simp only [boardfarmShell, if_pos hempty] <;>
      exact ⟨by simp [ShellEvent.Valid], trivial⟩
  | case2 hne => rw [boardfarmShell.eq_1, if_neg hne]; exact ⟨by simp, .inl rfl⟩
  | case3 hne line rest e h =>
    rw [boardfarmShell.eq_2, if_neg hne, h]
    exact runValid_raised
      (getDeviceNameFromUser_raises (sortedNames_ne_nil (by simpa using hne)) e h)
  | case4 hne line rest fst err h ih =>
    rw [boardfarmShell.eq_2, if_neg hne, h]
    cases fst <;> exact (ih trivial).printed
  | case5 hne line rest h ih => rw [boardfarmShell.eq_2, if_neg hne, h]; exact (ih trivial).skip
  | case6 hne line rest h =>
    rw [boardfarmShell.eq_2, if_neg hne, h]
    exact ⟨by simp [ShellEvent.Valid], trivial⟩
  | case7 hne line rest name h hq hcs ih =>
    rw [boardfarmShell.eq_2, if_neg hne, h]
    simp only [if_neg hq, hcs]
    exact (ih trivial).printed
  | case8 hne line rest name h hq c hcs ih =>
    rw [boardfarmShell.eq_2, if_neg hne, h]
    simp only [if_neg hq, hcs]
    exact (ih trivial).cons ⟨hq, lookup_of_mem_consoles (hcs ▸ List.mem_singleton_self c)⟩
  | case9 hne line rest name h hq hnil hone ih =>
    rw [boardfarmShell.eq_2, if_neg hne, h]
    simp only [if_neg hq]
    obtain ⟨c, hc⟩ := List.exists_mem_of_ne_nil _ hnil
    obtain ⟨dev, hdev, -⟩ := lookup_of_mem_consoles hc
    have hvalid := ih ⟨hq, hnil, dev, hdev, fun c hc => by
      rw [hdev] at hc
      exact mem_sortedNames.mp hc⟩
    generalize sortedNames ((Option.map (fun x => x.consoles) (List.lookup name devices)).getD []) =
      cs at hnil hone hvalid ⊢
    rcases cs with _ | ⟨c1, _ | ⟨c2, cs⟩⟩
    · exact absurd rfl hnil
    · exact absurd rfl (hone c1)
    · exact hvalid.skip
  | case10 name cs => rw [boardfarmShell.eq_3]; exact ⟨by simp, .inl rfl⟩
  | case11 name cs line rest e h =>
    rw [boardfarmShell, h]
    exact runValid_raised (getConsoleNameFromUser_raises hmode.2.1 e h)
  | case12 name cs line rest err h ih =>
    rw [boardfarmShell, h]
    exact (ih hmode).printed
  | case13 name cs line rest c h ih =>
    rw [boardfarmShell, h]
    obtain ⟨hq, -, dev, hdev, hcs⟩ := hmode
    exact (ih trivial).cons ⟨hq, dev, hdev, hcs c (getConsoleNameFromUser_inl h)⟩

end Runs

/-- Over every device table and every list of input lines, each session the shell starts is on a
console of a listed device, and never on a device named `q`. -/
theorem boardfarmShell_sessions (devices : List (String × ShellDevice)) (lines : List String) :
    ∀ d c, ShellEvent.session d c ∈ (boardfarmShell devices .devicePrompt lines).1 →
      d ≠ "q" ∧ ∃ dev, devices.lookup d = some dev ∧ c ∈ dev.consoles :=
  fun _ _ h => (boardfarmShell_valid .devicePrompt lines trivial).1 _ h

/-- One device with consoles `c1` and `c2`, and the lines `1`, `2`: the session on `c2`. -/
theorem boardfarmShell_sessions_c2 :
    ShellEvent.session "a_dev" "c2" ∈
        (boardfarmShell [("a_dev", ⟨"linux", ["c1", "c2"]⟩)] .devicePrompt ["1", "2"]).1 ∧
      ("a_dev" ≠ "q" ∧ ∃ dev, [("a_dev", (⟨"linux", ["c1", "c2"]⟩ : ShellDevice))].lookup "a_dev" =
        some dev ∧ "c2" ∈ dev.consoles) :=
  have h : ShellEvent.session "a_dev" "c2" ∈
      (boardfarmShell [("a_dev", ⟨"linux", ["c1", "c2"]⟩)] .devicePrompt ["1", "2"]).1 := by decide
  ⟨h, boardfarmShell_sessions _ _ _ _ h⟩

/-- Over every device table and every list of input lines, the shell raises only `EOFError`, when
the lines run out, or the `ValueError` that `int()` raises for one of the lines `str.isdigit`
accepts. -/
theorem boardfarmShell_raises (devices : List (String × ShellDevice)) (lines : List String) :
    ∀ e, (boardfarmShell devices .devicePrompt lines).2 = .raised e →
      e = eofError ∨ ∃ line ∈ lines, Py.isdigit line ∧ Py.int line = .error e := fun e h => by
  have hend := (@boardfarmShell_valid devices .devicePrompt lines trivial).2
  rwa [h] at hend

/-- The superscript two is a digit to `str.isdigit` and not to `int()`. -/
theorem boardfarmShell_raises_superscript :
    (boardfarmShell [("a_dev", ⟨"linux", ["c1"]⟩)] .devicePrompt ["²"]).2 =
        .raised (.valueError "invalid literal for int() with base 10: \x27²\x27") ∧
      (PyError.valueError "invalid literal for int() with base 10: \x27²\x27" = eofError ∨
        ∃ line ∈ ["²"], Py.isdigit line ∧
          Py.int line = .error (.valueError "invalid literal for int() with base 10: \x27²\x27")) :=
  have h : (boardfarmShell [("a_dev", ⟨"linux", ["c1"]⟩)] .devicePrompt ["²"]).2 =
      .raised (.valueError "invalid literal for int() with base 10: \x27²\x27") := by decide
  ⟨h, boardfarmShell_raises _ _ _ h⟩

end Boardfarm

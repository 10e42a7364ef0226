import Mathlib.Data.List.Nodup
import Mathlib.Logic.Function.Basic

/-!
# Loggers and scoped log suppression

The part of the `logging` module that `disable_logs` drives: named loggers under the root logger,
each with its handlers, level, parent, `propagate` and `disabled` flags; `getLogger` with the
parent links `_fixupParents` and `_fixupChildren` set; `addHandler` and `removeHandler`; and the
handlers a record logged through a logger reaches (`log`), walking up the parents while loggers
propagate.

`disable_logs(name)` takes every handler off the named logger and puts a fresh `NullHandler`
there for the scope. It touches no other logger, so a record logged through the named logger
inside the scope is handled by the `NullHandler` and then, while the loggers propagate, by the
handlers of its ancestors (`disableLogs_log`): the root's handler still emits it
(`disableLogs_reaches_root_handler`). Leaving the scope at once gives every logger its handlers
back (`disableLogsExit_restores`); `Boardfarm.LogScopes` covers scopes with bodies.

Handlers are compared by identity, so a handler is an object number with its level; `nextId` is
past every handler object that exists. Logger and handler filters are not modelled: every
filter passes.
-/

namespace Boardfarm

/-- A key for a logger: `none` for the root logger, `some name` for a named one. -/
abbrev LoggerKey := Option String

/-- The key `logging.getLogger(name)` resolves: no name, `""` and the root's own name `"root"`
give the root logger. -/
def keyOf : Option String → LoggerKey
  | none => none
  | some name => if name = "" ∨ name = "root" then none else some name

/-- A logger's `name`: the root logger is called `"root"`. -/
def keyName : LoggerKey → String
  | none => "root"
  | some name => name

/-- A handler: the identity Python compares handlers by, and its level. -/
structure Handler where
  id : Nat
  level : Int
  deriving DecidableEq, Repr

/-- A logger's own state. The root logger's `parent` is never read. -/
structure Logger where
  handlers : List Handler
  level : Int
  parent : LoggerKey
  propagate : Bool
  disabled : Bool
  deriving DecidableEq, Repr

/-- A logger as `Logger.__init__` makes it: no handlers, level `NOTSET`, no parent yet,
propagating. -/
def Logger.fresh : Logger := ⟨[], 0, none, true, false⟩

/-- `logger.addHandler(h)`. -/
def Logger.addHandler (l : Logger) (h : Handler) : Logger :=
  if h ∈ l.handlers then l else { l with handlers := l.handlers ++ [h] }

/-- `logger.removeHandler(h)`. -/
def Logger.removeHandler (l : Logger) (h : Handler) : Logger :=
  { l with handlers := l.handlers.erase h }

/-- `name.rfind(".", 0, stop)`. -/
def rfindDot (name : List Char) (stop : Nat) : Option Nat :=
  (List.range (min stop name.length)).reverse.find? fun j => name.get? j = some '.'

theorem rfindDot_lt {name : List Char} {stop i : Nat} (h : rfindDot name stop = some i) :
    i < stop ∧ i < name.length := by
  have := List.mem_of_find?_eq_some h
  simp only [List.mem_reverse, List.mem_range] at this
  omega

/-- The prefixes `_fixupParents` walks for a name, nearest first: cut at the `.` that
`rfind(".", 0, stop)` finds, then at the `.` that `rfind(".", 0, i - 1)` finds, while the cut is
past the first character. -/
def parentCandidates (name : List Char) (stop : Nat) : List (List Char) :=
  match h : rfindDot name stop with
  | some i => if 0 < i then name.take i :: parentCandidates name (i - 1) else []
  | none => []
termination_by stop
decreasing_by have := rfindDot_lt h; omega

theorem length_lt_of_mem_parentCandidates {name : List Char} (stop : Nat) :
    ∀ {p : List Char}, p ∈ parentCandidates name stop → p.length < name.length := by
  induction stop using Nat.strong_induction_on with
  | _ stop ih =>
    intro p hp
    rw [parentCandidates] at hp
    split at hp
    · rename_i i hi
      have := rfindDot_lt hi
      split at hp
      · rcases List.mem_cons.mp hp with rfl | hp
        · simp only [List.length_take]; omega
        · exact ih (i - 1) (by omega) hp
      · simp at hp
    · simp at hp

/-- The `logging` module's state: the root logger, the named loggers (`loggerDict` without its
placeholders), `lastResort`, the level `logging.disable` set, and the identity the next handler
object gets. No handler that exists has that identity or a later one, and a named logger's parent
is the root or a logger with a shorter name. -/
structure Logging where
  root : Logger
  named : String → Option Logger
  lastResort : Option Handler
  disable : Int
  nextId : Nat
  rootFresh : ∀ h ∈ root.handlers, h.id < nextId
  namedFresh : ∀ n l, named n = some l → ∀ h ∈ l.handlers, h.id < nextId
  lastResortFresh : ∀ h ∈ lastResort, h.id < nextId
  parentShorter : ∀ n l, named n = some l → ∀ p, l.parent = some p → p.length < n.length

namespace Logging

/-- The logger under a key; a name with no logger yet reads as a fresh logger. -/
def loggerAt (lg : Logging) : LoggerKey → Logger
  | none => lg.root
  | some n => (lg.named n).getD Logger.fresh

theorem id_lt_of_mem_loggerAt (lg : Logging) {key : LoggerKey} {h : Handler}
    (hh : h ∈ (lg.loggerAt key).handlers) : h.id < lg.nextId := by
  rcases key with _ | n
  · exact lg.rootFresh h hh
  · cases hn : lg.named n with
    | none => simp [loggerAt, hn, Logger.fresh] at hh
    | some l => exact lg.namedFresh n l hn h (by simpa [loggerAt, hn] using hh)

theorem parent_length_lt (lg : Logging) {n p : String}
    (h : (lg.loggerAt (some n)).parent = some p) : p.length < n.length := by
  cases hn : lg.named n with
  | none => simp [loggerAt, hn, Logger.fresh] at h
  | some l => exact lg.parentShorter n l hn p (by simpa [loggerAt, hn] using h)

/-! ## What a record reaches -/

theorem parent_measure_lt (lg : Logging) (n : String) :
    (lg.loggerAt (some n)).parent.elim 0 (·.length + 1) < n.length + 1 := by
  cases hp : (lg.loggerAt (some n)).parent with
  | none => simp
  | some p => have := lg.parent_length_lt hp; simp only [Option.elim_some]; omega

/-- The keys from a logger up to the root, following `parent`. -/
def ancestry (lg : Logging) : LoggerKey → List LoggerKey
  | none => [none]
  | some n => some n :: ancestry lg (lg.loggerAt (some n)).parent
termination_by key => key.elim 0 (·.length + 1)
decreasing_by exact lg.parent_measure_lt _

@[simp] theorem ancestry_none (lg : Logging) : lg.ancestry none = [none] := by
  rw [ancestry]

@[simp] theorem ancestry_some (lg : Logging) (n : String) :
    lg.ancestry (some n) = some n :: lg.ancestry (lg.loggerAt (some n)).parent := by
  rw [ancestry]

theorem length_le_of_mem_ancestry (lg : Logging) {q : String} (key : LoggerKey)
    (hq : some q ∈ lg.ancestry key) : ∃ p, key = some p ∧ q.length ≤ p.length := by
  induction key using ancestry.induct lg with
  | case1 => simp at hq
  | case2 n ih =>
    rcases List.mem_cons.mp (lg.ancestry_some n ▸ hq) with hq | hq
    · exact ⟨n, rfl, by cases hq; rfl⟩
    · obtain ⟨p, hp, hle⟩ := ih hq
      exact ⟨n, rfl, by have := lg.parent_length_lt hp; omega⟩

theorem length_lt_of_mem_ancestry_parent (lg : Logging) {n q : String}
    (hq : some q ∈ lg.ancestry (lg.loggerAt (some n)).parent) : q.length < n.length := by
  obtain ⟨p, hp, hle⟩ := lg.length_le_of_mem_ancestry _ hq
  have := lg.parent_length_lt hp
  omega

/-- The handlers `callHandlers` passes a record to before their levels are compared: each
logger's handlers from the key up, stopping after the first logger that does not propagate. -/
def visited (lg : Logging) : List LoggerKey → List Handler
  | [] => []
  | k :: ks => (lg.loggerAt k).handlers ++ if (lg.loggerAt k).propagate then lg.visited ks else []

/-- `callHandlers`: every visited handler whose level the record's reaches; if no handler was
visited at all, `lastResort`. -/
def callHandlers (lg : Logging) (key : LoggerKey) (level : Int) : List Handler :=
  match lg.visited (lg.ancestry key) with
  | [] => (lg.lastResort.filter fun h => h.level ≤ level).toList
  | hs => hs.filter fun h => h.level ≤ level

/-- `getEffectiveLevel`: the first level other than `NOTSET` from the logger up. -/
def getEffectiveLevel (lg : Logging) (key : LoggerKey) : Int :=
  (((lg.ancestry key).map fun k => (lg.loggerAt k).level).find? (· ≠ 0)).getD 0

/-- `isEnabledFor(level)`. -/
def isEnabledFor (lg : Logging) (key : LoggerKey) (level : Int) : Bool :=
  !(lg.loggerAt key).disabled && !decide (level ≤ lg.disable) &&
    decide (lg.getEffectiveLevel key ≤ level)

/-- The handlers that handle a record logged at `level` through the logger under `key`:
`isEnabledFor`, then `handle`, which skips a disabled logger, then `callHandlers`. -/
def log (lg : Logging) (key : LoggerKey) (level : Int) : List Handler :=
  if lg.isEnabledFor key level then
    if (lg.loggerAt key).disabled then [] else lg.callHandlers key level
  else []

/-! ## Handler lists and `getLogger` -/

/-- Give the logger under `key` the handler list `hs`, all of whose handlers exist already. -/
def setHandlers (lg : Logging) (key : LoggerKey) (hs : List Handler)
    (fresh : ∀ h ∈ hs, h.id < lg.nextId) : Logging :=
  match key with
  | none => { lg with root := { lg.root with handlers := hs }, rootFresh := fresh }
  | some n =>
    { lg with
      named := Function.update lg.named n (some { lg.loggerAt (some n) with handlers := hs })
      namedFresh := by
        intro m l hm h hh
        by_cases e : m = n
        · subst e
          rw [Function.update_same, Option.some.injEq] at hm
          subst hm
          exact fresh h hh
        · exact lg.namedFresh m l ((Function.update_noteq e _ _).symm.trans hm) h hh
      parentShorter := by
        intro m l hm p hp
        by_cases e : m = n
        · subst e
          rw [Function.update_same, Option.some.injEq] at hm
          subst hm
          exact lg.parent_length_lt hp
        · exact lg.parentShorter m l ((Function.update_noteq e _ _).symm.trans hm) p hp }

theorem loggerAt_setHandlers (lg : Logging) (key k : LoggerKey) (hs : List Handler)
    (fresh : ∀ h ∈ hs, h.id < lg.nextId) :
    (lg.setHandlers key hs fresh).loggerAt k =
      if k = key then { lg.loggerAt key with handlers := hs } else lg.loggerAt k := by
  rcases key with _ | n <;> rcases k with _ | m
  · rfl
  · rfl
  · rfl
  · by_cases e : m = n
    · subst e; simp [setHandlers, loggerAt]
    · simp [setHandlers, loggerAt, e]

@[simp] theorem nextId_setHandlers (lg : Logging) (key : LoggerKey) (hs : List Handler)
    (fresh : ∀ h ∈ hs, h.id < lg.nextId) : (lg.setHandlers key hs fresh).nextId = lg.nextId := by
  cases key <;> rfl

@[simp] theorem disable_setHandlers (lg : Logging) (key : LoggerKey) (hs : List Handler)
    (fresh : ∀ h ∈ hs, h.id < lg.nextId) : (lg.setHandlers key hs fresh).disable = lg.disable := by
  cases key <;> rfl

/-- A handler object exists: `nextId` moves past its identity. -/
def reserve (lg : Logging) (h : Handler) : Logging :=
  { lg with
    nextId := max lg.nextId (h.id + 1)
    rootFresh := fun x hx => Nat.lt_of_lt_of_le (lg.rootFresh x hx) (Nat.le_max_left _ _)
    namedFresh := fun n l hl x hx =>
      Nat.lt_of_lt_of_le (lg.namedFresh n l hl x hx) (Nat.le_max_left _ _)
    lastResortFresh := fun x hx =>
      Nat.lt_of_lt_of_le (lg.lastResortFresh x hx) (Nat.le_max_left _ _) }

@[simp] theorem loggerAt_reserve (lg : Logging) (h : Handler) (k : LoggerKey) :
    (lg.reserve h).loggerAt k = lg.loggerAt k := by
  cases k <;> rfl

@[simp] theorem disable_reserve (lg : Logging) (h : Handler) :
    (lg.reserve h).disable = lg.disable := rfl

theorem Logger.mem_addHandler {l : Logger} {h x : Handler} :
    x ∈ (l.addHandler h).handlers ↔ x ∈ l.handlers ∨ x = h := by
  unfold Logger.addHandler
  split
  · exact ⟨Or.inl, fun hx => hx.elim id fun e => e ▸ ‹_›⟩
  · simp

/-- `logger.removeHandler(h)` on the logger under `key`. -/
def removeHandler (lg : Logging) (key : LoggerKey) (h : Handler) : Logging :=
  lg.setHandlers key ((lg.loggerAt key).removeHandler h).handlers
    fun _ hx => lg.id_lt_of_mem_loggerAt (List.mem_of_mem_erase hx)

/-- `logger.addHandler(h)` on the logger under `key`. -/
def addHandler (lg : Logging) (key : LoggerKey) (h : Handler) : Logging :=
  (lg.reserve h).setHandlers key ((lg.loggerAt key).addHandler h).handlers fun _ hx =>
    (Logger.mem_addHandler.mp hx).elim
      (fun hx => Nat.lt_of_lt_of_le (lg.id_lt_of_mem_loggerAt hx) (Nat.le_max_left _ _))
      fun e => e ▸ Nat.lt_of_lt_of_le (Nat.lt_succ_self _) (Nat.le_max_right _ _)

/-- `logging.NullHandler()`, or another new handler at `level`: an object that did not exist. -/
def newHandler (lg : Logging) (level : Int) : Handler × Logging :=
  (⟨lg.nextId, level⟩, lg.reserve ⟨lg.nextId, level⟩)

theorem Logger.with_addHandler (l : Logger) (h : Handler) :
    { l with handlers := (l.addHandler h).handlers } = l.addHandler h := by
  unfold Logger.addHandler; split <;> rfl

@[simp] theorem disable_addHandler (lg : Logging) (key : LoggerKey) (h : Handler) :
    (lg.addHandler key h).disable = lg.disable :=
  disable_setHandlers ..

theorem loggerAt_removeHandler (lg : Logging) (key k : LoggerKey) (h : Handler) :
    (lg.removeHandler key h).loggerAt k =
      if k = key then (lg.loggerAt key).removeHandler h else lg.loggerAt k :=
  lg.loggerAt_setHandlers key k _ _

theorem loggerAt_addHandler (lg : Logging) (key k : LoggerKey) (h : Handler) :
    (lg.addHandler key h).loggerAt k =
      if k = key then (lg.loggerAt key).addHandler h else lg.loggerAt k := by
  rw [addHandler, loggerAt_setHandlers]
  exact if_congr Iff.rfl (Logger.with_addHandler _ _) rfl

@[simp] theorem nextId_removeHandler (lg : Logging) (key : LoggerKey) (h : Handler) :
    (lg.removeHandler key h).nextId = lg.nextId :=
  nextId_setHandlers ..

theorem loggerAt_foldl_removeHandler (key k : LoggerKey) (hs : List Handler) :
    ∀ lg : Logging, (hs.foldl (fun s h => s.removeHandler key h) lg).loggerAt k =
      if k = key then hs.foldl Logger.removeHandler (lg.loggerAt key) else lg.loggerAt k := by
  induction hs with
  | nil => intro lg; split <;> simp_all
  | cons h hs ih =>
    intro lg
    rw [List.foldl_cons, ih, List.foldl_cons]
    split
    · subst k; rw [loggerAt_removeHandler, if_pos rfl]
    · rw [loggerAt_removeHandler, if_neg ‹_›]

theorem disable_foldl_removeHandler (key : LoggerKey) (hs : List Handler) :
    ∀ lg : Logging, (hs.foldl (fun s h => s.removeHandler key h) lg).disable = lg.disable := by
  induction hs with
  | nil => intro; rfl
  | cons h hs ih => intro lg; rw [List.foldl_cons, ih]; exact disable_setHandlers ..

theorem nextId_foldl_removeHandler (key : LoggerKey) (hs : List Handler) :
    ∀ lg : Logging, (hs.foldl (fun s h => s.removeHandler key h) lg).nextId = lg.nextId := by
  induction hs with
  | nil => intro; rfl
  | cons h hs ih => intro lg; rw [List.foldl_cons, ih, nextId_removeHandler]

theorem loggerAt_foldl_addHandler (key k : LoggerKey) (hs : List Handler) :
    ∀ lg : Logging, (hs.foldl (fun s h => s.addHandler key h) lg).loggerAt k =
      if k = key then hs.foldl Logger.addHandler (lg.loggerAt key) else lg.loggerAt k := by
  induction hs with
  | nil => intro lg; split <;> simp_all
  | cons h hs ih =>
    intro lg
    rw [List.foldl_cons, ih, List.foldl_cons]
    split
    · subst k; rw [loggerAt_addHandler, if_pos rfl]
    · rw [loggerAt_addHandler, if_neg ‹_›]

theorem Logger.foldl_removeHandler_self (l : Logger) :
    l.handlers.foldl Logger.removeHandler l = { l with handlers := [] } := by
  suffices ∀ (hs : List Handler) (l : Logger), l.handlers = hs →
      hs.foldl Logger.removeHandler l = { l with handlers := [] } from this _ l rfl
  intro hs
  induction hs with
  | nil => intro l hl; rw [List.foldl_nil, ← hl]
  | cons h hs ih =>
    intro l hl
    rw [List.foldl_cons]
    exact ih _ (by simp [Logger.removeHandler, hl])

theorem Logger.foldl_addHandler_of_nodup (hs : List Handler) :
    ∀ l : Logger, (l.handlers ++ hs).Nodup →
      hs.foldl Logger.addHandler l = { l with handlers := l.handlers ++ hs } := by
  induction hs with
  | nil => intro l _; simp
  | cons h hs ih =>
    intro l hnd
    have hnot : h ∉ l.handlers := fun hm =>
      List.disjoint_of_nodup_append hnd hm (List.mem_cons_self h hs)
    rw [List.foldl_cons, ih _ (by simpa [Logger.addHandler, hnot] using hnd)]
    simp [Logger.addHandler, hnot]

/-- The parent `_fixupParents` gives a new logger: the first existing logger among its
candidate prefixes, else the root. -/
def parentOf (lg : Logging) (name : String) : LoggerKey :=
  ((parentCandidates name.data name.length).map String.mk).find? fun p => (lg.named p).isSome

theorem parentOf_length {lg : Logging} {name p : String} (h : lg.parentOf name = some p) :
    p.length < name.length := by
  obtain ⟨q, hq, rfl⟩ := List.mem_map.mp (List.mem_of_find?_eq_some h)
  exact length_lt_of_mem_parentCandidates _ hq

/-- `_fixupChildren` for a new logger `name` on the existing logger `child`: it is re-pointed to
the new logger when `name` is among the prefixes `child` walked, unless its parent's name already
begins with `name`. -/
def fixupChild (name child : String) (c : Logger) : Logger :=
  if name.data ∈ parentCandidates child.data child.length ∧
      (keyName c.parent).take name.length ≠ name then
    { c with parent := some name }
  else c

@[simp] theorem handlers_fixupChild (name child : String) (c : Logger) :
    (fixupChild name child c).handlers = c.handlers := by
  unfold fixupChild; split <;> rfl

theorem fixupChild_parent_length {name child p : String} {c : Logger}
    (hc : ∀ q, c.parent = some q → q.length < child.length)
    (hp : (fixupChild name child c).parent = some p) : p.length < child.length := by
  unfold fixupChild at hp
  split at hp
  · cases hp; exact length_lt_of_mem_parentCandidates _ ‹_ ∧ _›.1
  · exact hc p hp

/-- `Manager.getLogger(name)` for a name with no logger yet: `_fixupChildren`, then
`_fixupParents` on the new logger. -/
def createLogger (lg : Logging) (name : String) : Logging :=
  { lg with
    named := fun m =>
      if m = name then some { Logger.fresh with parent := lg.parentOf name }
      else (lg.named m).map (fixupChild name m)
    namedFresh := by
      intro m l hm h hh
      dsimp only at hm
      split at hm
      · cases hm; simp [Logger.fresh] at hh
      · obtain ⟨c, hc, rfl⟩ := Option.map_eq_some'.mp hm
        exact lg.namedFresh m c hc h (by simpa using hh)
    parentShorter := by
      intro m l hm p hp
      dsimp only at hm
      split at hm
      · cases hm; subst m; exact parentOf_length hp
      · obtain ⟨c, hc, rfl⟩ := Option.map_eq_some'.mp hm
        exact fixupChild_parent_length (lg.parentShorter m c hc) hp }

/-- `logging.getLogger(name)`: the state, with the logger created if it was missing, and the
logger's key. -/
def getLogger (lg : Logging) (loggerName : Option String) : Logging × LoggerKey :=
  match keyOf loggerName with
  | none => (lg, none)
  | some name => (if (lg.named name).isSome then lg else lg.createLogger name, some name)

theorem getLogger_snd (lg : Logging) (loggerName : Option String) :
    (lg.getLogger loggerName).2 = keyOf loggerName := by
  unfold getLogger; split <;> simp_all

theorem handlers_getLogger (lg : Logging) (loggerName : Option String) (k : LoggerKey) :
    ((lg.getLogger loggerName).1.loggerAt k).handlers = (lg.loggerAt k).handlers := by
  unfold getLogger
  split
  · rfl
  · rename_i name _
    split
    · rfl
    · rcases k with _ | m
      · rfl
      · simp only [loggerAt, createLogger]
        split
        · subst m; simp_all [Logger.fresh]
        · cases lg.named m <;> simp

/-! ## Two states whose loggers differ only in their handlers -/

/-- The loggers of `lg'` are those of `lg` but for their handler lists. -/
structure SameButHandlers (lg lg' : Logging) : Prop where
  level : ∀ k, (lg'.loggerAt k).level = (lg.loggerAt k).level
  parent : ∀ k, (lg'.loggerAt k).parent = (lg.loggerAt k).parent
  propagate : ∀ k, (lg'.loggerAt k).propagate = (lg.loggerAt k).propagate
  disabled : ∀ k, (lg'.loggerAt k).disabled = (lg.loggerAt k).disabled
  disable : lg'.disable = lg.disable

theorem SameButHandlers.of_loggerAt {lg lg' : Logging} {key : LoggerKey} {hs : List Handler}
    (h : ∀ k, lg'.loggerAt k = if k = key then { lg.loggerAt key with handlers := hs }
      else lg.loggerAt k)
    (hd : lg'.disable = lg.disable) : SameButHandlers lg lg' where
  level k := by rw [h]; split <;> simp_all
  parent k := by rw [h]; split <;> simp_all
  propagate k := by rw [h]; split <;> simp_all
  disabled k := by rw [h]; split <;> simp_all
  disable := hd

theorem SameButHandlers.ancestry {lg lg' : Logging} (h : SameButHandlers lg lg')
    (key : LoggerKey) : lg'.ancestry key = lg.ancestry key := by
  induction key using Logging.ancestry.induct lg with
  | case1 => simp
  | case2 n ih => rw [ancestry_some, ancestry_some, h.parent, ih]

theorem SameButHandlers.getEffectiveLevel {lg lg' : Logging} (h : SameButHandlers lg lg')
    (key : LoggerKey) : lg'.getEffectiveLevel key = lg.getEffectiveLevel key := by
  simp only [Logging.getEffectiveLevel, h.ancestry, h.level]

theorem SameButHandlers.isEnabledFor {lg lg' : Logging} (h : SameButHandlers lg lg')
    (key : LoggerKey) (level : Int) : lg'.isEnabledFor key level = lg.isEnabledFor key level := by
  simp only [Logging.isEnabledFor, h.disabled, h.disable, h.getEffectiveLevel]

theorem SameButHandlers.visited {lg lg' : Logging} (h : SameButHandlers lg lg')
    {ks : List LoggerKey} (hk : ∀ k ∈ ks, (lg'.loggerAt k).handlers = (lg.loggerAt k).handlers) :
    lg'.visited ks = lg.visited ks := by
  induction ks with
  | nil => rfl
  | cons k ks ih =>
    simp only [Logging.visited, hk k (List.mem_cons_self k ks), h.propagate,
      ih fun k' hk' => hk k' (List.mem_cons_of_mem k hk')]

/-! ## What a record reaches, read off the definitions -/

theorem ancestry_eq_cons (lg : Logging) (key : LoggerKey) :
    lg.ancestry key = key :: (lg.ancestry key).tail := by
  cases key <;> simp

theorem not_mem_ancestry_tail (lg : Logging) (key : LoggerKey) : key ∉ (lg.ancestry key).tail := by
  cases key with
  | none => simp
  | some n =>
    intro hn
    rw [ancestry_some, List.tail_cons] at hn
    exact lt_irrefl _ (lg.length_lt_of_mem_ancestry_parent hn)

/-- `log` in one test: an enabled logger is not disabled, so `handle` passes the record on. -/
theorem log_eq (lg : Logging) (key : LoggerKey) (level : Int) :
    lg.log key level = if lg.isEnabledFor key level then lg.callHandlers key level else [] := by
  unfold log isEnabledFor
  by_cases hd : (lg.loggerAt key).disabled <;> simp [hd]

/-! ## `disable_logs` -/

/-- What `disable_logs` holds across its `yield`: the logger, the handlers it took off, and its
`NullHandler`. -/
structure DisableScope where
  logger : LoggerKey
  handlers : List Handler
  nullHandler : Handler

/-- `disable_logs(logger_name)` up to its `yield`. -/
def disableLogsEnter (lg : Logging) (loggerName : Option String) : Logging × DisableScope :=
  let got := lg.getLogger loggerName
  let handlers := (got.1.loggerAt got.2).handlers
  let removed := handlers.foldl (fun s h => s.removeHandler got.2 h) got.1
  let null := removed.newHandler 0
  (null.2.addHandler got.2 null.1, ⟨got.2, handlers, null.1⟩)

/-- The `finally` block of `disable_logs`, from the state the scope left. -/
def disableLogsExit (lg : Logging) (scope : DisableScope) : Logging :=
  scope.handlers.foldl (fun s h => s.addHandler scope.logger h)
    (lg.removeHandler scope.logger scope.nullHandler)

section Scope

variable (lg : Logging) (loggerName : Option String)

theorem disableLogsEnter_scope :
    (lg.disableLogsEnter loggerName).2 =
      ⟨keyOf loggerName, ((lg.getLogger loggerName).1.loggerAt (keyOf loggerName)).handlers,
        ⟨(lg.getLogger loggerName).1.nextId, 0⟩⟩ := by
  simp only [disableLogsEnter, newHandler, getLogger_snd, nextId_foldl_removeHandler]

/-- Inside the scope the named logger holds the `NullHandler` alone; every other logger is as
`getLogger` left it. -/
theorem loggerAt_disableLogsEnter (k : LoggerKey) :
    (lg.disableLogsEnter loggerName).1.loggerAt k =
      if k = keyOf loggerName then
        { (lg.getLogger loggerName).1.loggerAt (keyOf loggerName) with
          handlers := [(lg.disableLogsEnter loggerName).2.nullHandler] }
      else (lg.getLogger loggerName).1.loggerAt k := by
  simp only [disableLogsEnter, newHandler, loggerAt_addHandler, getLogger_snd]
  split
  · subst k
    rw [loggerAt_reserve, loggerAt_foldl_removeHandler, if_pos rfl,
      Logger.foldl_removeHandler_self]
    simp [Logger.addHandler]
  · rw [loggerAt_reserve, loggerAt_foldl_removeHandler, if_neg ‹_›]

theorem sameButHandlers_disableLogsEnter :
    SameButHandlers (lg.getLogger loggerName).1 (lg.disableLogsEnter loggerName).1 :=
  .of_loggerAt (loggerAt_disableLogsEnter lg loggerName) <| by
    simp only [disableLogsEnter, addHandler, disable_setHandlers]
    exact disable_foldl_removeHandler ..

/-- Inside `disable_logs(logger_name)`, a record logged through the named logger is handled by
the scope's `NullHandler` and, while the loggers propagate, by the handlers of the named logger's
ancestors as `getLogger` left them (`handlers_getLogger`: as before the scope). The
`NullHandler` is none of the handlers there were. -/
theorem disableLogs_log (level : Int) :
    let before : Logging := (lg.getLogger loggerName).1
    let key := keyOf loggerName
    let inside := lg.disableLogsEnter loggerName
    inside.1.log key level =
      (if before.isEnabledFor key level then
        (inside.2.nullHandler ::
            if (before.loggerAt key).propagate then before.visited (before.ancestry key).tail
            else []).filter fun h => h.level ≤ level
      else []) ∧
    ∀ k, inside.2.nullHandler ∉ (before.loggerAt k).handlers := by
  intro before key inside
  have hsame := sameButHandlers_disableLogsEnter lg loggerName
  refine ⟨?_, fun k hk => ?_⟩
  · rw [log_eq, hsame.isEnabledFor]
    split
    · set rest := (before.ancestry key).tail
      have htail : inside.1.visited rest = before.visited rest := hsame.visited fun k hk => by
        rw [loggerAt_disableLogsEnter,
          if_neg (ne_of_mem_of_not_mem hk (before.not_mem_ancestry_tail key))]
      rw [callHandlers, hsame.ancestry, before.ancestry_eq_cons key, visited, htail,
        hsame.propagate, loggerAt_disableLogsEnter, if_pos rfl]
      rfl
    · rfl
  · have hid := before.id_lt_of_mem_loggerAt hk
    rw [disableLogsEnter_scope] at hid
    exact lt_irrefl _ hid

/-- Leaving the scope right after entering it gives every logger back what it had, when the named
logger held no handler twice (`addHandler` never adds one twice). -/
theorem disableLogsExit_restores
    (hnd : ((lg.getLogger loggerName).1.loggerAt (keyOf loggerName)).handlers.Nodup)
    (k : LoggerKey) :
    let inside := lg.disableLogsEnter loggerName
    (inside.1.disableLogsExit inside.2).loggerAt k = (lg.getLogger loggerName).1.loggerAt k := by
  intro inside
  simp only [disableLogsExit, inside, disableLogsEnter_scope]
  rw [loggerAt_foldl_addHandler]
  split
  · subst k
    rw [loggerAt_removeHandler, if_pos rfl, loggerAt_disableLogsEnter, if_pos rfl,
      disableLogsEnter_scope]
    simp only [Logger.removeHandler, List.erase_cons_head, List.erase_nil]
    rw [Logger.foldl_addHandler_of_nodup _ _ (by simpa using hnd)]
    rfl
  · rw [loggerAt_removeHandler, if_neg ‹_›, loggerAt_disableLogsEnter, if_neg ‹_›]

end Scope

/-- The root logger at `WARNING` with one handler, and a logger `a` with none. -/
def rootHandlerTree : Logging where
  root := { Logger.fresh with handlers := [⟨0, 0⟩], level := 30 }
  named n := if n = "a" then some Logger.fresh else none
  lastResort := none
  disable := 0
  nextId := 1
  rootFresh := by simp
  namedFresh := by
    intro n l h
    dsimp only at h
    split at h
    · cases h; simp [Logger.fresh]
    · cases h
  lastResortFresh := by simp
  parentShorter := by
    intro n l h
    dsimp only at h
    split at h
    · cases h; simp [Logger.fresh]
    · cases h

/-- The root logger at `WARNING` with its one handler `h0` (object `0`), and a logger `a` with none:
inside `disable_logs("a")`, `getLogger("a").warning(...)` is handled by the scope's `NullHandler`
(object `1`) and then, since `a` propagates, by `h0`. -/
theorem disableLogs_reaches_root_handler :
    (rootHandlerTree.disableLogsEnter (some "a")).1.log (some "a") 30 = [⟨1, 0⟩, ⟨0, 0⟩] := by
  have hget : rootHandlerTree.getLogger (some "a") = (rootHandlerTree, some "a") := by
    simp [getLogger, keyOf, rootHandlerTree]
  have ha : rootHandlerTree.loggerAt (some "a") = Logger.fresh := by
    simp [rootHandlerTree, loggerAt]
  have hr : rootHandlerTree.loggerAt none = { Logger.fresh with handlers := [⟨0, 0⟩], level := 30 } :=
    rfl
  have hn : rootHandlerTree.nextId = 1 := rfl
  have hd : rootHandlerTree.disable = 0 := rfl
  simp only [disableLogsEnter, hget]
  simp [log, isEnabledFor, getEffectiveLevel, callHandlers, visited, loggerAt_addHandler,
    newHandler, Logger.addHandler, ha, hr, hn, hd, Logger.fresh]

end Logging

end Boardfarm

import Boardfarm.Logging
import Boardfarm.Python

/-!
# Nested `disable_logs` scopes

Code that nests `with disable_logs(name):` statements, on one logger or on several, and whose
bodies add or remove no handler themselves: they call `logging.getLogger`, open further scopes,
and may leave by raising. A `Block` is such code and `run` executes it, keeping every scope it
leaves with the states before the `with` statement and after the `finally` block.

When no logger holds a handler twice, each scope gives every logger back the handler list it had
before the scope, in the same order, and lets the exception of its body out unchanged
(`disableLogs_nested`): the step lemmas are `handlers_disableLogsEnter` for the entry and
`sameHandlers_disableLogsExit` for the `finally` block.
-/

namespace Boardfarm

namespace Logging

/-- Code made of `with disable_logs(name):` statements, `logging.getLogger(name)` calls and
`raise`. -/
inductive Block where
  /-- The end of the code. -/
  | done
  /-- `raise e`: what follows does not run. -/
  | raise (e : PyError)
  /-- `logging.getLogger(name)`, then the rest. -/
  | getLogger (loggerName : Option String) (rest : Block)
  /-- `with disable_logs(name): body`, then the rest. -/
  | disableLogs (loggerName : Option String) (body rest : Block)

/-- The exception a block raises, read off its text: the first `raise` it reaches. -/
def Block.raised : Block → Option PyError
  | .done => none
  | .raise e => some e
  | .getLogger _ rest => rest.raised
  | .disableLogs _ body rest => body.raised.or rest.raised

/-- One `with disable_logs(name):` statement as it ran: its body, the state before the statement,
the state its `finally` block left, and the exception it let out. -/
structure ScopeRun where
  loggerName : Option String
  body : Block
  entry : Logging
  exit : Logging
  raised : Option PyError

/-- Running a block: the state it leaves, the exception it raises, and each `disable_logs`
statement it ran, in the order they were left. The `finally` block runs whether the body raised
or not; an exception skips the rest. -/
def run : Logging → Block → Logging × Option PyError × List ScopeRun
  | lg, .done => (lg, none, [])
  | lg, .raise e => (lg, some e, [])
  | lg, .getLogger n rest => run (lg.getLogger n).1 rest
  | lg, .disableLogs n body rest =>
    let inside := lg.disableLogsEnter n
    let r := run inside.1 body
    let out := r.1.disableLogsExit inside.2
    let scope : ScopeRun := ⟨n, body, lg, out, r.2.1⟩
    match r.2.1 with
    | some e => (out, some e, r.2.2 ++ [scope])
    | none =>
      let r' := run out rest
      (r'.1, r'.2.1, r.2.2 ++ scope :: r'.2.2)

/-- No logger holds a handler twice. -/
def HandlersNodup (lg : Logging) : Prop := ∀ k, (lg.loggerAt k).handlers.Nodup

/-- Every logger of `lg'` holds the handlers it holds in `lg`, in the same order. -/
def SameHandlers (lg lg' : Logging) : Prop := ∀ k, (lg'.loggerAt k).handlers = (lg.loggerAt k).handlers

theorem SameHandlers.trans {lg lg' lg'' : Logging} (h : SameHandlers lg lg')
    (h' : SameHandlers lg' lg'') : SameHandlers lg lg'' := fun k => (h' k).trans (h k)

theorem SameHandlers.handlersNodup {lg lg' : Logging} (h : SameHandlers lg lg')
    (hnd : HandlersNodup lg) : HandlersNodup lg' := fun k => h k ▸ hnd k

theorem sameHandlers_getLogger (lg : Logging) (loggerName : Option String) :
    SameHandlers lg (lg.getLogger loggerName).1 :=
  handlers_getLogger lg loggerName

section Scope

variable (lg : Logging) (loggerName : Option String)

/-- Inside the scope the named logger holds its `NullHandler` alone and the others what they held
before. -/
theorem handlers_disableLogsEnter (k : LoggerKey) :
    ((lg.disableLogsEnter loggerName).1.loggerAt k).handlers =
      if k = keyOf loggerName then [(lg.disableLogsEnter loggerName).2.nullHandler]
      else (lg.loggerAt k).handlers := by
  rw [loggerAt_disableLogsEnter]
  split
  · rfl
  · exact handlers_getLogger lg loggerName k

theorem handlersNodup_disableLogsEnter (hnd : HandlersNodup lg) :
    HandlersNodup (lg.disableLogsEnter loggerName).1 := by
  intro k
  rw [handlers_disableLogsEnter]
  split
  · exact List.nodup_singleton _
  · exact hnd k

/-- The `finally` block, from a state whose handlers are those the scope set up, gives every
logger back the handlers it held before the scope. -/
theorem sameHandlers_disableLogsExit {lg' : Logging} (hnd : HandlersNodup lg)
    (h : SameHandlers (lg.disableLogsEnter loggerName).1 lg') :
    SameHandlers lg (lg'.disableLogsExit (lg.disableLogsEnter loggerName).2) := by
  intro k
  have hscope := disableLogsEnter_scope lg loggerName
  simp only [disableLogsExit, hscope]
  rw [loggerAt_foldl_addHandler]
  split
  · subst k
    have hnull : (lg'.loggerAt (keyOf loggerName)).handlers =
        [(lg.disableLogsEnter loggerName).2.nullHandler] := by
      rw [h, handlers_disableLogsEnter, if_pos rfl]
    rw [loggerAt_removeHandler, if_pos rfl, handlers_getLogger, Logger.foldl_addHandler_of_nodup]
    · simp [Logger.removeHandler, hnull, hscope]
    · simpa [Logger.removeHandler, hnull, hscope] using hnd (keyOf loggerName)
  · rw [loggerAt_removeHandler, if_neg ‹_›, h, handlers_disableLogsEnter, if_neg ‹_›]

end Scope

/-- A block run from a state where no logger holds a handler twice raises the exception its text
raises, leaves every logger its handlers, and each scope it ran left every logger the handlers
it held before the scope, in the same order, and let its body's exception out. -/
theorem disableLogs_nested :
    ∀ (b : Block) (lg : Logging), HandlersNodup lg →
      (run lg b).2.1 = b.raised ∧ SameHandlers lg (run lg b).1 ∧
        ∀ s ∈ (run lg b).2.2, SameHandlers s.entry s.exit ∧ s.raised = s.body.raised
  | .done, lg, _ => ⟨rfl, fun _ => rfl, by simp [run]⟩
  | .raise e, lg, _ => ⟨rfl, fun _ => rfl, by simp [run]⟩
  | .getLogger n rest, lg, hnd => by
    have hget := sameHandlers_getLogger lg n
    obtain ⟨hr, hs, hscopes⟩ := disableLogs_nested rest _ (hget.handlersNodup hnd)
    exact ⟨hr, hget.trans hs, hscopes⟩
  | .disableLogs n body rest, lg, hnd => by
    obtain ⟨hbr, hbs, hbscopes⟩ :=
      disableLogs_nested body _ (handlersNodup_disableLogsEnter lg n hnd)
    have hout := sameHandlers_disableLogsExit lg n hnd hbs
    cases hraised : body.raised with
    | some e =>
      have hr : (run (lg.disableLogsEnter n).1 body).2.1 = some e := hbr.trans hraised
      simp only [run, hr]
      refine ⟨by simp [Block.raised, hraised], hout, fun s hs => ?_⟩
      rcases List.mem_append.mp hs with hs | hs
      · exact hbscopes s hs
      · rw [List.mem_singleton] at hs
        subst hs
        exact ⟨hout, hraised.symm⟩
    | none =>
      have hr : (run (lg.disableLogsEnter n).1 body).2.1 = none := hbr.trans hraised
      obtain ⟨hrr, hrs, hrscopes⟩ := disableLogs_nested rest _ (hout.handlersNodup hnd)
      simp only [run, hr]
      refine ⟨by simp [Block.raised, hraised, hrr], hout.trans hrs, fun s hs => ?_⟩
      rcases List.mem_append.mp hs with hs | hs
      · exact hbscopes s hs
      · rcases List.mem_cons.mp hs with rfl | hs
        · exact ⟨hout, hraised.symm⟩
        · exact hrscopes s hs

/-- `with disable_logs("a"): with disable_logs(): raise ValueError("boom")`, then
`logging.getLogger("a.b")`. -/
def nestedRaise : Block :=
  .disableLogs (some "a") (.disableLogs none (.raise (.valueError "boom")) .done)
    (.getLogger (some "a.b") .done)

theorem disableLogs_nested_rootHandlerTree :
    HandlersNodup rootHandlerTree ∧
      ((run rootHandlerTree nestedRaise).2.1 = nestedRaise.raised ∧
        SameHandlers rootHandlerTree (run rootHandlerTree nestedRaise).1 ∧
        ∀ s ∈ (run rootHandlerTree nestedRaise).2.2,
          SameHandlers s.entry s.exit ∧ s.raised = s.body.raised) :=
  have hnd : HandlersNodup rootHandlerTree := by
    intro k
    rcases k with _ | n
    · exact List.nodup_singleton _
    · simp only [loggerAt, rootHandlerTree]
      split <;> exact List.nodup_nil
  ⟨hnd, disableLogs_nested nestedRaise rootHandlerTree hnd⟩

end Logging

end Boardfarm

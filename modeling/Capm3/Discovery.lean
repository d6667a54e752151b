import Mathlib.Data.List.Basic

/-!
# Waiting for the metal3.io API group

`waitForAPIs` of `main.go` builds a discovery client and then polls
`ServerSupportsVersion(metal3.io/v1alpha1)` in a `for` loop with no bound: a failed check is
logged and followed by a ten-second sleep, a successful one is logged and ends the loop with a nil
error.  The loop is a step function on `Phase` that also returns the effects of the pass (the
call, the log line, the sleep); `run` makes `k` passes, and the answers of the discovery side are
an arbitrary sequence indexed by the call number (`Discovery`).

The main result, `waitForAPIs_polls_until_found`: once the client exists the function never
returns an error, it has not returned after any run of failed calls, and it returns nil after the
first successful call, having made one call per answer up to that one and slept ten seconds after
each failure.
-/

namespace Capm3

/-- `schema.GroupVersion`. -/
structure GroupVersion where
  group : String
  version : String
  deriving DecidableEq, Repr

/-- `GroupVersion.String`, which `%v` prints. -/
def GroupVersion.toString (gv : GroupVersion) : String :=
  if gv.group.length > 0 then gv.group ++ "/" ++ gv.version else gv.version

/-- `metal3GV`, the group `waitForAPIs` waits for. -/
def metal3GV : GroupVersion := ⟨"metal3.io", "v1alpha1"⟩

/-- `time.Second`: a `time.Duration` is a count of nanoseconds. -/
def second : Int := 1000000000

/-- The effects of `waitForAPIs`. -/
inductive Effect
  | serverSupportsVersion (gv : GroupVersion)
  | info (msg : String)
  | sleep (d : Int)
  deriving DecidableEq, Repr

/-- A discovery call. -/
def Effect.isCall : Effect → Bool
  | .serverSupportsVersion _ => true
  | _ => false

/-- A sleep. -/
def Effect.isSleep : Effect → Bool
  | .sleep _ => true
  | _ => false

/-- The discovery side as `waitForAPIs` sees it: whether `NewDiscoveryClientForConfig` builds a
client, and the answer to the `n`-th `ServerSupportsVersion` call for a group (`.ok ()` for a nil
error). -/
structure Discovery where
  newClient : Except String Unit
  serverSupportsVersion : GroupVersion → Nat → Except String Unit

/-- Where `waitForAPIs` is: in its loop before the call numbered `n`, or returned with an error
(`.ok ()` for nil). -/
inductive Phase
  | polling (n : Nat)
  | returned (err : Except String Unit)

/-- The log line after a failed check. -/
def waitingMessage (err : String) : String :=
  "Waiting for API group " ++ metal3GV.toString ++ " to be available: " ++ err

/-- The log line after a successful check. -/
def foundMessage : String :=
  "Found API group " ++ metal3GV.toString

/-- `waitForAPIs` up to its loop: a client error is returned at once. -/
def enter (d : Discovery) : Phase :=
  match d.newClient with
  | .error err => .returned (.error err)
  | .ok () => .polling 0

/-- One pass of the `for` loop; a returned call does nothing. -/
def step (d : Discovery) : Phase → List Effect × Phase
  | .returned err => ([], .returned err)
  | .polling n =>
    match d.serverSupportsVersion metal3GV n with
    | .error err =>
      ([.serverSupportsVersion metal3GV, .info (waitingMessage err), .sleep (second * 10)],
        .polling (n + 1))
    | .ok () => ([.serverSupportsVersion metal3GV, .info foundMessage], .returned (.ok ()))

/-- `k` passes from `p`: their effects in order, and the phase reached. -/
def run (d : Discovery) : Nat → Phase → List Effect × Phase
  | 0, p => ([], p)
  | k + 1, p => ((step d p).1 ++ (run d k (step d p).2).1, (run d k (step d p).2).2)

/-- `waitForAPIs` given `fuel` passes of its loop. -/
def waitForAPIs (d : Discovery) (fuel : Nat) : List Effect × Phase :=
  run d fuel (enter d)

variable {d : Discovery}

/-! ## Single passes -/

theorem step_returned (err : Except String Unit) : step d (.returned err) = ([], .returned err) :=
  rfl

theorem step_of_failure {n : Nat} {err : String}
    (h : d.serverSupportsVersion metal3GV n = .error err) :
    step d (.polling n) =
      ([.serverSupportsVersion metal3GV, .info (waitingMessage err), .sleep (second * 10)],
        .polling (n + 1)) := by
  simp [step, h]

theorem step_of_success {n : Nat} (h : d.serverSupportsVersion metal3GV n = .ok ()) :
    step d (.polling n) =
      ([.serverSupportsVersion metal3GV, .info foundMessage], .returned (.ok ())) := by
  simp [step, h]

/-- A failed answer is any answer but `.ok ()`. -/
theorem exists_error_of_ne_ok {r : Except String Unit} (h : r ≠ .ok ()) :
    ∃ err, r = .error err := by
  rcases r with err | ⟨⟩
  · exact ⟨err, rfl⟩
  · exact absurd rfl h

/-! ## Runs -/

@[simp] theorem run_zero (p : Phase) : run d 0 p = ([], p) := rfl

theorem run_succ (k : Nat) (p : Phase) :
    run d (k + 1) p = ((step d p).1 ++ (run d k (step d p).2).1, (run d k (step d p).2).2) := rfl

theorem run_add (a b : Nat) (p : Phase) :
    run d (a + b) p = ((run d a p).1 ++ (run d b (run d a p).2).1, (run d b (run d a p).2).2) := by
  induction a generalizing p with
  | zero => simp
  | succ a ih => simp [Nat.add_right_comm a 1 b, run_succ, ih]

theorem run_returned (k : Nat) (err : Except String Unit) :
    run d k (.returned err) = ([], .returned err) := by
  induction k with
  | zero => rfl
  | succ k ih => rw [run_succ, step_returned, ih]; rfl

/-- A run of failed calls from call `n`: one call, one log line and one ten-second sleep per
failure, still polling afterwards. -/
theorem run_of_failures {k n : Nat}
    (fails : ∀ j < k, d.serverSupportsVersion metal3GV (n + j) ≠ .ok ()) :
    (run d k (.polling n)).2 = .polling (n + k) ∧
      (run d k (.polling n)).1.filter Effect.isCall =
        List.replicate k (.serverSupportsVersion metal3GV) ∧
      (run d k (.polling n)).1.filter Effect.isSleep = List.replicate k (.sleep (second * 10)) := by
  induction k generalizing n with
  | zero => simp
  | succ k ih =>
    obtain ⟨err, herr⟩ := exists_error_of_ne_ok (fails 0 k.succ_pos)
    rw [Nat.add_zero] at herr
    have rest := @ih (n + 1) fun j hj => by
      rw [Nat.add_right_comm, Nat.add_assoc]; exact fails (j + 1) (by omega)
    rw [run_succ, step_of_failure herr]
    simp only [List.filter_append, rest, Nat.add_right_comm n 1 k, Nat.add_assoc]
    simp [Effect.isCall, Effect.isSleep, List.replicate_succ]

/-! ## The whole call -/

/-- The phases `waitForAPIs` passes through once its client exists: never an error. -/
def NoError (p : Phase) : Prop := ∀ err, p ≠ .returned (.error err)

theorem noError_step {p : Phase} (h : NoError p) : NoError (step d p).2 := by
  cases p with
  | returned r => exact h
  | polling n =>
    rcases found : d.serverSupportsVersion metal3GV n with err | ⟨⟩
    · simp [step_of_failure found, NoError]
    · simp [step_of_success found, NoError]

theorem noError_run (k : Nat) {p : Phase} (h : NoError p) : NoError (run d k p).2 := by
  induction k generalizing p with
  | zero => exact h
  | succ k ih => exact ih (noError_step h)

theorem enter_of_client (client : d.newClient = .ok ()) : enter d = .polling 0 := by
  simp [enter, client]

/-- Once `NewDiscoveryClientForConfig` has succeeded, `waitForAPIs` never returns an error; after
`n` failed checks it is still polling, having made `n` calls and slept ten seconds after each; if
check `i` is the first to succeed, it has returned nil once given more than `i` passes, after
`i + 1` calls and `i` sleeps of ten seconds. -/
theorem waitForAPIs_polls_until_found (d : Discovery) (client : d.newClient = .ok ()) :
    (∀ fuel err, (waitForAPIs d fuel).2 ≠ .returned (.error err)) ∧
    (∀ n, (∀ j < n, d.serverSupportsVersion metal3GV j ≠ .ok ()) →
      (waitForAPIs d n).2 = .polling n ∧
      (waitForAPIs d n).1.filter Effect.isCall =
        List.replicate n (.serverSupportsVersion metal3GV) ∧
      (waitForAPIs d n).1.filter Effect.isSleep = List.replicate n (.sleep (second * 10))) ∧
    (∀ i, (∀ j < i, d.serverSupportsVersion metal3GV j ≠ .ok ()) →
      d.serverSupportsVersion metal3GV i = .ok () →
      ∀ fuel, i < fuel →
        (waitForAPIs d fuel).2 = .returned (.ok ()) ∧
        (waitForAPIs d fuel).1.filter Effect.isCall =
          List.replicate (i + 1) (.serverSupportsVersion metal3GV) ∧
        (waitForAPIs d fuel).1.filter Effect.isSleep =
          List.replicate i (.sleep (second * 10))) := by
  have start := enter_of_client client
  refine ⟨fun fuel => ?_, fun n fails => ?_, fun i fails found fuel more => ?_⟩
  · rw [waitForAPIs, start]
    exact noError_run fuel (fun err h => nomatch h)
  · simpa [waitForAPIs, start] using @run_of_failures d n 0 (by simpa using fails)
  · obtain ⟨m, rfl⟩ := Nat.exists_eq_add_of_lt more
    have before := @run_of_failures d i 0 (by simpa using fails)
    simp only [Nat.zero_add] at before
    rw [waitForAPIs, start, Nat.add_assoc, run_add, before.1, run_succ, step_of_success found,
      run_returned]
    simp [before.2.1, before.2.2, Effect.isCall, Effect.isSleep, List.replicate_succ']

/-- A discovery side that refuses twice, then answers. -/
def twoFailures : Discovery :=
  ⟨.ok (), fun _ n =>
    if n < 2 then .error "the server could not find the requested resource" else .ok ()⟩

/-- Two refusals, then an answer: three calls and two sleeps before `waitForAPIs` returns nil. -/
theorem waitForAPIs_twoFailures :
    twoFailures.newClient = .ok () ∧
      (waitForAPIs twoFailures 3).2 = .returned (.ok ()) ∧
      (waitForAPIs twoFailures 3).1.filter Effect.isCall =
        List.replicate 3 (.serverSupportsVersion metal3GV) ∧
      (waitForAPIs twoFailures 3).1.filter Effect.isSleep =
        List.replicate 2 (.sleep (second * 10)) :=
  ⟨rfl, (waitForAPIs_polls_until_found twoFailures rfl).2.2 2
    (fun j hj => by simp [twoFailures, hj]) rfl 3 (by decide)⟩

/-- The effects of a pass whose check failed with `err`: the call, the log line that quotes the
error, the ten-second sleep. -/
def failedPass (err : String) : List Effect :=
  [.serverSupportsVersion metal3GV, .info (waitingMessage err), .sleep (second * 10)]

/-- A run of failed calls from call `n`, effect by effect: one `failedPass` per call, each with
that call's error. -/
theorem run_of_errors {errs : Nat → String} {k n : Nat}
    (fails : ∀ j, n ≤ j → j < n + k → d.serverSupportsVersion metal3GV j = .error (errs j)) :
    run d k (.polling n) =
      ((List.range' n k).flatMap (fun j => failedPass (errs j)), .polling (n + k)) := by
  induction k generalizing n with
  | zero => simp
  | succ k ih =>
    rw [run_succ, step_of_failure (fails n le_rfl (by omega)),
      ih fun j lo hi => fails j (by omega) (by omega)]
    simp [List.range'_succ, failedPass, Nat.add_right_comm n 1 k, Nat.add_assoc]

/-- The log of `waitForAPIs` once its client exists: after `i` failed checks, one pass per check,
each logging that check's error, in order, and still polling; if check `i` then succeeds, the
call and the line saying the group was found close the log, and the call has returned nil. -/
theorem waitForAPIs_log (d : Discovery) (client : d.newClient = .ok ()) (errs : Nat → String)
    (i : Nat) (fails : ∀ j < i, d.serverSupportsVersion metal3GV j = .error (errs j)) :
    waitForAPIs d i = ((List.range i).flatMap (fun j => failedPass (errs j)), .polling i) ∧
      (d.serverSupportsVersion metal3GV i = .ok () → ∀ fuel, i < fuel →
        waitForAPIs d fuel =
          ((List.range i).flatMap (fun j => failedPass (errs j)) ++
            [.serverSupportsVersion metal3GV, .info foundMessage], .returned (.ok ()))) := by
  have before : run d i (.polling 0) =
      ((List.range i).flatMap (fun j => failedPass (errs j)), .polling i) := by
    simpa [List.range_eq_range'] using
      @run_of_errors d errs i 0 fun j _ hj => fails j (by omega)
  refine ⟨by rw [waitForAPIs, enter_of_client client, before], fun found fuel more => ?_⟩
  obtain ⟨m, rfl⟩ := Nat.exists_eq_add_of_lt more
  rw [waitForAPIs, enter_of_client client, Nat.add_assoc, run_add, before, run_succ,
    step_of_success found, run_returned]
  simp

/-- Two refusals, then an answer, line by line: two waiting lines with the server's error, then
the found line. -/
theorem waitForAPIs_twoFailures_log :
    waitForAPIs twoFailures 2 =
        ((List.range 2).flatMap
          (fun _ => failedPass "the server could not find the requested resource"), .polling 2) ∧
      (twoFailures.serverSupportsVersion metal3GV 2 = .ok () → ∀ fuel, 2 < fuel →
        waitForAPIs twoFailures fuel =
          ((List.range 2).flatMap
              (fun _ => failedPass "the server could not find the requested resource") ++
            [.serverSupportsVersion metal3GV, .info foundMessage], .returned (.ok ()))) :=
  waitForAPIs_log twoFailures rfl (fun _ => "the server could not find the requested resource") 2
    fun j hj => by simp [twoFailures, hj]

end Capm3

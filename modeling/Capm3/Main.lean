import Capm3.Flags

/-!
# Bootstrapping the manager

`main` of `main.go` after flag parsing, as the sequence of calls it makes to its collaborators
(`Runtime`: logging setup, the kubeconfig, `ctrl.NewManager`, the health checks, the reconciler
and webhook registrations, `mgr.Start`) and the events they leave (`Event`).  Every fallible call
is followed by the same pattern: on an error, log it with a fixed message and `os.Exit(1)`
(`orExit`); the registries run that pattern over a list (`failFast`).

`mgr.Start` runs the manager until a signal stops it, so `main` may not have ended
(`Outcome.exit = none`).

Results:

* `main_exit`: `main` ends with status 0 exactly when every call before `mgr.Start` succeeds, the
  TLS flags are accepted (`SetUp`) and `mgr.Start` returns nil; it is still running exactly when
  `mgr.Start` has not returned after such a start; it ends with status 1 otherwise;
* `main_failsLast`: over every run, `main` logs at most one error, as its last event, exactly when
  it exits with status 1 (`Outcome.FailsLast`, kept by each checked call and each registry);
* `main_start_iff_setUp`: no partial start, `mgr.Start` is called exactly when every call before
  it succeeded; the membership lemmas `mem_orExit`, `mem_failFast`, `mem_apiGate` say what a
  later event tells about the calls before it;
* `main_newManager`: every manager built has the options of the flags and TLS closures that leave
  the webhook server with the flags' range, never inverted.

`waitForMetal3Controller` is never set, so the readiness gate passes straight on (`apiGate_eq`);
the gate is modelled with its loop all the same, and `failsLast_apiGate` holds either way.
-/

namespace Capm3

open Tls

/-- What `main` does that is seen from outside, in order. -/
inductive Event
  | validateAndApply
  | getConfigOrDie
  | info (msg : String)
  | error (err msg : String) (keysAndValues : List String)
  | newManager (userAgent : String) (opts : ManagerOptions)
  | discovery (effect : Effect)
  | enableBMHNameBasedPreallocation
  | addReadyzCheck (name : String)
  | addHealthzCheck (name : String)
  | setupReconciler (setup : ReconcilerSetup)
  | setupWebhook (kind : String)
  | start

/-- The answers of `main`'s collaborators (`.ok ()` for a nil error), and Go's print table, which
the `%q` of a TLS error's text reads. -/
structure Runtime where
  validateAndApply : Except String Unit
  getConfig : Except String Unit
  newManager : ManagerOptions → Except String Unit
  discovery : Discovery
  addReadyzCheck : Except String Unit
  addHealthzCheck : Except String Unit
  setupReconciler : ReconcilerSetup → Except String Unit
  setupWebhook : String → Except String Unit
  /-- what `mgr.Start` returns, `none` while the manager runs -/
  start : Option (Except String Unit)
  /-- `strconv.IsPrint` above Latin-1 in the Go release the binary is built with -/
  printTable : Char → Bool

/-- How far `main` gets: its events in order, and the exit status (`none` while it has not ended:
blocked in `waitForAPIs`, or running the manager). -/
structure Outcome where
  events : List Event
  exit : Option Nat

/-- `events` happen, then `next`. -/
def Outcome.after (events : List Event) (next : Outcome) : Outcome :=
  ⟨events ++ next.events, next.exit⟩

/-- `if err := call; err != nil { setupLog.Error(err, msg, keysAndValues...); os.Exit(1) }`,
then `next`. -/
def orExit (call : Event) (r : Except String Unit) (msg : String) (keysAndValues : List String)
    (next : Outcome) : Outcome :=
  match r with
  | .error err => ⟨[call, .error err msg keysAndValues], some 1⟩
  | .ok () => Outcome.after [call] next

/-- The pattern of `orExit` over the items of a registry, in order. -/
def failFast {α : Type} (call : α → Event) (r : α → Except String Unit) (msg : String)
    (keysAndValues : α → List String) (items : List α) (next : Outcome) : Outcome :=
  items.foldr (fun item next => orExit (call item) (r item) msg (keysAndValues item) next) next

/-- `setupChecks`. -/
def setupChecks (rt : Runtime) (next : Outcome) : Outcome :=
  orExit (.addReadyzCheck "webhook") rt.addReadyzCheck "unable to create ready check" [] <|
    orExit (.addHealthzCheck "webhook") rt.addHealthzCheck "unable to create health check" [] next

/-- `setupReconcilers`. -/
def setupReconcilers (rt : Runtime) (flags : Flags) (next : Outcome) : Outcome :=
  failFast .setupReconciler rt.setupReconciler "unable to create controller"
    (fun setup => ["controller", setup.controllerName]) (reconcilerSetups flags) next

/-- `setupWebhooks`. -/
def setupWebhooks (rt : Runtime) (next : Outcome) : Outcome :=
  failFast .setupWebhook rt.setupWebhook "unable to create webhook"
    (fun kind => ["webhook", kind]) webhooks next

/-- `waitForMetal3Controller`: a package variable that no flag sets. -/
def waitForMetal3Controller : Bool := false

/-- `if waitForMetal3Controller { ... waitForAPIs(ctrl.GetConfigOrDie()) ... }`, the poll loop
given `fuel` passes. -/
def apiGate (rt : Runtime) (fuel : Nat) (next : Outcome) : Outcome :=
  if waitForMetal3Controller then
    orExit .getConfigOrDie rt.getConfig "unable to get kubeconfig" [] <|
      match waitForAPIs rt.discovery fuel with
      | (effects, .polling _) => ⟨effects.map .discovery, none⟩
      | (effects, .returned (.error err)) =>
        ⟨effects.map .discovery ++ [.error err "unable to discover required APIs" []], some 1⟩
      | (effects, .returned (.ok ())) => Outcome.after (effects.map .discovery) next
  else next

/-- The user agent `main` sets on the REST configuration. -/
def userAgent : String := "cluster-api-provider-metal3-manager"

/-- `main`, from `logsv1.ValidateAndApply` on; `GetConfigOrDie` logs its own error and exits. -/
def main (rt : Runtime) (reg : CipherRegistry) (flags : Flags) (fuel : Nat) : Outcome :=
  orExit .validateAndApply rt.validateAndApply "unable to start manager" [] <|
  orExit .getConfigOrDie rt.getConfig "unable to get kubeconfig" [] <|
  let built := getTLSOptionOverrideFuncs reg flags.tlsOptions
  Outcome.after (built.log.map .info) <|
  match built.result with
  | .error err =>
    ⟨[.error (err.message rt.printTable) "unable to add TLS settings to the webhook server" []],
      some 1⟩
  | .ok tlsOptionOverrides =>
    let opts := managerOptions flags tlsOptionOverrides
    orExit (.newManager userAgent opts) (rt.newManager opts) "unable to start manager" [] <|
    apiGate rt fuel <|
    Outcome.after
      (if flags.enableBMHNameBasedPreallocation then [.enableBMHNameBasedPreallocation] else []) <|
    setupChecks rt <|
    setupReconcilers rt flags <|
    setupWebhooks rt <|
    Outcome.after [.info "starting manager"] <|
    match rt.start with
    | none => ⟨[.start], none⟩
    | some r => orExit .start r "problem running manager" [] ⟨[], some 0⟩

/-! ## Sequencing -/

section Sequencing

variable {events : List Event} {next : Outcome}

@[simp] theorem Outcome.after_events : (Outcome.after events next).events = events ++ next.events :=
  rfl

@[simp] theorem Outcome.after_exit : (Outcome.after events next).exit = next.exit := rfl

@[simp] theorem Outcome.after_nil : Outcome.after [] next = next := rfl

theorem Outcome.after_after {events' : List Event} :
    Outcome.after events (Outcome.after events' next) = Outcome.after (events ++ events') next := by
  simp [Outcome.after]

variable {call : Event} {msg : String} {keysAndValues : List String}

@[simp] theorem orExit_ok :
    orExit call (.ok ()) msg keysAndValues next = Outcome.after [call] next :=
  rfl

@[simp] theorem orExit_error (err : String) :
    orExit call (.error err) msg keysAndValues next =
      ⟨[call, .error err msg keysAndValues], some 1⟩ := rfl

/-- A checked call that does not end the process with status 1 succeeded, and neither does what
follows it. -/
theorem exit_orExit_ne_one {r : Except String Unit}
    (h : (orExit call r msg keysAndValues next).exit ≠ some 1) :
    r = .ok () ∧ next.exit ≠ some 1 := by
  rcases r with err | ⟨⟨⟩⟩
  · exact absurd rfl h
  · exact ⟨rfl, h⟩

end Sequencing

section Registry

variable {α : Type} {call : α → Event} {r : α → Except String Unit} {msg : String}
  {keysAndValues : α → List String} {next : Outcome}

/-- A registry in which every registration succeeds makes them all, in order. -/
theorem failFast_of_ok {items : List α} (ok : ∀ item ∈ items, r item = .ok ()) :
    failFast call r msg keysAndValues items next = Outcome.after (items.map call) next := by
  induction items with
  | nil => rfl
  | cons item items ih =>
    simp only [failFast, List.foldr_cons] at ih ⊢
    rw [ih fun x hx => ok x (List.mem_cons_of_mem _ hx), ok item (List.mem_cons_self _ _),
      orExit_ok, Outcome.after_after]
    rfl

/-- A registry that does not end the process with status 1 made every registration. -/
theorem exit_failFast_ne_one {items : List α}
    (h : (failFast call r msg keysAndValues items next).exit ≠ some 1) :
    (∀ item ∈ items, r item = .ok ()) ∧ next.exit ≠ some 1 := by
  induction items with
  | nil => exact ⟨nofun, h⟩
  | cons item items ih =>
    obtain ⟨ok, rest⟩ := exit_orExit_ne_one h
    obtain ⟨oks, ended⟩ := ih rest
    exact ⟨List.forall_mem_cons.2 ⟨ok, oks⟩, ended⟩

/-- No manager is built among the events. -/
def Outcome.BuildsNoManager (o : Outcome) : Prop :=
  ∀ agent opts, Event.newManager agent opts ∉ o.events

theorem Outcome.buildsNoManager_after {events : List Event}
    (none : ∀ agent opts, Event.newManager agent opts ∉ events) (rest : next.BuildsNoManager) :
    (Outcome.after events next).BuildsNoManager := by
  intro agent opts mem
  rcases List.mem_append.1 mem with h | h
  · exact none agent opts h
  · exact rest agent opts h

theorem buildsNoManager_orExit {call : Event} {r : Except String Unit} {msg : String}
    {keysAndValues : List String} (other : ∀ agent opts, call ≠ .newManager agent opts)
    (rest : next.BuildsNoManager) : (orExit call r msg keysAndValues next).BuildsNoManager := by
  rcases r with err | ⟨⟨⟩⟩
  · intro agent opts mem
    simp only [orExit_error, List.mem_cons, List.mem_singleton, List.not_mem_nil, or_false] at mem
    rcases mem with h | h
    · exact other agent opts h.symm
    · cases h
  · exact Outcome.buildsNoManager_after
      (by simpa using fun agent opts h => other agent opts h.symm) rest

theorem buildsNoManager_failFast {items : List α}
    (other : ∀ item agent opts, call item ≠ .newManager agent opts)
    (rest : next.BuildsNoManager) :
    (failFast call r msg keysAndValues items next).BuildsNoManager := by
  induction items with
  | nil => exact rest
  | cons item items ih => exact buildsNoManager_orExit (other item) ih

end Registry

/-! ## Failures end the run -/

/-- An error logged by `setupLog.Error`. -/
def Event.isError : Event → Bool
  | .error .. => true
  | _ => false

/-- How a run of `main` ends on a failure: with status 1 its last event is the one error it
logs, and no error comes before; with any other outcome it logs no error at all. -/
def Outcome.FailsLast (o : Outcome) : Prop :=
  (o.exit = some 1 → ∃ pre err msg keysAndValues,
      o.events = pre ++ [.error err msg keysAndValues] ∧ ∀ e ∈ pre, e.isError = false) ∧
    (o.exit ≠ some 1 → ∀ e ∈ o.events, e.isError = false)

section Failures

variable {next : Outcome}

/-- An error logged last, after events that are not errors, with status 1. -/
theorem Outcome.failsLast_error {pre : List Event} {err msg : String}
    {keysAndValues : List String} (quiet : ∀ e ∈ pre, e.isError = false) :
    Outcome.FailsLast ⟨pre ++ [.error err msg keysAndValues], some 1⟩ :=
  And.intro (fun _ => ⟨pre, err, msg, keysAndValues, rfl, quiet⟩) fun ended => absurd rfl ended

/-- No error logged, and a status other than 1. -/
theorem Outcome.failsLast_quiet {o : Outcome} (quiet : ∀ e ∈ o.events, e.isError = false)
    (ended : o.exit ≠ some 1) : o.FailsLast :=
  And.intro (fun failed => absurd failed ended) fun _ => quiet

theorem Outcome.failsLast_after {events : List Event} (quiet : ∀ e ∈ events, e.isError = false)
    (rest : next.FailsLast) : (Outcome.after events next).FailsLast := by
  refine ⟨fun failed => ?_, fun ended e mem => ?_⟩
  · obtain ⟨pre, err, msg, keysAndValues, eq, clean⟩ := rest.1 failed
    refine ⟨events ++ pre, err, msg, keysAndValues, by simp [eq], fun e mem => ?_⟩
    rcases List.mem_append.1 mem with mem | mem
    · exact quiet e mem
    · exact clean e mem
  · rcases List.mem_append.1 mem with mem | mem
    · exact quiet e mem
    · exact rest.2 ended e mem

theorem failsLast_orExit {call : Event} {r : Except String Unit} {msg : String}
    {keysAndValues : List String} (quiet : call.isError = false) (rest : next.FailsLast) :
    (orExit call r msg keysAndValues next).FailsLast := by
  rcases r with err | ⟨⟨⟩⟩
  · exact @Outcome.failsLast_error [call] err msg keysAndValues (by simpa using quiet)
  · exact Outcome.failsLast_after (by simpa using quiet) rest

theorem failsLast_failFast {α : Type} {call : α → Event} {r : α → Except String Unit}
    {msg : String} {keysAndValues : α → List String} {items : List α}
    (quiet : ∀ item, (call item).isError = false) (rest : next.FailsLast) :
    (failFast call r msg keysAndValues items next).FailsLast := by
  induction items with
  | nil => exact rest
  | cons item items ih => exact failsLast_orExit (quiet item) ih

/-- The poll loop's effects are not errors. -/
theorem quiet_discovery (effects : List Effect) :
    ∀ e ∈ effects.map Event.discovery, e.isError = false := fun e mem => by
  obtain ⟨_, _, rfl⟩ := List.mem_map.1 mem
  rfl

/-- The readiness gate keeps it too, whether or not `waitForMetal3Controller` is set: a poll
that has not returned logs no error, and a discovery error is logged last. -/
theorem failsLast_apiGate (rt : Runtime) (fuel : Nat) (rest : next.FailsLast) :
    (apiGate rt fuel next).FailsLast := by
  unfold apiGate
  split
  · refine failsLast_orExit rfl ?_
    split
    · exact Outcome.failsLast_quiet (quiet_discovery _) nofun
    · exact Outcome.failsLast_error (quiet_discovery _)
    · exact Outcome.failsLast_after (quiet_discovery _) rest
  · exact rest

end Failures

/-! ## What a later event says about the calls before it -/

section Reached

variable {next : Outcome} {e : Event}

/-- An event of a checked call is the call, its error, or an event of what follows a success. -/
theorem mem_orExit_cases {call : Event} {r : Except String Unit} {msg : String}
    {keysAndValues : List String} (mem : e ∈ (orExit call r msg keysAndValues next).events) :
    e = call ∨ e.isError = true ∨ r = .ok () ∧ e ∈ next.events := by
  rcases r with err | ⟨⟨⟩⟩
  · simp only [orExit_error, List.mem_cons, List.mem_singleton, List.not_mem_nil, or_false] at mem
    rcases mem with rfl | rfl
    · exact .inl rfl
    · exact .inr (.inl rfl)
  · exact (List.mem_cons.1 mem).imp_right fun reached => .inr ⟨rfl, reached⟩

/-- An event that a checked call does not itself log is reached only through its success. -/
theorem mem_orExit {call : Event} {r : Except String Unit} {msg : String}
    {keysAndValues : List String} (mem : e ∈ (orExit call r msg keysAndValues next).events)
    (other : e ≠ call) (quiet : e.isError = false) : r = .ok () ∧ e ∈ next.events := by
  rcases mem_orExit_cases mem with made | error | reached
  · exact absurd made other
  · rw [quiet] at error
    cases error
  · exact reached

theorem mem_failFast {α : Type} {call : α → Event} {r : α → Except String Unit} {msg : String}
    {keysAndValues : α → List String} {items : List α}
    (mem : e ∈ (failFast call r msg keysAndValues items next).events)
    (other : ∀ item, e ≠ call item) (quiet : e.isError = false) :
    (∀ item ∈ items, r item = .ok ()) ∧ e ∈ next.events := by
  induction items with
  | nil => exact ⟨nofun, mem⟩
  | cons item items ih =>
    obtain ⟨ok, rest⟩ := mem_orExit mem (other item) quiet
    obtain ⟨oks, found⟩ := ih rest
    exact ⟨List.forall_mem_cons.2 ⟨ok, oks⟩, found⟩

/-- An event that the readiness gate does not log is reached only through the gate, whether or
not `waitForMetal3Controller` is set. -/
theorem mem_apiGate {rt : Runtime} {fuel : Nat} (mem : e ∈ (apiGate rt fuel next).events)
    (other : e ≠ .getConfigOrDie) (quiet : e.isError = false)
    (notDiscovery : ∀ effect, e ≠ .discovery effect) : e ∈ next.events := by
  unfold apiGate at mem
  split at mem
  · obtain ⟨-, mem⟩ := mem_orExit mem other quiet
    split at mem
    · obtain ⟨effect, -, rfl⟩ := List.mem_map.1 mem
      exact absurd rfl (notDiscovery effect)
    · rcases List.mem_append.1 mem with mem | mem
      · obtain ⟨effect, -, rfl⟩ := List.mem_map.1 mem
        exact absurd rfl (notDiscovery effect)
      · simp only [List.mem_singleton] at mem
        subst mem
        cases quiet
    · rcases List.mem_append.1 mem with mem | mem
      · obtain ⟨effect, -, rfl⟩ := List.mem_map.1 mem
        exact absurd rfl (notDiscovery effect)
      · exact mem
  · exact mem

end Reached

/-! ## The whole start -/

/-- The readiness gate is switched off: it passes straight on. -/
theorem apiGate_eq (rt : Runtime) (fuel : Nat) (next : Outcome) : apiGate rt fuel next = next :=
  rfl

/-- Every call `main` makes before `mgr.Start` succeeds, and the TLS flags are accepted. -/
def SetUp (rt : Runtime) (reg : CipherRegistry) (flags : Flags) : Prop :=
  rt.validateAndApply = .ok () ∧ rt.getConfig = .ok () ∧
    (∃ ops, (getTLSOptionOverrideFuncs reg flags.tlsOptions).result = .ok ops ∧
      rt.newManager (managerOptions flags ops) = .ok ()) ∧
    rt.addReadyzCheck = .ok () ∧ rt.addHealthzCheck = .ok () ∧
    (∀ setup ∈ reconcilerSetups flags, rt.setupReconciler setup = .ok ()) ∧
    ∀ kind ∈ webhooks, rt.setupWebhook kind = .ok ()

/-- A run that does not end with status 1 got through every call before `mgr.Start`. -/
theorem setUp_of_exit_ne_one {rt : Runtime} {reg : CipherRegistry} {flags : Flags} {fuel : Nat}
    (h : (main rt reg flags fuel).exit ≠ some 1) : SetUp rt reg flags := by
  unfold main at h
  obtain ⟨validated, h⟩ := exit_orExit_ne_one h
  obtain ⟨config, h⟩ := exit_orExit_ne_one h
  rw [Outcome.after_exit] at h
  split at h
  · exact absurd rfl h
  rename_i ops built
  obtain ⟨created, h⟩ := exit_orExit_ne_one h
  rw [apiGate_eq, Outcome.after_exit] at h
  obtain ⟨ready, h⟩ := exit_orExit_ne_one h
  obtain ⟨healthz, h⟩ := exit_orExit_ne_one h
  obtain ⟨reconcilers, h⟩ := exit_failFast_ne_one h
  obtain ⟨hooks, -⟩ := exit_failFast_ne_one h
  exact ⟨validated, config, ⟨ops, built, created⟩, ready, healthz, reconcilers, hooks⟩

/-- How `main` ends, whatever its collaborators answer: with status 0 exactly when every call
before `mgr.Start` succeeds, the TLS flags are accepted and `mgr.Start` returns nil; still running
exactly when all that succeeded and `mgr.Start` has not returned; with status 1 otherwise. -/
theorem main_exit (rt : Runtime) (reg : CipherRegistry) (flags : Flags) (fuel : Nat) :
    ((main rt reg flags fuel).exit = some 0 ↔ SetUp rt reg flags ∧ rt.start = some (.ok ())) ∧
      ((main rt reg flags fuel).exit = none ↔ SetUp rt reg flags ∧ rt.start = none) ∧
      ((main rt reg flags fuel).exit = some 1 ↔
        ¬ SetUp rt reg flags ∨ ∃ err, rt.start = some (.error err)) := by
  by_cases setUp : SetUp rt reg flags
  · obtain ⟨validated, config, ⟨ops, built, created⟩, ready, healthz, reconcilers, hooks⟩ :=
      id setUp
    simp only [main, validated, config, built, created, ready, healthz, orExit_ok, apiGate_eq,
      setupChecks, setupReconcilers, setupWebhooks, failFast_of_ok reconcilers,
      failFast_of_ok hooks, Outcome.after_exit]
    rcases rt.start with _ | err | ⟨⟨⟩⟩ <;> simp [setUp]
  · have failed : (main rt reg flags fuel).exit = some 1 :=
      not_not.1 (mt setUp_of_exit_ne_one setUp)
    simp [failed, setUp]

/-- `main` never goes on after logging an error, whatever its collaborators answer: it exits with
status 1 exactly when it has logged an error, that error is its last event, and it is the only
one. -/
theorem main_failsLast (rt : Runtime) (reg : CipherRegistry) (flags : Flags) (fuel : Nat) :
    (main rt reg flags fuel).FailsLast := by
  unfold main
  refine failsLast_orExit rfl (failsLast_orExit rfl
    (Outcome.failsLast_after (by simp [Event.isError]) ?_))
  split
  · exact Outcome.failsLast_error (List.forall_mem_nil _)
  · refine failsLast_orExit rfl (failsLast_apiGate rt fuel
      (Outcome.failsLast_after (by split <;> simp [Event.isError]) ?_))
    refine failsLast_orExit rfl (failsLast_orExit rfl ?_)
    refine failsLast_failFast (fun _ => rfl) (failsLast_failFast (fun _ => rfl) ?_)
    refine Outcome.failsLast_after (by simp [Event.isError]) ?_
    split
    · exact Outcome.failsLast_quiet (by simp [Event.isError]) nofun
    · exact failsLast_orExit rfl (Outcome.failsLast_quiet (List.forall_mem_nil _) (by decide))

/-- No partial start: `main` calls `mgr.Start` exactly when every call before it has succeeded,
the TLS flags have been accepted, and every reconciler and every webhook has been registered. -/
theorem main_start_iff_setUp (rt : Runtime) (reg : CipherRegistry) (flags : Flags) (fuel : Nat) :
    Event.start ∈ (main rt reg flags fuel).events ↔ SetUp rt reg flags := by
  constructor
  · intro started
    unfold main at started
    obtain ⟨validated, started⟩ := mem_orExit started nofun rfl
    obtain ⟨config, started⟩ := mem_orExit started nofun rfl
    rcases List.mem_append.1 started with logged | started
    · simp at logged
    split at started
    · simp at started
    rename_i ops built
    obtain ⟨created, started⟩ := mem_orExit started nofun rfl
    have started := mem_apiGate started nofun rfl nofun
    rcases List.mem_append.1 started with toggled | started
    · split at toggled <;> simp at toggled
    obtain ⟨ready, started⟩ := mem_orExit started nofun rfl
    obtain ⟨healthz, started⟩ := mem_orExit started nofun rfl
    obtain ⟨reconcilers, started⟩ := mem_failFast started (fun _ => nofun) rfl
    obtain ⟨hooks, -⟩ := mem_failFast started (fun _ => nofun) rfl
    exact ⟨validated, config, ⟨ops, built, created⟩, ready, healthz, reconcilers, hooks⟩
  · rintro ⟨validated, config, ⟨ops, built, created⟩, ready, healthz, reconcilers, hooks⟩
    simp only [main, validated, config, built, created, ready, healthz, orExit_ok, apiGate_eq,
      setupChecks, setupReconcilers, setupWebhooks, failFast_of_ok reconcilers,
      failFast_of_ok hooks]
    rcases rt.start with _ | _ | ⟨⟨⟩⟩ <;> simp [Outcome.after]

/-- Every manager `main` builds gets the user agent of `main` and the options of the flags, with
the closures of a successful `GetTLSOptionOverrideFuncs` as its TLS options: the webhook server is
never configured from TLS flags the builder refuses, and whatever configuration it starts from,
its closures leave it with the range of the flags, never inverted. -/
theorem main_newManager (rt : Runtime) (reg : CipherRegistry) (flags : Flags) (fuel : Nat)
    {agent : String} {opts : ManagerOptions}
    (built : Event.newManager agent opts ∈ (main rt reg flags fuel).events) :
    agent = userAgent ∧
      (∃ ops, (getTLSOptionOverrideFuncs reg flags.tlsOptions).result = .ok ops ∧
        opts = managerOptions flags ops) ∧
      ∀ {α : Type} (cfg : Config α),
        getTLSVersion flags.tlsOptions.tlsMinVersion = .ok (applyAll opts.tlsOpts cfg).minVersion ∧
        getTLSVersion flags.tlsOptions.tlsMaxVersion = .ok (applyAll opts.tlsOpts cfg).maxVersion ∧
        (applyAll opts.tlsOpts cfg).minVersion ≤ (applyAll opts.tlsOpts cfg).maxVersion := by
  suffices made : agent = userAgent ∧
      ∃ ops, (getTLSOptionOverrideFuncs reg flags.tlsOptions).result = .ok ops ∧
        opts = managerOptions flags ops by
    obtain ⟨agent_eq, ops, ok, rfl⟩ := made
    refine ⟨agent_eq, ⟨ops, ok, rfl⟩, fun cfg => ?_⟩
    obtain ⟨lo, hi, hmin, hmax, hle, ⟨-, rfl⟩ | ⟨-, suites, -, rfl⟩⟩ := ok_cases ok
    · exact ⟨hmin, hmax, hle⟩
    · exact ⟨hmin, hmax, hle⟩
  unfold main at built
  obtain ⟨-, built⟩ := mem_orExit built nofun rfl
  obtain ⟨-, built⟩ := mem_orExit built nofun rfl
  rcases List.mem_append.1 built with logged | built
  · simp at logged
  split at built
  · simp at built
  rename_i ops ok
  rcases mem_orExit_cases built with made | error | ⟨-, later⟩
  · cases made
    exact ⟨rfl, ops, ok, rfl⟩
  · cases error
  -- nothing after `ctrl.NewManager` builds another manager
  refine absurd later ((?_ : Outcome.BuildsNoManager _) agent opts)
  refine Outcome.buildsNoManager_after (by split <;> simp) ?_
  refine buildsNoManager_orExit (by simp) (buildsNoManager_orExit (by simp) ?_)
  refine buildsNoManager_failFast (by simp) (buildsNoManager_failFast (by simp) ?_)
  refine Outcome.buildsNoManager_after (by simp) ?_
  split
  · exact fun _ _ h => by simp at h
  · exact buildsNoManager_orExit (by simp) fun _ _ h => nomatch h

/-- A cluster on which every call of `main` succeeds. -/
def healthyRuntime : Runtime where
  validateAndApply := .ok ()
  getConfig := .ok ()
  newManager := fun _ => .ok ()
  discovery := twoFailures
  addReadyzCheck := .ok ()
  addHealthzCheck := .ok ()
  setupReconciler := fun _ => .ok ()
  setupWebhook := fun _ => .ok ()
  start := some (.ok ())
  printTable := fun _ => true

/-- With the default flags on a healthy cluster the manager is built with the default range. -/
theorem main_defaults_newManager :
    Event.newManager userAgent
        (managerOptions Flags.defaults
          [.setMinVersion versionTLS12, .setMaxVersion versionTLS13]) ∈
        (main healthyRuntime emptyRegistry Flags.defaults 0).events ∧
      userAgent = userAgent ∧
      (∃ ops,
        (getTLSOptionOverrideFuncs emptyRegistry Flags.defaults.tlsOptions).result = .ok ops ∧
        managerOptions Flags.defaults [.setMinVersion versionTLS12, .setMaxVersion versionTLS13] =
          managerOptions Flags.defaults ops) ∧
      ∀ {α : Type} (cfg : Config α),
        getTLSVersion Flags.defaults.tlsOptions.tlsMinVersion =
          .ok (applyAll (managerOptions Flags.defaults
            [.setMinVersion versionTLS12, .setMaxVersion versionTLS13]).tlsOpts cfg).minVersion ∧
        getTLSVersion Flags.defaults.tlsOptions.tlsMaxVersion =
          .ok (applyAll (managerOptions Flags.defaults
            [.setMinVersion versionTLS12, .setMaxVersion versionTLS13]).tlsOpts cfg).maxVersion ∧
        (applyAll (managerOptions Flags.defaults
            [.setMinVersion versionTLS12, .setMaxVersion versionTLS13]).tlsOpts cfg).minVersion ≤
          (applyAll (managerOptions Flags.defaults
            [.setMinVersion versionTLS12, .setMaxVersion versionTLS13]).tlsOpts cfg).maxVersion := by
  have built : Event.newManager userAgent
      (managerOptions Flags.defaults [.setMinVersion versionTLS12, .setMaxVersion versionTLS13]) ∈
      (main healthyRuntime emptyRegistry Flags.defaults 0).events := by
    have accepted : getTLSOptionOverrideFuncs emptyRegistry Flags.defaults.tlsOptions =
        ⟨[], .ok [.setMinVersion versionTLS12, .setMaxVersion versionTLS13]⟩ := rfl
    simp [main, healthyRuntime, accepted]
  exact ⟨built, main_newManager _ _ _ _ built⟩

end Capm3

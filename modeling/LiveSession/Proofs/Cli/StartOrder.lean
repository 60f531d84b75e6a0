import LiveSession.Cli.Start
import LiveSession.Proofs.Supervisor.Coherence
/-!
# The order of the start steps

A start runs the configuration check, the integration check, the dependency preflight, the
env-file load and the synthesis of the bridge, each only once those before it have passed, then
patches the project and hands over to the supervisor. `StopsAt` says, step by step and without
reading `prepare`, at which step a start stops and with which error.

Main statement, `start_stops_at_first_failing_step`:

* the steps before the supervisor fail exactly when some step fails, with the error of the first
  failing step, whose kind is the step's (`prepare_error_iff`, `StopsAt.kind_eq`);
* a failed start leaves the project as it was, unless the synthesis failed at one of its own
  writes (`prepare_tree_of_error`): the checks only read, and the synthesis checks everything it
  needs before it first writes;
* missing framework packages are named exactly, in the order the framework lists them, both in
  the list and in the install hint (`prepare_of_missing_packages`);
* a start that the supervisor answers with an error never launched the session
  (`launches_eq_zero_of_failed`).
-/

namespace LiveSession.Supervisor.World

variable {h : Type}

/-- In a coherent run whose first start call failed, the session was never launched: launches
count the calls answered with success, and every later call was refused. -/
theorem Coherent.launches_eq_zero_of_first_failed {w : World h} (hw : w.Coherent)
    {e : SupervisorError} (hfirst : w.starts.head? = some (.failed e)) : w.launches = 0 := by
  obtain ⟨rest, hs⟩ : ∃ rest, w.starts = .failed e :: rest := by
    cases hst : w.starts with
    | nil => simp [hst] at hfirst
    | cons r rest =>
      simp only [hst, List.head?_cons, Option.some.injEq] at hfirst
      exact ⟨rest, by rw [hfirst]⟩
  have hrest := hw.later_refused _ _ hs
  rw [← hw.launches_eq_count, hs, List.count_eq_zero]
  intro hmem
  rcases List.mem_cons.mp hmem with hok | hok
  · cases hok
  · cases hrest _ hok

/-- Sending events keeps a run coherent. -/
theorem Coherent.sendAll {w : World h} (hw : w.Coherent) (env : Env h)
    (events : List Compile.Event) :
    (events.foldl (fun w e => (w.send e).1) w).Coherent := by
  induction events generalizing w with
  | nil => exact hw
  | cons e rest ih => exact ih (@World.Coherent.perform h env w hw (.send e))

/-- A start call keeps a run coherent, whether it claims the run and its watch answers at once,
or it is refused. -/
theorem Coherent.start {w : World h} (hw : w.Coherent) (env : Env h) : (w.start env).Coherent := by
  unfold World.start
  split
  · exact hw.claimStart.answerWatch
  · exact hw.claimStart

end LiveSession.Supervisor.World

namespace LiveSession.Cli

open LiveSession.Config LiveSession.Files LiveSession.Scaffold LiveSession.Supervisor

/-! ### Where a start stops -/

/-- The steps of a start that can refuse it, in the order they run. -/
inductive Step where
  | config
  | integration
  | dependencies
  | envFile
  | synthesis
  deriving DecidableEq, Repr

/-- The kind of the error a step fails with. -/
def Step.kind : Step → String
  | .config => "config"
  | .integration => "unsupported"
  | .dependencies => "preflight"
  | .envFile => "preflight"
  | .synthesis => "synthesis"

variable {t : Tree} {ctx : Context} {c : Config}

/-- The start stops at a step, with an error: the step fails with it and every step before it
passes. -/
inductive StopsAt (t : Tree) (ctx : Context) (c : Config) : Step → SessionError → Prop
  /-- The configuration has error-level issues. -/
  | config {e : SessionError} : checkConfig c = .error e → StopsAt t ctx c .config e
  /-- The integration has no bridge. -/
  | integration : checkConfig c = .ok () → ctx.integration.isSupported = false →
      StopsAt t ctx c .integration
        (.unsupported ("integration `" ++ ctx.integration.label ++ "` is not supported"))
  /-- The working directory or a framework package is missing. -/
  | dependencies {e : PreflightError} : checkConfig c = .ok () →
      ctx.integration.isSupported = true →
      validateDependencies t ctx.workingDirectory ctx.integration = .error e →
      StopsAt t ctx c .dependencies e.toSession
  /-- The env file is missing or does not parse. -/
  | envFile {e : PreflightError} : checkConfig c = .ok () → ctx.integration.isSupported = true →
      validateDependencies t ctx.workingDirectory ctx.integration = .ok () →
      loadOptionalEnvFile t ctx.envFile = .error e → StopsAt t ctx c .envFile e.toSession
  /-- The bridge cannot be synthesized. -/
  | synthesis {env : List (String × String)} {e : SynthesisError} : checkConfig c = .ok () →
      ctx.integration.isSupported = true →
      validateDependencies t ctx.workingDirectory ctx.integration = .ok () →
      loadOptionalEnvFile t ctx.envFile = .ok env → (synthesize t ctx).2 = .error e →
      StopsAt t ctx c .synthesis e.toSession

/-- The configuration check fails only with a configuration error. -/
theorem checkConfig_error_kind {e : SessionError} (h : checkConfig c = .error e) :
    e.kind = "config" := by
  unfold checkConfig at h
  split at h
  · cases h
  · cases h
    rfl

/-- A start that stops at a step fails with an error of that step's kind. -/
theorem StopsAt.kind_eq {s : Step} {e : SessionError} (h : StopsAt t ctx c s e) :
    e.kind = s.kind := by
  cases h with
  | config hc => exact checkConfig_error_kind hc
  | integration => rfl
  | dependencies => rfl
  | envFile => rfl
  | synthesis => rfl

/-! ### What `prepare` does -/

/-- A start that stops at a step fails there with its error, and only the synthesis step has
touched the project by then. -/
theorem prepare_of_stopsAt {s : Step} {e : SessionError} (h : StopsAt t ctx c s e) :
    prepare t ctx c = (if s = .synthesis then (synthesize t ctx).1 else t, .error e) := by
  cases h with
  | config hc => simp [prepare, hc]
  | integration hc hs => simp [prepare, hc, hs]
  | dependencies hc hs hd => simp [prepare, hc, hs, hd]
  | envFile hc hs hd he => simp [prepare, hc, hs, hd, he]
  | synthesis hc hs hd he hsyn =>
    rcases hsyn' : synthesize t ctx with ⟨t', r⟩
    rw [hsyn'] at hsyn
    subst hsyn
    simp [prepare, hc, hs, hd, he, hsyn']

/-- A failed start stopped at some step. The cases follow the steps in the order `prepare`
runs them. -/
theorem stopsAt_of_prepare {e : SessionError} (h : (prepare t ctx c).2 = .error e) :
    ∃ s, StopsAt t ctx c s e := by
  unfold prepare at h
  cases hc : checkConfig c with
  | error e' =>
    simp only [hc, Except.error.injEq] at h
    exact ⟨.config, h ▸ .config hc⟩
  | ok u =>
    cases u
    cases hs : ctx.integration.isSupported with
    | false =>
      simp only [hc, hs, Bool.not_false, if_true, Except.error.injEq] at h
      exact ⟨.integration, h ▸ .integration hc hs⟩
    | true =>
      cases hd : validateDependencies t ctx.workingDirectory ctx.integration with
      | error pe =>
        simp only [hc, hs, hd, Bool.not_true, Bool.false_eq_true, if_false,
          Except.error.injEq] at h
        exact ⟨.dependencies, h ▸ .dependencies hc hs hd⟩
      | ok u' =>
        cases u'
        cases he : loadOptionalEnvFile t ctx.envFile with
        | error pe =>
          simp only [hc, hs, hd, he, Bool.not_true, Bool.false_eq_true, if_false,
            Except.error.injEq] at h
          exact ⟨.envFile, h ▸ .envFile hc hs hd he⟩
        | ok env =>
          rcases hsyn : synthesize t ctx with ⟨t', r⟩
          cases r with
          | error se =>
            simp only [hc, hs, hd, he, hsyn, Bool.not_true, Bool.false_eq_true, if_false,
              Except.error.injEq] at h
            exact ⟨.synthesis, h ▸ .synthesis hc hs hd he (by rw [hsyn])⟩
          | ok rep =>
            simp [hc, hs, hd, he, hsyn] at h

/-- The steps before the supervisor fail exactly when one of them stops the start. -/
theorem prepare_error_iff {e : SessionError} :
    (prepare t ctx c).2 = .error e ↔ ∃ s, StopsAt t ctx c s e :=
  ⟨stopsAt_of_prepare, fun ⟨_, h⟩ => by rw [prepare_of_stopsAt h]⟩

/-- A start that passes every step has patched the project the synthesis wrote. -/
theorem prepare_of_ok {p : Prepared} (h : (prepare t ctx c).2 = .ok p) :
    (∀ s e, ¬ StopsAt t ctx c s e) ∧
    (prepare t ctx c).1 = (patchProject (synthesize t ctx).1 ctx.workingDirectory).1 := by
  refine ⟨fun s e hs => by simp [prepare_of_stopsAt hs] at h, ?_⟩
  unfold prepare at h ⊢
  -- every check passed, since the result is not an error
  cases hc : checkConfig c with
  | error e => simp [hc] at h
  | ok u =>
    cases hs : ctx.integration.isSupported with
    | false => simp [hc, hs] at h
    | true =>
      cases hd : validateDependencies t ctx.workingDirectory ctx.integration with
      | error e => simp [hc, hs, hd] at h
      | ok u' =>
        cases he : loadOptionalEnvFile t ctx.envFile with
        | error e => simp [hc, hs, hd, he] at h
        | ok env =>
          rcases hsyn : synthesize t ctx with ⟨t', r⟩
          cases r with
          | error e => simp [hc, hs, hd, he, hsyn] at h
          | ok rep => simp

/-! ### What a failed start writes -/

/-- A failed write step fails with a write error. -/
theorem writeStep_error {p : String} {r : Except IoError Tree} {e : SynthesisError}
    (h : writeStep p r = .error e) : ∃ p r, e = .write p r := by
  cases r with
  | ok t => cases h
  | error io =>
    cases h
    exact ⟨p, io, rfl⟩

/-- A failed synthesis has written nothing unless it failed at one of its writes: everything it
checks, it checks before its first write. -/
theorem synthesize_tree_of_error {e : SynthesisError} (h : (synthesize t ctx).2 = .error e) :
    (synthesize t ctx).1 = t ∨ ∃ p r, e = .write p r := by
  unfold synthesize at h ⊢
  cases hb : prepareBridge t ctx with
  | error e' => simp
  | ok sb =>
    right
    simp only [hb] at h
    -- past the checks, each failure is one of the writes failing
    split at h
    · next hw => exact Except.error.inj h ▸ writeStep_error hw
    · split at h
      · next hw => exact Except.error.inj h ▸ writeStep_error hw
      · split at h
        · next hw => exact Except.error.inj h ▸ writeStep_error hw
        · split at h
          · split at h
            · next hw => exact Except.error.inj h ▸ writeStep_error hw
            · cases h
          · cases h

/-- **A failed start leaves the project as it was**, unless the synthesis failed at one of its
writes. -/
theorem prepare_tree_of_error {e : SessionError} (h : (prepare t ctx c).2 = .error e) :
    (prepare t ctx c).1 = t ∨ ∃ p r, (synthesize t ctx).2 = .error (.write p r) := by
  obtain ⟨s, hs⟩ := stopsAt_of_prepare h
  rw [prepare_of_stopsAt hs]
  cases hs with
  | synthesis _ _ _ _ hsyn =>
    rcases synthesize_tree_of_error hsyn with hkeep | ⟨p, r, rfl⟩
    · exact .inl hkeep
    · exact .inr ⟨p, r, hsyn⟩
  | _ => exact .inl rfl

/-! ### Missing packages -/

/-- **Missing packages are named exactly.** With a valid configuration, a NestJS project whose
working directory exists and lacks some of the framework's packages fails the preflight with
those packages, in the order the framework lists them, in both the list and the install hint;
nothing is written. -/
theorem prepare_of_missing_packages {missing : List String} (hc : checkConfig c = .ok ())
    (hi : ctx.integration = .nestJs) (hwd : t.isDir ctx.workingDirectory = true)
    (hmissing : missing = ["@nestjs/core", "@nestjs/common"].filter fun p =>
      !t.isDir (Path.join (Path.join ctx.workingDirectory "node_modules") p))
    (hne : missing ≠ []) :
    prepare t ctx c = (t, .error (.preflight ("Missing required NestJS dependencies: " ++
      ", ".intercalate missing ++ ". Please run: npm install " ++ " ".intercalate missing))) := by
  have hpackages : missingPackages t ctx.workingDirectory .nestJs = missing := by
    rw [hmissing]
    rfl
  have hdeps : validateDependencies t ctx.workingDirectory ctx.integration =
      .error (.missingDependencies "NestJS" missing) := by
    rw [hi, validateDependencies, hwd, hpackages]
    cases hm : missing with
    | nil => exact absurd hm hne
    | cons p ps => rfl
  have hstop : StopsAt t ctx c .dependencies
      (PreflightError.missingDependencies "NestJS" missing).toSession :=
    .dependencies hc (by rw [hi]; rfl) hdeps
  rw [prepare_of_stopsAt hstop]
  rfl

/-! ### The supervisor step -/

/-- The run of a start over queued events is coherent. -/
theorem superviseStart_coherent {h : Type} (env : Env h) (events : List Compile.Event)
    (endEvents : Bool) : (superviseStart env events endEvents).Coherent := by
  have hsent := World.Coherent.initial.sendAll env events
  have hended : (if endEvents then
      { events.foldl (fun w e => (w.send e).1) (World.initial : World h) with senderOpen := false }
      else events.foldl (fun w e => (w.send e).1) (World.initial : World h)).Coherent := by
    split
    · exact @World.Coherent.perform h env _ hsent .endEvents
    · exact hsent
  have hstarted := hended.start env
  exact World.Coherent.loopInvariant.expire (World.Coherent.loopInvariant.settle hstarted)

/-- A start the supervisor answers with an error never launched the session. -/
theorem launches_eq_zero_of_failed {h : Type} (env : Env h) (events : List Compile.Event)
    (endEvents : Bool) {e : SessionError}
    (hfailed : startOutcome (superviseStart env events endEvents) = some (.failed e)) :
    (superviseStart env events endEvents).launches = 0 := by
  unfold startOutcome at hfailed
  split at hfailed
  · cases hfailed
  · next se hfirst =>
    exact (superviseStart_coherent env events endEvents).launches_eq_zero_of_first_failed hfirst
  · cases hfailed

/-! ### The start -/

/-- **A start stops at its first failing step.** For every project, context and configuration:
the steps before the supervisor (configuration, integration, dependencies, env file, synthesis)
fail exactly when one of them stops the start, with the error of the step that stopped it,
whose kind is that step's; when none does, the project is patched after the synthesis; a failed
start has changed the project only if the synthesis failed
at one of its writes; missing framework packages are named exactly, in the framework's order, in
the list and in the install hint; and a start the supervisor answers with an error never
launched the session. -/
theorem start_stops_at_first_failing_step (t : Tree) (ctx : Context) (c : Config) :
    (∀ e, (prepare t ctx c).2 = .error e ↔ ∃ s, StopsAt t ctx c s e) ∧
    (∀ s e, StopsAt t ctx c s e → e.kind = s.kind) ∧
    (∀ p, (prepare t ctx c).2 = .ok p →
      (prepare t ctx c).1 = (patchProject (synthesize t ctx).1 ctx.workingDirectory).1) ∧
    (∀ e, (prepare t ctx c).2 = .error e →
      (prepare t ctx c).1 = t ∨ ∃ p r, (synthesize t ctx).2 = .error (.write p r)) ∧
    (∀ missing : List String, checkConfig c = .ok () → ctx.integration = .nestJs →
      t.isDir ctx.workingDirectory = true →
      missing = ["@nestjs/core", "@nestjs/common"].filter (fun p =>
        !t.isDir (Path.join (Path.join ctx.workingDirectory "node_modules") p)) →
      missing ≠ [] →
      prepare t ctx c = (t, .error (.preflight ("Missing required NestJS dependencies: " ++
        ", ".intercalate missing ++ ". Please run: npm install " ++ " ".intercalate missing)))) ∧
    (∀ {h : Type} (env : Env h) (events : List Compile.Event) (endEvents : Bool)
      (e : SessionError), startOutcome (superviseStart env events endEvents) = some (.failed e) →
      (superviseStart env events endEvents).launches = 0) :=
  ⟨fun _ => prepare_error_iff, fun _ _ hs => hs.kind_eq, fun _ h => (prepare_of_ok h).2,
    fun _ h => prepare_tree_of_error h,
    fun _ hc hi hwd hmissing hne => prepare_of_missing_packages hc hi hwd hmissing hne,
    fun env events endEvents _ hfailed => launches_eq_zero_of_failed env events endEvents hfailed⟩

end LiveSession.Cli

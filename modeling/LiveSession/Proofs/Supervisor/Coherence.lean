import LiveSession.Proofs.Supervisor.Loop
/-!
# What holds in every state of a run

`World.Coherent` collects the facts that hold in every state a supervisor's run reaches, for
every list of actions and whatever its collaborators do. They tie the start calls, the calls
waiting for an answer, the event loop, the launch guard and the counters together:

* until a start call claims the run nothing has been asked of anyone, and every call after the
  first is refused;
* a call waiting for the watch compiler or for the loop's reply is the first call, still
  pending, so a reply always lands on the call that claimed the run;
* the artifact is executed only once the guard is claimed, and the session launched only once
  the guard is finished, so each happens at most once;
* each launch answers exactly one start call with success.

The facts read only the run's control (phase, calls, loop, guard and counters), so actions on
the slot, the queue or the clock keep them for free (`Coherent.of_control`). Every other move
has its own lemma, and `Coherent.run` assembles them by induction on the actions.
-/

namespace LiveSession.Supervisor

namespace World

variable {h : Type} {env : Env h}

/-- The facts that hold in every state a run reaches. -/
structure Coherent (w : World h) : Prop where
  /-- Until a start call claims the run, nothing has been asked of anyone. -/
  configuring : w.phase = .configuring →
    w.starts = [] ∧ w.watches = 0 ∧ w.watchCaller = none ∧ w.reply = none ∧ w.loop = .absent
  /-- The watch compiler is asked at most once, and only by a start call. -/
  watches_le : w.watches ≤ 1
  watches_of_starts : w.starts = [] → w.watches = 0
  /-- Every start call after the first is refused. -/
  later_refused : ∀ r rest, w.starts = r :: rest → ∀ s ∈ rest, s = .failed .alreadyStarted
  /-- The first call is refused exactly when it did not claim the run. -/
  first_refused : ∀ r rest, w.starts = r :: rest → (r = .failed .alreadyStarted ↔ w.watches = 0)
  /-- A call waiting for the loop's reply is the first call, still pending. -/
  reply_first : ∀ i, w.reply = some i → i = 0 ∧ ∃ rest, w.starts = .pending :: rest
  /-- A call waiting for the watch compiler is the first call, still pending, with no loop yet
  and no reply owed. -/
  watchCaller_first : ∀ i, w.watchCaller = some i →
    i = 0 ∧ (∃ rest, w.starts = .pending :: rest) ∧ w.reply = none ∧ w.loop = .absent
  /-- The artifact is executed at most once, and only once the guard is claimed. -/
  executions_le : w.executions ≤ 1
  executions_of_guard : w.guard = .notStarted → w.executions = 0
  /-- The session is launched at most once, and only once the guard is finished. -/
  launches_le : w.launches ≤ 1
  launches_of_guard : w.guard ≠ .launched → w.launches = 0
  /-- A loop waiting for the application holds the claimed guard and owes the first call its
  reply. -/
  awaiting : ∀ d, w.loop = .awaitingApp d → w.guard = .launching ∧ w.reply = some 0
  /-- So does a receiving loop that has not claimed the guard yet. -/
  receiving : w.loop = .receiving → w.guard = .notStarted → w.reply = some 0
  /-- Each launch answers one start call with success, and nothing else does. -/
  launches_eq_count : w.starts.count .ok = w.launches

namespace Coherent

/-- A fresh run is coherent. -/
theorem initial : (initial : World h).Coherent where
  configuring := fun _ => ⟨rfl, rfl, rfl, rfl, rfl⟩
  watches_le := by simp [World.initial]
  watches_of_starts := fun _ => rfl
  later_refused := by simp [World.initial]
  first_refused := by simp [World.initial]
  reply_first := by simp [World.initial]
  watchCaller_first := by simp [World.initial]
  executions_le := by simp [World.initial]
  executions_of_guard := fun _ => rfl
  launches_le := by simp [World.initial]
  launches_of_guard := fun _ => rfl
  awaiting := by simp [World.initial]
  receiving := by simp [World.initial]
  launches_eq_count := rfl

/-- The facts read only the run's control: a run that agrees with a coherent one on phase,
calls, waiting calls, loop, guard and counters is coherent too. -/
theorem of_control {w w' : World h} (hw : w.Coherent) (hphase : w'.phase = w.phase)
    (hstarts : w'.starts = w.starts) (hwatches : w'.watches = w.watches)
    (hcaller : w'.watchCaller = w.watchCaller) (hreply : w'.reply = w.reply)
    (hloop : w'.loop = w.loop) (hguard : w'.guard = w.guard)
    (hexec : w'.executions = w.executions) (hlaunch : w'.launches = w.launches) :
    w'.Coherent := by
  obtain ⟨h1, h2, h3, h4, h5, h6, h7, h8, h9, h10, h11, h12, h13, h14⟩ := hw
  constructor <;> simp only [hphase, hstarts, hwatches, hcaller, hreply, hloop, hguard, hexec,
    hlaunch] <;> assumption

/-- Moving to the terminated phase keeps the facts. -/
theorem terminate {w : World h} (hw : w.Coherent) : { w with phase := .terminated }.Coherent :=
  { hw with configuring := by simp }

/-- Tearing down keeps the facts. -/
theorem teardown {w : World h} (hw : w.Coherent) : w.teardown.Coherent :=
  hw.terminate.of_control rfl rfl rfl rfl rfl rfl rfl rfl rfl

/-- A run with a loop is past configuring and has no call waiting for the watch compiler. -/
theorem of_loop {w : World h} (hw : w.Coherent) (hloop : w.loop ≠ .absent) :
    w.phase ≠ .configuring ∧ w.watchCaller = none := by
  refine ⟨fun hc => hloop (hw.configuring hc).2.2.2.2, ?_⟩
  cases hc : w.watchCaller with
  | none => rfl
  | some i => exact absurd (hw.watchCaller_first i hc).2.2.2 hloop

/-- A first call still pending was not refused, so it claimed the run and asked the watch
compiler. -/
theorem watches_of_pending {w : World h} (hw : w.Coherent) {rest : List StartResult}
    (hs : w.starts = .pending :: rest) : w.watches ≠ 0 :=
  fun h0 => by simpa using (hw.first_refused _ _ hs).2 h0

/-- A call waiting for the loop's reply is the first call, pending; it claimed the run, so the
watch compiler has been asked and no call waits on it any more. -/
theorem of_reply {w : World h} (hw : w.Coherent) {i : Nat} (hr : w.reply = some i) :
    i = 0 ∧ ∃ rest, w.starts = .pending :: rest ∧ w.watches ≠ 0 ∧ w.watchCaller = none := by
  obtain ⟨rfl, rest, hs⟩ := hw.reply_first i hr
  refine ⟨rfl, rest, hs, hw.watches_of_pending hs, ?_⟩
  cases hc : w.watchCaller with
  | none => rfl
  | some j => simp [(hw.watchCaller_first j hc).2.2.1] at hr

/-- Ending a loop keeps the facts. -/
theorem endLoop {w : World h} (hw : w.Coherent) (hloop : w.loop ≠ .absent) :
    w.endLoop.Coherent := by
  obtain ⟨hphase, hcaller⟩ := hw.of_loop hloop
  exact
    { hw with
      configuring := fun hc => absurd hc hphase
      watchCaller_first := by simp [World.endLoop, hcaller]
      awaiting := by simp [World.endLoop]
      receiving := by simp [World.endLoop] }

/-- Failing the call that waits on a finished loop keeps the facts. -/
theorem replyFailed {w : World h} (hw : w.Coherent) (hfin : w.loop = .finished)
    {e : SupervisorError} (he : e ≠ .alreadyStarted) : (w.replyWith (.failed e)).Coherent := by
  cases hr : w.reply with
  | none =>
    exact hw.of_control (by simp) (by simp [hr]) (by simp) (by simp) (by simp [hr]) (by simp)
      (by simp) (by simp) (by simp)
  | some i =>
    obtain ⟨rfl, rest, hs, hwatch, hcaller⟩ := hw.of_reply hr
    simp only [replyWith_eq, hr, hs, Option.map_some, Option.getD_some, List.set_cons_zero]
    exact
      { hw with
        configuring := fun hc => by simp [(hw.configuring hc).2.2.2.1] at hr
        watches_of_starts := by simp
        later_refused := by simpa using hw.later_refused _ _ hs
        first_refused := by simpa [he] using hwatch
        reply_first := by simp
        watchCaller_first := by simp [hcaller]
        awaiting := by simp [hfin]
        receiving := by simp [hfin]
        launches_eq_count := by simpa [hs] using hw.launches_eq_count }

/-- Replying and ending the loop touch different parts of the run. -/
theorem replyWith_endLoop (w : World h) (r : StartResult) :
    (w.replyWith r).endLoop = w.endLoop.replyWith r := by
  simp [World.endLoop]

/-- Ending a loop with a failure for the call waiting on it keeps the facts. -/
theorem replyEnd {w : World h} (hw : w.Coherent) (hloop : w.loop ≠ .absent)
    {e : SupervisorError} (he : e ≠ .alreadyStarted) :
    ((w.replyWith (.failed e)).endLoop).Coherent := by
  rw [replyWith_endLoop]
  exact (hw.endLoop hloop).replyFailed rfl he

/-- The loop stopping keeps the facts. -/
theorem finishLoop {w : World h} (hw : w.Coherent) (hloop : w.loop ≠ .absent) :
    w.finishLoop.Coherent :=
  (hw.replyEnd hloop (by simp)).terminate

/-- A failed first launch keeps the facts. -/
theorem failLaunch {w : World h} (hw : w.Coherent) (hloop : w.loop ≠ .absent) (e : LaunchError) :
    (w.failLaunch e).Coherent :=
  hw.teardown.replyEnd hloop (by simp)

/-- The launch completing keeps the facts, when it is the first and the first call waits for
it. -/
theorem completeLaunch {w : World h} (hw : w.Coherent) (hg : w.guard ≠ .launched)
    (hr : w.reply = some 0) (app : Session.LiveApp h) : (w.completeLaunch app).Coherent := by
  obtain ⟨-, rest, hs, hwatch, hcaller⟩ := hw.of_reply hr
  have hlaunch := hw.launches_of_guard hg
  have hcount := hw.launches_eq_count
  simp only [World.completeLaunch, replyWith_eq, hr, hs, Option.map_some, Option.getD_some,
    List.set_cons_zero]
  exact
    { configuring := by simp
      watches_le := hw.watches_le
      watches_of_starts := by simp
      later_refused := by simpa using hw.later_refused _ _ hs
      first_refused := by simpa using hwatch
      reply_first := by simp
      watchCaller_first := by simp [hcaller]
      executions_le := hw.executions_le
      executions_of_guard := by simp [LaunchState.finish]
      launches_le := by simp [hlaunch]
      launches_of_guard := by simp [LaunchState.finish]
      awaiting := by simp
      receiving := by simp [LaunchState.finish]
      launches_eq_count := by simp_all }

/-- Claiming the launch guard from a receiving loop keeps the facts, and the first call still
waits for the reply. -/
theorem claimGuard {w : World h} (hw : w.Coherent) (hl : w.loop = .receiving)
    (hg : w.guard = .notStarted) :
    { w with guard := .launching, executions := w.executions + 1 }.Coherent ∧ w.reply = some 0 := by
  have hexec := hw.executions_of_guard hg
  refine ⟨{ hw with
    executions_le := by simp [hexec]
    executions_of_guard := by simp
    launches_of_guard := fun _ => hw.launches_of_guard (by simp [hg])
    awaiting := by simp [hl]
    receiving := by simp }, hw.receiving hl hg⟩

/-- The first launch keeps the facts, whichever way it goes. -/
theorem beginLaunch {w : World h} (hw : w.Coherent) (hl : w.loop = .receiving)
    (hg : w.guard = .notStarted) : (w.beginLaunch env).Coherent := by
  obtain ⟨hc, hr⟩ := hw.claimGuard hl hg
  obtain ⟨hphase, hcaller⟩ := hw.of_loop (by simp [hl])
  rcases beginLaunch_cases w with ⟨e, -, heq⟩ | ⟨p, app, -, -, heq⟩ | ⟨-, -, heq⟩ <;> rw [heq]
  · exact hc.failLaunch (by simp [hl]) e
  · have hx : Coherent
        { w with guard := .launching, executions := w.executions + 1, writer := true, slot := some app } :=
      hc.of_control rfl rfl rfl rfl rfl rfl rfl rfl rfl
    exact hx.completeLaunch (by simp) hr app
  · exact
      { hc with
        configuring := fun hc' => absurd hc' hphase
        watchCaller_first := by simp [hcaller]
        awaiting := fun _ _ => ⟨rfl, hr⟩
        receiving := by simp }

/-- Handling an event keeps the facts. -/
theorem handle {w : World h} (hw : w.Coherent) (hl : w.loop = .receiving) (e : Compile.Event) :
    (w.handle env e).Coherent := by
  have hloop : w.loop ≠ .absent := by simp [hl]
  cases e with
  | fatal m => exact hw.teardown.replyEnd hloop (by simp)
  | diagnostics es ws => exact hw
  | succeeded hash ws =>
    simp only [World.handle]
    split
    · next hg => exact hw.beginLaunch hl hg
    · exact hw.of_control rfl rfl rfl rfl rfl rfl rfl rfl rfl

/-- Every step of the loop keeps the facts. -/
theorem loopStep {w w' : World h} (hw : w.Coherent) (hs : w.loopStep env = some w') :
    w'.Coherent := by
  rcases loopStep_cases hs with ⟨hl, -, rfl⟩ | ⟨hl, -, e, rest, -, rfl⟩ |
      ⟨hl, -, -, -, rfl⟩ | ⟨d, app, hl, -, rfl⟩
  · exact hw.finishLoop (by simp [hl])
  · have hq : Coherent { w with queue := rest } := hw.of_control rfl rfl rfl rfl rfl rfl rfl rfl rfl
    exact hq.handle hl e
  · exact hw.finishLoop (by simp [hl])
  · obtain ⟨hg, hr⟩ := hw.awaiting d hl
    exact hw.completeLaunch (by simp [hg]) hr app

/-- The facts are an invariant of the event loop. -/
theorem loopInvariant : LoopInvariant env (Coherent (h := h)) where
  step hw hs := hw.loopStep hs
  deadline := fun {w d} hw hl => by
    have hn : Coherent { w with now := max w.now d } :=
      hw.of_control rfl rfl rfl rfl rfl rfl rfl rfl rfl
    exact hn.failLaunch (by simp [hl]) _
  time hw _ := hw.of_control rfl rfl rfl rfl rfl rfl rfl rfl rfl

/-- A start call keeps the facts: the first one claims the run, every later one is refused. -/
theorem claimStart {w : World h} (hw : w.Coherent) : w.claimStart.Coherent := by
  unfold World.claimStart
  split
  · next hphase =>
    have hkeep : ∀ r rest, w.starts = r :: rest →
        w.starts ++ [.failed .alreadyStarted] = r :: (rest ++ [.failed .alreadyStarted]) := by
      intro r rest hs
      simp [hs]
    exact
      { hw with
        configuring := fun hc => absurd hc hphase
        watches_of_starts := by simp
        later_refused := by
          intro r rest hs
          cases hst : w.starts with
          | nil => simp_all
          | cons r₀ rest₀ =>
            simp only [hst, List.cons_append, List.cons.injEq] at hs
            obtain ⟨rfl, rfl⟩ := hs
            intro s hmem
            rcases List.mem_append.mp hmem with hmem | hmem
            · exact hw.later_refused _ _ hst s hmem
            · simpa using hmem
        first_refused := by
          intro r rest hs
          cases hst : w.starts with
          | nil => simp_all [hw.watches_of_starts hst]
          | cons r₀ rest₀ =>
            simp only [hst, List.cons_append, List.cons.injEq] at hs
            obtain ⟨rfl, rfl⟩ := hs
            exact hw.first_refused _ _ hst
        reply_first := by
          intro i hr
          obtain ⟨rfl, rest, hs⟩ := hw.reply_first i hr
          exact ⟨rfl, _, hkeep _ _ hs⟩
        watchCaller_first := by
          intro i hc
          obtain ⟨rfl, ⟨rest, hs⟩, hr, hl⟩ := hw.watchCaller_first i hc
          exact ⟨rfl, ⟨_, hkeep _ _ hs⟩, hr, hl⟩
        launches_eq_count := by simpa using hw.launches_eq_count }
  · next hphase =>
    obtain ⟨hs, hwatch, hcaller, hr, hl⟩ := hw.configuring (Decidable.of_not_not hphase)
    have hlaunch : w.launches = 0 := by simpa [hs] using hw.launches_eq_count.symm
    exact
      { configuring := by simp
        watches_le := by simp [hwatch]
        watches_of_starts := by simp
        later_refused := by simp [hs]
        first_refused := by simp [hs, hwatch]
        reply_first := by simp [hr]
        watchCaller_first := by simp [hs, hr, hl]
        executions_le := hw.executions_le
        executions_of_guard := hw.executions_of_guard
        launches_le := hw.launches_le
        launches_of_guard := hw.launches_of_guard
        awaiting := by simp [hl]
        receiving := by simp [hl]
        launches_eq_count := by simp [hs, hlaunch] }

/-- The watch compiler answering the waiting call keeps the facts: a failure ends the call, a
success hands the events to a new loop that owes the call its reply. -/
theorem answerWatch {w : World h} (hw : w.Coherent) : (w.answerWatch env).Coherent := by
  unfold World.answerWatch
  cases hc : w.watchCaller with
  | none => exact hw
  | some i =>
    obtain ⟨rfl, ⟨rest, hs⟩, hr, hl⟩ := hw.watchCaller_first i hc
    have hphase : w.phase ≠ .configuring := fun h' => by simp [(hw.configuring h').2.2.1] at hc
    have hwatch := hw.watches_of_pending hs
    dsimp only
    cases env.watchFailure with
    | some m =>
      simp only [World.resolve, hs, List.set_cons_zero]
      exact
        { configuring := by simp
          watches_le := hw.watches_le
          watches_of_starts := by simp
          later_refused := by simpa using hw.later_refused _ _ hs
          first_refused := by simpa using hwatch
          reply_first := by simp [hr]
          watchCaller_first := by simp
          executions_le := hw.executions_le
          executions_of_guard := hw.executions_of_guard
          launches_le := hw.launches_le
          launches_of_guard := hw.launches_of_guard
          awaiting := by simp [hl]
          receiving := by simp [hl]
          launches_eq_count := by simpa [hs] using hw.launches_eq_count }
    | none =>
      exact
        { hw with
          configuring := fun h' => absurd h' hphase
          reply_first := by simp [hs]
          watchCaller_first := by simp
          awaiting := by simp
          receiving := fun _ _ => rfl }

/-- **Every action keeps the facts.** -/
theorem perform {w : World h} (hw : w.Coherent) (a : Action h) : (w.perform env a).Coherent := by
  cases a with
  | claimStart => exact hw.claimStart
  | answerWatch => exact hw.answerWatch
  | send e =>
    rcases send_cases w e with ⟨-, heq, -⟩ | ⟨-, heq⟩ <;> simp only [World.perform, heq]
    · exact hw.of_control rfl rfl rfl rfl rfl rfl rfl rfl rfl
    · exact hw
  | endEvents => exact hw.of_control rfl rfl rfl rfl rfl rfl rfl rfl rfl
  | close => exact hw.terminate.of_control rfl rfl rfl rfl rfl rfl rfl rfl rfl
  | runnerStopped =>
    simp only [World.perform, World.finishClose]
    split
    · exact hw.of_control rfl rfl rfl rfl rfl rfl rfl rfl rfl
    · exact hw
  | takeLate =>
    rcases @takeLate_cases _ env w with ⟨hl, -, e, rest, -, heq⟩ | heq <;> rw [World.perform, heq]
    · have hq : Coherent { w with queue := rest } :=
        hw.of_control rfl rfl rfl rfl rfl rfl rfl rfl rfl
      exact hq.handle hl e
    · exact hw
  | wait ms => exact loopInvariant.advance hw _
  | publish app =>
    simp only [World.perform]
    split
    · exact hw.of_control rfl rfl rfl rfl rfl rfl rfl rfl rfl
    · exact hw
  | clear =>
    simp only [World.perform]
    split
    · exact hw.of_control rfl rfl rfl rfl rfl rfl rfl rfl rfl
    · exact hw

/-- **Every run keeps the facts.** -/
theorem run {w : World h} (hw : w.Coherent) (acts : List (Action h)) :
    (w.run env acts).Coherent :=
  run_induction (fun hw (_ : True) => hw.perform _) hw fun _ _ => trivial

end Coherent

/-- Every state a run reaches from a fresh supervisor is coherent. -/
theorem coherent_run (env : Env h) (acts : List (Action h)) :
    ((initial : World h).run env acts).Coherent :=
  Coherent.initial.run acts

end World

end LiveSession.Supervisor

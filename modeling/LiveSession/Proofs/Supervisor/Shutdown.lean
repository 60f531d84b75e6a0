import LiveSession.Proofs.Supervisor.Coherence
/-!
# A closed run stays closed

A run's phases go configuring, watching, launched, terminated, and should never go back: once
the run is closed or terminated, its phase should not change again and the session should not
be launched afterwards. A close call marks the run terminated at once, but it reaches the
watch's cancel token only after the runner has shut down, and it never reaches the first
launch. So the phase stays terminated only for closes that begin when neither can still launch:
no start call waits for the watch compiler, and a loop that still runs has launched already
(`World.SafeToClose`). Otherwise three interleavings relaunch a terminated run:

* a close while the start call waits for the watch: the call is then given a watch that nothing
  cancels, and its first clean build launches;
* a close while the first launch waits for the application: the runner, still shutting down,
  publishes it, and the waiting launch completes;
* a close with a clean build queued: the loop takes it, before or after the watch is cancelled,
  since its select prefers neither branch.

`World.Orderly` is what keeps the phases moving forward: a terminated run has no call waiting
for the watch, and a loop it still has has launched already, so nothing the loop can do
launches again. Each loop step, and each action (a close only when it is safe), keeps it and
moves the run forward (`World.Forward`).

## Main results

* `World.Orderly.perform`, `World.Orderly.run`: every action, and so every run whose closes are
  all safe, keeps a run orderly and moves it forward.
* `closed_run_stays_closed`: in such runs the phase only moves forward, and from the first close
  or termination on the run stays terminated and launches nothing more.
* `early_close_relaunches`: each of the three early closes takes a terminated run back to
  launched.
-/

namespace LiveSession.Supervisor

/-- The order of the phases of a run. -/
def Phase.rank : Phase → Nat
  | .configuring => 0
  | .watching => 1
  | .launched => 2
  | .terminated => 3

theorem Phase.rank_le_launched {p : Phase} (hp : p ≠ .terminated) :
    p.rank ≤ Phase.launched.rank := by
  cases p <;> simp_all [Phase.rank]

/-- A loop that can still move: it waits for events or for the application. -/
def LoopState.running : LoopState → Bool
  | .receiving | .awaitingApp _ => true
  | .absent | .finished => false

namespace World

variable {h : Type} {env : Env h}

/-! ### Runs whose closes are safe -/

/-- Whether an action begins a close. -/
def Action.isClose : Action h → Bool
  | .close => true
  | _ => false

/-- A close may begin without the run being launched again: no start call waits for the watch
compiler, and a loop that still runs has launched already. -/
def SafeToClose (w : World h) : Prop :=
  w.watchCaller = none ∧ (w.loop.running = true → w.guard = .launched)

instance (w : World h) : Decidable w.SafeToClose :=
  inferInstanceAs (Decidable (_ ∧ _))

/-- Every close of a run begins when it is safe to. -/
def ClosesSafely (env : Env h) : World h → List (Action h) → Prop
  | _, [] => True
  | w, a :: rest =>
    (a.isClose = true → w.SafeToClose) ∧ ClosesSafely env (w.perform env a) rest

instance decClosesSafely (env : Env h) : ∀ w acts, Decidable (ClosesSafely env w acts)
  | _, [] => isTrue trivial
  | w, a :: rest =>
    have := decClosesSafely env (w.perform env a) rest
    inferInstanceAs (Decidable ((a.isClose = true → w.SafeToClose) ∧ _))

theorem closesSafely_append {w : World h} {pre post : List (Action h)} :
    ClosesSafely env w (pre ++ post) ↔
      ClosesSafely env w pre ∧ ClosesSafely env (w.run env pre) post := by
  induction pre generalizing w with
  | nil => simp [ClosesSafely, World.run]
  | cons a rest ih => simp [ClosesSafely, World.run, ih, and_assoc]

/-! ### Moving forward -/

/-- `w'` is no earlier than `w` in the order of phases, and if `w` is terminated, `w'` still is
and has launched nothing more. -/
structure Forward (w w' : World h) : Prop where
  rank_le : w.phase.rank ≤ w'.phase.rank
  terminated : w.phase = .terminated → w'.phase = .terminated ∧ w'.launches = w.launches

namespace Forward

theorem refl (w : World h) : Forward w w := ⟨Nat.le_refl _, fun hp => ⟨hp, rfl⟩⟩

theorem trans {w₁ w₂ w₃ : World h} (h₁ : Forward w₁ w₂) (h₂ : Forward w₂ w₃) :
    Forward w₁ w₃ where
  rank_le := Nat.le_trans h₁.rank_le h₂.rank_le
  terminated hp := by
    obtain ⟨hp₂, hl₂⟩ := h₁.terminated hp
    obtain ⟨hp₃, hl₃⟩ := h₂.terminated hp₂
    exact ⟨hp₃, hl₃.trans hl₂⟩

/-- Keeping the phase and the launches is forward. -/
theorem of_eq {w w' : World h} (hp : w'.phase = w.phase) (hl : w'.launches = w.launches) :
    Forward w w' where
  rank_le := Nat.le_of_eq (congrArg Phase.rank hp.symm)
  terminated h' := ⟨hp.trans h', hl⟩

/-- Terminating without a launch is forward. -/
theorem of_terminated {w w' : World h} (hp : w'.phase = .terminated)
    (hl : w'.launches = w.launches) : Forward w w' where
  rank_le := by rw [hp]; cases w.phase <;> simp [Phase.rank]
  terminated _ := ⟨hp, hl⟩

/-- Launching a run that is not terminated is forward. -/
theorem of_launched {w w' : World h} (hw : w.phase ≠ .terminated) (hp : w'.phase = .launched) :
    Forward w w' where
  rank_le := by rw [hp]; exact Phase.rank_le_launched hw
  terminated h' := absurd h' hw

end Forward

/-! ### Orderly runs -/

/-- What keeps a run's phases moving forward, besides coherence: a terminated run has no call
waiting for the watch, and a loop it still has has launched already. -/
structure Orderly (w : World h) : Prop where
  coherent : w.Coherent
  terminated : w.phase = .terminated →
    w.watchCaller = none ∧ (w.loop.running = true → w.guard = .launched)

namespace Orderly

variable {w : World h}

theorem initial : (initial : World h).Orderly where
  coherent := Coherent.initial
  terminated := by simp [World.initial]

/-- A coherent run that is not terminated is orderly. -/
theorem of_live (hc : w.Coherent) (hp : w.phase ≠ .terminated) : w.Orderly :=
  ⟨hc, fun h' => absurd h' hp⟩

/-- Orderliness reads only the phase, the watch caller, the loop and the guard. -/
theorem frame {w' : World h} (hw : w.Orderly) (hc : w'.Coherent) (hp : w'.phase = w.phase)
    (hcaller : w'.watchCaller = w.watchCaller) (hl : w'.loop = w.loop)
    (hg : w'.guard = w.guard) : w'.Orderly :=
  ⟨hc, fun h' => by rw [hcaller, hl, hg]; exact hw.terminated (hp ▸ h')⟩

/-- A terminated run's loop, if it still runs, has launched, so it waits for no application and
takes a clean build only as a rebuild. -/
theorem phase_ne_of_not_launched (hw : w.Orderly) (hl : w.loop.running = true)
    (hg : w.guard ≠ .launched) : w.phase ≠ .terminated :=
  fun hp => hg ((hw.terminated hp).2 hl)

/-! ### The loop keeps a run orderly -/

/-- A run whose loop has ended, with no call waiting for the watch, is orderly. -/
theorem ended (hc : w.Coherent) (hl : w.loop = .finished) (hcaller : w.watchCaller = none) :
    w.Orderly :=
  ⟨hc, fun _ => ⟨hcaller, by simp [hl, LoopState.running]⟩⟩

/-- The loop stopping leaves a terminated run with no loop that could move. -/
theorem finishLoop (hc : w.finishLoop.Coherent) (hcaller : w.watchCaller = none) :
    w.finishLoop.Orderly ∧ Forward w w.finishLoop :=
  ⟨ended hc rfl (by simp [World.finishLoop, World.endLoop, hcaller]),
    Forward.of_terminated rfl (by simp [World.finishLoop, World.endLoop])⟩

/-- Tearing down and ending the loop, with `r` for the waiting call, leaves a terminated run
with no loop that could move. -/
theorem teardownEnd (r : StartResult) (hc : (w.teardown.replyWith r).endLoop.Coherent)
    (hcaller : w.watchCaller = none) :
    (w.teardown.replyWith r).endLoop.Orderly ∧ Forward w (w.teardown.replyWith r).endLoop :=
  ⟨ended hc rfl (by simp [World.teardown, World.endLoop, hcaller]),
    Forward.of_terminated (by simp [World.teardown, World.endLoop])
      (by simp [World.teardown, World.endLoop])⟩

/-- A failed first launch leaves a terminated run with no loop that could move. -/
theorem failLaunch (e : LaunchError) (hc : (w.failLaunch e).Coherent)
    (hcaller : w.watchCaller = none) : (w.failLaunch e).Orderly ∧ Forward w (w.failLaunch e) :=
  teardownEnd _ hc hcaller

/-- The first launch completing in a run that is not terminated launches it. -/
theorem completeLaunch (app : Session.LiveApp h) (hc : (w.completeLaunch app).Coherent)
    (hp : w.phase ≠ .terminated) :
    (w.completeLaunch app).Orderly ∧ Forward w (w.completeLaunch app) :=
  ⟨of_live hc (by simp [World.completeLaunch]),
    Forward.of_launched hp (by simp [World.completeLaunch])⟩

/-- **Handling an event keeps a run orderly and moves it forward.** A fatal event or a failed
launch terminates the run and ends the loop. A clean build begins the first launch only before
the guard is claimed, which a terminated run's loop is past; later ones mark a rebuild. -/
theorem handle (hw : w.Orderly) (hl : w.loop = .receiving) (e : Compile.Event) :
    (w.handle env e).Orderly ∧ Forward w (w.handle env e) := by
  have hc : (w.handle env e).Coherent := hw.coherent.handle hl e
  have hrun : w.loop.running = true := by simp [hl, LoopState.running]
  have hcaller : w.watchCaller = none := (hw.coherent.of_loop (by simp [hl])).2
  cases e with
  | fatal m => exact teardownEnd _ hc hcaller
  | diagnostics es ws => exact ⟨hw, Forward.refl w⟩
  | succeeded hash ws =>
    simp only [World.handle] at hc ⊢
    by_cases hg : w.guard = .notStarted
    · rw [if_pos hg] at hc ⊢
      have hp : w.phase ≠ .terminated := hw.phase_ne_of_not_launched hrun (by simp [hg])
      -- the first clean build: the launch fails, completes, or waits for the application
      rcases @beginLaunch_cases h env w with
          ⟨e, -, heq⟩ | ⟨p, app, -, -, heq⟩ | ⟨-, -, heq⟩ <;>
        rw [heq] at hc ⊢
      · obtain ⟨ho, hf⟩ := failLaunch e hc hcaller
        exact ⟨ho, hf.1, hf.2⟩
      · obtain ⟨ho, hf⟩ := completeLaunch app hc hp
        exact ⟨ho, hf.1, hf.2⟩
      · exact ⟨of_live hc hp, Forward.of_eq rfl rfl⟩
    · rw [if_neg hg] at hc ⊢
      exact ⟨hw.frame hc rfl rfl rfl rfl, Forward.of_eq rfl rfl⟩

/-- **Every step of the loop keeps a run orderly and moves it forward.** The launch completes
only for a loop awaiting the application, which holds the guard claimed and not finished, so
the run is not terminated. -/
theorem loopStep (hw : w.Orderly) {w' : World h} (hs : w.loopStep env = some w') :
    w'.Orderly ∧ Forward w w' := by
  have hc : w'.Coherent := hw.coherent.loopStep hs
  rcases loopStep_cases hs with ⟨hl, -, rfl⟩ | ⟨hl, -, e, rest, -, rfl⟩ |
      ⟨hl, -, -, -, rfl⟩ | ⟨d, app, hl, -, rfl⟩
  · exact finishLoop hc (hw.coherent.of_loop (by simp [hl])).2
  · have hq : Orderly { w with queue := rest } :=
      hw.frame (hw.coherent.of_control rfl rfl rfl rfl rfl rfl rfl rfl rfl) rfl rfl rfl rfl
    obtain ⟨ho, hf⟩ := hq.handle hl e
    exact ⟨ho, hf.1, hf.2⟩
  · exact finishLoop hc (hw.coherent.of_loop (by simp [hl])).2
  · have hp : w.phase ≠ .terminated :=
      hw.phase_ne_of_not_launched (by simp [hl, LoopState.running])
        (by simp [(hw.coherent.awaiting d hl).1])
    exact completeLaunch app hc hp

/-- Being orderly and forward of a given run is kept by the loop. -/
theorem loopInvariant (w₀ : World h) :
    LoopInvariant env (fun w => w.Orderly ∧ Forward w₀ w) where
  step := fun ⟨hw, hf⟩ hs => by
    obtain ⟨hw', hf'⟩ := hw.loopStep hs
    exact ⟨hw', hf.trans hf'⟩
  deadline := fun {w d} ⟨hw, hf⟩ hl => by
    have hc := (@Coherent.loopInvariant h env).deadline hw.coherent hl
    obtain ⟨hw', hf'⟩ := failLaunch _ hc (hw.coherent.of_loop (by simp [hl])).2
    exact ⟨hw', hf.trans ⟨hf'.1, hf'.2⟩⟩
  time := fun ⟨hw, hf⟩ _ =>
    ⟨hw.frame (hw.coherent.of_control rfl rfl rfl rfl rfl rfl rfl rfl rfl) rfl rfl rfl rfl,
      hf.1, hf.2⟩

/-! ### Actions keep a run orderly -/

/-- **A close that begins when it is safe to keeps a run orderly and moves it forward**: the run
is terminated with no call waiting for the watch, and a loop it still has has launched. -/
theorem beginClose (hw : w.Orderly) (hsafe : w.SafeToClose) :
    w.beginClose.Orderly ∧ Forward w w.beginClose :=
  ⟨⟨hw.coherent.terminate.of_control rfl rfl rfl rfl rfl rfl rfl rfl rfl, fun _ => hsafe⟩,
    Forward.of_terminated rfl rfl⟩

/-- The runner stopping cancels the watch and hands over the loop's handle, which no fact reads. -/
theorem finishClose (hw : w.Orderly) : w.finishClose.Orderly ∧ Forward w w.finishClose := by
  unfold World.finishClose
  split
  · exact ⟨hw.frame (hw.coherent.of_control rfl rfl rfl rfl rfl rfl rfl rfl rfl) rfl rfl rfl rfl,
      Forward.of_eq rfl rfl⟩
  · exact ⟨hw, Forward.refl w⟩

/-- A cancelled loop taking a queued event handles it like any other. -/
theorem takeLate (hw : w.Orderly) : (w.takeLate env).Orderly ∧ Forward w (w.takeLate env) := by
  rcases @takeLate_cases _ env w with ⟨hl, -, e, rest, -, heq⟩ | heq <;> rw [heq]
  · have hq : Orderly { w with queue := rest } :=
      hw.frame (hw.coherent.of_control rfl rfl rfl rfl rfl rfl rfl rfl rfl) rfl rfl rfl rfl
    obtain ⟨ho, hf⟩ := hq.handle hl e
    exact ⟨ho, hf.1, hf.2⟩
  · exact ⟨hw, Forward.refl w⟩

/-- A start call keeps a run orderly and moves it forward: the first one moves configuring to
watching, and every later one changes nothing but the calls. -/
theorem claimStart (hw : w.Orderly) : w.claimStart.Orderly ∧ Forward w w.claimStart := by
  have hc : w.claimStart.Coherent := hw.coherent.claimStart
  by_cases hp : w.phase = .configuring
  · have hr : w.claimStart.phase = .watching := by simp [World.claimStart, hp]
    exact ⟨of_live hc (by simp [hr]), ⟨by simp [hr, hp, Phase.rank], by simp [hp]⟩⟩
  · have heq : w.claimStart = { w with starts := w.starts ++ [.failed .alreadyStarted] } := by
      simp [World.claimStart, hp]
    rw [heq] at hc ⊢
    exact ⟨hw.frame hc rfl rfl rfl rfl, Forward.of_eq rfl rfl⟩

/-- The watch compiler answering keeps a run orderly and moves it forward: a failure terminates
the run before any loop exists, and a success starts a loop in a run that a waiting call kept
from being terminated. -/
theorem answerWatch (hw : w.Orderly) :
    (w.answerWatch env).Orderly ∧ Forward w (w.answerWatch env) := by
  have hc : (w.answerWatch env).Coherent := hw.coherent.answerWatch
  cases hcw : w.watchCaller with
  | none =>
    have heq : w.answerWatch env = w := by simp [World.answerWatch, hcw]
    rw [heq]
    exact ⟨hw, Forward.refl w⟩
  | some i =>
    have hl := (hw.coherent.watchCaller_first i hcw).2.2.2
    have hp : w.phase ≠ .terminated := fun hp => by simp [(hw.terminated hp).1] at hcw
    cases hf : env.watchFailure with
    | some m =>
      have hr : (w.answerWatch env).phase = .terminated ∧ (w.answerWatch env).loop = .absent ∧
          (w.answerWatch env).watchCaller = none ∧ (w.answerWatch env).launches = w.launches := by
        simp [World.answerWatch, World.resolve, hcw, hf, hl]
      obtain ⟨hp', hl', hwc, hla⟩ := hr
      exact ⟨⟨hc, fun _ => ⟨hwc, by simp [hl', LoopState.running]⟩⟩,
        Forward.of_terminated hp' hla⟩
    | none =>
      have hr : (w.answerWatch env).phase = w.phase ∧
          (w.answerWatch env).launches = w.launches := by
        simp [World.answerWatch, hcw, hf]
      exact ⟨of_live hc (by rw [hr.1]; exact hp), Forward.of_eq hr.1 hr.2⟩

/-- **Every action keeps a run orderly and moves it forward**, a close when it is safe. Sends,
the end of the events and the runner's writer touch nothing the facts read, and time passing
runs the loop. -/
theorem perform (hw : w.Orderly) (a : Action h) (ha : a.isClose = true → w.SafeToClose) :
    (w.perform env a).Orderly ∧ Forward w (w.perform env a) := by
  have hc : (w.perform env a).Coherent := hw.coherent.perform a
  have hkeep : (w.perform env a).phase = w.phase → (w.perform env a).watchCaller = w.watchCaller →
      (w.perform env a).loop = w.loop → (w.perform env a).guard = w.guard →
      (w.perform env a).launches = w.launches →
      (w.perform env a).Orderly ∧ Forward w (w.perform env a) :=
    fun hp hcw hl hg hla => ⟨hw.frame hc hp hcw hl hg, Forward.of_eq hp hla⟩
  cases a with
  | claimStart => exact hw.claimStart
  | answerWatch => exact hw.answerWatch
  | send e =>
    rcases send_cases w e with ⟨-, hs, -⟩ | ⟨-, hs⟩ <;>
      exact hkeep (by simp [World.perform, hs]) (by simp [World.perform, hs])
        (by simp [World.perform, hs]) (by simp [World.perform, hs]) (by simp [World.perform, hs])
  | endEvents => exact hkeep rfl rfl rfl rfl rfl
  | close => exact hw.beginClose (ha rfl)
  | runnerStopped => exact hw.finishClose
  | takeLate => exact hw.takeLate
  | wait ms => exact (loopInvariant w).advance ⟨hw, Forward.refl w⟩ _
  | publish app =>
    cases hwr : w.writer <;>
      exact hkeep (by simp [World.perform, hwr]) (by simp [World.perform, hwr])
        (by simp [World.perform, hwr]) (by simp [World.perform, hwr]) (by simp [World.perform, hwr])
  | clear =>
    cases hwr : w.writer <;>
      exact hkeep (by simp [World.perform, hwr]) (by simp [World.perform, hwr])
        (by simp [World.perform, hwr]) (by simp [World.perform, hwr]) (by simp [World.perform, hwr])

/-- **Every run whose closes are all safe keeps a run orderly and moves it forward.** -/
theorem run (hw : w.Orderly) {acts : List (Action h)} (hacts : ClosesSafely env w acts) :
    (w.run env acts).Orderly ∧ Forward w (w.run env acts) := by
  induction acts generalizing w with
  | nil => exact ⟨hw, Forward.refl w⟩
  | cons a rest ih =>
    obtain ⟨ha, hrest⟩ := hacts
    obtain ⟨hw₁, hf₁⟩ := hw.perform a ha
    obtain ⟨hw₂, hf₂⟩ := ih hw₁ hrest
    exact ⟨hw₂, hf₁.trans hf₂⟩

/-- In such a run, once a close has begun the run is terminated. -/
theorem terminated_of_close (hw : w.Orderly) {acts : List (Action h)}
    (hacts : ClosesSafely env w acts) (hmem : Action.close ∈ acts) :
    (w.run env acts).phase = .terminated := by
  obtain ⟨s, t, rfl⟩ := List.append_of_mem hmem
  have hsplit := closesSafely_append.mp hacts
  obtain ⟨hw₁, -⟩ := hw.run hsplit.1
  obtain ⟨hw₂, -⟩ := hw₁.beginClose (hsplit.2.1 rfl)
  obtain ⟨-, hf⟩ := hw₂.run hsplit.2.2
  rw [run_append]
  exact (hf.terminated rfl).1

end Orderly

end World

/-- **A closed run stays closed**, as long as every close begins when it is safe to: no start
call waits for the watch compiler, and a loop that still runs has launched already. Split a run
from a fresh supervisor anywhere: the phase after the second part is no earlier than after the
first; if the first part ended terminated, the second keeps it terminated and launches the
session no more; and if a close began in the first part, it ended terminated. -/
theorem closed_run_stays_closed {h : Type} (env : Env h) (pre post : List (World.Action h))
    (hacts : World.ClosesSafely env World.initial (pre ++ post)) :
    let w := (World.initial : World h).run env pre
    let w' := w.run env post
    w.phase.rank ≤ w'.phase.rank ∧
      (w.phase = .terminated → w'.phase = .terminated ∧ w'.launches = w.launches) ∧
      (World.Action.close ∈ pre → w.phase = .terminated) := by
  intro w w'
  have hsplit := World.closesSafely_append.mp hacts
  obtain ⟨hw, -⟩ := World.Orderly.initial.run hsplit.1
  obtain ⟨-, hf⟩ := hw.run hsplit.2
  exact ⟨hf.rank_le, hf.terminated, World.Orderly.initial.terminated_of_close hsplit.1⟩

/-- A run closed after its launch, with a rebuild queued: while the runner shuts down it
publishes a new generation and another build arrives, and after the watch is cancelled the loop
still takes the queued build. -/
theorem closed_run_stays_closed_after_launch :
    let env : Env Unit := ⟨1000, "/p/.nirvana/hmrEntryBundle.js", none, .ok none⟩
    let pre : List (World.Action Unit) :=
      [.claimStart, .answerWatch, .send (.succeeded none []), .wait 10,
        .publish ⟨1, "AppModule", ()⟩, .wait 0, .send (.succeeded none []), .close]
    let post : List (World.Action Unit) :=
      [.publish ⟨2, "AppModule", ()⟩, .send (.succeeded none []), .runnerStopped, .takeLate,
        .wait 10]
    World.ClosesSafely env World.initial (pre ++ post) ∧
      let w := (World.initial : World Unit).run env pre
      let w' := w.run env post
      w.phase.rank ≤ w'.phase.rank ∧
        (w.phase = .terminated → w'.phase = .terminated ∧ w'.launches = w.launches) ∧
        (World.Action.close ∈ pre → w.phase = .terminated) :=
  ⟨by decide, closed_run_stays_closed _ _ _ (by decide)⟩

/-- **An early close does not stay closed.** Each run below closes, is terminated, and is then
launched once more: a close while the start call waits for the watch, which it cannot cancel
yet; a close while the first launch waits for the application, which the runner publishes
while it shuts down; and a close with a clean build queued, which the loop takes after the
watch is cancelled. -/
theorem early_close_relaunches :
    let env : Env Unit :=
      ⟨1000, "/p/.nirvana/hmrEntryBundle.js", none, .ok (some ⟨1, "AppModule", ()⟩)⟩
    let waiting : Env Unit := ⟨1000, "/p/.nirvana/hmrEntryBundle.js", none, .ok none⟩
    let relaunches (env : Env Unit) (pre post : List (World.Action Unit)) : Prop :=
      let w := (World.initial : World Unit).run env pre
      let w' := w.run env post
      w.phase = .terminated ∧ w'.phase = .launched ∧ w'.launches = w.launches + 1
    relaunches env [.claimStart, .close] [.answerWatch, .send (.succeeded none []), .wait 10] ∧
      relaunches waiting [.claimStart, .answerWatch, .send (.succeeded none []), .wait 10, .close]
        [.publish ⟨1, "AppModule", ()⟩, .wait 0] ∧
      relaunches env [.claimStart, .answerWatch, .send (.succeeded none []), .close]
        [.runnerStopped, .takeLate] := by
  decide

end LiveSession.Supervisor

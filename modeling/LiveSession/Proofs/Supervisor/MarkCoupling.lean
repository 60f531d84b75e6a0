import Mathlib.Data.List.Induction
import LiveSession.Proofs.Supervisor.ReloadRange
/-!
# The reload mark stays coupled

`status` reads the generation a pending rebuild started from, `markRebuild` writes the generation
expected next, and the first launch writes the expected generation alone. The two stay coupled:
in every state of every run whose published generations stay below the largest, a rebuild
pending from `s` expects `s + 1` (`World.MarkCoupled`). No rebuild is pending before the launch
guard is claimed or while the loop waits for the application, which is what lets the launch set
the expected generation without breaking the coupling.

The status then follows the expected generation once the mark was last written with no rebuild
pending: each such write expects the generation in the slot at that moment (`World.Fresh`), so
the mark never expects more than a generation the slot has shown (`World.expected_le_shown`).
While the slot's generation never falls along the run, the status is reloading exactly when the
slot is below the expected generation. A generation published onto an emptied slot below the
one shown before breaks that: the status is ready with the slot below the expected generation.

## Main results

* `World.MarkCoupled.run`: every action keeps the coupling.
* `World.expected_le_shown`: while launched with no rebuild pending, the mark expects at most a
  generation the slot held in some state of the run so far.
* `reload_status_tracks_expected`: the coupling in every reachable state, and, while the slot's
  generation never falls, the status read off the slot and the expected generation.
* `status_ready_below_expected_after_clear`: a run whose slot never falls while it stays
  populated, yet shows a generation below the expected one with the status ready.
-/

namespace LiveSession.Supervisor

open LiveSession.Session

namespace World

variable {h : Type} {env : Env h}

/-- The reload mark is coupled: a rebuild pending from `s` expects `s + 1`; no rebuild is
pending before the launch guard is claimed or while the loop waits for the application; and the
application in the slot is below the largest generation, so one more does not wrap. -/
structure MarkCoupled (w : World h) : Prop where
  expected_of_pending : ∀ s, w.reload.pendingFrom = some s → w.reload.expected = s + 1
  unmarked_of_notStarted : w.guard = .notStarted → w.reload.pendingFrom = none
  unmarked_of_awaiting : ∀ d, w.loop = .awaitingApp d → w.reload.pendingFrom = none
  slot_below : ∀ app, w.slot = some app → app.generation + 1 < generationModulus

namespace MarkCoupled

variable {w : World h}

/-- A fresh run is coupled: nothing is pending and the slot is empty. -/
theorem initial : (initial : World h).MarkCoupled where
  expected_of_pending s hs := by
    have hnone : (World.initial : World h).reload.pendingFrom = none := rfl
    rw [hnone] at hs
    cases hs
  unmarked_of_notStarted _ := rfl
  unmarked_of_awaiting := by simp [World.initial]
  slot_below := by simp [World.initial]

/-- The coupling reads the mark, whether the guard is unclaimed, whether the loop waits for the
application, and the slot: a move that keeps the mark, claims no guard back, starts no wait and
leaves the slot below the largest generation keeps it. -/
theorem of_control (hw : w.MarkCoupled) {w' : World h} (hreload : w'.reload = w.reload)
    (hguard : w'.guard = .notStarted → w.guard = .notStarted)
    (hloop : ∀ d, w'.loop = .awaitingApp d → w.loop = .awaitingApp d)
    (hslot : ∀ app, w'.slot = some app → app.generation + 1 < generationModulus) :
    w'.MarkCoupled where
  expected_of_pending s hs := by
    rw [hreload] at hs ⊢
    exact hw.expected_of_pending s hs
  unmarked_of_notStarted hg := by
    rw [hreload]
    exact hw.unmarked_of_notStarted (hguard hg)
  unmarked_of_awaiting d hd := by
    rw [hreload]
    exact hw.unmarked_of_awaiting d (hloop d hd)
  slot_below := hslot

/-- Tearing down empties the slot and touches nothing else the coupling reads. -/
theorem teardown (hw : w.MarkCoupled) : w.teardown.MarkCoupled :=
  hw.of_control rfl id (fun _ hd => hd) (by simp [World.teardown])

/-- Replying to the waiting call keeps the coupling. -/
theorem replyWith (hw : w.MarkCoupled) (r : StartResult) : (w.replyWith r).MarkCoupled :=
  hw.of_control (by simp) (by simp) (by simp) (by simpa using hw.slot_below)

/-- Ending the loop keeps the coupling. -/
theorem endLoop (hw : w.MarkCoupled) : w.endLoop.MarkCoupled :=
  hw.of_control rfl id (by simp [World.endLoop]) hw.slot_below

/-- A failed first launch keeps the coupling. -/
theorem failLaunch (hw : w.MarkCoupled) (e : LaunchError) : (w.failLaunch e).MarkCoupled :=
  (hw.teardown.replyWith _).endLoop

/-- The loop stopping keeps the coupling. -/
theorem finishLoop (hw : w.MarkCoupled) : w.finishLoop.MarkCoupled :=
  hw.of_control (by simp [World.finishLoop, World.endLoop]) (by simp [World.finishLoop, World.endLoop])
    (by simp [World.finishLoop, World.endLoop])
    (by simpa [World.finishLoop, World.endLoop] using hw.slot_below)

/-- **The launch writes the expected generation alone**, which keeps the coupling because no
rebuild is pending when it does. -/
theorem completeLaunch (hw : w.MarkCoupled) (hp : w.reload.pendingFrom = none) (app : LiveApp h) :
    (w.completeLaunch app).MarkCoupled where
  expected_of_pending s hs := by simp [World.completeLaunch, hp] at hs
  unmarked_of_notStarted := by simp [World.completeLaunch, LaunchState.finish]
  unmarked_of_awaiting := by simp [World.completeLaunch]
  slot_below := by simpa [World.completeLaunch] using hw.slot_below

/-- **A rebuild keeps the coupling** once the guard is claimed: the slot's generation is below
the largest, so a rebuild left pending expects the one after it. -/
theorem markRebuild (hw : w.MarkCoupled) (hg : w.guard ≠ .notStarted) (hl : w.loop = .receiving) :
    { w with reload := w.reload.markRebuild w.generation }.MarkCoupled := by
  have hcur : w.generation + 1 < generationModulus := by
    cases hs : w.slot with
    | none => simp [World.generation, hs, generationModulus]
    | some app =>
      rw [generation_of_slot hs]
      exact hw.slot_below app hs
  refine ⟨?_, fun hn => absurd hn hg, fun d hd => by simp [hl] at hd, hw.slot_below⟩
  intro s hs
  rcases w.reload.markRebuild_in_range hcur with hm | hm
  · simp [hm] at hs
  · simp only [hm, Option.some.injEq] at hs ⊢
    rw [hs]

/-- The first launch keeps the coupling, whichever way it goes, when the application executing
the artifact publishes stays below the largest generation. -/
theorem beginLaunch (hw : w.MarkCoupled)
    (hexec : ∀ app, env.execute = .ok (some app) → app.generation + 1 < generationModulus)
    (hg : w.guard = .notStarted) : (w.beginLaunch env).MarkCoupled := by
  have hp := hw.unmarked_of_notStarted hg
  rcases beginLaunch_cases w with ⟨e, -, heq⟩ | ⟨p, app, hx, happ, heq⟩ | ⟨-, -, heq⟩ <;>
    rw [heq]
  · have hc : MarkCoupled { w with guard := .launching, executions := w.executions + 1 } :=
      hw.of_control rfl (by simp) (fun _ hd => hd) hw.slot_below
    exact hc.failLaunch e
  · -- the application comes from this execution or was already in the slot
    have hbound : app.generation + 1 < generationModulus := by
      cases p with
      | some a =>
        obtain rfl : a = app := by simpa using happ
        exact hexec a hx
      | none => exact hw.slot_below app (by simpa using happ)
    have hc : MarkCoupled
        { w with guard := .launching, executions := w.executions + 1, writer := true,
                 slot := some app } :=
      hw.of_control rfl (by simp) (fun _ hd => hd) (by simpa using hbound)
    exact hc.completeLaunch hp app
  · exact ⟨by simpa using hw.expected_of_pending, by simp, fun _ _ => hp, hw.slot_below⟩

/-- Handling an event keeps the coupling. -/
theorem handle (hw : w.MarkCoupled)
    (hexec : ∀ app, env.execute = .ok (some app) → app.generation + 1 < generationModulus)
    (hl : w.loop = .receiving) (e : Compile.Event) : (w.handle env e).MarkCoupled := by
  cases e with
  | fatal m => exact (hw.teardown.replyWith _).endLoop
  | diagnostics es ws => exact hw
  | succeeded hash ws =>
    simp only [World.handle]
    split
    · next hg => exact hw.beginLaunch hexec hg
    · next hg => exact hw.markRebuild hg hl

/-- **The coupling is an invariant of the event loop.** -/
theorem loopInvariant
    (hexec : ∀ app, env.execute = .ok (some app) → app.generation + 1 < generationModulus) :
    LoopInvariant env (MarkCoupled (h := h)) where
  step := by
    intro w w' hw hs
    rcases loopStep_cases hs with ⟨-, -, rfl⟩ | ⟨hl, -, e, rest, -, rfl⟩ |
        ⟨-, -, -, -, rfl⟩ | ⟨d, app, hl, -, rfl⟩
    · exact hw.finishLoop
    · have hq : MarkCoupled { w with queue := rest } :=
        hw.of_control rfl id (fun _ hd => hd) hw.slot_below
      exact hq.handle hexec hl e
    · exact hw.finishLoop
    · exact hw.completeLaunch (hw.unmarked_of_awaiting d hl) app
  deadline := by
    intro w d hw _
    have hn : MarkCoupled { w with now := max w.now d } :=
      hw.of_control rfl id (fun _ hd => hd) hw.slot_below
    exact hn.failLaunch _
  time := by
    intro w t hw _
    exact hw.of_control rfl id (fun _ hd => hd) hw.slot_below

/-- **Every action keeps the coupling**, when what it publishes stays below the largest
generation. -/
theorem perform (hw : w.MarkCoupled)
    (hexec : ∀ app, env.execute = .ok (some app) → app.generation + 1 < generationModulus)
    {a : Action h} (ha : ∀ app, a = .publish app → app.generation + 1 < generationModulus) :
    (w.perform env a).MarkCoupled := by
  have hkeep : ∀ {w' : World h}, w'.reload = w.reload → w'.guard = w.guard → w'.loop = w.loop →
      w'.slot = w.slot → w'.MarkCoupled := by
    intro w' hr hg hl hs
    exact hw.of_control hr (fun h' => hg ▸ h') (fun d hd => hl ▸ hd)
      (fun app happ => hw.slot_below app (hs ▸ happ))
  cases a with
  | claimStart =>
    show w.claimStart.MarkCoupled
    unfold World.claimStart
    split
    · exact hkeep rfl rfl rfl rfl
    · exact hkeep rfl rfl rfl rfl
  | answerWatch =>
    show (w.answerWatch env).MarkCoupled
    unfold World.answerWatch
    split
    · exact hw
    · split
      · exact hkeep rfl rfl rfl rfl
      · exact hw.of_control rfl id (by simp) hw.slot_below
  | send e =>
    rcases send_cases w e with ⟨-, hsend, -⟩ | ⟨-, hsend⟩
    · simp only [World.perform, hsend]
      exact hkeep rfl rfl rfl rfl
    · simp only [World.perform, hsend]
      exact hw
  | endEvents => exact hkeep rfl rfl rfl rfl
  | close => exact hw.of_control rfl id (fun _ hd => hd) (by simp [World.perform, World.beginClose])
  | runnerStopped =>
    simp only [World.perform, World.finishClose]
    split
    · exact hkeep rfl rfl rfl rfl
    · exact hw
  | takeLate =>
    rcases @takeLate_cases _ env w with ⟨hl, -, e, rest, -, heq⟩ | heq <;> rw [World.perform, heq]
    · have hq : MarkCoupled { w with queue := rest } :=
        hw.of_control rfl id (fun _ hd => hd) hw.slot_below
      exact hq.handle hexec hl e
    · exact hw
  | wait ms => exact (loopInvariant hexec).advance hw _
  | publish app =>
    simp only [World.perform]
    split
    · exact hw.of_control rfl id (fun _ hd => hd) (by simpa using ha app rfl)
    · exact hw
  | clear =>
    simp only [World.perform]
    split
    · exact hw.of_control rfl id (fun _ hd => hd) (by simp)
    · exact hw

/-- **Every run keeps the coupling** whose publications stay below the largest generation. -/
theorem run (hw : w.MarkCoupled)
    (hexec : ∀ app, env.execute = .ok (some app) → app.generation + 1 < generationModulus)
    {acts : List (Action h)}
    (hpub : ∀ app, .publish app ∈ acts → app.generation + 1 < generationModulus) :
    (w.run env acts).MarkCoupled :=
  run_induction (fun hw ha => hw.perform hexec ha) hw
    fun a ha app (h' : a = .publish app) => hpub app (h' ▸ ha)

end MarkCoupled

/-! ### The mark never expects more than the slot has shown -/

/-- The mark was last written with the generation in the slot: while launched with no rebuild
pending, the slot holds an application at or above the expected generation. -/
def Fresh (w : World h) : Prop :=
  w.phase = .launched → w.reload.pendingFrom = none →
    ∃ app, w.slot = some app ∧ w.reload.expected ≤ app.generation

/-- Outside the launched phase there is nothing to check. -/
theorem fresh_of_phase_ne {w : World h} (hp : w.phase ≠ .launched) : w.Fresh :=
  fun hl => absurd hl hp

/-- Freshness reads only the mark, the phase and the slot. -/
theorem Fresh.congr {w w' : World h} (hw : w.Fresh) (hr : w'.reload = w.reload)
    (hp : w'.phase = w.phase) (hs : w'.slot = w.slot) : w'.Fresh := by
  intro hl hn
  rw [hp] at hl
  rw [hr] at hn ⊢
  rw [hs]
  exact hw hl hn

/-- A launch completing writes the mark fresh: it expects the application in the slot. -/
theorem fresh_completeLaunch {w : World h} {app : LiveApp h} (hs : w.slot = some app) :
    (w.completeLaunch app).Fresh :=
  fun _ _ => ⟨app, by simpa [World.completeLaunch] using hs, by simp [World.completeLaunch]⟩

/-- A rebuild writes the mark fresh: found swapped in, it expects the generation in the slot,
which an empty slot, at generation zero, never is; otherwise it is pending. -/
theorem fresh_markRebuild (w : World h) :
    ({ w with reload := w.reload.markRebuild w.generation } : World h).Fresh := by
  intro _ hn
  rcases Nat.lt_or_ge w.reload.expected w.generation with hlt | hle
  · cases hs : w.slot with
    | none => simp [World.generation, hs] at hlt
    | some app =>
      refine ⟨app, rfl, ?_⟩
      show (w.reload.markRebuild w.generation).expected ≤ app.generation
      exact Nat.le_of_eq (by rw [ReloadMark.markRebuild_of_lt hlt, generation_of_slot hs])
  · simp [ReloadMark.markRebuild_of_le hle] at hn

/-- Handling an event leaves the mark, the phase and the slot as they were, or writes the mark
fresh. -/
theorem handle_keeps_or_fresh (w : World h) (e : Compile.Event) :
    ((w.handle env e).reload = w.reload ∧ (w.handle env e).phase = w.phase ∧
      (w.handle env e).slot = w.slot) ∨ (w.handle env e).Fresh := by
  cases e with
  | fatal m => exact .inr (fresh_of_phase_ne (by simp [World.handle, World.teardown,
      World.endLoop]))
  | diagnostics es ws => exact .inl ⟨rfl, rfl, rfl⟩
  | succeeded hash ws =>
    simp only [World.handle]
    split
    · rcases @beginLaunch_cases _ env w with ⟨e, -, heq⟩ | ⟨p, app, -, -, heq⟩ | ⟨-, -, heq⟩ <;>
        rw [heq]
      · exact .inr (fresh_of_phase_ne (by simp [World.failLaunch, World.teardown,
          World.endLoop]))
      · exact .inr (fresh_completeLaunch rfl)
      · exact .inl ⟨rfl, rfl, rfl⟩
    · exact .inr (fresh_markRebuild _)

/-- **Each step of the loop** leaves the mark, the phase and the slot as they were, or writes
the mark fresh. -/
theorem loopStep_keeps_or_fresh {w w' : World h} (hs : w.loopStep env = some w') :
    (w'.reload = w.reload ∧ w'.phase = w.phase ∧ w'.slot = w.slot) ∨ w'.Fresh := by
  rcases loopStep_cases hs with ⟨-, -, rfl⟩ | ⟨-, -, e, rest, -, rfl⟩ |
      ⟨-, -, -, -, rfl⟩ | ⟨d, app, -, hslot, rfl⟩
  · exact .inr (fresh_of_phase_ne (by simp [World.finishLoop, World.endLoop]))
  · exact handle_keeps_or_fresh _ e
  · exact .inr (fresh_of_phase_ne (by simp [World.finishLoop, World.endLoop]))
  · exact .inr (fresh_completeLaunch hslot)

/-- From a given state, the loop keeps the mark, the phase and the slot as they were, or writes
the mark fresh. -/
theorem keepsOrFresh_loopInvariant (w₀ : World h) :
    LoopInvariant env fun w =>
      (w.reload = w₀.reload ∧ w.phase = w₀.phase ∧ w.slot = w₀.slot) ∨ w.Fresh where
  step := by
    intro w w' hw hs
    rcases loopStep_keeps_or_fresh hs with ⟨hr, hp, hsl⟩ | hf
    · rcases hw with ⟨hr₀, hp₀, hs₀⟩ | hf₀
      · exact .inl ⟨hr.trans hr₀, hp.trans hp₀, hsl.trans hs₀⟩
      · exact .inr (hf₀.congr hr hp hsl)
    · exact .inr hf
  deadline := by
    intro w d _ _
    exact .inr (fresh_of_phase_ne (by simp [World.failLaunch, World.teardown, World.endLoop]))
  time := by
    intro w t hw _
    rcases hw with ⟨hr₀, hp₀, hs₀⟩ | hf₀
    · exact .inl ⟨hr₀, hp₀, hs₀⟩
    · exact .inr (hf₀.congr rfl rfl rfl)

/-- A start call keeps the mark and launches nothing. -/
theorem claimStart_keepsMark (w : World h) :
    w.claimStart.reload = w.reload ∧ (w.claimStart.phase = .launched → w.phase = .launched) := by
  by_cases hc : w.phase ≠ .configuring
  · simp [World.claimStart, hc]
  · simp [World.claimStart, hc]

/-- The watch compiler answering keeps the mark and launches nothing. -/
theorem answerWatch_keepsMark (w : World h) :
    (w.answerWatch env).reload = w.reload ∧
      ((w.answerWatch env).phase = .launched → w.phase = .launched) := by
  unfold World.answerWatch
  rcases w.watchCaller with _ | i
  · exact ⟨rfl, id⟩
  · rcases env.watchFailure with _ | m
    · exact ⟨rfl, id⟩
    · simp [World.resolve]

/-- **Each action** keeps the mark and leaves the run launched only if it was, or writes the
mark fresh. -/
theorem perform_keeps_or_fresh (w : World h) (a : Action h) :
    ((w.perform env a).reload = w.reload ∧
      ((w.perform env a).phase = .launched → w.phase = .launched)) ∨ (w.perform env a).Fresh := by
  have hloop := @keepsOrFresh_loopInvariant h env w
  cases a with
  | claimStart => exact .inl (claimStart_keepsMark w)
  | answerWatch => exact .inl (answerWatch_keepsMark w)
  | send e =>
    have hperf : w.perform env (.send e) = (w.send e).1 := rfl
    rcases send_cases w e with ⟨-, hsend, -⟩ | ⟨-, hsend⟩
    · rw [hperf, hsend]
      exact .inl ⟨rfl, id⟩
    · rw [hperf, hsend]
      exact .inl ⟨rfl, id⟩
  | endEvents => exact .inl ⟨rfl, id⟩
  | close => exact .inr (fresh_of_phase_ne (by simp [World.perform, World.beginClose]))
  | runnerStopped =>
    simp only [World.perform, World.finishClose]
    split <;> exact .inl ⟨rfl, id⟩
  | takeLate =>
    rcases @takeLate_cases _ env w with ⟨-, -, e, rest, -, heq⟩ | heq <;> rw [World.perform, heq]
    · rcases handle_keeps_or_fresh { w with queue := rest } e with ⟨hr, hp, -⟩ | hf
      · exact .inl ⟨hr, fun hl => hp ▸ hl⟩
      · exact .inr hf
    · exact .inl ⟨rfl, id⟩
  | wait ms =>
    rcases hloop.advance (.inl ⟨rfl, rfl, rfl⟩) (w.now + ms) with ⟨hr, hp, -⟩ | hf
    · exact .inl ⟨hr, fun hl => hp ▸ hl⟩
    · exact .inr hf
  | publish app =>
    simp only [World.perform]
    split
    · exact .inl ⟨rfl, id⟩
    · exact .inl ⟨rfl, id⟩
  | clear =>
    simp only [World.perform]
    split
    · exact .inl ⟨rfl, id⟩
    · exact .inl ⟨rfl, id⟩

/-- **The mark never expects more than the slot has shown.** While a run is launched with no
rebuild pending, the slot held an application at or above the expected generation after some
first `i` of its actions. The induction adds one action at a time: one that keeps the mark
keeps the earlier state, one that writes it fresh gives the current one. -/
theorem expected_le_shown (env : Env h) (acts : List (Action h)) :
    (initial.run env acts).phase = .launched →
    (initial.run env acts).reload.pendingFrom = none →
    ∃ i ≤ acts.length, ∃ app, (initial.run env (acts.take i)).slot = some app ∧
      (initial.run env acts).reload.expected ≤ app.generation := by
  induction acts using List.reverseRecOn with
  | nil => simp [World.run, World.initial]
  | append_singleton pre a ih =>
    intro hl hn
    have hlast : (initial.run env pre).run env [a] = (initial.run env pre).perform env a := rfl
    rw [run_append, hlast] at hl hn ⊢
    rcases @perform_keeps_or_fresh h env (initial.run env pre) a with ⟨hr, hp⟩ | hf
    · rw [hr] at hn ⊢
      obtain ⟨i, hi, app, hs, hle⟩ := ih (hp hl) hn
      refine ⟨i, by simp; omega, app, ?_, hle⟩
      rw [List.take_append_of_le_length hi]
      exact hs
    · obtain ⟨app, hs, hle⟩ := hf hl hn
      refine ⟨pre.length + 1, by simp, app, ?_, hle⟩
      rw [show pre.length + 1 = (pre ++ [a]).length by simp, List.take_length, run_append]
      exact hs

/-- The slot's generation never falls along a run: whenever the slot holds an application after
the first `i` actions and again after the first `j ≥ i`, the later generation is at least the
earlier one, also when the slot was emptied in between. -/
def GenerationsNeverFall (env : Env h) (acts : List (Action h)) : Prop :=
  ∀ j ≤ acts.length, ∀ i ≤ j,
    ∀ g₁ ∈ (initial.run env (acts.take i)).slot.map (·.generation),
    ∀ g₂ ∈ (initial.run env (acts.take j)).slot.map (·.generation), g₁ ≤ g₂

/-- The slot's generation never falls while it stays populated: from a state that holds an
application to the next one, when that holds one too, the generation does not fall. A clear
followed by a publication is not constrained. -/
def GenerationsNeverFallWhilePopulated (env : Env h) (acts : List (Action h)) : Prop :=
  ∀ i < acts.length,
    ∀ g₁ ∈ (initial.run env (acts.take i)).slot.map (·.generation),
    ∀ g₂ ∈ (initial.run env (acts.take (i + 1))).slot.map (·.generation), g₁ ≤ g₂

instance (env : Env h) (acts : List (Action h)) : Decidable (GenerationsNeverFall env acts) :=
  inferInstanceAs (Decidable (∀ j ≤ acts.length, ∀ i ≤ j, _))

instance (env : Env h) (acts : List (Action h)) :
    Decidable (GenerationsNeverFallWhilePopulated env acts) :=
  inferInstanceAs (Decidable (∀ i < acts.length, _))

end World

open World

/-- **The reload mark stays coupled, and the status follows it.** In every state a run reaches
while the generations it publishes stay below the largest (the one executing the artifact
publishes and every publication among its actions), a rebuild pending from `s` expects `s + 1`.
If moreover the slot's generation never falls along the run, then launched with an application
in the slot the status is reloading exactly when that application is below the expected
generation, and ready otherwise. -/
theorem reload_status_tracks_expected {env : Env h} (acts : List (Action h))
    (hexec : ∀ app, env.execute = .ok (some app) → app.generation + 1 < generationModulus)
    (hpub : ∀ app, .publish app ∈ acts → app.generation + 1 < generationModulus) :
    (∀ s, (initial.run env acts).reload.pendingFrom = some s →
      (initial.run env acts).reload.expected = s + 1) ∧
    (GenerationsNeverFall env acts → (initial.run env acts).phase = .launched →
      ∀ app, (initial.run env acts).slot = some app →
        (initial.run env acts).status =
          if app.generation < (initial.run env acts).reload.expected then .reloading
          else .ready) := by
  have hc : (initial.run env acts).MarkCoupled := MarkCoupled.initial.run hexec hpub
  refine ⟨hc.expected_of_pending, ?_⟩
  intro hfall hl app hs
  have hstatus : (initial.run env acts).status =
      statusOf .launched (some app.generation) (initial.run env acts).reload := by
    simp [World.status, hl, hs]
  rw [hstatus]
  cases hp : (initial.run env acts).reload.pendingFrom with
  | some s =>
    -- pending from `s`, the mark expects `s + 1`
    have he := hc.expected_of_pending s hp
    by_cases hle : app.generation ≤ s
    · have hlt : app.generation < s + 1 := by omega
      simp [statusOf, hp, hle, he, hlt]
    · have hnlt : ¬ app.generation < s + 1 := by omega
      simp [statusOf, hp, hle, he, hnlt]
  | none =>
    -- the expected generation was shown earlier, and the slot has not fallen since
    obtain ⟨i, hi, prev, hprev, hle⟩ := expected_le_shown env acts hl hp
    have hrise : prev.generation ≤ app.generation := by
      have hj := hfall acts.length (Nat.le_refl _) i hi prev.generation (by simp [hprev])
        app.generation (by simp [hs])
      exact hj
    have hnot : ¬ app.generation < (initial.run env acts).reload.expected := by omega
    simp [statusOf, hp, hnot]

/-- A run launched at generation 1 that takes a rebuild and then publishes its swap at
generation 2 meets the hypotheses: its publications stay below the largest generation and the
slot's generation never falls. -/
theorem reload_status_tracks_swap :
    let env : Env Unit :=
      ⟨1000, "/p/.nirvana/hmrEntryBundle.js", none, .ok (some ⟨1, "AppModule", ()⟩)⟩
    let acts : List (Action Unit) :=
      [.claimStart, .answerWatch, .send (.succeeded (some "a") []), .wait 10,
        .send (.succeeded (some "b") []), .wait 10, .publish ⟨2, "AppModule", ()⟩]
    (∀ app, env.execute = .ok (some app) → app.generation + 1 < generationModulus) ∧
    (∀ app, .publish app ∈ acts → app.generation + 1 < generationModulus) ∧
    GenerationsNeverFall env acts ∧ (initial.run env acts).phase = .launched ∧
    (initial.run env acts).slot = some ⟨2, "AppModule", ()⟩ ∧
    (∀ s, (initial.run env acts).reload.pendingFrom = some s →
      (initial.run env acts).reload.expected = s + 1) ∧
    (GenerationsNeverFall env acts → (initial.run env acts).phase = .launched →
      ∀ app, (initial.run env acts).slot = some app →
        (initial.run env acts).status =
          if app.generation < (initial.run env acts).reload.expected then .reloading
          else .ready) :=
  have hexec : ∀ app : LiveApp Unit, (Except.ok (some ⟨1, "AppModule", ()⟩) :
      Except LaunchError (Option (LiveApp Unit))) = .ok (some app) →
      app.generation + 1 < generationModulus := by
    intro app happ
    cases happ
    decide
  have hpub : ∀ app : LiveApp Unit, Action.publish app ∈ ([.claimStart, .answerWatch,
      .send (.succeeded (some "a") []), .wait 10, .send (.succeeded (some "b") []), .wait 10,
      .publish ⟨2, "AppModule", ()⟩] : List (Action Unit)) →
      app.generation + 1 < generationModulus := by
    intro app hmem
    simp only [List.mem_cons, List.not_mem_nil, reduceCtorEq, Action.publish.injEq, false_or,
      or_false] at hmem
    subst hmem
    decide
  ⟨hexec, hpub, by decide, by decide, rfl, reload_status_tracks_expected _ hexec hpub⟩

/-- **Emptied and refilled lower, the slot shows less than the mark expects while the status is
ready.** Launched at generation 5, the application is cleared and generation 3 is published onto
the empty slot: the slot's generation never falls while it stays populated, yet launched with
generation 3 in the slot and generation 5 expected, the status is ready, not reloading. -/
theorem status_ready_below_expected_after_clear :
    let env : Env Unit :=
      ⟨1000, "/p/.nirvana/hmrEntryBundle.js", none, .ok (some ⟨5, "AppModule", ()⟩)⟩
    let acts : List (Action Unit) :=
      [.claimStart, .answerWatch, .send (.succeeded (some "a") []), .wait 10, .clear,
        .publish ⟨3, "AppModule", ()⟩]
    GenerationsNeverFallWhilePopulated env acts ∧ (initial.run env acts).phase = .launched ∧
      (initial.run env acts).slot.map (·.generation) = some 3 ∧
      (initial.run env acts).reload.expected = 5 ∧ (initial.run env acts).status = .ready ∧
      (initial.run env acts).status ≠
        if 3 < (initial.run env acts).reload.expected then .reloading else .ready := by
  decide

end LiveSession.Supervisor

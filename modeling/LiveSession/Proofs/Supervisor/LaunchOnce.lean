import LiveSession.Proofs.Supervisor.Coherence
/-!
# The watch, the artifact and the session start at most once

However start calls, compile events, closes and the clock interleave, a supervisor asks its watch
compiler at most once, executes the built artifact at most once and launches the session at most
once; the session is launched exactly when a start call is answered with success, and every
start call but the one that claimed the run is refused. All of it is read off the coherence
facts (`World.Coherent`), which hold in every state a run reaches.

Underneath sits the launch guard: over any sequence of `tryBegin` and `finish` calls at most one
`tryBegin` wins, and once any call is made the guard never reads `notStarted` again
(`LaunchState.wins_count_le`, `LaunchState.runCalls_ne_notStarted`).
-/

namespace LiveSession.Supervisor

/-! ### The launch guard on its own -/

/-- A call on a launch guard. -/
inductive GuardCall where
  | tryBegin
  | finish
  deriving DecidableEq, Repr

namespace LaunchState

/-- Makes the calls in order: the guard's final state, and what each `tryBegin` answered. -/
def runCalls : LaunchState → List GuardCall → LaunchState × List Bool
  | s, [] => (s, [])
  | s, .tryBegin :: rest =>
    let r := (s.tryBegin.1.runCalls rest)
    (r.1, s.tryBegin.2 :: r.2)
  | s, .finish :: rest => s.finish.runCalls rest

/-- A guard that has left `notStarted` answers every `tryBegin` with `false`. -/
theorem wins_eq_zero {s : LaunchState} (hs : s ≠ .notStarted) (calls : List GuardCall) :
    (s.runCalls calls).2.count true = 0 := by
  induction calls generalizing s with
  | nil => rfl
  | cons c rest ih =>
    cases c with
    | tryBegin =>
      cases s with
      | notStarted => exact absurd rfl hs
      | launching => simpa [runCalls, tryBegin] using ih hs
      | launched => simpa [runCalls, tryBegin] using ih hs
    | finish => simpa [runCalls, finish] using ih (by simp)

/-- **At most one `tryBegin` on a fresh guard wins.** -/
theorem wins_count_le (calls : List GuardCall) :
    (LaunchState.notStarted.runCalls calls).2.count true ≤ 1 := by
  cases calls with
  | nil => simp [runCalls]
  | cons c rest =>
    cases c with
    | tryBegin => simp [runCalls, tryBegin, wins_eq_zero (s := .launching) (by simp) rest]
    | finish => simp [runCalls, finish, wins_eq_zero (s := .launched) (by simp) rest]

/-- **Once a call is made, the guard never reads `notStarted` again.** -/
theorem runCalls_ne_notStarted (s : LaunchState) {calls : List GuardCall} (hc : calls ≠ []) :
    (s.runCalls calls).1 ≠ .notStarted := by
  induction calls generalizing s with
  | nil => exact absurd rfl hc
  | cons c rest ih =>
    cases rest with
    | nil => cases c <;> cases s <;> simp [runCalls, tryBegin, finish]
    | cons c' rest' =>
      cases c with
      | tryBegin => exact ih s.tryBegin.1 (by simp)
      | finish => exact ih s.finish (by simp)

end LaunchState

/-! ### Runs of a supervisor -/

namespace World

variable {h : Type}

/-- In a coherent run, a start call is refused exactly when it is not the first call or the
first call did not claim the run. -/
theorem Coherent.refused_iff {w : World h} (hw : w.Coherent) (i : Nat)
    (hi : i < w.starts.length) :
    w.starts[i] = .failed .alreadyStarted ↔ ¬(i = 0 ∧ w.watches = 1) := by
  obtain ⟨r, rest, hs⟩ := List.exists_cons_of_length_pos (Nat.lt_of_le_of_lt (Nat.zero_le i) hi)
  rw [List.getElem_of_eq hs]
  have hfirst := hw.first_refused r rest hs
  have hle := hw.watches_le
  cases i with
  | zero =>
    simp only [List.getElem_cons_zero, hfirst, true_and]
    omega
  | succ j =>
    have hj : j < rest.length := by simpa [hs] using hi
    simp only [List.getElem_cons_succ, Nat.add_one_ne_zero, false_and, not_false_eq_true,
      iff_true]
    exact hw.later_refused r rest hs _ (List.getElem_mem hj)

end World

/-- **A supervisor starts everything at most once.** In every state of every run, whatever the
actions and collaborators: the watch compiler was asked at most once, the artifact executed at
most once and the session launched at most once; the session was launched exactly as often as a
start call was answered with success; a start call was refused exactly when it is not the call
that claimed the run. And on a launch guard, over any calls, at most one `tryBegin` wins and the
guard never reads `notStarted` after a call. -/
theorem start_effects_at_most_once {h : Type} (env : Env h) (acts : List (World.Action h))
    (calls : List GuardCall) :
    let w := (World.initial : World h).run env acts
    w.watches ≤ 1 ∧ w.executions ≤ 1 ∧ w.launches ≤ 1 ∧
    w.launches = w.starts.count .ok ∧
    (∀ i (hi : i < w.starts.length),
      w.starts[i] = .failed .alreadyStarted ↔ ¬(i = 0 ∧ w.watches = 1)) ∧
    (LaunchState.notStarted.runCalls calls).2.count true ≤ 1 ∧
    (calls ≠ [] → (LaunchState.notStarted.runCalls calls).1 ≠ .notStarted) := by
  intro w
  have hw : w.Coherent := World.coherent_run env acts
  exact ⟨hw.watches_le, hw.executions_le, hw.launches_le, hw.launches_eq_count.symm,
    hw.refused_iff, LaunchState.wins_count_le calls,
    LaunchState.runCalls_ne_notStarted .notStarted⟩

end LiveSession.Supervisor

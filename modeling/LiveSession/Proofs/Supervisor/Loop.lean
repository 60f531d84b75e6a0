import LiveSession.Supervisor.Machine
/-!
# What the event loop can do

A supervisor's event loop moves in single steps (`World.loopStep`): it stops because the watch
was cancelled or its channel closed, takes the next compile event, or finds the application it
was waiting for. `loopStep_cases` says once which of these a step is; later proofs read steps
through it and never unfold `loopStep` again.

Around the loop, a run is driven by `settle` (steps while the loop can move), `expire` (the
launch deadline fires) and `advance` (time passes, firing the deadline when it falls before the
end). A property kept by every loop step, by the deadline firing and by time passing is kept by
all three: `LoopInvariant` packages that induction once, so an invariant of the run has three
small obligations here. `run_induction` does the same for the actions of a run.

`settle` runs the loop to a standstill: each step lowers `loopWork`, two for each queued event
and one or two for what the loop still has to do, and `settle` allows more steps than that
(`loopStep_settle`). This is what makes every answer that is due actually arrive.
-/

namespace LiveSession.Supervisor

namespace World

variable {h : Type} {env : Env h}

/-! ### Replies and the loop's moves -/

/-- Replying fills in the waiting call's result and forgets the call; with no call waiting it
changes nothing. -/
@[simp]
theorem replyWith_eq (w : World h) (r : StartResult) :
    w.replyWith r =
      { w with starts := (w.reply.map fun i => w.starts.set i r).getD w.starts, reply := none } := by
  unfold replyWith
  cases hr : w.reply with
  | none => cases w; simp_all
  | some i => simp [resolve]

/-- **What the first launch does**: it claims the launch guard and counts the execution; then
the execution fails, or the application is in the slot and the launch completes, or nothing is
there yet and the loop starts waiting for it until the handle wait is over. -/
theorem beginLaunch_cases (w : World h) :
    (∃ e, env.execute = .error e ∧ w.beginLaunch env =
      { w with guard := .launching, executions := w.executions + 1 }.failLaunch e) ∨
    (∃ p app, env.execute = .ok p ∧ p.orElse (fun _ => w.slot) = some app ∧ w.beginLaunch env =
      { w with guard := .launching, executions := w.executions + 1, writer := true,
               slot := some app }.completeLaunch app) ∨
    (env.execute = .ok none ∧ w.slot = none ∧ w.beginLaunch env =
      { w with guard := .launching, executions := w.executions + 1, writer := true,
               loop := .awaitingApp (w.now + env.handleWaitMs) }) := by
  unfold beginLaunch
  rcases hx : env.execute with e | p
  · exact .inl ⟨e, rfl, rfl⟩
  · dsimp only
    rcases hp : p.orElse (fun _ => w.slot) with _ | app
    · have hpn : p = none := by cases p <;> simp_all
      have hs : w.slot = none := by simp_all
      subst hpn
      refine .inr (.inr ⟨rfl, hs, ?_⟩)
      simp [hs]
    · exact .inr (.inl ⟨p, app, rfl, hp, by simp⟩)

/-- **What one step of the loop is**: the stop of a cancelled loop, the handling of the next
queued event, the stop of a loop whose channel is closed and drained, or the launch completing
once the awaited application is in the slot. -/
theorem loopStep_cases {w w' : World h} (hs : w.loopStep env = some w') :
    (w.loop = .receiving ∧ w.cancelled = true ∧ w' = w.finishLoop) ∨
    (w.loop = .receiving ∧ w.cancelled = false ∧
      ∃ e rest, w.queue = e :: rest ∧ w' = { w with queue := rest }.handle env e) ∨
    (w.loop = .receiving ∧ w.cancelled = false ∧ w.queue = [] ∧ w.senderOpen = false ∧
      w' = w.finishLoop) ∨
    (∃ d app, w.loop = .awaitingApp d ∧ w.slot = some app ∧ w' = w.completeLaunch app) := by
  unfold loopStep at hs
  rcases hl : w.loop with _ | _ | d | _
  · simp [hl] at hs
  · simp only [hl] at hs
    cases hc : w.cancelled
    · rcases hq : w.queue with _ | ⟨e, rest⟩
      · cases ho : w.senderOpen
        · simp only [hc, hq, ho, Bool.false_eq_true, if_false, Option.some.injEq] at hs
          exact .inr (.inr (.inl ⟨rfl, rfl, rfl, rfl, hs.symm⟩))
        · simp [hc, hq, ho] at hs
      · simp only [hc, hq, Bool.false_eq_true, if_false, Option.some.injEq] at hs
        exact .inr (.inl ⟨rfl, rfl, e, rest, rfl, hs.symm⟩)
    · simp only [hc, if_true, Option.some.injEq] at hs
      exact .inl ⟨rfl, rfl, hs.symm⟩
  · rcases hslot : w.slot with _ | app
    · simp [hl, hslot] at hs
    · simp only [hl, hslot, Option.some.injEq] at hs
      exact .inr (.inr (.inr ⟨d, app, rfl, rfl, hs.symm⟩))
  · simp [hl] at hs

/-- Replying when no call waits changes nothing. -/
theorem replyWith_of_reply_none {w : World h} (hr : w.reply = none) (r : StartResult) :
    w.replyWith r = w := by
  simp only [replyWith, hr]

/-- A send either appends the event to the queue, when the channel is open and its receiver is
still there, or is not accepted and changes nothing. -/
theorem send_cases (w : World h) (e : Compile.Event) :
    ((w.send e).2 = .sent ∧ (w.send e).1 = { w with queue := w.queue ++ [e] } ∧
      w.receiver ≠ .dropped) ∨
    ((w.send e).2 ≠ .sent ∧ (w.send e).1 = w) := by
  unfold send offer
  split
  · exact .inr ⟨by simp, rfl⟩
  · split
    · exact .inr ⟨by simp, rfl⟩
    · next hr =>
      split
      · exact .inr ⟨by simp, rfl⟩
      · exact .inl ⟨rfl, rfl, hr⟩

/-- **What a late take is**: a cancelled loop that still receives handles its next queued event;
in any other state nothing happens. -/
theorem takeLate_cases (w : World h) :
    (w.loop = .receiving ∧ w.cancelled = true ∧
      ∃ e rest, w.queue = e :: rest ∧ w.takeLate env = { w with queue := rest }.handle env e) ∨
    w.takeLate env = w := by
  by_cases hlate : w.loop = .receiving ∧ w.cancelled = true ∧ w.queue ≠ []
  · obtain ⟨hl, hc, hq⟩ := hlate
    obtain ⟨e, rest, hq⟩ := List.exists_cons_of_ne_nil hq
    exact .inl ⟨hl, hc, e, rest, hq, by simp only [takeLate, hl, hc, hq]⟩
  · right
    unfold takeLate
    split
    · next hl hc hq => exact absurd ⟨hl, hc, by simp [hq]⟩ hlate
    · rfl

/-- A loop that is absent or finished does not move. -/
theorem loopStep_eq_none_of_idle {w : World h} (hl : w.loop = .absent ∨ w.loop = .finished) :
    w.loopStep env = none := by
  rcases hl with hl | hl <;> simp [loopStep, hl]

/-- Settling a loop that does not move leaves the run as it is. -/
theorem settleFor_of_loopStep_eq_none {w : World h} (hs : w.loopStep env = none) (n : Nat) :
    w.settleFor env n = w := by
  cases n <;> simp [settleFor, hs]

/-- Settling an idle loop leaves the run as it is. -/
theorem settle_of_idle {w : World h} (hl : w.loop = .absent ∨ w.loop = .finished) :
    w.settle env = w :=
  settleFor_of_loopStep_eq_none (loopStep_eq_none_of_idle hl) _

/-- The deadline of an idle loop never fires. -/
theorem expire_of_idle {w : World h} (hl : w.loop = .absent ∨ w.loop = .finished) :
    w.expire env = w := by
  rcases hl with hl | hl <;> simp [expire, hl]

/-- The deadline of a loop awaiting the application fails the launch. -/
theorem expire_of_awaiting {w : World h} {d : Nat} (hl : w.loop = .awaitingApp d) :
    w.expire env =
      ({ w with now := max w.now d }.failLaunch (.applicationNotFound env.handleWaitMs)).settle env := by
  simp [expire, hl]

/-- Time passing beyond the deadline of a settled loop fires it. -/
theorem advance_of_deadline {w : World h} {d target : Nat}
    (hl : (w.settle env).loop = .awaitingApp d) (hd : d < target) :
    w.advance env target =
      { (w.settle env).expire env with now := max (w.settle env).now target } := by
  simp [advance, hl, hd]

/-- Time passing while the settled loop awaits no application only moves the clock. -/
theorem advance_of_not_awaiting {w : World h} {target : Nat}
    (hl : ∀ d, (w.settle env).loop ≠ .awaitingApp d) :
    w.advance env target = { w.settle env with now := max (w.settle env).now target } := by
  unfold advance
  dsimp only
  split
  · next d hd => exact absurd hd (hl d)
  · rfl

/-! ### Invariants of the loop -/

/-- Settling keeps whatever each step of the loop keeps. -/
theorem settleFor_induction {P : World h → Prop}
    (hstep : ∀ {w w' : World h}, P w → w.loopStep env = some w' → P w') {w : World h}
    (hw : P w) (n : Nat) : P (w.settleFor env n) := by
  induction n generalizing w with
  | zero => exact hw
  | succ n ih =>
    unfold World.settleFor
    cases hs : w.loopStep env with
    | none => exact hw
    | some w' => exact ih (hstep hw hs)

/-- A property of runs that the event loop keeps: each of its steps keeps it, the launch
deadline firing keeps it, and so does time passing. -/
structure LoopInvariant (env : Env h) (P : World h → Prop) : Prop where
  step : ∀ {w w'}, P w → w.loopStep env = some w' → P w'
  deadline : ∀ {w d}, P w → w.loop = .awaitingApp d →
    P ({ w with now := max w.now d }.failLaunch (.applicationNotFound env.handleWaitMs))
  time : ∀ {w t}, P w → w.now ≤ t → P { w with now := t }

namespace LoopInvariant

variable {P : World h → Prop}

theorem settleFor (hP : LoopInvariant env P) {w : World h} (hw : P w) (n : Nat) :
    P (w.settleFor env n) :=
  settleFor_induction hP.step hw n

theorem settle (hP : LoopInvariant env P) {w : World h} (hw : P w) : P (w.settle env) :=
  hP.settleFor hw _

theorem expire (hP : LoopInvariant env P) {w : World h} (hw : P w) : P (w.expire env) := by
  unfold World.expire
  split
  · next d hl => exact hP.settle (hP.deadline hw hl)
  · exact hw

/-- Time passing keeps a property that holds once the loop has settled. -/
theorem advance_of_settle (hP : LoopInvariant env P) {w : World h} (hs : P (w.settle env))
    (target : Nat) : P (w.advance env target) := by
  unfold World.advance
  dsimp only
  split
  · split
    · next d hl hd =>
      have hnow : (World.expire (w.settle env) env).now = max (w.settle env).now d := by
        simp [World.expire, hl, failLaunch, teardown, endLoop, settle_of_idle]
      exact hP.time (hP.expire hs) (by omega)
    · exact hP.time hs (Nat.le_max_left _ _)
  · exact hP.time hs (Nat.le_max_left _ _)

theorem advance (hP : LoopInvariant env P) {w : World h} (hw : P w) (target : Nat) :
    P (w.advance env target) :=
  hP.advance_of_settle (hP.settle hw) target

end LoopInvariant

/-- **A run keeps what each of its actions keeps**: a property that every allowed action
preserves holds after any run of allowed actions. The induction is on the actions. -/
theorem run_induction {P : World h → Prop} {allowed : Action h → Prop}
    (hstep : ∀ {w a}, P w → allowed a → P (w.perform env a)) {w : World h} (hw : P w)
    {acts : List (Action h)} (hacts : ∀ a ∈ acts, allowed a) : P (w.run env acts) := by
  induction acts generalizing w with
  | nil => exact hw
  | cons a rest ih =>
    have hrest : ∀ b ∈ rest, allowed b := fun b hb => hacts b (List.mem_cons_of_mem a hb)
    exact ih (hstep hw (hacts a List.mem_cons_self)) hrest

theorem run_append (w : World h) (pre post : List (Action h)) :
    w.run env (pre ++ post) = (w.run env pre).run env post := by
  induction pre generalizing w with
  | nil => rfl
  | cons a rest ih => exact ih (w.perform env a)

/-! ### The loop comes to a standstill -/

/-- What the loop can still do before it has to wait: two moves for each queued event, one to
stop a receiving loop, and two for a loop awaiting the application. -/
def loopWork (w : World h) : Nat :=
  2 * w.queue.length + match w.loop with
    | .receiving => 1
    | .awaitingApp _ => 2
    | _ => 0

/-- Handling an event leaves the queue as it is. -/
@[simp]
theorem handle_queue (w : World h) (e : Compile.Event) : (w.handle env e).queue = w.queue := by
  cases e with
  | fatal m => simp [handle, teardown, endLoop]
  | diagnostics es ws => rfl
  | succeeded hash ws =>
    simp only [handle]
    split
    · rcases @beginLaunch_cases _ env w with ⟨e, -, heq⟩ | ⟨p, app, -, -, heq⟩ | ⟨-, -, heq⟩ <;>
        simp [heq, failLaunch, teardown, endLoop, completeLaunch]
    · rfl

/-- After handling an event the loop is finished, receiving, or awaiting the application. -/
theorem handle_loop (w : World h) (e : Compile.Event) (hl : w.loop = .receiving) :
    (w.handle env e).loop = .finished ∨ (w.handle env e).loop = .receiving ∨
      ∃ d, (w.handle env e).loop = .awaitingApp d := by
  cases e with
  | fatal m => simp [handle, endLoop]
  | diagnostics es ws => simp [handle, hl]
  | succeeded hash ws =>
    simp only [handle]
    split
    · rcases @beginLaunch_cases _ env w with ⟨e, -, heq⟩ | ⟨p, app, -, -, heq⟩ | ⟨-, -, heq⟩ <;>
        simp [heq, failLaunch, endLoop, completeLaunch]
    · simp [hl]

/-- Once started, the loop never goes back to not having started. -/
theorem loopStep_loop_ne_absent {w w' : World h} (hs : w.loopStep env = some w') :
    w'.loop ≠ .absent := by
  rcases loopStep_cases hs with ⟨-, -, rfl⟩ | ⟨hl, -, e, rest, -, rfl⟩ |
      ⟨-, -, -, -, rfl⟩ | ⟨d, app, -, -, rfl⟩
  · simp [finishLoop, endLoop]
  · rcases @handle_loop _ env { w with queue := rest } e hl with h' | h' | ⟨d, h'⟩ <;> simp [h']
  · simp [finishLoop, endLoop]
  · simp [completeLaunch]

/-- Handling an event that leaves the loop receiving does not cancel the watch. -/
theorem handle_cancelled (w : World h) (e : Compile.Event)
    (hl : (w.handle env e).loop = .receiving) : (w.handle env e).cancelled = w.cancelled := by
  cases e with
  | fatal m => simp [handle, endLoop] at hl
  | diagnostics es ws => rfl
  | succeeded hash ws =>
    by_cases hg : w.guard = .notStarted
    · simp only [handle, hg, if_true] at hl ⊢
      rcases @beginLaunch_cases _ env w with ⟨e, -, heq⟩ | ⟨p, app, -, -, heq⟩ | ⟨-, -, heq⟩
      · rw [heq] at hl
        simp [failLaunch, endLoop] at hl
      · rw [heq]
        simp [completeLaunch]
      · rw [heq]
    · simp [handle, hg]

@[simp]
theorem length_getD_map_set (o : Option Nat) (l : List StartResult) (r : StartResult) :
    ((o.map fun i => l.set i r).getD l).length = l.length := by
  cases o <;> simp

/-- Handling an event leaves the clock, the sending side, the watch caller, the number of start
calls and a waiting close call alone. -/
theorem handle_keeps (w : World h) (e : Compile.Event) :
    (w.handle env e).now = w.now ∧ (w.handle env e).senderOpen = w.senderOpen ∧
      (w.handle env e).watchCaller = w.watchCaller ∧
      (w.handle env e).starts.length = w.starts.length ∧
      (w.handle env e).closing = w.closing := by
  cases e with
  | fatal m => simp [handle, teardown, endLoop]
  | diagnostics es ws => simp [handle]
  | succeeded hash ws =>
    simp only [handle]
    split
    · rcases @beginLaunch_cases _ env w with ⟨e, -, heq⟩ | ⟨p, app, -, -, heq⟩ | ⟨-, -, heq⟩ <;>
        simp [heq, failLaunch, teardown, endLoop, completeLaunch]
    · simp

/-- The loop leaves the clock, the sending side, the watch caller, the number of start calls and
a waiting close call alone. -/
theorem loopStep_keeps {w w' : World h} (hs : w.loopStep env = some w') :
    w'.now = w.now ∧ w'.senderOpen = w.senderOpen ∧ w'.watchCaller = w.watchCaller ∧
      w'.starts.length = w.starts.length ∧ w'.closing = w.closing := by
  rcases loopStep_cases hs with ⟨-, -, rfl⟩ | ⟨-, -, e, rest, -, rfl⟩ |
      ⟨-, -, -, -, rfl⟩ | ⟨d, app, -, -, rfl⟩
  · simp [finishLoop, endLoop]
  · exact handle_keeps _ e
  · simp [finishLoop, endLoop]
  · simp [completeLaunch]

/-- Settling leaves the clock, the sending side, the watch caller, the number of start calls and
a waiting close call alone. -/
theorem settle_keeps (w : World h) :
    (w.settle env).now = w.now ∧ (w.settle env).senderOpen = w.senderOpen ∧
      (w.settle env).watchCaller = w.watchCaller ∧
      (w.settle env).starts.length = w.starts.length ∧ (w.settle env).closing = w.closing := by
  refine settleFor_induction (P := fun w' : World h => w'.now = w.now ∧
    w'.senderOpen = w.senderOpen ∧ w'.watchCaller = w.watchCaller ∧
    w'.starts.length = w.starts.length ∧ w'.closing = w.closing) ?_ ⟨rfl, rfl, rfl, rfl, rfl⟩ _
  intro u u' ⟨h1, h2, h3, h4, h5⟩ hs
  obtain ⟨k1, k2, k3, k4, k5⟩ := loopStep_keeps hs
  exact ⟨k1.trans h1, k2.trans h2, k3.trans h3, k4.trans h4, k5.trans h5⟩

/-- Settling takes the loop's next step first. -/
theorem settle_of_loopStep {w w' : World h} (hs : w.loopStep env = some w') :
    w.settle env = w'.settleFor env (2 * w.queue.length + 3) := by
  simp only [settle, settleFor, hs]

/-- A receiving loop that cannot move is waiting: nothing is queued and the channel is open. -/
theorem loopStep_eq_none_of_receiving {w : World h} (hl : w.loop = .receiving)
    (hc : w.cancelled = false) (hs : w.loopStep env = none) :
    w.queue = [] ∧ w.senderOpen = true := by
  unfold loopStep at hs
  simp only [hl, hc, Bool.false_eq_true, if_false] at hs
  cases hq : w.queue with
  | cons e rest => simp [hq] at hs
  | nil =>
    cases ho : w.senderOpen with
    | false => simp [hq, ho] at hs
    | true => exact ⟨rfl, rfl⟩

/-- **Every step of the loop lowers `loopWork`.** -/
theorem loopWork_lt_of_loopStep {w w' : World h} (hs : w.loopStep env = some w') :
    w'.loopWork < w.loopWork := by
  rcases loopStep_cases hs with ⟨hl, -, rfl⟩ | ⟨hl, -, e, rest, hq, rfl⟩ |
      ⟨hl, -, -, -, rfl⟩ | ⟨d, app, hl, -, rfl⟩
  · simp [loopWork, finishLoop, endLoop, hl]
  · have hloop := @handle_loop _ env { w with queue := rest } e hl
    have hwork : w.loopWork = 2 * rest.length + 3 := by simp [loopWork, hl, hq]; omega
    rw [hwork]
    rcases hloop with h' | h' | ⟨d, h'⟩ <;> simp [loopWork, h']
  · simp [loopWork, finishLoop, endLoop, hl]
  · simp [loopWork, completeLaunch, hl]

/-- Given more steps than the loop has work, settling leaves a loop that cannot move. -/
theorem loopStep_settleFor {w : World h} {n : Nat} (hn : w.loopWork < n) :
    (w.settleFor env n).loopStep env = none := by
  induction n generalizing w with
  | zero => omega
  | succ n ih =>
    unfold World.settleFor
    cases hs : w.loopStep env with
    | none => exact hs
    | some w' =>
      have := loopWork_lt_of_loopStep hs
      exact ih (by omega)

/-- **Settling runs the loop to a standstill.** -/
theorem loopStep_settle (w : World h) : (w.settle env).loopStep env = none := by
  apply loopStep_settleFor
  have : w.loopWork ≤ 2 * w.queue.length + 2 := by
    unfold loopWork
    split <;> omega
  omega

end World

end LiveSession.Supervisor

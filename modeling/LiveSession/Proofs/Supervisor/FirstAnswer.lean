import LiveSession.Proofs.Supervisor.Coherence
/-!
# The first start call gets the answer its events decide

A start call that claims a fresh run waits while the watch compiler starts and the event loop
works through the compile events. What it is answered is decided by the first event that is not
diagnostics (`firstDecisive`): a fatal event refuses it with the compiler's message; a clean
build executes the artifact and answers success once the application is in the slot, or the
launch failure; a channel that closes before either refuses it because the watch ended. A watch
compiler that fails to start decides it before any event. `expectedAnswer` is this rule as a
function of the delivered events.

The proof follows a run beside a ghost, the events delivered to the supervisor so far
(`World.delivered`). They split into those the loop has taken and those still queued, and what
the loop has taken fixes where the first call stands (`Stage`): nobody has claimed the run, the
call waits for the watch, the loop runs on diagnostics, the launch waits for the application, or
the call has its answer (`Settled`), which no later action changes, a close included.

## Main results

* `World.Settled.run`: once answered, the first call's answer never changes.
* `World.Follows.run`: every run without a close follows its delivered events.
* `first_start_answered_by_events`: the first call's answer is the one its delivered events
  decide, a failure leaves the run terminated, diagnostics alone execute nothing, a decided or
  closed event stream is answered once the handle wait is over, and an application published
  while the launch waits is answered with success.
-/

namespace LiveSession.Supervisor

open LiveSession.Session

variable {h : Type}

/-! ### The answer the events decide -/

/-- Whether an event decides the first start call: every event but diagnostics does. -/
def decides : Compile.Event → Bool
  | .diagnostics _ _ => false
  | _ => true

/-- The first event that decides the first start call. -/
def firstDecisive (events : List Compile.Event) : Option Compile.Event :=
  events.find? decides

theorem firstDecisive_append_of_ne_none {a : List Compile.Event} (ha : firstDecisive a ≠ none)
    (b : List Compile.Event) : firstDecisive (a ++ b) = firstDecisive a := by
  obtain ⟨e, he⟩ := Option.ne_none_iff_exists'.mp ha
  rw [firstDecisive, List.find?_append, ← firstDecisive, he, Option.some_or]

theorem firstDecisive_eq_none_of_append {a b : List Compile.Event}
    (hab : firstDecisive (a ++ b) = none) : firstDecisive a = none := by
  rw [firstDecisive, List.find?_append, Option.or_eq_none_iff] at hab
  exact hab.1

/-- Diagnostics never decide. -/
theorem firstDecisive_append_diagnostics (a : List Compile.Event) (es ws : List String) :
    firstDecisive (a ++ [.diagnostics es ws]) = firstDecisive a := by
  simp [firstDecisive, List.find?_append, decides]

/-- The first deciding event after only diagnostics decides. -/
theorem firstDecisive_append_decides {a : List Compile.Event} (ha : firstDecisive a = none)
    {e : Compile.Event} (he : decides e = true) : firstDecisive (a ++ [e]) = some e := by
  rw [firstDecisive, List.find?_append, ← firstDecisive, ha]
  simp [he]

/-- The answer the first start call should get when the run delivered `events`. A watch compiler
that fails to start decides it first; otherwise the first deciding event does. A fatal event
refuses it with its message. A clean build launches: the call succeeds when executing the
artifact published the application, or when `found` says that the application appeared before
the handle wait was over, and is refused with the execution's error or the missing application
otherwise. With no deciding event the watch ended. -/
def expectedAnswer (env : Env h) (found : Bool) (events : List Compile.Event) : StartResult :=
  match env.watchFailure with
  | some m => .failed (.watchStart m)
  | none =>
    match firstDecisive events with
    | some (.fatal m) => .failed (.compileFatal m)
    | some (.succeeded _ _) =>
      match env.execute with
      | .error e => .failed (.launch e)
      | .ok (some _) => .ok
      | .ok none =>
        if found then .ok else .failed (.launch (.applicationNotFound env.handleWaitMs))
    | _ => .failed .watchEnded

section Expected

variable {env : Env h} {found : Bool}

theorem expectedAnswer_ne_pending (events : List Compile.Event) :
    expectedAnswer env found events ≠ .pending := by
  unfold expectedAnswer
  split
  · simp
  · split
    · simp
    · split
      · simp
      · simp
      · split <;> simp
    · simp

/-- Events after the deciding one change nothing. -/
theorem expectedAnswer_append {a : List Compile.Event} (ha : firstDecisive a ≠ none)
    (b : List Compile.Event) : expectedAnswer env found (a ++ b) = expectedAnswer env found a := by
  simp only [expectedAnswer, firstDecisive_append_of_ne_none ha]

/-- Without a deciding event the application's appearance does not matter. -/
theorem expectedAnswer_of_quiet {events : List Compile.Event} (hq : firstDecisive events = none) :
    expectedAnswer env found events = expectedAnswer env false events := by
  simp only [expectedAnswer, hq]

/-- An answer other than success is the one given when the application never appears. -/
theorem expectedAnswer_of_ne_ok {events : List Compile.Event}
    (hne : expectedAnswer env found events ≠ .ok) :
    expectedAnswer env found events = expectedAnswer env false events := by
  cases found with
  | false => rfl
  | true =>
    revert hne
    unfold expectedAnswer
    split
    · simp
    · split
      · simp
      · split <;> simp
      · simp

/-- Events queued after those taken change nothing, unless no event decided and the watch
started, which leaves the call refused for a closed channel only once nothing is queued. -/
theorem expectedAnswer_append_of_ended {a b : List Compile.Event}
    (hb : firstDecisive a = none → env.watchFailure = none → b = []) :
    expectedAnswer env found (a ++ b) = expectedAnswer env found a := by
  cases ha : firstDecisive a with
  | some e => exact expectedAnswer_append (by simp [ha]) b
  | none =>
    cases hw : env.watchFailure with
    | some m => simp [expectedAnswer, hw]
    | none => rw [hb ha hw, List.append_nil]

end Expected

namespace World

variable {env : Env h}

/-- A clean build before the launch guard was claimed begins the launch. -/
theorem handle_succeeded_of_notStarted {w : World h} (hg : w.guard = .notStarted)
    (hash : Option String) (ws : List String) :
    w.handle env (.succeeded hash ws) = w.beginLaunch env := by
  simp [handle, hg]

/-! ### The events a run delivers -/

/-- The events an action delivers to the supervisor: those of a send that the channel accepts. -/
def accepted (w : World h) : Action h → List Compile.Event
  | .send e => if (w.send e).2 = .sent then [e] else []
  | _ => []

/-- The events a run delivers to the supervisor, in order. -/
def delivered (w : World h) (env : Env h) : List (Action h) → List Compile.Event
  | [] => []
  | a :: rest => w.accepted a ++ (w.perform env a).delivered env rest

/-! ### An answer for good -/

/-- The first start call has its answer `r` for good: no call waits for the watch compiler or for
the loop, and the run has left the configuring phase, so no later call can claim it. -/
structure Settled (r : StartResult) (w : World h) : Prop where
  answer : w.starts.head? = some r
  reply : w.reply = none
  caller : w.watchCaller = none
  claimed : w.phase ≠ .configuring

namespace Settled

variable {r : StartResult} {w : World h}

/-- What leaves the calls alone and does not reopen the run keeps the answer. -/
theorem of_calls {w' : World h} (hw : Settled r w) (hstarts : w'.starts = w.starts)
    (hreply : w'.reply = w.reply) (hcaller : w'.watchCaller = w.watchCaller)
    (hphase : w'.phase ≠ .configuring) : Settled r w' where
  answer := by rw [hstarts]; exact hw.answer
  reply := hreply.trans hw.reply
  caller := hcaller.trans hw.caller
  claimed := hphase

/-- The loop's reply to the waiting first call settles it. -/
theorem of_reply {w : World h} {r : StartResult} {rest : List StartResult}
    (hr : w.reply = some 0) (hs : w.starts = .pending :: rest) (hcaller : w.watchCaller = none)
    (hphase : w.phase ≠ .configuring) : Settled r (w.replyWith r) where
  answer := by simp [hr, hs]
  reply := by simp
  caller := by simp [hcaller]
  claimed := by simp [hphase]

theorem teardown (hw : Settled r w) : Settled r w.teardown :=
  hw.of_calls rfl rfl rfl (by simp [World.teardown])

theorem endLoop (hw : Settled r w) : Settled r w.endLoop :=
  hw.of_calls rfl rfl rfl hw.claimed

theorem replyWith (hw : Settled r w) (r' : StartResult) : Settled r (w.replyWith r') := by
  rw [replyWith_of_reply_none hw.reply]
  exact hw

theorem failLaunch (hw : Settled r w) (e : LaunchError) : Settled r (w.failLaunch e) :=
  (hw.teardown.replyWith _).endLoop

theorem finishLoop (hw : Settled r w) : Settled r w.finishLoop :=
  (hw.replyWith _).endLoop.of_calls rfl rfl rfl (by simp [World.finishLoop])

theorem completeLaunch (hw : Settled r w) (app : LiveApp h) :
    Settled r (w.completeLaunch app) := by
  unfold World.completeLaunch
  refine Settled.replyWith ?_ _
  exact hw.of_calls rfl rfl rfl (by simp)

theorem beginLaunch (hw : Settled r w) : Settled r (w.beginLaunch env) := by
  rcases @beginLaunch_cases _ env w with ⟨e, -, heq⟩ | ⟨p, app, -, -, heq⟩ | ⟨-, -, heq⟩ <;>
    rw [heq]
  · refine Settled.failLaunch ?_ e
    exact hw.of_calls rfl rfl rfl hw.claimed
  · refine Settled.completeLaunch ?_ app
    exact hw.of_calls rfl rfl rfl hw.claimed
  · exact hw.of_calls rfl rfl rfl hw.claimed

theorem handle (hw : Settled r w) (e : Compile.Event) : Settled r (w.handle env e) := by
  cases e with
  | fatal m => exact (hw.teardown.replyWith _).endLoop
  | diagnostics es ws => exact hw
  | succeeded hash ws =>
    simp only [World.handle]
    split
    · exact hw.beginLaunch
    · exact hw.of_calls rfl rfl rfl hw.claimed

/-- The loop never takes a settled answer back. -/
theorem loopInvariant (r : StartResult) : LoopInvariant env (Settled (h := h) r) where
  step := fun {w w'} hw hs => by
    rcases loopStep_cases hs with ⟨-, -, rfl⟩ | ⟨-, -, e, rest, -, rfl⟩ |
        ⟨-, -, -, -, rfl⟩ | ⟨d, app, -, -, rfl⟩
    · exact hw.finishLoop
    · refine Settled.handle ?_ e
      exact hw.of_calls rfl rfl rfl hw.claimed
    · exact hw.finishLoop
    · exact hw.completeLaunch app
  deadline := fun hw _ => by
    refine Settled.failLaunch ?_ _
    exact hw.of_calls rfl rfl rfl hw.claimed
  time := fun hw _ => hw.of_calls rfl rfl rfl hw.claimed

/-- **No action takes a settled answer back**, a close included: a later start call is refused
at once, and nobody is left to reply to. -/
theorem perform (hw : Settled r w) (a : Action h) : Settled r (w.perform env a) := by
  cases a with
  | claimStart =>
    unfold World.perform World.claimStart
    rw [if_pos hw.claimed]
    exact
      { answer := by simp [List.head?_append, hw.answer]
        reply := hw.reply
        caller := hw.caller
        claimed := hw.claimed }
  | answerWatch => simp only [World.perform, World.answerWatch, hw.caller]; exact hw
  | send e =>
    rcases send_cases w e with ⟨-, heq, -⟩ | ⟨-, heq⟩ <;> simp only [World.perform, heq]
    · exact hw.of_calls rfl rfl rfl hw.claimed
    · exact hw
  | endEvents => exact hw.of_calls rfl rfl rfl hw.claimed
  | close => exact hw.of_calls rfl rfl rfl (by simp [World.perform, World.beginClose])
  | runnerStopped =>
    simp only [World.perform, World.finishClose]
    split
    · exact hw.of_calls rfl rfl rfl hw.claimed
    · exact hw
  | takeLate =>
    rcases @takeLate_cases _ env w with ⟨-, -, e, rest, -, heq⟩ | heq <;> rw [World.perform, heq]
    · refine Settled.handle ?_ e
      exact hw.of_calls rfl rfl rfl hw.claimed
    · exact hw
  | wait ms => exact (loopInvariant r).advance hw _
  | publish app =>
    simp only [World.perform]
    split
    · exact hw.of_calls rfl rfl rfl hw.claimed
    · exact hw
  | clear =>
    simp only [World.perform]
    split
    · exact hw.of_calls rfl rfl rfl hw.claimed
    · exact hw

/-- **A settled answer stays settled over every run.** -/
theorem run (hw : Settled r w) (acts : List (Action h)) : Settled r (w.run env acts) :=
  run_induction (fun hw (_ : True) => hw.perform _) hw fun _ _ => trivial

end Settled

/-- The deadline firing while the launch waits refuses the first call: the application was not
found in time. -/
theorem settled_of_deadline {w : World h} {d : Nat} (hc : w.Coherent)
    (hl : w.loop = .awaitingApp d) :
    Settled (.failed (.launch (.applicationNotFound env.handleWaitMs)))
      ({ w with now := max w.now d }.failLaunch (.applicationNotFound env.handleWaitMs)) := by
  obtain ⟨-, hr⟩ := hc.awaiting d hl
  obtain ⟨-, later, hs, -, hcaller⟩ := hc.of_reply hr
  exact Settled.endLoop (Settled.of_reply hr hs hcaller (by simp [World.teardown]))

/-- The application appearing while the launch waits answers the first call with success. -/
theorem settled_of_complete {w : World h} {d : Nat} (hc : w.Coherent)
    (hl : w.loop = .awaitingApp d) (app : LiveApp h) : Settled .ok (w.completeLaunch app) := by
  obtain ⟨-, hr⟩ := hc.awaiting d hl
  obtain ⟨-, later, hs, -, hcaller⟩ := hc.of_reply hr
  unfold World.completeLaunch
  exact Settled.of_reply hr hs hcaller (by simp)

/-! ### Where the first call stands -/

/-- Where a run with no close stands with its first start call, given the events `taken` that its
loop has taken so far. -/
inductive Stage (env : Env h) : List Compile.Event → World h → Prop
  /-- No start call has claimed the run. -/
  | fresh {w : World h} (phase : w.phase = .configuring) (guard : w.guard = .notStarted)
      (cancelled : w.cancelled = false) (loop : w.loop = .absent) : Stage env [] w
  /-- The first call waits for the watch compiler. -/
  | watching {w : World h} (caller : w.watchCaller = some 0) (phase : w.phase = .watching)
      (guard : w.guard = .notStarted) (cancelled : w.cancelled = false)
      (loop : w.loop = .absent) : Stage env [] w
  /-- The loop runs, and every event it has taken is diagnostics. -/
  | receiving {taken : List Compile.Event} {w : World h} (watch : env.watchFailure = none)
      (quiet : firstDecisive taken = none) (loop : w.loop = .receiving)
      (cancelled : w.cancelled = false) (guard : w.guard = .notStarted)
      (phase : w.phase = .watching) : Stage env taken w
  /-- A clean build decided, executing the artifact published nothing, and the launch waits for
  the application until `d`, at most the handle wait from now. -/
  | launching {taken : List Compile.Event} {w : World h} {d : Nat}
      (watch : env.watchFailure = none)
      (built : ∃ hash ws, firstDecisive taken = some (.succeeded hash ws))
      (execute : env.execute = .ok none) (loop : w.loop = .awaitingApp d)
      (deadline : d ≤ w.now + env.handleWaitMs) (cancelled : w.cancelled = false)
      (writer : w.writer = true) : Stage env taken w
  /-- A clean build decided and the session was launched. -/
  | launched {taken : List Compile.Event} {w : World h} (watch : env.watchFailure = none)
      (built : ∃ hash ws, firstDecisive taken = some (.succeeded hash ws))
      (executed : ∃ p, env.execute = .ok p) (settled : Settled .ok w)
      (live : w.loop = .receiving → w.cancelled = false) : Stage env taken w
  /-- The first call was refused as the events decide, and the run is over. -/
  | refused {taken : List Compile.Event} {w : World h} (found : Bool)
      (settled : Settled (expectedAnswer env found taken) w)
      (failed : expectedAnswer env found taken ≠ .ok) (phase : w.phase = .terminated)
      (idle : w.loop = .absent ∨ w.loop = .finished)
      (ended : firstDecisive taken = none → env.watchFailure = none →
        w.receiver = .dropped ∧ w.queue = [])
      (quiet : firstDecisive taken = none → w.guard = .notStarted) : Stage env taken w

namespace Stage

variable {taken : List Compile.Event} {w w' : World h}

/-- What moves none of the fields a stage reads keeps the stage: time may pass, the first call's
answer must stay, and the queue may grow only while its receiver is there. -/
theorem frame (hs : Stage env taken w) (hphase : w'.phase = w.phase)
    (hguard : w'.guard = w.guard) (hloop : w'.loop = w.loop)
    (hcancel : w'.cancelled = w.cancelled) (hreply : w'.reply = w.reply)
    (hcaller : w'.watchCaller = w.watchCaller) (hwriter : w'.writer = w.writer)
    (hnow : w.now ≤ w'.now) (hstarts : ∀ r, w.starts.head? = some r → w'.starts.head? = some r)
    (hrecv : w'.receiver = w.receiver) (hqueue : w.receiver = .dropped → w'.queue = w.queue) :
    Stage env taken w' := by
  have hsettled : ∀ {r}, Settled r w → Settled r w' := fun hw =>
    ⟨hstarts _ hw.answer, hreply.trans hw.reply, hcaller.trans hw.caller,
      by rw [hphase]; exact hw.claimed⟩
  cases hs with
  | fresh phase guard cancelled loop =>
    exact .fresh (hphase.trans phase) (hguard.trans guard) (hcancel.trans cancelled)
      (hloop.trans loop)
  | watching caller phase guard cancelled loop =>
    exact .watching (hcaller.trans caller) (hphase.trans phase) (hguard.trans guard)
      (hcancel.trans cancelled) (hloop.trans loop)
  | receiving watch quiet loop cancelled guard phase =>
    exact .receiving watch quiet (hloop.trans loop) (hcancel.trans cancelled)
      (hguard.trans guard) (hphase.trans phase)
  | launching watch built execute loop deadline cancelled writer =>
    exact .launching watch built execute (hloop.trans loop) (by omega)
      (hcancel.trans cancelled) (hwriter.trans writer)
  | launched watch built executed settled live =>
    exact .launched watch built executed (hsettled settled)
      (fun hl => hcancel.trans (live (hloop.symm.trans hl)))
  | refused found settled failed phase idle ended quiet =>
    refine .refused found (hsettled settled) failed (hphase.trans phase)
      (by rw [hloop]; exact idle) (fun hq hw => ?_) (fun hq => hguard.trans (quiet hq))
    obtain ⟨hr, hq'⟩ := ended hq hw
    exact ⟨hrecv.trans hr, (hqueue hr).trans hq'⟩

/-- Nothing cancels the watch of a running loop without a close. -/
theorem cancelled_of_receiving (hs : Stage env taken w) (hl : w.loop = .receiving) :
    w.cancelled = false := by
  cases hs with
  | fresh _ _ _ loop => simp [loop] at hl
  | watching _ _ _ _ loop => simp [loop] at hl
  | receiving _ _ _ cancelled => exact cancelled
  | launching _ _ _ loop => simp [loop] at hl
  | launched _ _ _ _ live => exact live hl
  | refused _ _ _ _ idle => rcases idle with h' | h' <;> simp [h'] at hl

/-- So the loop has no event to take after a cancellation. -/
theorem takeLate_eq (hs : Stage env taken w) : w.takeLate env = w := by
  rcases @takeLate_cases _ env w with ⟨hl, hcan, -⟩ | heq
  · simp [hs.cancelled_of_receiving hl] at hcan
  · exact heq

/-- Time passing keeps the stage. -/
theorem time (hs : Stage env taken w) {t : Nat} (ht : w.now ≤ t) :
    Stage env taken { w with now := t } :=
  hs.frame rfl rfl rfl rfl rfl rfl rfl ht (fun _ h' => h') rfl (fun _ => rfl)

/-- The loop taking an event while only diagnostics have come: diagnostics keep it receiving, a
fatal event refuses the call, and a clean build launches, which fails, completes at once, or
waits for the application. -/
theorem handle_of_receiving (hc : w.Coherent) (watch : env.watchFailure = none)
    (quiet : firstDecisive taken = none) (loop : w.loop = .receiving)
    (cancelled : w.cancelled = false) (guard : w.guard = .notStarted)
    (phase : w.phase = .watching) (e : Compile.Event) (rest : List Compile.Event) :
    Stage env (taken ++ [e]) ({ w with queue := rest }.handle env e) := by
  have hr : w.reply = some 0 := hc.receiving loop guard
  obtain ⟨-, later, hs, -, hcaller⟩ := hc.of_reply hr
  cases e with
  | fatal m =>
    have hd : firstDecisive (taken ++ [.fatal m]) = some (.fatal m) :=
      firstDecisive_append_decides quiet rfl
    have hE : expectedAnswer env false (taken ++ [.fatal m]) = .failed (.compileFatal m) := by
      simp [expectedAnswer, watch, hd]
    simp only [World.handle]
    refine .refused false ?_ (by simp [hE]) (by simp [World.teardown, World.endLoop]) (.inr rfl)
      (fun hq => by simp [hd] at hq) (fun hq => by simp [hd] at hq)
    rw [hE]
    exact Settled.endLoop (Settled.of_reply hr hs hcaller (by simp [World.teardown]))
  | diagnostics es ws =>
    exact .receiving watch (by rw [firstDecisive_append_diagnostics]; exact quiet) loop cancelled
      guard phase
  | succeeded hash ws =>
    have hd : firstDecisive (taken ++ [.succeeded hash ws]) = some (.succeeded hash ws) :=
      firstDecisive_append_decides quiet rfl
    rw [handle_succeeded_of_notStarted (w := { w with queue := rest }) guard]
    rcases @beginLaunch_cases _ env { w with queue := rest } with ⟨ex, hx, heq⟩ |
        ⟨p, app, hx, -, heq⟩ | ⟨hx, -, heq⟩ <;> rw [heq]
    · -- the artifact does not execute
      have hE : expectedAnswer env false (taken ++ [.succeeded hash ws]) = .failed (.launch ex) := by
        simp [expectedAnswer, watch, hd, hx]
      refine .refused false ?_ (by simp [hE]) (by simp [World.failLaunch, World.teardown,
        World.endLoop]) (.inr rfl) (fun hq => by simp [hd] at hq) (fun hq => by simp [hd] at hq)
      rw [hE]
      exact Settled.endLoop (Settled.of_reply hr hs hcaller (by simp [World.teardown]))
    · -- the application is in the slot already
      refine .launched watch ⟨hash, ws, hd⟩ ⟨p, hx⟩ ?_
        (fun _ => by simp [World.completeLaunch, cancelled])
      unfold World.completeLaunch
      exact Settled.of_reply hr hs hcaller (by simp)
    · exact .launching watch ⟨hash, ws, hd⟩ hx rfl (Nat.le_refl _) cancelled rfl

/-- The loop stopping, with nothing queued, while only diagnostics have come: the watch ended. -/
theorem finishLoop_of_receiving (hc : w.Coherent) (watch : env.watchFailure = none)
    (quiet : firstDecisive taken = none) (loop : w.loop = .receiving)
    (guard : w.guard = .notStarted) (hq : w.queue = []) : Stage env taken w.finishLoop := by
  have hr : w.reply = some 0 := hc.receiving loop guard
  obtain ⟨-, later, hs, -, hcaller⟩ := hc.of_reply hr
  have hp := (hc.of_loop (by simp [loop])).1
  have hE : expectedAnswer env false taken = .failed .watchEnded := by
    simp [expectedAnswer, watch, quiet]
  refine .refused false ?_ (by simp [hE]) rfl (.inr rfl)
    (fun _ _ => ⟨rfl, by simp [World.finishLoop, World.endLoop, hq]⟩)
    (fun _ => by simp [World.finishLoop, World.endLoop, guard])
  rw [hE]
  exact (Settled.endLoop (Settled.of_reply hr hs hcaller hp)).of_calls rfl rfl rfl
    (by simp [World.finishLoop])

/-- **A step of the loop keeps a run following its events**: the loop only ever takes the next
queued event, and where the call stands moves on as that event decides. -/
theorem loopStep (hc : w.Coherent) (hs : Stage env taken w) (hstep : w.loopStep env = some w') :
    ∃ taken', taken ++ w.queue = taken' ++ w'.queue ∧ Stage env taken' w' := by
  rcases loopStep_cases hstep with ⟨hl, hcan, rfl⟩ | ⟨hl, -, e, rest, hq, rfl⟩ |
      ⟨hl, -, hq, -, rfl⟩ | ⟨d, app, hl, -, rfl⟩
  · simp [hs.cancelled_of_receiving hl] at hcan
  · refine ⟨taken ++ [e], by simp [hq], ?_⟩
    cases hs with
    | fresh _ _ _ loop => simp [loop] at hl
    | watching _ _ _ _ loop => simp [loop] at hl
    | receiving watch quiet _ cancelled guard phase =>
      exact handle_of_receiving hc watch quiet hl cancelled guard phase e rest
    | launching _ _ _ loop => simp [loop] at hl
    | launched watch built executed settled live =>
      obtain ⟨hash, ws, hb⟩ := built
      refine .launched watch ⟨hash, ws, ?_⟩ executed ?_ ?_
      · rw [firstDecisive_append_of_ne_none (by simp [hb]), hb]
      · refine Settled.handle ?_ e
        exact settled.of_calls rfl rfl rfl settled.claimed
      · intro hl'
        rw [handle_cancelled _ e hl']
        exact live hl
    | refused _ _ _ _ idle => rcases idle with h' | h' <;> simp [h'] at hl
  · refine ⟨taken, by simp [World.finishLoop, World.endLoop], ?_⟩
    cases hs with
    | fresh _ _ _ loop => simp [loop] at hl
    | watching _ _ _ _ loop => simp [loop] at hl
    | receiving watch quiet _ _ guard => exact finishLoop_of_receiving hc watch quiet hl guard hq
    | launching _ _ _ loop => simp [loop] at hl
    | launched watch built executed settled =>
      exact .launched watch built executed settled.finishLoop
        (fun hl' => by simp [World.finishLoop, World.endLoop] at hl')
    | refused _ _ _ _ idle => rcases idle with h' | h' <;> simp [h'] at hl
  · refine ⟨taken, by simp [World.completeLaunch], ?_⟩
    cases hs with
    | launching watch built execute _ _ cancelled =>
      exact .launched watch built ⟨none, execute⟩ (settled_of_complete hc hl app)
        (fun _ => by simp [World.completeLaunch, cancelled])
    | launched _ _ _ settled => exact absurd settled.reply (by simp [(hc.awaiting d hl).2])
    | fresh _ _ _ loop => simp [loop] at hl
    | watching _ _ _ _ loop => simp [loop] at hl
    | receiving _ _ loop => simp [loop] at hl
    | refused _ _ _ _ idle => rcases idle with h' | h' <;> simp [h'] at hl

/-- The launch deadline firing refuses a call whose launch waits: the application was not found. -/
theorem deadline (hc : w.Coherent) (hs : Stage env taken w) {d : Nat}
    (hl : w.loop = .awaitingApp d) :
    Stage env taken
      ({ w with now := max w.now d }.failLaunch (.applicationNotFound env.handleWaitMs)) := by
  cases hs with
  | launching watch built execute =>
    obtain ⟨hash, ws, hb⟩ := built
    have hE : expectedAnswer env false taken =
        .failed (.launch (.applicationNotFound env.handleWaitMs)) := by
      simp [expectedAnswer, watch, hb, execute]
    refine .refused false (hE ▸ settled_of_deadline hc hl) (by simp [hE])
      (by simp [World.failLaunch, World.teardown, World.endLoop]) (.inr rfl)
      (fun hq => by simp [hb] at hq) (fun hq => by simp [hb] at hq)
  | launched _ _ _ settled => exact absurd settled.reply (by simp [(hc.awaiting d hl).2])
  | fresh _ _ _ loop => simp [loop] at hl
  | watching _ _ _ _ loop => simp [loop] at hl
  | receiving _ _ loop => simp [loop] at hl
  | refused _ _ _ _ idle => rcases idle with h' | h' <;> simp [h'] at hl

end Stage

/-- The watch compiler has nobody to answer once no call waits for it. -/
theorem answerWatch_of_caller_none {w : World h} (hc : w.watchCaller = none) :
    w.answerWatch env = w := by
  simp only [answerWatch, hc]

theorem answerWatch_queue (w : World h) : (w.answerWatch env).queue = w.queue := by
  unfold answerWatch
  split
  · rfl
  · split <;> rfl

/-! ### Runs follow their events -/

/-- A run with no close follows the events delivered to it: it is coherent, and the delivered
events are those its loop has taken, which fix where the first call stands, followed by those
still queued. -/
structure Follows (env : Env h) (events : List Compile.Event) (w : World h) : Prop where
  coherent : w.Coherent
  /-- No close call waits for the runner to stop. -/
  unclosed : w.closing = false
  stage : ∃ taken, events = taken ++ w.queue ∧ Stage env taken w

namespace Follows

variable {events : List Compile.Event} {w : World h}

/-- A fresh supervisor follows the empty history. -/
theorem initial : Follows env [] (World.initial : World h) :=
  ⟨Coherent.initial, rfl, [], rfl, .fresh rfl rfl rfl rfl⟩

/-- The event loop keeps a run following its events. -/
theorem loopInvariant (events : List Compile.Event) : LoopInvariant env (Follows env events) where
  step := fun hf hs => by
    obtain ⟨taken, he, hst⟩ := hf.stage
    obtain ⟨taken', he', hst'⟩ := hst.loopStep hf.coherent hs
    exact ⟨hf.coherent.loopStep hs, (loopStep_keeps hs).2.2.2.2.trans hf.unclosed, taken',
      he.trans he', hst'⟩
  deadline := fun hf hl => by
    obtain ⟨taken, he, hst⟩ := hf.stage
    refine ⟨Coherent.loopInvariant.deadline hf.coherent hl, ?_, taken, ?_,
      hst.deadline hf.coherent hl⟩
    · simp [World.failLaunch, World.teardown, World.endLoop, hf.unclosed]
    · simp [he, World.failLaunch, World.teardown, World.endLoop]
  time := fun hf ht => by
    obtain ⟨taken, he, hst⟩ := hf.stage
    exact ⟨hf.coherent.of_control rfl rfl rfl rfl rfl rfl rfl rfl rfl, hf.unclosed, taken, he,
      hst.time ht⟩

/-- The watch compiler answering the first call: a failure refuses it at once, and a success
hands the events to a loop that has taken none of them yet. -/
theorem answerWatch (hf : Follows env events w) : Follows env events (w.answerWatch env) := by
  obtain ⟨taken, he, hst⟩ := hf.stage
  have hc := hf.coherent
  cases hcall : w.watchCaller with
  | none => rw [answerWatch_of_caller_none hcall]; exact hf
  | some i =>
    obtain ⟨rfl, hs, hr, hl⟩ := hc.watchCaller_first i hcall
    -- only the stage where the first call waits for the watch has a caller
    obtain ⟨rfl, hphase, hguard, hcancel⟩ : taken = [] ∧ w.phase = .watching ∧
        w.guard = .notStarted ∧ w.cancelled = false := by
      cases hst with
      | watching _ phase guard cancelled => exact ⟨rfl, phase, guard, cancelled⟩
      | fresh phase => simp [(hc.configuring phase).2.2.1] at hcall
      | receiving _ _ loop => simp [loop] at hl
      | launching _ _ _ loop => simp [loop] at hl
      | launched _ _ _ settled => simp [settled.caller] at hcall
      | refused _ settled => simp [settled.caller] at hcall
    refine ⟨hc.answerWatch, ?_, [], by rw [answerWatch_queue]; exact he, ?_⟩
    · simp only [World.answerWatch, hcall]
      split <;> exact hf.unclosed
    simp only [World.answerWatch, hcall]
    cases hwf : env.watchFailure with
    | some m =>
      have hE : expectedAnswer env false [] = .failed (.watchStart m) := by
        simp [expectedAnswer, hwf]
      refine .refused false ?_ (by simp [hE]) rfl (.inl hl) (fun _ hw => by simp [hwf] at hw)
        (fun _ => hguard)
      rw [hE]
      obtain ⟨rest, hs⟩ := hs
      exact ⟨by simp [World.resolve, hs], hr, rfl, by simp⟩
    | none => exact .receiving hwf rfl rfl hcancel hguard hphase

/-- **Every action but a close keeps a run following its events**, a send adding the event it
delivers. -/
theorem perform (hf : Follows env events w) {a : Action h} (ha : a ≠ .close) :
    Follows env (events ++ w.accepted a) (w.perform env a) := by
  obtain ⟨taken, he, hst⟩ := hf.stage
  have hc := hf.coherent
  cases a with
  | claimStart =>
    refine ⟨hc.claimStart, ?_, taken, ?_, ?_⟩
    · simp only [World.perform, World.claimStart]
      split <;> exact hf.unclosed
    · simp only [accepted, List.append_nil, World.perform, World.claimStart]
      split <;> exact he
    · simp only [World.perform]
      by_cases hp : w.phase = .configuring
      · -- the first call claims the run
        cases hst with
        | fresh _ guard cancelled loop =>
          have hs := (hc.configuring hp).1
          unfold World.claimStart
          rw [if_neg (by simp [hp])]
          exact .watching (by simp [hs]) rfl guard cancelled loop
        | watching _ phase => simp [phase] at hp
        | receiving _ _ _ _ _ phase => simp [phase] at hp
        | launching _ _ _ loop => simp [(hc.configuring hp).2.2.2.2] at loop
        | launched _ _ _ settled => exact absurd hp settled.claimed
        | refused _ settled => exact absurd hp settled.claimed
      · -- a later call is refused at once
        unfold World.claimStart
        rw [if_pos hp]
        exact hst.frame rfl rfl rfl rfl rfl rfl rfl (Nat.le_refl _)
          (fun r hr => by simp [List.head?_append, hr]) rfl (fun _ => rfl)
  | answerWatch => simpa [accepted, World.perform] using hf.answerWatch
  | send e =>
    rcases send_cases w e with ⟨hsent, heq, hrecv⟩ | ⟨hns, heq⟩
    · refine ⟨hc.perform (.send e), by simp [World.perform, heq, hf.unclosed], taken, ?_, ?_⟩
      · simp [accepted, hsent, World.perform, heq, he]
      · simp only [World.perform, heq]
        exact hst.frame rfl rfl rfl rfl rfl rfl rfl (Nat.le_refl _) (fun _ h' => h') rfl
          (fun hd => absurd hd hrecv)
    · simpa [accepted, hns, World.perform, heq] using hf
  | endEvents =>
    exact ⟨hc.perform .endEvents, hf.unclosed, taken, by simpa [accepted, World.perform] using he,
      hst.frame rfl rfl rfl rfl rfl rfl rfl (Nat.le_refl _) (fun _ h' => h') rfl (fun _ => rfl)⟩
  | close => exact absurd rfl ha
  | runnerStopped => simpa [accepted, World.perform, World.finishClose, hf.unclosed] using hf
  | takeLate => simpa [accepted, World.perform, hst.takeLate_eq] using hf
  | wait ms => simpa [accepted, World.perform] using (loopInvariant events).advance hf _
  | publish app =>
    simp only [accepted, List.append_nil, World.perform]
    split
    · exact ⟨hc.of_control rfl rfl rfl rfl rfl rfl rfl rfl rfl, hf.unclosed, taken, he,
        hst.frame rfl rfl rfl rfl rfl rfl rfl (Nat.le_refl _) (fun _ h' => h') rfl (fun _ => rfl)⟩
    · exact hf
  | clear =>
    simp only [accepted, List.append_nil, World.perform]
    split
    · exact ⟨hc.of_control rfl rfl rfl rfl rfl rfl rfl rfl rfl, hf.unclosed, taken, he,
        hst.frame rfl rfl rfl rfl rfl rfl rfl (Nat.le_refl _) (fun _ h' => h') rfl (fun _ => rfl)⟩
    · exact hf

/-- **Every run without a close follows the events it delivers.** -/
theorem run (hf : Follows env events w) {acts : List (Action h)} (hacts : .close ∉ acts) :
    Follows env (events ++ w.delivered env acts) (w.run env acts) := by
  induction acts generalizing w events with
  | nil => simpa [delivered, World.run] using hf
  | cons a rest ih =>
    have ha : a ≠ .close := fun h' => hacts (by simp [h'])
    have hrest : Action.close ∉ rest := fun h' => hacts (List.mem_cons_of_mem _ h')
    simpa [delivered, World.run, List.append_assoc] using ih (hf.perform ha) hrest

/-- **An answered first call has the answer its events decide**, for good, and a refusal leaves
the run terminated. -/
theorem answer (hf : Follows env events w) {r : StartResult} (hr : w.starts.head? = some r)
    (hp : r ≠ .pending) :
    Settled r w ∧ (∃ found, r = expectedAnswer env found events) ∧
      (r ≠ .ok → w.phase = .terminated) := by
  obtain ⟨taken, rfl, hst⟩ := hf.stage
  have hc := hf.coherent
  -- a call still owed its answer reads pending
  have hwaiting : ∀ rest, w.starts ≠ .pending :: rest := by
    rintro rest hs
    simp only [hs, List.head?_cons, Option.some.injEq] at hr
    exact hp hr.symm
  cases hst with
  | fresh phase => simp [(hc.configuring phase).1] at hr
  | watching caller =>
    obtain ⟨-, ⟨rest, hs⟩, -⟩ := hc.watchCaller_first 0 caller
    exact absurd hs (hwaiting rest)
  | receiving _ _ loop _ guard =>
    obtain ⟨-, rest, hs⟩ := hc.reply_first 0 (hc.receiving loop guard)
    exact absurd hs (hwaiting rest)
  | launching _ _ _ loop =>
    obtain ⟨-, rest, hs⟩ := hc.reply_first 0 (hc.awaiting _ loop).2
    exact absurd hs (hwaiting rest)
  | launched watch built executed settled =>
    obtain rfl : r = .ok := Option.some.inj (hr.symm.trans settled.answer)
    obtain ⟨hash, ws, hb⟩ := built
    obtain ⟨p, hx⟩ := executed
    refine ⟨settled, ⟨true, ?_⟩, fun hne => absurd rfl hne⟩
    rw [expectedAnswer_append (by simp [hb])]
    cases p <;> simp [expectedAnswer, watch, hb, hx]
  | refused found settled _ phase _ ended =>
    obtain rfl := Option.some.inj (hr.symm.trans settled.answer)
    refine ⟨settled, ⟨found, ?_⟩, fun _ => phase⟩
    exact (expectedAnswer_append_of_ended fun hq hw => (ended hq hw).2).symm

/-- **Diagnostics alone execute nothing**: while no delivered event decides, the artifact has not
run, and the run is still configuring or watching unless the first call was refused before any
event decided. -/
theorem quiet (hf : Follows env events w) (hq : firstDecisive events = none) :
    w.executions = 0 ∧ (w.phase = .configuring ∨ w.phase = .watching ∨
      w.starts.head? = some (expectedAnswer env false events)) := by
  obtain ⟨taken, rfl, hst⟩ := hf.stage
  have hc := hf.coherent
  have hq' := firstDecisive_eq_none_of_append hq
  cases hst with
  | fresh phase guard => exact ⟨hc.executions_of_guard guard, .inl phase⟩
  | watching _ phase guard => exact ⟨hc.executions_of_guard guard, .inr (.inl phase)⟩
  | receiving _ _ _ _ guard phase => exact ⟨hc.executions_of_guard guard, .inr (.inl phase)⟩
  | launching _ built =>
    obtain ⟨_, _, hb⟩ := built
    simp [hb] at hq'
  | launched _ built =>
    obtain ⟨_, _, hb⟩ := built
    simp [hb] at hq'
  | refused found settled _ _ _ ended quiet =>
    refine ⟨hc.executions_of_guard (quiet hq'), .inr (.inr ?_)⟩
    have ha := settled.answer
    rw [expectedAnswer_of_quiet hq'] at ha
    rw [expectedAnswer_append_of_ended fun _ hw => (ended hq' hw).2]
    exact ha

/-- **A decided or closed event stream answers the first call once the handle wait is over**:
when the watch compiler has answered the call and a delivered event decides it, or the channel is
closed, waiting a millisecond longer than the handle wait leaves it answered. -/
theorem answered_after_wait (hf : Follows env events w) (hcaller : w.watchCaller = none)
    (hstarts : w.starts ≠ []) (hdue : firstDecisive events ≠ none ∨ w.senderOpen = false) :
    ∃ r, (w.perform env (.wait (env.handleWaitMs + 1))).starts.head? = some r ∧
      r ≠ .pending := by
  have hf1 : Follows env events (w.settle env) := (loopInvariant events).settle hf
  have hstuck := @loopStep_settle _ env w
  obtain ⟨hnow, hopen, hcaller1, hlen, -⟩ := @settle_keeps _ env w
  obtain ⟨taken, he, hst⟩ := hf1.stage
  have hc1 := hf1.coherent
  -- an answer that has settled by the end of the loop's run stays through the rest of the wait
  have hdone : ∀ r, r ≠ .pending → Settled r (w.settle env) →
      ∃ r', (w.perform env (.wait (env.handleWaitMs + 1))).starts.head? = some r' ∧
        r' ≠ .pending :=
    fun r hp hs => ⟨r, ((Settled.loopInvariant r).advance_of_settle hs _).answer, hp⟩
  cases hst with
  | fresh phase =>
    have hnil := (hc1.configuring phase).1
    rw [hnil] at hlen
    exact absurd (List.eq_nil_of_length_eq_zero hlen.symm) hstarts
  | watching caller => simp [hcaller1, hcaller] at caller
  | receiving _ quiet loop cancelled =>
    -- a loop that cannot move on has taken every event and the channel is open
    obtain ⟨hq, ho⟩ := loopStep_eq_none_of_receiving loop cancelled hstuck
    rw [hq, List.append_nil] at he
    rcases hdue with hd | hd
    · exact absurd (he ▸ quiet) hd
    · simp [hopen, hd] at ho
  | launching _ _ _ loop deadline =>
    -- the deadline falls within the wait and refuses the call
    have hlt : _ < w.now + (env.handleWaitMs + 1) := Nat.lt_of_le_of_lt deadline (by omega)
    have hs := (@Settled.loopInvariant _ env _).settle (@settled_of_deadline _ env _ _ hc1 loop)
    refine ⟨.failed (.launch (.applicationNotFound env.handleWaitMs)), ?_, by simp⟩
    simp only [World.perform]
    rw [advance_of_deadline loop hlt, expire_of_awaiting loop]
    exact hs.answer
  | launched _ _ _ settled => exact hdone .ok (by simp) settled
  | refused found settled => exact hdone _ (expectedAnswer_ne_pending _) settled

/-- **An application published while the launch waits answers the first call with success**: the
loop completes the launch as soon as it next runs. -/
theorem publish_completes (hf : Follows env events w) {d : Nat} (hl : w.loop = .awaitingApp d)
    (app : LiveApp h) : (w.run env [.publish app, .wait 0]).starts.head? = some .ok := by
  obtain ⟨taken, -, hst⟩ := hf.stage
  have hc := hf.coherent
  -- only a waiting launch has the loop await the application, and it holds the writer
  have hwriter : w.writer = true := by
    cases hst with
    | launching _ _ _ _ _ _ writer => exact writer
    | launched _ _ _ settled => exact absurd settled.reply (by simp [(hc.awaiting d hl).2])
    | fresh _ _ _ loop => simp [loop] at hl
    | watching _ _ _ _ loop => simp [loop] at hl
    | receiving _ _ loop => simp [loop] at hl
    | refused _ _ _ _ idle => rcases idle with h' | h' <;> simp [h'] at hl
  have hpub : w.perform env (.publish app) = { w with slot := some app } := by
    simp [World.perform, hwriter]
  have hstep : ({ w with slot := some app } : World h).loopStep env =
      some (({ w with slot := some app } : World h).completeLaunch app) := by
    simp [World.loopStep, hl]
  have hs : Settled .ok (({ w with slot := some app } : World h).settle env) := by
    rw [settle_of_loopStep hstep]
    exact (Settled.loopInvariant .ok).settleFor (settled_of_complete (w := { w with slot := some app })
      (hc.of_control rfl rfl rfl rfl rfl rfl rfl rfl rfl) hl app) _
  show ((w.perform env (.publish app)).perform env (.wait 0)).starts.head? = some .ok
  rw [hpub]
  exact ((Settled.loopInvariant .ok).advance_of_settle hs _).answer

end Follows

/-! ### Without a publication -/

/-- No application has reached the slot and no session was launched. -/
structure Unpublished (w : World h) : Prop where
  slot : w.slot = none
  launches : w.launches = 0

namespace Unpublished

theorem initial : Unpublished (World.initial : World h) := ⟨rfl, rfl⟩

/-- With an artifact that publishes nothing itself, handling an event never brings an
application. -/
theorem handle (hx : env.execute = .ok none) {w : World h} (hu : Unpublished w)
    (e : Compile.Event) : Unpublished (w.handle env e) := by
  cases e with
  | fatal m => exact ⟨by simp [World.handle, World.teardown, World.endLoop],
      by simp [World.handle, World.teardown, World.endLoop, hu.launches]⟩
  | diagnostics es ws => exact hu
  | succeeded hash ws =>
    simp only [World.handle]
    split
    · rcases @beginLaunch_cases _ env w with ⟨ex, -, heq⟩ | ⟨p, app, hp, happ, heq⟩ |
          ⟨-, -, heq⟩ <;> rw [heq]
      · exact ⟨by simp [World.failLaunch, World.teardown, World.endLoop],
          by simp [World.failLaunch, World.teardown, World.endLoop, hu.launches]⟩
      · -- executing published nothing, so the slot the launch reads is empty
        rw [hx] at hp
        cases hp
        simp [hu.slot] at happ
      · exact ⟨hu.slot, hu.launches⟩
    · exact ⟨hu.slot, hu.launches⟩

/-- With an artifact that publishes nothing itself, the loop never brings an application. -/
theorem loopInvariant (hx : env.execute = .ok none) : LoopInvariant env (Unpublished (h := h)) where
  step := fun {w w'} hu hs => by
    rcases loopStep_cases hs with ⟨-, -, rfl⟩ | ⟨-, -, e, rest, -, rfl⟩ |
        ⟨-, -, -, -, rfl⟩ | ⟨d, app, -, happ, rfl⟩
    · exact ⟨by simp [World.finishLoop, World.endLoop, hu.slot],
        by simp [World.finishLoop, World.endLoop, hu.launches]⟩
    · refine Unpublished.handle hx ?_ e
      exact ⟨hu.slot, hu.launches⟩
    · exact ⟨by simp [World.finishLoop, World.endLoop, hu.slot],
        by simp [World.finishLoop, World.endLoop, hu.launches]⟩
    · simp [hu.slot] at happ
  deadline := fun hu _ => ⟨by simp [World.failLaunch, World.teardown, World.endLoop],
    by simp [World.failLaunch, World.teardown, World.endLoop, hu.launches]⟩
  time := fun hu _ => ⟨hu.slot, hu.launches⟩

theorem perform (hx : env.execute = .ok none) {w : World h} (hu : Unpublished w) {a : Action h}
    (ha : ∀ app, a ≠ .publish app) : Unpublished (w.perform env a) := by
  cases a with
  | claimStart =>
    simp only [World.perform, World.claimStart]
    split <;> exact ⟨hu.slot, hu.launches⟩
  | answerWatch =>
    simp only [World.perform, World.answerWatch]
    split
    · exact hu
    · split <;> exact ⟨hu.slot, hu.launches⟩
  | send e =>
    rcases send_cases w e with ⟨-, heq, -⟩ | ⟨-, heq⟩ <;> simp only [World.perform, heq] <;>
      exact ⟨hu.slot, hu.launches⟩
  | endEvents => exact ⟨hu.slot, hu.launches⟩
  | close => exact ⟨rfl, hu.launches⟩
  | runnerStopped =>
    simp only [World.perform, World.finishClose]
    split <;> exact ⟨hu.slot, hu.launches⟩
  | takeLate =>
    rcases @takeLate_cases _ env w with ⟨-, -, e, rest, -, heq⟩ | heq <;> rw [World.perform, heq]
    · refine Unpublished.handle hx ?_ e
      exact ⟨hu.slot, hu.launches⟩
    · exact hu
  | wait ms => exact (loopInvariant hx).advance hu _
  | publish app => exact absurd rfl (ha app)
  | clear =>
    simp only [World.perform]
    split
    · exact ⟨rfl, hu.launches⟩
    · exact hu

/-- **A run in which nothing publishes the application never launches the session.** -/
theorem run (hx : env.execute = .ok none) {w : World h} (hu : Unpublished w)
    {acts : List (Action h)} (hacts : ∀ app, Action.publish app ∉ acts) :
    Unpublished (w.run env acts) :=
  run_induction (fun hu ha => hu.perform hx ha) hu
    fun a ha app (h' : a = .publish app) => hacts app (h' ▸ ha)

end Unpublished

end World

/-- What the first start call of a run on a fresh supervisor gets, when no close is among the
run's actions `acts`:

* once answered, its answer is the one `expectedAnswer` gives for the events the run delivered,
  with `found` saying whether the application appeared in time, which it never does when nothing
  publishes it; a refusal leaves the run terminated; and no later action, a close included,
  changes the answer;
* while no delivered event decides, the artifact has not been executed, and the run is still
  configuring or watching unless the call was refused before any event decided;
* once the watch compiler has answered, a decided or closed event stream answers the call after
  a wait longer than the handle wait;
* an application published while the launch waits for it answers the call with success. -/
def FirstStartContract (env : Env h) (acts : List (World.Action h)) : Prop :=
  let w := (World.initial : World h).run env acts
  let events := (World.initial : World h).delivered env acts
  (∀ r, w.starts.head? = some r → r ≠ .pending →
    (∃ found, r = expectedAnswer env found events) ∧
    (env.execute = .ok none → (∀ app, World.Action.publish app ∉ acts) →
      r = expectedAnswer env false events) ∧
    (r ≠ .ok → w.phase = .terminated) ∧
    ∀ more, (w.run env more).starts.head? = some r) ∧
  (firstDecisive events = none → w.executions = 0 ∧
    (w.phase = .configuring ∨ w.phase = .watching ∨
      w.starts.head? = some (expectedAnswer env false events))) ∧
  (w.watchCaller = none → w.starts ≠ [] →
    (firstDecisive events ≠ none ∨ w.senderOpen = false) →
    ∃ r, (w.perform env (.wait (env.handleWaitMs + 1))).starts.head? = some r ∧
      r ≠ .pending) ∧
  (∀ d app, w.loop = .awaitingApp d →
    (w.run env [.publish app, .wait 0]).starts.head? = some .ok)

end LiveSession.Supervisor

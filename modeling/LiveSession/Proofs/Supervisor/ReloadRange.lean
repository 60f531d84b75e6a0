import LiveSession.Proofs.Supervisor.ReloadStatus
/-!
# The reload mark stays in range

The generations the application publishes come from its own output: any 64-bit counter value.
A finished rebuild that does not find its swap in yet marks the current generation plus one as
expected, and that sum leaves the counter when the slot is at the largest generation: the mark
then expects generation zero, and the next rebuild, finding the slot past zero, reads as already
swapped in.

Below that edge nothing leaves the range. In a launched run driven by publications, builds and
time passing, `World.InRange` holds in every state: the loop still takes the events it is sent,
the slot holds a generation shown so far (the one launched or one published since), and the mark
expects one of those generations, or is pending from one of them and expects the one after it.

## Main results

* `ReloadMark.markRebuild_in_range`: a rebuild marked at a generation below the largest expects
  that generation, or is pending from it and expects the next one.
* `World.InRange.perform`: each publication, build event and wait keeps a launched run in range.
* `reload_mark_stays_in_range`: while every generation shown stays below the largest, in every
  state of the run the mark expects a generation shown or the one after it, the next rebuild
  cannot wrap, and every event sent has been taken by the time the next wait ends.
* `rebuild_at_last_generation_wraps`: launched at the largest generation, one rebuild makes the
  mark expect generation zero, and a second one reads as swapped in.
-/

namespace LiveSession.Supervisor

open LiveSession.Session

variable {h : Type}

namespace ReloadMark

/-- A rebuild at a generation past the expected one finds its swap already in. -/
theorem markRebuild_of_lt {mark : ReloadMark} {current : Nat} (h : mark.expected < current) :
    mark.markRebuild current = ⟨none, current⟩ := by
  simp [markRebuild, h]

/-- A rebuild at a generation not past the expected one is pending from it and expects the next
generation, which wraps to zero past the largest. -/
theorem markRebuild_of_le {mark : ReloadMark} {current : Nat} (h : current ≤ mark.expected) :
    mark.markRebuild current = ⟨some current, (current + 1) % generationModulus⟩ := by
  simp [markRebuild, Nat.not_lt.mpr h]

/-- **Below the largest generation a rebuild stays in range**: the mark expects the current
generation, or is pending from it and expects the next one. -/
theorem markRebuild_in_range (mark : ReloadMark) {current : Nat}
    (hc : current + 1 < generationModulus) :
    mark.markRebuild current = ⟨none, current⟩ ∨
      mark.markRebuild current = ⟨some current, current + 1⟩ := by
  rcases Nat.lt_or_ge mark.expected current with hlt | hle
  · exact .inl (markRebuild_of_lt hlt)
  · exact .inr (by rw [markRebuild_of_le hle, Nat.mod_eq_of_lt hc])

end ReloadMark

namespace World

variable {env : Env h}

/-- The generation an action publishes, if it is a publication. -/
def Action.publishedGeneration : Action h → Option Nat
  | .publish app => some app.generation
  | _ => none

/-- Whether an action is one a launched run meets while it rebuilds: the application publishes a
generation, the compiler sends the result of a build that did not fail fatally, or time
passes. -/
def Action.rebuilding : Action h → Bool
  | .publish _ => true
  | .send (.succeeded _ _) => true
  | .send (.diagnostics _ _) => true
  | .wait _ => true
  | _ => false

/-- A launched run whose reload mark is in range for the generations `seen`: the loop waits for
more events and holds no fatal one, the slot holds a generation seen, and the mark expects a
generation seen, or is pending from one and expects the one after it. -/
structure InRange (seen : List Nat) (w : World h) : Prop where
  phase : w.phase = .launched
  guard : w.guard = .launched
  loop : w.loop = .receiving
  cancelled : w.cancelled = false
  senderOpen : w.senderOpen = true
  receiver : w.receiver = .loop
  writer : w.writer = true
  queue : ∀ e ∈ w.queue, ∀ m, e ≠ .fatal m
  slot : ∃ app, w.slot = some app ∧ app.generation ∈ seen
  mark : (∃ g ∈ seen, w.reload = ⟨none, g⟩) ∨ (∃ g ∈ seen, w.reload = ⟨some g, g + 1⟩)

namespace InRange

variable {seen : List Nat} {w : World h}

/-- Seeing more generations keeps a run in range. -/
theorem mono (hw : w.InRange seen) {seen' : List Nat} (hs : seen ⊆ seen') : w.InRange seen' := by
  obtain ⟨app, hslot, hgen⟩ := hw.slot
  refine ⟨hw.phase, hw.guard, hw.loop, hw.cancelled, hw.senderOpen, hw.receiver, hw.writer,
    hw.queue, ⟨app, hslot, hs hgen⟩, ?_⟩
  rcases hw.mark with ⟨g, hg, hm⟩ | ⟨g, hg, hm⟩
  · exact .inl ⟨g, hs hg, hm⟩
  · exact .inr ⟨g, hs hg, hm⟩

/-- Right after the first launch the run is in range for the generation launched. -/
theorem of_justLaunched {app : LiveApp h} (hw : w.JustLaunched app) :
    w.InRange [app.generation] :=
  ⟨hw.live.phase, hw.live.guard, hw.live.loop, hw.live.cancelled, hw.live.senderOpen,
    hw.live.receiver, hw.live.writer, by simp [hw.live.queue], ⟨app, hw.slot, by simp⟩,
    .inl ⟨app.generation, by simp, hw.mark⟩⟩

/-- Fields the step leaves alone keep the run in range, given the queue, slot and mark. -/
theorem of_control (hw : w.InRange seen) {w' : World h} (hphase : w'.phase = w.phase)
    (hguard : w'.guard = w.guard) (hloop : w'.loop = w.loop)
    (hcancelled : w'.cancelled = w.cancelled) (hopen : w'.senderOpen = w.senderOpen)
    (hreceiver : w'.receiver = w.receiver) (hwriter : w'.writer = w.writer)
    (hqueue : ∀ e ∈ w'.queue, ∀ m, e ≠ .fatal m)
    (hslot : ∃ app, w'.slot = some app ∧ app.generation ∈ seen)
    (hmark : (∃ g ∈ seen, w'.reload = ⟨none, g⟩) ∨ (∃ g ∈ seen, w'.reload = ⟨some g, g + 1⟩)) :
    w'.InRange seen :=
  ⟨hphase.trans hw.phase, hguard.trans hw.guard, hloop.trans hw.loop,
    hcancelled.trans hw.cancelled, hopen.trans hw.senderOpen, hreceiver.trans hw.receiver,
    hwriter.trans hw.writer, hqueue, hslot, hmark⟩

/-- **Taking a build event keeps the run in range.** A failed build changes nothing; a clean
one finds the launch done and marks a rebuild at the slot's generation, which is seen and below
the largest, so the mark lands in range. -/
theorem handle (hw : w.InRange seen) (hb : ∀ g ∈ seen, g + 1 < generationModulus)
    {e : Compile.Event} (he : ∀ m, e ≠ .fatal m) {rest : List Compile.Event}
    (hrest : ∀ x ∈ rest, ∀ m, x ≠ .fatal m) :
    ({ w with queue := rest }.handle env e).InRange seen := by
  cases e with
  | fatal m => exact absurd rfl (he m)
  | diagnostics es ws =>
    exact hw.of_control rfl rfl rfl rfl rfl rfl rfl hrest hw.slot hw.mark
  | succeeded hash ws =>
    obtain ⟨app, hslot, hgen⟩ := hw.slot
    have hcur : w.generation = app.generation := generation_of_slot hslot
    have hstep : ({ w with queue := rest }.handle env (.succeeded hash ws)) =
        { w with queue := rest, reload := w.reload.markRebuild app.generation } := by
      simp [World.handle, hw.guard, ← hcur, World.generation]
    rw [hstep]
    refine hw.of_control rfl rfl rfl rfl rfl rfl rfl hrest ⟨app, hslot, hgen⟩ ?_
    rcases w.reload.markRebuild_in_range (hb _ hgen) with hm | hm
    · exact .inl ⟨app.generation, hgen, hm⟩
    · exact .inr ⟨app.generation, hgen, hm⟩

/-- **The loop keeps a run in range**: it only takes build events, never waits for an
application, and time passing changes nothing it reads. -/
theorem loopInvariant (hb : ∀ g ∈ seen, g + 1 < generationModulus) :
    LoopInvariant env (@InRange h seen) where
  step := by
    intro w w' hw hs
    rcases loopStep_cases hs with ⟨-, hc, -⟩ | ⟨-, -, e, rest, hq, rfl⟩ |
        ⟨-, -, -, ho, -⟩ | ⟨d, -, hl, -, -⟩
    · -- a receiving loop in range is not cancelled
      simp [hw.cancelled] at hc
    · have hall := hw.queue
      rw [hq] at hall
      exact hw.handle hb (hall e List.mem_cons_self)
        (fun x hx => hall x (List.mem_cons_of_mem e hx))
    · -- nor is its channel closed
      simp [hw.senderOpen] at ho
    · simp [hw.loop] at hl
  deadline := by
    intro w d hw hl
    simp [hw.loop] at hl
  time := by
    intro w t hw _
    exact hw.of_control rfl rfl rfl rfl rfl rfl rfl hw.queue hw.slot hw.mark

/-- **Each action of a rebuilding run keeps it in range**, for the generations seen so far and
the one the action publishes, when they all stay below the largest. -/
theorem perform (hw : w.InRange seen) {a : Action h} (ha : a.rebuilding = true)
    (hb : ∀ g ∈ seen ++ a.publishedGeneration.toList, g + 1 < generationModulus) :
    (w.perform env a).InRange (seen ++ a.publishedGeneration.toList) := by
  cases a with
  | publish app =>
    -- the runner holds the writer, so the slot takes the new generation
    have hpub : w.perform env (.publish app) = { w with slot := some app } := by
      simp [World.perform, hw.writer]
    rw [hpub]
    refine (hw.mono (List.subset_append_left _ _)).of_control rfl rfl rfl rfl rfl rfl rfl
      hw.queue ⟨app, rfl, by simp [Action.publishedGeneration]⟩ ?_
    rcases hw.mark with ⟨g, hg, hm⟩ | ⟨g, hg, hm⟩
    · exact .inl ⟨g, List.mem_append_left _ hg, hm⟩
    · exact .inr ⟨g, List.mem_append_left _ hg, hm⟩
  | send e =>
    have he : ∀ m, e ≠ .fatal m := by
      intro m hm
      simp [hm, Action.rebuilding] at ha
    have hseen : seen ++ (@Action.send h e).publishedGeneration.toList = seen := by
      simp [Action.publishedGeneration]
    rw [hseen]
    simp only [World.perform]
    rcases send_cases w e with ⟨-, hsend, -⟩ | ⟨-, hsend⟩
    · rw [hsend]
      refine hw.of_control rfl rfl rfl rfl rfl rfl rfl ?_ hw.slot hw.mark
      intro x hx
      rcases List.mem_append.mp hx with hx | hx
      · exact hw.queue x hx
      · rw [List.mem_singleton.mp hx]
        exact he
    · rw [hsend]
      exact hw
  | wait ms =>
    have hseen : seen ++ (@Action.wait h ms).publishedGeneration.toList = seen := by
      simp [Action.publishedGeneration]
    rw [hseen] at hb ⊢
    exact (loopInvariant hb).advance hw _
  | claimStart => simp [Action.rebuilding] at ha
  | answerWatch => simp [Action.rebuilding] at ha
  | endEvents => simp [Action.rebuilding] at ha
  | close => simp [Action.rebuilding] at ha
  | runnerStopped => simp [Action.rebuilding] at ha
  | takeLate => simp [Action.rebuilding] at ha
  | clear => simp [Action.rebuilding] at ha

/-- **A rebuilding run stays in range** for the generations seen before it and those it
publishes, while they all stay below the largest. The induction is on the actions, each
one's publication joining what was seen. -/
theorem run (hw : w.InRange seen) {acts : List (Action h)}
    (ha : ∀ a ∈ acts, a.rebuilding = true)
    (hb : ∀ g ∈ seen ++ acts.filterMap Action.publishedGeneration, g + 1 < generationModulus) :
    (w.run env acts).InRange (seen ++ acts.filterMap Action.publishedGeneration) := by
  induction acts generalizing seen w with
  | nil => simpa [World.run] using hw
  | cons a rest ih =>
    have hsplit : a :: rest = [a] ++ rest := rfl
    have hseen : seen ++ (a :: rest).filterMap Action.publishedGeneration =
        (seen ++ a.publishedGeneration.toList) ++ rest.filterMap Action.publishedGeneration := by
      rw [hsplit, List.filterMap_append, ← List.append_assoc]
      cases hp : a.publishedGeneration <;> simp [hp]
    rw [hseen] at hb ⊢
    have hstep : (w.perform env a).InRange (seen ++ a.publishedGeneration.toList) :=
      hw.perform (ha a List.mem_cons_self)
      (fun g hg => hb g (List.mem_append_left _ hg))
    exact ih hstep (fun x hx => ha x (List.mem_cons_of_mem a hx)) hb

end InRange

/-- After a wait, a receiving loop that is not cancelled has taken every event sent before it. -/
theorem queue_eq_nil_of_wait {w : World h} {ms : Nat}
    (hw : (w.perform env (.wait ms)).loop = .receiving)
    (hc : (w.perform env (.wait ms)).cancelled = false)
    (hs : ∀ d, (w.settle env).loop ≠ .awaitingApp d) :
    (w.perform env (.wait ms)).queue = [] := by
  have hadv : w.perform env (.wait ms) =
      { w.settle env with now := max (w.settle env).now (w.now + ms) } :=
    advance_of_not_awaiting hs
  rw [hadv] at hw hc ⊢
  have hl : (w.settle env).loop = .receiving := hw
  have hc' : (w.settle env).cancelled = false := hc
  exact (loopStep_eq_none_of_receiving hl hc' (loopStep_settle w)).1

/-- The bound on the generations of a run holds of the generations of every prefix. -/
theorem bound_mono {g0 : Nat} {pre acts : List (Action h)} (hpre : pre <+: acts)
    (hb : ∀ g ∈ g0 :: acts.filterMap Action.publishedGeneration, g + 1 < generationModulus) :
    ∀ g ∈ g0 :: pre.filterMap Action.publishedGeneration, g + 1 < generationModulus := by
  intro g hg
  rcases List.mem_cons.mp hg with rfl | hg
  · exact hb g List.mem_cons_self
  · exact hb g (List.mem_cons_of_mem _ ((hpre.sublist.filterMap _).subset hg))

/-- A rebuilding run from the first launch is in range for the generation launched and those
it publishes. -/
theorem inRange_run {app0 : LiveApp h} {w0 : World h} (hw : w0.JustLaunched app0)
    {acts : List (Action h)} (ha : ∀ a ∈ acts, a.rebuilding = true)
    (hb : ∀ g ∈ app0.generation :: acts.filterMap Action.publishedGeneration,
      g + 1 < generationModulus) :
    (w0.run env acts).InRange (app0.generation :: acts.filterMap Action.publishedGeneration) :=
  (InRange.of_justLaunched hw).run ha hb

end World

open World

/-- **While every generation shown stays below the largest, the reload mark stays in range.**
The run starts right after the first launch at `app0` and meets only publications, build
events that are not fatal, and time passing. In every state reached, the slot's generation can
take one more without wrapping; the mark expects a generation shown so far (the one launched
or one published since) or the one after it; the loop is still taking events; and once a wait
ends, every event sent before it has been taken. -/
theorem reload_mark_stays_in_range {env : Env h} {app0 : LiveApp h} {w0 : World h}
    (hw : w0.JustLaunched app0) (acts : List (Action h)) (ha : ∀ a ∈ acts, a.rebuilding = true)
    (hb : ∀ g ∈ app0.generation :: acts.filterMap Action.publishedGeneration,
      g + 1 < generationModulus) :
    ∀ pre, pre <+: acts →
      (w0.run env pre).generation + 1 < generationModulus ∧
      (∃ g ∈ app0.generation :: pre.filterMap Action.publishedGeneration,
        (w0.run env pre).reload.expected = g ∨ (w0.run env pre).reload.expected = g + 1) ∧
      (w0.run env pre).loop = .receiving ∧ (w0.run env pre).cancelled = false ∧
      ∀ ms, pre.getLast? = some (.wait ms) → (w0.run env pre).queue = [] := by
  intro pre hpre
  have hrange : (w0.run env pre).InRange (app0.generation :: pre.filterMap
      Action.publishedGeneration) :=
    inRange_run hw (fun a hamem => ha a (hpre.subset hamem)) (bound_mono hpre hb)
  obtain ⟨app, hslot, hgen⟩ := hrange.slot
  refine ⟨?_, ?_, hrange.loop, hrange.cancelled, ?_⟩
  · rw [generation_of_slot hslot]
    exact bound_mono hpre hb _ hgen
  · rcases hrange.mark with ⟨g, hg, hm⟩ | ⟨g, hg, hm⟩
    · exact ⟨g, hg, .inl (by rw [hm])⟩
    · exact ⟨g, hg, .inr (by rw [hm])⟩
  · intro ms hlast
    -- the state before the wait was in range too, so its settled loop awaits no application
    obtain ⟨init, rfl⟩ : ∃ init, pre = init ++ [.wait ms] := List.getLast?_eq_some_iff.mp hlast
    have hinit_pre : init <+: acts := (List.prefix_append init _).trans hpre
    have hinit : (w0.run env init).InRange (app0.generation :: init.filterMap
        Action.publishedGeneration) :=
      inRange_run hw (fun a hamem => ha a (hinit_pre.subset hamem)) (bound_mono hinit_pre hb)
    have hsettle : ((w0.run env init).settle env).InRange (app0.generation :: init.filterMap
        Action.publishedGeneration) :=
      (InRange.loopInvariant (bound_mono hinit_pre hb)).settle hinit
    rw [run_append] at hrange ⊢
    exact queue_eq_nil_of_wait hrange.loop hrange.cancelled
      (fun d hd => by simp [hsettle.loop] at hd)

/-- A run launched at generation 1 that swaps in generation 2 and takes a clean build on either
side of the swap meets the hypotheses. -/
theorem reload_mark_in_range_around_swap :
    let env : Env Unit :=
      ⟨1000, "/p/.nirvana/hmrEntryBundle.js", none, .ok (some ⟨1, "AppModule", ()⟩)⟩
    let app0 : LiveApp Unit := ⟨1, "AppModule", ()⟩
    let w0 := (World.initial : World Unit).run env
      [.send (.succeeded (some "h") []), .claimStart, .answerWatch, .wait 10]
    let acts : List (Action Unit) :=
      [.send (.succeeded (some "a") []), .wait 0, .publish ⟨2, "AppModule", ()⟩,
        .send (.diagnostics ["TS2304"] []), .send (.succeeded none []), .wait 5]
    w0.JustLaunched app0 ∧ (∀ a ∈ acts, a.rebuilding = true) ∧
      (∀ g ∈ app0.generation :: acts.filterMap Action.publishedGeneration,
        g + 1 < generationModulus) ∧
      ∀ pre, pre <+: acts →
        (w0.run env pre).generation + 1 < generationModulus ∧
        (∃ g ∈ app0.generation :: pre.filterMap Action.publishedGeneration,
          (w0.run env pre).reload.expected = g ∨ (w0.run env pre).reload.expected = g + 1) ∧
        (w0.run env pre).loop = .receiving ∧ (w0.run env pre).cancelled = false ∧
        ∀ ms, pre.getLast? = some (.wait ms) → (w0.run env pre).queue = [] :=
  have hw : World.JustLaunched ⟨1, "AppModule", ()⟩ ((World.initial : World Unit).run
      ⟨1000, "/p/.nirvana/hmrEntryBundle.js", none, .ok (some ⟨1, "AppModule", ()⟩)⟩
      [.send (.succeeded (some "h") []), .claimStart, .answerWatch, .wait 10]) :=
    ⟨⟨rfl, rfl, rfl, rfl, rfl, rfl, rfl, rfl, rfl⟩, rfl, rfl⟩
  ⟨hw, by decide, by decide, reload_mark_stays_in_range hw _ (by decide) (by decide)⟩

/-- **A rebuild at the largest generation wraps the mark.** Launched at the largest generation,
the first clean rebuild is pending and makes the mark expect generation zero, neither the one
generation ever shown nor one above it. The second clean rebuild then finds the slot past zero
and reads as already swapped in, so the status is ready with two rebuilds observed and none
swapped in. -/
theorem rebuild_at_last_generation_wraps :
    let env : Env Unit := ⟨1000, "/p/.nirvana/hmrEntryBundle.js", none,
      .ok (some ⟨generationModulus - 1, "AppModule", ()⟩)⟩
    let launched := (World.initial : World Unit).run env
      [.claimStart, .answerWatch, .send (.succeeded (some "a") []), .wait 10]
    let once := launched.run env [.send (.succeeded (some "b") []), .wait 10]
    let twice := once.run env [.send (.succeeded (some "c") []), .wait 10]
    launched.status = .ready ∧ launched.generation = generationModulus - 1 ∧
      once.reload.expected = 0 ∧ once.status = .reloading ∧
      twice.generation = generationModulus - 1 ∧ twice.status = .ready := by
  decide

end LiveSession.Supervisor

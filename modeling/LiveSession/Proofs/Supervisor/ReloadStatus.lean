import LiveSession.Proofs.Supervisor.Loop
/-!
# When the reload status is right

After the first launch the application swaps every completed rebuild in by itself and publishes
the next generation, and the supervisor learns of each completed rebuild from its clean-build
event, on another channel and at any time after the build. The status should read reloading
exactly while some rebuild the supervisor has observed is not yet swapped in.

The supervisor keeps a single mark (`ReloadMark`) for this, and the mark cannot tell every
interleaving apart. A `Ledger` counts what a run has done (builds completed, applied by the
swaps and observed, swaps, and swaps since the last observation), and `Ledger.agrees` is the
exact condition at an observation: the build observed is already swapped in exactly when more
swaps came since the previous observation than the previous observed build still owed.

## Main results

* `World.Live.observe`, `World.Live.publish`: what an observation and a swap do to a launched run.
* `World.Tracks.status`: while every observation agreed, the mark is the ledger's and the status
  is the one asked for.
* `reload_status_right_iff`: in a run after the first launch, the status is right in every state
  exactly when every observation agrees.
* `reload_status_wrong_after_two_early_swaps`: two swaps published before their builds are
  observed leave the status reloading with every build swapped in.
-/

namespace LiveSession.Supervisor

open LiveSession.Session

variable {h : Type}

/-! ### What happens after the launch -/

/-- What happens to a launched run: a rebuild completes in the compiler; the application swaps in
every completed rebuild and publishes the next generation; or the supervisor's loop takes the
clean-build event of the next completed rebuild. -/
inductive ReloadEvent where
  | built
  | swapped
  | observed (hash : Option String) (warnings : List String)

/-- Whether the event is an observation by the supervisor. -/
def ReloadEvent.isObservation : ReloadEvent → Bool
  | .observed _ _ => true
  | _ => false

/-- What a launched run has done: the rebuilds completed, how many of them the swaps applied, how
many the supervisor observed, the swaps, the swaps since the last observation, and whether the
last observed rebuild still waited for its swap when observed. -/
structure Ledger where
  built : Nat
  applied : Nat
  observed : Nat
  swaps : Nat
  sinceSeen : Nat
  lastPending : Bool

namespace Ledger

/-- Nothing has happened since the launch. -/
def start : Ledger := ⟨0, 0, 0, 0, 0, false⟩

/-- Records one event. A swap applies every rebuild completed so far; an observation takes the
next completed rebuild, pending when the swaps have not applied it. -/
def step (L : Ledger) : ReloadEvent → Ledger
  | .built => { L with built := L.built + 1 }
  | .swapped => { L with applied := L.built, swaps := L.swaps + 1, sinceSeen := L.sinceSeen + 1 }
  | .observed _ _ =>
    { L with observed := L.observed + 1, sinceSeen := 0,
             lastPending := decide (L.applied ≤ L.observed) }

/-- Records the events in order. -/
def stepAll (L : Ledger) (events : List ReloadEvent) : Ledger := events.foldl step L

/-- The ledger of a run from the launch. -/
def of (events : List ReloadEvent) : Ledger := start.stepAll events

/-- The status a run should show: reloading exactly while an observed rebuild is not swapped
in. -/
def claimed (L : Ledger) : Status := if L.applied < L.observed then .reloading else .ready

/-- The swaps the last observed rebuild still owed when it was observed. -/
def owed (L : Ledger) : Nat := if L.lastPending then 1 else 0

/-- The exact condition at an observation: the rebuild about to be observed is already swapped
in exactly when more swaps came since the previous observation than the previous observed
rebuild still owed. -/
def agrees (L : Ledger) : Prop := L.observed < L.applied ↔ L.owed < L.sinceSeen

/-- `p` holds of the ledger just before each observation among the events. -/
def beforeObservations (p : Ledger → Prop) : Ledger → List ReloadEvent → Prop
  | _, [] => True
  | L, e :: rest => (e.isObservation = true → p L) ∧ (L.step e).beforeObservations p rest

instance : DecidablePred agrees := fun _ => inferInstanceAs (Decidable (_ ↔ _))

instance decBeforeObservations (p : Ledger → Prop) [DecidablePred p] :
    ∀ L events, Decidable (beforeObservations p L events)
  | _, [] => isTrue trivial
  | L, e :: rest =>
    have := decBeforeObservations p (L.step e) rest
    inferInstanceAs (Decidable ((e.isObservation = true → p L) ∧ _))

@[simp]
theorem stepAll_nil (L : Ledger) : L.stepAll [] = L := rfl

@[simp]
theorem stepAll_cons (L : Ledger) (e : ReloadEvent) (rest : List ReloadEvent) :
    L.stepAll (e :: rest) = (L.step e).stepAll rest := rfl

/-- Swaps are never undone. -/
theorem swaps_le_stepAll (L : Ledger) (events : List ReloadEvent) :
    L.swaps ≤ (L.stepAll events).swaps := by
  induction events generalizing L with
  | nil => exact Nat.le_refl _
  | cons e rest ih =>
    have hstep : L.swaps ≤ (L.step e).swaps := by cases e <;> simp [step]
    exact Nat.le_trans hstep (ih _)

/-- What holds of every ledger whose observations are of completed rebuilds: a swap since the
last observation applied every observed rebuild, and with no swap since, the last observed
rebuild is pending exactly when an observed rebuild is not applied. -/
structure Sane (L : Ledger) : Prop where
  observed_le : L.observed ≤ L.built
  applied_le : L.applied ≤ L.built
  since_le : L.sinceSeen ≤ L.swaps
  swapped : 0 < L.sinceSeen → L.observed ≤ L.applied
  unswapped : L.sinceSeen = 0 → (L.lastPending = true ↔ L.applied < L.observed)

theorem sane_start : start.Sane where
  observed_le := Nat.le_refl _
  applied_le := Nat.le_refl _
  since_le := Nat.le_refl _
  swapped := fun h' => absurd h' (Nat.lt_irrefl 0)
  unswapped := fun _ => by simp [start]

/-- Each event keeps a ledger sane, an observation when it is of a completed rebuild. -/
theorem Sane.step {L : Ledger} (hL : L.Sane) (e : ReloadEvent)
    (hobs : e.isObservation = true → L.observed < L.built) : (L.step e).Sane := by
  cases e with
  | built =>
    have ho := hL.observed_le
    have ha := hL.applied_le
    exact ⟨by simp [Ledger.step]; omega, by simp [Ledger.step]; omega, hL.since_le,
      hL.swapped, hL.unswapped⟩
  | swapped =>
    have hs := hL.since_le
    refine ⟨hL.observed_le, by simp [Ledger.step], by simp [Ledger.step]; omega,
      fun _ => hL.observed_le, fun h' => by simp [Ledger.step] at h'⟩
  | observed hash ws =>
    have hlt := hobs rfl
    refine ⟨by simp [Ledger.step]; omega, hL.applied_le, by simp [Ledger.step],
      fun h' => by simp [Ledger.step] at h', fun _ => ?_⟩
    simp only [Ledger.step, decide_eq_true_eq]
    omega

end Ledger

/-- A property of every prefix of `a :: l` is one of `[]` and one of every `a :: t`. -/
theorem forall_prefix_cons_iff {α : Type} {p : List α → Prop} {a : α} {l : List α} :
    (∀ pre, pre <+: a :: l → p pre) ↔ p [] ∧ ∀ t, t <+: l → p (a :: t) := by
  constructor
  · intro hall
    exact ⟨hall [] List.nil_prefix,
      fun t ht => hall _ (List.prefix_cons_iff.mpr (.inr ⟨t, rfl, ht⟩))⟩
  · rintro ⟨hnil, hcons⟩ pre hpre
    rcases List.prefix_cons_iff.mp hpre with rfl | ⟨t, rfl, ht⟩
    · exact hnil
    · exact hcons t ht

/-! ### A launched run -/

namespace World

variable {env : Env h}

/-- A run after its first launch whose loop waits for the next event, with an application in the
slot: the state rebuilds and swaps find it in. -/
structure Live (w : World h) : Prop where
  phase : w.phase = .launched
  guard : w.guard = .launched
  loop : w.loop = .receiving
  cancelled : w.cancelled = false
  queue : w.queue = []
  senderOpen : w.senderOpen = true
  receiver : w.receiver = .loop
  writer : w.writer = true
  populated : w.slot.isSome = true

/-- The run right after its first launch at the application `app`: the mark expects its
generation and nothing is pending. -/
structure JustLaunched (app : LiveApp h) (w : World h) : Prop where
  live : w.Live
  slot : w.slot = some app
  mark : w.reload = ⟨none, app.generation⟩

/-- The generation of an application in the slot. -/
theorem generation_of_slot {w : World h} {app : LiveApp h} (hs : w.slot = some app) :
    w.generation = app.generation := by
  simp [World.generation, hs]

namespace Live

variable {w : World h}

/-- The status of a launched run is read off the slot's generation and the mark. -/
theorem status_eq (hw : w.Live) : w.status = statusOf .launched (some w.generation) w.reload := by
  obtain ⟨app, happ⟩ := Option.isSome_iff_exists.mp hw.populated
  simp [World.status, World.generation, happ, hw.phase]

/-- **A swap** publishes the new generation through the writer and changes nothing else the
status reads. -/
theorem publish (hw : w.Live) (app : LiveApp h) :
    (w.perform env (.publish app)).Live ∧ (w.perform env (.publish app)).slot = some app ∧
      (w.perform env (.publish app)).reload = w.reload ∧
      (w.perform env (.publish app)).phase = w.phase := by
  have hpub : w.perform env (.publish app) = { w with slot := some app } := by
    simp [World.perform, hw.writer]
  rw [hpub]
  exact ⟨⟨hw.phase, hw.guard, hw.loop, hw.cancelled, hw.queue, hw.senderOpen, hw.receiver,
    hw.writer, rfl⟩, rfl, rfl, rfl⟩

/-- **An observation**: the clean-build event is accepted, and the loop, finding the launch
guard taken, marks a rebuild at the slot's generation before it waits again. -/
theorem observe (hw : w.Live) (hash : Option String) (ws : List String) :
    (w.run env [.send (.succeeded hash ws), .wait 0]).Live ∧
      (w.run env [.send (.succeeded hash ws), .wait 0]).slot = w.slot ∧
      (w.run env [.send (.succeeded hash ws), .wait 0]).reload =
        w.reload.markRebuild w.generation := by
  have hsend : (w.send (.succeeded hash ws)).1 = { w with queue := [.succeeded hash ws] } := by
    simp [World.send, World.offer, hw.senderOpen, hw.receiver, hw.queue, channelCapacity]
  have hstep : ({ w with queue := [.succeeded hash ws] } : World h).loopStep env =
      some { w with queue := [], reload := w.reload.markRebuild w.generation } := by
    simp [World.loopStep, hw.loop, hw.cancelled, World.handle, hw.guard, World.generation]
  have hstop : ({ w with queue := [], reload := w.reload.markRebuild w.generation } :
      World h).loopStep env = none := by
    simp [World.loopStep, hw.loop, hw.cancelled, hw.senderOpen]
  have hsettle : ({ w with queue := [.succeeded hash ws] } : World h).settle env =
      { w with queue := [], reload := w.reload.markRebuild w.generation } := by
    rw [settle_of_loopStep hstep, settleFor_of_loopStep_eq_none hstop]
  have hrun : w.run env [.send (.succeeded hash ws), .wait 0] =
      ({ w with queue := [.succeeded hash ws] } : World h).advance env (w.now + 0) := by
    simp only [World.run, World.perform, hsend]
  rw [hrun, advance_of_not_awaiting (by rw [hsettle]; simp [hw.loop]), hsettle]
  exact ⟨⟨hw.phase, hw.guard, hw.loop, hw.cancelled, rfl, hw.senderOpen, hw.receiver, hw.writer,
    hw.populated⟩, rfl, rfl⟩

end Live

/-- A launched run driven by what happens after the launch: a swap publishes the next generation
of the application, and an observation hands the loop a clean-build event that it takes before
anything else happens. -/
def reloadStep (env : Env h) (app : LiveApp h) (w : World h) : ReloadEvent → World h
  | .built => w
  | .swapped => w.perform env (.publish { app with generation := w.generation + 1 })
  | .observed hash ws => w.run env [.send (.succeeded hash ws), .wait 0]

/-- Drives a launched run through the events in order. -/
def reloadRun (env : Env h) (app : LiveApp h) (w : World h) (events : List ReloadEvent) :
    World h :=
  events.foldl (reloadStep env app) w

@[simp]
theorem reloadRun_nil (app : LiveApp h) (w : World h) : w.reloadRun env app [] = w := rfl

@[simp]
theorem reloadRun_cons (app : LiveApp h) (w : World h) (e : ReloadEvent)
    (rest : List ReloadEvent) :
    w.reloadRun env app (e :: rest) = (w.reloadStep env app e).reloadRun env app rest := rfl

/-- Runs that keep the slot keep its generation. -/
theorem generation_eq_of_slot_eq {w w' : World h} (hs : w'.slot = w.slot) :
    w'.generation = w.generation := by
  simp [World.generation, hs]

/-- While every observation agreed, the mark is the ledger's: pending from the generation of the
last observation if its rebuild was pending, and expecting that generation plus what it owed. -/
structure Tracks (g0 : Nat) (L : Ledger) (w : World h) : Prop where
  live : w.Live
  generation : w.generation = g0 + L.swaps
  mark : w.reload = ⟨if L.lastPending then some (g0 + L.swaps - L.sinceSeen) else none,
    g0 + L.swaps - L.sinceSeen + L.owed⟩

namespace Tracks

variable {g0 : Nat} {L : Ledger} {w : World h}

theorem of_justLaunched {app : LiveApp h} (hw : w.JustLaunched app) :
    Tracks app.generation Ledger.start w where
  live := hw.live
  generation := by simp [World.generation, hw.slot, Ledger.start]
  mark := by simp [hw.mark, Ledger.start, Ledger.owed]

/-- **While the mark is the ledger's, the status is the one asked for.** -/
theorem status (ht : Tracks g0 L w) (hL : L.Sane) : w.status = L.claimed := by
  rw [ht.live.status_eq, ht.generation, ht.mark]
  have hs := hL.since_le
  unfold Ledger.claimed
  cases hp : L.lastPending with
  | false =>
    -- nothing pending: the status is ready, and every observed rebuild is applied
    have hle : L.observed ≤ L.applied := by
      rcases Nat.eq_zero_or_pos L.sinceSeen with h0 | hpos
      · refine Nat.not_lt.mp fun hlt => ?_
        have := (hL.unswapped h0).mpr hlt
        simp [hp] at this
      · exact hL.swapped hpos
    simp [statusOf, Nat.not_lt.mpr hle]
  | true =>
    -- pending from the last observation: reloading exactly while no swap came since
    rcases Nat.eq_zero_or_pos L.sinceSeen with h0 | hpos
    · have hlt := (hL.unswapped h0).mp hp
      simp [statusOf, h0, hlt]
    · have hle := hL.swapped hpos
      have hgt : ¬ g0 + L.swaps ≤ g0 + L.swaps - L.sinceSeen := by omega
      simp [statusOf, hgt, Nat.not_lt.mpr hle]

theorem built (ht : Tracks g0 L w) (app : LiveApp h) :
    Tracks g0 (L.step .built) (w.reloadStep env app .built) :=
  ⟨ht.live, ht.generation, ht.mark⟩

/-- A swap moves the slot one generation on and leaves the mark; the ledger counts one more swap
since the last observation, so its prediction stays the same. -/
theorem swapped (ht : Tracks g0 L w) (hL : L.Sane) (app : LiveApp h) :
    Tracks g0 (L.step .swapped) (w.reloadStep env app .swapped) := by
  obtain ⟨hlive, hslot, hmark, -⟩ :=
    @Live.publish h env w ht.live { app with generation := w.generation + 1 }
  have hs := hL.since_le
  refine ⟨hlive, ?_, ?_⟩
  · show (w.perform env (.publish _)).generation = g0 + (L.swaps + 1)
    rw [generation_of_slot hslot]
    show w.generation + 1 = _
    rw [ht.generation]
    omega
  · have hsub : g0 + (L.swaps + 1) - (L.sinceSeen + 1) = g0 + L.swaps - L.sinceSeen := by omega
    show (w.perform env (.publish _)).reload = _
    rw [hmark, ht.mark]
    cases hp : L.lastPending <;> simp [Ledger.step, Ledger.owed, hsub, hp]

/-- The mark a rebuild observed under the ledger's mark leaves. -/
theorem markRebuild_eq (ht : Tracks g0 L w) (hs : L.sinceSeen ≤ L.swaps) :
    w.reload.markRebuild w.generation =
      if L.owed < L.sinceSeen then ⟨none, g0 + L.swaps⟩
      else ⟨some (g0 + L.swaps), (g0 + L.swaps + 1) % generationModulus⟩ := by
  rw [ht.mark, ht.generation]
  unfold ReloadMark.markRebuild
  by_cases hlt : L.owed < L.sinceSeen
  · have : g0 + L.swaps > g0 + L.swaps - L.sinceSeen + L.owed := by omega
    simp [this, hlt]
  · have : ¬ g0 + L.swaps > g0 + L.swaps - L.sinceSeen + L.owed := by omega
    simp [this, hlt]

/-- **The status right after an observation**: ready when more swaps came since the previous
observation than that one still owed, reloading otherwise. -/
theorem observed_status (ht : Tracks g0 L w) (hL : L.Sane) (app : LiveApp h)
    (hash : Option String) (ws : List String) :
    (w.reloadStep env app (.observed hash ws)).status =
      if L.owed < L.sinceSeen then .ready else .reloading := by
  obtain ⟨hlive, hslot, hmark⟩ := @Live.observe h env w ht.live hash ws
  show (w.run env _).status = _
  rw [hlive.status_eq, generation_eq_of_slot_eq hslot, hmark, ht.markRebuild_eq hL.since_le,
    ht.generation]
  by_cases hlt : L.owed < L.sinceSeen <;> simp [statusOf, hlt]

/-- Right after an observation the status is the one asked for exactly when the observation
agrees. -/
theorem observed_status_eq_iff (ht : Tracks g0 L w) (hL : L.Sane) (app : LiveApp h)
    (hash : Option String) (ws : List String) :
    (w.reloadStep env app (.observed hash ws)).status = (L.step (.observed hash ws)).claimed ↔
      L.agrees := by
  rw [ht.observed_status hL]
  unfold Ledger.claimed Ledger.agrees
  simp only [Ledger.step]
  have hnext : L.applied < L.observed + 1 ↔ ¬ L.observed < L.applied := by omega
  simp only [hnext]
  by_cases hlt : L.owed < L.sinceSeen <;> by_cases hap : L.observed < L.applied <;>
    simp [hlt, hap]

/-- **An observation that agrees keeps the mark the ledger's.** The bound keeps the expected
generation clear of the counter's wrap. -/
theorem observed (ht : Tracks g0 L w) (hL : L.Sane) (hagree : L.agrees)
    (hbound : g0 + L.swaps + 1 < generationModulus) (app : LiveApp h)
    (hash : Option String) (ws : List String) :
    Tracks g0 (L.step (.observed hash ws)) (w.reloadStep env app (.observed hash ws)) := by
  obtain ⟨hlive, hslot, hmark⟩ := @Live.observe h env w ht.live hash ws
  refine ⟨hlive, ?_, ?_⟩
  · show (w.run env _).generation = g0 + L.swaps
    rw [generation_eq_of_slot_eq hslot, ht.generation]
  · show (w.run env _).reload = _
    rw [hmark, ht.markRebuild_eq hL.since_le]
    by_cases hlt : L.owed < L.sinceSeen
    · -- the observed rebuild was already swapped in: nothing is pending
      have happ : ¬ L.applied ≤ L.observed := Nat.not_le.mpr (hagree.mpr hlt)
      rw [if_pos hlt]
      simp [Ledger.step, Ledger.owed, happ]
    · -- the observed rebuild waits for the next swap
      have happ : L.applied ≤ L.observed := Nat.not_lt.mp (mt hagree.mp hlt)
      rw [if_neg hlt]
      simp [Ledger.step, Ledger.owed, happ, Nat.mod_eq_of_lt hbound]

/-- **From a state whose mark is the ledger's, the status is right in every later state exactly
when every later observation agrees.** The induction is on the events; the mark stays the
ledger's through builds, swaps and agreeing observations, and the first observation that
disagrees leaves the status wrong at once. -/
theorem status_right_iff (ht : Tracks g0 L w) (hL : L.Sane) (app : LiveApp h)
    (events : List ReloadEvent)
    (hvalid : L.beforeObservations (fun L => L.observed < L.built) events)
    (hbound : g0 + (L.stepAll events).swaps + 1 < generationModulus) :
    (∀ pre, pre <+: events → (w.reloadRun env app pre).status = (L.stepAll pre).claimed) ↔
      L.beforeObservations Ledger.agrees events := by
  induction events generalizing L w with
  | nil =>
    simp only [Ledger.beforeObservations, iff_true]
    intro pre hpre
    rw [List.prefix_nil.mp hpre]
    exact ht.status hL
  | cons e rest ih =>
    obtain ⟨hobs, hrest⟩ := hvalid
    rw [Ledger.stepAll_cons] at hbound
    have hL' : (L.step e).Sane := hL.step e hobs
    rw [forall_prefix_cons_iff, Ledger.beforeObservations]
    simp only [reloadRun_nil, Ledger.stepAll_nil, reloadRun_cons, Ledger.stepAll_cons,
      ht.status hL, true_and]
    cases e with
    | built =>
      simp only [ReloadEvent.isObservation, Bool.false_eq_true, false_implies, true_and]
      exact ih (ht.built app) hL' hrest hbound
    | swapped =>
      simp only [ReloadEvent.isObservation, Bool.false_eq_true, false_implies, true_and]
      exact ih (ht.swapped hL app) hL' hrest hbound
    | observed hash ws =>
      by_cases hag : L.agrees
      · -- an observation swaps nothing, so the bound holds here already
        have hsw : g0 + L.swaps + 1 < generationModulus := by
          have hle := Ledger.swaps_le_stepAll (L.step (.observed hash ws)) rest
          have hsame : (L.step (.observed hash ws)).swaps = L.swaps := rfl
          omega
        simp only [ReloadEvent.isObservation, hag, implies_true, true_and]
        exact ih (ht.observed hL hag hsw app hash ws) hL' hrest hbound
      · -- the state right after this observation already has the wrong status
        refine iff_of_false (fun hall => hag ?_) (fun hrhs => hag (hrhs.1 rfl))
        exact (ht.observed_status_eq_iff hL app hash ws).mp (hall [] List.nil_prefix)

end Tracks

end World

/-- **The reload status is right in every state of a run after the first launch exactly when
every observation agrees.** The run starts right after the first launch at `app0`; swaps
publish the next generations of it, and the observations are of completed rebuilds only. The
generations stay below the counter's size. -/
theorem reload_status_right_iff {env : Env h} {app0 : LiveApp h} {w0 : World h}
    (hw : w0.JustLaunched app0) (events : List ReloadEvent)
    (hvalid : Ledger.start.beforeObservations (fun L => L.observed < L.built) events)
    (hbound : app0.generation + (Ledger.of events).swaps + 1 < generationModulus) :
    (∀ pre, pre <+: events → (w0.reloadRun env app0 pre).status = (Ledger.of pre).claimed) ↔
      Ledger.start.beforeObservations Ledger.agrees events :=
  (World.Tracks.of_justLaunched hw).status_right_iff Ledger.sane_start app0 events hvalid hbound

/-- A run launched at generation 1 by a runner that publishes at once, with rebuilds observed
both before and after their swaps, meets the hypotheses. -/
theorem reload_status_right_when_observed_early :
    let env : Env Unit :=
      ⟨1000, "/p/.nirvana/hmrEntryBundle.js", none, .ok (some ⟨1, "AppModule", ()⟩)⟩
    let app0 : LiveApp Unit := ⟨1, "AppModule", ()⟩
    let w0 := (World.initial : World Unit).run env
      [.send (.succeeded (some "h") []), .claimStart, .answerWatch, .wait 10]
    let events : List ReloadEvent :=
      [.built, .observed (some "h") [], .swapped, .built, .swapped, .observed none ["TS6133"]]
    w0.JustLaunched app0 ∧
      Ledger.start.beforeObservations (fun L => L.observed < L.built) events ∧
      app0.generation + (Ledger.of events).swaps + 1 < generationModulus ∧
      ((∀ pre, pre <+: events →
          (w0.reloadRun env app0 pre).status = (Ledger.of pre).claimed) ↔
        Ledger.start.beforeObservations Ledger.agrees events) :=
  have hw : World.JustLaunched ⟨1, "AppModule", ()⟩ ((World.initial : World Unit).run
      ⟨1000, "/p/.nirvana/hmrEntryBundle.js", none, .ok (some ⟨1, "AppModule", ()⟩)⟩
      [.send (.succeeded (some "h") []), .claimStart, .answerWatch, .wait 10]) :=
    ⟨⟨rfl, rfl, rfl, rfl, rfl, rfl, rfl, rfl, rfl⟩, rfl, rfl⟩
  ⟨hw, by decide, by decide, reload_status_right_iff hw _ (by decide) (by decide)⟩

/-- **Two swaps published before their rebuilds are observed leave the status wrong.** Launched
at generation 1, the application swaps in two rebuilds and publishes generations 2 and 3 before
the supervisor takes either clean-build event. The first observation finds the slot past the
expected generation and clears the mark; the second marks a rebuild pending from generation 3,
so the status reads reloading with every rebuild swapped in. -/
theorem reload_status_wrong_after_two_early_swaps :
    let env : Env Unit :=
      ⟨1000, "/p/.nirvana/hmrEntryBundle.js", none, .ok (some ⟨1, "AppModule", ()⟩)⟩
    let w0 := (World.initial : World Unit).run env
      [.send (.succeeded (some "h") []), .claimStart, .answerWatch, .wait 10]
    let events : List ReloadEvent :=
      [.built, .swapped, .built, .swapped, .observed (some "h") [], .observed (some "h") []]
    (w0.reloadRun env ⟨1, "AppModule", ()⟩ events).status = .reloading ∧
      (Ledger.of events).claimed = .ready := by
  decide

end LiveSession.Supervisor

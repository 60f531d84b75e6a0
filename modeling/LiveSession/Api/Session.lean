import LiveSession.Api.Codec
import LiveSession.Session.Repl
import LiveSession.Session.Scripted
/-!
# Session requests

A `session` request runs steps against one application slot with the session console over it.
The application published into the slot is scripted (`Session.scriptedAnswer`), and time is
virtual: it passes only while a step waits for the slot, and a publication scheduled for later
runs only while a wait is suspended, once its time has come.

The console steps (`get`, `try_get`, `tokens`, `eval`, `describe`, `status`, `app` and `repl`)
are shared with the requests that run a supervisor or a child application.
-/

namespace LiveSession.Api

open LiveSession.Json LiveSession.Session LiveSession.Supervisor

/-- A container result in answer form. -/
def containerResultJson : Except ContainerError Value → Value
  | .ok v => obj [("ok", v)]
  | .error e => obj [("err", .str e.variant), ("message", .str e.display)]

/-- Whether a text starts with `loaded ` and a time `DD:DD:DD`. -/
def startsWithLoadTime (cs : List Char) : Bool :=
  match cs.drop 7 with
  | h1 :: h2 :: ':' :: m1 :: m2 :: ':' :: s1 :: s2 :: _ =>
    cs.take 7 == "loaded ".toList && [h1, h2, m1, m2, s1, s2].all Char.isDigit
  | _ => false

/-- Replaces every load time in a text by `HH:MM:SS`: the answers do not depend on the wall
clock. -/
def maskLoadTimes (s : String) : String := String.ofList (go s.toList)
where
  go : List Char → List Char
    | [] => []
    | c :: rest =>
      if startsWithLoadTime (c :: rest) then "loaded HH:MM:SS".toList ++ go ((c :: rest).drop 15)
      else c :: go rest
  termination_by cs => cs.length
  decreasing_by all_goals simp only [List.length_drop, List.length_cons]; omega

/-- A reply in answer form, load times masked. -/
def replyJson : Reply → Value
  | .exit => obj [("reply", .str "exit")]
  | .clear => obj [("reply", .str "clear")]
  | .text s => obj [("reply", .str "text"), ("text", .str (maskLoadTimes s))]
  | .error s => obj [("reply", .str "error"), ("text", .str (maskLoadTimes s))]

/-- The clock the requests read load times off. -/
def midnight {h : Type} (_ : LiveApp h) : TimeOfDay := ⟨0, 0, 0⟩

/-- A published application in answer form. -/
def appJson {h : Type} : Option (LiveApp h) → Value
  | some a => obj [("generation", Value.nat a.generation), ("module", .str a.module)]
  | none => .null

/-- Runs a console step, if the step is one. -/
def consoleStep {m : Type → Type} [Monad m] {h : Type} (s : Console m h) (step : Value) :
    Option (m Value) :=
  let what := strOr step "do" ""
  if what == "get" then some (s.get (strOr step "token" ""))
  else if what == "try_get" then some (s.tryGet (strOr step "token" ""))
  else if what == "tokens" then some s.tokens
  else if what == "eval" then some (containerResultJson <$> s.eval (strOr step "code" ""))
  else if what == "describe" then some (containerResultJson <$> s.describe)
  else if what == "status" then some ((fun st => Value.str st.label) <$> s.status)
  else if what == "app" then some (appJson <$> s.app)
  else if what == "repl" then some (replyJson <$> execute midnight s (strOr step "line" ""))
  else none

/-- A status by name. -/
def statusOf? (s : String) : Option Status :=
  if s == "loading" then some .loading
  else if s == "ready" then some .ready
  else if s == "reloading" then some .reloading
  else if s == "disconnected" then some .disconnected
  else none

/-- The state of a `session` request: the slot, the status probe, the virtual clock and the
publications scheduled for later. -/
structure Bench where
  slot : Option (LiveApp Value)
  probe : Option Status
  now : Nat
  scheduled : List (Nat × LiveApp Value)

/-- The session console over a bench. -/
def Bench.console (b : Bench) : Console Id Value :=
  ⟨⟨pure b.slot, fun script c => pure (scriptedAnswer script c)⟩, b.probe.map pure⟩

/-- The application a step publishes. -/
def publishedApp (step : Value) : LiveApp Value :=
  ⟨natOr step "generation" 1, strOr step "module" "AppModule", (step.get? "app").getD (.obj [])⟩

/-- Runs the scheduled publications due at `t`, in the order they were scheduled; the slot ends
with the last. -/
def Bench.publishAt (b : Bench) (t : Nat) : Bench :=
  let firing := b.scheduled.filter (·.1 == t)
  { b with slot := (firing.getLast?.map (·.2)).orElse fun _ => b.slot,
           scheduled := b.scheduled.filter (·.1 != t) }

/-- Waits up to `ms` for the slot. An application already there is taken at once, and with no
time to wait the wait ends at once; neither lets a scheduled publication run. Otherwise the
waiter is suspended: publications whose time has already come run first and are taken; else
virtual time runs to the earliest publication strictly before the time runs out, which is taken.
A publication due exactly when the time runs out comes too late: the waiter looks first. -/
def Bench.wait (b : Bench) (ms : Nat) : Bench × Value :=
  match b.slot with
  | some a => (b, appJson (some a))
  | none =>
    if ms == 0 then (b, .null)
    else
      let ready := b.scheduled.filter (·.1 ≤ b.now)
      if !ready.isEmpty then
        let b := { b with slot := (ready.getLast?.map (·.2)),
                          scheduled := b.scheduled.filter (·.1 > b.now) }
        (b, appJson b.slot)
      else
        match (b.scheduled.filter (·.1 < b.now + ms)).map (·.1) |>.min? with
        | some t =>
          let b := { b with now := t }.publishAt t
          (b, appJson b.slot)
        | none => ({ b with now := b.now + ms }, .null)

/-- Runs one step of a `session` request. -/
def Bench.step (b : Bench) (step : Value) : Bench × Value :=
  let what := strOr step "do" ""
  if what == "publish" then
    let a := publishedApp step
    ({ b with slot := some a }, obj [("generation", Value.nat a.generation)])
  else if what == "clear" then ({ b with slot := none }, obj [("populated", .bool false)])
  else if what == "generation" then (b, Value.nat ((b.slot.map (·.generation)).getD 0))
  else if what == "populated" then (b, .bool b.slot.isSome)
  else if what == "set_status" then
    let p := (step.getStr? "status").bind statusOf?
    ({ b with probe := p }, (p.map fun s => Value.str s.label).getD .null)
  else if what == "wait" then
    let b := match step.getNat? "publish_after_ms" with
      | some d => { b with scheduled := b.scheduled ++ [(b.now + d, publishedApp step)] }
      | none => b
    b.wait (natOr step "ms" 0)
  else match consoleStep b.console step with
    | some r => (b, Id.run r)
    | none => (b, badInput ("unknown step `" ++ what ++ "`"))

/-- `session`: runs steps against one slot. -/
def sessionOp (req : Value) : Answer := do
  let steps ← reqArr req "steps"
  let (_, out) := steps.foldl (fun (b, acc) st =>
    let (b', r) := b.step st
    (b', acc ++ [r])) ((⟨none, none, 0, []⟩ : Bench), [])
  .ok (.arr out)

end LiveSession.Api

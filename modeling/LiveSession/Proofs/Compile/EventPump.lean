import LiveSession.Compile.Watcher
/-!
# The watch pump sends the driver's compile events, then one last word

The pump reads the watch driver's output line by line and sends a compile event for each framed
notification other than `compile/ready` that stands for one; plain output, malformed frames,
responses and other notifications send nothing. What stops it is the end of the output, a read
error, or its noticing that the watch was cancelled. The end of the output sends one
`watch process exited`, unless the watch was cancelled by then; a read error sends one
`reading watch output: …` whether or not it was; noticing the cancellation sends nothing.

Main statement: `watch_pump_sends_line_events`, over every run of the pump: cancellations and line
reads (`Wake.Continues`) up to a stop, then anything. It rests on `pump_append`, which says what a
stretch of such wakes sends by induction on it, and on the specification of
`Event.ofNotification` method by method.
-/

namespace LiveSession.Compile

open LiveSession.Json LiveSession.Rpc LiveSession.Supervisor

/-- The line a wake reads, if it reads one. -/
def Wake.line? : Wake → Option String
  | .read (.line l) => some l
  | _ => none

/-- A wake that lets the pump go on: a cancellation, or a line read. -/
def Wake.Continues (w : Wake) : Prop := w = .cancel ∨ ∃ l, w = .read (.line l)

/-- What a stretch of cancellations and line reads sends: the events of its lines, after which
the pump goes on, cancelled if the stretch held a cancellation. -/
theorem pump_append {pre : List Wake} (hpre : ∀ w ∈ pre, w.Continues) (c : Bool)
    (ws : List Wake) :
    pump c (pre ++ ws) = (pre.filterMap Wake.line?).filterMap lineEvent ++
      pump (c || decide (Wake.cancel ∈ pre)) ws := by
  induction pre generalizing c with
  | nil => simp
  | cons w pre ih =>
    have hrest : ∀ w ∈ pre, w.Continues := fun v hv => hpre v (List.mem_cons_of_mem w hv)
    rcases hpre w List.mem_cons_self with rfl | ⟨l, rfl⟩
    · -- the cancellation is only remembered; nothing is sent
      simp [pump, ih hrest, List.filterMap_cons, Wake.line?]
    · -- a line sends the event it carries, if any
      cases he : lineEvent l <;> simp [pump, ih hrest, Wake.line?, he]

theorem lineEvent_eq_some_iff {l : String} {ev : Event} :
    lineEvent l = some ev ↔ ∃ n, classifyLine l = .message (.notification n) ∧
      n.method ≠ "compile/ready" ∧ Event.ofNotification n = some ev := by
  unfold lineEvent
  split
  · next n hc =>
    by_cases hr : n.method = "compile/ready" <;> simp [hr, hc]
  · next hc =>
    constructor
    · intro h
      cases h
    · rintro ⟨n', hn', -⟩
      exact (hc n' hn').elim

variable {n : Notification}

theorem ofNotification_done_succeeded_iff (hm : n.method = "compile/done") {h : Option String}
    {ws : List String} :
    Event.ofNotification n = some (.succeeded h ws) ↔
      ∃ d, n.paramsAs Done.decode = .ok d ∧ d.ok = true ∧ d.errors = [] ∧ d.hash = h ∧
        d.warnings = ws := by
  simp only [Event.ofNotification, hm, beq_self_eq_true, if_true]
  cases hd : n.paramsAs Done.decode with
  | error e => simp
  | ok d =>
    by_cases hc : d.ok = true ∧ d.errors = []
    · simp [hc.1, hc.2]
    · have hb : (d.ok && d.errors.isEmpty) = false := by
        cases hok : d.ok <;> simp_all
      simp only [hb, Bool.false_eq_true, if_false, Option.some.injEq, reduceCtorEq, false_iff]
      rintro ⟨d', hd', hok, herr, -⟩
      cases hd'
      exact hc ⟨hok, herr⟩

theorem ofNotification_done_diagnostics (hm : n.method = "compile/done") {d : Done}
    (hd : n.paramsAs Done.decode = .ok d) (hbad : d.ok = false ∨ d.errors ≠ []) :
    Event.ofNotification n = some (.diagnostics d.errors d.warnings) := by
  have hc : (d.ok && d.errors.isEmpty) = false := by
    rcases hbad with h | h <;> simp [h]
  simp [Event.ofNotification, hm, hd, hc]

theorem ofNotification_done_unreadable (hm : n.method = "compile/done") {e : DecodeError}
    (he : n.paramsAs Done.decode = .error e) :
    Event.ofNotification n =
      some (.fatal ("watch driver sent an unreadable compile result: " ++ e.text)) := by
  simp [Event.ofNotification, hm, he]

theorem ofNotification_fatal_message (hm : n.method = "compile/fatal") {msg : String}
    (hmsg : n.paramsAs fatalMessage = .ok (some msg)) :
    Event.ofNotification n = some (.fatal msg) := by
  simp [Event.ofNotification, hm, hmsg]

theorem ofNotification_fatal_unknown (hm : n.method = "compile/fatal")
    (hmsg : ∀ msg, n.paramsAs fatalMessage ≠ .ok (some msg)) :
    Event.ofNotification n = some (.fatal "unknown compiler failure") := by
  cases hp : n.paramsAs fatalMessage with
  | ok o =>
    cases o with
    | some msg => exact absurd hp (hmsg msg)
    | none => simp [Event.ofNotification, hm, hp]
  | error e => simp [Event.ofNotification, hm, hp]

theorem ofNotification_other (hd : n.method ≠ "compile/done")
    (hf : n.method ≠ "compile/fatal") :
    Event.ofNotification n = none := by
  simp [Event.ofNotification, hd, hf]

/-- A printed run of the driver: the events its lines carry, then that it exited, if it did. -/
theorem driverEvents_eq (p : Printed) :
    driverEvents p = p.readLines.filterMap lineEvent ++ if p.exits then [watchExited] else [] := by
  have hlines : ∀ w ∈ p.readLines.map (Wake.read ∘ LineRead.line), w.Continues := by
    simp [Wake.Continues]
  have hline : Wake.line? ∘ (Wake.read ∘ LineRead.line) = some := funext fun _ => rfl
  have hread : (p.readLines.map (Wake.read ∘ LineRead.line)).filterMap Wake.line? =
      p.readLines := by
    rw [List.filterMap_map, hline, List.filterMap_some]
  cases hx : p.exits
  · simpa [driverEvents, Printed.reads, hx, hread, pump] using pump_append hlines false []
  · simpa [driverEvents, Printed.reads, hx, hread, pump] using
      pump_append hlines false [.read .ended]

/-- What the watch pump sends, for every run: in order, the compile event of each line read
that carries one, then one fatal event when the output ends uncancelled or a read fails, and
nothing once it notices the cancellation. A line carries the event of its framed notification,
unless that is `compile/ready`. `compile/done` is a clean build exactly when its params decode
with `ok` set and no errors, a build with diagnostics when they decode otherwise, and a fatal
event naming the decoding error when they do not; `compile/fatal` is fatal with its message, or
with `unknown compiler failure`; no other method is a compile event. -/
theorem watch_pump_sends_line_events :
    (∀ (pre tail : List Wake) (reason : String), (∀ w ∈ pre, w.Continues) →
      pump false pre = (pre.filterMap Wake.line?).filterMap lineEvent ∧
      (Wake.cancel ∉ pre → pump false (pre ++ .read .ended :: tail) =
        (pre.filterMap Wake.line?).filterMap lineEvent ++ [.fatal "watch process exited"]) ∧
      (Wake.cancel ∈ pre → pump false (pre ++ .read .ended :: tail) =
        (pre.filterMap Wake.line?).filterMap lineEvent) ∧
      pump false (pre ++ .read (.failed reason) :: tail) =
        (pre.filterMap Wake.line?).filterMap lineEvent ++
          [.fatal ("reading watch output: " ++ reason)] ∧
      (Wake.cancel ∈ pre → pump false (pre ++ .notice :: tail) =
        (pre.filterMap Wake.line?).filterMap lineEvent)) ∧
    (∀ l ev, lineEvent l = some ev ↔ ∃ n, classifyLine l = .message (.notification n) ∧
      n.method ≠ "compile/ready" ∧ Event.ofNotification n = some ev) ∧
    (∀ (n : Notification) h ws, n.method = "compile/done" →
      (Event.ofNotification n = some (.succeeded h ws) ↔
        ∃ d, n.paramsAs Done.decode = .ok d ∧ d.ok = true ∧ d.errors = [] ∧ d.hash = h ∧
          d.warnings = ws)) ∧
    (∀ (n : Notification) d, n.method = "compile/done" → n.paramsAs Done.decode = .ok d →
      d.ok = false ∨ d.errors ≠ [] →
      Event.ofNotification n = some (.diagnostics d.errors d.warnings)) ∧
    (∀ (n : Notification) e, n.method = "compile/done" → n.paramsAs Done.decode = .error e →
      Event.ofNotification n =
        some (.fatal ("watch driver sent an unreadable compile result: " ++ e.text))) ∧
    (∀ (n : Notification) msg, n.method = "compile/fatal" →
      n.paramsAs fatalMessage = .ok (some msg) → Event.ofNotification n = some (.fatal msg)) ∧
    (∀ n : Notification, n.method = "compile/fatal" →
      (∀ msg, n.paramsAs fatalMessage ≠ .ok (some msg)) →
      Event.ofNotification n = some (.fatal "unknown compiler failure")) ∧
    (∀ n : Notification, n.method ≠ "compile/done" → n.method ≠ "compile/fatal" →
      Event.ofNotification n = none) := by
  refine ⟨fun pre tail reason hpre => ?_, fun l ev => lineEvent_eq_some_iff,
    fun n h ws hm => ofNotification_done_succeeded_iff hm,
    fun n d hm hd hbad => ofNotification_done_diagnostics hm hd hbad,
    fun n e hm he => ofNotification_done_unreadable hm he,
    fun n msg hm hmsg => ofNotification_fatal_message hm hmsg,
    fun n hm hmsg => ofNotification_fatal_unknown hm hmsg,
    fun n hd hf => ofNotification_other hd hf⟩
  refine ⟨by simpa [pump] using pump_append hpre false [], fun hc => ?_, fun hc => ?_, ?_,
    fun hc => ?_⟩
  · simp [pump_append hpre, pump, hc, watchExited]
  · simp [pump_append hpre, pump, hc]
  · simp [pump_append hpre, pump, readFailed]
  · simp [pump_append hpre, pump, hc]

/-- A line read after the cancellation still sends its event, but the end of the output that
follows sends nothing. -/
theorem pump_quiet_end_after_cancel :
    (∀ w ∈ [Wake.read (.line "compiling"), Wake.cancel], w.Continues) ∧
      Wake.cancel ∈ [Wake.read (.line "compiling"), Wake.cancel] ∧
      pump false ([Wake.read (.line "compiling"), Wake.cancel] ++ [.read .ended]) =
        ([Wake.read (.line "compiling"), Wake.cancel].filterMap Wake.line?).filterMap
          lineEvent := by
  have hc : ∀ w ∈ [Wake.read (.line "compiling"), Wake.cancel], w.Continues := by
    simp [Wake.Continues]
  have hin : Wake.cancel ∈ [Wake.read (.line "compiling"), Wake.cancel] := by simp
  exact ⟨hc, hin, (watch_pump_sends_line_events.1 _ [] "" hc).2.2.1 hin⟩

end LiveSession.Compile

import LiveSession.Supervisor.Runner
import LiveSession.Proofs.Rpc.FrameRoundTrip
/-!
# The slot follows the application's publications

The runner reads the application's output one line at a time. A line publishes the application
when it is a framed `bridge/ready` or `bridge/swapped` notification whose params decode as a
generation and an optional module (`linePublication`); the slot then holds that generation as
sent, the module (`AppModule` when none is named) and the bridge client as its handle.

Main statement: `bridge_slot_holds_last_publication`. While the output lasts, the slot holds the
last application published on it (`lastPublication`), or what it held before the first one: no
other line, whatever its text, changes the slot, and no line changes whether the client is alive.
The end of the output empties the slot and marks the client exited, and so does a read error:
`unreadable_line_empties_slot` shows a line that is not UTF-8 ending the reading while the
application still runs.

The proof is a step lemma for one line (`readLine_slot`, `readLine_alive`) and an induction over
the lines read (`read_lines`).
-/

namespace LiveSession.Supervisor

open LiveSession.Json LiveSession.Rpc LiveSession.Session

/-- The application a line of output publishes, if any. -/
def linePublication (l : String) : Option (Nat × String) :=
  match classifyLine l with
  | .message (.notification n) =>
    if n.method = "bridge/ready" ∨ n.method = "bridge/swapped" then
      (n.paramsAs decodePublished).toOption.map fun p => (p.1, p.2.getD "AppModule")
    else none
  | _ => none

/-- The last application published among lines, if any. -/
def lastPublication (ls : List String) : Option (Nat × String) :=
  ls.reverse.findSome? linePublication

theorem lastPublication_cons (l : String) (ls : List String) :
    lastPublication (l :: ls) = (lastPublication ls).or (linePublication l) := by
  simp [lastPublication, List.findSome?_append]

theorem publication_eq_linePublication {l : String} {n : Notification}
    (hn : classifyLine l = .message (.notification n)) : publication n = linePublication l := by
  simp only [linePublication, hn, publication]
  by_cases hm : n.method = "bridge/ready" ∨ n.method = "bridge/swapped"
  · have hb : (n.method == "bridge/ready" || n.method == "bridge/swapped") = true := by
      simpa using hm
    simp only [hb, if_true, hm]
    cases n.paramsAs decodePublished <;> rfl
  · have hb : (n.method == "bridge/ready" || n.method == "bridge/swapped") = false := by
      simpa using hm
    simp only [hb, hm]
    rfl

/-- A line publishes through the reader exactly when it carries a publication. -/
theorem lineEffect_publish_iff {l : String} {g : Nat} {m : String} :
    lineEffect l = .publish g m ↔ linePublication l = some (g, m) := by
  unfold lineEffect
  split
  · next hc => simp [linePublication, hc]
  · next hc => simp [linePublication, hc]
  · next hc => simp [linePublication, hc]
  · next n hc =>
    rw [← publication_eq_linePublication hc]
    split
    · next p hp => simp [hp]
    · next hp => simp [hp]

theorem linePublication_eq_none {l : String} (h : ∀ g m, lineEffect l ≠ .publish g m) :
    linePublication l = none := by
  cases hp : linePublication l with
  | none => rfl
  | some p => exact absurd (lineEffect_publish_iff.mpr hp) (h p.1 p.2)

theorem Client.complete_alive (b : Client) (resp : Response) :
    (b.complete resp).alive = b.alive := by
  unfold Client.complete
  split <;> rfl

namespace Runner

variable (s : RunnerSettings) (client : Nat)

/-- One line: the slot takes the line's publication, if it carries one. -/
theorem readLine_slot (r : Runner) (b : Client) (l : String) :
    (r.readLine s client b l).1.slot =
      ((linePublication l).map fun p => ⟨p.1, p.2, client⟩).or r.slot := by
  unfold readLine
  split
  · next he =>
    rw [linePublication_eq_none (l := l) (by simp [he])]
    split <;> rfl
  · next g m he => simp [lineEffect_publish_iff.mp he]
  · next he => simp [linePublication_eq_none (l := l) (by simp [he])]
  · next he => simp [linePublication_eq_none (l := l) (by simp [he])]

/-- One line: the client stays as alive as it was; a response only completes a request. -/
theorem readLine_alive (r : Runner) (b : Client) (l : String) :
    (r.readLine s client b l).2.alive = b.alive := by
  unfold readLine
  split
  · rfl
  · rfl
  · exact Client.complete_alive b _
  · rfl

/-- Output read in two pieces is read as a whole: what follows the lines is read from where
they left the runner and the client. -/
theorem read_lines_append (ls : List String) (rs : List LineRead) (r : Runner) (b : Client) :
    r.read s client b (ls.map LineRead.line ++ rs) =
      (r.read s client b (ls.map LineRead.line)).1.read s client
        (r.read s client b (ls.map LineRead.line)).2 rs := by
  induction ls generalizing r b with
  | nil => rfl
  | cons l ls ih =>
    rw [List.map_cons, List.cons_append, read, read]
    exact ih _ _

/-- Lines alone: the slot holds the last publication among them, else what it held; the client
stays as alive as it was. The induction is on the lines, from the step lemmas. -/
theorem read_lines (ls : List String) (r : Runner) (b : Client) :
    (r.read s client b (ls.map LineRead.line)).1.slot =
      ((lastPublication ls).map fun p => ⟨p.1, p.2, client⟩).or r.slot ∧
    (r.read s client b (ls.map LineRead.line)).2.alive = b.alive := by
  induction ls generalizing r b with
  | nil => simp [read, lastPublication]
  | cons l ls ih =>
    obtain ⟨hslot, halive⟩ := ih (r.readLine s client b l).1 (r.readLine s client b l).2
    refine ⟨?_, ?_⟩
    · rw [List.map_cons, read, hslot, readLine_slot, lastPublication_cons]
      cases lastPublication ls <;> cases linePublication l <;> rfl
    · rw [List.map_cons, read, halive, readLine_alive]

end Runner

/-- What the application's output does to the slot and the bridge client, for every stream of
reads: some lines, then possibly the end of the output or a read error. While the output lasts,
the slot holds the last application published on it (its generation as sent, its module, the
client as handle), or what it held before the first publication, and the client stays as alive
as it was. The end of the output empties the slot and marks the client exited, and a read error
does the same. -/
theorem bridge_slot_holds_last_publication (r : Runner) (s : RunnerSettings) (client : Nat)
    (b : Client) (ls : List String) (rest : List LineRead) (reason : String) :
    let lines := ls.map LineRead.line
    (r.read s client b lines).1.slot =
        ((lastPublication ls).map fun p => ⟨p.1, p.2, client⟩).or r.slot ∧
      (r.read s client b lines).2.alive = b.alive ∧
      (r.read s client b (lines ++ .ended :: rest)).1.slot = none ∧
      (r.read s client b (lines ++ .ended :: rest)).2.alive = false ∧
      (r.read s client b (lines ++ .failed reason :: rest)).1.slot = none ∧
      (r.read s client b (lines ++ .failed reason :: rest)).2.alive = false := by
  intro lines
  obtain ⟨hslot, halive⟩ := Runner.read_lines s client ls r b
  refine ⟨hslot, halive, ?_, ?_, ?_, ?_⟩ <;>
    simp only [lines, Runner.read_lines_append, Runner.read] <;> rfl

/-- The application announcing itself at generation 1. -/
def readyAtOne : Notification := ⟨"2.0", "bridge/ready", some (.obj [("generation", .nat 1)])⟩

theorem lineEffect_readyAtOne :
    lineEffect (frameLine readyAtOne.toJson) = .publish 1 "AppModule" := by
  have hline :=
    (classifyLine_frame_notification readyAtOne [] (by decide) (by simp)).mpr (by decide)
  rw [String.ofList_nil, String.append_empty] at hline
  simp only [lineEffect, hline]
  rfl

/-- A line that is not UTF-8 ends the reading as the end of the output does. After the
application announced generation 1, the read error empties the slot and marks the client exited,
though the application still runs and goes on printing. -/
theorem unreadable_line_empties_slot :
    let ready := frameLine readyAtOne.toJson
    let s : RunnerSettings := ⟨true, 3000, true⟩
    let b : Client := { timeoutMs := 3000 }
    (({} : Runner).read s 1 b [.line ready]).1.slot = some ⟨1, "AppModule", 1⟩ ∧
      (({} : Runner).read s 1 b
        [.line ready, .failed "stream did not contain valid UTF-8", .line ready]).1.slot = none ∧
      (({} : Runner).read s 1 b
        [.line ready, .failed "stream did not contain valid UTF-8", .line ready]).2.alive =
          false := by
  intro ready s b
  have hpub : linePublication ready = some (1, "AppModule") :=
    lineEffect_publish_iff.mp lineEffect_readyAtOne
  -- constructors written out: a bare `.failed` here sends the elaborator through the line's text
  have hstream : [LineRead.line ready, LineRead.failed "stream did not contain valid UTF-8",
      LineRead.line ready] = [ready].map LineRead.line ++
        [LineRead.failed "stream did not contain valid UTF-8", LineRead.line ready] := by
    simp only [List.map_cons, List.map_nil, List.cons_append, List.nil_append]
  refine ⟨?_, ?_, ?_⟩
  · -- the announcement fills the slot
    have hslot := (Runner.read_lines s 1 [ready] {} b).1
    rw [List.map_cons, List.map_nil] at hslot
    rw [hslot, lastPublication, List.reverse_singleton, List.findSome?_singleton, hpub]
    rfl
  · -- the read error ends the reading: slot emptied ...
    rw [hstream, Runner.read_lines_append]
    rfl
  · -- ... and client marked exited
    rw [hstream, Runner.read_lines_append]
    rfl

end LiveSession.Supervisor

import LiveSession.Session.Repl
/-!
# The session console contains every failure of the application

The console is run here over a recording container. Its slot holds a fixed application or
nothing, its handle answers each command by a fixed rule (a value, an error or a panic), and
every command that reaches the handle is appended to a record. Within one session line each
command reaches the handle at most once, so a fixed rule is every behaviour a handle can show.

`sessionResult` is what the session should get for one command, written from the rule alone: the
value, the handle's own error, the bridge error `<command> panicked` for a panic, and the bridge
error `application is not running` for an empty slot. `handleCalls` is the command as it reaches
the handle: not at all when the slot is empty.

Main statement: `session_console_contains_failures`. Each console operation gives a value for
every answer: `get` the value or `null`, `tryGet` the value or `{"error", "token"}`, `tokens` the
value or `{"error"}`, and `eval` and `describe` the session result itself. A line that does not
start with `.` is handed to `eval` and nothing else; `.exit` and `.quit`, with any argument, end
the session without touching the application; an unknown command is an error; and a command
line asks the handle for nothing but `tokens`, `describe` and `get` of its trimmed argument.

What a command line may ask is followed through the dispatch with `AsksOnly`, which holds of
`pure` and is kept by `bind` and `if`, so each command's branch needs only its own operation.
-/

namespace LiveSession.Session

open LiveSession.Json LiveSession.Supervisor LiveSession.Text

variable {h : Type}

/-! ## A recording console -/

/-- A fixed rule by which a handle answers each command. -/
abbrev HandleRule (h : Type) : Type := h → (c : Command) → Outcome c.Answer

/-- A container with a fixed slot whose handle answers by `answer`, recording each command. -/
def Container.recording (slot : Option (LiveApp h)) (answer : HandleRule h) :
    Container (StateM (List Command)) h where
  current := pure slot
  ask hd c := do modify (· ++ [c]); pure (answer hd c)

/-- The console over a recording container, with an optional fixed status probe. -/
def Console.recording (slot : Option (LiveApp h)) (answer : HandleRule h)
    (probe : Option Status) : Console (StateM (List Command)) h :=
  ⟨Container.recording slot answer, probe.map pure⟩

/-- What the session gets for one command, from the slot and the handle's answer alone. -/
def sessionResult (slot : Option (LiveApp h)) (answer : HandleRule h)
    (c : Command) : Except ContainerError c.Answer :=
  match slot with
  | none => .error (.bridge "application is not running")
  | some app =>
    match answer app.handle c with
    | .ok v => .ok v
    | .err e => .error e
    | .panic => .error (.bridge (c.name ++ " panicked"))

/-- The commands that reach the handle when the session runs `c`. -/
def handleCalls (slot : Option (LiveApp h)) (c : Command) : List Command :=
  if slot.isSome then [c] else []

section Recording

variable {slot : Option (LiveApp h)} {answer : HandleRule h} {probe : Option Status}

theorem run_recording (c : Command) (calls : List Command) :
    (((Console.recording slot answer probe).run c).run calls).run =
      (sessionResult slot answer c, calls ++ handleCalls slot c) := by
  cases slot with
  | none =>
    simp [Console.run, Console.recording, Container.recording, sessionResult, handleCalls,
      notRunning, Id.run_pure]
  | some app =>
    cases ho : answer app.handle c <;>
      simp [Console.run, Console.recording, Container.recording, sessionResult, handleCalls,
        contained, ho, Id.run_pure]

/-- Whatever follows a command sees the session result, with the record extended. -/
theorem run_recording_bind {α : Type} (c : Command)
    (f : Except ContainerError c.Answer → StateM (List Command) α) (calls : List Command) :
    ((((Console.recording slot answer probe).run c) >>= f).run calls).run =
      ((f (sessionResult slot answer c)).run (calls ++ handleCalls slot c)).run := by
  simp only [StateT.run_bind, Id.run_bind, run_recording]

theorem app_recording : (Console.recording slot answer probe).app = pure slot := rfl

theorem status_recording :
    (Console.recording slot answer probe).status =
      pure (probe.getD (if slot.isSome then .ready else .disconnected)) := by
  cases probe <;> rfl

/-! ## Token listings -/

/-- Of two distinct strings, one is below the other. -/
theorem gt_of_not_lt_of_ne {x y : String} (hlt : ¬ x < y) (hne : x ≠ y) : y < x := by
  have hyx : y ≤ x := String.not_lt.mp hlt
  refine String.not_le.mp fun hxy => hne (String.le_antisymm hxy hyx)

theorem mem_insertSorted {x z : String} {ys : List String} :
    z ∈ insertSorted x ys ↔ z = x ∨ z ∈ ys := by
  induction ys with
  | nil => simp [insertSorted]
  | cons y ys ih =>
    unfold insertSorted
    split
    · simp
    · split
      · rename_i heq
        have hxy : x = y := beq_iff_eq.mp heq
        subst hxy
        simp
      · simp only [List.mem_cons, ih]
        exact or_left_comm

/-- Inserting into a strictly ascending list keeps it strictly ascending. -/
theorem pairwise_insertSorted (x : String) {ys : List String} (h : ys.Pairwise (· < ·)) :
    (insertSorted x ys).Pairwise (· < ·) := by
  induction ys with
  | nil => exact List.pairwise_singleton _ x
  | cons y ys ih =>
    rw [List.pairwise_cons] at h
    unfold insertSorted
    split
    · rename_i hxy
      refine List.Pairwise.cons ?_ (List.Pairwise.cons h.1 h.2)
      intro z hz
      rcases List.mem_cons.mp hz with rfl | hz
      · exact hxy
      · exact String.lt_trans hxy (h.1 z hz)
    · split
      · exact List.Pairwise.cons h.1 h.2
      · rename_i hxy hne
        -- `x` goes after `y`
        have hyx : y < x := gt_of_not_lt_of_ne hxy (by simpa using hne)
        refine List.Pairwise.cons ?_ (ih h.2)
        intro z hz
        rcases mem_insertSorted.mp hz with rfl | hz
        · exact hyx
        · exact h.1 z hz

theorem foldl_insertSorted (xs : List String) {acc : List String}
    (h : acc.Pairwise (· < ·)) :
    (xs.foldl (fun acc x => insertSorted x acc) acc).Pairwise (· < ·) ∧
      ∀ z, z ∈ xs.foldl (fun acc x => insertSorted x acc) acc ↔ z ∈ acc ∨ z ∈ xs := by
  induction xs generalizing acc with
  | nil => exact ⟨h, fun z => by rw [List.foldl_nil, List.mem_nil_iff, or_false]⟩
  | cons x xs ih =>
    obtain ⟨hp, hm⟩ := ih (pairwise_insertSorted x h)
    refine ⟨hp, fun z => ?_⟩
    rw [List.foldl_cons, hm, mem_insertSorted, List.mem_cons, or_assoc]
    exact or_left_comm

/-- The token listing is strictly ascending and holds exactly the strings of its source. -/
theorem sortedSet_spec (xs : List String) :
    (sortedSet xs).Pairwise (· < ·) ∧ ∀ z, z ∈ sortedSet xs ↔ z ∈ xs := by
  obtain ⟨hp, hm⟩ := foldl_insertSorted xs (List.Pairwise.nil : ([] : List String).Pairwise (· < ·))
  exact ⟨hp, fun z => by simpa [sortedSet] using hm z⟩

/-! ## The console operations -/

section Operations

variable {v : Value} {e : ContainerError} (calls : List Command)

theorem get_recording_ok {t : String} (hv : sessionResult slot answer (.get t) = .ok v) :
    (((Console.recording slot answer probe).get t).run calls).run =
      (v, calls ++ handleCalls slot (.get t)) := by
  rw [Console.get, run_recording_bind, hv]
  rfl

theorem get_recording_error {t : String} (he : sessionResult slot answer (.get t) = .error e) :
    (((Console.recording slot answer probe).get t).run calls).run =
      (.null, calls ++ handleCalls slot (.get t)) := by
  rw [Console.get, run_recording_bind, he]
  rfl

theorem tryGet_recording_ok {t : String} (hv : sessionResult slot answer (.get t) = .ok v) :
    (((Console.recording slot answer probe).tryGet t).run calls).run =
      (v, calls ++ handleCalls slot (.get t)) := by
  rw [Console.tryGet, run_recording_bind, hv]
  rfl

theorem tryGet_recording_error {t : String} (he : sessionResult slot answer (.get t) = .error e) :
    (((Console.recording slot answer probe).tryGet t).run calls).run =
      (.obj [("error", .str e.display), ("token", .str t)],
        calls ++ handleCalls slot (.get t)) := by
  rw [Console.tryGet, run_recording_bind, he]
  rfl

theorem tokens_recording_ok {names : List String}
    (hv : sessionResult slot answer .tokens = .ok names) :
    (((Console.recording slot answer probe).tokens).run calls).run =
      (Value.strs (sortedSet names), calls ++ handleCalls slot .tokens) := by
  rw [Console.tokens, run_recording_bind, hv]
  rfl

theorem tokens_recording_error (he : sessionResult slot answer .tokens = .error e) :
    (((Console.recording slot answer probe).tokens).run calls).run =
      (.obj [("error", .str e.display)], calls ++ handleCalls slot .tokens) := by
  rw [Console.tokens, run_recording_bind, he]
  rfl

/-! The record alone, whatever the answer: the shape the command dispatch needs. -/

theorem get_recording_calls (t : String) :
    (((Console.recording slot answer probe).get t).run calls).run.2 =
      calls ++ handleCalls slot (.get t) := by
  rw [Console.get, run_recording_bind]
  cases sessionResult slot answer (.get t) <;> rfl

theorem tryGet_recording_calls (t : String) :
    (((Console.recording slot answer probe).tryGet t).run calls).run.2 =
      calls ++ handleCalls slot (.get t) := by
  rw [Console.tryGet, run_recording_bind]
  cases sessionResult slot answer (.get t) <;> rfl

theorem tokens_recording_calls :
    (((Console.recording slot answer probe).tokens).run calls).run.2 =
      calls ++ handleCalls slot .tokens := by
  rw [Console.tokens, run_recording_bind]
  cases sessionResult slot answer .tokens <;> rfl

/-- The `.app` summary asks the handle to describe itself, and nothing else. -/
theorem appSummary_recording_calls (loadedAt : LiveApp h → TimeOfDay) :
    ((appSummary loadedAt (Console.recording slot answer probe)).run calls).run.2 =
      calls ++ handleCalls slot .describe := by
  cases slot with
  | none => simp [appSummary, app_recording, handleCalls]
  | some app =>
    simp only [appSummary, app_recording, status_recording, pure_bind, Console.describe]
    rw [run_recording_bind]
    cases sessionResult (some app) answer .describe <;> rfl

end Operations

end Recording

/-! ## Commands asked of the handle -/

/-- A recorded computation that, from any record, only appends commands satisfying `P`. -/
def AsksOnly (P : Command → Prop) {α : Type} (x : StateM (List Command) α) : Prop :=
  ∀ calls, ∃ new, (x.run calls).run.2 = calls ++ new ∧ ∀ c ∈ new, P c

namespace AsksOnly

variable {P : Command → Prop} {α β : Type}

protected theorem pure (a : α) : AsksOnly P (pure a : StateM (List Command) α) :=
  fun calls => ⟨[], by simp, by simp⟩

protected theorem ite {c : Prop} [Decidable c] {x y : StateM (List Command) α}
    (hx : AsksOnly P x) (hy : AsksOnly P y) : AsksOnly P (if c then x else y) := by
  split
  · exact hx
  · exact hy

protected theorem bind {x : StateM (List Command) α} {f : α → StateM (List Command) β}
    (hx : AsksOnly P x) (hf : ∀ a, AsksOnly P (f a)) : AsksOnly P (x >>= f) := by
  intro calls
  obtain ⟨n₁, h₁, p₁⟩ := hx calls
  obtain ⟨n₂, h₂, p₂⟩ := hf (x.run calls).run.1 (x.run calls).run.2
  refine ⟨n₁ ++ n₂, ?_, ?_⟩
  · rw [StateT.run_bind, Id.run_bind, h₂, h₁, List.append_assoc]
  · intro c hc
    rcases List.mem_append.mp hc with hc | hc
    · exact p₁ c hc
    · exact p₂ c hc

/-- A computation that hands the handle one command, or none on an empty slot. -/
theorem of_calls {slot : Option (LiveApp h)} {x : StateM (List Command) α} (c : Command)
    (hx : ∀ calls, (x.run calls).run.2 = calls ++ handleCalls slot c) (hc : P c) :
    AsksOnly P x := by
  intro calls
  refine ⟨handleCalls slot c, hx calls, fun c' hc' => ?_⟩
  simp only [handleCalls] at hc'
  split at hc'
  · rw [List.mem_singleton.mp hc']
    exact hc
  · simp at hc'

end AsksOnly

theorem status_asksOnly {slot : Option (LiveApp h)} {answer : HandleRule h}
    {probe : Option Status} {P : Command → Prop} :
    AsksOnly P (Console.recording slot answer probe).status := by
  rw [status_recording]
  exact .pure _

/-! ## Command lines -/

/-- A line split at its first blank: the word before it, which holds no blank, and the rest,
which is empty or starts with that blank. -/
structure FirstWord (line word : String) (rest : List Char) : Prop where
  split : line.toList = word.toList ++ rest
  word_nonblank : ∀ c ∈ word.toList, isBlank c = false
  stop : rest = [] ∨ ∃ b r, rest = b :: r ∧ isBlank b = true

theorem takeWhile_nonblank_append {w rest : List Char} (hw : ∀ c ∈ w, isBlank c = false)
    (hs : rest = [] ∨ ∃ b r, rest = b :: r ∧ isBlank b = true) :
    (w ++ rest).takeWhile (!isBlank ·) = w := by
  rw [List.takeWhile_append_of_pos (by simpa using hw)]
  rcases hs with rfl | ⟨b, r, rfl, hb⟩
  · simp
  · simp [hb]

/-- Every line has a first word. -/
theorem FirstWord.exists (line : String) : ∃ w rest, FirstWord line w rest := by
  refine ⟨String.ofList (line.toList.takeWhile (!isBlank ·)),
    line.toList.dropWhile (!isBlank ·),
    by simp, fun c hc => ?_, ?_⟩
  · have hc' := List.all_eq_true.1 List.all_takeWhile c (by simpa using hc)
    simpa using hc'
  · cases hd : line.toList.dropWhile (!isBlank ·) with
    | nil => exact .inl rfl
    | cons b r =>
      have hb := List.head?_dropWhile_not (fun c => !isBlank c) line.toList
      rw [hd] at hb
      simp only [List.head?_cons, Bool.not_eq_false'] at hb
      exact .inr ⟨b, r, rfl, hb⟩

namespace FirstWord

variable {line w : String} {rest : List Char}

theorem startsWith (hw : FirstWord line w rest) (hd : w.startsWith "." = true) :
    line.startsWith "." = true := by
  simp only [String.startsWith_string_iff] at hd ⊢
  rw [hw.split]
  exact hd.trans (List.prefix_append _ _)

theorem splitCommand_fst (hw : FirstWord line w rest) : (splitCommand line).1 = w := by
  simp only [splitCommand, hw.split, takeWhile_nonblank_append hw.word_nonblank hw.stop,
    String.ofList_toList]

/-- A command's argument is the non-empty trimmed text after the blank that ends its word. -/
theorem splitCommand_snd {t : String} (hw : FirstWord line w rest)
    (ht : (splitCommand line).2 = some t) :
    ∃ b r, rest = b :: r ∧ t = trim (String.ofList r) ∧ t ≠ "" := by
  simp only [splitCommand, hw.split, takeWhile_nonblank_append hw.word_nonblank hw.stop] at ht
  rcases hw.stop with rfl | ⟨b, r, rfl, -⟩
  · simp at ht
  · refine ⟨b, r, rfl, ?_⟩
    have hdrop : (w.toList ++ b :: r).drop (w.toList.length + 1) = r := by simp
    have hlt : w.toList.length < (w.toList ++ b :: r).length := by simp
    simp only [hdrop, hlt, decide_true, Bool.true_and] at ht
    by_cases he : (trim (String.ofList r)).isEmpty = true
    · simp [he] at ht
    · simp only [he, Bool.not_false, if_true, Option.some.injEq] at ht
      exact ⟨ht.symm, by simpa [ht] using he⟩

end FirstWord

/-! ## Answering a line -/

section Execute

variable {slot : Option (LiveApp h)} {answer : HandleRule h} {probe : Option Status}
  {loadedAt : LiveApp h → TimeOfDay} {line : String} (calls : List Command)

theorem execute_code_ok {v : Value} (hl : line.startsWith "." = false)
    (hv : sessionResult slot answer (.eval line) = .ok v) :
    ((execute loadedAt (Console.recording slot answer probe) line).run calls).run =
      (.text (showValue v), calls ++ handleCalls slot (.eval line)) := by
  simp only [execute, hl, Bool.not_false, if_true, Console.eval]
  rw [run_recording_bind, hv]
  rfl

theorem execute_code_error {e : ContainerError} (hl : line.startsWith "." = false)
    (he : sessionResult slot answer (.eval line) = .error e) :
    ((execute loadedAt (Console.recording slot answer probe) line).run calls).run =
      (.error e.display, calls ++ handleCalls slot (.eval line)) := by
  simp only [execute, hl, Bool.not_false, if_true, Console.eval]
  rw [run_recording_bind, he]
  rfl

theorem execute_exit {rest : List Char}
    (hw : FirstWord line ".exit" rest ∨ FirstWord line ".quit" rest) :
    ((execute loadedAt (Console.recording slot answer probe) line).run calls).run =
      (.exit, calls) := by
  rcases hw with hw | hw
  · simp [execute, hw.startsWith (by simp), hw.splitCommand_fst]
  · simp [execute, hw.startsWith (by simp), hw.splitCommand_fst]

theorem execute_unknown {w : String} {rest : List Char} (hw : FirstWord line w rest)
    (hl : line.startsWith "." = true)
    (hu : w ∉ [".exit", ".quit", ".help", ".clear", ".status", ".app", ".tokens", ".get",
      ".try"]) :
    ((execute loadedAt (Console.recording slot answer probe) line).run calls).run =
      (.error ("unknown command: " ++ w ++ " (type .help for a list)"), calls) := by
  simp only [List.mem_cons, List.not_mem_nil, or_false, not_or] at hu
  obtain ⟨h1, h2, h3, h4, h5, h6, h7, h8, h9⟩ := hu
  simp [execute, hl, hw.splitCommand_fst, h1, h2, h3, h4, h5, h6, h7, h8, h9]

/-- A command line asks the handle only to list tokens, to describe itself, or to resolve the
line's argument. The dispatch is walked command by command. -/
theorem execute_command_calls (hl : line.startsWith "." = true) :
    AsksOnly (fun c => c = .tokens ∨ c = .describe ∨
        ∃ t, (splitCommand line).2 = some t ∧ c = .get t)
      (execute loadedAt (Console.recording slot answer probe) line) := by
  unfold execute
  simp only [hl, Bool.not_true, Bool.false_eq_true, if_false]
  -- one branch per command of the dispatch, the last for an unknown command
  refine .ite ?exit (.ite ?help (.ite ?clear (.ite ?status (.ite ?app (.ite ?tokens
    (.ite ?lookup ?unknown))))))
  case exit | help | clear | unknown => exact .pure _
  case status => exact .bind status_asksOnly fun _ => .pure _
  case app => exact .of_calls .describe (appSummary_recording_calls · loadedAt) (.inr (.inl rfl))
  case tokens =>
    exact .bind (.of_calls .tokens tokens_recording_calls (.inl rfl)) fun _ => .pure _
  case lookup =>
    split
    · next t ht =>
      have hget : Command.get t = .tokens ∨ Command.get t = .describe ∨
          ∃ t', (splitCommand line).2 = some t' ∧ Command.get t = .get t' :=
        .inr (.inr ⟨t, ht, rfl⟩)
      exact .ite (.bind (.of_calls (.get t) (get_recording_calls · t) hget) fun _ => .pure _)
        (.bind (.of_calls (.get t) (tryGet_recording_calls · t) hget) fun _ => .pure _)
    · exact .pure _

/-- The same in the line's own terms: every `get` a command line hands over carries the
non-empty trimmed text after the blank that ends the line's first word. -/
theorem execute_command_asks (hl : line.startsWith "." = true) :
    ∃ new,
      ((execute loadedAt (Console.recording slot answer probe) line).run calls).run.2 =
        calls ++ new ∧
      ∀ c ∈ new, c = .tokens ∨ c = .describe ∨
        ∃ w b r, FirstWord line w (b :: r) ∧ c = .get (trim (String.ofList r)) ∧
          trim (String.ofList r) ≠ "" := by
  obtain ⟨new, hnew, hmem⟩ := execute_command_calls hl calls
  obtain ⟨w, rest, hw⟩ := FirstWord.exists line
  refine ⟨new, hnew, fun c hc => ?_⟩
  rcases hmem c hc with rfl | rfl | ⟨t, ht, rfl⟩
  · exact .inl rfl
  · exact .inr (.inl rfl)
  · obtain ⟨b, r, rfl, rfl, hne⟩ := hw.splitCommand_snd ht
    exact .inr (.inr ⟨w, b, r, hw, rfl, hne⟩)

end Execute

/-- The session console contains every failure of the application. For every slot and every
way the handle answers, each console operation gives a value: a lookup its value, else `null`
or the error with the token; the token listing its value, else the error; `eval` and `describe`
the session result. A session line hands code to `eval` exactly when it does not start with
`.`; `.exit` and `.quit` end the session whatever follows them; an unknown command is an
error; and a command line asks the handle only to list tokens, to describe itself, or to resolve
its trimmed, non-empty argument. -/
theorem session_console_contains_failures (slot : Option (LiveApp h))
    (answer : HandleRule h) (probe : Option Status) (loadedAt : LiveApp h → TimeOfDay)
    (calls : List Command) :
    let s := Console.recording slot answer probe
    (∀ t v, sessionResult slot answer (.get t) = .ok v →
      ((s.get t).run calls).run = (v, calls ++ handleCalls slot (.get t)) ∧
      ((s.tryGet t).run calls).run = (v, calls ++ handleCalls slot (.get t))) ∧
    (∀ t e, sessionResult slot answer (.get t) = .error e →
      ((s.get t).run calls).run = (.null, calls ++ handleCalls slot (.get t)) ∧
      ((s.tryGet t).run calls).run =
        (.obj [("error", .str e.display), ("token", .str t)],
          calls ++ handleCalls slot (.get t))) ∧
    (∀ names, sessionResult slot answer .tokens = .ok names → ∃ listed : List String,
      (s.tokens.run calls).run = (Value.strs listed, calls ++ handleCalls slot .tokens) ∧
      listed.Pairwise (· < ·) ∧ ∀ n, n ∈ listed ↔ n ∈ names) ∧
    (∀ e, sessionResult slot answer .tokens = .error e →
      (s.tokens.run calls).run =
        (.obj [("error", .str e.display)], calls ++ handleCalls slot .tokens)) ∧
    (∀ code, ((s.eval code).run calls).run =
      (sessionResult slot answer (.eval code), calls ++ handleCalls slot (.eval code))) ∧
    (s.describe.run calls).run =
      (sessionResult slot answer .describe, calls ++ handleCalls slot .describe) ∧
    (∀ line v, line.startsWith "." = false → sessionResult slot answer (.eval line) = .ok v →
      ((execute loadedAt s line).run calls).run =
        (.text (showValue v), calls ++ handleCalls slot (.eval line))) ∧
    (∀ line e, line.startsWith "." = false →
      sessionResult slot answer (.eval line) = .error e →
      ((execute loadedAt s line).run calls).run =
        (.error e.display, calls ++ handleCalls slot (.eval line))) ∧
    (∀ line rest, FirstWord line ".exit" rest ∨ FirstWord line ".quit" rest →
      ((execute loadedAt s line).run calls).run = (.exit, calls)) ∧
    (∀ line w rest, FirstWord line w rest → line.startsWith "." = true →
      w ∉ [".exit", ".quit", ".help", ".clear", ".status", ".app", ".tokens", ".get", ".try"] →
      ((execute loadedAt s line).run calls).run =
        (.error ("unknown command: " ++ w ++ " (type .help for a list)"), calls)) ∧
    (∀ line, line.startsWith "." = true → ∃ new,
      ((execute loadedAt s line).run calls).run.2 = calls ++ new ∧
      ∀ c ∈ new, c = .tokens ∨ c = .describe ∨
        ∃ w b r, FirstWord line w (b :: r) ∧ c = .get (trim (String.ofList r)) ∧
          trim (String.ofList r) ≠ "") := by
  intro s
  refine ⟨fun t v hv => ⟨get_recording_ok calls hv, tryGet_recording_ok calls hv⟩,
    fun t e he => ⟨get_recording_error calls he, tryGet_recording_error calls he⟩,
    fun names hv => ⟨_, tokens_recording_ok calls hv, sortedSet_spec names⟩,
    fun e he => tokens_recording_error calls he,
    fun code => run_recording (.eval code) calls, run_recording .describe calls,
    fun line v hl hv => execute_code_ok calls hl hv,
    fun line e hl he => execute_code_error calls hl he,
    fun line rest hw => execute_exit calls hw,
    fun line w rest hw hl hu => execute_unknown calls hw hl hu,
    fun line hl => execute_command_asks calls hl⟩

/-- A handle that panics on every command: a lookup reports the contained panic with its
token, and the handle is asked exactly once. -/
theorem console_contains_panicking_lookup :
    sessionResult (some (⟨1, "AppModule", ()⟩ : LiveApp Unit)) (fun _ _ => .panic) (.get "db") =
        .error (.bridge "get panicked") ∧
      (((Console.recording (some (⟨1, "AppModule", ()⟩ : LiveApp Unit)) (fun _ _ => .panic)
          none).tryGet "db").run []).run =
        (.obj [("error", .str (ContainerError.bridge "get panicked").display),
            ("token", .str "db")], [.get "db"]) :=
  ⟨rfl, ((session_console_contains_failures (some (⟨1, "AppModule", ()⟩ : LiveApp Unit))
    (fun _ _ => .panic) none (fun _ => ⟨0, 0, 0⟩) []).2.1 "db" _ rfl).2⟩

end LiveSession.Session

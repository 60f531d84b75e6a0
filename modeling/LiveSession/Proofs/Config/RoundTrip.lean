import LiveSession.Proofs.Toml.DocumentRead
import LiveSession.Proofs.Toml.IntegerRange
import LiveSession.Proofs.Config.Reading
/-!
# Configurations written and read back

The writer lays a configuration out as five tables, one per section, in a fixed order
(`tables`); a count goes in as its numeral, a string in the form `stringRepr` chooses, a boolean
as `true` or `false`, and a setting that is not set is left out. The document reader reads such
tables back (`readDocument_tables`) and each section reader reads its table back as the section
(`ofToml_tables`). Main statements:

* `toToml_eq_error_iff`: writing fails exactly when a count is past `2^63 - 1`, the largest
  integer a document holds, and then says so;
* `fromToml_toToml`: otherwise the text written reads back as the configuration;
* `toToml_of_fromToml`: a configuration read from a document always writes back, since no
  integer a document holds is past `2^63 - 1` (`readDocument_fits`);
* `config_toml_laws`: these, with the defaults of the settings a document leaves out
  (`ofToml_omitted`).
-/

namespace LiveSession.Config

open LiveSession.Toml

/-! ### The writer's tables -/

/-- The settings that are counts, which a document holds only up to `2^63 - 1`. -/
def counts (c : Config) : List Nat :=
  [c.build.aggregateTimeoutMs, c.build.hotPollMs] ++ c.build.pollMs.toList ++
    [c.launch.handleWaitMs, c.launch.requestTimeoutMs, c.launch.shutdownGraceMs]

/-- A property of every count is one of each count setting. -/
theorem forall_mem_counts {P : Nat → Prop} {c : Config} :
    (∀ n ∈ counts c, P n) ↔ P c.build.aggregateTimeoutMs ∧ P c.build.hotPollMs ∧
      (∀ n ∈ c.build.pollMs, P n) ∧ P c.launch.handleWaitMs ∧ P c.launch.requestTimeoutMs ∧
      P c.launch.shutdownGraceMs := by
  simp only [counts, List.mem_append, List.mem_cons, List.not_mem_nil, Option.mem_toList, or_false,
    or_imp, forall_and, forall_eq, and_assoc]
  rfl

/-- A count setting as the writer lays it out. -/
def countSetting (key : String) (n : Nat) : String × String × Toml.Value :=
  (key, toString n, .int n)

/-- A string setting as the writer lays it out. -/
def stringSetting (key s : String) : String × String × Toml.Value := (key, stringRepr s, .str s)

/-- A boolean setting as the writer lays it out. -/
def boolSetting (key : String) (b : Bool) : String × String × Toml.Value :=
  (key, if b then "true" else "false", .bool b)

/-- The build section as a table. -/
def Build.table (b : Build) : Table :=
  ⟨"build", [stringSetting "node" b.node, countSetting "aggregate_timeout_ms" b.aggregateTimeoutMs,
    countSetting "hot_poll_ms" b.hotPollMs] ++ (b.pollMs.map (countSetting "poll_ms")).toList⟩

/-- The launch section as a table. -/
def Launch.table (l : Launch) : Table :=
  ⟨"launch", [countSetting "handle_wait_ms" l.handleWaitMs,
    countSetting "request_timeout_ms" l.requestTimeoutMs,
    countSetting "shutdown_grace_ms" l.shutdownGraceMs]⟩

/-- The session section as a table. -/
def SessionSettings.table (s : SessionSettings) : Table :=
  ⟨"session", [stringSetting "prompt" s.prompt, boolSetting "history" s.history,
    boolSetting "echo_app_output" s.echoAppOutput]⟩

/-- The paths section as a table. -/
def Paths.table (p : Paths) : Table :=
  ⟨"paths", (p.assetsDir.map (stringSetting "assets_dir")).toList⟩

/-- The logging section as a table. -/
def Logging.table (l : Logging) : Table :=
  ⟨"logging", (l.file.map (stringSetting "file")).toList⟩

/-- The tables the writer lays a configuration out in, in order. -/
def tables (c : Config) : List Table :=
  [c.build.table, c.launch.table, c.session.table, c.paths.table, c.logging.table]

/-! ### The text the writer gives -/

theorem countLine_of_le {n : Nat} (h : n ≤ tomlIntMax) (key : String) :
    countLine key n = .ok (key ++ " = " ++ toString n ++ "\n") := by
  simp [countLine, h]

theorem Build.text_table (b : Build) :
    String.join (b.table.lines.map Line.text) =
      "[build]\n" ++ stringLine "node" b.node ++
        ("aggregate_timeout_ms" ++ " = " ++ toString b.aggregateTimeoutMs ++ "\n") ++
        ("hot_poll_ms" ++ " = " ++ toString b.hotPollMs ++ "\n") ++
        (b.pollMs.map fun n => "poll_ms" ++ " = " ++ toString n ++ "\n").getD "" := by
  apply String.toList_inj.mp
  rcases b with ⟨node, agg, hot, _ | poll⟩ <;>
    simp [Build.table, Table.lines, Line.text, stringSetting, countSetting, stringLine]

theorem Launch.text_table (l : Launch) :
    String.join (l.table.lines.map Line.text) =
      "[launch]\n" ++ ("handle_wait_ms" ++ " = " ++ toString l.handleWaitMs ++ "\n") ++
        ("request_timeout_ms" ++ " = " ++ toString l.requestTimeoutMs ++ "\n") ++
        ("shutdown_grace_ms" ++ " = " ++ toString l.shutdownGraceMs ++ "\n") := by
  apply String.toList_inj.mp
  simp [Launch.table, Table.lines, Line.text, countSetting]

theorem SessionSettings.text_table (s : SessionSettings) :
    String.join (s.table.lines.map Line.text) =
      "[session]\n" ++ stringLine "prompt" s.prompt ++ boolLine "history" s.history ++
        boolLine "echo_app_output" s.echoAppOutput := by
  apply String.toList_inj.mp
  simp [SessionSettings.table, Table.lines, Line.text, stringSetting, boolSetting, stringLine,
    boolLine]

theorem Paths.text_table (p : Paths) :
    String.join (p.table.lines.map Line.text) =
      "[paths]\n" ++ (p.assetsDir.map (stringLine "assets_dir")).getD "" := by
  apply String.toList_inj.mp
  rcases p with ⟨_ | dir⟩ <;>
    simp [Paths.table, Table.lines, Line.text, stringSetting, stringLine]

theorem Logging.text_table (l : Logging) :
    String.join (l.table.lines.map Line.text) =
      "[logging]\n" ++ (l.file.map (stringLine "file")).getD "" := by
  apply String.toList_inj.mp
  rcases l with ⟨_ | file⟩ <;>
    simp [Logging.table, Table.lines, Line.text, stringSetting, stringLine]

/-- With every count within range, the writer gives the text of the configuration's tables. -/
theorem toToml_eq (c : Config) (h : ∀ n ∈ counts c, n ≤ tomlIntMax) :
    toToml c = .ok (String.join ((tablesLines (tables c)).map Line.text)) := by
  obtain ⟨hagg, hhot, hpoll, hhandle, hrequest, hshutdown⟩ := forall_mem_counts.mp h
  replace hagg := countLine_of_le hagg
  replace hhot := countLine_of_le hhot
  replace hhandle := countLine_of_le hhandle
  replace hrequest := countLine_of_le hrequest
  replace hshutdown := countLine_of_le hshutdown
  rw [text_tablesLines, tables]
  simp only [List.map_cons, List.map_nil, Build.text_table, Launch.text_table,
    SessionSettings.text_table, Paths.text_table, Logging.text_table]
  cases hp : c.build.pollMs with
  | none =>
    simp only [toToml, hp, hagg, hhot, hhandle, hrequest, hshutdown, bind, Except.bind, pure,
      Except.pure, Option.map_none, Option.getD_none, String.append_empty]
  | some n =>
    simp only [toToml, hp, hagg, hhot, hhandle, hrequest, hshutdown, countLine_of_le (hpoll n hp), bind, Except.bind,
      pure, Except.pure, Option.map_some, Option.getD_some]

/-! ### When the writer fails -/

theorem ok_of_bind_eq_ok {x : Except ε α} {f : α → Except ε β} {b : β}
    (h : x >>= f = .ok b) : ∃ a, x = .ok a ∧ f a = .ok b := by
  cases x with
  | error e => cases h
  | ok a => exact ⟨a, rfl, h⟩

theorem le_of_countLine_ok {key line : String} {n : Nat} :
    countLine key n = .ok line → n ≤ tomlIntMax := by
  unfold countLine
  split
  · intro _; assumption
  · nofun

theorem countLine_error {key e : String} {n : Nat} :
    countLine key n = .error e → e = "u64 out of range" := by
  unfold countLine
  split
  · nofun
  · intro h; cases h; rfl

/-- The writer only gets through when every count fits. -/
theorem bounds_of_toToml_ok {c : Config} {s : String} (h : toToml c = .ok s) :
    ∀ n ∈ counts c, n ≤ tomlIntMax := by
  rw [toToml] at h
  have hpoll : ∀ n, c.build.pollMs = some n → n ≤ tomlIntMax := by
    intro n hp
    rw [hp] at h
    obtain ⟨_, hline, -⟩ := ok_of_bind_eq_ok h
    exact le_of_countLine_ok hline
  -- past the optional poll line both branches write the same five lines
  split at h <;>
  · obtain ⟨_, -, h⟩ := ok_of_bind_eq_ok h
    obtain ⟨_, hagg, h⟩ := ok_of_bind_eq_ok h
    obtain ⟨_, hhot, h⟩ := ok_of_bind_eq_ok h
    obtain ⟨_, hhandle, h⟩ := ok_of_bind_eq_ok h
    obtain ⟨_, hrequest, h⟩ := ok_of_bind_eq_ok h
    obtain ⟨_, hshutdown, -⟩ := ok_of_bind_eq_ok h
    exact forall_mem_counts.mpr ⟨le_of_countLine_ok hagg, le_of_countLine_ok hhot, hpoll,
      le_of_countLine_ok hhandle, le_of_countLine_ok hrequest, le_of_countLine_ok hshutdown⟩

/-- Every failure of the writer is a count out of range. -/
theorem toToml_error_text {c : Config} {e : String} (h : toToml c = .error e) :
    e = "u64 out of range" := by
  simp only [toToml, bind, Except.bind, pure, Except.pure] at h
  repeat' split at h
  all_goals cases h
  all_goals exact countLine_error ‹_›

/-- The writer fails exactly when a count does not fit a TOML integer, and then says so. -/
theorem toToml_eq_error_iff (c : Config) (e : String) :
    toToml c = .error e ↔ e = "u64 out of range" ∧ ∃ n ∈ counts c, tomlIntMax < n := by
  constructor
  · intro h
    refine ⟨toToml_error_text h, ?_⟩
    by_cases hc : ∃ n ∈ counts c, tomlIntMax < n
    · exact hc
    · have hfits : ∀ n ∈ counts c, n ≤ tomlIntMax :=
        fun n hn => Nat.le_of_not_lt fun hlt => hc ⟨n, hn, hlt⟩
      rw [toToml_eq c hfits] at h
      cases h
  · rintro ⟨rfl, n, hn, hgt⟩
    cases hw : toToml c with
    | error e' => rw [toToml_error_text hw]
    | ok s => exact absurd (bounds_of_toToml_ok hw n hn) (Nat.not_le_of_lt hgt)

/-! ### The tables read back -/

/-- A count within range is spelled as its numeral. -/
theorem spells_count {n : Nat} (h : n ≤ tomlIntMax) : Spells (toString n) (.int n) :=
  spells_numeral (by unfold i64Max; unfold tomlIntMax at h; omega)

theorem Build.table_ok {b : Build} (hagg : b.aggregateTimeoutMs ≤ tomlIntMax)
    (hhot : b.hotPollMs ≤ tomlIntMax) (hpoll : ∀ n ∈ b.pollMs, n ≤ tomlIntMax) : b.table.Ok := by
  rcases b with ⟨node, agg, hot, _ | poll⟩
  · refine ⟨show IsBareKey "build" by decide,
      show ["node", "aggregate_timeout_ms", "hot_poll_ms"].Nodup by decide, ?_⟩
    simp only [Build.table, stringSetting, countSetting, Option.map_none, Option.toList_none,
      List.append_nil, List.forall_mem_cons, List.not_mem_nil, false_implies, implies_true,
      and_true]
    exact ⟨⟨by decide, spells_stringRepr node⟩, ⟨by decide, spells_count hagg⟩,
      by decide, spells_count hhot⟩
  · refine ⟨show IsBareKey "build" by decide,
      show ["node", "aggregate_timeout_ms", "hot_poll_ms", "poll_ms"].Nodup by decide, ?_⟩
    simp only [Build.table, stringSetting, countSetting, Option.map_some, Option.toList_some,
      List.cons_append, List.nil_append, List.forall_mem_cons, List.not_mem_nil, false_implies,
      implies_true, and_true]
    exact ⟨⟨by decide, spells_stringRepr node⟩, ⟨by decide, spells_count hagg⟩,
      ⟨by decide, spells_count hhot⟩, by decide, spells_count (hpoll poll rfl)⟩

theorem Launch.table_ok {l : Launch} (hhandle : l.handleWaitMs ≤ tomlIntMax)
    (hrequest : l.requestTimeoutMs ≤ tomlIntMax) (hshutdown : l.shutdownGraceMs ≤ tomlIntMax) :
    l.table.Ok := by
  refine ⟨show IsBareKey "launch" by decide,
    show ["handle_wait_ms", "request_timeout_ms", "shutdown_grace_ms"].Nodup by decide, ?_⟩
  simp only [Launch.table, countSetting, List.forall_mem_cons, List.not_mem_nil, false_implies,
    implies_true, and_true]
  exact ⟨⟨by decide, spells_count hhandle⟩, ⟨by decide, spells_count hrequest⟩,
    by decide, spells_count hshutdown⟩

theorem SessionSettings.table_ok (s : SessionSettings) : s.table.Ok := by
  refine ⟨show IsBareKey "session" by decide,
    show ["prompt", "history", "echo_app_output"].Nodup by decide, ?_⟩
  simp only [SessionSettings.table, stringSetting, boolSetting, List.forall_mem_cons,
    List.not_mem_nil, false_implies, implies_true, and_true]
  exact ⟨⟨by decide, spells_stringRepr _⟩, ⟨by decide, spells_bool _⟩, by decide, spells_bool _⟩

theorem Paths.table_ok (p : Paths) : p.table.Ok := by
  rcases p with ⟨_ | dir⟩
  · exact ⟨show IsBareKey "paths" by decide, List.nodup_nil, nofun⟩
  · refine ⟨show IsBareKey "paths" by decide, show ["assets_dir"].Nodup by decide, ?_⟩
    simp only [Paths.table, stringSetting, Option.map_some, Option.toList_some,
      List.forall_mem_cons, List.not_mem_nil, false_implies, implies_true, and_true]
    exact ⟨by decide, spells_stringRepr dir⟩

theorem Logging.table_ok (l : Logging) : l.table.Ok := by
  rcases l with ⟨_ | file⟩
  · exact ⟨show IsBareKey "logging" by decide, List.nodup_nil, nofun⟩
  · refine ⟨show IsBareKey "logging" by decide, show ["file"].Nodup by decide, ?_⟩
    simp only [Logging.table, stringSetting, Option.map_some, Option.toList_some,
      List.forall_mem_cons, List.not_mem_nil, false_implies, implies_true, and_true]
    exact ⟨by decide, spells_stringRepr file⟩

theorem tables_ok {c : Config} (h : ∀ n ∈ counts c, n ≤ tomlIntMax) : ∀ t ∈ tables c, t.Ok := by
  simp only [tables, List.forall_mem_cons, List.not_mem_nil, false_implies, implies_true,
    and_true]
  obtain ⟨hagg, hhot, hpoll, hhandle, hrequest, hshutdown⟩ := forall_mem_counts.mp h
  exact ⟨Build.table_ok hagg hhot hpoll, Launch.table_ok hhandle hrequest hshutdown,
    c.session.table_ok, c.paths.table_ok, c.logging.table_ok⟩

theorem readBuild_table (b : Build) : readBuild (.table b.table.entries) = some b := by
  rcases b with ⟨node, agg, hot, _ | poll⟩ <;>
    simp +decide [List.lookup_cons, readBuild, sectionFields, setting, optSetting, readCount,
      readString, Build.table, Table.entries, stringSetting, countSetting]

theorem readLaunch_table (l : Launch) : readLaunch (.table l.table.entries) = some l := by
  simp +decide [List.lookup_cons, readLaunch, sectionFields, setting, readCount, Launch.table,
    Table.entries, countSetting]

theorem readSession_table (s : SessionSettings) :
    readSession (.table s.table.entries) = some s := by
  simp +decide [List.lookup_cons, readSession, sectionFields, setting, readString, readBool,
    SessionSettings.table, Table.entries, stringSetting, boolSetting]

theorem readPaths_table (p : Paths) : readPaths (.table p.table.entries) = some p := by
  rcases p with ⟨_ | dir⟩ <;>
    simp [readPaths, sectionFields, optSetting, readString, Paths.table, Table.entries,
      stringSetting]

theorem readLogging_table (l : Logging) : readLogging (.table l.table.entries) = some l := by
  rcases l with ⟨_ | file⟩ <;>
    simp [readLogging, sectionFields, optSetting, readString, Logging.table, Table.entries,
      stringSetting]

/-- The five tables read back as the configuration. -/
theorem ofToml_tables (c : Config) :
    ofToml (.table ((tables c).map fun t => (t.name, .table t.entries))) = some c := by
  have hb : c.build.table.name = "build" := rfl
  have hl : c.launch.table.name = "launch" := rfl
  have hs : c.session.table.name = "session" := rfl
  have hp : c.paths.table.name = "paths" := rfl
  have hg : c.logging.table.name = "logging" := rfl
  simp +decide [List.lookup_cons, ofToml, section?, Value.get?, tables, hb, hl, hs, hp, hg,
    readBuild_table, readLaunch_table, readSession_table, readPaths_table, readLogging_table]

/-- A configuration whose counts fit a TOML integer reads back as itself once written. -/
theorem fromToml_toToml {c : Config} (h : ∀ n ∈ counts c, n ≤ tomlIntMax) :
    ∃ out, toToml c = .ok out ∧ fromToml out = some c := by
  have hnames : ((tables c).map Table.name).Nodup :=
    show ["build", "launch", "session", "paths", "logging"].Nodup by decide
  refine ⟨_, toToml_eq c h, ?_⟩
  rw [fromToml, readDocument_tables _ (tables_ok h) hnames, Option.bind_some, ofToml_tables]

/-! ### Counts of a configuration read -/

theorem readCount_le {v : Value} (hv : v.Fits) {n : Nat} (h : readCount v = some n) :
    n ≤ tomlIntMax := by
  cases hv with
  | int lo hi =>
    rw [readCount] at h
    split at h
    · cases h
      unfold i64Max at hi
      unfold tomlIntMax
      omega
    · cases h
  | _ => simp [readCount] at h

theorem sectionFields_fits {fields : List String} {v : Value} (hv : v.Fits)
    {raw : List (Option Value)} (h : sectionFields fields v = some raw) :
    ∀ x ∈ raw, ∀ w ∈ x, w.Fits := by
  intro x hx w hw
  rw [Option.mem_def] at hw
  subst hw
  unfold sectionFields at h
  split at h
  · cases h
    obtain ⟨k, -, hk⟩ := List.mem_map.mp hx
    obtain ⟨l₁, l₂, hkvs, -⟩ := List.lookup_eq_some_iff.mp hk
    cases hv with
    | table hentries => exact hentries (k, w) (by simp [hkvs])
  · cases h
    obtain ⟨i, -, hi⟩ := List.mem_map.mp hx
    cases hv with
    | arr hitems => exact hitems w (List.mem_of_getElem? hi)
  · cases h

theorem mem_of_getD_eq_some {raw : List (Option Value)} {i : Nat} {w : Value}
    (h : raw.getD i none = some w) : some w ∈ raw := by
  rw [List.getD_eq_getElem?_getD] at h
  cases hx : raw[i]? with
  | none => simp [hx] at h
  | some x =>
    simp only [hx, Option.getD_some] at h
    subst h
    exact List.mem_of_getElem? hx

theorem setting_count_le {raw : List (Option Value)} (hraw : ∀ x ∈ raw, ∀ w ∈ x, w.Fits)
    {i d n : Nat} (hd : d ≤ tomlIntMax) (h : setting raw i readCount d = some n) :
    n ≤ tomlIntMax := by
  unfold setting at h
  split at h
  · exact readCount_le (hraw _ (mem_of_getD_eq_some ‹_›) _ rfl) h
  · cases h
    exact hd

theorem optSetting_count_le {raw : List (Option Value)} (hraw : ∀ x ∈ raw, ∀ w ∈ x, w.Fits)
    {i : Nat} {n : Option Nat} (h : optSetting raw i readCount = some n) :
    ∀ m ∈ n, m ≤ tomlIntMax := by
  intro m hm
  rw [Option.mem_def] at hm
  subst hm
  unfold optSetting at h
  split at h
  · obtain ⟨m', hm', hsome⟩ := Option.map_eq_some_iff.mp h
    cases hsome
    exact readCount_le (hraw _ (mem_of_getD_eq_some ‹_›) _ rfl) hm'
  · cases h

theorem fits_of_get? {root v : Value} (hroot : root.Fits) {name : String}
    (h : root.get? name = some v) : v.Fits := by
  cases hroot with
  | table hentries =>
    obtain ⟨l₁, l₂, hkvs, -⟩ := List.lookup_eq_some_iff.mp h
    exact hentries (name, v) (by simp [hkvs])
  | _ => cases h

/-- The counts of a configuration read from a document whose integers fit are within range. -/
theorem counts_le_of_ofToml {root : Value} (hroot : root.Fits) {c : Config}
    (h : ofToml root = some c) : ∀ n ∈ counts c, n ≤ tomlIntMax := by
  obtain ⟨hb, hl, -⟩ := ofToml_eq_some h
  have hbuild := section?_induct (fun b : Build => b.aggregateTimeoutMs ≤ tomlIntMax ∧
      b.hotPollMs ≤ tomlIntMax ∧ ∀ n ∈ b.pollMs, n ≤ tomlIntMax) hb (by decide)
    fun v b hv hread => by
      obtain ⟨raw, hraw, -, hagg, hhot, hpoll⟩ := readBuild_eq_some hread
      have hslots := sectionFields_fits (fits_of_get? hroot hv) hraw
      exact ⟨setting_count_le hslots (by decide) hagg, setting_count_le hslots (by decide) hhot,
        optSetting_count_le hslots hpoll⟩
  have hlaunch := section?_induct (fun l : Launch => l.handleWaitMs ≤ tomlIntMax ∧
      l.requestTimeoutMs ≤ tomlIntMax ∧ l.shutdownGraceMs ≤ tomlIntMax) hl (by decide)
    fun v l hv hread => by
      obtain ⟨raw, hraw, hhandle, hrequest, hshutdown⟩ := readLaunch_eq_some hread
      have hslots := sectionFields_fits (fits_of_get? hroot hv) hraw
      exact ⟨setting_count_le hslots (by decide) hhandle,
        setting_count_le hslots (by decide) hrequest, setting_count_le hslots (by decide) hshutdown⟩
  exact forall_mem_counts.mpr ⟨hbuild.1, hbuild.2.1, hbuild.2.2, hlaunch.1, hlaunch.2.1,
    hlaunch.2.2⟩

/-- A configuration read from a document writes back, and what is written reads back as it. -/
theorem toToml_of_fromToml {text : String} {c : Config} (h : fromToml text = some c) :
    ∃ out, toToml c = .ok out ∧ fromToml out = some c := by
  obtain ⟨root, hroot, hc⟩ := Option.bind_eq_some_iff.mp h
  exact fromToml_toToml (counts_le_of_ofToml (readDocument_fits hroot) hc)

/-! ### The laws together -/

/-- A configuration read from a document writes back, and the text written reads back as it; a
setting a document leaves out takes its default; writing fails exactly when a count is past
`2^63 - 1`, and otherwise the text written reads back as the configuration. -/
theorem config_toml_laws :
    (∀ (text : String) (c : Config), fromToml text = some c →
      ∃ out, toToml c = .ok out ∧ fromToml out = some c) ∧
    (∀ (root : Value) (c : Config), ofToml root = some c →
      ∀ f : Field, f.OmittedIn root → f.get c = f.get {}) ∧
    (∀ (c : Config) (e : String),
      toToml c = .error e ↔ e = "u64 out of range" ∧ ∃ n ∈ counts c, tomlIntMax < n) ∧
    (∀ c : Config, (∀ n ∈ counts c, n ≤ tomlIntMax) →
      ∃ out, toToml c = .ok out ∧ fromToml out = some c) :=
  ⟨fun _ _ h => toToml_of_fromToml h, fun _ _ h _ hf => ofToml_omitted h hf,
    toToml_eq_error_iff, fun _ h => fromToml_toToml h⟩

/-- A document that sets one count gives a configuration that writes back and reads back, and
the poll interval it leaves out keeps its default; a count of `2^63 - 1` is written, one past it
is not. -/
theorem config_toml_laws_at_bounds :
    fromToml "[build]\nhot_poll_ms = 5\n" = some { build := { hotPollMs := 5 } } ∧
      (∃ out, toToml { build := { hotPollMs := 5 } } = .ok out ∧
        fromToml out = some { build := { hotPollMs := 5 } }) ∧
      Field.poll.get { build := { hotPollMs := 5 } } = Field.poll.get {} ∧
      toToml { launch := { handleWaitMs := tomlIntMax + 1 } } = .error "u64 out of range" ∧
      (∃ out, toToml { launch := { handleWaitMs := tomlIntMax } } = .ok out ∧
        fromToml out = some { launch := { handleWaitMs := tomlIntMax } }) := by
  have hread : fromToml "[build]\nhot_poll_ms = 5\n" = some { build := { hotPollMs := 5 } } := by
    decide +kernel
  have hroot : ofToml (.table [("build", .table [("hot_poll_ms", .int 5)])]) =
      some { build := { hotPollMs := 5 } } := by
    decide +kernel
  have homitted : Field.poll.OmittedIn (.table [("build", .table [("hot_poll_ms", .int 5)])]) := by
    intro v hv
    cases hv
    rfl
  refine ⟨hread, config_toml_laws.1 _ _ hread, config_toml_laws.2.1 _ _ hroot _ homitted,
    (config_toml_laws.2.2.1 _ _).mpr ⟨rfl, tomlIntMax + 1, by simp [counts], by decide⟩,
    config_toml_laws.2.2.2 _ (by decide)⟩

end LiveSession.Config

import LiveSession.Config.Toml
/-!
# Reading a configuration

A configuration is read section by section and each section setting by setting. Main statement:
`ofToml_omitted`, a setting that a document does not give takes its default, whether its
section is missing or present without it.
-/

namespace LiveSession.Config

open LiveSession.Toml

/-! ### What each reader reads -/

theorem ofToml_eq_some {root : Value} {c : Config} (h : ofToml root = some c) :
    (section? root "build" readBuild {}) = some c.build ∧
      (section? root "launch" readLaunch {}) = some c.launch ∧
      (section? root "session" readSession {}) = some c.session ∧
      (section? root "paths" readPaths {}) = some c.paths ∧
      (section? root "logging" readLogging {}) = some c.logging := by
  unfold ofToml at h
  split at h
  · obtain ⟨b, hb, h⟩ := Option.bind_eq_some_iff.mp h
    obtain ⟨l, hl, h⟩ := Option.bind_eq_some_iff.mp h
    obtain ⟨s, hs, h⟩ := Option.bind_eq_some_iff.mp h
    obtain ⟨p, hp, h⟩ := Option.bind_eq_some_iff.mp h
    obtain ⟨g, hg, h⟩ := Option.bind_eq_some_iff.mp h
    cases h
    exact ⟨hb, hl, hs, hp, hg⟩
  · obtain ⟨_, hnone, -⟩ := Option.bind_eq_some_iff.mp h
    cases hnone

theorem readBuild_eq_some {v : Value} {b : Build} (h : readBuild v = some b) :
    ∃ raw, sectionFields ["node", "aggregate_timeout_ms", "hot_poll_ms", "poll_ms"] v =
        some raw ∧
      setting raw 0 readString dNode = some b.node ∧
      setting raw 1 readCount d300 = some b.aggregateTimeoutMs ∧
      setting raw 2 readCount d1000 = some b.hotPollMs ∧
      optSetting raw 3 readCount = some b.pollMs := by
  unfold readBuild at h
  obtain ⟨raw, hraw, h⟩ := Option.bind_eq_some_iff.mp h
  obtain ⟨_, hnode, h⟩ := Option.bind_eq_some_iff.mp h
  obtain ⟨_, hagg, h⟩ := Option.bind_eq_some_iff.mp h
  obtain ⟨_, hhot, h⟩ := Option.bind_eq_some_iff.mp h
  obtain ⟨_, hpoll, h⟩ := Option.bind_eq_some_iff.mp h
  cases h
  exact ⟨raw, hraw, hnode, hagg, hhot, hpoll⟩

theorem readLaunch_eq_some {v : Value} {l : Launch} (h : readLaunch v = some l) :
    ∃ raw, sectionFields ["handle_wait_ms", "request_timeout_ms", "shutdown_grace_ms"] v =
        some raw ∧
      setting raw 0 readCount d10000 = some l.handleWaitMs ∧
      setting raw 1 readCount d30000 = some l.requestTimeoutMs ∧
      setting raw 2 readCount d5000 = some l.shutdownGraceMs := by
  unfold readLaunch at h
  obtain ⟨raw, hraw, h⟩ := Option.bind_eq_some_iff.mp h
  obtain ⟨_, hhandle, h⟩ := Option.bind_eq_some_iff.mp h
  obtain ⟨_, hrequest, h⟩ := Option.bind_eq_some_iff.mp h
  obtain ⟨_, hshutdown, h⟩ := Option.bind_eq_some_iff.mp h
  cases h
  exact ⟨raw, hraw, hhandle, hrequest, hshutdown⟩

theorem readSession_eq_some {v : Value} {s : SessionSettings} (h : readSession v = some s) :
    ∃ raw, sectionFields ["prompt", "history", "echo_app_output"] v = some raw ∧
      setting raw 0 readString dPrompt = some s.prompt ∧
      setting raw 1 readBool dTrue = some s.history ∧
      setting raw 2 readBool dTrue = some s.echoAppOutput := by
  unfold readSession at h
  obtain ⟨raw, hraw, h⟩ := Option.bind_eq_some_iff.mp h
  obtain ⟨_, hprompt, h⟩ := Option.bind_eq_some_iff.mp h
  obtain ⟨_, hhistory, h⟩ := Option.bind_eq_some_iff.mp h
  obtain ⟨_, hecho, h⟩ := Option.bind_eq_some_iff.mp h
  cases h
  exact ⟨raw, hraw, hprompt, hhistory, hecho⟩

theorem readPaths_eq_some {v : Value} {p : Paths} (h : readPaths v = some p) :
    ∃ raw, sectionFields ["assets_dir"] v = some raw ∧
      optSetting raw 0 readString = some p.assetsDir := by
  unfold readPaths at h
  obtain ⟨raw, hraw, h⟩ := Option.bind_eq_some_iff.mp h
  obtain ⟨_, hdir, h⟩ := Option.bind_eq_some_iff.mp h
  cases h
  exact ⟨raw, hraw, hdir⟩

theorem readLogging_eq_some {v : Value} {l : Logging} (h : readLogging v = some l) :
    ∃ raw, sectionFields ["file"] v = some raw ∧ optSetting raw 0 readString = some l.file := by
  unfold readLogging at h
  obtain ⟨raw, hraw, h⟩ := Option.bind_eq_some_iff.mp h
  obtain ⟨_, hfile, h⟩ := Option.bind_eq_some_iff.mp h
  cases h
  exact ⟨raw, hraw, hfile⟩

/-! ### Settings a document leaves out -/

/-- A setting of a configuration. -/
inductive Field where
  | node | aggregateTimeout | hotPoll | poll
  | handleWait | requestTimeout | shutdownGrace
  | prompt | history | echoAppOutput
  | assetsDir | logFile
  deriving DecidableEq, Repr

/-- The value of a setting. -/
inductive SettingValue where
  | str (s : String)
  | count (n : Nat)
  | flag (b : Bool)
  | optCount (n : Option Nat)
  | optStr (s : Option String)
  deriving DecidableEq, Repr

namespace Field

/-- The section the setting belongs to. -/
def sectionName : Field → String
  | node | aggregateTimeout | hotPoll | poll => "build"
  | handleWait | requestTimeout | shutdownGrace => "launch"
  | prompt | history | echoAppOutput => "session"
  | assetsDir => "paths"
  | logFile => "logging"

/-- The setting's key in its section's table. -/
def key : Field → String
  | node => "node"
  | aggregateTimeout => "aggregate_timeout_ms"
  | hotPoll => "hot_poll_ms"
  | poll => "poll_ms"
  | handleWait => "handle_wait_ms"
  | requestTimeout => "request_timeout_ms"
  | shutdownGrace => "shutdown_grace_ms"
  | prompt => "prompt"
  | history => "history"
  | echoAppOutput => "echo_app_output"
  | assetsDir => "assets_dir"
  | logFile => "file"

/-- The setting's place when its section is written as an array. -/
def index : Field → Nat
  | node | handleWait | prompt | assetsDir | logFile => 0
  | aggregateTimeout | requestTimeout | history => 1
  | hotPoll | shutdownGrace | echoAppOutput => 2
  | poll => 3

/-- The setting's value in a configuration. -/
def get : Field → Config → SettingValue
  | node, c => .str c.build.node
  | aggregateTimeout, c => .count c.build.aggregateTimeoutMs
  | hotPoll, c => .count c.build.hotPollMs
  | poll, c => .optCount c.build.pollMs
  | handleWait, c => .count c.launch.handleWaitMs
  | requestTimeout, c => .count c.launch.requestTimeoutMs
  | shutdownGrace, c => .count c.launch.shutdownGraceMs
  | prompt, c => .str c.session.prompt
  | history, c => .flag c.session.history
  | echoAppOutput, c => .flag c.session.echoAppOutput
  | assetsDir, c => .optStr c.paths.assetsDir
  | logFile, c => .optStr c.logging.file

/-- What a section's value gives for the setting: the entry of its key in a table, the element
at its place in an array. -/
def given (f : Field) : Value → Option Value
  | .table kvs => kvs.lookup f.key
  | .arr items => items[f.index]?
  | _ => none

/-- A document gives nothing for the setting: its section is missing, or gives nothing for it. -/
def OmittedIn (f : Field) (root : Value) : Prop :=
  ∀ v, root.get? f.sectionName = some v → f.given v = none

end Field

theorem getD_sectionFields (f : Field) {fields : List String} {v : Value}
    {raw : List (Option Value)} (h : sectionFields fields v = some raw)
    (hk : fields[f.index]? = some f.key) : raw.getD f.index none = f.given v := by
  have hlt : f.index < fields.length := (List.getElem?_eq_some_iff.mp hk).1
  unfold sectionFields at h
  split at h
  · cases h
    simp [Field.given, List.getD_eq_getElem?_getD, hk]
  · cases h
    simp [Field.given, List.getD_eq_getElem?_getD, hlt]
  · cases h

theorem setting_of_omitted {raw : List (Option Value)} {i : Nat} (hi : raw.getD i none = none)
    {read : Value → Option α} {d x : α} (h : setting raw i read d = some x) : x = d := by
  unfold setting at h
  rw [hi] at h
  cases h
  rfl

theorem optSetting_of_omitted {raw : List (Option Value)} {i : Nat} (hi : raw.getD i none = none)
    {read : Value → Option α} {x : Option α} (h : optSetting raw i read = some x) :
    x = none := by
  unfold optSetting at h
  rw [hi] at h
  cases h
  rfl

/-- What holds of a section's default and of every section read holds of the section taken. -/
theorem section?_induct {root : Value} {name : String} {read : Value → Option α} {d x : α}
    (P : α → Prop) (h : section? root name read d = some x) (hd : P d)
    (hread : ∀ v y, root.get? name = some v → read v = some y → P y) : P x := by
  unfold section? at h
  split at h
  · exact hread _ _ ‹_› h
  · cases h
    exact hd

/-- **The two defaults of each setting agree**: the record of the settings' own default functions
is the section's default. -/
theorem settingDefaults_eq_sectionDefaults :
    ({ node := dNode, aggregateTimeoutMs := d300, hotPollMs := d1000 } : Build) = {} ∧
      ({ handleWaitMs := d10000, requestTimeoutMs := d30000, shutdownGraceMs := d5000 } :
        Launch) = {} ∧
      ({ prompt := dPrompt, history := dTrue, echoAppOutput := dTrue } : SessionSettings) = {} :=
  ⟨rfl, rfl, rfl⟩

/-- A setting that a document leaves out takes its default, whether its section is missing or
present without it. -/
theorem ofToml_omitted {root : Value} {c : Config} (h : ofToml root = some c) {f : Field}
    (hf : f.OmittedIn root) : f.get c = f.get {} := by
  obtain ⟨hb, hl, hs, hp, hg⟩ := ofToml_eq_some h
  -- a section without the setting's key takes the setting's own default, which is the section's
  obtain ⟨hbd, hld, hsd⟩ := settingDefaults_eq_sectionDefaults
  -- where the section is there, its reader finds nothing for the setting
  have hslot : ∀ {fields : List String} {raw : List (Option Value)} {v : Value},
      root.get? f.sectionName = some v → sectionFields fields v = some raw →
        fields[f.index]? = some f.key → raw.getD f.index none = none :=
    fun hv hraw hk => (getD_sectionFields f hraw hk).trans (hf _ hv)
  cases f with
  | node =>
    refine congrArg SettingValue.str (section?_induct (fun b : Build => b.node = ({} : Build).node)
      hb rfl fun v b hv hread => ?_)
    obtain ⟨raw, hraw, hnode, -⟩ := readBuild_eq_some hread
    exact (setting_of_omitted (hslot hv hraw rfl) hnode).trans (congrArg Build.node hbd)
  | aggregateTimeout =>
    refine congrArg SettingValue.count (section?_induct
      (fun b : Build => b.aggregateTimeoutMs = ({} : Build).aggregateTimeoutMs) hb rfl
      fun v b hv hread => ?_)
    obtain ⟨raw, hraw, -, hagg, -⟩ := readBuild_eq_some hread
    exact (setting_of_omitted (hslot hv hraw rfl) hagg).trans
      (congrArg Build.aggregateTimeoutMs hbd)
  | hotPoll =>
    refine congrArg SettingValue.count (section?_induct
      (fun b : Build => b.hotPollMs = ({} : Build).hotPollMs) hb rfl fun v b hv hread => ?_)
    obtain ⟨raw, hraw, -, -, hhot, -⟩ := readBuild_eq_some hread
    exact (setting_of_omitted (hslot hv hraw rfl) hhot).trans (congrArg Build.hotPollMs hbd)
  | poll =>
    refine congrArg SettingValue.optCount (section?_induct
      (fun b : Build => b.pollMs = ({} : Build).pollMs) hb rfl fun v b hv hread => ?_)
    obtain ⟨raw, hraw, -, -, -, hpoll⟩ := readBuild_eq_some hread
    exact optSetting_of_omitted (hslot hv hraw rfl) hpoll
  | handleWait =>
    refine congrArg SettingValue.count (section?_induct
      (fun l : Launch => l.handleWaitMs = ({} : Launch).handleWaitMs) hl rfl
      fun v l hv hread => ?_)
    obtain ⟨raw, hraw, hhandle, -⟩ := readLaunch_eq_some hread
    exact (setting_of_omitted (hslot hv hraw rfl) hhandle).trans (congrArg Launch.handleWaitMs hld)
  | requestTimeout =>
    refine congrArg SettingValue.count (section?_induct
      (fun l : Launch => l.requestTimeoutMs = ({} : Launch).requestTimeoutMs) hl rfl
      fun v l hv hread => ?_)
    obtain ⟨raw, hraw, -, hrequest, -⟩ := readLaunch_eq_some hread
    exact (setting_of_omitted (hslot hv hraw rfl) hrequest).trans
      (congrArg Launch.requestTimeoutMs hld)
  | shutdownGrace =>
    refine congrArg SettingValue.count (section?_induct
      (fun l : Launch => l.shutdownGraceMs = ({} : Launch).shutdownGraceMs) hl rfl
      fun v l hv hread => ?_)
    obtain ⟨raw, hraw, -, -, hshutdown⟩ := readLaunch_eq_some hread
    exact (setting_of_omitted (hslot hv hraw rfl) hshutdown).trans
      (congrArg Launch.shutdownGraceMs hld)
  | prompt =>
    refine congrArg SettingValue.str (section?_induct
      (fun s : SessionSettings => s.prompt = ({} : SessionSettings).prompt) hs rfl
      fun v s hv hread => ?_)
    obtain ⟨raw, hraw, hprompt, -⟩ := readSession_eq_some hread
    exact (setting_of_omitted (hslot hv hraw rfl) hprompt).trans
      (congrArg SessionSettings.prompt hsd)
  | history =>
    refine congrArg SettingValue.flag (section?_induct
      (fun s : SessionSettings => s.history = ({} : SessionSettings).history) hs rfl
      fun v s hv hread => ?_)
    obtain ⟨raw, hraw, -, hhistory, -⟩ := readSession_eq_some hread
    exact (setting_of_omitted (hslot hv hraw rfl) hhistory).trans
      (congrArg SessionSettings.history hsd)
  | echoAppOutput =>
    refine congrArg SettingValue.flag (section?_induct
      (fun s : SessionSettings => s.echoAppOutput = ({} : SessionSettings).echoAppOutput) hs rfl
      fun v s hv hread => ?_)
    obtain ⟨raw, hraw, -, -, hecho⟩ := readSession_eq_some hread
    exact (setting_of_omitted (hslot hv hraw rfl) hecho).trans
      (congrArg SessionSettings.echoAppOutput hsd)
  | assetsDir =>
    refine congrArg SettingValue.optStr (section?_induct
      (fun p : Paths => p.assetsDir = ({} : Paths).assetsDir) hp rfl fun v p hv hread => ?_)
    obtain ⟨raw, hraw, hdir⟩ := readPaths_eq_some hread
    exact optSetting_of_omitted (hslot hv hraw rfl) hdir
  | logFile =>
    refine congrArg SettingValue.optStr (section?_induct
      (fun l : Logging => l.file = ({} : Logging).file) hg rfl fun v l hv hread => ?_)
    obtain ⟨raw, hraw, hfile⟩ := readLogging_eq_some hread
    exact optSetting_of_omitted (hslot hv hraw rfl) hfile

end LiveSession.Config

import Mathlib.Logic.Function.Iterate
import LiveSession.Scaffold.Synthesis
import LiveSession.Proofs.Files.Walk
/-!
# What the synthesis of the bridge files writes

`synthesize` checks, reading only, that the main module is a regular file, that the bridge
template is installed and reads as text, that the helper scope is installed and that the template
renders; then it makes the scratch directory and writes the bridge files. Main statement,
`synthesize_checks_then_writes`:

* a check that fails refuses the run with its error before anything is written; `Refusal` lists
  the checks in the order they are made, each after those before it passed;
* a run that fails otherwise failed at a write, and wrote only bridge files and directories
  (`synthesize_error`);
* a run that succeeds passed every check (`Ready`) and wrote the rendered bridge source, a copy of
  the helper scope and, exactly when they are installed, a copy of the type declarations, and
  nothing else but directories; its report names them (`synthesize_ok`);
* a second run from what a run left does the same and leaves the same (`synthesize_synthesize`),
  so any number of runs give what one gives.

The proofs follow a run step by step (`Run`). Every tree it goes through is a `Stage`: it keeps
the directories it started from and the scratch directory, and it differs from the start only by
directories and by the files written, whose keys hold them. The assets are in a `nestjs`
directory and the written files in the scratch directory, so no write reaches an asset
(`Stage.asset_entry`).
-/

namespace LiveSession.Scaffold

open LiveSession.Files LiveSession.Path

/-! ### A run, step by step -/

/-- The installed type declarations of a context. -/
def declAssetPath (ctx : Context) : String := join ctx.assetsDir typeDeclAsset

/-- The report of a run that wrote the bridge files, naming the type declarations when it copied
them. -/
def bridgeReport (ctx : Context) (b : RenderedBridge) (decl : Option String) : Report :=
  ⟨ctx.layout.bridgeSource, ctx.layout.bridgeScope, decl, b.symbol, b.importPath⟩

/-- A run of the synthesis, step by step: where it stops, and the tree and result it leaves. -/
inductive Run (t : Tree) (ctx : Context) : Tree × Except SynthesisError Report → Prop
  /-- A check fails, before anything is written. -/
  | refused {e : SynthesisError} : prepareBridge t ctx = .error e → Run t ctx (t, .error e)
  /-- The scratch directory cannot be made. -/
  | noDir {s : String} {b : RenderedBridge} {e : IoError} : prepareBridge t ctx = .ok (s, b) →
      t.createDirAll ctx.layout.dir = .error e → Run t ctx (t, .error (.write ctx.layout.dir e))
  /-- The bridge source cannot be written. -/
  | noSource {s : String} {b : RenderedBridge} {ta : Tree} {e : IoError} :
      prepareBridge t ctx = .ok (s, b) → t.createDirAll ctx.layout.dir = .ok ta →
      ta.writeText ctx.layout.bridgeSource b.rendered = .error e →
      Run t ctx (ta, .error (.write ctx.layout.bridgeSource e))
  /-- The helper scope cannot be copied. -/
  | noScope {s : String} {b : RenderedBridge} {ta tb : Tree} {e : IoError} :
      prepareBridge t ctx = .ok (s, b) → t.createDirAll ctx.layout.dir = .ok ta →
      ta.writeText ctx.layout.bridgeSource b.rendered = .ok tb →
      tb.copy s ctx.layout.bridgeScope = .error e →
      Run t ctx (tb, .error (.write ctx.layout.bridgeScope e))
  /-- The type declarations are installed but cannot be copied. -/
  | noDecl {s : String} {b : RenderedBridge} {ta tb tc : Tree} {e : IoError} :
      prepareBridge t ctx = .ok (s, b) → t.createDirAll ctx.layout.dir = .ok ta →
      ta.writeText ctx.layout.bridgeSource b.rendered = .ok tb →
      tb.copy s ctx.layout.bridgeScope = .ok tc → tc.isFile (declAssetPath ctx) = true →
      tc.copy (declAssetPath ctx) ctx.layout.typeDecl = .error e →
      Run t ctx (tc, .error (.write ctx.layout.typeDecl e))
  /-- The bridge files are written; no type declarations are installed. -/
  | withoutDecl {s : String} {b : RenderedBridge} {ta tb tc : Tree} :
      prepareBridge t ctx = .ok (s, b) → t.createDirAll ctx.layout.dir = .ok ta →
      ta.writeText ctx.layout.bridgeSource b.rendered = .ok tb →
      tb.copy s ctx.layout.bridgeScope = .ok tc → tc.isFile (declAssetPath ctx) = false →
      Run t ctx (tc, .ok (bridgeReport ctx b none))
  /-- The bridge files and the type declarations are written. -/
  | withDecl {s : String} {b : RenderedBridge} {ta tb tc td : Tree} :
      prepareBridge t ctx = .ok (s, b) → t.createDirAll ctx.layout.dir = .ok ta →
      ta.writeText ctx.layout.bridgeSource b.rendered = .ok tb →
      tb.copy s ctx.layout.bridgeScope = .ok tc → tc.isFile (declAssetPath ctx) = true →
      tc.copy (declAssetPath ctx) ctx.layout.typeDecl = .ok td →
      Run t ctx (td, .ok (bridgeReport ctx b (some ctx.layout.typeDecl)))

variable {t : Tree} {ctx : Context}

theorem run_synthesize (t : Tree) (ctx : Context) : Run t ctx (synthesize t ctx) := by
  unfold synthesize
  cases hp : prepareBridge t ctx with
  | error e => exact .refused hp
  | ok sb =>
    obtain ⟨s, b⟩ := sb
    dsimp only
    cases hd : t.createDirAll ctx.layout.dir with
    | error e => exact .noDir hp hd
    | ok ta =>
      simp only [writeStep]
      cases hsrc : ta.writeText ctx.layout.bridgeSource b.rendered with
      | error e => exact .noSource hp hd hsrc
      | ok tb =>
        dsimp only
        cases hsc : tb.copy s ctx.layout.bridgeScope with
        | error e => exact .noScope hp hd hsrc hsc
        | ok tc =>
          dsimp only
          cases hf : tc.isFile (declAssetPath ctx) with
          | false =>
            have hf' : tc.isFile (join ctx.assetsDir typeDeclAsset) = false := hf
            simp only [hf', Bool.false_eq_true, if_false]
            exact .withoutDecl hp hd hsrc hsc hf
          | true =>
            have hf' : tc.isFile (join ctx.assetsDir typeDeclAsset) = true := hf
            simp only [hf', if_true]
            cases hdc : tc.copy (declAssetPath ctx) ctx.layout.typeDecl with
            | error e =>
              have hdc' : tc.copy (join ctx.assetsDir typeDeclAsset) ctx.layout.typeDecl =
                .error e := hdc
              simp only [hdc']
              exact .noDecl hp hd hsrc hsc hf hdc
            | ok td =>
              have hdc' : tc.copy (join ctx.assetsDir typeDeclAsset) ctx.layout.typeDecl =
                .ok td := hdc
              simp only [hdc']
              exact .withDecl hp hd hsrc hsc hf hdc

/-- A run determines the result: the synthesis leaves exactly what its run says. -/
theorem synthesize_of_run {r : Tree × Except SynthesisError Report} (h : Run t ctx r) :
    synthesize t ctx = r := by
  cases h with
  | refused hp => simp [synthesize, hp]
  | noDir hp hd => simp [synthesize, hp, hd, writeStep]
  | noSource hp hd hsrc => simp [synthesize, hp, hd, hsrc, writeStep]
  | noScope hp hd hsrc hsc => simp [synthesize, hp, hd, hsrc, hsc, writeStep]
  | noDecl hp hd hsrc hsc hf hdc =>
    simp only [declAssetPath] at hf hdc
    simp [synthesize, hp, hd, hsrc, hsc, hf, hdc, writeStep]
  | withoutDecl hp hd hsrc hsc hf =>
    simp only [declAssetPath] at hf
    simp [synthesize, hp, hd, hsrc, hsc, hf, writeStep, bridgeReport]
  | withDecl hp hd hsrc hsc hf hdc =>
    simp only [declAssetPath] at hf hdc
    simp [synthesize, hp, hd, hsrc, hsc, hf, hdc, writeStep, bridgeReport]

theorem synthesize_eq_iff {r : Tree × Except SynthesisError Report} :
    synthesize t ctx = r ↔ Run t ctx r :=
  ⟨fun h => h ▸ run_synthesize t ctx, synthesize_of_run⟩

/-! ### The checks -/

/-- The variables the bridge template is rendered with: the main module's symbol, and its import
from the scratch directory. -/
def bridgeVars (ctx : Context) (root : String) : List (String × String) :=
  [("app_module", "AppModule"), ("app_module_path", importPath ctx.layout.dir root)]

/-- Why the synthesis refuses to write: the first check that fails, in the order they are made,
each after the ones before it passed. -/
inductive Refusal (t : Tree) (ctx : Context) : SynthesisError → Prop
  /-- No main module is given. -/
  | noRoot : ctx.compositionRoot = none → Refusal t ctx (.compositionRootMissing "")
  /-- The main module is not a regular file. -/
  | rootNotFile {root : String} : ctx.compositionRoot = some root → t.isFile root = false →
      Refusal t ctx (.compositionRootMissing root)
  /-- The template is not installed. -/
  | noTemplate {root : String} : ctx.compositionRoot = some root → t.isFile root = true →
      t.isFile (join ctx.assetsDir templateAsset) = false →
      Refusal t ctx (.templateNotFound (join ctx.assetsDir templateAsset))
  /-- The template does not read as text. -/
  | unreadableTemplate {root : String} {e : IoError} : ctx.compositionRoot = some root →
      t.isFile root = true → t.isFile (join ctx.assetsDir templateAsset) = true →
      t.readText (join ctx.assetsDir templateAsset) = .error e →
      Refusal t ctx (.read (join ctx.assetsDir templateAsset) e)
  /-- The helper scope is not installed. -/
  | noScope {root text : String} : ctx.compositionRoot = some root → t.isFile root = true →
      t.readText (join ctx.assetsDir templateAsset) = .ok text →
      t.isFile (join ctx.assetsDir scopeAsset) = false →
      Refusal t ctx (.assetNotFound (join ctx.assetsDir scopeAsset))
  /-- The template names a variable it is not given. -/
  | unknownVariable {root text : String} {u : UnknownVariable} :
      ctx.compositionRoot = some root → t.isFile root = true →
      t.readText (join ctx.assetsDir templateAsset) = .ok text →
      t.isFile (join ctx.assetsDir scopeAsset) = true →
      render text (bridgeVars ctx root) = .error u →
      Refusal t ctx (.unknownVariable u.name u.offset)

/-- Every check passes: the main module `root` and the helper scope are regular files, and the
template reads as `text`, which renders as `rendered`. -/
structure Ready (t : Tree) (ctx : Context) (root text rendered : String) : Prop where
  hasRoot : ctx.compositionRoot = some root
  rootFile : t.isFile root = true
  template : t.readText (join ctx.assetsDir templateAsset) = .ok text
  scope : t.isFile (join ctx.assetsDir scopeAsset) = true
  render : render text (bridgeVars ctx root) = .ok rendered

theorem renderBridge_eq (text root : String) :
    renderBridge text ctx.layout root =
      match render text (bridgeVars ctx root) with
      | .ok rendered => .ok ⟨rendered, "AppModule", importPath ctx.layout.dir root⟩
      | .error u => .error (.unknownVariable u.name u.offset) := rfl

theorem prepareBridge_of_refusal {e : SynthesisError} (h : Refusal t ctx e) :
    prepareBridge t ctx = .error e := by
  cases h with
  | noRoot hr => simp [prepareBridge, hr]
  | rootNotFile hr hf => simp [prepareBridge, hr, hf]
  | noTemplate hr hf ht => simp [prepareBridge, hr, hf, ht]
  | unreadableTemplate hr hf ht he => simp [prepareBridge, hr, hf, ht, he]
  | noScope hr hf ht hs => simp [prepareBridge, hr, hf, Tree.isFile_of_readText ht, ht, hs]
  | unknownVariable hr hf ht hs hu =>
    simp [prepareBridge, hr, hf, Tree.isFile_of_readText ht, ht, hs, renderBridge_eq, hu]

theorem prepareBridge_of_ready {root text rendered : String} (h : Ready t ctx root text rendered) :
    prepareBridge t ctx = .ok (join ctx.assetsDir scopeAsset,
      ⟨rendered, "AppModule", importPath ctx.layout.dir root⟩) := by
  simp [prepareBridge, h.hasRoot, h.rootFile, Tree.isFile_of_readText h.template, h.template,
    h.scope, renderBridge_eq, h.render]

/-- The checks either refuse, with the first failing check, or all pass. -/
theorem refusal_or_ready (t : Tree) (ctx : Context) :
    (∃ e, prepareBridge t ctx = .error e ∧ Refusal t ctx e) ∨
    ∃ root text rendered, Ready t ctx root text rendered ∧ prepareBridge t ctx =
      .ok (join ctx.assetsDir scopeAsset,
        ⟨rendered, "AppModule", importPath ctx.layout.dir root⟩) := by
  have refused : ∀ {e}, Refusal t ctx e → ∃ e, prepareBridge t ctx = .error e ∧ Refusal t ctx e :=
    fun h => ⟨_, prepareBridge_of_refusal h, h⟩
  -- the cases follow the checks in the order they are made
  cases hr : ctx.compositionRoot with
  | none => exact .inl (refused (.noRoot hr))
  | some root =>
    cases hf : t.isFile root with
    | false => exact .inl (refused (.rootNotFile hr hf))
    | true =>
      cases ht : t.isFile (join ctx.assetsDir templateAsset) with
      | false => exact .inl (refused (.noTemplate hr hf ht))
      | true =>
        cases hx : t.readText (join ctx.assetsDir templateAsset) with
        | error e => exact .inl (refused (.unreadableTemplate hr hf ht hx))
        | ok text =>
          cases hs : t.isFile (join ctx.assetsDir scopeAsset) with
          | false => exact .inl (refused (.noScope hr hf hx hs))
          | true =>
            cases hu : render text (bridgeVars ctx root) with
            | error u => exact .inl (refused (.unknownVariable hr hf hx hs hu))
            | ok rendered =>
              have hready : Ready t ctx root text rendered := ⟨hr, hf, hx, hs, hu⟩
              exact .inr ⟨root, text, rendered, hready, prepareBridge_of_ready hready⟩

theorem refusal_of_prepareBridge {e : SynthesisError} (h : prepareBridge t ctx = .error e) :
    Refusal t ctx e := by
  rcases refusal_or_ready t ctx with ⟨e', he', hr⟩ | ⟨_, _, _, _, hok⟩
  · rw [h] at he'
    cases he'
    exact hr
  · rw [h] at hok
    cases hok

theorem ready_of_prepareBridge {s : String} {b : RenderedBridge}
    (h : prepareBridge t ctx = .ok (s, b)) :
    ∃ root text rendered, Ready t ctx root text rendered ∧ s = join ctx.assetsDir scopeAsset ∧
      b = ⟨rendered, "AppModule", importPath ctx.layout.dir root⟩ := by
  rcases refusal_or_ready t ctx with ⟨e, he, -⟩ | ⟨root, text, rendered, hready, hok⟩
  · rw [h] at he
    cases he
  · rw [h] at hok
    cases hok
    exact ⟨root, text, rendered, hready, rfl, rfl⟩

/-! ### Where the files are -/

theorem isName_nestjs : IsName "nestjs" := ⟨by decide, by decide, by decide⟩

theorem isName_scratchDirName : IsName scratchDirName := ⟨by decide, by decide, by decide⟩

theorem isName_append_pair {W : List String} {a b : String} (hW : ∀ x ∈ W, IsName x)
    (ha : IsName a) (hb : IsName b) : ∀ x ∈ W ++ [a, b], IsName x := by
  intro x hx
  rcases List.mem_append.mp hx with hx | hx
  · exact hW x hx
  · simp only [List.mem_cons, List.not_mem_nil, or_false] at hx
    rcases hx with rfl | rfl
    · exact ha
    · exact hb

/-- An installed asset `nestjs/n` leads below the assets directory, through its `nestjs`
directory. -/
theorem resolve_asset {u : Tree} {asset n : String} {r : List String}
    (hparts : parts asset = ["nestjs", n]) (hn : IsName n ∧ n ≠ "..")
    (h : u.resolve (join ctx.assetsDir asset) = .ok r) :
    ∃ A, u.resolve ctx.assetsDir = .ok A ∧ r = A ++ ["nestjs", n] ∧
      u.entryAt (isAbsolute ctx.assetsDir) A = some .dir ∧
      u.entryAt (isAbsolute ctx.assetsDir) (A ++ ["nestjs"]) = some .dir := by
  have hrel : isAbsolute asset = false := isAbsolute_eq_false_of_parts hparts (by decide)
  rw [Tree.resolve_join _ hrel, hparts] at h
  cases hA : u.resolve ctx.assetsDir with
  | error e =>
    rw [hA] at h
    cases h
  | ok A =>
    rw [hA] at h
    have hnames : ∀ m ∈ ["nestjs", n], IsName m ∧ m ≠ ".." := by
      simp only [List.mem_cons, List.not_mem_nil, or_false, forall_eq_or_imp, forall_eq]
      exact ⟨⟨isName_nestjs, by decide⟩, hn⟩
    obtain ⟨rfl, hdirs⟩ := (Tree.walk_down_iff hnames).mp h
    exact ⟨A, rfl, rfl, by simpa using hdirs 0 (by simp), by simpa using hdirs 1 (by simp)⟩

/-- An asset of the `nestjs` directory leads there once the directory is one. -/
theorem resolve_asset_of_dirs {u : Tree} {asset n : String} {A : List String}
    (hparts : parts asset = ["nestjs", n]) (hn : IsName n ∧ n ≠ "..")
    (hA : u.resolve ctx.assetsDir = .ok A)
    (hdir : u.entryAt (isAbsolute ctx.assetsDir) A = some .dir)
    (hnest : u.entryAt (isAbsolute ctx.assetsDir) (A ++ ["nestjs"]) = some .dir) :
    u.resolve (join ctx.assetsDir asset) = .ok (A ++ ["nestjs", n]) := by
  have hrel : isAbsolute asset = false := isAbsolute_eq_false_of_parts hparts (by decide)
  have hnames : ∀ m ∈ ["nestjs", n], IsName m ∧ m ≠ ".." := by
    simp only [List.mem_cons, List.not_mem_nil, or_false, forall_eq_or_imp, forall_eq]
    exact ⟨⟨isName_nestjs, by decide⟩, hn⟩
  rw [Tree.resolve_join _ hrel, hparts, hA]
  refine (Tree.walk_down_iff hnames).mpr ⟨rfl, fun i hi => ?_⟩
  -- the walk stands on the assets directory, then on its `nestjs` directory
  rcases (by simp at hi; omega : i = 0 ∨ i = 1) with rfl | rfl
  · simpa using hdir
  · simpa using hnest

/-- A file of the scratch directory leads below the working directory's names, the directory
and its own name. -/
theorem resolve_scratchFile {u : Tree} (hdir : u.isDir ctx.layout.dir = true) :
    ∃ W, u.resolve ctx.workingDirectory = .ok W ∧ ∀ n, IsName n → n ≠ ".." →
      u.resolve (join ctx.layout.dir n) = .ok (W ++ [scratchDirName, n]) := by
  obtain ⟨X, hX, -⟩ := Tree.node?_eq_some.mp (Tree.isDir_iff.mp hdir)
  have hrel : isAbsolute scratchDirName = false := isAbsolute_of_not_slash (by decide)
  have hjoin : ctx.layout.dir = join ctx.workingDirectory scratchDirName := rfl
  rw [hjoin, Tree.resolve_join _ hrel, parts_of_not_slash (by decide)] at hX
  cases hW : u.resolve ctx.workingDirectory with
  | error e =>
    rw [hW] at hX
    cases hX
  | ok W =>
    rw [hW] at hX
    have hnames : ∀ m ∈ [scratchDirName], IsName m ∧ m ≠ ".." := by
      simpa using And.intro isName_scratchDirName (by decide : scratchDirName ≠ "..")
    obtain ⟨rfl, -⟩ := (Tree.walk_down_iff hnames).mp hX
    refine ⟨W, rfl, fun n hn hup => ?_⟩
    obtain ⟨X', hX', -, hres⟩ := Tree.resolve_join_name hdir hn hup
    rw [hjoin, Tree.resolve_join _ hrel, parts_of_not_slash (by decide), hW] at hX'
    obtain ⟨rfl, -⟩ := (Tree.walk_down_iff hnames).mp hX'
    simpa using hres

/-! ### The trees a run goes through -/

/-- The key of the scratch directory's file `n`, below the names `W` of the working directory. -/
def scratchKey (ctx : Context) (W : List String) (n : String) : String :=
  keyOf (isAbsolute ctx.workingDirectory) (W ++ [scratchDirName, n])

/-- A tree that a run reaches from the tree `t` in which every check passed: the scratch
directory is made below the working directory's names `W`, every directory of `t` is kept, and
the tree differs from `t` only by new directories and by the scratch directory's files `ns`, each
key of which holds a file. -/
structure Stage (t : Tree) (ctx : Context) (W ns : List String) (u : Tree) : Prop where
  keepsDirs : t.KeepsDirs u
  scratchDir : u.isDir ctx.layout.dir = true
  workingDir : u.resolve ctx.workingDirectory = .ok W
  changes : t.ChangesOnly u (ns.map (scratchKey ctx W))
  names : ∀ n ∈ ns, IsName n ∧ n ≠ ".."
  holds : ∀ n ∈ ns, ∃ b, u.Holds (scratchKey ctx W n) (.file b)

section Stage

variable {W ns : List String} {u u' : Tree}

theorem isAbsolute_scratchFile (n : String) (hn : IsName n) :
    isAbsolute (join ctx.layout.dir n) = isAbsolute ctx.workingDirectory := by
  rw [isAbsolute_join _ (isAbsolute_of_not_slash hn.2.2)]
  exact isAbsolute_join _ (isAbsolute_of_not_slash (by decide))

/-- Making the scratch directory reaches the first tree of a run. -/
theorem stage_createDirAll {ta : Tree} (h : t.createDirAll ctx.layout.dir = .ok ta) :
    ∃ W, Stage t ctx W [] ta := by
  have hdir := Tree.isDir_createDirAll h
  obtain ⟨W, hW, -⟩ := resolve_scratchFile hdir
  exact ⟨W, ⟨Tree.makeDirs_keepsDirs h, hdir, hW, Tree.makeDirs_changesOnly h, by simp, by simp⟩⟩

theorem Stage.resolve_file (hs : Stage t ctx W ns u) {n : String} (hn : IsName n)
    (hup : n ≠ "..") : u.resolve (join ctx.layout.dir n) = .ok (W ++ [scratchDirName, n]) := by
  obtain ⟨W', hW', hres⟩ := resolve_scratchFile hs.scratchDir
  rw [hs.workingDir] at hW'
  cases hW'
  exact hres n hn hup

theorem Stage.locate_file (hs : Stage t ctx W ns u) {n : String} (hn : IsName n)
    (hup : n ≠ "..") : u.locate (join ctx.layout.dir n) = some (scratchKey ctx W n) := by
  rw [Tree.locate_of_resolve (hs.resolve_file hn hup), isAbsolute_scratchFile n hn]
  rfl

/-- Files of the scratch directory with different names have different keys. -/
theorem scratchKey_ne (hW : ∀ x ∈ W, IsName x) {n m : String} (hn : IsName n) (hm : IsName m)
    (hne : n ≠ m) : scratchKey ctx W n ≠ scratchKey ctx W m :=
  keyOf_append_ne (by simp) (by simpa using hne) (isName_append_pair hW isName_scratchDirName hn)
    (isName_append_pair hW isName_scratchDirName hm)

theorem Stage.names_W (hs : Stage t ctx W ns u) : ∀ x ∈ W, IsName x :=
  Tree.resolve_names hs.workingDir

/-- Writing a file of the scratch directory reaches the next tree, where the file's key holds it
and the keys of the other files keep what they held. -/
theorem Stage.writeBytes (hs : Stage t ctx W ns u) {n : String} (hn : IsName n) (hup : n ≠ "..")
    {b : List UInt8} (hw : u.writeBytes (join ctx.layout.dir n) b = .ok u') :
    Stage t ctx W (ns ++ [n]) u' ∧ u'.Holds (scratchKey ctx W n) (.file b) ∧
      ∀ m x, IsName m → m ≠ n → u.Holds (scratchKey ctx W m) x →
        u'.Holds (scratchKey ctx W m) x := by
  obtain ⟨here, -, hres, -, rfl⟩ := Tree.writeBytes_spec hw
  rw [hs.resolve_file hn hup] at hres
  cases hres
  have hkey : keyOf (isAbsolute (join ctx.layout.dir n)) (W ++ [scratchDirName, n]) =
      scratchKey ctx W n := by
    rw [isAbsolute_scratchFile n hn]
    rfl
  rw [hkey] at hw ⊢
  have hkeep := Tree.writeBytes_keepsDirs hw
  -- the other keys keep what they held: the keys of different names differ
  have hother : ∀ m x, IsName m → m ≠ n → u.Holds (scratchKey ctx W m) x →
      (u.setEntry (scratchKey ctx W n) (.file b)).Holds (scratchKey ctx W m) x :=
    fun m x hm hmn hx => hx.setEntry_of_ne (scratchKey_ne hs.names_W hn hm (Ne.symm hmn))
  refine ⟨⟨hs.keepsDirs.trans hkeep, hkeep.isDir hs.scratchDir, hkeep.resolve hs.workingDir, ?_,
    ?_, ?_⟩, Tree.holds_setEntry _ _ _, hother⟩
  · rw [List.map_append]
    exact hs.changes.trans (Tree.changesOnly_setEntry _ _ _)
  · intro m hm
    rcases List.mem_append.mp hm with hm | hm
    · exact hs.names m hm
    · rw [List.mem_singleton.mp hm]
      exact ⟨hn, hup⟩
  · intro m hm
    by_cases hmn : m = n
    · subst hmn
      exact ⟨b, Tree.holds_setEntry _ _ _⟩
    · have hm' : m ∈ ns := by simpa [hmn] using hm
      obtain ⟨b', hb'⟩ := hs.holds m hm'
      exact ⟨b', hother m _ (hs.names m hm').1 hmn hb'⟩

/-- A file of the scratch directory reads as the bytes its key holds. -/
theorem Stage.readBytes_held (hs : Stage t ctx W ns u) {n : String} (hn : IsName n)
    (hup : n ≠ "..") {b : List UInt8} (hb : u.Holds (scratchKey ctx W n) (.file b)) :
    u.readBytes (join ctx.layout.dir n) = .ok b := by
  refine Tree.readBytes_eq_ok.mpr (Tree.node?_eq_some.mpr ⟨_, hs.resolve_file hn hup, ?_⟩)
  rw [Tree.entryAt_of_ne_nil _ _ (by simp), isAbsolute_scratchFile n hn]
  exact hb.1

/-- Writing a file of the scratch directory with the bytes its key holds changes nothing. -/
theorem Stage.writeBytes_held (hs : Stage t ctx W ns u) {n : String} (hn : IsName n)
    (hup : n ≠ "..") {b : List UInt8} (hb : u.Holds (scratchKey ctx W n) (.file b)) :
    u.writeBytes (join ctx.layout.dir n) b = .ok u := by
  have hent : u.entryAt (isAbsolute (join ctx.layout.dir n)) (W ++ [scratchDirName, n]) =
      some (.file b) := by
    rw [Tree.entryAt_of_ne_nil _ _ (by simp), isAbsolute_scratchFile n hn]
    exact hb.1
  rw [Tree.writeBytes_of_resolve (hs.resolve_file hn hup) (by rw [hent]; simp),
    isAbsolute_scratchFile n hn]
  exact congrArg Except.ok hb.setEntry_self

/-- An asset leads where it led before the run, and keeps its entry, unless a directory was made
where nothing was: no file of the scratch directory is an asset, since the asset is in a `nestjs`
directory. -/
theorem Stage.asset_entry (hs : Stage t ctx W ns u) {asset n : String} {A : List String}
    (hres : t.resolve (join ctx.assetsDir asset) = .ok (A ++ ["nestjs", n])) :
    u.resolve (join ctx.assetsDir asset) = .ok (A ++ ["nestjs", n]) ∧
      (u.entryAt (isAbsolute (join ctx.assetsDir asset)) (A ++ ["nestjs", n]) =
          t.entryAt (isAbsolute (join ctx.assetsDir asset)) (A ++ ["nestjs", n]) ∨
        t.entryAt (isAbsolute (join ctx.assetsDir asset)) (A ++ ["nestjs", n]) = none ∧
          u.entryAt (isAbsolute (join ctx.assetsDir asset)) (A ++ ["nestjs", n]) = some .dir) := by
  refine ⟨hs.keepsDirs.resolve hres, ?_⟩
  have hnot : keyOf (isAbsolute (join ctx.assetsDir asset)) (A ++ ["nestjs", n]) ∉
      ns.map (scratchKey ctx W) := by
    simp only [List.mem_map, not_exists, not_and]
    intro m hm hkey
    have hm' := hs.names m hm
    have hne : ["nestjs", n] ≠ [scratchDirName, m] := fun h =>
      absurd (List.cons.inj h).1 (by decide)
    exact keyOf_append_ne (by simp) hne (Tree.resolve_names hres)
      (isName_append_pair hs.names_W isName_scratchDirName hm'.1) hkey.symm
  rw [Tree.entryAt_of_ne_nil _ _ (by simp), Tree.entryAt_of_ne_nil _ _ (by simp)]
  exact hs.changes _ hnot

/-- Whether an asset is a regular file is not changed by a run. -/
theorem Stage.isFile_asset (hs : Stage t ctx W ns u) {asset n : String} {A : List String}
    (hres : t.resolve (join ctx.assetsDir asset) = .ok (A ++ ["nestjs", n])) :
    u.isFile (join ctx.assetsDir asset) = t.isFile (join ctx.assetsDir asset) := by
  obtain ⟨hres', hent | ⟨hnone, hdir⟩⟩ := hs.asset_entry hres
  · simp only [Tree.isFile, Tree.node?, hres', hres, hent]
  · simp only [Tree.isFile, Tree.node?, hres', hres, hnone, hdir]

/-- An asset that is a regular file reads after a run as it read before. -/
theorem Stage.readBytes_asset (hs : Stage t ctx W ns u) {asset n : String}
    (hparts : parts asset = ["nestjs", n]) (hn : IsName n ∧ n ≠ "..")
    (hfile : t.isFile (join ctx.assetsDir asset) = true) :
    u.readBytes (join ctx.assetsDir asset) = t.readBytes (join ctx.assetsDir asset) := by
  obtain ⟨b, hb⟩ := Tree.isFile_iff.mp hfile
  obtain ⟨r, hres, hent⟩ := Tree.node?_eq_some.mp hb
  obtain ⟨A, -, rfl, -, -⟩ := resolve_asset hparts hn hres
  obtain ⟨hres', hent' | ⟨hnone, -⟩⟩ := hs.asset_entry hres
  · rw [Tree.readBytes_eq_ok.mpr hb, Tree.readBytes_eq_ok.mpr
      (Tree.node?_eq_some.mpr ⟨_, hres', hent'.trans hent⟩)]
  · rw [hent] at hnone
    cases hnone

/-- A regular file stays one: a run writes files and makes directories only where nothing was. -/
theorem Stage.isFile_of_isFile (hs : Stage t ctx W ns u) {p : String}
    (hfile : t.isFile p = true) : u.isFile p = true := by
  obtain ⟨b, hb⟩ := Tree.isFile_iff.mp hfile
  obtain ⟨r, hres, hent⟩ := Tree.node?_eq_some.mp hb
  have hr : r ≠ [] := by
    rintro rfl
    cases hent
  rw [Tree.entryAt_of_ne_nil _ _ hr] at hent
  refine Tree.isFile_iff.mpr ?_
  by_cases hkey : keyOf (isAbsolute p) r ∈ ns.map (scratchKey ctx W)
  · -- the run wrote a file there
    obtain ⟨m, hm, hkm⟩ := List.mem_map.mp hkey
    obtain ⟨b', hb'⟩ := hs.holds m hm
    refine ⟨b', Tree.node?_eq_some.mpr ⟨r, hs.keepsDirs.resolve hres, ?_⟩⟩
    rw [Tree.entryAt_of_ne_nil _ _ hr, ← hkm]
    exact hb'.1
  · refine ⟨b, Tree.node?_eq_some.mpr ⟨r, hs.keepsDirs.resolve hres, ?_⟩⟩
    rw [Tree.entryAt_of_ne_nil _ _ hr]
    rcases hs.changes _ hkey with heq | ⟨hnone, -⟩
    · rw [heq, hent]
    · rw [hent] at hnone
      cases hnone

theorem parts_templateAsset : parts templateAsset = ["nestjs", "hmrEntry.ts.tmpl"] := by decide

theorem parts_scopeAsset : parts scopeAsset = ["nestjs", "bridgeScope.js"] := by decide

theorem parts_typeDeclAsset : parts typeDeclAsset = ["nestjs", "nestjsTypeDef.d.ts"] := by decide

/-- The names of the assets and of the bridge files are names a walk goes down into. -/
theorem isName_of_fileName {n : String}
    (h : n ∈ ["hmrEntry.ts.tmpl", "bridgeScope.js", "nestjsTypeDef.d.ts", bridgeSourceFile,
      bridgeScopeFile, typeDeclFile]) : IsName n ∧ n ≠ ".." := by
  simp only [List.mem_cons, List.not_mem_nil, or_false] at h
  rcases h with rfl | rfl | rfl | rfl | rfl | rfl <;>
    exact ⟨⟨by decide, by decide, by decide⟩, by decide⟩

/-- The checks that passed before a run pass in every tree it reaches. -/
theorem Ready.stage {root text rendered : String} (h : Ready t ctx root text rendered)
    (hs : Stage t ctx W ns u) : Ready u ctx root text rendered where
  hasRoot := h.hasRoot
  rootFile := hs.isFile_of_isFile h.rootFile
  template := by
    have hread := hs.readBytes_asset parts_templateAsset (isName_of_fileName (by simp))
      (Tree.isFile_of_readText h.template)
    simp only [Tree.readText, hread]
    exact h.template
  scope := hs.isFile_of_isFile h.scope
  render := h.render

/-- Once the template is installed, whether the type declarations are is not changed by a run:
both are in the same `nestjs` directory. -/
theorem Stage.isFile_decl (hs : Stage t ctx W ns u)
    (htpl : t.isFile (join ctx.assetsDir templateAsset) = true) :
    u.isFile (declAssetPath ctx) = t.isFile (declAssetPath ctx) := by
  obtain ⟨b, hb⟩ := Tree.isFile_iff.mp htpl
  obtain ⟨r, hres, -⟩ := Tree.node?_eq_some.mp hb
  obtain ⟨A, hA, -, hdir, hnest⟩ :=
    resolve_asset parts_templateAsset (isName_of_fileName (by simp)) hres
  exact hs.isFile_asset
    (resolve_asset_of_dirs parts_typeDeclAsset (isName_of_fileName (by simp)) hA hdir hnest)

/-- Installed type declarations read after a run as they read before. -/
theorem Stage.readBytes_decl (hs : Stage t ctx W ns u)
    (hdecl : t.isFile (declAssetPath ctx) = true) :
    u.readBytes (declAssetPath ctx) = t.readBytes (declAssetPath ctx) :=
  hs.readBytes_asset parts_typeDeclAsset (isName_of_fileName (by simp)) hdecl

/-- Copying to a file of the scratch directory reads the source and writes its bytes there. -/
theorem Stage.copy (hs : Stage t ctx W ns u) {src n : String} (hn : IsName n) (hup : n ≠ "..")
    (hc : u.copy src (join ctx.layout.dir n) = .ok u') :
    ∃ b, u.readBytes src = .ok b ∧ Stage t ctx W (ns ++ [n]) u' ∧
      u'.Holds (scratchKey ctx W n) (.file b) ∧
      ∀ m x, IsName m → m ≠ n → u.Holds (scratchKey ctx W m) x →
        u'.Holds (scratchKey ctx W m) x := by
  obtain ⟨b, hread, hw⟩ := Tree.copy_eq_ok.mp hc
  exact ⟨b, hread, hs.writeBytes hn hup hw⟩

/-- Copying to a file of the scratch directory the bytes it holds changes nothing. -/
theorem Stage.copy_held (hs : Stage t ctx W ns u) {src n : String} (hn : IsName n)
    (hup : n ≠ "..") {b : List UInt8} (hread : u.readBytes src = .ok b)
    (hb : u.Holds (scratchKey ctx W n) (.file b)) :
    u.copy src (join ctx.layout.dir n) = .ok u :=
  Tree.copy_eq_ok.mpr ⟨b, hread, hs.writeBytes_held hn hup hb⟩

end Stage

/-! ### What a run leaves -/

section Runs

variable {W ns : List String} {u : Tree}

theorem isName_bridgeSourceFile : IsName bridgeSourceFile ∧ bridgeSourceFile ≠ ".." :=
  isName_of_fileName (by simp)

theorem isName_bridgeScopeFile : IsName bridgeScopeFile ∧ bridgeScopeFile ≠ ".." :=
  isName_of_fileName (by simp)

theorem isName_typeDeclFile : IsName typeDeclFile ∧ typeDeclFile ≠ ".." :=
  isName_of_fileName (by simp)

/-- In a tree a run reached, where the bridge source holds the rendered text, the checks pass
again, the scratch directory is there and writing the bridge source changes nothing. -/
theorem Stage.first_steps_again {root text rendered : String}
    (hready : Ready t ctx root text rendered) (hs : Stage t ctx W ns u)
    (hsrc : u.Holds (scratchKey ctx W bridgeSourceFile) (.file rendered.toUTF8.toList)) :
    prepareBridge u ctx = .ok (join ctx.assetsDir scopeAsset,
      ⟨rendered, "AppModule", importPath ctx.layout.dir root⟩) ∧
    u.createDirAll ctx.layout.dir = .ok u ∧
    u.writeText ctx.layout.bridgeSource rendered = .ok u :=
  ⟨prepareBridge_of_ready (hready.stage hs), Tree.createDirAll_of_isDir hs.scratchDir,
    hs.writeBytes_held isName_bridgeSourceFile.1 isName_bridgeSourceFile.2 hsrc⟩

/-- In such a tree where the helper scope also holds the asset's bytes, copying it changes
nothing. -/
theorem Stage.scope_again (hs : Stage t ctx W ns u) {b : List UInt8}
    (hscope : t.isFile (join ctx.assetsDir scopeAsset) = true)
    (hread : t.readBytes (join ctx.assetsDir scopeAsset) = .ok b)
    (hb : u.Holds (scratchKey ctx W bridgeScopeFile) (.file b)) :
    u.copy (join ctx.assetsDir scopeAsset) ctx.layout.bridgeScope = .ok u := by
  refine hs.copy_held isName_bridgeScopeFile.1 isName_bridgeScopeFile.2 ?_ hb
  rw [hs.readBytes_asset parts_scopeAsset (isName_of_fileName (by simp)) hscope, hread]

/-- A run that wrote the bridge source reached a tree where its key holds the rendered text. -/
theorem stage_of_source {s : String} {b : RenderedBridge} {ta tb : Tree}
    (hp : prepareBridge t ctx = .ok (s, b)) (hd : t.createDirAll ctx.layout.dir = .ok ta)
    (hsrc : ta.writeText ctx.layout.bridgeSource b.rendered = .ok tb) :
    ∃ root text rendered W, Ready t ctx root text rendered ∧ s = join ctx.assetsDir scopeAsset ∧
      b = ⟨rendered, "AppModule", importPath ctx.layout.dir root⟩ ∧
      Stage t ctx W [bridgeSourceFile] tb ∧
      tb.Holds (scratchKey ctx W bridgeSourceFile) (.file rendered.toUTF8.toList) := by
  obtain ⟨root, text, rendered, hready, rfl, rfl⟩ := ready_of_prepareBridge hp
  obtain ⟨W, hsa⟩ := stage_createDirAll hd
  obtain ⟨hsb, hbsrc, -⟩ := hsa.writeBytes isName_bridgeSourceFile.1 isName_bridgeSourceFile.2 hsrc
  exact ⟨root, text, rendered, W, hready, rfl, rfl, hsb, hbsrc⟩

/-- A run that copied the helper scope reached a tree where the keys of the bridge source and of
the helper scope hold the rendered text and the asset's bytes. -/
theorem stage_of_scope {s : String} {b : RenderedBridge} {ta tb tc : Tree}
    (hp : prepareBridge t ctx = .ok (s, b)) (hd : t.createDirAll ctx.layout.dir = .ok ta)
    (hsrc : ta.writeText ctx.layout.bridgeSource b.rendered = .ok tb)
    (hsc : tb.copy s ctx.layout.bridgeScope = .ok tc) :
    ∃ root text rendered W B, Ready t ctx root text rendered ∧
      s = join ctx.assetsDir scopeAsset ∧
      b = ⟨rendered, "AppModule", importPath ctx.layout.dir root⟩ ∧
      Stage t ctx W [bridgeSourceFile, bridgeScopeFile] tc ∧
      tc.Holds (scratchKey ctx W bridgeSourceFile) (.file rendered.toUTF8.toList) ∧
      tc.Holds (scratchKey ctx W bridgeScopeFile) (.file B) ∧
      t.readBytes (join ctx.assetsDir scopeAsset) = .ok B := by
  obtain ⟨root, text, rendered, W, hready, rfl, rfl, hsb, hbsrc⟩ := stage_of_source hp hd hsrc
  obtain ⟨B, hB, hsc', hcsc, hkeep⟩ :=
    hsb.copy isName_bridgeScopeFile.1 isName_bridgeScopeFile.2 hsc
  refine ⟨root, text, rendered, W, B, hready, rfl, rfl, hsc',
    hkeep _ _ isName_bridgeSourceFile.1 (by decide) hbsrc, hcsc, ?_⟩
  rw [← hsb.readBytes_asset parts_scopeAsset (isName_of_fileName (by simp)) hready.scope, hB]

/-- A second run from the tree a run left does what the first did and leaves the same tree:
every check passes again, the scratch directory is there, and every file the first run wrote
already holds what the second writes. -/
theorem synthesize_synthesize (t : Tree) (ctx : Context) :
    synthesize (synthesize t ctx).1 ctx = synthesize t ctx := by
  generalize hr : synthesize t ctx = r
  have hrun := run_synthesize t ctx
  rw [hr] at hrun
  apply synthesize_of_run
  cases hrun with
  | refused hp => exact .refused hp
  | noDir hp hd => exact .noDir hp hd
  | noSource hp hd hsrc =>
    obtain ⟨root, text, rendered, hready, rfl, rfl⟩ := ready_of_prepareBridge hp
    obtain ⟨W, hsa⟩ := stage_createDirAll hd
    exact .noSource (prepareBridge_of_ready (hready.stage hsa))
      (Tree.createDirAll_of_isDir hsa.scratchDir) hsrc
  | noScope hp hd hsrc hsc =>
    obtain ⟨root, text, rendered, W, hready, rfl, rfl, hsb, hbsrc⟩ := stage_of_source hp hd hsrc
    obtain ⟨hp', hd', hsrc'⟩ := hsb.first_steps_again hready hbsrc
    exact .noScope hp' hd' hsrc' hsc
  | noDecl hp hd hsrc hsc hf hdc =>
    obtain ⟨root, text, rendered, W, B, hready, rfl, rfl, hsc', hcsrc, hcsc, hB⟩ :=
      stage_of_scope hp hd hsrc hsc
    obtain ⟨hp', hd', hsrc'⟩ := hsc'.first_steps_again hready hcsrc
    exact .noDecl hp' hd' hsrc' (hsc'.scope_again hready.scope hB hcsc) hf hdc
  | withoutDecl hp hd hsrc hsc hf =>
    obtain ⟨root, text, rendered, W, B, hready, rfl, rfl, hsc', hcsrc, hcsc, hB⟩ :=
      stage_of_scope hp hd hsrc hsc
    obtain ⟨hp', hd', hsrc'⟩ := hsc'.first_steps_again hready hcsrc
    exact .withoutDecl hp' hd' hsrc' (hsc'.scope_again hready.scope hB hcsc) hf
  | @withDecl s b ta tb tc td hp hd hsrc hsc hf hdc =>
    obtain ⟨root, text, rendered, W, B, hready, rfl, rfl, hsc', hcsrc, hcsc, hB⟩ :=
      stage_of_scope hp hd hsrc hsc
    obtain ⟨D, hD, hsd, hdd, hkeep⟩ := hsc'.copy isName_typeDeclFile.1 isName_typeDeclFile.2 hdc
    obtain ⟨hp', hd', hsrc'⟩ :=
      hsd.first_steps_again hready (hkeep _ _ isName_bridgeSourceFile.1 (by decide) hcsrc)
    -- the type declarations are installed in every tree of the run, and read the same
    have htpl := Tree.isFile_of_readText hready.template
    have hdecl : t.isFile (declAssetPath ctx) = true := by rw [← hsc'.isFile_decl htpl, hf]
    have hf' : td.isFile (declAssetPath ctx) = true := by rw [hsd.isFile_decl htpl, hdecl]
    have hD' : td.readBytes (declAssetPath ctx) = .ok D := by
      rw [hsd.readBytes_decl hdecl, ← hsc'.readBytes_decl hdecl, hD]
    exact .withDecl hp' hd' hsrc'
      (hsd.scope_again hready.scope hB (hkeep _ _ isName_bridgeScopeFile.1 (by decide) hcsc)) hf'
      (hsd.copy_held isName_typeDeclFile.1 isName_typeDeclFile.2 hD' hdd)

/-- A tree a run reached differs from the one it started from only at the keys of the paths it
wrote, and by new directories. -/
theorem Stage.changesOnly_paths (hs : Stage t ctx W ns u) {paths : List String}
    (hpaths : ∀ n ∈ ns, join ctx.layout.dir n ∈ paths) :
    t.ChangesOnly u (paths.filterMap u.locate) := by
  refine hs.changes.mono fun k hk => ?_
  obtain ⟨n, hn, rfl⟩ := List.mem_map.mp hk
  exact List.mem_filterMap.mpr ⟨_, hpaths n hn,
    hs.locate_file (hs.names n hn).1 (hs.names n hn).2⟩

/-- A run that fails is refused by a check and leaves the tree, or fails at a write and has
written only bridge files and directories. -/
theorem synthesize_error {e : SynthesisError} (h : (synthesize t ctx).2 = .error e) :
    Refusal t ctx e ∧ (synthesize t ctx).1 = t ∨
    (∃ p r, e = .write p r) ∧ t.ChangesOnly (synthesize t ctx).1
      ([ctx.layout.bridgeSource, ctx.layout.bridgeScope, ctx.layout.typeDecl].filterMap
        (synthesize t ctx).1.locate) := by
  generalize hr : synthesize t ctx = r
  have hrun := run_synthesize t ctx
  rw [hr] at hrun h
  cases hrun with
  | refused hp =>
    cases h
    exact .inl ⟨refusal_of_prepareBridge hp, rfl⟩
  | noDir hp hd =>
    cases h
    exact .inr ⟨⟨_, _, rfl⟩, .refl _ _⟩
  | noSource hp hd hsrc =>
    cases h
    obtain ⟨W, hsa⟩ := stage_createDirAll hd
    exact .inr ⟨⟨_, _, rfl⟩, hsa.changesOnly_paths (by simp)⟩
  | noScope hp hd hsrc hsc =>
    cases h
    obtain ⟨-, -, -, W, -, -, -, hsb, -⟩ := stage_of_source hp hd hsrc
    exact .inr ⟨⟨_, _, rfl⟩, hsb.changesOnly_paths (by simp [ScratchLayout.bridgeSource])⟩
  | noDecl hp hd hsrc hsc hf hdc =>
    cases h
    obtain ⟨-, -, -, W, -, -, -, -, hsc', -⟩ := stage_of_scope hp hd hsrc hsc
    exact .inr ⟨⟨_, _, rfl⟩, hsc'.changesOnly_paths
      (by simp [ScratchLayout.bridgeSource, ScratchLayout.bridgeScope])⟩
  | withoutDecl => cases h
  | withDecl => cases h

/-- The files a report names. -/
def Report.files (r : Report) : List String := [r.bridgeSource, r.bridgeScope] ++ r.typeDecl.toList

/-- A run that succeeds passed every check and wrote the rendered bridge source, a copy of the
helper scope and, exactly when they are installed, a copy of the type declarations, and nothing
else but directories; its report names them. -/
theorem synthesize_ok {rep : Report} (h : (synthesize t ctx).2 = .ok rep) :
    ∃ root text rendered, Ready t ctx root text rendered ∧
      rep = ⟨ctx.layout.bridgeSource, ctx.layout.bridgeScope,
        if t.isFile (declAssetPath ctx) then some ctx.layout.typeDecl else none, "AppModule",
        importPath ctx.layout.dir root⟩ ∧
      (synthesize t ctx).1.readBytes ctx.layout.bridgeSource = .ok rendered.toUTF8.toList ∧
      (synthesize t ctx).1.readBytes ctx.layout.bridgeScope =
        t.readBytes (join ctx.assetsDir scopeAsset) ∧
      (t.isFile (declAssetPath ctx) = true →
        (synthesize t ctx).1.readBytes ctx.layout.typeDecl = t.readBytes (declAssetPath ctx)) ∧
      t.ChangesOnly (synthesize t ctx).1 (rep.files.filterMap (synthesize t ctx).1.locate) := by
  generalize hr : synthesize t ctx = r
  have hrun := run_synthesize t ctx
  rw [hr] at hrun h
  cases hrun with
  | refused => cases h
  | noDir => cases h
  | noSource => cases h
  | noScope => cases h
  | noDecl => cases h
  | withoutDecl hp hd hsrc hsc hf =>
    cases h
    obtain ⟨root, text, rendered, W, B, hready, rfl, rfl, hsc', hcsrc, hcsc, hB⟩ :=
      stage_of_scope hp hd hsrc hsc
    have hdecl : t.isFile (declAssetPath ctx) = false := by
      rw [← hsc'.isFile_decl (Tree.isFile_of_readText hready.template), hf]
    refine ⟨root, text, rendered, hready, by simp [bridgeReport, hdecl],
      hsc'.readBytes_held isName_bridgeSourceFile.1 isName_bridgeSourceFile.2 hcsrc,
      (hsc'.readBytes_held isName_bridgeScopeFile.1 isName_bridgeScopeFile.2 hcsc).trans hB.symm,
      fun h => absurd (hdecl ▸ h) Bool.false_ne_true, hsc'.changesOnly_paths ?_⟩
    simp [bridgeReport, Report.files, ScratchLayout.bridgeSource, ScratchLayout.bridgeScope]
  | @withDecl s b ta tb tc td hp hd hsrc hsc hf hdc =>
    cases h
    obtain ⟨root, text, rendered, W, B, hready, rfl, rfl, hsc', hcsrc, hcsc, hB⟩ :=
      stage_of_scope hp hd hsrc hsc
    obtain ⟨D, hD, hsd, hdd, hkeep⟩ := hsc'.copy isName_typeDeclFile.1 isName_typeDeclFile.2 hdc
    have hdecl : t.isFile (declAssetPath ctx) = true := by
      rw [← hsc'.isFile_decl (Tree.isFile_of_readText hready.template), hf]
    refine ⟨root, text, rendered, hready, by simp [bridgeReport, hdecl],
      hsd.readBytes_held isName_bridgeSourceFile.1 isName_bridgeSourceFile.2
        (hkeep _ _ isName_bridgeSourceFile.1 (by decide) hcsrc),
      (hsd.readBytes_held isName_bridgeScopeFile.1 isName_bridgeScopeFile.2
        (hkeep _ _ isName_bridgeScopeFile.1 (by decide) hcsc)).trans hB.symm,
      fun _ => (hsd.readBytes_held isName_typeDeclFile.1 isName_typeDeclFile.2 hdd).trans
        (hD.symm.trans (hsc'.readBytes_decl hdecl)), hsd.changesOnly_paths ?_⟩
    simp [bridgeReport, Report.files, ScratchLayout.bridgeSource, ScratchLayout.bridgeScope,
        ScratchLayout.typeDecl]

/-- Running the synthesis again and again on what it left gives what one run gives. -/
theorem synthesize_iterate (t : Tree) (ctx : Context) (n : Nat) :
    synthesize ((fun u => (synthesize u ctx).1)^[n] t) ctx = synthesize t ctx := by
  induction n with
  | zero => rfl
  | succ n ih =>
    rw [Function.iterate_succ_apply']
    show synthesize (synthesize _ ctx).1 ctx = _
    rw [ih, synthesize_synthesize]

end Runs

/-! ### The synthesis of the bridge files -/

/-- The synthesis either refuses, at the first check that fails and before writing anything, or
writes exactly the rendered bridge source, a copy of the helper scope and, exactly when they are
installed, a copy of the type declarations, makes nothing else but directories, and reports what
it wrote; only a failing write leaves part of that output; and running it again and again on what
it left gives the same files and the same report. -/
theorem synthesize_checks_then_writes (t : Tree) (ctx : Context) :
    (∀ e, Refusal t ctx e → synthesize t ctx = (t, .error e)) ∧
    (∀ e, (synthesize t ctx).2 = .error e →
      Refusal t ctx e ∧ (synthesize t ctx).1 = t ∨
      (∃ p r, e = .write p r) ∧ t.ChangesOnly (synthesize t ctx).1
        ([ctx.layout.bridgeSource, ctx.layout.bridgeScope, ctx.layout.typeDecl].filterMap
          (synthesize t ctx).1.locate)) ∧
    (∀ rep, (synthesize t ctx).2 = .ok rep → ∃ root text rendered,
      Ready t ctx root text rendered ∧
      rep = ⟨ctx.layout.bridgeSource, ctx.layout.bridgeScope,
        if t.isFile (declAssetPath ctx) then some ctx.layout.typeDecl else none, "AppModule",
        importPath ctx.layout.dir root⟩ ∧
      (synthesize t ctx).1.readBytes ctx.layout.bridgeSource = .ok rendered.toUTF8.toList ∧
      (synthesize t ctx).1.readBytes ctx.layout.bridgeScope =
        t.readBytes (join ctx.assetsDir scopeAsset) ∧
      (t.isFile (declAssetPath ctx) = true →
        (synthesize t ctx).1.readBytes ctx.layout.typeDecl = t.readBytes (declAssetPath ctx)) ∧
      t.ChangesOnly (synthesize t ctx).1 (rep.files.filterMap (synthesize t ctx).1.locate)) ∧
    ∀ n, synthesize ((fun u => (synthesize u ctx).1)^[n] t) ctx = synthesize t ctx :=
  ⟨fun _ h => synthesize_of_run (.refused (prepareBridge_of_refusal h)),
    fun _ => synthesize_error, fun _ => synthesize_ok, synthesize_iterate t ctx⟩


end LiveSession.Scaffold

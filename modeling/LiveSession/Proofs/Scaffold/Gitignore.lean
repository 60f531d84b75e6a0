import Mathlib.Logic.Function.Iterate
import LiveSession.Scaffold.Patch
import LiveSession.Proofs.Files.Walk
/-!
# The scratch directory's entry in `.gitignore`

`patchGitignore` appends a marker comment and the scratch directory's name to the project's
ignore file, unless a line of it already ignores the directory. Main statement,
`patchGitignore_appends_entry_once`, for a project in a working directory:

* the patch starts from the file's text, or the empty text when nothing is there
  (`ignoreText`); when a line of it ignores the directory nothing is written, and otherwise the
  file becomes that text with the entry appended (`withScratchEntry`), which starts with it;
* a file that cannot be read is a warning, and nothing is written;
* the appended entry is recognised (`ignores_withScratchEntry`), so a second patch writes
  nothing (`patchGitignore_again`);
* the compiler-configuration patch writes another file (`patchTsconfig_keeps_ignoreFile`), so
  patching the project again and again keeps the ignore file as one patch left it
  (`patchProject_iterate_ignoreFile`).
-/

namespace LiveSession.Scaffold

open LiveSession.Files LiveSession.Path

/-! ### The appended entry -/

/-- A text followed by a line break ends with a line of its own: whatever comes before it, a
line free of line breaks that does not end in a carriage return, once ended by a line break, is
one of the lines. -/
theorem mem_lines_of_ended_line (x y : String) (hy : '\n' ∉ y.toList)
    (hcr : y.toList.getLast? ≠ some '\r') : y ∈ Text.lines (x ++ "\n" ++ y ++ "\n") := by
  have hsplit : (x ++ "\n" ++ y ++ "\n").toList.splitOn '\n' =
      x.toList.splitOn '\n' ++ [y.toList, []] := by
    have h : (x ++ "\n" ++ y ++ "\n").toList = x.toList ++ '\n' :: (y.toList ++ '\n' :: []) := by
      simp
    rw [h, List.splitOn_append_cons_self, List.splitOn_append_cons_self,
      List.splitOn_eq_singleton hy]
    rfl
  have hkeep : Text.dropCarriageReturn y.toList = y.toList := by
    simp [Text.dropCarriageReturn, hcr]
  simp only [Text.lines, hsplit]
  simp [List.dropLast_append_of_ne_nil, hkeep]

theorem ignoresScratchDir_name : ignoresScratchDir scratchDirName = true := by decide

/-- The ignore file once the scratch directory's entry is appended to the text `c`: a line break
when `c` has an unfinished last line, then the marker comment and the directory's name, each on a
line of its own. -/
def withScratchEntry (c : String) : String :=
  c ++ (if c ≠ "" ∧ c.endsWith "\n" = false then "\n" else "") ++ gitignoreMarker ++ "\n" ++
    scratchDirName ++ "\n"

theorem prefix_withScratchEntry (c : String) : c.toList <+: (withScratchEntry c).toList := by
  simp only [withScratchEntry, String.toList_append, List.append_assoc]
  exact List.prefix_append _ _

/-- The appended entry is recognised: its second line is the scratch directory's name. -/
theorem ignores_withScratchEntry (c : String) :
    (Text.lines (withScratchEntry c)).any ignoresScratchDir = true := by
  have h : withScratchEntry c =
      (c ++ (if c ≠ "" ∧ c.endsWith "\n" = false then "\n" else "") ++ gitignoreMarker) ++ "\n" ++
        scratchDirName ++ "\n" := by
    simp only [withScratchEntry, String.append_assoc]
  rw [h, List.any_eq_true]
  exact ⟨_, mem_lines_of_ended_line _ _ (by decide) (by decide), ignoresScratchDir_name⟩

/-! ### One patch -/

/-- The text a patch of the ignore file starts from: the file's text, or the empty text when
nothing is there. -/
def ignoreText (t : Tree) (path : String) : Except IoError String :=
  if t.present path then t.readText path else .ok ""

/-- The text the patch starts from depends only on what stands at the path. -/
theorem ignoreText_congr {t u : Tree} {path : String} (h : t.node? path = u.node? path) :
    ignoreText t path = ignoreText u path := by
  cases hn : t.node? path with
  | none =>
    have hu : u.node? path = none := h ▸ hn
    simp [ignoreText, Tree.present, hn, hu]
  | some n =>
    have hu : u.node? path = some n := h ▸ hn
    simp only [ignoreText, Tree.present, hn, hu, Option.isSome_some, if_true, Tree.readText]
    cases n with
    | file b => rw [Tree.readBytes_eq_ok.mpr hn, Tree.readBytes_eq_ok.mpr hu]
    | dir => rw [Tree.readBytes_of_dir hn, Tree.readBytes_of_dir hu]

theorem appended_eq_withScratchEntry (c : String) :
    (if !c.isEmpty && !c.endsWith "\n" then c ++ "\n" else c) ++ gitignoreMarker ++ "\n" ++
      scratchDirName ++ "\n" = withScratchEntry c := by
  unfold withScratchEntry
  by_cases hc : c = ""
  · subst hc
    rfl
  · cases c.endsWith "\n" <;> simp [hc]

/-- A patch that reads a text with a line ignoring the scratch directory writes nothing. -/
theorem patchGitignore_of_ignored {t : Tree} {path c : String} (hc : ignoreText t path = .ok c)
    (hign : (Text.lines c).any ignoresScratchDir = true) :
    patchGitignore t path = (t, .ok .alreadyPresent) := by
  unfold ignoreText at hc
  simp only [patchGitignore, hc, hign, if_true]

/-- A patch that reads a text without such a line writes the text with the entry appended. -/
theorem patchGitignore_of_written {t t' : Tree} {path c : String}
    (hc : ignoreText t path = .ok c) (hign : (Text.lines c).any ignoresScratchDir = false)
    (hw : t.writeText path (withScratchEntry c) = .ok t') :
    patchGitignore t path = (t', .ok .applied) := by
  unfold ignoreText at hc
  simp only [patchGitignore, hc, hign, appended_eq_withScratchEntry, hw, Bool.false_eq_true,
    if_false]

theorem patchGitignore_of_write_failed {t : Tree} {path c : String} {e : IoError}
    (hc : ignoreText t path = .ok c) (hign : (Text.lines c).any ignoresScratchDir = false)
    (hw : t.writeText path (withScratchEntry c) = .error e) :
    patchGitignore t path = (t, .error ⟨path, "write failed: " ++ e⟩) := by
  unfold ignoreText at hc
  simp only [patchGitignore, hc, hign, appended_eq_withScratchEntry, hw, Bool.false_eq_true,
    if_false]

/-- A patch that cannot read the file warns and leaves the tree. -/
theorem patchGitignore_of_unreadable {t : Tree} {path : String} {e : IoError}
    (he : ignoreText t path = .error e) :
    patchGitignore t path = (t, .error ⟨path, "read failed: " ++ e⟩) := by
  unfold ignoreText at he
  simp only [patchGitignore, he]

/-- A written file is read back as the text the patch starts from. -/
theorem ignoreText_writeText {t t' : Tree} {path s : String} (hw : t.writeText path s = .ok t') :
    ignoreText t' path = .ok s := by
  have hpresent : t'.present path = true := by
    simp [Tree.present, Tree.node?_writeBytes hw]
  simp [ignoreText, hpresent, Tree.readText_writeText hw]

/-- Patching again leaves the tree the first patch left, and after a patch that succeeded it
finds the entry. -/
theorem patchGitignore_again (t : Tree) (path : String) :
    (patchGitignore (patchGitignore t path).1 path).1 = (patchGitignore t path).1 ∧
    (∀ r, (patchGitignore t path).2 = .ok r →
      (patchGitignore (patchGitignore t path).1 path).2 = .ok .alreadyPresent) := by
  cases hc : ignoreText t path with
  | error e =>
    rw [patchGitignore_of_unreadable hc]
    exact ⟨by rw [patchGitignore_of_unreadable hc], fun r hr => by cases hr⟩
  | ok c =>
    cases hign : (Text.lines c).any ignoresScratchDir with
    | true =>
      have hfirst := patchGitignore_of_ignored hc hign
      rw [hfirst]
      exact ⟨by rw [hfirst], fun _ _ => by rw [hfirst]⟩
    | false =>
      cases hw : t.writeText path (withScratchEntry c) with
      | error e =>
        have hfirst := patchGitignore_of_write_failed hc hign hw
        rw [hfirst]
        exact ⟨by rw [hfirst], fun r hr => by cases hr⟩
      | ok t' =>
        -- the written file reads back with the entry, which is recognised
        rw [patchGitignore_of_written hc hign hw,
          patchGitignore_of_ignored (ignoreText_writeText hw) (ignores_withScratchEntry c)]
        exact ⟨rfl, fun _ _ => rfl⟩

/-- An ignore file that a patch leaves as it is: one that cannot be read, or whose text has a line
that ignores the scratch directory. -/
def IgnoreSettled (t : Tree) (path : String) : Prop :=
  ∀ c, ignoreText t path = .ok c → (Text.lines c).any ignoresScratchDir = true

theorem patchGitignore_of_settled {t : Tree} {path : String} (h : IgnoreSettled t path) :
    (patchGitignore t path).1 = t := by
  cases hc : ignoreText t path with
  | error e => rw [patchGitignore_of_unreadable hc]
  | ok c => rw [patchGitignore_of_ignored hc (h c hc)]

theorem IgnoreSettled.congr {t u : Tree} {path : String} (h : IgnoreSettled t path)
    (hn : t.node? path = u.node? path) : IgnoreSettled u path := by
  intro c hc
  exact h c (by rw [ignoreText_congr hn, hc])

/-! ### In a working directory -/

section WorkingDirectory

variable {t : Tree} {wd : String}

theorem isName_gitignoreFile : IsName gitignoreFile := ⟨by decide, by decide, by decide⟩

theorem isName_tsconfigFile : IsName tsconfigFile := ⟨by decide, by decide, by decide⟩

/-- The file a patch reads is no directory. -/
theorem node?_ne_dir_of_ignoreText {path c : String} (hc : ignoreText t path = .ok c) :
    t.node? path ≠ some .dir := by
  intro hd
  have hpresent : t.present path = true := by simp [Tree.present, hd]
  simp [ignoreText, hpresent, Tree.readText, Tree.readBytes_of_dir hd] at hc

/-- In a working directory, a patch that reads the ignore file can write it, and the write sets
the file where the path leads. -/
theorem writeText_ignoreFile (hwd : t.isDir wd = true) {c : String}
    (hc : ignoreText t (join wd gitignoreFile) = .ok c) (s : String) :
    ∃ k, t.locate (join wd gitignoreFile) = some k ∧
      t.writeText (join wd gitignoreFile) s = .ok (t.setEntry k (.file s.toUTF8.toList)) := by
  obtain ⟨here, -, -, hres⟩ := Tree.resolve_join_name hwd isName_gitignoreFile (by decide)
  have hent : t.entryAt (isAbsolute (join wd gitignoreFile)) (here ++ [gitignoreFile]) ≠
      some .dir := fun hd =>
    node?_ne_dir_of_ignoreText hc (Tree.node?_eq_some.mpr ⟨_, hres, hd⟩)
  exact ⟨_, Tree.locate_of_resolve hres, Tree.writeBytes_of_resolve hres hent⟩

/-- In a working directory, a patch always leaves an ignore file that the next patch keeps. -/
theorem settled_patchGitignore (hwd : t.isDir wd = true) :
    IgnoreSettled (patchGitignore t (join wd gitignoreFile)).1 (join wd gitignoreFile) := by
  intro c' hc'
  cases hc : ignoreText t (join wd gitignoreFile) with
  | error e =>
    rw [patchGitignore_of_unreadable hc] at hc'
    rw [hc] at hc'
    cases hc'
  | ok c =>
    cases hign : (Text.lines c).any ignoresScratchDir with
    | true =>
      rw [patchGitignore_of_ignored hc hign, hc] at hc'
      cases hc'
      exact hign
    | false =>
      obtain ⟨k, -, hw⟩ := writeText_ignoreFile hwd hc (withScratchEntry c)
      rw [patchGitignore_of_written hc hign hw, ignoreText_writeText hw] at hc'
      cases hc'
      exact ignores_withScratchEntry c

end WorkingDirectory

/-! ### Patching the project again -/

/-- The ignore-file patch leaves the tree, or writes its own file. -/
theorem patchGitignore_tree (t : Tree) (path : String) :
    (patchGitignore t path).1 = t ∨ ∃ s, t.writeText path s = .ok (patchGitignore t path).1 := by
  cases hc : ignoreText t path with
  | error e => exact .inl (by rw [patchGitignore_of_unreadable hc])
  | ok c =>
    cases hign : (Text.lines c).any ignoresScratchDir with
    | true => exact .inl (by rw [patchGitignore_of_ignored hc hign])
    | false =>
      cases hw : t.writeText path (withScratchEntry c) with
      | error e => exact .inl (by rw [patchGitignore_of_write_failed hc hign hw])
      | ok t' => exact .inr ⟨_, by rw [patchGitignore_of_written hc hign hw]; exact hw⟩

theorem patchGitignore_keepsDirs (t : Tree) (path : String) :
    t.KeepsDirs (patchGitignore t path).1 := by
  rcases patchGitignore_tree t path with heq | ⟨s, hw⟩
  · rw [heq]
    exact .refl t
  · exact Tree.writeBytes_keepsDirs hw

/-- The compiler-configuration patch leaves the tree, or writes its own file. -/
theorem patchTsconfig_tree (t : Tree) (path : String) :
    (patchTsconfig t path).1 = t ∨ ∃ s, t.writeText path s = .ok (patchTsconfig t path).1 := by
  unfold patchTsconfig
  split
  · exact .inl rfl
  · split
    · exact .inl rfl
    · split
      · exact .inl rfl
      · split
        · exact .inl rfl
        · exact .inl rfl
        · split
          · next t' hw => exact .inr ⟨_, hw⟩
          · exact .inl rfl

section WorkingDirectory

variable {t : Tree} {wd : String}

/-- In a working directory, the compiler-configuration patch keeps the directory and what stands
at the ignore file: its file has another key. -/
theorem patchTsconfig_keeps_ignoreFile (hwd : t.isDir wd = true) :
    (patchTsconfig t (join wd tsconfigFile)).1.isDir wd = true ∧
      (patchTsconfig t (join wd tsconfigFile)).1.node? (join wd gitignoreFile) =
        t.node? (join wd gitignoreFile) := by
  rcases patchTsconfig_tree t (join wd tsconfigFile) with heq | ⟨s, hw⟩
  · rw [heq]
    exact ⟨hwd, rfl⟩
  refine ⟨(Tree.writeBytes_keepsDirs hw).isDir hwd, ?_⟩
  obtain ⟨here, hwdres, -, hgi⟩ := Tree.resolve_join_name hwd isName_gitignoreFile (by decide)
  obtain ⟨here', hwdres', -, hts⟩ := Tree.resolve_join_name hwd isName_tsconfigFile (by decide)
  rw [hwdres] at hwdres'
  cases hwdres'
  refine Tree.node?_writeBytes_of_ne hw hgi ?_
  rw [Tree.locate_of_resolve hts, ne_eq, Option.some.injEq]
  -- both keys are the working directory's names and one name more, and the names differ
  intro hkey
  have hnames : ∀ n ∈ here, IsName n := Tree.resolve_names hwdres
  have hts' : ∀ n ∈ here ++ [tsconfigFile], IsName n := fun n hn =>
    (List.mem_append.mp hn).elim (hnames n) fun h => List.mem_singleton.mp h ▸ isName_tsconfigFile
  have hgi' : ∀ n ∈ here ++ [gitignoreFile], IsName n := fun n hn =>
    (List.mem_append.mp hn).elim (hnames n) fun h => List.mem_singleton.mp h ▸ isName_gitignoreFile
  have hlists := (keyOf_inj (by simp) (by simp) hts' hgi' hkey).2
  have hlast : tsconfigFile = gitignoreFile := by simpa using hlists
  exact absurd hlast (by decide)

/-- One patch of the project in a working directory whose ignore file is settled keeps what
stands at the ignore file, the working directory, and so the settled ignore file. -/
theorem patchProject_of_settled (hwd : t.isDir wd = true)
    (hset : IgnoreSettled t (join wd gitignoreFile)) :
    (patchProject t wd).1.isDir wd = true ∧
      (patchProject t wd).1.node? (join wd gitignoreFile) = t.node? (join wd gitignoreFile) := by
  obtain ⟨hdir, hnode⟩ := patchTsconfig_keeps_ignoreFile (t := t) hwd
  have hkeep := patchGitignore_of_settled (hset.congr hnode.symm)
  simp only [patchProject, hkeep]
  exact ⟨hdir, hnode⟩

/-- The first patch of the project leaves the working directory and a settled ignore file. -/
theorem patchProject_settles (hwd : t.isDir wd = true) :
    (patchProject t wd).1.isDir wd = true ∧
      IgnoreSettled (patchProject t wd).1 (join wd gitignoreFile) := by
  obtain ⟨hdir, -⟩ := patchTsconfig_keeps_ignoreFile (t := t) hwd
  simp only [patchProject]
  -- the ignore patch only writes a file, so the directory stays
  refine ⟨?_, settled_patchGitignore hdir⟩
  exact (patchGitignore_keepsDirs _ _).isDir hdir

/-- Patching the project again and again leaves the ignore file as the first patch left it. -/
theorem patchProject_iterate_ignoreFile (hwd : t.isDir wd = true) (n : Nat) :
    let T := (fun u => (patchProject u wd).1)^[n + 1] t
    T.isDir wd = true ∧ IgnoreSettled T (join wd gitignoreFile) ∧
      T.node? (join wd gitignoreFile) = (patchProject t wd).1.node? (join wd gitignoreFile) := by
  induction n with
  | zero =>
    obtain ⟨hdir, hset⟩ := patchProject_settles (t := t) hwd
    exact ⟨hdir, hset, rfl⟩
  | succ n ih =>
    obtain ⟨hdir, hset, hnode⟩ := ih
    rw [Function.iterate_succ_apply']
    obtain ⟨hdir', hnode'⟩ := patchProject_of_settled hdir hset
    exact ⟨hdir', hset.congr hnode'.symm, hnode'.trans hnode⟩

end WorkingDirectory

/-! ### The patch of the ignore file -/

/-- In a working directory, the patch of `.gitignore` appends the scratch directory's entry to the
text it finds there (nothing there reads as the empty text) unless a line of that text already
ignores the directory; it warns and writes nothing when the file cannot be read; a second patch
changes nothing and finds the entry; and patching the whole project again and again leaves the
ignore file as the first patch left it. -/
theorem patchGitignore_appends_entry_once {t : Tree} {wd : String} (hwd : t.isDir wd = true) :
    let path := join wd gitignoreFile
    (∀ c, (t.present path = false ∧ c = "" ∨ t.readText path = .ok c) →
      ((Text.lines c).any ignoresScratchDir = true →
        patchGitignore t path = (t, .ok .alreadyPresent)) ∧
      ((Text.lines c).any ignoresScratchDir = false → ∃ k, t.locate path = some k ∧
        patchGitignore t path =
          (t.setEntry k (.file (withScratchEntry c).toUTF8.toList), .ok .applied)) ∧
      c.toList <+: (withScratchEntry c).toList) ∧
    (∀ e, t.present path = true → t.readText path = .error e →
      patchGitignore t path = (t, .error ⟨path, "read failed: " ++ e⟩)) ∧
    (patchGitignore (patchGitignore t path).1 path).1 = (patchGitignore t path).1 ∧
    (∀ r, (patchGitignore t path).2 = .ok r →
      (patchGitignore (patchGitignore t path).1 path).2 = .ok .alreadyPresent) ∧
    ∀ n, ((fun u => (patchProject u wd).1)^[n + 1] t).node? path =
      (patchProject t wd).1.node? path := by
  intro path
  refine ⟨fun c hc => ?_, fun e hp he => ?_, (patchGitignore_again t path).1,
    (patchGitignore_again t path).2, fun n => (patchProject_iterate_ignoreFile hwd n).2.2⟩
  · -- the text the patch starts from is `c`
    have htext : ignoreText t path = .ok c := by
      rcases hc with ⟨hp, rfl⟩ | hr
      · simp [ignoreText, hp]
      · obtain ⟨b, hb, -⟩ := Tree.node?_of_readText hr
        have hp : t.present path = true := by simp [Tree.present, hb]
        simp [ignoreText, hp, hr]
    refine ⟨patchGitignore_of_ignored htext, fun hign => ?_, prefix_withScratchEntry c⟩
    obtain ⟨k, hk, hw⟩ := writeText_ignoreFile hwd htext (withScratchEntry c)
    exact ⟨k, hk, patchGitignore_of_written htext hign hw⟩
  · exact patchGitignore_of_unreadable (by simp [ignoreText, hp, he])

/-- In an empty working directory the patch makes the ignore file with the entry. -/
theorem gitignore_made_in_empty_directory :
    (⟨[("/p", .dir)]⟩ : Tree).isDir "/p" = true ∧
    ∃ k, (⟨[("/p", .dir)]⟩ : Tree).locate (join "/p" gitignoreFile) = some k ∧
      patchGitignore ⟨[("/p", .dir)]⟩ (join "/p" gitignoreFile) =
        ((⟨[("/p", .dir)]⟩ : Tree).setEntry k (.file (withScratchEntry "").toUTF8.toList),
          .ok .applied) :=
  ⟨by decide +kernel, ((patchGitignore_appends_entry_once (by decide +kernel)).1 ""
    (.inl ⟨by decide +kernel, rfl⟩)).2.1 (by decide)⟩

end LiveSession.Scaffold

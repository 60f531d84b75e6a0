import Mathlib.Data.List.Nodup
import Mathlib.Data.List.Sort
import Mathlib.Data.String.Basic
import LiveSession.Scaffold.Discover
import LiveSession.Proofs.Files.GlobWalk
/-!
# Which modules and env files discovery lists

`candidateModules t root` and `envFiles t root` put the working directory `root` in front of the
glob patterns `**/*.ts` and `**/*.env` and keep the regular files the walk finds, by their path
relative to `root`. When `root` holds no glob character and, if relative, does not start with a
`.` part (`ReadsAsPath`), the walk reads it as a path (`Files.GlobWalk`). In a tree of
well-formed keys (`Tree.WellKeyed`) both lists are then in strictly ascending order and hold
exactly the relative paths of the regular files below the directory, hidden ones included, none
of whose names is an excluded directory: those whose name ends in `.ts` but not `.d.ts`, or in
`.env` (`discovery_lists_files_below`).

Otherwise the path is read as a pattern and files below it go missing: a directory `/w/a[b]`
holding `main.ts` lists nothing, since `[b]` matches `b` alone, and neither does `.`, since the
walk from the working directory shows no `.` to take off the paths it finds
(`discovery_misses_files_below_glob_roots`).
-/

namespace LiveSession.Scaffold

open LiveSession.Files LiveSession.Path LiveSession.Files.Glob

/-- A directory path the glob walk reads as a path: no wildcard or set character in it, and no
`.` as the first part of a relative one. -/
def ReadsAsPath (root : String) : Prop :=
  Plain root.toList ∧ (isAbsolute root = false → (Path.parts root).head? ≠ some ".")

instance : DecidablePred ReadsAsPath := fun root =>
  decidable_of_iff ((root.toList.all fun c => c != '?' && c != '*' && c != '[') &&
      (isAbsolute root || (Path.parts root).head? != some ".")) (by
    simp only [ReadsAsPath, Plain, Bool.and_eq_true, List.all_eq_true, bne_iff_ne, ne_eq,
      Bool.or_eq_true]
    cases isAbsolute root <;> simp [and_assoc])

/-- The `/`-joined path, relative to a directory, of a regular file some names below it whose
name passes a test, none of the names an excluded directory. -/
def FileBelow (t : Tree) (root : String) (wanted : String → Bool) (s : String) : Prop :=
  ∃ ns : List String, ∃ hne : ns ≠ [], (∀ n ∈ ns, IsName n ∧ n ≠ ".." ∧ n ∉ excludedDirs) ∧
    s = "/".intercalate ns ∧ t.isFile (join root s) = true ∧ wanted (ns.getLast hne) = true

/-- The relative paths the walk keeps below a directory path it reads as a path: the regular
files below the directory, through directories, whose name ends with a text, none of whose names
is an excluded directory. -/
def foundBelow (t : Tree) (root sfx : String) : List String :=
  match t.resolve root with
  | .ok r =>
    if t.isDirAt (isAbsolute root) r then
      ((t.namesBelow (isAbsolute root) r).filter fun ns =>
        t.isFileAt (isAbsolute root) (r ++ ns) && !ns.any (excludedDirs.contains ·) &&
          (ns.getLast?.getD "").endsWith sfx).map ("/".intercalate ·)
    else []
  | .error _ => []

/-! ### Paths of names -/

/-- A text free of `c` is a suffix of a list with `c` in it exactly when it is one of what
follows `c`. -/
theorem suffix_append_cons_iff {s : List Char} (l₁ l₂ : List Char) {c : Char} (hc : c ∉ s) :
    s <:+ l₁ ++ c :: l₂ ↔ s <:+ l₂ := by
  have hrest : l₂ <:+ l₁ ++ c :: l₂ := ⟨l₁ ++ [c], by simp⟩
  constructor
  · intro h
    by_cases hlen : s.length ≤ l₂.length
    · exact List.suffix_of_suffix_length_le h hrest hlen
    · -- a longer suffix reaches back to `c`
      have hcs : c :: l₂ <:+ s :=
        List.suffix_of_suffix_length_le ⟨l₁, rfl⟩ h (by simp at hlen ⊢; omega)
      exact absurd (hcs.subset List.mem_cons_self) hc
  · exact fun h => h.trans hrest

/-- A path of names ends with a text free of separators exactly when its last name does. -/
theorem endsWith_intercalate {ns : List String} (hne : ns ≠ []) {sfx : String}
    (hslash : '/' ∉ sfx.toList) :
    ("/".intercalate ns).endsWith sfx = (ns.getLast hne).endsWith sfx := by
  have hsplit := List.dropLast_append_getLast hne
  by_cases hinit : ns.dropLast = []
  · conv => lhs; rw [← hsplit, hinit]
    rw [List.nil_append, String.intercalate_singleton]
  · conv => lhs; rw [← hsplit]
    rw [String.intercalate_append_of_ne_nil hinit (by simp), String.intercalate_singleton,
      Bool.eq_iff_iff, Scaffold.endsWith_iff, Scaffold.endsWith_iff]
    simpa using suffix_append_cons_iff ("/".intercalate ns.dropLast).toList
      (ns.getLast hne).toList hslash

/-- A path of names joined to a directory path leads to a regular file exactly when the directory
path leads to a directory, every entry on the way down from it is one, and a regular file ends
the way. -/
theorem isFile_join_intercalate {t : Tree} {root : String} {ns : List String}
    (hns : ∀ n ∈ ns, IsName n ∧ n ≠ "..") (hne : ns ≠ []) :
    t.isFile (join root ("/".intercalate ns)) = true ↔
      ∃ r, t.resolve root = .ok r ∧ t.isDirAt (isAbsolute root) r = true ∧
        t.dirsBetween (isAbsolute root) r ns = true ∧
        t.isFileAt (isAbsolute root) (r ++ ns) = true := by
  have hslash : ∀ n ∈ ns, '/' ∉ n.toList := fun n hn => (hns n hn).1.2.2
  have hparts := parts_intercalate hne hslash
  have hrel : isAbsolute ("/".intercalate ns) = false := by
    obtain ⟨n, ns', rfl⟩ := List.exists_cons_of_ne_nil hne
    exact isAbsolute_eq_false_of_parts hparts (hns n List.mem_cons_self).1.1
  rw [Tree.isFile_iff]
  constructor
  · rintro ⟨b, hnode⟩
    obtain ⟨here, hres, hentry⟩ := Tree.node?_eq_some.mp hnode
    rw [Tree.resolve_join root hrel, hparts] at hres
    rw [isAbsolute_join root hrel] at hentry
    cases hroot : t.resolve root with
    | error e =>
      rw [hroot] at hres
      cases hres
    | ok r =>
      rw [hroot] at hres
      obtain ⟨rfl, hdirs⟩ := (Tree.walk_down_iff hns).mp hres
      obtain ⟨hd, hbetween⟩ := (Tree.dirsAlong_iff hne).mp hdirs
      exact ⟨r, rfl, Tree.isDirAt_iff.mpr hd, hbetween, Tree.isFileAt_iff.mpr ⟨b, hentry⟩⟩
  · rintro ⟨r, hroot, hd, hbetween, hfile⟩
    obtain ⟨b, hb⟩ := Tree.isFileAt_iff.mp hfile
    refine ⟨b, Tree.node?_eq_some.mpr ⟨r ++ ns, ?_, ?_⟩⟩
    · rw [Tree.resolve_join root hrel, hroot, hparts]
      exact (Tree.walk_down_iff hns).mpr
        ⟨rfl, (Tree.dirsAlong_iff hne).mpr ⟨Tree.isDirAt_iff.mp hd, hbetween⟩⟩
    · rw [isAbsolute_join root hrel]
      exact hb

/-! ### What the walk keeps -/

section Found

variable {t : Tree} {root : String}

theorem filterMap_ite {α β : Type} (l : List α) (c : α → Bool) (f : α → β) :
    l.filterMap (fun x => if c x then some (f x) else none) = (l.filter c).map f := by
  induction l with
  | nil => rfl
  | cons x l ih => by_cases hc : c x <;> simp [hc, ih]

/-- Below a directory path read as a path, the files `**/*` and a text names are those the walk
keeps. -/
theorem globFiles_eq (hroot : ReadsAsPath root) (sfx : String) (hsfx : Plain sfx.toList)
    (hslash : '/' ∉ sfx.toList) : globFiles t root ("**/*" ++ sfx) = foundBelow t root sfx := by
  have hpat : isAbsolute ("**/*" ++ sfx) = false :=
    isAbsolute_eq_false_of_parts (parts_below_suffix hslash) (by decide)
  have hlead : prefixComponents root = components root := by
    unfold prefixComponents
    cases habs : isAbsolute root with
    | true => rfl
    | false => simp [hroot.2 habs]
  -- a spot below the directory shows the directory's components, then the names
  have hstrip : ∀ ns, stripPrefix (components root) (components root ++ ns) = some ns := by
    intro ns
    simp [stripPrefix, List.isPrefixOf_iff_prefix]
  have hkeep : ∀ (c x : Bool) (s : String),
      (if c then (if x then none else some s) else none) = if (c && !x) then some s else none := by
    intro c x s
    cases c <;> cases x <;> rfl
  unfold globFiles
  dsimp only
  rw [isAbsolute_join root hpat, Tree.globPaths_below_suffix hroot.1 hroot.2 hsfx hslash]
  dsimp only
  rw [hlead]
  unfold foundBelow
  cases t.resolve root with
  | error e => rfl
  | ok r =>
    dsimp only
    split
    · rw [List.filterMap_map]
      simp only [Function.comp_def, hstrip, hkeep, filterMap_ite, List.filter_filter]
    · rfl

/-- In a tree of well-formed keys, the walk keeps exactly the paths of the regular files below
the directory whose name ends with the text, none of their names an excluded directory. -/
theorem mem_foundBelow (ht : t.WellKeyed) {sfx s : String} :
    s ∈ foundBelow t root sfx ↔ FileBelow t root (·.endsWith sfx) s := by
  unfold foundBelow
  -- a file below the directory path makes it lead to a directory
  have hdir : FileBelow t root (·.endsWith sfx) s →
      ∃ r, t.resolve root = .ok r ∧ t.isDirAt (isAbsolute root) r = true := by
    rintro ⟨ns, hne, hall, rfl, hfile, -⟩
    obtain ⟨r, hres, hd, -⟩ :=
      (isFile_join_intercalate (fun n hn => ⟨(hall n hn).1, (hall n hn).2.1⟩) hne).mp hfile
    exact ⟨r, hres, hd⟩
  cases hres : t.resolve root with
  | error e =>
    refine iff_of_false (by simp) fun hs => ?_
    obtain ⟨r, hr, -⟩ := hdir hs
    rw [hres] at hr
    cases hr
  | ok r =>
    dsimp only
    by_cases hd : t.isDirAt (isAbsolute root) r = true
    · have hnames := Tree.resolve_names hres
      rw [if_pos hd, List.mem_map]
      constructor
      · rintro ⟨ns, hmem, rfl⟩
        obtain ⟨hmem, hkeep⟩ := List.mem_filter.mp hmem
        obtain ⟨hne, hns, hbetween, -⟩ := (Tree.mem_namesBelow ht hnames).mp hmem
        simp only [Bool.and_eq_true, Bool.not_eq_true', List.any_eq_false] at hkeep
        obtain ⟨⟨hfile, hexcl⟩, hend⟩ := hkeep
        refine ⟨ns, hne, fun n hn => ⟨(hns n hn).1, (hns n hn).2, by simpa using hexcl n hn⟩, rfl,
          (isFile_join_intercalate hns hne).mpr ⟨r, hres, hd, hbetween, hfile⟩, ?_⟩
        rwa [List.getLast?_eq_some_getLast hne, Option.getD_some] at hend
      · rintro ⟨ns, hne, hall, rfl, hfile, hend⟩
        have hns : ∀ n ∈ ns, IsName n ∧ n ≠ ".." := fun n hn => ⟨(hall n hn).1, (hall n hn).2.1⟩
        obtain ⟨r', hres', -, hbetween, hfile'⟩ := (isFile_join_intercalate hns hne).mp hfile
        rw [hres] at hres'
        cases hres'
        have hentry : (t.entryAt (isAbsolute root) (r ++ ns)).isSome = true := by
          obtain ⟨b, hb⟩ := Tree.isFileAt_iff.mp hfile'
          simp [hb]
        refine ⟨ns, List.mem_filter.mpr ⟨(Tree.mem_namesBelow ht hnames).mpr
          ⟨hne, hns, hbetween, hentry⟩, ?_⟩, rfl⟩
        simp only [Bool.and_eq_true, Bool.not_eq_true', List.any_eq_false]
        refine ⟨⟨hfile', fun n hn => by simpa using (hall n hn).2.2⟩, ?_⟩
        rwa [List.getLast?_eq_some_getLast hne, Option.getD_some]
    · rw [if_neg hd]
      refine iff_of_false (by simp) fun hs => ?_
      obtain ⟨r', hr', hd'⟩ := hdir hs
      rw [hres] at hr'
      cases hr'
      exact hd hd'

/-- In a tree of well-formed keys, the walk keeps each path once. -/
theorem nodup_foundBelow (ht : t.WellKeyed) (sfx : String) : (foundBelow t root sfx).Nodup := by
  unfold foundBelow
  cases hres : t.resolve root with
  | error e => exact List.nodup_nil
  | ok r =>
    dsimp only
    split
    · have hnames := Tree.resolve_names hres
      refine List.Nodup.map_on (fun ns hns ns' hns' heq => ?_)
        ((Tree.nodup_namesBelow ht r).filter _)
      -- the names come back as the parts of their path
      have hparts : ∀ ns ∈ t.namesBelow (isAbsolute root) r,
          Path.parts ("/".intercalate ns) = ns := fun ns hmem => by
        obtain ⟨hne, hall, -⟩ := (Tree.mem_namesBelow ht hnames).mp hmem
        exact parts_intercalate hne fun n hn => (hall n hn).1.2.2
      rw [← hparts ns (List.mem_filter.mp hns).1, ← hparts ns' (List.mem_filter.mp hns').1, heq]
    · exact List.nodup_nil

end Found

/-- Sorting distinct texts puts them in strictly ascending order. -/
theorem pairwise_lt_mergeSort {l : List String} (h : l.Nodup) :
    (l.mergeSort fun a b => decide (a ≤ b)).Pairwise (· < ·) := by
  have htrans : ∀ a b c : String,
      decide (a ≤ b) = true → decide (b ≤ c) = true → decide (a ≤ c) = true := by
    intro a b c hab hbc
    simp only [decide_eq_true_eq] at *
    exact le_trans hab hbc
  have htotal : ∀ a b : String, (decide (a ≤ b) || decide (b ≤ a)) = true := by
    intro a b
    simpa using le_total a b
  have hle : (l.mergeSort fun a b => decide (a ≤ b)).Pairwise (· ≤ ·) := by
    simpa using List.pairwise_mergeSort htrans htotal l
  have hnodup : (l.mergeSort fun a b => decide (a ≤ b)).Nodup :=
    (List.mergeSort_perm l _).nodup_iff.mpr h
  exact (hle.sortedLE.sortedLT_of_nodup hnodup).pairwise

/-! ### Discovery -/

section Discovery

variable {t : Tree} {root : String}

/-- Below a directory path read as a path, the files `**/*` and a text names are listed in
strictly ascending order, and they are exactly the files below the directory whose name ends with
the text. -/
theorem findFiles_spec (ht : t.WellKeyed) (hroot : ReadsAsPath root) (sfx : String)
    (hsfx : Plain sfx.toList) (hslash : '/' ∉ sfx.toList) :
    (findFiles t root ("**/*" ++ sfx)).Pairwise (· < ·) ∧
      ∀ s, s ∈ findFiles t root ("**/*" ++ sfx) ↔ FileBelow t root (·.endsWith sfx) s := by
  rw [findFiles, globFiles_eq hroot sfx hsfx hslash]
  exact ⟨pairwise_lt_mergeSort (nodup_foundBelow ht sfx),
    fun s => List.mem_mergeSort.trans (mem_foundBelow ht)⟩

/-- A file below whose name ends with one text and whose path does not end with another, free of
separators, is one whose name does neither. -/
theorem fileBelow_and_not_endsWith {s sfx sfx' : String} (hslash : '/' ∉ sfx'.toList) :
    (FileBelow t root (·.endsWith sfx) s ∧ s.endsWith sfx' = false) ↔
      FileBelow t root (fun n => n.endsWith sfx && !n.endsWith sfx') s := by
  constructor
  · rintro ⟨⟨ns, hne, hall, rfl, hfile, hend⟩, hnot⟩
    rw [endsWith_intercalate hne hslash] at hnot
    exact ⟨ns, hne, hall, rfl, hfile, by simp [hend, hnot]⟩
  · rintro ⟨ns, hne, hall, rfl, hfile, hend⟩
    simp only [Bool.and_eq_true, Bool.not_eq_true'] at hend
    exact ⟨⟨ns, hne, hall, rfl, hfile, hend.1⟩, by rw [endsWith_intercalate hne hslash]; exact hend.2⟩

end Discovery

/-- Below a working directory read as a path, in a tree of well-formed keys, the candidate
modules are in strictly ascending order and are exactly the relative paths of the regular files
below it, hidden ones included, whose name ends in `.ts` but not `.d.ts` and none of whose names
is an excluded directory; the env files likewise for `.env`. -/
theorem discovery_lists_files_below {t : Tree} {root : String} (ht : t.WellKeyed)
    (hroot : ReadsAsPath root) :
    ((candidateModules t root).Pairwise (· < ·) ∧
      ∀ s, s ∈ candidateModules t root ↔
        FileBelow t root (fun n => n.endsWith ".ts" && !n.endsWith ".d.ts") s) ∧
    ((envFiles t root).Pairwise (· < ·) ∧
      ∀ s, s ∈ envFiles t root ↔ FileBelow t root (·.endsWith ".env") s) := by
  have hts : ("**/*.ts" : String) = "**/*" ++ ".ts" := rfl
  have henv : ("**/*.env" : String) = "**/*" ++ ".env" := rfl
  obtain ⟨hsorted, hmem⟩ := findFiles_spec ht hroot ".ts" (by decide) (by decide)
  obtain ⟨hsorted', hmem'⟩ := findFiles_spec ht hroot ".env" (by decide) (by decide)
  unfold candidateModules envFiles
  rw [hts, henv]
  refine ⟨⟨hsorted.filter _, fun s => ?_⟩, hsorted', hmem'⟩
  rw [List.mem_filter, hmem, ← fileBelow_and_not_endsWith (by decide)]
  simp

/-- The project the repository's own test lays out below `/w`, with env files added. -/
def sampleProject : Tree :=
  ⟨[("/w", .dir), ("/w/src", .dir), ("/w/src/app.module.ts", .file []),
    ("/w/src/main.ts", .file []), ("/w/src/types.d.ts", .file []), ("/w/node_modules", .dir),
    ("/w/node_modules/core", .dir), ("/w/node_modules/core/index.ts", .file []),
    ("/w/test", .dir), ("/w/test/app.e2e-spec.ts", .file []), ("/w/.dev.env", .file []),
    ("/w/config", .dir), ("/w/config/prod.env", .file [])]⟩

theorem discovery_lists_files_below_sample :
    sampleProject.WellKeyed ∧ ReadsAsPath "/w" ∧
    (((candidateModules sampleProject "/w").Pairwise (· < ·) ∧
      ∀ s, s ∈ candidateModules sampleProject "/w" ↔
        FileBelow sampleProject "/w" (fun n => n.endsWith ".ts" && !n.endsWith ".d.ts") s) ∧
    ((envFiles sampleProject "/w").Pairwise (· < ·) ∧
      ∀ s, s ∈ envFiles sampleProject "/w" ↔
        FileBelow sampleProject "/w" (·.endsWith ".env") s)) :=
  ⟨by decide +kernel, by decide +kernel, discovery_lists_files_below (by decide +kernel)
    (by decide +kernel)⟩

-- the walk meets the files in the tree's order, which is already ascending here
example : candidateModules sampleProject "/w" = ["src/app.module.ts", "src/main.ts"] := by
  have hfound : globFiles sampleProject "/w" "**/*.ts" =
      ["src/app.module.ts", "src/main.ts", "src/types.d.ts"] := by decide +kernel
  rw [candidateModules, findFiles, hfound, List.mergeSort_of_pairwise (by decide +kernel)]
  decide +kernel

/-- A directory whose name holds a set, and relative keys from the working directory. -/
def bracketedProject : Tree :=
  ⟨[("/w", .dir), ("/w/a[b]", .dir), ("/w/a[b]/main.ts", .file []), ("main.ts", .file [])]⟩

/-- A working directory that is no plain path loses the files below it: `[b]` in `/w/a[b]` matches
`b` alone, and the walk from `.` shows `main.ts` with no `.` in front to take off. -/
theorem discovery_misses_files_below_glob_roots :
    (FileBelow bracketedProject "/w/a[b]" (fun n => n.endsWith ".ts" && !n.endsWith ".d.ts")
        "main.ts" ∧ candidateModules bracketedProject "/w/a[b]" = []) ∧
    (FileBelow bracketedProject "." (fun n => n.endsWith ".ts" && !n.endsWith ".d.ts")
        "main.ts" ∧ candidateModules bracketedProject "." = []) := by
  have hnone : ∀ root, globFiles bracketedProject root "**/*.ts" = [] →
      candidateModules bracketedProject root = [] := by
    intro root h
    rw [candidateModules, findFiles, h, List.mergeSort_nil, List.filter_nil]
  refine ⟨⟨⟨["main.ts"], by simp, by decide, rfl, by decide +kernel, by decide +kernel⟩,
      hnone _ (by decide +kernel)⟩,
    ⟨⟨["main.ts"], by simp, by decide, rfl, by decide +kernel, by decide +kernel⟩,
      hnone _ (by decide +kernel)⟩⟩

end LiveSession.Scaffold

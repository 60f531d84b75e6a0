import LiveSession.Scaffold.ImportPath
import LiveSession.Proofs.Path.Parts
/-!
# Relative imports of the main module

`importPath fromDir target` is how a module in `fromDir` imports `target`. Take two paths that
are both absolute or both relative, hold no `..` component, and where `target` is neither
`fromDir` nor one of its ancestors, and cut their components after the longest common prefix
`common`: `fromDir` goes on with `up`, `target` with `down`. Then

* the import is `./` when `up` is empty, else `../` once for each component of `up`, followed by
  `down` joined with `/`, less one trailing `.tsx`, `.ts` or `.js`, the first of the three that
  the text ends with (`importPath_eq_climb_descend`);
* so it starts with `./` or `../` (`importPath_relative`);
* and resolving it lexically against `fromDir` (`Path.resolveDots`: `..` takes back the name
  before it) gives `target` with that extension removed from its last component
  (`normalize_resolve_importPath`).

Main statement: `importPath_climbs_then_descends`.
-/

namespace LiveSession.Path

/-- Takes one more part into a lexically resolved path: an empty or `.` part adds nothing, `..`
takes back the name before it, stays at the root and is kept when no name is left to take
back, and any other part is added. -/
def climb (cs : List String) (c : String) : List String :=
  if c = "" ∨ c = "." then cs
  else if c = ".." then
    match cs.getLast? with
    | some "/" => cs
    | some ".." | none => cs ++ [".."]
    | some _ => cs.dropLast
  else cs ++ [c]

/-- Components with their `..` parts resolved lexically, from the first on. -/
def resolveDots (cs : List String) : List String := cs.foldl climb []

/-- Parts that lexical resolution only adds. -/
def IsPlain (c : String) : Prop := c ≠ "" ∧ c ≠ "." ∧ c ≠ ".."

theorem climb_plain {c : String} (h : IsPlain c) (cs : List String) : climb cs c = cs ++ [c] := by
  rw [climb, if_neg (fun hc => hc.elim h.1 h.2.1), if_neg h.2.2]

theorem foldl_climb_plain {L : List String} (h : ∀ c ∈ L, IsPlain c) (cs : List String) :
    L.foldl climb cs = cs ++ L := by
  induction L generalizing cs with
  | nil => simp
  | cons c L ih =>
    rw [List.foldl_cons, climb_plain (h c List.mem_cons_self),
      ih (fun d hd => h d (List.mem_cons_of_mem c hd)), List.append_assoc, List.singleton_append]

/-- `..` once for each name of `up` takes all of them back. -/
theorem foldl_climb_replicate {up : List String} (h : ∀ u ∈ up, u ≠ "/" ∧ IsPlain u)
    (cs : List String) : (List.replicate up.length "..").foldl climb (cs ++ up) = cs := by
  induction up generalizing cs with
  | nil => simp
  | cons u up ih =>
    have hu := h u List.mem_cons_self
    -- the first `..`s take back the later names, the last one takes back `u`
    have hback : climb (cs ++ [u]) ".." = cs := by
      rw [climb, if_neg (by decide), if_pos rfl, List.getLast?_concat]
      split
      · next hs => exact absurd (Option.some.inj hs) hu.1
      · next hs => exact absurd (Option.some.inj hs) hu.2.2.2
      · next hs => simp at hs
      · simp
    rw [List.length_cons, List.replicate_succ', List.foldl_append, ← List.singleton_append,
      ← List.append_assoc, ih (fun v hv => h v (List.mem_cons_of_mem u hv)), List.foldl_cons,
      List.foldl_nil, hback]

/-- The names of a part after lexical resolution of its text are the part itself. -/
theorem foldl_climb_names {s : String} (h : '/' ∉ s.toList) (cs : List String) :
    (names s).foldl climb cs = climb cs s := by
  rw [names, parts_of_not_slash h]
  by_cases hs : s = "" ∨ s = "."
  · have hdrop : (!s.isEmpty && s != ".") = false := by
      rcases hs with rfl | rfl <;> decide
    rw [List.filter_cons, hdrop, if_neg Bool.false_ne_true, List.filter_nil, climb, if_pos hs]
    rfl
  · have hkeep : (!s.isEmpty && s != ".") = true := by
      simp only [not_or] at hs
      simp [hs.1, hs.2]
    rw [List.filter_cons, if_pos hkeep, List.filter_nil]
    rfl

end LiveSession.Path

namespace LiveSession.Scaffold

open LiveSession.Path

/-! ### The longest common prefix -/

/-- Two lists split after their longest common prefix: what follows differs at its first
element, or both end there. -/
theorem exists_split_after_common :
    ∀ a b : List String, ∃ c a' b', a = c ++ a' ∧ b = c ++ b' ∧
      (a'.head? ≠ b'.head? ∨ a' = [] ∧ b' = [])
  | [], [] => ⟨[], [], [], rfl, rfl, .inr ⟨rfl, rfl⟩⟩
  | [], y :: ys => ⟨[], [], y :: ys, rfl, rfl, .inl (by simp)⟩
  | x :: xs, [] => ⟨[], x :: xs, [], rfl, rfl, .inl (by simp)⟩
  | x :: xs, y :: ys => by
    by_cases hxy : x = y
    · subst hxy
      obtain ⟨c, a', b', ha, hb, hend⟩ := exists_split_after_common xs ys
      exact ⟨x :: c, a', b', by rw [ha]; rfl, by rw [hb]; rfl, hend⟩
    · exact ⟨[], x :: xs, y :: ys, rfl, rfl, .inl (by simpa using hxy)⟩

theorem commonPrefixLength_append (c : List String) {a b : List String}
    (h : a.head? ≠ b.head?) : commonPrefixLength (c ++ a) (c ++ b) = c.length := by
  induction c with
  | nil =>
    cases a with
    | nil => rfl
    | cons x xs =>
      cases b with
      | nil => rfl
      | cons y ys =>
        have hxy : x ≠ y := fun hxy => h (by rw [hxy]; rfl)
        simp [commonPrefixLength, hxy]
  | cons x c ih => simp [commonPrefixLength, ih]

/-! ### The module extension -/

theorem endsWith_iff {s x : String} : s.endsWith x = true ↔ x.toList <:+ s.toList := by
  rw [String.endsWith_eq_endsWith_toSlice, String.Slice.endsWith_string_iff, String.copy_toSlice]

/-- Removing a suffix keeps a prefix of the text. -/
theorem prefix_stripFirstSuffix (s : String) :
    ∀ xs, (stripFirstSuffix s xs).toList <+: s.toList
  | [] => List.prefix_refl _
  | x :: xs => by
    rw [stripFirstSuffix]
    split
    · rw [String.toList_ofList]
      exact List.take_prefix _ _
    · exact prefix_stripFirstSuffix s xs

/-- After a separator, a text without `/` is a suffix of the whole exactly when it is one of
the part after the separator. -/
theorem suffix_append_iff {P s x : List Char} (hP : P.getLast? = some '/') (hx : '/' ∉ x) :
    x <:+ P ++ s ↔ x <:+ s := by
  refine ⟨fun h => ?_, fun h => h.trans (List.suffix_append P s)⟩
  by_cases hlen : x.length ≤ s.length
  · exact List.suffix_of_suffix_length_le h (List.suffix_append P s) hlen
  · -- a longer suffix reaches into `P`, whose last character is the separator
    obtain ⟨w, rfl⟩ := List.suffix_of_suffix_length_le (List.suffix_append P s) h (by omega)
    have hw : w <:+ P := ((List.suffix_append_inj_of_length_eq rfl).mp h).1
    have hwne : w ≠ [] := fun hw0 => hlen (by simp [hw0])
    have hlast : w.getLast? = some '/' := by
      rw [List.getLast?_eq_some_getLast hwne, hw.getLast hwne, ← List.getLast?_eq_some_getLast]
      exact hP
    exact absurd (List.mem_append_left s (List.mem_of_getLast? hlast)) hx

/-- Text before a separator is kept when a suffix is removed after it. -/
theorem stripFirstSuffix_append {P : String} (hP : P.toList.getLast? = some '/') (s : String) :
    ∀ xs, (∀ x ∈ xs, '/' ∉ x.toList) →
      stripFirstSuffix (P ++ s) xs = P ++ stripFirstSuffix s xs
  | [], _ => rfl
  | x :: xs, hxs => by
    have hends : (P ++ s).endsWith x = s.endsWith x := by
      apply Bool.eq_iff_iff.mpr
      rw [endsWith_iff, endsWith_iff, String.toList_append]
      exact suffix_append_iff hP (hxs x List.mem_cons_self)
    rw [stripFirstSuffix, stripFirstSuffix, hends]
    split
    · next hs =>
      have hlen : x.length ≤ s.length := by
        rw [← String.length_toList, ← String.length_toList]
        exact (endsWith_iff.mp hs).length_le
      have hP : P.toList.length = P.length := String.length_toList
      apply String.ext
      rw [String.toList_ofList, String.toList_append, String.toList_append, String.toList_ofList,
        String.length_append, List.take_append, List.take_of_length_le (by omega), hP]
      congr 2
      omega
    · exact stripFirstSuffix_append hP s xs fun y hy => hxs y (List.mem_cons_of_mem x hy)

theorem not_slash_stripFirstSuffix {s : String} (h : '/' ∉ s.toList) (xs : List String) :
    '/' ∉ (stripFirstSuffix s xs).toList :=
  fun hm => h ((prefix_stripFirstSuffix s xs).subset hm)

/-! ### Climbing, then descending -/

/-- `../` repeated. -/
theorem toList_climbs (n : Nat) :
    (String.join (List.replicate n "../")).toList = (List.replicate n ['.', '.', '/']).flatten := by
  induction n with
  | zero => rfl
  | succ n ih => rw [List.replicate_succ, String.join_cons, String.toList_append, ih]; rfl

theorem getLast_climbs {n : Nat} (hn : 0 < n) :
    (String.join (List.replicate n "../")).toList.getLast? = some '/' := by
  obtain ⟨k, rfl⟩ := Nat.exists_eq_add_of_lt hn
  rw [toList_climbs, Nat.zero_add, List.replicate_succ', List.flatten_append]
  simp

theorem intercalate_climbs {down : List String} (hd : down ≠ []) :
    ∀ {n : Nat}, 0 < n → "/".intercalate (List.replicate n ".." ++ down) =
      String.join (List.replicate n "../") ++ "/".intercalate down
  | 0, hn => absurd hn (Nat.lt_irrefl 0)
  | 1, _ => by
    rw [List.replicate_one, List.singleton_append, String.intercalate_cons_of_ne_nil hd,
      show (".." : String) ++ "/" = "../" from rfl]
    rfl
  | n + 2, _ => by
    have hj : String.join (List.replicate (n + 2) "../") =
        "../" ++ String.join (List.replicate (n + 1) "../") := by
      simp only [List.replicate_succ, String.join_cons]
    rw [List.replicate_succ, List.cons_append, String.intercalate_cons_of_ne_nil (by simp),
      intercalate_climbs hd (Nat.succ_pos n), hj, show (".." : String) ++ "/" = "../" from rfl,
      String.append_assoc]

/-- A name that is not `..` does not start a text with `../`. -/
theorem not_climbs_into_name {d : String} (hd : IsName d) (hdd : d ≠ "..") {r : List Char}
    (hr : r = [] ∨ r.head? = some '/') : ¬ ['.', '.', '/'] <+: d.toList ++ r := by
  obtain ⟨hne, hdot, hslash⟩ := hd
  intro h
  match hds : d.toList, h with
  | [], _ => exact hne (String.toList_inj.mp (by simp [hds]))
  | [c], h =>
    rcases hr with rfl | hr
    · simp at h
    · obtain ⟨r', rfl⟩ : ∃ r', r = '/' :: r' := by
        cases r with
        | nil => simp at hr
        | cons c' r' => exact ⟨r', by simp at hr; rw [hr]⟩
      simp at h
  | [c₁, c₂], h =>
    have hc : c₁ = '.' ∧ c₂ = '.' := by
      rw [List.cons_append, List.cons_append, List.cons_prefix_cons, List.cons_prefix_cons] at h
      exact ⟨h.1.symm, h.2.1.symm⟩
    exact hdd (String.toList_inj.mp (by rw [hds, hc.1, hc.2]; rfl))
  | c₁ :: c₂ :: c₃ :: rest, h =>
    have hc : c₃ = '/' := by
      simp only [List.cons_append, List.cons_prefix_cons] at h
      exact h.2.2.1.symm
    exact hslash (by rw [hds, hc]; simp)

/-- A path that does not climb gets no `../` from its first name. -/
theorem not_startsWith_climb {down : List String} (hne : down ≠ [])
    (hd : ∀ d ∈ down, IsName d ∧ d ≠ "..") (xs : List String) :
    (stripFirstSuffix ("/".intercalate down) xs).startsWith "../" = false := by
  obtain ⟨d, ds, rfl⟩ := List.exists_cons_of_ne_nil hne
  apply Bool.eq_false_iff.mpr
  intro h
  have hpre := (String.startsWith_string_iff.mp h).trans (prefix_stripFirstSuffix _ xs)
  obtain ⟨hname, hdd⟩ := hd d List.mem_cons_self
  by_cases hds : ds = []
  · subst hds
    rw [String.intercalate_singleton] at hpre
    exact not_climbs_into_name hname hdd (.inl rfl) (by simpa using hpre)
  · rw [String.intercalate_cons_of_ne_nil hds, String.append_assoc, String.toList_append] at hpre
    exact not_climbs_into_name hname hdd (.inr (by simp)) hpre

/-- Cut after the longest common prefix, the import climbs out of the importing directory and
descends into the target, less the target's extension. -/
theorem importPath_eq_climb_descend {fromDir target : String} {common up down : List String}
    (hsrc : components fromDir = common ++ up) (hdst : components target = common ++ down)
    (hhead : up.head? ≠ down.head?) (hne : down ≠ [])
    (hdown : ∀ d ∈ down, IsName d ∧ d ≠ "..") :
    importPath fromDir target =
      (if up = [] then "./" else String.join (List.replicate up.length "../")) ++
        stripFirstSuffix ("/".intercalate down) [".tsx", ".ts", ".js"] := by
  have hexts : ∀ x ∈ [".tsx", ".ts", ".js"], '/' ∉ x.toList := by decide
  simp only [importPath, hsrc, hdst, commonPrefixLength_append common hhead, List.length_append,
    Nat.add_sub_cancel_left, List.drop_left]
  by_cases hup : up = []
  · -- nothing to climb: the import stays below the importing directory
    subst hup
    rw [List.length_nil, List.replicate_zero, List.nil_append,
      not_startsWith_climb hne hdown, if_pos rfl]
    rfl
  · have hn : 0 < up.length := List.length_pos_iff.mpr hup
    rw [intercalate_climbs hne hn, stripFirstSuffix_append (getLast_climbs hn) _ _ hexts,
      if_neg hup]
    have hclimb : (String.join (List.replicate up.length "../") ++
        stripFirstSuffix ("/".intercalate down) [".tsx", ".ts", ".js"]).startsWith "../" := by
      obtain ⟨k, hk⟩ := Nat.exists_eq_add_of_lt hn
      rw [String.startsWith_string_iff, String.toList_append, toList_climbs, hk, Nat.zero_add,
        List.replicate_succ, List.flatten_cons, List.append_assoc]
      exact List.prefix_append _ _
    rw [if_pos hclimb]

/-! ### Lexical resolution -/

/-- An import always starts with `./` or `../`. -/
theorem importPath_relative (fromDir target : String) :
    (importPath fromDir target).startsWith "./" = true ∨
      (importPath fromDir target).startsWith "../" = true := by
  dsimp only [importPath]
  split
  · exact .inr ‹_›
  · left
    rw [String.startsWith_string_iff, String.toList_append]
    exact List.prefix_append _ _

theorem isAbsolute_importPath (fromDir target : String) :
    isAbsolute (importPath fromDir target) = false := by
  apply Bool.eq_false_iff.mpr
  intro habs
  have hhead := isAbsolute_iff.mp habs
  rcases importPath_relative fromDir target with h | h <;>
  · obtain ⟨r, hr⟩ := String.startsWith_string_iff.mp h
    rw [← hr] at hhead
    simp at hhead

theorem names_climbs_append (J : String) :
    ∀ n, names (String.join (List.replicate n "../") ++ J) = List.replicate n ".." ++ names J
  | 0 => by rw [List.replicate_zero, List.replicate_zero, String.join_nil, String.empty_append]; rfl
  | n + 1 => by
    have h : String.join (List.replicate (n + 1) "../") ++ J =
        ".." ++ "/" ++ (String.join (List.replicate n "../") ++ J) := by
      rw [List.replicate_succ, String.join_cons, String.append_assoc]
      rfl
    rw [h, names_append_slash, names_climbs_append J n, List.replicate_succ]
    rfl

theorem names_dot_append (J : String) : names ("./" ++ J) = names J := by
  rw [show ("./" : String) = "." ++ "/" from rfl, names_append_slash]
  rfl

/-- The names of the descent: the target's names after the common prefix, the last one less
its extension. -/
theorem names_descend {dinit : List String} {name : String}
    (hd : ∀ d ∈ dinit ++ [name], IsName d) (xs : List String)
    (hxs : ∀ x ∈ xs, '/' ∉ x.toList) :
    names (stripFirstSuffix ("/".intercalate (dinit ++ [name])) xs) =
      dinit ++ names (stripFirstSuffix name xs) := by
  by_cases hinit : dinit = []
  · subst hinit
    rw [List.nil_append, String.intercalate_singleton, List.nil_append]
  · have hsep : ("/".intercalate dinit ++ "/").toList.getLast? = some '/' := by simp
    have hdinit : ∀ d ∈ dinit, IsName d := fun d h => hd d (List.mem_append_left _ h)
    have hnames : names ("/".intercalate dinit) = dinit := by
      rw [names, parts_intercalate hinit fun d h => (hdinit d h).2.2]
      apply List.filter_eq_self.mpr
      intro d h
      obtain ⟨hne, hdot, -⟩ := hdinit d h
      simp [hne, hdot]
    rw [String.intercalate_append_of_ne_nil hinit (by simp), String.intercalate_singleton,
      stripFirstSuffix_append hsep _ _ hxs, names_append_slash, hnames]

/-- A name of a path other than the root is not the root. -/
theorem ne_root_of_isName {c : String} (h : IsName c) : c ≠ "/" := by
  rintro rfl
  exact h.2.2 (by decide)

theorem isPlain_of_isName {c : String} (h : IsName c) (hdd : c ≠ "..") : IsPlain c :=
  ⟨h.1, h.2.1, hdd⟩

/-- Resolving the import lexically against the importing directory gives the target, less the
extension of its last component. -/
theorem normalize_resolve_importPath {fromDir target : String} {common up down : List String}
    (hsrc : components fromDir = common ++ up) (hdst : components target = common ++ down)
    (hhead : up.head? ≠ down.head?) (hne : down ≠ [])
    (hcommon : ∀ c ∈ common, IsPlain c) (hup : ∀ u ∈ up, IsName u ∧ u ≠ "..")
    (hdown : ∀ d ∈ down, IsName d ∧ d ≠ "..") {init : List String} {name : String}
    (hlast : components target = init ++ [name]) :
    resolveDots (components (Path.resolve fromDir (importPath fromDir target))) =
      resolveDots (init ++ [stripFirstSuffix name [".tsx", ".ts", ".js"]]) := by
  have hexts : ∀ x ∈ [".tsx", ".ts", ".js"], '/' ∉ x.toList := by decide
  -- the descent ends in the target's last name
  obtain ⟨dinit, d, rfl⟩ : ∃ dinit d, down = dinit ++ [d] := by
    rcases List.eq_nil_or_concat down with h | ⟨dinit, d, h⟩
    · exact absurd h hne
    · exact ⟨dinit, d, by rw [h, List.concat_eq_append]⟩
  have hsplit : init = common ++ dinit ∧ name = d := by
    have h := hlast.symm.trans hdst
    rw [← List.append_assoc] at h
    obtain ⟨h1, h2⟩ := List.append_inj' h rfl
    exact ⟨h1, (List.singleton_inj.mp h2)⟩
  obtain ⟨rfl, rfl⟩ := hsplit
  have hname : IsName name := (hdown name (by simp)).1
  have hs : '/' ∉ (stripFirstSuffix name [".tsx", ".ts", ".js"]).toList :=
    not_slash_stripFirstSuffix hname.2.2 _
  have hdinit : ∀ x ∈ dinit, IsPlain x := fun x hx =>
    have hx' := hdown x (List.mem_append_left _ hx)
    isPlain_of_isName hx'.1 hx'.2
  -- the import's names: one `..` for each name of `up`, then the descent
  have himport : names (importPath fromDir target) =
      List.replicate up.length ".." ++
        (dinit ++ names (stripFirstSuffix name [".tsx", ".ts", ".js"])) := by
    rw [importPath_eq_climb_descend hsrc hdst hhead hne hdown]
    split
    · next hup0 =>
      subst hup0
      rw [names_dot_append, names_descend (fun x hx => (hdown x hx).1) _ hexts]
      rfl
    · rw [names_climbs_append, names_descend (fun x hx => (hdown x hx).1) _ hexts]
  have hresolve : components (Path.resolve fromDir (importPath fromDir target)) =
      common ++ up ++ (List.replicate up.length ".." ++
        (dinit ++ names (stripFirstSuffix name [".tsx", ".ts", ".js"]))) := by
    rw [Path.resolve, isAbsolute_importPath, if_neg Bool.false_ne_true,
      components_join _ (isAbsolute_importPath _ _), components_eq (importPath _ _),
      isAbsolute_importPath, if_neg Bool.false_ne_true, List.nil_append, himport, hsrc]
  have hplain : ∀ c ∈ common ++ up, IsPlain c := by
    intro c hc
    rcases List.mem_append.mp hc with hc | hc
    · exact hcommon c hc
    · exact isPlain_of_isName (hup c hc).1 (hup c hc).2
  rw [hresolve, resolveDots, List.foldl_append, List.foldl_append, foldl_climb_plain hplain,
    List.nil_append, foldl_climb_replicate (fun u hu => ⟨ne_root_of_isName (hup u hu).1,
      isPlain_of_isName (hup u hu).1 (hup u hu).2⟩), List.foldl_append,
    foldl_climb_plain hdinit, foldl_climb_names hs, resolveDots, List.foldl_append,
    List.foldl_append, foldl_climb_plain hcommon, foldl_climb_plain hdinit, List.nil_append,
    List.foldl_cons, List.foldl_nil]

/-! ### Both paths cut after their common prefix -/

/-- Past a nonempty common prefix, or in a relative path, the components are names. -/
theorem mem_names_of_split {p : String} {common rest : List String}
    (h : components p = common ++ rest) (hroot : common ≠ [] ∨ isAbsolute p = false) :
    ∀ x ∈ rest, x ∈ names p := by
  intro x hx
  rw [components_eq] at h
  cases habs : isAbsolute p
  · rw [habs, if_neg Bool.false_ne_true, List.nil_append] at h
    rw [h]
    exact List.mem_append_right _ hx
  · rw [habs, if_pos rfl] at h
    rcases hroot with hc | hc
    · obtain ⟨c, cs, rfl⟩ := List.exists_cons_of_ne_nil hc
      rw [List.singleton_append, List.cons_append] at h
      rw [(List.cons.inj h).2]
      exact List.mem_append_right _ hx
    · exact absurd habs (by rw [hc]; decide)

/-- The components of a path without `..` are only ever added by lexical resolution. -/
theorem isPlain_of_mem_components {p : String} (h : ".." ∉ components p) :
    ∀ c ∈ components p, IsPlain c := by
  intro c hc
  have hc' := hc
  rw [components_eq] at hc'
  rcases List.mem_append.mp hc' with hroot | hname
  · split at hroot
    · rw [List.mem_singleton.mp hroot]
      exact ⟨by decide, by decide, by decide⟩
    · simp at hroot
  · obtain ⟨hne, hdot, -⟩ := isName_of_mem_names hname
    exact ⟨hne, hdot, fun hdd => h (hdd ▸ hc)⟩

/-- Two paths of one kind, cut after their longest common prefix, go on with names only; and
when the target is no ancestor of the importing directory, it goes on with at least one. -/
theorem split_after_common {fromDir target : String} {common up down : List String}
    (hkind : isAbsolute fromDir = isAbsolute target)
    (hfrom : ".." ∉ components fromDir) (hto : ".." ∉ components target)
    (hout : ¬ components target <+: components fromDir)
    (hsrc : components fromDir = common ++ up) (hdst : components target = common ++ down)
    (hhead : up.head? ≠ down.head?) :
    down ≠ [] ∧ (∀ u ∈ up, IsName u ∧ u ≠ "..") ∧ (∀ d ∈ down, IsName d ∧ d ≠ "..") := by
  -- the root, when there is one, lies in the common prefix
  have hroot : common ≠ [] ∨ isAbsolute fromDir = false := by
    by_cases hc : common = []
    · subst hc
      cases habs : isAbsolute fromDir
      · exact .inr rfl
      · rw [List.nil_append, components_eq, habs, if_pos rfl] at hsrc
        rw [List.nil_append, components_eq, ← hkind, habs, if_pos rfl] at hdst
        exact absurd (by rw [← hsrc, ← hdst]; rfl) hhead
    · exact .inl hc
  refine ⟨?_, fun u hu => ⟨isName_of_mem_names (mem_names_of_split hsrc hroot u hu), ?_⟩,
    fun d hd => ⟨isName_of_mem_names (mem_names_of_split hdst (hkind ▸ hroot) d hd), ?_⟩⟩
  · rintro rfl
    exact hout (by rw [hdst, hsrc, List.append_nil]; exact List.prefix_append _ _)
  · rintro rfl
    exact hfrom (by rw [hsrc]; exact List.mem_append_right _ hu)
  · rintro rfl
    exact hto (by rw [hdst]; exact List.mem_append_right _ hd)

/-- **Relative imports.** For two paths of one kind without `..` components, where the target
is neither the importing directory nor one of its ancestors: the import starts with `./` or
`../`; cut after the longest common prefix, it is `./` when the importing directory is left
behind nowhere, else `../` once for each component it leaves, then the target's remaining
components joined by `/`, less the first of `.tsx`, `.ts` and `.js` that they end with; and it
resolves lexically against the importing directory to the target less that extension. -/
theorem importPath_climbs_then_descends {fromDir target : String}
    (hkind : isAbsolute fromDir = isAbsolute target)
    (hfrom : ".." ∉ components fromDir) (hto : ".." ∉ components target)
    (hout : ¬ components target <+: components fromDir) :
    ((importPath fromDir target).startsWith "./" = true ∨
      (importPath fromDir target).startsWith "../" = true) ∧
    (∀ common up down, components fromDir = common ++ up →
      components target = common ++ down → up.head? ≠ down.head? →
      importPath fromDir target =
        (if up = [] then "./" else String.join (List.replicate up.length "../")) ++
          stripFirstSuffix ("/".intercalate down) [".tsx", ".ts", ".js"]) ∧
    (∀ init name, components target = init ++ [name] →
      resolveDots (components (Path.resolve fromDir (importPath fromDir target))) =
        resolveDots (init ++ [stripFirstSuffix name [".tsx", ".ts", ".js"]])) := by
  refine ⟨importPath_relative fromDir target, fun common up down hsrc hdst hhead => ?_,
    fun init name hlast => ?_⟩
  · obtain ⟨hne, -, hdown⟩ := split_after_common hkind hfrom hto hout hsrc hdst hhead
    exact importPath_eq_climb_descend hsrc hdst hhead hne hdown
  · obtain ⟨common, up, down, hsrc, hdst, hend⟩ :=
      exists_split_after_common (components fromDir) (components target)
    have hhead : up.head? ≠ down.head? := by
      rcases hend with h | ⟨rfl, rfl⟩
      · exact h
      · exact (hout ⟨[], by rw [hdst, hsrc, List.append_nil]⟩).elim
    obtain ⟨hne, hup, hdown⟩ := split_after_common hkind hfrom hto hout hsrc hdst hhead
    have hcommon : ∀ c ∈ common, IsPlain c := fun c hc =>
      isPlain_of_mem_components hfrom c (by rw [hsrc]; exact List.mem_append_left _ hc)
    exact normalize_resolve_importPath hsrc hdst hhead hne hcommon hup hdown hlast

/-- The bridge in `/p/.nirvana` imports `/p/src/app.module.ts` as `../src/app.module`, which
resolves back to the module less its extension. -/
theorem importPath_from_scratch_dir :
    isAbsolute "/p/.nirvana" = isAbsolute "/p/src/app.module.ts" ∧
    ".." ∉ components "/p/.nirvana" ∧ ".." ∉ components "/p/src/app.module.ts" ∧
    ¬ components "/p/src/app.module.ts" <+: components "/p/.nirvana" ∧
    importPath "/p/.nirvana" "/p/src/app.module.ts" = "../src/app.module" ∧
    resolveDots (components (Path.resolve "/p/.nirvana"
      (importPath "/p/.nirvana" "/p/src/app.module.ts"))) = ["/", "p", "src", "app.module"] :=
  have h1 : isAbsolute "/p/.nirvana" = isAbsolute "/p/src/app.module.ts" := by decide +kernel
  have h2 : ".." ∉ components "/p/.nirvana" := by decide +kernel
  have h3 : ".." ∉ components "/p/src/app.module.ts" := by decide +kernel
  have h4 : ¬ components "/p/src/app.module.ts" <+: components "/p/.nirvana" := by
    decide +kernel
  have h := @importPath_climbs_then_descends "/p/.nirvana" "/p/src/app.module.ts" h1 h2 h3 h4
  ⟨h1, h2, h3, h4,
    (h.2.1 ["/", "p"] [".nirvana"] ["src", "app.module.ts"] (by decide +kernel)
      (by decide +kernel) (by decide)).trans (by decide +kernel),
    (h.2.2 ["/", "p", "src"] "app.module.ts" (by decide +kernel)).trans (by decide +kernel)⟩

end LiveSession.Scaffold

import LiveSession.Path
/-!
# The parts of a path

`Path.parts` cuts a path at every `/`, and `Path.components` keeps its names, the parts that are
neither empty nor `.`, after a `/` component for an absolute path (`components_eq`). This module
says how both behave on paths put together from pieces:

* a separator between two texts separates their parts (`parts_append_slash`), and names joined
  with `/` come back as the parts (`parts_intercalate`);
* `Path.join` puts the components of a relative path after those of its base
  (`components_join`);
* every name is a name in the sense of `IsName`: not empty, not `.`, and free of `/`
  (`isName_of_mem_names`).
-/

namespace LiveSession.Path

/-- A name between separators: not empty, not `.`, and free of `/`. -/
def IsName (s : String) : Prop := s ≠ "" ∧ s ≠ "." ∧ '/' ∉ s.toList

/-- The names of a path: its parts that are neither empty nor `.`. -/
def names (p : String) : List String := (parts p).filter fun s => !s.isEmpty && s != "."

theorem components_eq (p : String) :
    components p = (if isAbsolute p then ["/"] else []) ++ names p := by
  unfold components names
  split <;> rfl

/-! ### Cutting at separators -/

/-- A piece of a list cut at `a` is made of the list's elements other than `a`. -/
theorem mem_and_ne_of_mem_splitOn {a c : Char} :
    ∀ {xs l : List Char}, l ∈ xs.splitOn a → c ∈ l → c ∈ xs ∧ c ≠ a
  | [], l, h, hc => by
    rw [List.splitOn_nil, List.mem_singleton] at h
    subst h
    cases hc
  | x :: xs, l, h, hc => by
    rw [List.splitOn_cons_eq_if_modifyHead] at h
    split at h
    · -- `x` is a separator and starts a new piece
      rcases List.mem_cons.mp h with rfl | h
      · cases hc
      · obtain ⟨hmem, hne⟩ := mem_and_ne_of_mem_splitOn h hc
        exact ⟨List.mem_cons_of_mem x hmem, hne⟩
    · -- `x` joins the first piece of the rest
      next hx =>
      obtain ⟨l₀, ls, hs⟩ := List.exists_cons_of_ne_nil (List.splitOn_ne_nil a xs)
      rw [hs, List.modifyHead_cons] at h
      rcases List.mem_cons.mp h with rfl | h
      · rcases List.mem_cons.mp hc with rfl | hc
        · exact ⟨List.mem_cons_self, fun hca => hx (by simp [hca])⟩
        · obtain ⟨hmem, hne⟩ := mem_and_ne_of_mem_splitOn (hs ▸ List.mem_cons_self) hc
          exact ⟨List.mem_cons_of_mem x hmem, hne⟩
      · obtain ⟨hmem, hne⟩ := mem_and_ne_of_mem_splitOn (hs ▸ List.mem_cons_of_mem l₀ h) hc
        exact ⟨List.mem_cons_of_mem x hmem, hne⟩

theorem not_slash_of_mem_parts {p s : String} (h : s ∈ parts p) : '/' ∉ s.toList := by
  obtain ⟨l, hl, rfl⟩ := List.mem_map.mp h
  rw [String.toList_ofList]
  exact fun hslash => (mem_and_ne_of_mem_splitOn hl hslash).2 rfl

theorem isName_of_mem_names {p s : String} (h : s ∈ names p) : IsName s := by
  obtain ⟨hs, hkeep⟩ := List.mem_filter.mp h
  simp only [Bool.and_eq_true, Bool.not_eq_true', String.isEmpty_eq_false_iff,
    bne_iff_ne] at hkeep
  exact ⟨hkeep.1, hkeep.2, not_slash_of_mem_parts hs⟩

/-- A separator between two texts separates their parts. -/
theorem parts_append_slash (a b : String) : parts (a ++ "/" ++ b) = parts a ++ parts b := by
  have h : (a ++ "/" ++ b).toList = a.toList ++ '/' :: b.toList := by simp
  simp only [parts, h, List.splitOn_append_cons_self, List.map_append]

/-- A text free of `/` is its only part. -/
theorem parts_of_not_slash {s : String} (h : '/' ∉ s.toList) : parts s = [s] := by
  simp only [parts, List.splitOn_eq_singleton h, List.map_singleton, String.ofList_toList]

/-- Names joined with `/` come back as the parts. -/
theorem parts_intercalate {xs : List String} (hne : xs ≠ [])
    (h : ∀ x ∈ xs, '/' ∉ x.toList) : parts ("/".intercalate xs) = xs := by
  have hsep : "/".toList = ['/'] := rfl
  rw [parts, String.toList_intercalate, hsep,
    List.splitOn_intercalate '/' (by simpa using h) (by simpa using hne), List.map_map]
  conv => rhs; rw [← List.map_id xs]
  exact List.map_congr_left fun x _ => String.ofList_toList

/-! ### Absolute paths -/

theorem isAbsolute_iff {p : String} : isAbsolute p = true ↔ p.toList.head? = some '/' := by
  rw [isAbsolute, String.startsWith_string_iff]
  cases hp : p.toList with
  | nil => simp
  | cons c cs => simp [eq_comm]

/-- An absolute path's first part is the empty text before its leading `/`. -/
theorem parts_of_isAbsolute {p : String} (h : isAbsolute p = true) :
    parts p = "" :: (parts p).drop 1 := by
  obtain ⟨cs, hcs⟩ : ∃ cs, p.toList = '/' :: cs := by
    have hhead := isAbsolute_iff.mp h
    cases hp : p.toList with
    | nil => simp [hp] at hhead
    | cons c cs =>
      rw [hp, List.head?_cons, Option.some.injEq] at hhead
      exact ⟨cs, by rw [hhead]⟩
  simp [parts, hcs, List.splitOn_cons_eq_if_modifyHead]

/-- A path whose first part is not empty is relative. -/
theorem isAbsolute_eq_false_of_parts {p x : String} {xs : List String} (h : parts p = x :: xs)
    (hx : x ≠ "") : isAbsolute p = false := by
  cases habs : isAbsolute p with
  | false => rfl
  | true =>
    have hfirst := parts_of_isAbsolute habs
    rw [h, List.cons.injEq] at hfirst
    exact absurd hfirst.1 hx

/-- A path keeps its kind when text is added after a nonempty start. -/
theorem isAbsolute_append {a : String} (b : String) (ha : a ≠ "") :
    isAbsolute (a ++ b) = isAbsolute a := by
  have hne : a.toList ≠ [] := fun h => ha (String.toList_inj.mp (by simpa using h))
  obtain ⟨c, cs, hc⟩ := List.exists_cons_of_ne_nil hne
  have hab : (a ++ b).toList = c :: (cs ++ b.toList) := by rw [String.toList_append, hc]; rfl
  apply Bool.eq_iff_iff.mpr
  rw [isAbsolute_iff, isAbsolute_iff, hab, hc]
  rfl

/-- A text free of `/` is a relative path. -/
theorem isAbsolute_of_not_slash {s : String} (h : '/' ∉ s.toList) : isAbsolute s = false := by
  rw [Bool.eq_false_iff]
  intro habs
  have hhead := isAbsolute_iff.mp habs
  exact h (List.mem_of_mem_head? hhead)

/-- A text ending with a separator is a text followed by one. -/
theorem eq_append_slash {s : String} (h : s.endsWith "/" = true) : ∃ r : String, s = r ++ "/" := by
  have hsuf : ['/'] <:+ s.toList := by
    rw [String.endsWith_eq_endsWith_toSlice, String.Slice.endsWith_string_iff] at h
    simpa using h
  obtain ⟨r, hr⟩ := hsuf
  exact ⟨String.ofList r, String.toList_inj.mp (by simp [hr])⟩

theorem append_slash_ne_empty (s : String) : s ++ "/" ≠ "" :=
  fun h => by simpa using congrArg String.length h

/-- **How a relative path is joined to a base**: alone after an empty base, right after a base
that ends in a separator, and after a new separator otherwise. -/
theorem join_cases (base : String) {p : String} (hp : isAbsolute p = false) :
    (base = "" ∧ join base p = p) ∨
    (∃ b, base = b ++ "/" ∧ join base p = b ++ "/" ++ p) ∨
    (base ≠ "" ∧ base.endsWith "/" = false ∧ join base p = base ++ "/" ++ p) := by
  unfold join
  rw [if_neg (by rw [hp]; exact Bool.false_ne_true)]
  by_cases hbase : base = ""
  · subst hbase
    exact .inl ⟨rfl, by simp⟩
  by_cases hend : base.endsWith "/" = true
  · obtain ⟨b, rfl⟩ := eq_append_slash hend
    exact .inr (.inl ⟨b, rfl, by simp [hend]⟩)
  · have hend' : base.endsWith "/" = false := by simpa using hend
    exact .inr (.inr ⟨hbase, hend', by simp [hbase, hend']⟩)

/-- Joining a relative path keeps the kind of the base. -/
theorem isAbsolute_join (base : String) {p : String} (hp : isAbsolute p = false) :
    isAbsolute (join base p) = isAbsolute base := by
  rcases join_cases base hp with ⟨rfl, hj⟩ | ⟨b, rfl, hj⟩ | ⟨hbase, -, hj⟩
  · have hempty : isAbsolute "" = false := by decide
    rw [hj, hp, hempty]
  · rw [hj, isAbsolute_append p (append_slash_ne_empty b)]
  · rw [hj, isAbsolute_append p (append_slash_ne_empty base), isAbsolute_append "/" hbase]

/-! ### Names and components of joined paths -/

theorem names_append_slash (a b : String) : names (a ++ "/" ++ b) = names a ++ names b := by
  simp only [names, parts_append_slash, List.filter_append]

theorem names_empty : names "" = [] := rfl

/-- `Path.join` puts the components of a relative path after those of its base. -/
theorem components_join (a : String) {b : String} (hb : isAbsolute b = false) :
    components (join a b) = components a ++ components b := by
  rw [components_eq b, hb, if_neg Bool.false_ne_true, List.nil_append]
  rcases join_cases a hb with ⟨rfl, hj⟩ | ⟨a', rfl, hj⟩ | ⟨ha, -, hj⟩
  · have hempty : isAbsolute "" = false := by decide
    simp [hj, components_eq, names_empty, hempty, hb]
  · -- the base ends in `/`: its names are those of the text before the separator
    have hnames : names (a' ++ "/") = names a' := by
      have hempty : a' ++ "/" = a' ++ "/" ++ "" := String.append_empty.symm
      rw [hempty, names_append_slash, names_empty, List.append_nil]
    rw [hj, components_eq, components_eq (a' ++ "/"), names_append_slash, hnames,
      isAbsolute_append b (append_slash_ne_empty a'), List.append_assoc]
  · rw [hj, components_eq, components_eq a, names_append_slash,
      isAbsolute_append b (append_slash_ne_empty a), isAbsolute_append "/" ha, List.append_assoc]

end LiveSession.Path

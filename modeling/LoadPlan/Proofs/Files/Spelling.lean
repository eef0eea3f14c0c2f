import LoadPlan.Proofs.Files.Place

/-!
# How paths are spelled

A path that was read from a text has one of three roots, and its names are neither empty nor single
dots and hold no slash (`Tidy`). Parents of such paths, and such paths below each other, are of the
same kind, and their texts are read as the paths themselves (`ofString_toString`).
-/

namespace LoadPlan.Path

/-! ## Pieces between slashes -/

/-- The pieces of a text between slashes that are names. -/
def pieces (cs : List Char) : List (List Char) :=
  (cs.splitOn '/').filter isName

@[simp]
theorem ofString_names (s : String) : (ofString s).names = (pieces s.toList).map String.ofList :=
  rfl

@[simp]
theorem pieces_slash (cs : List Char) : pieces ('/' :: cs) = pieces cs := by
  rw [pieces, List.splitOn_cons_eq_if_modifyHead, if_pos (beq_self_eq_true _)]
  rfl

theorem pieces_of_slashes {slashes : List Char} (h : ∀ c ∈ slashes, c = '/') (cs : List Char) :
    pieces (slashes ++ cs) = pieces cs := by
  induction slashes with
  | nil => rfl
  | cons c slashes ih =>
    obtain ⟨rfl, hslashes⟩ := List.forall_mem_cons.mp h
    rw [List.cons_append, pieces_slash, ih hslashes]

theorem not_mem_of_mem_splitOn {cs piece : List Char} (h : piece ∈ cs.splitOn '/') :
    '/' ∉ piece := by
  induction cs generalizing piece with
  | nil =>
    obtain rfl := List.mem_singleton.mp h
    exact List.not_mem_nil
  | cons c cs ih =>
    rw [List.splitOn_cons_eq_if_modifyHead] at h
    split at h
    · obtain rfl | h := List.mem_cons.mp h
      · exact List.not_mem_nil
      · exact ih h
    · rename_i hc
      obtain ⟨first, rest, hsplit⟩ := List.exists_cons_of_ne_nil (List.splitOn_ne_nil '/' cs)
      rw [hsplit, List.modifyHead_cons] at h
      obtain rfl | h := List.mem_cons.mp h
      · have hfirst := ih (hsplit ▸ List.mem_cons_self)
        simp only [List.mem_cons, not_or]
        exact ⟨fun hslash => hc (by simp [← hslash]), hfirst⟩
      · exact ih (hsplit ▸ List.mem_cons_of_mem _ h)

/-- A text that is one name of a path. -/
structure IsPiece (name : String) : Prop where
  isName : isName name.toList = true
  noSlash : '/' ∉ name.toList

theorem isPiece_of_mem_ofString {s name : String} (h : name ∈ (ofString s).names) :
    IsPiece name := by
  rw [ofString_names] at h
  obtain ⟨piece, hpiece, rfl⟩ := List.mem_map.mp h
  obtain ⟨hmem, hname⟩ := List.mem_filter.mp hpiece
  exact ⟨by rwa [String.toList_ofList],
    by rw [String.toList_ofList]; exact not_mem_of_mem_splitOn hmem⟩

/-- Names with slashes between them are the names that are read. -/
theorem pieces_intercalate {names : List String} (h : ∀ name ∈ names, IsPiece name) :
    pieces ("/".intercalate names).toList = names.map String.toList := by
  rw [String.toList_intercalate, show "/".toList = ['/'] from rfl, pieces]
  by_cases hempty : names = []
  · subst hempty
    rfl
  rw [List.splitOn_intercalate, List.filter_eq_self]
  · intro piece hpiece
    obtain ⟨name, hname, rfl⟩ := List.mem_map.mp hpiece
    exact (h name hname).isName
  · intro piece hpiece
    obtain ⟨name, hname, rfl⟩ := List.mem_map.mp hpiece
    exact (h name hname).noSlash
  · simpa using hempty

theorem IsPiece.ne_empty {name : String} (h : IsPiece name) : name ≠ "" := by
  rintro rfl
  cases h.isName

theorem IsPiece.head?_ne {name : String} (h : IsPiece name) : name.toList.head? ≠ some '/' :=
  fun hhead => h.noSlash (List.mem_of_mem_head? hhead)

theorem head?_intercalate {names : List String} (h : ∀ name ∈ names, IsPiece name) :
    ("/".intercalate names).toList.head? ≠ some '/' := by
  cases names with
  | nil => simp
  | cons name names =>
    have hname := h name List.mem_cons_self
    have hne : name.toList ≠ [] := by simpa using hname.ne_empty
    have hbegins : ∃ rest, "/".intercalate (name :: names) = name ++ rest := by
      by_cases hempty : names = []
      · exact ⟨"", by simp [hempty]⟩
      · exact ⟨"/" ++ "/".intercalate names, by
          rw [String.intercalate_cons_of_ne_nil hempty, String.append_assoc]⟩
    obtain ⟨rest, hrest⟩ := hbegins
    rw [hrest, String.toList_append, List.head?_append_of_ne_nil _ hne]
    exact hname.head?_ne

/-! ## Paths that are read -/

/-- A path as it is read from a text. -/
structure Tidy (p : Path) : Prop where
  root : p.root = "" ∨ p.root = "/" ∨ p.root = "//"
  names : ∀ name ∈ p.names, IsPiece name

theorem tidy_ofString (s : String) : (ofString s).Tidy where
  root := by
    unfold ofString
    dsimp only
    split
    · exact .inl rfl
    · split
      · exact .inr (.inr rfl)
      · exact .inr (.inl rfl)
  names _ := isPiece_of_mem_ofString

theorem Tidy.parent {p : Path} (h : p.Tidy) : p.parent.Tidy :=
  ⟨h.root, fun name hname => h.names name (List.dropLast_subset _ hname)⟩

theorem Tidy.join {p q : Path} (hp : p.Tidy) (hq : q.Tidy) : (p.join q).Tidy := by
  unfold Path.join
  split
  · refine ⟨hp.root, fun name hname => ?_⟩
    obtain hname | hname := List.mem_append.mp hname
    · exact hp.names name hname
    · exact hq.names name hname
  · exact hq

/-- The root of a text is made of the slashes it begins with. -/
theorem takeWhile_body {root : String} (hroot : ∀ c ∈ root.toList, c = '/') {cs : List Char}
    (h : cs.head? ≠ some '/') : (root.toList ++ cs).takeWhile (· == '/') = root.toList := by
  rw [List.takeWhile_append_of_pos fun c hc => by simp [hroot c hc]]
  cases cs with
  | nil => simp
  | cons c cs =>
    have hc : c ≠ '/' := by simpa using h
    simp [hc]

/-- The text of a tidy path is read as the path. -/
theorem ofString_toString {p : Path} (h : p.Tidy) : ofString (ToString.toString p) = p := by
  have hroot : ∀ c ∈ p.root.toList, c = '/' := by
    obtain hroot | hroot | hroot := h.root <;> simp [hroot]
  have hnames : (ofString p.body).names = p.names := by
    rw [ofString_names, body, String.toList_append, pieces_of_slashes hroot,
      pieces_intercalate h.names]
    simp
  have hslashes : (p.body.toList.takeWhile (· == '/')).length = p.root.toList.length := by
    rw [body, String.toList_append, takeWhile_body hroot (head?_intercalate h.names)]
  have hread : ofString p.body = p := by
    unfold ofString at hnames ⊢
    dsimp only at hnames ⊢
    rw [hnames, hslashes]
    obtain hroot | hroot | hroot := h.root <;> rw [hroot] <;> cases p <;> simp_all
  rw [toString_eq]
  split
  · rename_i hempty
    rw [String.isEmpty_iff.mp hempty] at hread
    rw [← hread]
    rfl
  · exact hread

/-- A name by itself is a path with this name. -/
theorem ofString_of_isPiece {name : String} (h : IsPiece name) : ofString name = ⟨"", [name]⟩ := by
  have htidy : Tidy ⟨"", [name]⟩ := ⟨.inl rfl, by simpa using h⟩
  have htext : ToString.toString (⟨"", [name]⟩ : Path) = name := by
    have hbody : body ⟨"", [name]⟩ = name := by simp [body]
    rw [toString_eq, hbody, if_neg (by simpa using h.ne_empty)]
  rw [← ofString_toString htidy, htext]

/-! ## Suffixes -/

theorem splitSuffix_append (name : List Char) :
    (splitSuffix name).1 ++ (splitSuffix name).2 = name := by
  have hsplit := List.takeWhile_append_dropWhile (p := (· != '.')) (l := name.reverse)
  unfold splitSuffix
  dsimp only
  split
  · rename_i dot c rest hdrop
    split
    · exact List.append_nil name
    · rw [hdrop] at hsplit
      rw [← List.reverse_inj]
      simpa using hsplit
  · exact List.append_nil name

/-- A name is its stem and its suffix. -/
@[simp]
theorem stem_append_suffix (p : Path) : p.stem ++ p.suffix = p.name := by
  rw [stem, suffix, ← String.ofList_append, splitSuffix_append, String.ofList_toList]

end LoadPlan.Path

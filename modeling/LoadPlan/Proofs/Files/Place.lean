import LoadPlan.Files.Tree
import Mathlib.Data.List.Basic
import Mathlib.Data.List.Induction

/-!
# Places

The names of a path are followed from its root. The places from which they lead on are the way of
the path, and the place that the last of them leads to is its goal; both are found from the path
alone. In a tree of files a path leads to its goal exactly if all places on its way are directories
(`locate_eq_ok`).
-/

namespace LoadPlan

namespace Path

/-- The place that a name leads to from another. -/
def enter (place : Path) (name : String) : Path :=
  if name = ".." then place.parent else { place with names := place.names ++ [name] }

/-- The places from which names lead on, the first of them from `place`. -/
def wayFrom (place : Path) : List String → List Path
  | [] => []
  | name :: rest => place :: wayFrom (place.enter name) rest

/-- The place where a path starts. -/
def start (p : Path) : Path :=
  ⟨p.root, []⟩

/-- The places from which the names of a path lead on. -/
def way (p : Path) : List Path :=
  wayFrom p.start p.names

/-- The place that a path leads to. -/
def goal (p : Path) : Path :=
  p.names.foldl enter p.start

theorem wayFrom_concat (place : Path) (names : List String) (name : String) :
    wayFrom place (names ++ [name]) = wayFrom place names ++ [names.foldl enter place] := by
  induction names generalizing place with
  | nil => rfl
  | cons first names ih => simp [wayFrom, ih]

/-- A path with names is one name longer than its parent. -/
theorem exists_last {p : Path} (h : p.names ≠ []) :
    ∃ name, p.names = p.parent.names ++ [name] :=
  ⟨p.names.getLast h, (List.dropLast_append_getLast h).symm⟩

theorem name_mem {p : Path} (h : p.names ≠ []) : p.name ∈ p.names := by
  obtain ⟨name, hname⟩ := exists_last h
  simp [Path.name, hname]

@[simp]
theorem length_parent (p : Path) : p.parent.names.length = p.names.length - 1 :=
  List.length_dropLast

theorem parent_eq_self {p : Path} : p.parent = p ↔ p.names = [] := by
  constructor
  · intro h
    have hlength := p.length_parent
    rw [h] at hlength
    exact List.length_eq_zero_iff.mp (by omega)
  · intro h
    unfold parent
    rw [h]
    exact congrArg (mk p.root) h.symm

section Last

variable {p : Path} {name : String} (h : p.names = p.parent.names ++ [name])

include h

theorem way_of_last : p.way = p.parent.way ++ [p.parent.goal] := by
  rw [way, h, wayFrom_concat]
  rfl

theorem goal_of_last : p.goal = p.parent.goal.enter name := by
  rw [goal, h, List.foldl_concat]
  rfl

end Last

/-- The goal of the parent comes last on the way of a path. -/
theorem way_of_parent {p : Path} (h : p.names ≠ []) : p.way = p.parent.way ++ [p.parent.goal] := by
  obtain ⟨name, hname⟩ := exists_last h
  exact way_of_last hname

theorem way_of_names_nil {p : Path} (h : p.names = []) : p.way = [] := by
  unfold way
  rw [h]
  rfl

/-! ## Ways back -/

/-- All places above one of the places in a list are in the list. -/
def HoldsAbove (places : List Path) (q : Path) : Prop :=
  ∀ names, names <+: q.names → names ≠ q.names → (⟨q.root, names⟩ : Path) ∈ places

theorem HoldsAbove.enter {places : List Path} {q : Path} (h : HoldsAbove places q)
    (name : String) : HoldsAbove (places ++ [q]) (q.enter name) := by
  intro names hbegins hne
  unfold Path.enter at hbegins hne ⊢
  split at hbegins
  · rename_i hback
    rw [if_pos hback] at hne ⊢
    have hlonger : names <+: q.names := hbegins.trans (List.dropLast_prefix q.names)
    refine List.mem_append_left _ (h names hlonger ?_)
    rintro rfl
    exact hne (hbegins.eq_of_length_le (List.dropLast_prefix q.names).length_le)
  · rename_i hforth
    rw [if_neg hforth] at hne ⊢
    rcases List.prefix_concat_iff.mp hbegins with hsame | hbegins
    · exact absurd hsame hne
    · by_cases hq : names = q.names
      · exact List.mem_append_right _ (by simp [hq])
      · exact List.mem_append_left _ (h names hbegins hq)

theorem holdsAbove_foldl (place : Path) (names : List String) (hplace : place.names = []) :
    HoldsAbove (wayFrom place names) (names.foldl Path.enter place) := by
  induction names using List.reverseRecOn with
  | nil =>
    intro names hbegins hne
    rw [List.foldl_nil, hplace, List.prefix_nil] at hbegins
    exact absurd (hbegins.trans hplace.symm) hne
  | append_singleton names name ih =>
    rw [wayFrom_concat, List.foldl_concat]
    exact ih.enter name

/-- Two dots lead back to a place on the way. -/
theorem goal_mem_way_of_back {p : Path} (h : p.names = p.parent.names ++ [".."]) :
    p.goal ∈ p.way := by
  have habove := holdsAbove_foldl p.parent.start p.parent.names rfl
  rw [goal_of_last h, way_of_last h, enter, if_pos rfl]
  by_cases hempty : p.parent.goal.names = []
  · simp [parent_eq_self.mpr hempty]
  · refine List.mem_append_left _ (habove _ (List.dropLast_prefix _) ?_)
    intro hsame
    have hlength : p.parent.goal.names.length - 1 = p.parent.goal.names.length := by
      rw [← length_parent]
      exact congrArg List.length hsame
    have hpos := List.length_pos_iff.mpr hempty
    omega

/-- A path that does not lead back goes on from the goal of its parent by its last name. -/
theorem goal_of_apart {p : Path} (hnames : p.names ≠ []) (h : p.goal ∉ p.way) :
    p.goal = ⟨p.parent.goal.root, p.parent.goal.names ++ [p.name]⟩ := by
  obtain ⟨name, hname⟩ := exists_last hnames
  have hforth : name ≠ ".." := by
    rintro rfl
    exact h (goal_mem_way_of_back hname)
  have hlast : p.name = name := by simp [Path.name, hname]
  rw [goal_of_last hname, enter, if_neg hforth, hlast]

theorem names_enter (place : Path) (name : String) :
    (place.enter name).names ⊆ place.names ++ [name] := by
  unfold enter
  split
  · exact List.Subset.trans (List.dropLast_subset _) (List.subset_append_left _ _)
  · exact List.Subset.refl _

/-- The names of a goal are names of the path. -/
theorem names_goal (p : Path) : p.goal.names ⊆ p.names := by
  suffices h : ∀ (names : List String) (place : Path),
      (names.foldl enter place).names ⊆ place.names ++ names from h p.names p.start
  intro names
  induction names with
  | nil => simp
  | cons name names ih =>
    intro place
    refine List.Subset.trans (ih (place.enter name)) ?_
    rw [List.append_cons]
    exact List.append_subset.mpr
      ⟨List.Subset.trans (names_enter place name) (List.subset_append_left _ _),
        List.subset_append_right _ _⟩

/-! ## Texts of paths -/

/-- The root and the names of a path in a text, which may be empty. -/
def body (p : Path) : String :=
  p.root ++ String.intercalate "/" p.names

theorem toString_eq (p : Path) : ToString.toString p = if p.body.isEmpty then "." else p.body :=
  rfl

/-- The text of a path goes on where the text of its parent ends. -/
theorem exists_body_eq (p : Path) : ∃ rest, p.body = p.parent.body ++ rest := by
  by_cases hnone : p.names = []
  · exact ⟨"", by rw [parent_eq_self.mpr hnone, String.append_empty]⟩
  · obtain ⟨name, hnames⟩ := exists_last hnone
    have hroot : p.parent.root = p.root := rfl
    by_cases hempty : p.parent.names = []
    · refine ⟨name, ?_⟩
      rw [body, body, hnames, hempty, hroot]
      simp
    · refine ⟨"/" ++ name, ?_⟩
      rw [body, body, hnames, hroot, String.intercalate_append_of_ne_nil hempty (by simp)]
      simp [String.append_assoc]

open LoadPlan.Files (maxName maxPath)

/-- A path whose text and names a file system takes. -/
structure Admissible (p : Path) : Prop where
  noNull : '\x00' ∉ (ToString.toString p).toList
  short : (ToString.toString p).utf8ByteSize ≤ maxPath
  shortNames : ∀ name ∈ p.names, name.utf8ByteSize ≤ maxName

instance (p : Path) : Decidable p.Admissible :=
  decidable_of_iff
    ('\x00' ∉ (ToString.toString p).toList ∧ (ToString.toString p).utf8ByteSize ≤ maxPath ∧
      ∀ name ∈ p.names, name.utf8ByteSize ≤ maxName)
    ⟨fun h => ⟨h.1, h.2.1, h.2.2⟩, fun h => ⟨h.noNull, h.short, h.shortNames⟩⟩

theorem Admissible.parent {p : Path} (h : p.Admissible) : p.parent.Admissible := by
  have hnames : ∀ name ∈ p.parent.names, name.utf8ByteSize ≤ maxName :=
    fun name hname => h.shortNames name ((List.dropLast_sublist p.names).subset hname)
  obtain ⟨rest, hbody⟩ := p.exists_body_eq
  by_cases hempty : p.parent.body = ""
  · have htext : ToString.toString p.parent = "." := by simp [toString_eq, hempty]
    exact ⟨by rw [htext]; decide, by rw [htext]; decide, hnames⟩
  · have htext : ToString.toString p.parent = p.parent.body := by simp [toString_eq, hempty]
    have hwhole : ToString.toString p = p.parent.body ++ rest := by
      simp [toString_eq, hbody, hempty]
    have hnull := h.noNull
    have hshort := h.short
    rw [hwhole, String.toList_append, List.mem_append, not_or] at hnull
    rw [hwhole, String.utf8ByteSize_append] at hshort
    exact ⟨htext ▸ hnull.1, htext ▸ by omega, hnames⟩

end Path

namespace Files.Tree

open LoadPlan.Path (enter goal start wayFrom)

/-! ## Following names -/

/-- The content of the file at a place. -/
def file? (t : Tree) (place : Path) : Option (List UInt8) :=
  match t.at? place with
  | some (.file bytes) => some bytes
  | _ => none

section Follow

variable {t : Tree} {place q : Path} {names : List String}

theorem follow_of_directory {name : String} (h : t.at? place = some .directory)
    (hshort : name.utf8ByteSize ≤ maxName) (rest : List String) :
    t.follow place (name :: rest) = t.follow (place.enter name) rest := by
  rw [follow, h]
  dsimp only
  rw [if_neg (by omega), enter]
  split <;> rfl

/-- Names lead to a place through directories. -/
theorem follow_eq_ok : t.follow place names = .ok q ↔
    names.foldl enter place = q ∧ (∀ r ∈ wayFrom place names, t.at? r = some .directory) ∧
      ∀ name ∈ names, name.utf8ByteSize ≤ maxName := by
  induction names generalizing place with
  | nil => simp [follow, wayFrom]
  | cons name names ih =>
    rw [wayFrom, List.foldl_cons, List.forall_mem_cons, List.forall_mem_cons]
    by_cases hdirectory : t.at? place = some .directory
    · by_cases hshort : name.utf8ByteSize ≤ maxName
      · rw [follow_of_directory hdirectory hshort, ih]
        simp [hdirectory, hshort]
      · rw [follow, hdirectory]
        simp [hshort, show maxName < name.utf8ByteSize by omega]
    · rw [follow]
      split
      · simp [hdirectory]
      · simp [hdirectory]
      · rename_i hfound
        exact absurd hfound hdirectory

/-- Names that do not lead through a file fail only where nothing is. -/
theorem follow_eq_missing {cause : Cause} (hfree : ∀ r ∈ wayFrom place names, t.file? r = none)
    (hshort : ∀ name ∈ names, name.utf8ByteSize ≤ maxName)
    (h : t.follow place names = .error cause) : cause = .missing := by
  induction names generalizing place with
  | nil => cases h
  | cons name names ih =>
    obtain ⟨hplace, hrest⟩ := List.forall_mem_cons.mp hfree
    obtain ⟨hname, hnames⟩ := List.forall_mem_cons.mp hshort
    cases hfound : t.at? place with
    | none =>
      rw [follow, hfound] at h
      exact (Except.error.inj h).symm
    | some item =>
      cases item with
      | file bytes => simp [file?, hfound] at hplace
      | directory =>
        rw [follow_of_directory hfound hname] at h
        exact ih hrest hnames h

end Follow

section Locate

variable {t : Tree} {p q : Path}

theorem locate_of_admissible (h : p.Admissible) : t.locate p = t.follow p.start p.names := by
  have hnull : ¬ (toString p).toList.contains '\x00' = true := by simpa using h.noNull
  have hshort : ¬ maxPath < (toString p).utf8ByteSize := by have := h.short; omega
  rw [locate, if_neg hnull, if_neg hshort]
  rfl

/-- A path leads to its goal if there are directories on its way. -/
theorem locate_eq_ok : t.locate p = .ok q ↔
    p.Admissible ∧ p.goal = q ∧ ∀ r ∈ p.way, t.at? r = some .directory := by
  constructor
  · intro h
    have hadmissible : p.Admissible := by
      unfold locate at h
      split at h
      · cases h
      · rename_i hnull
        split at h
        · cases h
        · rename_i hshort
          have hnone : '\x00' ∉ (toString p).toList := fun hnone => hnull (by simpa using hnone)
          have hlength : (toString p).utf8ByteSize ≤ maxPath := Nat.not_lt.mp hshort
          exact ⟨hnone, hlength, (follow_eq_ok.mp h).2.2⟩
    rw [locate_of_admissible hadmissible] at h
    obtain ⟨hgoal, hway, -⟩ := follow_eq_ok.mp h
    exact ⟨hadmissible, hgoal, hway⟩
  · rintro ⟨hadmissible, hgoal, hway⟩
    rw [locate_of_admissible hadmissible]
    exact follow_eq_ok.mpr ⟨hgoal, hway, hadmissible.shortNames⟩

/-- A path that is read leads to a file, and not back. -/
theorem file_of_read {bytes : List UInt8} (h : t.read p = .ok bytes) :
    t.file? p.goal = some bytes ∧ p.names ≠ [] ∧ p.goal ∉ p.way := by
  unfold read find at h
  cases hlocate : t.locate p with
  | error cause => simp [hlocate] at h
  | ok place =>
    obtain ⟨-, rfl, hway⟩ := locate_eq_ok.mp hlocate
    rw [hlocate] at h
    dsimp only at h
    cases hitem : t.at? p.goal with
    | none => simp [hitem] at h
    | some item =>
      rw [hitem] at h
      cases item with
      | directory => cases h
      | file content =>
        obtain rfl := Except.ok.inj h
        refine ⟨by rw [file?, hitem], fun hnil => ?_, fun hmem => ?_⟩
        · have hroot : t.at? p.goal = some .directory := by
            simp [at?, goal, start, hnil]
          rw [hroot] at hitem
          cases hitem
        · rw [hway _ hmem] at hitem
          cases hitem

theorem locate_eq_missing {cause : Cause} (hp : p.Admissible)
    (hfree : ∀ r ∈ p.way, t.file? r = none) (h : t.locate p = .error cause) :
    cause = .missing := by
  rw [locate_of_admissible hp] at h
  exact follow_eq_missing hfree hp.shortNames h

end Locate

end Files.Tree

end LoadPlan

import LoadPlan.Proofs.Files.Place
import Mathlib.Data.List.Basic

/-!
# Writing files

Making directories only adds directories, and those only where nothing was (`Grown`). So a write
changes one file at most, the one at the goal of its path (`write_of_ok`), and none if it fails
(`write_of_problem`). It fails only if the path cannot be written: if it is no path that a file
system takes, if it leads through a file, or if a directory is or has to be at its goal
(`exists_write_iff`).
-/

namespace LoadPlan.Files.Tree

/-! ## Items in their places -/

theorem at?_of_names_nil {t : Tree} {q : Path} (h : q.names = []) : t.at? q = some .directory := by
  unfold at?
  rw [h]
  rfl

theorem file?_eq_none {t : Tree} {q : Path} :
    t.file? q = none ↔ t.at? q = none ∨ t.at? q = some .directory := by
  unfold file?
  cases t.at? q with
  | none => simp
  | some item => cases item <;> simp

section Put

variable {place q : Path} (items : List (Path × Item))

theorem find?_filter_same :
    (items.filter fun e => e.1 != place).find? (fun e => e.1 == place) = none := by
  rw [List.find?_eq_none]
  intro e he
  have hne := (List.mem_filter.mp he).2
  simpa using hne

theorem find?_filter_other (h : q ≠ place) :
    (items.filter fun e => e.1 != place).find? (fun e => e.1 == q) =
      items.find? fun e => e.1 == q := by
  rw [List.find?_filter]
  congr 1
  funext e
  by_cases he : e.1 = q
  · simp [he, h]
  · simp [he]

end Put

theorem at?_put {t : Tree} {place : Path} (h : place.names ≠ []) (item : Item) (q : Path) :
    (t.put place item).at? q = if q = place then some item else t.at? q := by
  by_cases hroot : q.names = []
  · have hne : q ≠ place := fun hq => h (hq ▸ hroot)
    rw [if_neg hne, at?_of_names_nil hroot, at?_of_names_nil hroot]
  · have hnames : ¬ q.names.isEmpty = true := by simpa using hroot
    unfold at? put
    rw [if_neg hnames, if_neg hnames, List.find?_append]
    by_cases hq : q = place
    · rw [if_pos hq, hq, find?_filter_same]
      simp
    · have hlast : [(place, item)].find? (fun e => e.1 == q) = none := by simp [Ne.symm hq]
      rw [if_neg hq, find?_filter_other _ hq, hlast, Option.or_none]

theorem names_ne_nil_of_free {t : Tree} {q : Path} (h : t.at? q = none) : q.names ≠ [] := by
  intro hnil
  rw [at?_of_names_nil hnil] at h
  cases h

/-! ## Adding directories -/

/-- A later tree has the items of an earlier one, and directories at some places where nothing
was. -/
def Grown (before after : Tree) (places : List Path) : Prop :=
  ∀ q, after.at? q = before.at? q ∨
    q ∈ places ∧ before.at? q = none ∧ after.at? q = some .directory

namespace Grown

variable {t t' t'' : Tree} {places more : List Path} {q : Path}

theorem refl (t : Tree) (places : List Path) : Grown t t places :=
  fun _ => .inl rfl

theorem trans (h : Grown t t' places) (h' : Grown t' t'' places) : Grown t t'' places := by
  intro q
  rcases h q with hsame | ⟨hq, hnone, hmade⟩
  · rcases h' q with hsame' | ⟨hq, hnone, hmade⟩
    · exact .inl (hsame'.trans hsame)
    · exact .inr ⟨hq, hsame.symm.trans hnone, hmade⟩
  · rcases h' q with hsame' | ⟨-, hnone', -⟩
    · exact .inr ⟨hq, hnone, hsame'.trans hmade⟩
    · rw [hmade] at hnone'
      cases hnone'

theorem mono (h : Grown t t' places) (hmore : places ⊆ more) : Grown t t' more := by
  intro q
  rcases h q with hsame | ⟨hq, hmade⟩
  · exact .inl hsame
  · exact .inr ⟨hmore hq, hmade⟩

/-- Files are the same as before. -/
theorem file?_eq (h : Grown t t' places) (q : Path) : t'.file? q = t.file? q := by
  unfold file?
  rcases h q with hsame | ⟨-, hnone, hmade⟩
  · rw [hsame]
  · rw [hnone, hmade]

theorem directory (h : Grown t t' places) (hq : t.at? q = some .directory) :
    t'.at? q = some .directory := by
  rcases h q with hsame | ⟨-, -, hmade⟩
  · exact hsame.trans hq
  · exact hmade

theorem at?_eq (h : Grown t t' places) (hq : q ∉ places) : t'.at? q = t.at? q := by
  rcases h q with hsame | ⟨hmem, -⟩
  · exact hsame
  · exact absurd hmem hq

end Grown

theorem grown_put {t : Tree} {q : Path} (h : t.at? q = none) :
    Grown t (t.put q .directory) [q] := by
  intro r
  rw [at?_put (names_ne_nil_of_free h)]
  by_cases hr : r = q
  · rw [if_pos hr]
    exact .inr ⟨List.mem_singleton.mpr hr, hr ▸ h, rfl⟩
  · rw [if_neg hr]
    exact .inl rfl

section Make

variable {t t' : Tree} {p : Path}

theorem addDirectory_grown (h : t.addDirectory p = .ok t') : Grown t t' [p.goal] := by
  unfold addDirectory at h
  split at h
  · cases h
  · rename_i place hplace
    split at h
    · cases h
    · rename_i hfree
      obtain rfl := Except.ok.inj h
      rw [(locate_eq_ok.mp hplace).2.1]
      exact grown_put hfree

theorem ensureDirectory_grown (h : t.ensureDirectory p = .ok t') : Grown t t' [p.goal] := by
  unfold ensureDirectory at h
  split at h
  · rename_i made hmade
    obtain rfl := Except.ok.inj h
    exact addDirectory_grown hmade
  · split at h
    · obtain rfl := Except.ok.inj h
      exact .refl t _
    · cases h

/-- Directories are only added, on the way of a path and at its goal. -/
theorem ensureDirectories_grown (depth : Nat) (t : Tree) (p : Path) :
    Grown t (ensureDirectories depth t p).1 (p.way ++ [p.goal]) := by
  induction depth generalizing p with
  | zero => exact .refl t _
  | succ depth ih =>
    have hgoal : [p.goal] ⊆ p.way ++ [p.goal] := List.subset_append_right _ _
    unfold ensureDirectories
    split
    · rename_i made hmade
      exact (addDirectory_grown hmade).mono hgoal
    · split
      · exact .refl t _
      · rename_i hparent
        have hgrown := (ih p.parent).mono (List.subset_append_left _ [p.goal])
        rw [← Path.way_of_parent (mt Path.parent_eq_self.mpr hparent)] at hgrown
        split
        · rename_i above problem habove
          rw [habove] at hgrown
          exact hgrown
        · rename_i above habove
          rw [habove] at hgrown
          split
          · rename_i made hmade
            exact hgrown.trans ((ensureDirectory_grown hmade).mono hgoal)
          · exact hgrown
    · split <;> exact .refl t _

/-- Where directories lead to a place without a file, a directory is made or found there. -/
theorem exists_ensureDirectory (hp : p.Admissible) (hway : ∀ q ∈ p.way, t.at? q = some .directory)
    (hgoal : t.file? p.goal = none) :
    ∃ t', t.ensureDirectory p = .ok t' ∧ t'.at? p.goal = some .directory := by
  have hlocate : t.locate p = .ok p.goal := locate_eq_ok.mpr ⟨hp, rfl, hway⟩
  unfold ensureDirectory addDirectory
  rw [hlocate]
  rcases file?_eq_none.mp hgoal with hfree | hfound
  · refine ⟨t.put p.goal .directory, by simp [hfree], ?_⟩
    rw [at?_put (names_ne_nil_of_free hfree), if_pos rfl]
  · have hdirectory : t.isDirectory p = true := by simp [isDirectory, find, hlocate, hfound]
    exact ⟨t, by simp [hfound, hdirectory], hfound⟩

theorem addDirectory_of_located {q : Path} (h : t.locate p = .ok q) :
    t.addDirectory p ≠ .error .missing := by
  unfold addDirectory
  rw [h]
  dsimp only
  split <;> simp

/-- Where nothing is missing above a place, those above it are not made. -/
theorem ensureDirectories_of_not_missing (depth : Nat) (h : t.addDirectory p ≠ .error .missing) :
    ensureDirectories (depth + 1) t p = match t.ensureDirectory p with
      | .ok t => (t, none)
      | .error problem => (t, some problem) := by
  unfold ensureDirectories ensureDirectory
  cases hadd : t.addDirectory p with
  | ok made => rfl
  | error cause =>
    cases cause with
    | missing => exact absurd hadd h
    | _ => dsimp only; split <;> rfl

/-- If no file is on the way of a path or at its goal, then directories can be made there. -/
theorem exists_ensureDirectories {depth : Nat} (hdepth : p.names.length < depth)
    (hp : p.Admissible) (hfree : ∀ q ∈ p.way ++ [p.goal], t.file? q = none) :
    ∃ t', ensureDirectories depth t p = (t', none) ∧
      ∀ q ∈ p.way ++ [p.goal], t'.at? q = some .directory := by
  induction depth generalizing p with
  | zero => omega
  | succ depth ih =>
    have hfreeWay : ∀ q ∈ p.way, t.file? q = none := fun q hq =>
      hfree q (List.mem_append_left _ hq)
    have hfreeGoal : t.file? p.goal = none := hfree p.goal (by simp)
    by_cases hway : ∀ q ∈ p.way, t.at? q = some .directory
    · obtain ⟨t', hmade, hgoal⟩ := exists_ensureDirectory hp hway hfreeGoal
      refine ⟨t', ?_, ?_⟩
      · have hlocate : t.locate p = .ok p.goal := locate_eq_ok.mpr ⟨hp, rfl, hway⟩
        rw [ensureDirectories_of_not_missing depth (addDirectory_of_located hlocate), hmade]
      · intro q hq
        rcases List.mem_append.mp hq with hq | hq
        · exact (ensureDirectory_grown hmade).directory (hway q hq)
        · rwa [List.mem_singleton.mp hq]
    · -- Something is missing on the way, so the directories above come first.
      have hmissing : t.locate p = .error .missing := by
        cases hlocate : t.locate p with
        | ok q => exact absurd (locate_eq_ok.mp hlocate).2.2 hway
        | error cause => rw [locate_eq_missing hp hfreeWay hlocate]
      have hadd : t.addDirectory p = .error .missing := by rw [addDirectory, hmissing]
      have hnames : p.names ≠ [] := by
        intro hnil
        exact hway (by simp [Path.way_of_names_nil hnil])
      have hparent : p.parent ≠ p := mt Path.parent_eq_self.mp hnames
      have hlength : p.parent.names.length < depth := by
        have hpos := List.length_pos_iff.mpr hnames
        rw [Path.length_parent]
        omega
      have hwayParent := Path.way_of_parent hnames
      obtain ⟨above, habove, hpaved⟩ := ih hlength hp.parent (hwayParent ▸ hfreeWay)
      have hgrown := ensureDirectories_grown depth t p.parent
      rw [← hwayParent] at hpaved
      rw [habove] at hgrown
      obtain ⟨t', hmade, hgoal⟩ := exists_ensureDirectory hp hpaved
        ((hgrown.file?_eq p.goal).trans hfreeGoal)
      refine ⟨t', ?_, ?_⟩
      · rw [ensureDirectories, hadd]
        simp only [hparent, if_false, habove, hmade]
      · intro q hq
        rcases List.mem_append.mp hq with hq | hq
        · exact (ensureDirectory_grown hmade).directory (hpaved q hq)
        · rwa [List.mem_singleton.mp hq]

end Make

/-! ## Files and their directories -/

/-- A path that can be written: one that a file system takes, without a file on its way, and with
neither a directory at its goal nor one that has to be made there. -/
structure Writable (t : Tree) (p : Path) : Prop where
  admissible : p.Admissible
  free : ∀ q ∈ p.way, t.file? q = none
  noDirectory : t.at? p.goal ≠ some .directory
  apart : p.goal ∉ p.way

instance (t : Tree) (p : Path) : Decidable (t.Writable p) :=
  decidable_of_iff
    (p.Admissible ∧ (∀ q ∈ p.way, t.file? q = none) ∧ t.at? p.goal ≠ some .directory ∧
      p.goal ∉ p.way)
    ⟨fun h => ⟨h.1, h.2.1, h.2.2.1, h.2.2.2⟩,
      fun h => ⟨h.admissible, h.free, h.noDirectory, h.apart⟩⟩

section Write

variable {t t' : Tree} {p : Path} {bytes : List UInt8}

/-- A path that can be written has a last name, which leads on from the goal of its parent. -/
theorem Writable.exists_parent (h : t.Writable p) :
    p.names ≠ [] ∧ p.goal.parent = p.parent.goal := by
  have hnames : p.names ≠ [] := by
    intro hnil
    apply h.noDirectory
    apply at?_of_names_nil
    simp [Path.goal, Path.start, hnil]
  refine ⟨hnames, ?_⟩
  rw [Path.goal_of_apart hnames h.apart]
  simp [Path.parent]

/-- A file is written where directories lead, and in place of no directory. -/
theorem writeFile_ok (h : t.writeFile p bytes = .ok t') :
    t.locate p = .ok p.goal ∧ t.at? p.goal ≠ some .directory ∧ t' = t.put p.goal (.file bytes) := by
  unfold writeFile at h
  split at h
  · cases h
  · rename_i place hplace
    obtain rfl := (locate_eq_ok.mp hplace).2.1
    split at h
    · cases h
    · rename_i old hfile
      exact ⟨hplace, by simp [hfile], (Except.ok.inj h).symm⟩
    · rename_i hfree
      split at h
      · exact ⟨hplace, by simp [hfree], (Except.ok.inj h).symm⟩
      · cases h
      · cases h

theorem exists_writeFile (bytes : List UInt8) (hlocate : t.locate p = .ok p.goal)
    (hgoal : t.at? p.goal ≠ some .directory) (hparent : t.at? p.goal.parent = some .directory) :
    ∃ t', t.writeFile p bytes = .ok t' := by
  unfold writeFile
  rw [hlocate]
  dsimp only
  split
  · rename_i hdirectory
    exact absurd hdirectory hgoal
  · exact ⟨_, rfl⟩
  · rw [hparent]
    exact ⟨_, rfl⟩

/-- A file that was written is read back, and the others are as they were. -/
theorem writeFile_read (h : t.writeFile p bytes = .ok t') :
    t'.read p = .ok bytes ∧ ∀ q, q ≠ p.goal → t'.file? q = t.file? q := by
  obtain ⟨hlocate, hgoal, rfl⟩ := writeFile_ok h
  have hnames : p.goal.names ≠ [] := fun hnil => hgoal (at?_of_names_nil hnil)
  obtain ⟨hadmissible, -, hway⟩ := locate_eq_ok.mp hlocate
  have hafter : (t.put p.goal (.file bytes)).locate p = .ok p.goal := by
    refine locate_eq_ok.mpr ⟨hadmissible, rfl, fun q hq => ?_⟩
    have hne : q ≠ p.goal := fun hsame => hgoal (hsame ▸ hway q hq)
    rw [at?_put hnames, if_neg hne, hway q hq]
  constructor
  · unfold read find
    rw [hafter]
    dsimp only
    rw [at?_put hnames, if_pos rfl]
  · intro q hq
    unfold file?
    rw [at?_put hnames, if_neg hq]

/-- The directories above a path, and then the file. -/
theorem write_cases (t : Tree) (p : Path) (bytes : List UInt8) :
    ∃ above, Grown t above (p.parent.way ++ [p.parent.goal]) ∧
      ((∃ problem, t.write p bytes = (above, some problem)) ∨
        ∃ t', above.writeFile p bytes = .ok t' ∧ t.write p bytes = (t', none)) := by
  have hgrown := ensureDirectories_grown (p.names.length + 1) t p.parent
  unfold write
  split
  · rename_i above problem hproblem
    rw [hproblem] at hgrown
    exact ⟨above, hgrown, .inl ⟨problem, rfl⟩⟩
  · rename_i above habove
    rw [habove] at hgrown
    refine ⟨above, hgrown, ?_⟩
    cases hwritten : above.writeFile p bytes with
    | error problem => exact .inl ⟨problem, rfl⟩
    | ok t' => exact .inr ⟨t', rfl, rfl⟩

/-- A write that fails changes no file. -/
theorem write_of_problem {problem : Problem} (h : t.write p bytes = (t', some problem)) (q : Path) :
    t'.file? q = t.file? q := by
  obtain ⟨above, hgrown, ⟨_, hwrite⟩ | ⟨_, -, hwrite⟩⟩ := write_cases t p bytes
  · rw [hwrite] at h
    obtain rfl := congrArg Prod.fst h
    exact hgrown.file?_eq q
  · rw [hwrite] at h
    cases h

/-- A write that succeeds changes one file, the one at the path. -/
theorem write_of_ok (h : t.write p bytes = (t', none)) :
    t'.read p = .ok bytes ∧ ∀ q, q ≠ p.goal → t'.file? q = t.file? q := by
  obtain ⟨above, hgrown, ⟨_, hwrite⟩ | ⟨_, hfile, hwrite⟩⟩ := write_cases t p bytes
  · rw [hwrite] at h
    cases h
  · rw [hwrite] at h
    obtain rfl := congrArg Prod.fst h
    obtain ⟨hread, hothers⟩ := writeFile_read hfile
    exact ⟨hread, fun q hq => (hothers q hq).trans (hgrown.file?_eq q)⟩

theorem Writable.exists_write (h : t.Writable p) (bytes : List UInt8) :
    ∃ t', t.write p bytes = (t', none) := by
  obtain ⟨hnames, hparent⟩ := h.exists_parent
  have hway := Path.way_of_parent hnames
  have hdepth : p.parent.names.length < p.names.length + 1 := by
    rw [Path.length_parent]
    omega
  have hfree : ∀ q ∈ p.parent.way ++ [p.parent.goal], t.file? q = none := hway ▸ h.free
  obtain ⟨above, habove, hpaved⟩ := exists_ensureDirectories hdepth h.admissible.parent hfree
  have hgrown := ensureDirectories_grown (p.names.length + 1) t p.parent
  rw [habove, ← hway] at hgrown
  have hgoal : above.at? p.goal ≠ some .directory := by
    rw [hgrown.at?_eq h.apart]
    exact h.noDirectory
  have hlocate : above.locate p = .ok p.goal :=
    locate_eq_ok.mpr ⟨h.admissible, rfl, fun q hq => hpaved q (hway ▸ hq)⟩
  obtain ⟨t', hwritten⟩ := exists_writeFile bytes hlocate hgoal
    (hpaved _ (by simp [hparent]))
  exact ⟨t', by rw [write, habove]; simp only [hwritten]⟩

/-- A write succeeds exactly if the path can be written. -/
theorem exists_write_iff : (∃ t', t.write p bytes = (t', none)) ↔ t.Writable p := by
  constructor
  · rintro ⟨t', h⟩
    obtain ⟨above, hgrown, ⟨_, hwrite⟩ | ⟨_, hfile, -⟩⟩ := write_cases t p bytes
    · rw [hwrite] at h
      cases h
    · obtain ⟨hlocate, hgoal, -⟩ := writeFile_ok hfile
      obtain ⟨hadmissible, -, hway⟩ := locate_eq_ok.mp hlocate
      refine ⟨hadmissible, fun q hq => ?_, fun h => hgoal (hgrown.directory h),
        fun hmem => hgoal (hway _ hmem)⟩
      rw [← hgrown.file?_eq q]
      exact file?_eq_none.mpr (.inr (hway q hq))
  · exact fun h => h.exists_write bytes

/-- A directory that is only made to be left again is in the way of a file with its name. -/
example : (⟨[]⟩ : Tree).Writable (Path.ofString "a/../b") ∧
    ¬ (⟨[]⟩ : Tree).Writable (Path.ofString "a/../a") := by
  decide

end Write

end LoadPlan.Files.Tree

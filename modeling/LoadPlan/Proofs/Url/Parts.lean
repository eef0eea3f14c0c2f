import LoadPlan.Plan.Endpoint
import LoadPlan.Proofs.Notice
import Mathlib.Data.List.TakeWhile

/-!
# A URL in its text

What is kept of a text is its URL's scheme and network location, the path, and behind their marks
the query and the fragment, if they are there. Neither of the two marks stands in front of them, so
each part is found again in the text. The path of a URL with a network location starts with a slash,
since besides the marks nothing else ends the location.
-/

namespace LoadPlan

namespace Url

/-! ## Marks -/

/-- Characters without the marks of a query and of a fragment. -/
def HasNoMark (cs : List Char) : Prop :=
  '?' ∉ cs ∧ '#' ∉ cs

instance (cs : List Char) : Decidable (HasNoMark cs) :=
  inferInstanceAs (Decidable (_ ∧ _))

theorem HasNoMark.append {cs ds : List Char} (hcs : HasNoMark cs) (hds : HasNoMark ds) :
    HasNoMark (cs ++ ds) :=
  ⟨fun h => (List.mem_append.mp h).elim hcs.1 hds.1,
    fun h => (List.mem_append.mp h).elim hcs.2 hds.2⟩

/-- Characters that all satisfy a condition which the marks do not satisfy. -/
theorem HasNoMark.of_all {p : Char → Bool} (hp : p '?' = false ∧ p '#' = false) {cs : List Char}
    (h : ∀ c ∈ cs, p c = true) : HasNoMark cs :=
  ⟨fun hmem => Bool.noConfusion (hp.1.symm.trans (h _ hmem)),
    fun hmem => Bool.noConfusion (hp.2.symm.trans (h _ hmem))⟩

/-- A part of a URL with the mark that it stands behind, if it is there. -/
def behind (mark : Char) (part : Option (List Char)) : List Char :=
  part.elim [] (mark :: ·)

/-- Characters that are cut at a mark are put together again. -/
theorem cut_append (c : Char) (cs : List Char) : (cut c cs).1 ++ behind c (cut c cs).2 = cs := by
  have hdrop : behind c (cut c cs).2 = cs.dropWhile (· != c) := by
    unfold cut behind
    cases hcs : cs.dropWhile (· != c) with
    | nil => rfl
    | cons d rest =>
      have hd : d = c := by simpa [hcs] using List.head?_dropWhile_not (· != c) cs
      rw [hd]
      rfl
  rw [hdrop]
  exact List.takeWhile_append_dropWhile

theorem not_mem_cut_fst (c : Char) (cs : List Char) : c ∉ (cut c cs).1 := by
  intro h
  simpa using List.mem_takeWhile_imp h

theorem mem_of_mem_cut_fst {c d : Char} {cs : List Char} (h : d ∈ (cut c cs).1) : d ∈ cs :=
  (List.takeWhile_sublist _).mem h

theorem mem_of_mem_cut_snd {c d : Char} {cs rest : List Char} (hrest : (cut c cs).2 = some rest)
    (h : d ∈ rest) : d ∈ cs := by
  rw [← cut_append c cs, hrest]
  exact List.mem_append_right _ (List.mem_cons_of_mem c h)

/-! ## What stands before the path -/

/-- The characters of a text that its URL is made of. -/
def kept (cs : List Char) : List Char :=
  (cs.dropWhile Text.isControlOrSpace).filter (!isDropped ·)

/-- What is kept of a text stands in it. -/
theorem mem_of_mem_kept {d : Char} {cs : List Char} (h : d ∈ kept cs) : d ∈ cs :=
  (List.dropWhile_sublist _).mem (List.mem_filter.mp h).1

/-- A question mark is always kept. -/
theorem mark_mem_kept {cs : List Char} : '?' ∈ kept cs ↔ '?' ∈ cs := by
  refine ⟨mem_of_mem_kept, fun h => ?_⟩
  rw [← List.takeWhile_append_dropWhile (p := Text.isControlOrSpace) (l := cs)] at h
  have hback : '?' ∈ cs.dropWhile Text.isControlOrSpace := by
    refine (List.mem_append.mp h).resolve_left fun hfront => ?_
    exact absurd (List.mem_takeWhile_imp hfront) (by decide)
  exact List.mem_filter.mpr ⟨hback, by decide⟩

/-- What follows the scheme of a URL, which has no marks. -/
theorem exists_before_takeScheme (cs : List Char) :
    ∃ front, HasNoMark front ∧ front ++ (takeScheme cs).2 = cs := by
  unfold takeScheme
  split
  · rename_i c name rest hcut
    split
    · rename_i hname
      have hletter : isSchemeChar c = true := by
        simp only [Bool.and_eq_true] at hname
        simp [isSchemeChar, hname.1]
      refine ⟨c :: name ++ [':'], ?_, ?_⟩
      · refine .append (.of_all (p := isSchemeChar) (by decide) ?_) (by decide)
        simp only [Bool.and_eq_true, List.all_eq_true] at hname
        exact List.forall_mem_cons.mpr ⟨hletter, hname.2⟩
      · have htext := cut_append ':' cs
        rw [hcut] at htext
        rw [← htext, List.append_assoc]
        rfl
    · exact ⟨[], by decide, rfl⟩
  · exact ⟨[], by decide, rfl⟩

/-- What follows the network location of a URL, which has no marks. -/
theorem exists_before_takeNetloc (cs : List Char) :
    ∃ front, HasNoMark front ∧ front ++ (takeNetloc cs).2 = cs := by
  unfold takeNetloc
  split
  · rename_i rest
    refine ⟨['/', '/'] ++ rest.takeWhile (fun c => c != '/' && c != '?' && c != '#'), ?_, ?_⟩
    · have hinside (c : Char) (hc : c ∈ rest.takeWhile fun c => c != '/' && c != '?' && c != '#') :
          (c != '/' && c != '?' && c != '#') = true :=
        List.mem_takeWhile_imp (p := fun c => c != '/' && c != '?' && c != '#') hc
      exact .append (by decide) (.of_all (by decide) hinside)
    · exact congrArg (['/', '/'] ++ ·) List.takeWhile_append_dropWhile
  · exact ⟨[], by decide, rfl⟩

/-- A network location ends at a slash or a mark. -/
theorem head?_takeNetloc {cs : List Char} (h : (takeNetloc cs).1 ≠ []) :
    ∀ d ∈ (takeNetloc cs).2.head?, d = '/' ∨ d = '?' ∨ d = '#' := by
  unfold takeNetloc at h ⊢
  split at h
  · rename_i rest
    intro d hd
    have hend := List.head?_dropWhile_not (fun c => c != '/' && c != '?' && c != '#') rest
    rw [Option.mem_def.mp hd] at hend
    by_contra hnone
    simp_all
  · exact absurd rfl h

/-! ## The parts -/

/-- A URL is made of parts that follow one another. -/
theorem parts_of_ofChars {cs : List Char} {url : Url} (h : ofChars cs = .ok url) :
    ∃ rest, takeNetloc (takeScheme (kept cs)).2 = (url.netloc, rest) ∧
      url.path = (cut '?' (cut '#' rest).1).1 ∧
      url.query = (cut '?' (cut '#' rest).1).2.getD [] ∧
      url.fragment = (cut '#' rest).2.getD [] := by
  unfold ofChars at h
  dsimp only at h
  split at h
  · cases h
  · split at h
    · cases h
    · obtain rfl := Except.ok.inj h
      exact ⟨_, rfl, rfl, rfl, rfl⟩

/-- Where the path of a URL, its query and its fragment stand in what is kept of its text. -/
structure Spells (url : Url) (cs front : List Char) (query fragment : Option (List Char)) :
    Prop where
  text : kept cs = front ++ url.path ++ behind '?' query ++ behind '#' fragment
  front : HasNoMark front
  path : HasNoMark url.path
  noHash : '#' ∉ behind '?' query
  query : url.query = query.getD []
  fragment : url.fragment = fragment.getD []

theorem exists_spells {cs : List Char} {url : Url} (h : ofChars cs = .ok url) :
    ∃ front query fragment, Spells url cs front query fragment := by
  obtain ⟨rest, hrest, hpath, hquery, hfragment⟩ := parts_of_ofChars h
  obtain ⟨scheme, hscheme, hkept⟩ := exists_before_takeScheme (kept cs)
  obtain ⟨location, hlocation, hbehind⟩ := exists_before_takeNetloc (takeScheme (kept cs)).2
  rw [hrest] at hbehind
  have hhash : '#' ∉ (cut '#' rest).1 := not_mem_cut_fst '#' rest
  have htext :
      kept cs = scheme ++ (location ++ ((cut '#' rest).1 ++ behind '#' (cut '#' rest).2)) := by
    rw [cut_append, hbehind, hkept]
  generalize (cut '#' rest).1 = before at *
  rw [← cut_append '?' before, ← hpath] at hhash htext
  refine ⟨scheme ++ location, _, _, ?_, hscheme.append hlocation, ⟨?_, ?_⟩, ?_, hquery, hfragment⟩
  · rw [htext]
    simp only [List.append_assoc]
  · exact hpath ▸ not_mem_cut_fst '?' before
  · exact fun hmem => hhash (List.mem_append_left _ hmem)
  · exact fun hmem => hhash (List.mem_append_right _ hmem)

/-- The path of a URL with a network location starts with a slash unless it is empty. -/
theorem head?_path {cs : List Char} {url : Url} (h : ofChars cs = .ok url)
    (hnetloc : url.netloc ≠ []) : ∀ d ∈ url.path.head?, d = '/' := by
  obtain ⟨rest, hrest, hpath, -, -⟩ := parts_of_ofChars h
  intro d hd
  rw [hpath, cut, cut, List.head?_takeWhile, List.head?_takeWhile] at hd
  simp only [Option.mem_def, Option.filter_eq_some_iff, bne_iff_ne] at hd
  obtain ⟨⟨hhead, hhash⟩, hmark⟩ := hd
  have hlocation : (takeNetloc (takeScheme (kept cs)).2).1 ≠ [] := by rwa [hrest]
  have hend := head?_takeNetloc hlocation
  rw [hrest] at hend
  simpa [hhash, hmark] using hend d hhead

/-- A URL without a question mark has no query. -/
theorem query_of_not_mem {cs : List Char} {url : Url} (h : ofChars cs = .ok url)
    (hmark : '?' ∉ cs) : url.query = [] := by
  obtain ⟨front, query, fragment, hspells⟩ := exists_spells h
  cases query with
  | none => exact hspells.query
  | some query =>
    refine absurd (mem_of_mem_kept ?_) hmark
    rw [hspells.text]
    simp [behind]

/-! ## Absolute URLs -/

/-- An absolute URL has a scheme and a host, and its port can be read. -/
theorem parts_of_absolute {s : String} {url : Url} {port : Option Nat}
    (h : Url.absolute s = .ok (url, port)) :
    ofChars s.toList = .ok url ∧ url.port? = .ok port ∧ url.scheme ≠ [] ∧ url.host ≠ "" := by
  unfold absolute at h
  obtain ⟨split, hsplit, h⟩ := Except.bind_eq_ok.mp h
  obtain ⟨found, hfound, h⟩ := Except.bind_eq_ok.mp h
  dsimp only at h
  split at h
  · cases h
  · rename_i hgiven
    obtain ⟨rfl, rfl⟩ := Prod.mk.inj (Except.ok.inj h)
    simp only [Bool.or_eq_true, List.isEmpty_iff, String.isEmpty_iff, not_or] at hgiven
    exact ⟨hsplit, hfound, hgiven.1, hgiven.2⟩

/-- A URL with a host has a network location. -/
theorem netloc_ne_nil {url : Url} (h : url.host ≠ "") : url.netloc ≠ [] := by
  intro hnil
  rw [host, hnil] at h
  exact h (by decide)

end Url

end LoadPlan

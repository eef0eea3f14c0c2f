import LoadPlan.Proofs.Lint.Silence

/-!
# Characters of URLs

The parts of a URL are made of its characters, with the host in lower case and some entities of the
path decoded. So a URL whose characters can all stand in a document has a host and a path that can
stand there, and neither of them is empty in a plan.
-/

namespace LoadPlan

open Xml (isChar)

/-! ## Lower case -/

namespace Text

/-- Whether the lower case of each character of a run can stand in a document. -/
def CaseRun.StaysWritable (r : CaseRun) : Prop :=
  0x20 ≤ r.first + r.shift ∧ r.last + r.shift < 0xd800 ∨
    0xe000 ≤ r.first + r.shift ∧ r.last + r.shift < 0xfffe ∨
    0x10000 ≤ r.first + r.shift ∧ r.last + r.shift < 0x110000

instance (r : CaseRun) : Decidable r.StaysWritable :=
  inferInstanceAs (Decidable (_ ∧ _ ∨ _ ∧ _ ∨ _ ∧ _))

theorem caseRuns_stayWritable : ∀ r ∈ caseRuns, r.StaysWritable := by
  decide +kernel

theorem isChar_ofNat {n : Nat}
    (h : 0x20 ≤ n ∧ n < 0xd800 ∨ 0xe000 ≤ n ∧ n < 0xfffe ∨ 0x10000 ≤ n ∧ n < 0x110000) :
    isChar (Char.ofNat n) = true := by
  have hvalid : n.isValidChar := by
    unfold Nat.isValidChar
    omega
  have hself : (Char.ofNat n).toNat = n := by rw [Char.toNat_ofNat, if_pos hvalid]
  unfold isChar
  rw [hself]
  simp only [Bool.or_eq_true, Bool.and_eq_true, decide_eq_true_eq]
  omega

theorem isChar_lowerChar {c : Char} (h : isChar c = true) : isChar (lowerChar c) = true := by
  unfold lowerChar
  split
  · rename_i r hfind
    have hrun := caseRuns_stayWritable r (Array.mem_of_find?_eq_some hfind)
    have hrange := Array.find?_some hfind
    simp only [Bool.and_eq_true, decide_eq_true_eq] at hrange
    obtain ⟨⟨hfirst, hlast⟩, -⟩ := hrange
    apply isChar_ofNat
    unfold CaseRun.StaysWritable at hrun
    omega
  · exact h

theorem isChar_lowerAfter {before cs : List Char} (h : ∀ c ∈ cs, isChar c = true) :
    ∀ c ∈ lowerAfter before cs, isChar c = true := by
  induction cs generalizing before with
  | nil => exact fun _ hc => nomatch hc
  | cons d cs ih =>
    obtain ⟨hd, hcs⟩ := List.forall_mem_cons.mp h
    rw [lowerAfter, List.forall_mem_append]
    refine ⟨?_, ih hcs⟩
    split
    · split <;> exact List.forall_mem_singleton.mpr (isChar_ofNat (by decide))
    · split
      · exact List.forall_mem_cons.mpr
          ⟨rfl, List.forall_mem_singleton.mpr (isChar_ofNat (by decide))⟩
      · exact List.forall_mem_singleton.mpr (isChar_lowerChar hd)

end Text

/-! ## Parts of a URL -/

namespace Url

theorem mem_of_mem_netloc {d : Char} {cs : List Char} (h : d ∈ (takeNetloc cs).1) : d ∈ cs := by
  unfold takeNetloc at h
  split at h
  · have hmem := (List.takeWhile_sublist _).mem h
    exact List.mem_cons_of_mem _ (List.mem_cons_of_mem _ hmem)
  · cases h

theorem mem_of_mem_hostPart {d : Char} {netloc : List Char} (h : d ∈ hostPart netloc) :
    d ∈ netloc :=
  List.mem_reverse.mp ((List.takeWhile_sublist _).mem (List.mem_reverse.mp h))

theorem mem_of_mem_host {d : Char} {netloc : List Char} (h : d ∈ (hostAndPort netloc).1) :
    d ∈ netloc := by
  apply mem_of_mem_hostPart
  unfold hostAndPort at h
  split at h
  · rename_i inside hcut
    exact mem_of_mem_cut_snd (congrArg Prod.snd hcut) (mem_of_mem_cut_fst h)
  · rename_i host hcut
    have hhost : host = (cut '[' (hostPart netloc)).1 := (congrArg Prod.fst hcut).symm
    rw [hhost] at h
    exact mem_of_mem_cut_fst (mem_of_mem_cut_fst h)

/-- The network location and the path of a URL are made of its characters. -/
theorem mem_of_ofChars {cs : List Char} {url : Url} (h : ofChars cs = .ok url) :
    (∀ d ∈ url.netloc, d ∈ cs) ∧ ∀ d ∈ url.path, d ∈ cs := by
  obtain ⟨rest, hrest, -, -, -⟩ := parts_of_ofChars h
  obtain ⟨scheme, -, hscheme⟩ := exists_before_takeScheme (kept cs)
  obtain ⟨front, query, fragment, hspells⟩ := exists_spells h
  refine ⟨fun d hd => mem_of_mem_kept ?_, fun d hd => mem_of_mem_kept ?_⟩
  · have hlocation : d ∈ (takeNetloc (takeScheme (kept cs)).2).1 := by rwa [hrest]
    rw [← hscheme]
    exact List.mem_append_right _ (mem_of_mem_netloc hlocation)
  · rw [hspells.text]
    simp [hd]

section Writable

variable {cs : List Char} {url : Url} (h : ofChars cs = .ok url)
  (hchars : ∀ c ∈ cs, isChar c = true)

include h hchars

theorem isChar_host : ∀ c ∈ url.host.toList, isChar c = true := by
  have hwritten : ∀ c ∈ (hostAndPort url.netloc).1, isChar c = true :=
    fun c hc => hchars c ((mem_of_ofChars h).1 c (mem_of_mem_host hc))
  unfold host Text.lower
  rw [String.toList_append, String.toList_ofList, String.toList_ofList, String.toList_ofList,
    List.forall_mem_append]
  constructor
  · apply Text.isChar_lowerAfter
    exact fun c hc => hwritten c ((List.takeWhile_sublist _).mem hc)
  · exact fun c hc => hwritten c ((List.dropWhile_sublist _).mem hc)

theorem isChar_pathOf : ∀ c ∈ Address.pathOf url, isChar c = true := by
  unfold Address.pathOf
  split
  · exact List.forall_mem_singleton.mpr rfl
  · exact fun c hc => hchars c ((mem_of_ofChars h).2 c hc)

end Writable

theorem pathOf_ne_nil (url : Url) : Address.pathOf url ≠ [] := by
  unfold Address.pathOf
  split
  · exact List.cons_ne_nil _ _
  · rename_i hpath
    simpa using hpath

/-- An absolute URL has a host. -/
theorem host_ne_empty {s : String} {url : Url} {port : Option Nat}
    (h : Url.absolute s = .ok (url, port)) : url.host ≠ "" :=
  (parts_of_absolute h).2.2.2

end Url

/-! ## Texts in a plan -/

namespace Plan

theorem decodeEntities_ne_nil {cs : List Char} (h : cs ≠ []) : decodeEntities cs ≠ [] := by
  fun_cases decodeEntities cs <;> simp_all

theorem isChar_decodeEntities {cs : List Char} (h : ∀ c ∈ cs, isChar c = true) :
    ∀ c ∈ decodeEntities cs, isChar c = true := by
  fun_induction decodeEntities cs with
  | case1 rest ih =>
    simp only [List.forall_mem_cons] at h
    exact List.forall_mem_cons.mpr ⟨rfl, ih h.2.2.2.2⟩
  | case2 rest ih =>
    simp only [List.forall_mem_cons] at h
    exact List.forall_mem_cons.mpr ⟨rfl, ih h.2.2.2.2⟩
  | case3 rest ih =>
    simp only [List.forall_mem_cons] at h
    exact List.forall_mem_cons.mpr ⟨rfl, ih h.2.2.2.2.2⟩
  | case4 c rest _ _ _ ih =>
    obtain ⟨hc, hrest⟩ := List.forall_mem_cons.mp h
    exact List.forall_mem_cons.mpr ⟨hc, ih hrest⟩
  | case5 => exact h

theorem planText_eq_self {s : String} (h : ∀ c ∈ s.toList, isChar c = true) :
    planText (.text s) = s := by
  have htext : planText (.text s) = String.ofList (s.toList.filter isChar) := rfl
  rw [htext, List.filter_eq_self.mpr h, String.ofList_toList]

section Address

variable {s : String} {url : Url} {port : Option Nat} (h : Url.absolute s = .ok (url, port))
  (hchars : ∀ c ∈ s.toList, isChar c = true)

include h hchars

theorem planText_hostname_ne_empty (get : Bool) :
    planText (.text (Address.ofUrl url port get).hostname) ≠ "" := by
  rw [Address.ofUrl, planText_eq_self (Url.isChar_host (absolute_eq_ok h) hchars)]
  exact Url.host_ne_empty h

theorem planText_samplerPath_ne_empty (get : Bool) :
    planText (samplerPath (Address.ofUrl url port (!get))) ≠ "" := by
  have hpath := isChar_decodeEntities (Url.isChar_pathOf (absolute_eq_ok h) hchars)
  have hne := decodeEntities_ne_nil (Url.pathOf_ne_nil url)
  rw [planText_samplerPath, Address.ofUrl, String.toList_ofList, decodeEntities_pathText,
    List.filter_append, List.filter_eq_self.mpr hpath, ne_eq, ← String.toList_inj,
    String.toList_ofList]
  simp [hne]

end Address

end Plan

end LoadPlan

import LoadPlan.Proofs.Xml.Tags
import LoadPlan.Xml.Reader

/-!
# What attributes mean

Without a document type, the value of an attribute is what its pieces spell, with a space for every
blank that was written as it is (`addPieces_spells`); blanks that were written as references stay
(`addPieces_spells_blank`). A tag that was written then opens an element with its name and its
attributes in order (`openTag_written`).
-/

namespace LoadPlan.Xml

/-- A value as it is read: a space for a carriage return with a line feed, and for every other
blank. -/
def blanksAsSpaces : List Char → List Char
  | [] => []
  | '\r' :: '\n' :: rest => ' ' :: blanksAsSpaces rest
  | c :: rest => (if isSpace c then ' ' else c) :: blanksAsSpaces rest

namespace Doctype

variable (d : Doctype) (place : List Char) (depth : Nat) (opened : List (List Char)) (inside : Bool)

theorem addText_plain (c : Char) (done : List Char) :
    addText true c done = (if isSpace c then ' ' else c) :: done := by
  by_cases h : isSpace c <;> simp [addText, addChar, h]

/-- A reference adds the character it stands for. -/
theorem addPieces_referent {p : Piece} {c : Char} (h : p.referent? = some c) (done : List Char)
    (rest : List Piece) :
    d.addPieces true place depth opened inside done (p :: rest) =
      d.addPieces true place depth opened inside (c :: done) rest := by
  cases p with
  | char c => simp [Piece.referent?] at h
  | number c there =>
    cases h
    rw [addPieces]
    simp [addChar]
  | entity name there =>
    rw [addPieces]
    simp only [Piece.referent?] at h
    rw [h]

theorem addPieces_lineEnd (done : List Char) (rest : List Piece) :
    d.addPieces true place depth opened inside done (.char '\r' :: .char '\n' :: rest) =
      d.addPieces true place depth opened inside (' ' :: done) rest := by
  rw [addPieces, addText_plain]
  rfl

theorem addPieces_char {c : Char} {rest : List Piece} (done : List Char)
    (h : ∀ more, c = '\r' → rest = .char '\n' :: more → False) :
    d.addPieces true place depth opened inside done (.char c :: rest) =
      d.addPieces true place depth opened inside ((if isSpace c then ' ' else c) :: done) rest := by
  rw [addPieces, addText_plain]
  exact fun more hrest hc => h more hc hrest

/-- Blanks that are kept are read as spaces. -/
theorem addPieces_spells (value : List Char) : ∀ (pieces : List Piece) (done : List Char),
    Spells attributeEscape? pieces value →
      d.addPieces true place depth opened inside done pieces =
        .ok ((blanksAsSpaces value).reverse ++ done) := by
  fun_induction blanksAsSpaces value with
  | case1 =>
    intro pieces done h
    cases h
    rw [addPieces]
    rfl
  | case2 rest ih =>
    intro pieces done h
    cases h with
    | written hw _ _ => simp [attributeEscape?, textEscape?] at hw
    | kept _ h =>
      cases h with
      | written hw _ _ => simp [attributeEscape?, textEscape?] at hw
      | kept _ h => rw [addPieces_lineEnd, ih _ _ h]; simp
  | case3 c rest hpair ih =>
    intro pieces done h
    cases h with
    | kept hc h =>
      rw [addPieces_char _ _ _ _ _ _ ?_, ih _ _ h]
      · simp
      · intro more hr hmore
        subst hmore
        cases h with
        | kept _ _ => exact hpair _ hr rfl
        | written _ hp _ => simp [Piece.referent?] at hp
    | written hw hp h =>
      have hspace : isSpace c = false := by
        by_contra hs
        simp only [isSpace, Bool.not_eq_false, Bool.or_eq_true, decide_eq_true_eq] at hs
        rcases hs with ((rfl | rfl) | rfl) | rfl <;> simp [attributeEscape?, textEscape?] at hw
      rw [addPieces_referent _ _ _ _ _ hp, ih _ _ h]
      simp [hspace]

/-- Blanks that are written as references are read as they were. -/
theorem addPieces_spells_blank (value : List Char) : ∀ (pieces : List Piece) (done : List Char),
    Spells blankEscape? pieces value →
      d.addPieces true place depth opened inside done pieces = .ok (value.reverse ++ done) := by
  induction value with
  | nil =>
    intro pieces done h
    cases h
    rw [addPieces]
    rfl
  | cons c value ih =>
    intro pieces done h
    cases h with
    | kept hc h =>
      have hreturn : c ≠ '\r' := by rintro rfl; simp [blankEscape?] at hc
      have hfeed : c ≠ '\n' := by rintro rfl; simp [blankEscape?] at hc
      have htab : c ≠ '\t' := by rintro rfl; simp [blankEscape?] at hc
      rw [addPieces_char _ _ _ _ _ _ (fun _ hr => absurd hr hreturn), ih _ _ h]
      by_cases hs : c = ' ' <;> simp [isSpace, hreturn, hfeed, htab, hs]
    | written hw hp h =>
      rw [addPieces_referent _ _ _ _ _ hp, ih _ _ h]
      simp

end Doctype

/-! ## Start tags -/

/-- What is read for the value of an attribute that was written with a table. -/
def ReadsValues (table : Char → Option String) (read : List Char → List Char) : Prop :=
  ∀ (d : Doctype) (place : List Char) (depth : Nat) (opened : List (List Char)) (inside : Bool)
    (value : List Char) (pieces : List Piece) (done : List Char), Spells table pieces value →
      d.addPieces true place depth opened inside done pieces = .ok ((read value).reverse ++ done)

theorem attributeEscape_readsValues : ReadsValues attributeEscape? blanksAsSpaces :=
  Doctype.addPieces_spells

theorem blankEscape_readsValues : ReadsValues blankEscape? id :=
  Doctype.addPieces_spells_blank

/-- The values of attributes as they are read. -/
def readValues (read : List Char → List Char) (attributes : List (String × String)) : Values :=
  attributes.map fun a => (a.1.toList, read a.2.toList)

section OpenTag

variable {table : Char → Option String} {read : List Char → List Char}
  (hread : ReadsValues table read) {d : Doctype} (hd : d.attributes = [])

include hread in
theorem valueOf_spells (place : List Char) {pieces : List Piece} {value : List Char}
    (h : Spells table pieces value) : d.valueOf true place pieces = .ok (read value) := by
  unfold Doctype.valueOf
  rw [hread d place _ _ _ value pieces [] h, List.append_nil]
  cases hr : (read value).reverse with
  | nil => simpa using congrArg List.reverse hr
  | cons c rest =>
    have hval : read value = (c :: rest).reverse := by rw [← hr, List.reverse_reverse]
    by_cases hc : c = ' '
    · subst hc
      simp [hval]
    · rw [hval]
      split <;> simp_all

theorem splitName_of_isPlainName {name : List Char} (h : isPlainName name = true) :
    splitName name = (none, name) := by
  have hcolon : ∀ c ∈ name, (c != ':') = true := by
    intro c hc
    have hname := isNameChar_of_mem h c hc
    rw [bne_iff_ne]
    rintro rfl
    exact absurd hname (by decide)
  unfold splitName
  rw [List.dropWhile_eq_nil_iff.mpr hcolon]

theorem boundPrefix_of_isPlainName {name : List Char} (h : isPlainName name = true)
    (hne : name ≠ "xmlns".toList) : boundPrefix? name = none := by
  rw [boundPrefix?, if_neg hne, splitName_of_isPlainName h]

theorem AttributesSound.boundPrefix {attributes : List (String × String)}
    (h : AttributesSound attributes) {a : String × String} (ha : a ∈ attributes) :
    boundPrefix? a.1.toList = none := by
  refine boundPrefix_of_isPlainName (h.named a ha).1 fun heq => (h.named a ha).2 ?_
  exact String.toList_inj.mp heq

include hread hd in
theorem attributeValues_written (element place : List Char) (attributes : List (String × String)) :
    ∀ (raws : List RawAttribute) (before : List (List Char)), AttributesSound attributes →
      (∀ a ∈ attributes, a.1.toList ∉ before) → List.Forall₂ (Reads table) raws attributes →
        attributeValues d element place before raws = .ok (readValues read attributes) := by
  induction attributes with
  | nil =>
    intro raws before _ _ h
    cases h
    rfl
  | cons a attributes ih =>
    intro raws before hsound hbefore h
    cases h with
    | @cons raw _ raws _ hraw hraws =>
      obtain ⟨hname, hspell⟩ := hraw
      have hnew : ¬ before.contains raw.name = true := by
        rw [hname]
        simpa using hbefore a List.mem_cons_self
      have hplain : d.isPlain element raw.name = true := by simp [Doctype.isPlain, hd]
      have hnodup := List.nodup_cons.mp hsound.distinct
      have hrest : ∀ b ∈ attributes, b.1.toList ∉ raw.name :: before := by
        intro b hb hmem
        rcases List.mem_cons.mp hmem with heq | hmem
        · rw [hname, String.toList_inj] at heq
          exact hnodup.1 (heq ▸ List.mem_map_of_mem hb)
        · exact hbefore b (List.mem_cons_of_mem a hb) hmem
      rw [attributeValues, if_neg hnew, hplain, valueOf_spells hread place hspell]
      simp only [hname, hsound.boundPrefix List.mem_cons_self] at hrest ⊢
      rw [ih raws _ hsound.tail hrest hraws]
      rfl

theorem bindAll_written {attributes : List (String × String)} (hsound : AttributesSound attributes)
    (bindings : Bindings) : bindAll bindings (readValues read attributes) = .ok bindings := by
  induction attributes with
  | nil => rfl
  | cons a attributes ih =>
    rw [readValues, List.map_cons, bindAll, hsound.boundPrefix List.mem_cons_self]
    exact ih hsound.tail

theorem nameAll_written (attributes : List (String × String)) :
    ∀ before : List (List Char), AttributesSound attributes →
      (∀ a ∈ attributes, a.1.toList ∉ before) →
        nameAll [] before (readValues read attributes) = .ok (readValues read attributes) := by
  induction attributes with
  | nil => intros; rfl
  | cons a attributes ih =>
    intro before hsound hbefore
    have hnew : ¬ before.contains a.1.toList = true := by
      simpa using hbefore a List.mem_cons_self
    have hfull : attributeName [] a.1.toList = .ok a.1.toList := by
      rw [attributeName, splitName_of_isPlainName (hsound.named a List.mem_cons_self).1]
    have hnodup := List.nodup_cons.mp hsound.distinct
    have hrest : ∀ b ∈ attributes, b.1.toList ∉ a.1.toList :: before := by
      intro b hb hmem
      rcases List.mem_cons.mp hmem with heq | hmem
      · rw [String.toList_inj] at heq
        exact hnodup.1 (heq ▸ List.mem_map_of_mem hb)
      · exact hbefore b (List.mem_cons_of_mem a hb) hmem
    rw [readValues, List.map_cons, nameAll, hsound.boundPrefix List.mem_cons_self]
    simp only [Option.isSome_none, Bool.false_eq_true, if_false, hfull, if_neg hnew]
    rw [show (attributes.map fun b => (b.1.toList, read b.2.toList)) = readValues read attributes
      from rfl, ih _ hsound.tail hrest]
    rfl

/-- Surroundings in which no attribute is declared and no prefix is bound. -/
structure Scope.IsPlain (scope : Scope) : Prop where
  attributes : scope.doctype.attributes = []
  bindings : scope.bindings = []

/-- The attributes of an element as they are read. -/
def readAttributes (read : List Char → List Char) (attributes : List (String × String)) :
    List (String × String) :=
  attributes.map fun a => (a.1, String.ofList (read a.2.toList))

include hread in
/-- A tag that was written opens an element with its name and its attributes, and leaves the
surroundings as they are. -/
theorem openTag_written {scope : Scope} (hscope : scope.IsPlain) (place : List Char) {tag : String}
    (htag : isPlainName tag.toList = true) {attributes : List (String × String)}
    (hsound : AttributesSound attributes) {raws : List RawAttribute}
    (hraws : List.Forall₂ (Reads table) raws attributes) (isEmpty : Bool) :
    openTag scope place ⟨tag.toList, raws, isEmpty⟩ =
      .ok (tag, readAttributes read attributes, scope) := by
  have hvalues := attributeValues_written hread hscope.attributes tag.toList place attributes raws []
    hsound (by simp) hraws
  have hdefaults : defaultValues scope.doctype tag.toList (readValues read attributes) = [] := by
    simp [defaultValues, hscope.attributes]
  have hbind : bindAll [] (readValues read attributes) = .ok [] := bindAll_written hsound []
  have hnames : nameAll [] [] (readValues read attributes) = .ok (readValues read attributes) :=
    nameAll_written attributes [] hsound (by simp)
  have helement : elementName [] tag.toList = .ok tag.toList := by
    rw [elementName, splitName_of_isPlainName htag]
    rfl
  obtain ⟨doctype, sizes, bindings, opened⟩ := scope
  obtain rfl : bindings = [] := hscope.bindings
  unfold openTag
  simp only [hvalues, hdefaults, List.append_nil, hbind, hnames, helement, Bind.bind, Except.bind,
    pure, Except.pure, Except.mapError]
  simp [readValues, readAttributes]

end OpenTag

end LoadPlan.Xml

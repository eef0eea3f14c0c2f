import LoadPlan.Proofs.Xml.Values
import LoadPlan.Text.Lines

/-!
# Reading a tree that was written

A tree is written with nothing between its parts, in a style that says what stands for characters
and how the tag of an empty element ends. Content that was written is read back as the same nodes
(`content_writeAll`): texts with line feeds for line ends, attributes as the style's values are
read. One unit of fuel for each character is enough, as every step of the reader takes at least one.
-/

namespace LoadPlan.Xml

open Text (unifyLineEnds)

/-- A way to write trees, with what is read for a value of an attribute. -/
structure Style where
  inText : Char → Option String
  inAttribute : Char → Option String
  emptyEnd : List Char
  valueRead : List Char → List Char
  inText_escapes : Escapes '>' inText
  inText_feed : inText '\n' = none
  inText_return : inText '\r' = none
  inAttribute_escapes : Escapes '"' inAttribute
  inAttribute_reads : ReadsValues inAttribute valueRead
  emptyEnd_ends : ∀ rest, EndsTag (emptyEnd ++ rest) true rest

namespace Style

variable (σ : Style)

mutual

/-- A tree as it is written. -/
def write : Node → List Char
  | .text s => escaped σ.inText s.toList
  | .element tag attributes [] =>
    '<' :: (tag.toList ++ (writeAttributes σ.inAttribute attributes ++ σ.emptyEnd))
  | .element tag attributes (n :: rest) =>
    '<' :: (tag.toList ++ (writeAttributes σ.inAttribute attributes ++
      '>' :: (writeAll (n :: rest) ++ '<' :: '/' :: (tag.toList ++ ['>']))))

/-- Trees as they are written, one after another. -/
def writeAll : List Node → List Char
  | [] => []
  | n :: rest => write n ++ writeAll rest

end

mutual

/-- A tree as it is read after it was written. -/
def readBack : Node → Node
  | .text s => .text (String.ofList (unifyLineEnds s.toList))
  | .element tag attributes content =>
    .element tag (readAttributes σ.valueRead attributes) (readBackAll content)

/-- Trees as they are read after they were written. -/
def readBackAll : List Node → List Node
  | [] => []
  | n :: rest => readBack n :: readBackAll rest

end

@[simp]
theorem writeAll_append (ns ms : List Node) :
    σ.writeAll (ns ++ ms) = σ.writeAll ns ++ σ.writeAll ms := by
  induction ns with
  | nil => rfl
  | cons n ns ih => simp [writeAll, ih]

theorem write_of_content (tag : String) (attributes : List (String × String)) {content : List Node}
    (h : content ≠ []) : σ.write (.element tag attributes content) =
      '<' :: (tag.toList ++ (writeAttributes σ.inAttribute attributes ++
        '>' :: (σ.writeAll content ++ '<' :: '/' :: (tag.toList ++ ['>'])))) := by
  obtain ⟨n, rest, rfl⟩ := List.exists_cons_of_ne_nil h
  rfl

@[simp]
theorem readBackAll_eq_map (ns : List Node) : σ.readBackAll ns = ns.map σ.readBack := by
  induction ns with
  | nil => rfl
  | cons n ns ih => simp [readBackAll, ih]

end Style

mutual

/-- A tree that can be written and read: names are plain, a document may hold all characters, no
text is empty and no two texts meet. -/
def Node.Sound : Node → Prop
  | .text s => s ≠ "" ∧ ∀ c ∈ s.toList, isChar c = true
  | .element tag attributes content =>
    isPlainName tag.toList = true ∧ AttributesSound attributes ∧ SoundAll content

/-- Trees that can be written and read one after another. -/
def SoundAll : List Node → Prop
  | [] => True
  | n :: rest =>
    n.Sound ∧ (n.isElement = true ∨ ∀ m ∈ rest.head?, m.isElement = true) ∧ SoundAll rest

end

/-! ## Line ends -/

theorem unifyLineEnds_append (xs ys : List Char) (h : ys.head? ≠ some '\n') :
    unifyLineEnds (xs ++ ys) = unifyLineEnds xs ++ unifyLineEnds ys := by
  fun_induction unifyLineEnds xs with
  | case1 => rfl
  | case2 rest ih => rw [List.cons_append, List.cons_append, unifyLineEnds, ih, List.cons_append]
  | case3 rest hrest ih =>
    rw [List.cons_append, unifyLineEnds, ih, List.cons_append]
    intro more hmore
    cases rest with
    | nil => exact h (by simpa using congrArg List.head? hmore)
    | cons c rest =>
      rw [List.cons_append, List.cons.injEq] at hmore
      exact hrest rest (by rw [hmore.1])
  | case4 c rest _ hreturn ih =>
    rw [List.cons_append, unifyLineEnds, ih, List.cons_append]
    · exact fun _ hc => absurd hc hreturn
    · exact hreturn

theorem unifyLineEnds_ne_nil {cs : List Char} (h : cs ≠ []) : unifyLineEnds cs ≠ [] := by
  fun_cases unifyLineEnds cs <;> simp_all

/-! ## Steps of the reader -/

section Steps

variable (scope : Scope) (fuel : Nat)

/-- A run of text before a mark is read as it is, with line feeds for line ends. -/
theorem takeText_append (run : List Char) {mark : Char} (hmark : mark = '<' ∨ mark = '&')
    (rest : List Char) (hrun : ∀ c ∈ run, endsText c = false ∧ c ≠ '>') :
    takeText (run ++ mark :: rest) = (unifyLineEnds run, mark :: rest) := by
  fun_induction unifyLineEnds run with
  | case1 => rcases hmark with rfl | rfl <;> rfl
  | case2 run ih =>
    rw [List.cons_append, List.cons_append, takeText, ih (fun c hc => hrun c (by simp [hc]))]
  | case3 run hfeed ih =>
    rw [List.cons_append, takeText, ih (fun c hc => hrun c (by simp [hc]))]
    · simp
    · intro more hmore
      cases run with
      | nil => rcases hmark with rfl | rfl <;> simp at hmore
      | cons c run =>
        rw [List.cons_append, List.cons.injEq] at hmore
        exact hfeed run (by rw [hmore.1])
  | case4 c run _ hreturn ih =>
    have hc := hrun c List.mem_cons_self
    rw [List.cons_append, takeText, if_neg (by simp [hc.1]),
      ih (fun c hc => hrun c (by simp [hc]))]
    · exact fun h _ => absurd h hreturn
    · exact fun _ h _ => absurd h hreturn
    · exact hreturn
    · intro more _ hmore
      -- what follows two brackets is the mark or belongs to the run
      match run with
      | [] => rcases hmark with rfl | rfl <;> simp at hmore
      | [d] => rcases hmark with rfl | rfl <;> simp at hmore
      | d :: e :: run =>
        simp only [List.cons_append, List.cons.injEq] at hmore
        exact (hrun e (by simp)).2 hmore.2.1

theorem content_takeText {c : Char} {more s rest : List Char} (hlt : c ≠ '<') (hamp : c ≠ '&')
    (h : takeText (c :: more) = (s, rest)) (hs : s ≠ []) :
    content scope (fuel + 1) (c :: more) =
      (content scope fuel rest).map fun (ns, rest) => (prepend s ns, rest) := by
  rw [content]
  · rw [h]
    split <;> simp_all
  all_goals simp [hlt, hamp]

theorem content_reference {p : Piece} {c : Char} {body rest : List Char}
    (h : takeReference ('&' :: body) body = .ok (p, rest)) (hp : p.referent? = some c) :
    content scope (fuel + 1) ('&' :: body) =
      (content scope fuel rest).map fun (ns, rest) => (prepend [c] ns, rest) := by
  rw [content]
  simp only [h, piece, Except.mapError]
  cases p with
  | char d => simp [Piece.referent?] at hp
  | number d place => cases hp; rfl
  | entity name place =>
    simp only [Piece.referent?] at hp
    simp [replacement, hp]

theorem content_element {c : Char} (hc : isNameStart c = true) (more : List Char) :
    content scope (fuel + 1) ('<' :: c :: more) =
      match element scope fuel ('<' :: c :: more) (c :: more) with
      | .error stop => .error stop
      | .ok (n, rest) => (content scope fuel rest).map fun (ns, rest) => (n :: ns, rest) := by
  have hslash := ne_of_isNameStart hc (d := '/') (by decide)
  have hbang := ne_of_isNameStart hc (d := '!') (by decide)
  have hask := ne_of_isNameStart hc (d := '?') (by decide)
  rw [content]
  all_goals first | rfl | simp [hslash, hbang, hask]

end Steps

/-! ## Texts -/

theorem prepend_append (s t : List Char) (nodes : List Node) :
    prepend s (prepend t nodes) = prepend (s ++ t) nodes := by
  cases s with
  | nil => rfl
  | cons c s =>
    cases t with
    | nil => simp [prepend]
    | cons d t =>
      cases nodes with
      | nil => simp [prepend, String.append_assoc]
      | cons n nodes => cases n <;> simp [prepend, String.append_assoc]

theorem escaped_of_kept {table : Char → Option String} {run : List Char}
    (h : ∀ c ∈ run, table c = none) : escaped table run = run := by
  induction run with
  | nil => rfl
  | cons c run ih =>
    rw [escaped_cons_kept (h c List.mem_cons_self),
      ih fun d hd => h d (List.mem_cons_of_mem c hd)]

section Texts

variable (σ : Style)

/-- A text is a run of characters that are kept, and what begins with one that is not. -/
theorem Style.exists_run (cs : List Char) : ∃ run left, cs = run ++ left ∧
    (∀ c ∈ run, σ.inText c = none) ∧ ∀ c ∈ left.head?, (σ.inText c).isSome := by
  refine ⟨cs.takeWhile fun c => (σ.inText c).isNone, cs.dropWhile fun c => (σ.inText c).isNone,
    List.takeWhile_append_dropWhile.symm, ?_, ?_⟩
  · intro c hc
    simpa using List.mem_takeWhile_imp hc
  · intro c hc
    have := List.head?_dropWhile_not (fun c => (σ.inText c).isNone) cs
    rw [Option.mem_def.mp hc] at this
    simpa [Option.isSome_iff_ne_none] using this

theorem Style.exists_mark {left : List Char} (h : ∀ c ∈ left.head?, (σ.inText c).isSome)
    (after : List Char) : ∃ mark more, escaped σ.inText left ++ '<' :: after = mark :: more ∧
      (mark = '<' ∨ mark = '&') := by
  cases left with
  | nil => exact ⟨'<', after, rfl, .inl rfl⟩
  | cons c left =>
    obtain ⟨s, hs⟩ := Option.isSome_iff_exists.mp (h c rfl)
    obtain ⟨body, hbody, -⟩ := exists_reference (σ.inText_escapes.known c s hs)
    rw [escaped_cons_written hs, hbody]
    exact ⟨'&', _, rfl, .inr rfl⟩

/-- A kept run before a mark is read at once. -/
theorem content_run (scope : Scope) (fuel : Nat) {run : List Char} (hne : run ≠ [])
    (hkept : ∀ c ∈ run, σ.inText c = none) (hchar : ∀ c ∈ run, isChar c = true) {mark : Char}
    (hmark : mark = '<' ∨ mark = '&') (more : List Char) :
    content scope (fuel + 1) (run ++ mark :: more) =
      (content scope fuel (mark :: more)).map fun (ns, rest) =>
        (prepend (unifyLineEnds run) ns, rest) := by
  have hrun : ∀ c ∈ run, endsText c = false ∧ c ≠ '>' := by
    intro c hc
    obtain ⟨hlt, hamp, hgt⟩ := σ.inText_escapes.ne_of_kept (hkept c hc)
    exact ⟨by simp [endsText, hlt, hamp, hchar c hc], hgt⟩
  have htake := takeText_append run hmark more hrun
  obtain ⟨c, run, rfl⟩ := List.exists_cons_of_ne_nil hne
  obtain ⟨hlt, hamp, -⟩ := σ.inText_escapes.ne_of_kept (hkept c List.mem_cons_self)
  exact content_takeText scope fuel hlt hamp htake (unifyLineEnds_ne_nil hne)

/-- A text that was written is read before what follows it, with line feeds for line ends. -/
theorem content_text (scope : Scope) {after : List Char} {ns : List Node}
    {rest : List Char} {need : Nat}
    (hafter : ∀ fuel, need ≤ fuel → content scope fuel ('<' :: after) = .ok (ns, rest))
    (cs : List Char) (hchar : ∀ c ∈ cs, isChar c = true) (fuel : Nat)
    (hfuel : (escaped σ.inText cs).length + need ≤ fuel) :
    content scope fuel (escaped σ.inText cs ++ '<' :: after) =
      .ok (prepend (unifyLineEnds cs) ns, rest) := by
  -- by the length of the text: what is read at once is a run of kept characters, or one reference
  induction hn : cs.length using Nat.strong_induction_on generalizing cs fuel with
  | _ n ih =>
    obtain ⟨run, left, rfl, hkept, hleft⟩ := σ.exists_run cs
    have hread : ∀ fuel, (escaped σ.inText left).length + need ≤ fuel →
        content scope fuel (escaped σ.inText left ++ '<' :: after) =
          .ok (prepend (unifyLineEnds left) ns, rest) := by
      intro fuel hfuel
      cases left with
      | nil => simpa [prepend, unifyLineEnds] using hafter fuel (by simpa using hfuel)
      | cons c left =>
        obtain ⟨s, hs⟩ := Option.isSome_iff_exists.mp (hleft c rfl)
        obtain ⟨body, hbody, href⟩ := exists_reference (σ.inText_escapes.known c s hs)
        rw [escaped_cons_written hs, hbody] at hfuel ⊢
        obtain ⟨fuel, rfl⟩ := Nat.exists_eq_add_one_of_ne_zero (n := fuel) (by simp at hfuel; omega)
        obtain ⟨p, hp, hpc⟩ := href
          ('&' :: (body ++ (escaped σ.inText left ++ '<' :: after)))
          (escaped σ.inText left ++ '<' :: after)
        have hreturn : c ≠ '\r' := by rintro rfl; simp [σ.inText_return] at hs
        rw [List.cons_append, List.cons_append, List.append_assoc,
          content_reference scope fuel hp hpc,
          ih left.length (by simp at hn; omega) left (fun d hd => hchar d (by simp [hd])) fuel
            (by simp at hfuel; omega) rfl]
        simp [Except.map, prepend_append, unifyLineEnds, hreturn]
    by_cases hne : run = []
    · subst hne
      exact hread fuel (by simpa using hfuel)
    · have hfeed : left.head? ≠ some '\n' := fun h => by
        simpa [σ.inText_feed] using hleft '\n' h
      have hlen := List.length_pos_of_ne_nil hne
      rw [escaped_append, escaped_of_kept hkept, List.length_append] at hfuel
      obtain ⟨fuel, rfl⟩ := Nat.exists_eq_add_one_of_ne_zero (n := fuel) (by omega)
      obtain ⟨mark, more, hmore, hmark⟩ := σ.exists_mark hleft after
      have hleftRead := hread fuel (by omega)
      rw [escaped_append, escaped_of_kept hkept, List.append_assoc, hmore] at *
      rw [content_run σ scope fuel hne hkept (fun c hc => hchar c (by simp [hc])) hmark, hleftRead]
      simp [Except.map, prepend_append, unifyLineEnds_append _ _ hfeed]

end Texts

/-! ## Elements -/

theorem takeEndTag_written {tag : List Char} (h : isPlainName tag = true) (rest : List Char) :
    takeEndTag (tag ++ '>' :: rest) = .ok (tag, rest) := by
  obtain ⟨c, more, rfl, hc⟩ := exists_head_of_isPlainName h
  have hmore : ∀ d ∈ more, isEndNameChar d = true := fun d hd => by
    simp [isEndNameChar, isNameChar_of_mem h d (List.mem_cons_of_mem c hd)]
  have hgt : ¬ isEndNameChar '>' = true := by decide
  rw [List.cons_append, takeEndTag, if_pos hc, List.takeWhile_append_of_pos hmore,
    List.dropWhile_append_of_pos hmore, List.takeWhile_cons_of_neg hgt,
    List.dropWhile_cons_of_neg hgt, List.append_nil]
  rfl

section Element

variable {scope inner : Scope} {place cs : List Char} {tag : RawTag} {name : String}
  {attributes : List (String × String)} {rest : List Char} (fuel : Nat)

theorem element_empty (htag : takeTag cs = .ok (tag, rest)) (hempty : tag.isEmpty = true)
    (hopen : openTag scope place tag = .ok (name, attributes, inner)) :
    element scope (fuel + 1) place cs = .ok (.element name attributes [], rest) := by
  rw [element]
  simp [htag, piece, Except.mapError, hopen, hempty]

theorem element_full {nodes : List Node} {ending after : List Char}
    (htag : takeTag cs = .ok (tag, rest)) (hempty : tag.isEmpty = false)
    (hopen : openTag scope place tag = .ok (name, attributes, inner))
    (hcontent : content inner fuel rest = .ok (nodes, '<' :: '/' :: ending))
    (hending : takeEndTag ending = .ok (tag.name, after)) :
    element scope (fuel + 1) place cs = .ok (.element name attributes nodes, after) := by
  rw [element]
  simp [htag, piece, Except.mapError, hopen, hempty, hcontent, hending]

end Element

theorem prepend_of_head {s : List Char} (hs : s ≠ []) {nodes : List Node}
    (h : ∀ m ∈ nodes.head?, m.isElement = true) :
    prepend s nodes = .text (String.ofList s) :: nodes := by
  obtain ⟨c, s, rfl⟩ := List.exists_cons_of_ne_nil hs
  cases nodes with
  | nil => rfl
  | cons n nodes =>
    cases n with
    | text t => simpa [Node.isElement] using h (.text t) rfl
    | element => rfl

@[simp]
theorem Style.readBack_isElement (σ : Style) (n : Node) :
    (σ.readBack n).isElement = n.isElement := by
  cases n <;> rfl

/-- What is written for an element begins with its tag. -/
theorem Style.exists_write (σ : Style) {n : Node} (helement : n.isElement = true)
    (hsound : n.Sound) : ∃ c more, σ.write n = '<' :: c :: more ∧ isNameStart c = true := by
  cases n with
  | text s => simp [Node.isElement] at helement
  | element tag attributes content =>
    obtain ⟨c, more, htag, hc⟩ := exists_head_of_isPlainName hsound.1
    cases content with
    | nil => exact ⟨c, _, by rw [write, htag]; rfl, hc⟩
    | cons n content => exact ⟨c, _, by rw [write, htag]; rfl, hc⟩

/-- What is written for nodes that do not begin with a text begins with a tag, if an end tag
follows. -/
theorem Style.exists_writeAll (σ : Style) {ns : List Node}
    (h : ∀ m ∈ ns.head?, m.isElement = true) (hsound : SoundAll ns) (rest : List Char) :
    ∃ after, σ.writeAll ns ++ '<' :: '/' :: rest = '<' :: after := by
  cases ns with
  | nil => exact ⟨_, rfl⟩
  | cons n ns =>
    obtain ⟨c, more, hwrite, -⟩ := σ.exists_write (h n rfl) hsound.1
    exact ⟨_, by rw [writeAll, hwrite]; rfl⟩

mutual

/-- An element that was written is read back before whatever follows. -/
theorem element_write (σ : Style) {scope : Scope} (hscope : scope.IsPlain) (place : List Char)
    (n : Node) (helement : n.isElement = true) (hsound : n.Sound) (fuel : Nat) (rest : List Char)
    (hfuel : (σ.write n).length ≤ fuel) :
    element scope fuel place ((σ.write n).tail ++ rest) = .ok (σ.readBack n, rest) := by
  match n, helement, hsound, hfuel with
  | .element tag attributes [], _, hsound, hfuel =>
    obtain ⟨fuel, rfl⟩ := Nat.exists_eq_add_one_of_ne_zero (n := fuel) (by
      simp [Style.write] at hfuel; omega)
    obtain ⟨htag, hattributes, -⟩ := hsound
    obtain ⟨raws, hraws, hread⟩ := takeTag_written σ.inAttribute_escapes htag hattributes
      (σ.emptyEnd_ends rest)
    have hopen := openTag_written σ.inAttribute_reads hscope place htag hattributes hraws true
    simp only [Style.write, List.tail_cons, List.append_assoc, Style.readBack, Style.readBackAll]
    exact element_empty fuel hread rfl hopen
  | .element tag attributes (m :: content), _, hsound, hfuel =>
    obtain ⟨fuel, rfl⟩ := Nat.exists_eq_add_one_of_ne_zero (n := fuel) (by
      simp [Style.write] at hfuel; omega)
    obtain ⟨htag, hattributes, hcontent⟩ := hsound
    obtain ⟨raws, hraws, hread⟩ := takeTag_written σ.inAttribute_escapes htag hattributes
      (.opening (σ.writeAll (m :: content) ++ '<' :: '/' :: (tag.toList ++ '>' :: rest)))
    have hopen := openTag_written σ.inAttribute_reads hscope place htag hattributes hraws false
    have hinside := content_writeAll σ hscope (m :: content) hcontent fuel
      (tag.toList ++ '>' :: rest) (by simp [Style.write] at hfuel ⊢; omega)
    simp only [Style.write, List.tail_cons, List.append_assoc, List.cons_append, List.nil_append,
      Style.readBack]
    exact element_full fuel hread rfl hopen hinside (takeEndTag_written htag rest)

/-- Content that was written is read back before an end tag. -/
theorem content_writeAll (σ : Style) {scope : Scope} (hscope : scope.IsPlain) (ns : List Node)
    (hsound : SoundAll ns) (fuel : Nat) (rest : List Char)
    (hfuel : (σ.writeAll ns).length + 1 ≤ fuel) :
    content scope fuel (σ.writeAll ns ++ '<' :: '/' :: rest) =
      .ok (σ.readBackAll ns, '<' :: '/' :: rest) := by
  match ns, hsound with
  | [], _ =>
    obtain ⟨fuel, rfl⟩ := Nat.exists_eq_add_one_of_ne_zero (n := fuel) (by omega)
    rfl
  | .text s :: ns, hsound =>
    obtain ⟨⟨hne, hchar⟩, hhead, hrest⟩ := hsound
    have hhead : ∀ m ∈ ns.head?, m.isElement = true := by simpa [Node.isElement] using hhead
    obtain ⟨after, hafter⟩ := σ.exists_writeAll hhead hrest rest
    have hread : ∀ fuel, (σ.writeAll ns).length + 1 ≤ fuel →
        content scope fuel ('<' :: after) = .ok (σ.readBackAll ns, '<' :: '/' :: rest) :=
      fun fuel hfuel => hafter ▸ content_writeAll σ hscope ns hrest fuel rest hfuel
    simp only [Style.writeAll, Style.write, List.length_append] at hfuel
    have hs : s.toList ≠ [] := by simpa using hne
    simp only [Style.writeAll, Style.write, Style.readBackAll, Style.readBack, List.append_assoc]
    rw [hafter, content_text σ scope hread s.toList hchar fuel (by omega),
      prepend_of_head (unifyLineEnds_ne_nil hs)]
    intro m hm
    rw [Style.readBackAll_eq_map, List.head?_map, Option.mem_def, Option.map_eq_some_iff] at hm
    obtain ⟨n, hn, rfl⟩ := hm
    rw [Style.readBack_isElement]
    exact hhead n hn
  | .element tag attributes inside :: ns, hsound =>
    obtain ⟨hn, -, hrest⟩ := hsound
    obtain ⟨fuel, rfl⟩ := Nat.exists_eq_add_one_of_ne_zero (n := fuel) (by omega)
    obtain ⟨c, more, hwrite, hc⟩ := σ.exists_write (n := .element tag attributes inside) rfl hn
    simp only [Style.writeAll, List.length_append] at hfuel
    have hpos := congrArg List.length hwrite
    simp only [List.length_cons] at hpos
    have helement := element_write σ hscope
      ('<' :: c :: (more ++ (σ.writeAll ns ++ '<' :: '/' :: rest)))
      (.element tag attributes inside) rfl hn fuel (σ.writeAll ns ++ '<' :: '/' :: rest) (by omega)
    have hcontent := content_writeAll σ hscope ns hrest fuel rest (by omega)
    rw [hwrite, List.tail_cons, List.cons_append] at helement
    simp only [Style.writeAll, Style.readBackAll, List.append_assoc]
    rw [hwrite, List.cons_append, List.cons_append, content_element scope fuel hc, helement]
    simp [hcontent, Except.map]

end

end LoadPlan.Xml

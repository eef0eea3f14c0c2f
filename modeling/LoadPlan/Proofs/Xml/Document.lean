import LoadPlan.Proofs.Text.Utf8
import LoadPlan.Proofs.Xml.Normal

/-!
# Reading a document that was written

The bytes of a document are read in UTF-8, with or without a declaration, and white space may stand
around the root. So both layouts of a sound tree are read, the indented one with its line breaks
as texts (`read_document`).
-/

namespace LoadPlan.Xml

/-! ## The root -/

theorem skipSpace_append {before : List Char} (hbefore : ∀ c ∈ before, isSpace c = true)
    (rest : List Char) : skipSpace (before ++ rest) = skipSpace rest :=
  List.dropWhile_append_of_pos hbefore

theorem skipSpace_of_all {after : List Char} (hafter : ∀ c ∈ after, isSpace c = true) :
    skipSpace after = [] :=
  List.dropWhile_eq_nil_iff.mpr hafter

theorem take_element {c : Char} (hc : isNameStart c = true) (more : List Char) :
    Prolog.take ('<' :: c :: more) = .ok (.element, '<' :: c :: more) := by
  have hbang := ne_of_isNameStart hc (d := '!') (by decide)
  have hask := ne_of_isNameStart hc (d := '?') (by decide)
  rw [Prolog.take, Prolog.takeMarkup, if_pos hc]
  all_goals simp [hbang, hask]

theorem next_element {before : List Char} (hbefore : ∀ c ∈ before, isSpace c = true) {c : Char}
    (hc : isNameStart c = true) (more : List Char) :
    Doctype.next (before ++ '<' :: c :: more) =
      .ok (.element, '<' :: c :: more, '<' :: c :: more) := by
  have hskip : skipSpace (before ++ '<' :: c :: more) = '<' :: c :: more := by
    rw [skipSpace_append hbefore, skipSpace, List.dropWhile_cons_of_neg (by decide)]
  rw [Doctype.next, hskip]
  simp only [take_element hc]
  rfl

/-- A root that was written is read, whatever white space stands around it. -/
theorem documentBody_write (σ : Style) {n : Node} (helement : n.isElement = true) (hsound : n.Sound)
    (standalone : Bool) (before after : List Char) (hbefore : ∀ c ∈ before, isSpace c = true)
    (hafter : ∀ c ∈ after, isSpace c = true) :
    documentBody standalone (before ++ (σ.write n ++ after)) = .ok (σ.readBack n) := by
  obtain ⟨c, more, hwrite, hc⟩ := σ.exists_write helement hsound
  have hscope : Scope.IsPlain
      { doctype := { standalone }, sizes := Doctype.sizes { standalone } } :=
    ⟨rfl, rfl⟩
  have hread := element_write σ hscope (σ.write n ++ after) n helement hsound
    (4 * (σ.write n ++ after).length + 4) after (by rw [List.length_append]; omega)
  have hroot : root { standalone } (σ.write n ++ after) = .ok (σ.readBack n) := by
    rw [root, show (σ.write n ++ after).drop 1 = (σ.write n).tail ++ after by rw [hwrite]; rfl]
    simp only [hread]
    simp [epilog, skipSpace_of_all hafter, Except.map]
  rw [documentBody, prolog, hwrite, List.cons_append, List.cons_append, next_element hbefore hc]
  simpa [hwrite] using hroot

/-! ## Bytes -/

/-- Only the character of number zero begins with a zero byte. -/
theorem exists_first_byte {c : Char} (hc : c.toNat ≠ 0) :
    ∃ b bytes, String.utf8EncodeChar c = b :: bytes ∧ b ≠ 0 := by
  have hne : ∀ n : Nat, 0 < n → n < 256 → UInt8.ofNat n ≠ 0 := by
    intro n hpos hlt h
    have := congrArg UInt8.toNat h
    rw [UInt8.toNat_ofNat', Nat.mod_eq_of_lt (by omega)] at this
    simp at this
    omega
  have hval : c.val.toNat = c.toNat := rfl
  fun_cases String.utf8EncodeChar c with
  | case1 v h => exact ⟨_, _, rfl, hne v (by omega) (by omega)⟩
  | case2 v h1 h2 => exact ⟨_, _, rfl, hne _ (by omega) (by omega)⟩
  | case3 v h1 h2 h3 => exact ⟨_, _, rfl, hne _ (by omega) (by omega)⟩
  | case4 v h1 h2 h3 => exact ⟨_, _, rfl, hne _ (by omega) (by omega)⟩

section Bytes

variable {s : String} {c : Char} {more : List Char} (hs : s.toList = '<' :: c :: more)
  (hc : c.toNat ≠ 0)

include hs hc in
/-- A text that begins with a tag or a declaration is taken for what it is, UTF-8. -/
theorem detect_toUTF8 : Encoding.isHalfMark s.toUTF8.data.toList = false ∧
    Encoding.detect s.toUTF8.data.toList = .utf8 := by
  obtain ⟨b, bytes, hb, hne⟩ := exists_first_byte hc
  have hbytes : s.toUTF8.data.toList =
      0x3c :: b :: (bytes ++ more.flatMap String.utf8EncodeChar) := by
    rw [Text.Utf8.toUTF8_bytes, hs, List.flatMap_cons, List.flatMap_cons, hb]
    rfl
  rw [hbytes]
  exact ⟨rfl, by simp [Encoding.detect, hne]⟩

@[simp]
theorem decode_toUTF8 (s : String) :
    Encoding.utf8.decode s.toUTF8.data.toList = ⟨s.toList, false⟩ := by
  rw [Encoding.decode, decodeUtf8, Text.Utf8.decodeFrom_toUTF8]

include hs hc in
/-- A text that begins with a tag is read from there on. -/
theorem read_of_tag (hask : c ≠ '?') :
    read s.toUTF8.data.toList = placedIn ⟨s.toList, false⟩ (documentBody false s.toList) := by
  obtain ⟨hhalf, hdetect⟩ := detect_toUTF8 hs hc
  have hmark : skipMark s.toList = s.toList := by rw [hs]; rfl
  have hstart : startsDeclaration s.toList = false := by
    rw [hs]
    unfold startsDeclaration
    split <;> simp_all
  unfold read
  rw [hhalf, hdetect]
  simp only [decode_toUTF8, hmark, hstart]
  rfl

end Bytes

/-- What the declaration says between its target and its end. -/
def declared : List Char :=
  " version=\"1.0\" encoding=\"UTF-8\"".toList

theorem takeInstruction_declaration (rest : List Char) :
    takeInstruction ("xml".toList ++ (declared ++ '?' :: '>' :: rest)) =
      .ok (.declaration, rest) :=
  rfl

/-- A text after the declaration is read in UTF-8. -/
theorem read_of_declaration {s : String} {rest : List Char}
    (hs : s.toList = declaration.toList ++ rest) : read s.toUTF8.data.toList =
      placedIn ⟨s.toList, false⟩ (documentBody false ('\n' :: rest)) := by
  have hsplit : s.toList =
      '<' :: '?' :: ("xml".toList ++ (declared ++ '?' :: '>' :: '\n' :: rest)) := by
    rw [hs]
    rfl
  obtain ⟨hhalf, hdetect⟩ := detect_toUTF8 hsplit (by decide)
  have hmark : skipMark s.toList = s.toList := by rw [hsplit]; rfl
  have hstart : startsDeclaration s.toList = true := by rw [hsplit]; rfl
  have htake : takeInstruction (s.toList.drop 2) = .ok (.declaration, '\n' :: rest) := by
    rw [hsplit]
    exact takeInstruction_declaration _
  have hsaid : (s.toList.drop 5).take (s.toList.length - 5 - ('?' :: '>' :: '\n' :: rest).length) =
      declared := by
    rw [hsplit]
    simp
  unfold read
  rw [hhalf, hdetect]
  simp only [decode_toUTF8, hmark, hstart, htake, piece, Except.mapError, hsaid]
  rfl

/-! ## Both layouts -/

/-- The compact layout of a tree is read as the tree, with line feeds for line ends of texts. -/
theorem read_compact {n : Node} (helement : n.isElement = true) (hsound : n.Sound) :
    read n.compact.toUTF8.data.toList = .ok n.unifyLines := by
  obtain ⟨c, more, hwrite, hc⟩ := compactStyle.exists_write helement hsound
  have hs : n.compact.toList = '<' :: c :: more := by rw [compact_toList, hwrite]
  have hnul : c.toNat ≠ 0 := fun h => by
    have hzero : c = '\x00' := Char.toNat_inj.mp h
    simp [hzero, isNameStart] at hc
  rw [read_of_tag hs hnul (ne_of_isNameStart hc (by decide)), compact_toList]
  have := documentBody_write compactStyle helement hsound false [] [] (by simp)
    (by simp)
  rw [List.nil_append, List.append_nil] at this
  rw [this, compactStyle_readBack]
  rfl

/-- The indented layout of a tree is read as the tree with its line breaks. -/
theorem read_document {n : Node} (helement : n.isElement = true) (hsound : n.Sound)
    (htidy : n.Tidy) : read (document n).toUTF8.data.toList =
      .ok (indentedStyle.readBack (n.laidOut 0)) := by
  have hs : (document n).toList =
      declaration.toList ++ (indentedStyle.write (n.laidOut 0) ++ ['\n']) := by
    rw [document, String.toList_append, indented_toList]
    rfl
  have := documentBody_write indentedStyle (n := n.laidOut 0)
    (by rw [Node.laidOut_isElement, helement]) (Node.laidOut_sound 0 n htidy hsound) false ['\n']
    ['\n'] (by simp [isSpace]) (by simp [isSpace])
  rw [read_of_declaration hs, ← List.singleton_append, this]
  rfl

end LoadPlan.Xml

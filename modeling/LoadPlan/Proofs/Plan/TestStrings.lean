import LoadPlan.Proofs.Plan.ReadBack

/-!
# Names of test strings

The one test string of an assertion is named by the hash of its pattern, in decimal. The name is
read as it was written, but in the text carriage returns are read as line feeds: the name is the
hash of the text that is read if the pattern has none, and may be another number if it has.
-/

namespace LoadPlan.Plan

open Xml (Node ReadFrom readText readValue isChar isSpace)

/-! ## Integers in decimal -/

theorem isDigit_of_mem_repr (n : Nat) : ∀ c ∈ n.repr.toList, c.isDigit = true := by
  intro c hc
  rw [Nat.repr_eq_ofList_toDigits, String.toList_ofList] at hc
  exact Nat.isDigit_of_mem_toDigits (by decide) (by decide) hc

theorem mem_toString_int (n : Int) : ∀ c ∈ (toString n).toList, c = '-' ∨ c.isDigit = true := by
  intro c hc
  rw [Int.toString_eq_repr, Int.repr_eq_if] at hc
  by_cases hsign : 0 ≤ n
  · rw [if_pos hsign] at hc
    exact .inr (isDigit_of_mem_repr _ c hc)
  · rw [if_neg hsign, String.toList_append, List.mem_append] at hc
    rcases hc with hminus | hdigit
    · exact .inl (List.mem_singleton.mp hminus)
    · exact .inr (isDigit_of_mem_repr _ c hdigit)

/-- Signs and digits can stand in a document and are not blank. -/
theorem plain_of_isDigit {c : Char} (h : c = '-' ∨ c.isDigit = true) :
    isChar c = true ∧ isSpace c = false := by
  rcases h with rfl | hdigit
  · decide
  · have hrange : 48 ≤ c.toNat ∧ c.toNat ≤ 57 := by
      simpa [Char.isDigit, UInt32.le_iff_toNat_le] using hdigit
    have hne (d : Char) (hd : d.toNat < 48) : c ≠ d := by
      rintro rfl
      omega
    constructor
    · simp [isChar]
      omega
    · simp [isSpace, hne ' ' (by decide), hne '\t' (by decide), hne '\n' (by decide),
        hne '\r' (by decide)]

theorem mem_toString_int_plain (n : Int) :
    ∀ c ∈ (toString n).toList, isChar c = true ∧ isSpace c = false :=
  fun c hc => plain_of_isDigit (mem_toString_int n c hc)

@[simp]
theorem planText_int (n : Int) : planText (.int n) = toString n := by
  change String.ofList ((toString n).toList.filter isChar) = toString n
  rw [List.filter_eq_self.mpr fun c hc => (mem_toString_int_plain n c hc).1, String.ofList_toList]

/-- An integer is read as it is. -/
@[simp]
theorem readValue_planText_int (n : Int) : readValue (planText (.int n)) = toString n := by
  rw [planText_int, Xml.readValue_eq_self]
  exact fun c hc => .inr (mem_toString_int_plain n c hc).2

theorem readText_planText_int (n : Int) : readText (planText (.int n)) = toString n := by
  rw [planText_int, Xml.readText_eq_self]
  intro hreturn
  have hblank := (mem_toString_int_plain n '\r' hreturn).2
  simp [isSpace] at hblank

/-! ## Assertions -/

/-- An assertion on a regular expression as it is read: it has one test string, the pattern, which
is named by the hash of the pattern. -/
structure HasTestString (a : RegexAssertion) (n : Node) : Prop where
  single : ∃ item, itemsOf n "Asserion.test_strings" = [item]
  text : ∀ item ∈ itemsOf n "Asserion.test_strings",
    item.ownText = readText (patternText a.expression)
  name : ∀ item ∈ itemsOf n "Asserion.test_strings",
    item.attribute? "name" = some (toString (Text.hash (patternText a.expression)))
  /-- The name is the hash of the text that is read if no carriage return is lost. -/
  named : '\r' ∉ (patternText a.expression).toList →
    ∀ item ∈ itemsOf n "Asserion.test_strings",
      item.attribute? "name" = some (toString (Text.hash item.ownText))

theorem attribute?_testString {item : Node} {a : RegexAssertion}
    (h : ReadFrom item (testString a).toNode) :
    item.attribute? "name" = some (toString (Text.hash (patternText a.expression))) := by
  have hname : (testString a).toNode.attribute? "name" =
      some (planText (.int (Text.hash (patternText a.expression)))) := rfl
  rw [h.attribute?, hname, Option.map_some, readValue_planText_int]

theorem hasTestString_of_readFrom {n : Node} {a : RegexAssertion}
    (h : ReadFrom n (regexElement a).element.toNode) : HasTestString a n := by
  obtain ⟨item, hitems, hitem⟩ := testString_readFrom h
  have htext := ownText_testString hitem
  have hname := attribute?_testString hitem
  refine ⟨⟨item, hitems⟩, ?_, ?_, ?_⟩
  · simpa [hitems] using htext
  · simpa [hitems] using hname
  · intro hreturn
    have hkept : item.ownText = patternText a.expression :=
      htext.trans ((Xml.readText_eq_self _).mpr hreturn)
    simpa [hitems, hkept] using hname

/-- The assertions of a plan that was read are those on the checked regular expressions. -/
theorem hasTestString_of_compiledTest (settings : Settings) {t : Test} {tree : Node}
    (h : ReadFrom tree (compiledTest settings t).part.toNode) :
    List.Forall₂ HasTestString (t.requests.flatMap checkedRegexes)
      (tree.withTag "ResponseAssertion") := by
  have hread := h.withTag "ResponseAssertion"
  rw [withTag_responseAssertion, List.forall₂_map_right_iff] at hread
  exact hread.flip.imp fun a n hn => hasTestString_of_readFrom hn

/-- In a rendered plan each assertion on a regular expression has one test string, which is named by
the hash of its pattern. -/
theorem testStrings_toXml {settings : Settings} {t : Test} {xml : String} {notices : List Notice}
    (h : (toXml settings t).outcome = (.ok xml, notices)) :
    ∃ tree, Xml.read xml.toUTF8.data.toList = .ok tree ∧
      List.Forall₂ HasTestString (t.requests.flatMap checkedRegexes)
        (tree.withTag "ResponseAssertion") := by
  obtain ⟨tree, hread, htree⟩ := readFrom_of_toXml settings h
  exact ⟨tree, hread, hasTestString_of_compiledTest settings htree⟩

theorem testStrings_toXml_sample : ∃ xml notices,
    (toXml {} sampleTest).outcome = (.ok xml, notices) ∧
      ∃ tree, Xml.read xml.toUTF8.data.toList = .ok tree ∧
        List.Forall₂ HasTestString (sampleTest.requests.flatMap checkedRegexes)
          (tree.withTag "ResponseAssertion") := by
  obtain ⟨xml, hxml⟩ := toXml_of_hasMethod {} hasMethod_sampleTest
  exact ⟨xml, _, hxml, testStrings_toXml hxml⟩

/-! ## A pattern with a carriage return -/

/-- Options of a request whose response must have a carriage return. -/
def returnPatternOptions : Value :=
  singleOptions (.mapping
    [(.text "name", .text "R"), (.text "url", .text "http://h/a"),
     (.text "assertions", .mapping
       [(.text "regex", .list
         [.mapping
           [(.text "subject", .text "Response Data"), (.text "expression", .text "\r")]])])])

/-- The assertion that the response has a carriage return. -/
def returnPattern : RegexAssertion where
  subject := .text "Response Data"
  expression := .text "\r"

/-- The request that the options describe. -/
def returnPatternRequest : Request where
  id := .int 2
  name := .text "R"
  url := .text "http://h/a"
  method := .text "GET"
  body := some {}
  assertions := some { duration := some {}, regex := [returnPattern] }

theorem returnPattern_built : (Test.ofOptions returnPatternOptions).outcome 1 =
    (.ok (singleTest returnPatternRequest), { nextId := 3 }) :=
  rfl

/-- The name of a test string that is a carriage return is not the hash of the text that is read. -/
theorem testStrings_not_named : ∃ xml notices tree item n,
    (Test.ofOptions returnPatternOptions).outcome 1 =
        (.ok (singleTest returnPatternRequest), { nextId := 3 }) ∧
      (toXml {} (singleTest returnPatternRequest)).outcome = (.ok xml, notices) ∧
      Xml.read xml.toUTF8.data.toList = .ok tree ∧
      n ∈ tree.withTag "ResponseAssertion" ∧ itemsOf n "Asserion.test_strings" = [item] ∧
      item.attribute? "name" = some "13" ∧
      item.ownText = "\n" ∧ toString (Text.hash item.ownText) = "10" := by
  have hget : HasMethod returnPatternRequest := hasMethod_of_isGet (isGet_text "GET")
  obtain ⟨xml, hxml⟩ := toXml_of_hasMethod {} (hasMethod_singleTest hget)
  obtain ⟨tree, hread, htree⟩ := readFrom_of_toXml {} hxml
  have hchecked : (singleTest returnPatternRequest).requests.flatMap checkedRegexes =
      [returnPattern] := rfl
  have hassertions := hasTestString_of_compiledTest {} htree
  rw [hchecked] at hassertions
  obtain ⟨n, rest, hn, -, htag⟩ := List.forall₂_cons_left_iff.mp hassertions
  obtain ⟨item, hitem⟩ := hn.single
  have hmem : item ∈ itemsOf n "Asserion.test_strings" := by simp [hitem]
  have htext : item.ownText = "\n" := (hn.text item hmem).trans (by decide)
  have hname : item.attribute? "name" = some "13" := (hn.name item hmem).trans (by decide)
  refine ⟨xml, _, tree, item, n, returnPattern_built, hxml, hread, ?_, hitem, hname, htext, ?_⟩
  · rw [htag]
    exact List.mem_cons_self
  · rw [htext]
    decide

end LoadPlan.Plan

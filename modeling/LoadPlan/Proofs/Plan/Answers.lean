import LoadPlan.Plan.Review
import LoadPlan.Proofs.Xml.Declared

/-!
# Documents that have a review

Every text, and every file that can be read, has a review or is found to be malformed, unless it
declares an encoding that cannot be read in (`review_answered`): of one that is not known, or whose
characters have several bytes, nothing is said about the document (`reviewText_unanswered`).
-/

namespace LoadPlan.Plan

open Xml

/-- What comes of reviewing a document: a review, or what is wrong with its markup, exactly if it
declares no encoding that is refused; else the fault of that encoding. -/
structure Answered (input : List UInt8) (malformed : Problem → Nat → Nat → Fault)
    (result : Except Fault Review) : Prop where
  answered : ((∃ review, result = .ok review) ∨
      ∃ problem line column, result = .error (malformed problem line column)) ↔
    ∀ name, Declares input name → (Encoding.ofName name).refusal? = none
  unknown : result = .error .noSuchEncoding ↔
    ∃ name, Declares input name ∧ Encoding.ofName name = .unknown
  multibyte : result = .error .multibyteEncoding ↔
    ∃ name, Declares input name ∧ Encoding.ofName name = .multibyte

/-- The review of a document in bytes. -/
def reviewBytes (malformed : Problem → Nat → Nat → Fault) (input : List UInt8) :
    Except Fault Review :=
  match Xml.read input with
  | .ok root => .ok (review root)
  | .error e => .error (documentFault malformed e)

theorem reviewText_eq (s : String) :
    reviewText s = reviewBytes .malformedDocument s.toUTF8.data.toList :=
  rfl

theorem reviewFile_eq {files : Files.Tree} {path : String} {bytes : List UInt8}
    (h : files.read (.ofString path) = .ok bytes) :
    reviewFile files path = reviewBytes .malformedFile bytes := by
  unfold reviewFile
  rw [h]
  rfl

section Reviews

variable {malformed : Problem → Nat → Nat → Fault}

/-- A fault that is not one of the markup is no answer. -/
theorem not_answered_of_ne {fault : Fault}
    (h : ∀ problem line column, malformed problem line column ≠ fault) :
    ¬((∃ review : Review, (.error fault : Except Fault Review) = .ok review) ∨
      ∃ problem line column,
        (.error fault : Except Fault Review) = .error (malformed problem line column)) := by
  rintro (⟨review, hreview⟩ | ⟨problem, line, column, hfault⟩)
  · cases hreview
  · exact h problem line column (Except.error.inj hfault).symm

/-- A document is answered as it is read, if the faults of markup are other ones than those of
encodings. -/
theorem reviewBytes_answered
    (hunknown : ∀ problem line column, malformed problem line column ≠ .noSuchEncoding)
    (hmultibyte : ∀ problem line column, malformed problem line column ≠ .multibyteEncoding)
    (input : List UInt8) : Answered input malformed (reviewBytes malformed input) := by
  unfold reviewBytes
  constructor
  · rw [← read_isMalformed_iff]
    rcases Xml.read input with (⟨problem, line, column⟩ | _ | _) | root
    · refine iff_of_true (.inr ⟨problem, line, column, rfl⟩) fun e he => ?_
      exact ⟨problem, line, column, (Except.error.inj he).symm⟩
    · refine iff_of_false (not_answered_of_ne hunknown) fun hall => ?_
      obtain ⟨_, _, _, he⟩ := hall _ rfl
      cases he
    · refine iff_of_false (not_answered_of_ne hmultibyte) fun hall => ?_
      obtain ⟨_, _, _, he⟩ := hall _ rfl
      cases he
    · exact iff_of_true (.inl ⟨_, rfl⟩) nofun
  · rw [← read_unknown_iff]
    rcases Xml.read input with (⟨problem, line, column⟩ | _ | _) | root
    · exact iff_of_false (fun h => hunknown _ _ _ (Except.error.inj h)) nofun
    · exact iff_of_true rfl rfl
    · exact iff_of_false nofun nofun
    · exact iff_of_false nofun nofun
  · rw [← read_multibyte_iff]
    rcases Xml.read input with (⟨problem, line, column⟩ | _ | _) | root
    · exact iff_of_false (fun h => hmultibyte _ _ _ (Except.error.inj h)) nofun
    · exact iff_of_false nofun nofun
    · exact iff_of_true rfl rfl
    · exact iff_of_false nofun nofun

end Reviews

/-- Every text and every file that can be read is answered with a review or with what is wrong with
its markup, unless its encoding is refused. -/
theorem review_answered (s : String) {files : Files.Tree} {path : String} {bytes : List UInt8}
    (h : files.read (.ofString path) = .ok bytes) :
    Answered s.toUTF8.data.toList .malformedDocument (reviewText s) ∧
      Answered bytes .malformedFile (reviewFile files path) := by
  rw [reviewText_eq, reviewFile_eq h]
  have htext (input : List UInt8) :
      Answered input .malformedDocument (reviewBytes .malformedDocument input) := by
    apply reviewBytes_answered
    · exact fun problem line column => nofun
    · exact fun problem line column => nofun
  have hfile (input : List UInt8) :
      Answered input .malformedFile (reviewBytes .malformedFile input) := by
    apply reviewBytes_answered
    · exact fun problem line column => nofun
    · exact fun problem line column => nofun
  exact ⟨htext _, hfile bytes⟩

/-- A document that declares an encoding. -/
def encodedText (name : String) : String :=
  "<?xml version=\"1.0\" encoding=\"" ++ name ++ "\"?><a/>"

/-- A plan in a file that declares an encoding. -/
def encodedFiles (name : String) : Files.Tree :=
  ⟨[(⟨"", ["p.jmx"]⟩, .file (encodedText name).toUTF8.data.toList)]⟩

theorem review_answered_encodedText :
    (encodedFiles "koi8-r").read (.ofString "p.jmx") =
        .ok (encodedText "koi8-r").toUTF8.data.toList ∧
      Answered (encodedText "big5").toUTF8.data.toList .malformedDocument
        (reviewText (encodedText "big5")) ∧
      Answered (encodedText "koi8-r").toUTF8.data.toList .malformedFile
        (reviewFile (encodedFiles "koi8-r") "p.jmx") := by
  have hread : (encodedFiles "koi8-r").read (.ofString "p.jmx") =
      .ok (encodedText "koi8-r").toUTF8.data.toList :=
    rfl
  exact ⟨hread, review_answered (encodedText "big5") hread⟩

/-- Documents with an encoding that is not known and with one of characters of several bytes have
neither a review nor a place of what is wrong. -/
theorem reviewText_unanswered :
    reviewText (encodedText "foo") = .error .noSuchEncoding ∧
      reviewText (encodedText "big5") = .error .multibyteEncoding := by
  decide +kernel

end LoadPlan.Plan

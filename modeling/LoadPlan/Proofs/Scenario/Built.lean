import LoadPlan.Proofs.Notice
import LoadPlan.Scenario.Options
import Mathlib.Data.List.Forall2

/-!
# What is built from options

What a build gives is described by a property of its results (`Gives`). A request that was built
from options has a method, a body and assertions (`Request.Built`), since what is not given is built
with defaults.
-/

namespace LoadPlan

namespace Build

variable {α β : Type} {P : α → Prop} {Q : β → Prop}

/-- What a build gives, if it does not fail, has a property. -/
def Gives (x : Build α) (P : α → Prop) : Prop :=
  EachRun x fun _ result _ => ∀ a, result = .ok a → P a

theorem Gives.of_run {x : Build α} (hx : Gives x P) {before after : BuildState} {a : α}
    (h : x.run before = (.ok a, after)) : P a :=
  EachRun.of_run hx h a rfl

theorem Gives.imp {x : Build α} (hx : Gives x P) {P' : α → Prop} (h : ∀ a, P a → P' a) :
    Gives x P' :=
  EachRun.imp hx fun hresult a ha => h a (hresult a ha)

theorem Gives.pure {a : α} (h : P a) : Gives (Pure.pure a : Build α) P :=
  EachRun.pure fun _ _ ha => Except.ok.inj ha ▸ h

theorem Gives.throw (f : Fault) : Gives (MonadExcept.throw f : Build α) P :=
  EachRun.throw fun _ => nofun

theorem Gives.bind {x : Build α} {f : α → Build β} (hx : Gives x P)
    (hf : ∀ a, P a → Gives (f a) Q) : Gives (x >>= f) Q :=
  EachRun.bind (S := fun a _ result _ => P a → ∀ b, result = .ok b → Q b) hx
    (fun a t ha => hf a ha t) (fun ha hb => hb (ha _ rfl)) fun _ => nofun

theorem Gives.then {x : Build α} {f : α → Build β} (hf : ∀ a, Gives (f a) Q) :
    Gives (x >>= f) Q :=
  bind (P := fun _ => True) (fun _ _ _ => trivial) fun a _ => hf a

/-- What is given for the members of a list has in each place the property of that place. -/
theorem Gives.mapM {γ : Type} {f : γ → Build β} {R : γ → β → Prop} (hf : ∀ c, Gives (f c) (R c))
    (l : List γ) : Gives (l.mapM f) (List.Forall₂ R l) :=
  EachRun.mapM (L := fun l _ result _ => ∀ bs, result = .ok bs → List.Forall₂ R l bs)
    { nil := by rintro _ _ ⟨⟩; exact .nil
      cons := by rintro _ _ _ _ _ _ _ hb hbs _ ⟨⟩; exact .cons (hb _ rfl) (hbs _ rfl)
      first := fun _ => nofun
      rest := fun _ _ => nofun } fun c _ => hf c

end Build

open Build

/-- A request with everything that one built from options has. -/
structure Request.Built (r : Request) : Prop where
  method : r.method.isTruthy = true
  body : ∃ body, r.body = some body
  assertions : ∃ a duration, r.assertions = some a ∧ a.duration = some duration

theorem Value.orElse_isTruthy (v : Value) {w : Value} (hw : w.isTruthy = true) :
    (v.orElse w).isTruthy = true := by
  unfold orElse
  split
  · assumption
  · exact hw

/-- Whether a method is GET is seen from its characters in upper case. -/
theorem isGet_text (s : String) :
    isGet (.text s) = .ok (s.toList.map Char.toUpper == "GET".toList) := by
  rw [isGet, String.toUpper]
  congr 1
  rw [Bool.eq_iff_iff, beq_iff_eq, beq_iff_eq, ← String.toList_inj, String.toList_map]

/-! ## A test -/

/-- Options of a test with a GET and a POST request, some of whose entries are not valid. -/
def sampleOptions : Value :=
  .mapping
    [(.text "name", .text "sample"),
     (.text "scenarioDefinition", .list
       [.mapping
         [(.text "requests", .list
           [.mapping
             [(.text "method", .text "get"),
              (.text "parameters", .list [.null, .mapping [(.text "name", .text "q")]])],
            .mapping
             [(.text "method", .text "POST"),
              (.text "headers", .list [.mapping [(.text "value", .int 1)], .null]),
              (.text "body", .mapping [(.text "raw", .text "<&>")]),
              (.text "assertions", .mapping
                [(.text "duration", .mapping [(.text "value", .int 200)]),
                 (.text "regex", .list
                   [.mapping
                     [(.text "subject", .text "Response Code"),
                      (.text "expression", .text "2..")],
                    .mapping
                     [(.text "subject", .text "Response Time"),
                      (.text "expression", .text "1")]])])]])]])]

/-- The test that the options describe. -/
def sampleTest : Test where
  name := .text "sample"
  scenarios :=
    [{ id := .int 1
       requests :=
         [{ id := .int 2
            method := .text "get"
            parameters := [{}, { name := .text "q" }]
            body := some {}
            assertions := some { duration := some {} } },
          { id := .int 3
            method := .text "POST"
            headers := [{ value := .int 1 }, {}]
            body := some { raw := .text "<&>" }
            assertions := some
              { duration := some { value := .int 200 }
                regex :=
                  [{ subject := .text "Response Code", expression := .text "2.." },
                   { subject := .text "Response Time", expression := .text "1" }] } }] }]

theorem sampleTest_built :
    (Test.ofOptions sampleOptions).outcome 1 = (.ok sampleTest, { nextId := 4 }) :=
  rfl

end LoadPlan

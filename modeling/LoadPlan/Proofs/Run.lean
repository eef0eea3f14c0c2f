import LoadPlan.Fault

/-!
# Runs of computations

What a computation with a state does is said by a relation between the state before a run of it, the
result and the state after it. There is one rule for each way to put computations together, and a
relation with a meaning of its own, such as which results there can be or which faults, gets its
rules from these: it is enough to know how it is passed on from one step to the next.
-/

namespace LoadPlan

/-- Computations with a state, one after another. -/
theorem run_bind {σ α β : Type} (x : ExceptT Fault (StateM σ) α)
    (f : α → ExceptT Fault (StateM σ) β) (before : σ) :
    (x >>= f).run before = match x.run before with
      | (.ok a, after) => (f a).run after
      | (.error e, after) => (.error e, after) := by
  change (match x.run before with
    | (r, after) => (ExceptT.bindCont f r : StateM σ (Except Fault β)) after) = _
  obtain ⟨_ | a, after⟩ := x.run before <;> rfl

/-- Every run of a computation relates the state before it to the result and the state after it. -/
def EachRun {σ α : Type} (x : ExceptT Fault (StateM σ) α) (R : σ → Except Fault α → σ → Prop) :
    Prop :=
  ∀ before, R before (x.run before).1 (x.run before).2

/-- A relation for the runs of a list of computations that comes of a relation for each of them:
they run one after another, up to the first that fails. -/
structure Along {σ α β : Type} (R : α → σ → Except Fault β → σ → Prop)
    (L : List α → σ → Except Fault (List β) → σ → Prop) : Prop where
  nil : ∀ s, L [] s (.ok []) s
  cons : ∀ {a as s b t bs u}, R a s (.ok b) t → L as t (.ok bs) u → L (a :: as) s (.ok (b :: bs)) u
  first : ∀ {a as s fault t}, R a s (.error fault) t → L (a :: as) s (.error fault) t
  rest : ∀ {a as s b t fault u}, R a s (.ok b) t → L as t (.error fault) u →
    L (a :: as) s (.error fault) u

namespace EachRun

variable {σ α β : Type} {x : ExceptT Fault (StateM σ) α} {R R' : σ → Except Fault α → σ → Prop}

theorem of_run (hx : EachRun x R) {before after : σ} {result : Except Fault α}
    (h : x.run before = (result, after)) : R before result after := by
  have hrun := hx before
  rwa [h] at hrun

theorem imp (hx : EachRun x R) (h : ∀ {s r t}, R s r t → R' s r t) : EachRun x R' :=
  fun before => h (hx before)

theorem pure {a : α} (h : ∀ s, R s (.ok a) s) : EachRun (Pure.pure a) R :=
  h

theorem throw {fault : Fault} (h : ∀ s, R s (.error fault) s) :
    EachRun (MonadExcept.throw fault) R :=
  h

/-- One computation after another: a fault of the first is passed on, and what the second does is
put behind a result of the first. -/
theorem bind {f : α → ExceptT Fault (StateM σ) β} {S : α → σ → Except Fault β → σ → Prop}
    {T : σ → Except Fault β → σ → Prop} (hx : EachRun x R) (hf : ∀ a, EachRun (f a) (S a))
    (hok : ∀ {s a t r u}, R s (.ok a) t → S a t r u → T s r u)
    (herror : ∀ {s fault t}, R s (.error fault) t → T s (.error fault) t) :
    EachRun (x >>= f) T := by
  intro s
  have hfirst := hx s
  rw [run_bind]
  rcases hrun : x.run s with ⟨fault | a, t⟩
  · rw [hrun] at hfirst
    exact herror hfirst
  · rw [hrun] at hfirst
    exact hok hfirst (hf a t)

theorem mapM {f : α → ExceptT Fault (StateM σ) β} {R : α → σ → Except Fault β → σ → Prop}
    {L : List α → σ → Except Fault (List β) → σ → Prop} (hL : Along R L) {l : List α}
    (hf : ∀ a ∈ l, EachRun (f a) (R a)) : EachRun (l.mapM f) (L l) := by
  induction l with
  | nil => exact pure hL.nil
  | cons a l ih =>
    obtain ⟨hhead, htail⟩ := List.forall_mem_cons.mp hf
    have hrest : ∀ b, EachRun (l.mapM f >>= fun bs => Pure.pure (b :: bs)) fun t r u =>
        ∀ s, R a s (.ok b) t → L (a :: l) s r u := by
      intro b
      refine (ih htail).bind (S := fun bs u r v => r = .ok (b :: bs) ∧ v = u)
        (fun bs => .pure fun _ => ⟨rfl, rfl⟩) ?_ fun hbs _ hb => hL.rest hb hbs
      rintro t bs u _ _ hbs ⟨rfl, rfl⟩ s hb
      exact hL.cons hb hbs
    rw [List.mapM_cons]
    exact hhead.bind hrest (fun hb hbs => hbs _ hb) hL.first

end EachRun

end LoadPlan

import LoadPlan.Notice
import LoadPlan.Proofs.Run

/-!
# Notices are only added

What a computation does never depends on the notices that were given before it: it adds its own
behind them. So the result of computations one after another is found from their results alone, and
results of whole lists are the lists of results.
-/

namespace LoadPlan

/-! ## Faults -/

/-- Whether a computation has a certain fault can be decided. -/
instance decidableEqError {α : Type} (x : Except Fault α) (fault : Fault) :
    Decidable (x = .error fault) :=
  match x with
  | .ok _ => .isFalse nofun
  | .error cause => decidable_of_iff (cause = fault) (by simp)

theorem Except.bind_eq_ok {ε α β : Type} {x : Except ε α} {f : α → Except ε β} {b : β} :
    x >>= f = .ok b ↔ ∃ a, x = .ok a ∧ f a = .ok b := by
  cases x <;> simp [Bind.bind, Except.bind]

theorem Except.bind_eq_error {ε α β : Type} {x : Except ε α} {f : α → Except ε β} {e : ε} :
    x >>= f = .error e ↔ x = .error e ∨ ∃ a, x = .ok a ∧ f a = .error e := by
  cases x <;> simp [Bind.bind, Except.bind]

theorem Except.map_eq_error {ε α β : Type} {x : Except ε α} {f : α → β} {e : ε} :
    x.map f = .error e ↔ x = .error e := by
  cases x <;> simp [Except.map]

theorem Except.map_eq_ok {ε α β : Type} {x : Except ε α} {f : α → β} {b : β} :
    x.map f = .ok b ↔ ∃ a, x = .ok a ∧ f a = b := by
  cases x <;> simp [Except.map]

theorem Except.mapError_eq_error {ε ε' α : Type} {x : Except ε α} {f : ε → ε'} {e' : ε'} :
    x.mapError f = .error e' ↔ ∃ e, x = .error e ∧ f e = e' := by
  cases x with
  | error e =>
    change (.error (f e) : Except ε' α) = .error e' ↔ _
    simp
  | ok a =>
    change (.ok a : Except ε' α) = .error e' ↔ _
    simp

theorem Except.mapError_eq_ok {ε ε' α : Type} {x : Except ε α} {f : ε → ε'} {a : α} :
    x.mapError f = .ok a ↔ x = .ok a := by
  cases x with
  | error e =>
    change (.error (f e) : Except ε' α) = .ok a ↔ _
    simp
  | ok a' =>
    change (.ok a' : Except ε' α) = .ok a ↔ _
    simp

section List

variable {ε α β : Type} {f : α → Except ε β} {l : List α}

/-- If all members of a list have a result, so has the list. -/
theorem Except.mapM_of_forall {g : α → β} (h : ∀ a ∈ l, f a = .ok (g a)) :
    l.mapM f = .ok (l.map g) := by
  induction l with
  | nil => rfl
  | cons a l ih =>
    rw [List.mapM_cons, h a List.mem_cons_self, ih fun b hb => h b (List.mem_cons_of_mem a hb)]
    rfl

/-- If a list has a result, so has each of its members. -/
theorem Except.exists_of_mapM {bs : List β} (h : l.mapM f = .ok bs) :
    ∀ a ∈ l, ∃ b, f a = .ok b := by
  induction l generalizing bs with
  | nil => simp
  | cons a l ih =>
    rw [List.mapM_cons] at h
    obtain ⟨b, hb, h⟩ := Except.bind_eq_ok.mp h
    obtain ⟨rest, hrest, -⟩ := Except.bind_eq_ok.mp h
    exact List.forall_mem_cons.mpr ⟨⟨b, hb⟩, ih hrest⟩

/-- If a list has no result, its fault is that of one of its members. -/
theorem Except.exists_of_mapM_error {e : ε} (h : l.mapM f = .error e) :
    ∃ a ∈ l, f a = .error e := by
  induction l with
  | nil => cases h
  | cons a l ih =>
    rw [List.mapM_cons] at h
    obtain hhead | ⟨b, -, h⟩ := Except.bind_eq_error.mp h
    · exact ⟨a, List.mem_cons_self, hhead⟩
    · obtain hrest | ⟨bs, -, h⟩ := Except.bind_eq_error.mp h
      · obtain ⟨c, hc, hfault⟩ := ih hrest
        exact ⟨c, List.mem_cons_of_mem a hc, hfault⟩
      · cases h

end List

namespace Logged

variable {α β : Type}

/-- The result of a computation, without its notices. -/
def result (x : Logged α) : Except Fault α :=
  x.outcome.1

/-- A computation that adds notices behind those that were given before it. -/
def Adds (x : Logged α) : Prop :=
  ∀ before, x.run before = (x.outcome.1, before ++ x.outcome.2)

theorem outcome_eq_ok {x : Logged α} {a : α} (h : x.result = .ok a) :
    x.outcome = (.ok a, x.outcome.2) :=
  Prod.ext h rfl

theorem result_of_outcome {x : Logged α} {r : Except Fault α} {w : List Notice}
    (h : x.outcome = (r, w)) : x.result = r :=
  congrArg Prod.fst h

theorem Adds.pure (a : α) : Adds (Pure.pure a : Logged α) :=
  fun before => Prod.ext rfl (List.append_nil before).symm

theorem Adds.note (n : Notice) : Adds (note n) :=
  fun _ => rfl

theorem Adds.throw (f : Fault) : Adds (MonadExcept.throw f : Logged α) :=
  fun before => Prod.ext rfl (List.append_nil before).symm

theorem Adds.lift (x : Except Fault α) : Adds (liftM x : Logged α) := by
  cases x with
  | error f => exact Adds.throw f
  | ok a => exact Adds.pure a

section Bind

variable {x : Logged α} {f : α → Logged β}

/-- Computations one after another. -/
theorem outcome_bind (hf : ∀ a, Adds (f a)) :
    (x >>= f).outcome = match x.outcome with
      | (.ok a, w) => ((f a).outcome.1, w ++ (f a).outcome.2)
      | (.error e, w) => (.error e, w) := by
  rw [outcome, run_bind, ← outcome]
  obtain ⟨_ | a, w⟩ := x.outcome
  · rfl
  · exact hf a w

theorem Adds.bind (hx : Adds x) (hf : ∀ a, Adds (f a)) : Adds (x >>= f) := by
  intro before
  rw [run_bind, hx before, outcome_bind hf]
  obtain ⟨_ | a, w⟩ := x.outcome
  · rfl
  · simp [hf a (before ++ w)]

/-- The result of computations one after another is found from their results. -/
theorem result_bind (hf : ∀ a, Adds (f a)) :
    (x >>= f).result = x.result >>= fun a => (f a).result := by
  rw [result, result, outcome_bind hf]
  obtain ⟨_ | a, w⟩ := x.outcome <;> rfl

theorem result_bind_of_ok (hf : ∀ a, Adds (f a)) {a : α} (hx : x.result = .ok a) :
    (x >>= f).result = (f a).result := by
  rw [result_bind hf, hx]
  rfl

theorem result_bind_of_error (hf : ∀ a, Adds (f a)) {e : Fault} (hx : x.result = .error e) :
    (x >>= f).result = .error e := by
  rw [result_bind hf, hx]
  rfl

end Bind

@[simp]
theorem outcome_lift (x : Except Fault α) : (liftM x : Logged α).outcome = (x, []) := by
  cases x <;> rfl

@[simp]
theorem result_lift (x : Except Fault α) : (liftM x : Logged α).result = x :=
  result_of_outcome (outcome_lift x)

/-! ## Faults that are changed or caught -/

theorem adapt_run (f : Fault → Fault) (x : Logged α) (before : List Notice) :
    (ExceptT.adapt f x).run before = ((x.run before).1.mapError f, (x.run before).2) := by
  change (fun r : Except Fault α × List Notice => (r.1.mapError f, r.2)) (x.run before) = _
  rfl

theorem Adds.adapt {x : Logged α} (hx : Adds x) (f : Fault → Fault) :
    Adds (ExceptT.adapt f x) := by
  intro before
  rw [outcome, adapt_run, adapt_run, hx before, outcome]

theorem result_adapt (f : Fault → Fault) (x : Logged α) :
    result (ExceptT.adapt f x) = x.result.mapError f := by
  rw [result, outcome, adapt_run]
  rfl

theorem tryCatch_run (x : Logged α) (f : Fault → Logged α) (before : List Notice) :
    (tryCatch x f).run before = match x.run before with
      | (.ok a, after) => (.ok a, after)
      | (.error fault, after) => (f fault).run after := by
  simp only [tryCatch, tryCatchThe, MonadExceptOf.tryCatch, ExceptT.tryCatch, ExceptT.mk,
    ExceptT.run, bind, StateT.bind]
  obtain ⟨_ | a, after⟩ := x before <;> rfl

/-- The result of a computation whose faults are caught. -/
theorem result_tryCatch (x : Logged α) {f : Fault → Logged α} (hf : ∀ fault, Adds (f fault)) :
    result (tryCatch x f) = match x.result with
      | .ok a => .ok a
      | .error fault => (f fault).result := by
  rw [result, outcome, tryCatch_run, ← outcome, result]
  obtain ⟨fault | a, after⟩ := x.outcome
  · change ((f fault).run after).1 = (f fault).outcome.1
    rw [hf fault after]
  · rfl

/-! ## Lists -/

theorem Adds.mapM {f : α → Logged β} (hf : ∀ a, Adds (f a)) (l : List α) : Adds (l.mapM f) := by
  induction l with
  | nil => exact Adds.pure []
  | cons a l ih =>
    rw [List.mapM_cons]
    exact (hf a).bind fun b => ih.bind fun bs => Adds.pure (b :: bs)

theorem result_mapM {f : α → Logged β} (hf : ∀ a, Adds (f a)) (l : List α) :
    (l.mapM f).result = l.mapM fun a => (f a).result := by
  induction l with
  | nil => rfl
  | cons a l ih =>
    rw [List.mapM_cons, List.mapM_cons, result_bind fun b =>
      (Adds.mapM hf l).bind fun bs => Adds.pure (b :: bs)]
    congr 1
    funext b
    rw [result_bind fun bs => Adds.pure (b :: bs), ih]
    rfl

end Logged

end LoadPlan

import LoadPlan.Proofs.Workspace.Shown

/-!
# Computations on objects and on values

A computation on objects mirrors one on values if it draws the same ids, gives the same notices and
ends in the same fault, or in results that belong together (`Mirrors`). Steps on objects that
nothing on values stands for, such as making an object or setting a field, may come in between.
-/

namespace LoadPlan.Workspace

/-- Results that belong together, or the same fault. -/
inductive Matches {α β : Type} (P : α → β → Prop) : Except Fault α → Except Fault β → Prop
  | ok {a : α} {b : β} (h : P a b) : Matches P (.ok a) (.ok b)
  | error (fault : Fault) : Matches P (.error fault) (.error fault)

/-- A computation that is started with a certain heap keeps the objects at some places, and does
what a computation on values does from the same id and notices on. The result belongs to that of
the other, in the heap at its end. -/
def Mirrors {α β : Type} (S : Ref → Prop) (now : Heap) (x : Drafting α) (y : Build β)
    (P : Heap → α → β → Prop) : Prop :=
  EachRun x fun s result t => s.heap = now → now.Keeps S t.heap ∧
    ∃ r, y.run ⟨s.nextId, s.notices⟩ = (r, ⟨t.nextId, t.notices⟩) ∧ Matches (P t.heap) result r

namespace Mirrors

variable {α α' β β' : Type} {S S' : Ref → Prop} {now : Heap} {x : Drafting α} {y : Build β}
  {P Q : Heap → α → β → Prop}

theorem imp (hxy : Mirrors S now x y P) (h : ∀ t a b, now.Keeps S t → P t a b → Q t a b) :
    Mirrors S now x y Q := by
  refine EachRun.imp hxy fun {s result t} hrun hs => ?_
  obtain ⟨hk, r, hy, hr⟩ := hrun hs
  refine ⟨hk, r, hy, ?_⟩
  cases hr with
  | ok hP => exact .ok (h _ _ _ hk hP)
  | error fault => exact .error fault

theorem mono (hxy : Mirrors S now x y P) (hS : ∀ r, S' r → S r) : Mirrors S' now x y P :=
  EachRun.imp hxy fun hrun hs => ⟨(hrun hs).1.mono hS, (hrun hs).2⟩

/-- To keep all objects is to keep those at the places that there are. -/
theorem of_lt_size (hxy : Mirrors (· < now.size) now x y P) :
    Mirrors (fun _ => True) now x y P :=
  EachRun.imp hxy fun hrun hs =>
    ⟨fun r o _ hr => (hrun hs).1 r o (Heap.lt_size hr) hr, (hrun hs).2⟩

theorem pure {a : α} {b : β} (h : P now a b) : Mirrors S now (Pure.pure a) (Pure.pure b) P :=
  EachRun.pure fun _ hs => ⟨hs ▸ .refl _, _, rfl, hs ▸ .ok h⟩

theorem throw (fault : Fault) :
    Mirrors S now (MonadExcept.throw fault) (MonadExcept.throw fault) P :=
  EachRun.throw fun _ hs => ⟨hs ▸ .refl _, _, rfl, .error fault⟩

/-- Computations one after another on either side: the second ones start with what the first have
left. -/
theorem bind {f : α → Drafting α'} {g : β → Build β'} {R : Heap → α' → β' → Prop}
    (hxy : Mirrors S now x y P)
    (hfg : ∀ t a b, now.Keeps S t → P t a b → Mirrors S t (f a) (g b) R) :
    Mirrors S now (x >>= f) (y >>= g) R := by
  refine EachRun.bind (S := fun a t result u => ∀ b, now.Keeps S t.heap → P t.heap a b →
      t.heap.Keeps S u.heap ∧ ∃ r, (g b).run ⟨t.nextId, t.notices⟩ = (r, ⟨u.nextId, u.notices⟩) ∧
        Matches (R u.heap) result r) hxy
    (fun a t b hk hb => hfg t.heap a b hk hb t rfl) ?_ ?_
  · intro s a t result u hfirst hrest hs
    obtain ⟨hk, _, hy, hr⟩ := hfirst hs
    cases hr with
    | @ok _ b hP =>
      obtain ⟨hk', r, hg, hr⟩ := hrest b hk hP
      refine ⟨hk.trans hk', r, ?_, hr⟩
      rw [run_bind, hy]
      exact hg
  · intro s fault t hfirst hs
    obtain ⟨hk, _, hy, hr⟩ := hfirst hs
    cases hr with
    | error =>
      refine ⟨hk, .error fault, ?_, .error fault⟩
      rw [run_bind, hy]

/-- The result on the side of values can be something that is made of the other one. -/
theorem map {g : β → β'} {R : Heap → α → β' → Prop} (hxy : Mirrors S now x y P)
    (h : ∀ t a b, now.Keeps S t → P t a b → R t a (g b)) :
    Mirrors S now x (y >>= fun b => Pure.pure (g b)) R := by
  have hbind : Mirrors S now (x >>= Pure.pure) (y >>= fun b => Pure.pure (g b)) R :=
    hxy.bind fun t a b hk hP => .pure (h t a b hk hP)
  rwa [bind_pure] at hbind

/-- A step on objects with a known result comes first. -/
theorem step {f : α → Drafting α'} {R : Heap → α' → β → Prop} {a : α} {mid : Heap}
    (hx : Edits now x a mid) (hk : now.Keeps S mid) (hf : Mirrors S mid (f a) y R) :
    Mirrors S now (x >>= f) y R := by
  refine EachRun.bind (S := fun c t result u => c = a → t.heap = mid → mid.Keeps S u.heap ∧
      ∃ r, y.run ⟨t.nextId, t.notices⟩ = (r, ⟨u.nextId, u.notices⟩) ∧
        Matches (R u.heap) result r) hx ?_ ?_ ?_
  · rintro _ t rfl ht
    exact hf t ht
  · intro s c t result u hfirst hrest hs
    obtain ⟨hc, rfl⟩ := hfirst hs
    obtain ⟨hk', hr⟩ := hrest (Except.ok.inj hc) rfl
    exact ⟨hk.trans hk', hr⟩
  · intro s fault t hfirst hs
    exact nomatch (hfirst hs).1

/-- A step on objects with a known result comes last. -/
theorem andThen {f : α → Drafting α'} {R : Heap → α' → β → Prop} (hxy : Mirrors S now x y P)
    (hf : ∀ t a b, P t a b → ∃ c after, Edits t (f a) c after ∧ t.Keeps S after ∧ R after c b) :
    Mirrors S now (x >>= f) y R := by
  rw [← bind_pure y]
  refine hxy.bind fun t a b _ hP => ?_
  obtain ⟨c, after, hedit, hk, hR⟩ := hf t a b hP
  rw [← bind_pure (f a)]
  exact .step hedit hk (.pure hR)

/-- Both draw the next id. -/
theorem drawId {f : Int → Drafting α} {g : Int → Build β}
    (h : ∀ id, Mirrors S now (f id) (g id) P) :
    Mirrors S now (Drafting.drawId >>= f) (Build.drawId >>= g) P := by
  have hdraw : Mirrors S now Drafting.drawId Build.drawId fun t i j => t = now ∧ i = j := by
    rintro s rfl
    exact ⟨.refl _, _, rfl, .ok ⟨rfl, rfl⟩⟩
  refine hdraw.bind ?_
  rintro _ i _ - ⟨rfl, rfl⟩
  exact h i

theorem note (n : Notice) :
    Mirrors S now (Drafting.note n) (Build.note n) fun t _ _ => t = now := by
  rintro s rfl
  exact ⟨.refl _, _, rfl, .ok rfl⟩

/-- A step with a known effect on what is in work comes first. -/
theorem advance {b : Site} {q : Progress} {f : α → Drafting α'} {R : Heap → α' → β → Prop} {a : α}
    (hx : Advances b now x a q)
    (hf : ∀ t, now.Keeps b.Other t → InWork b q t → Mirrors b.Other t (f a) y R) :
    Mirrors b.Other now (x >>= f) y R := by
  obtain ⟨after, hedit, hk, hw⟩ := hx
  exact .step hedit hk (hf after hk hw)

end Mirrors

end LoadPlan.Workspace

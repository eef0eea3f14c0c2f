import LoadPlan.Proofs.Notice
import LoadPlan.Workspace.Session
import Mathlib.Data.List.Forall2

/-!
# What is kept of a heap

A computation that makes and changes objects keeps those at certain places: at all of them if it
only makes objects (`Heap.Grows`), at those that are not its own if it changes what it has made
(`Heap.Keeps`). What is known of its result rests on objects that later steps keep, so what is known
of the results of computations one after another is known at the end of them (`Drafts`).
-/

namespace LoadPlan.Workspace

namespace Heap

/-- The second heap has the objects of the first at some places. -/
def Keeps (S : Ref → Prop) (h h' : Heap) : Prop :=
  ∀ r o, S r → h.get? r = some o → h'.get? r = some o

/-- The second heap has all objects of the first at their places, and may have more behind them. -/
def Grows : Heap → Heap → Prop :=
  Keeps fun _ => True

/-- The number of objects. -/
def size (h : Heap) : Nat :=
  h.objects.length

variable {S S' : Ref → Prop} {h h' h'' : Heap}

theorem Keeps.refl (h : Heap) : h.Keeps S h :=
  fun _ _ _ hr => hr

theorem Keeps.trans (hk : h.Keeps S h') (hk' : h'.Keeps S h'') : h.Keeps S h'' :=
  fun r o hS hr => hk' r o hS (hk r o hS hr)

theorem Keeps.mono (hk : h.Keeps S h') (hS : ∀ r, S' r → S r) : h.Keeps S' h' :=
  fun r o hr => hk r o (hS r hr)

theorem Grows.keeps (hg : h.Grows h') : h.Keeps S h' :=
  Keeps.mono hg fun _ _ => trivial

theorem Grows.get? (hg : h.Grows h') {r : Ref} {o : Object} (hr : h.get? r = some o) :
    h'.get? r = some o :=
  hg r o trivial hr

theorem Grows.object? (hg : h.Grows h') {d : Datum} {o : Object} (hd : h.object? d = some o) :
    h'.object? d = some o := by
  cases d with
  | value v => cases hd
  | object r => exact hg.get? hd

theorem get?_eq_none_iff {r : Ref} : h.get? r = none ↔ h.size ≤ r :=
  List.getElem?_eq_none_iff

theorem lt_size {r : Ref} {o : Object} (hr : h.get? r = some o) : r < h.size :=
  (List.getElem?_eq_some_iff.mp hr).1

/-- A heap that has grown is not smaller: it still has the last object. -/
theorem Grows.size_le (hg : h.Grows h') : h.size ≤ h'.size := by
  by_contra hsize
  rw [Nat.not_le] at hsize
  have hlast := hg.get? (List.getElem?_eq_getElem hsize)
  rw [get?_eq_none_iff.mpr (Nat.le_refl _)] at hlast
  cases hlast

theorem grows_alloc (h : Heap) (o : Object) : h.Grows (h.alloc o).1 :=
  fun _ _ _ hr => (List.getElem?_append_left (List.getElem?_eq_some_iff.mp hr).1).trans hr

@[simp]
theorem size_alloc (h : Heap) (o : Object) : (h.alloc o).1.size = h.size + 1 :=
  List.length_append

@[simp]
theorem get?_alloc (h : Heap) (o : Object) : (h.alloc o).1.get? h.size = some o :=
  List.getElem?_concat_length

@[simp]
theorem size_write (h : Heap) (r : Ref) (o : Object) : (h.write r o).size = h.size :=
  List.length_set

@[simp]
theorem get?_write_self {r : Ref} (hr : r < h.size) (o : Object) :
    (h.write r o).get? r = some o :=
  List.getElem?_set_self hr

@[simp]
theorem get?_write_of_ne {q r : Ref} (hne : r ≠ q) (o : Object) :
    (h.write r o).get? q = h.get? q :=
  List.getElem?_set_ne hne

theorem keeps_write {r : Ref} (hr : ¬S r) (o : Object) : h.Keeps S (h.write r o) := by
  intro q p hq hp
  have hne : r ≠ q := by
    rintro rfl
    exact hr hq
  rwa [get?_write_of_ne hne]

theorem entity?_eq_some {kind : Kind} {d : Datum} {fields : List (String × Datum)} :
    h.entity? kind d = some fields ↔ h.object? d = some (.entity kind fields) := by
  unfold entity?
  cases h.object? d with
  | none => simp
  | some o =>
    cases o with
    | entity k fs =>
      by_cases hk : k = kind
      · simp [hk]
      · simp [hk]
    | list items => simp
    | mapping entries => simp

theorem isSome_entity? {kind : Kind} {d : Datum} (hd : (h.entity? kind d).isSome) :
    ∃ fields, h.object? d = some (.entity kind fields) := by
  obtain ⟨fields, hfields⟩ := Option.isSome_iff_exists.mp hd
  exact ⟨fields, entity?_eq_some.mp hfields⟩

end Heap

/-! ## Paths -/

namespace Session

variable {h h' : Heap} {d x : Datum}

theorem follow_field {kind : Kind} {fields : List (String × Datum)} {name : String}
    (hd : h.object? d = some (.entity kind fields)) (hx : fieldOf? fields name = some x) :
    follow h d (.field name) = .ok x := by
  simp only [follow, Heap.member, hd, hx]

theorem follow_index {items : List Datum} {i : Nat} (hd : h.object? d = some (.list items))
    (hx : items[i]? = some x) : follow h d (.index i) = .ok x := by
  have hplace : ¬(i : Int) < 0 := by omega
  simp [follow, hd, itemAt, hplace, hx]

/-- The datum at a path from another in a heap. -/
def At (h : Heap) (d : Datum) (path : List PathStep) (x : Datum) : Prop :=
  path.foldlM (fun d step => (follow h d step : Except Fault Datum)) d = .ok x

theorem At.here (h : Heap) (d : Datum) : At h d [] d :=
  rfl

theorem At.cons {step : PathStep} {path : List PathStep} {y : Datum}
    (hy : follow h d step = .ok y) (hx : At h y path x) : At h d (step :: path) x := by
  rw [At, List.foldlM_cons, hy]
  exact hx

/-- The datum at a path that leads through objects at certain places. -/
inductive Leads (S : Ref → Prop) (h : Heap) : Datum → List PathStep → Datum → Prop
  | here (d : Datum) : Leads S h d [] d
  | field {r : Ref} {kind : Kind} {fields : List (String × Datum)} {name : String} {x y : Datum}
      {path : List PathStep} (hS : S r) (hr : h.get? r = some (.entity kind fields))
      (hx : fieldOf? fields name = some x) (hy : Leads S h x path y) :
      Leads S h (.object r) (.field name :: path) y
  | index {r : Ref} {items : List Datum} {i : Nat} {x y : Datum} {path : List PathStep} (hS : S r)
      (hr : h.get? r = some (.list items)) (hx : items[i]? = some x) (hy : Leads S h x path y) :
      Leads S h (.object r) (.index i :: path) y

variable {S S' : Ref → Prop} {path : List PathStep}

theorem Leads.at (hx : Leads S h d path x) : At h d path x := by
  induction hx with
  | here d => exact .here h d
  | field _ hr hx _ ih => exact .cons (follow_field hr hx) ih
  | index _ hr hx _ ih => exact .cons (follow_index hr hx) ih

/-- A path leads to the same datum as long as the objects on it are kept. -/
theorem Leads.of_keeps (hx : Leads S h d path x) (hk : h.Keeps S h') : Leads S h' d path x := by
  induction hx with
  | here d => exact .here d
  | field hS hr hx _ ih => exact .field hS (hk _ _ hS hr) hx ih
  | index hS hr hx _ ih => exact .index hS (hk _ _ hS hr) hx ih

theorem Leads.mono (hx : Leads S h d path x) (hS : ∀ r, S r → S' r) : Leads S' h d path x := by
  induction hx with
  | here d => exact .here d
  | field hr hget hx _ ih => exact .field (hS _ hr) hget hx ih
  | index hr hget hx _ ih => exact .index (hS _ hr) hget hx ih

end Session

/-! ## Steps with a known result -/

/-- What a step gives in a heap, and the heap that it leaves. It draws no ids and gives no
notices. -/
def Edits {α : Type} (now : Heap) (x : Drafting α) (a : α) (after : Heap) : Prop :=
  EachRun x fun s result t => s.heap = now → result = .ok a ∧ t = { s with heap := after }

namespace Edits

variable {α β : Type} {now mid after : Heap} {x : Drafting α} {a : α}

theorem pure (now : Heap) (a : α) : Edits now (Pure.pure a) a now :=
  EachRun.pure fun s hs => ⟨rfl, by rw [← hs]⟩

theorem bind {f : α → Drafting β} {b : β} (hx : Edits now x a mid) (hf : Edits mid (f a) b after) :
    Edits now (x >>= f) b after := by
  refine EachRun.bind (S := fun c t result u => c = a → t.heap = mid →
    result = .ok b ∧ u = { t with heap := after }) hx ?_ ?_ ?_
  · rintro _ t rfl
    exact hf t
  · intro s c t result u hfirst hrest hs
    obtain ⟨hc, rfl⟩ := hfirst hs
    exact hrest (Except.ok.inj hc) rfl
  · intro s fault t hfirst hs
    exact nomatch (hfirst hs).1

theorem heap (now : Heap) : Edits now Drafting.heap now now := by
  rintro s rfl
  exact ⟨rfl, rfl⟩

theorem alloc (now : Heap) (o : Object) :
    Edits now (Drafting.alloc o) (.object now.size) (now.alloc o).1 := by
  rintro s rfl
  exact ⟨rfl, rfl⟩

theorem write (now : Heap) (r : Ref) (o : Object) :
    Edits now (Drafting.write r o) () (now.write r o) := by
  rintro s rfl
  exact ⟨rfl, rfl⟩

theorem lift {y : Except Fault α} (now : Heap) (hy : y = .ok a) :
    Edits now (liftM y) a now := by
  subst hy
  exact pure now a

end Edits

/-! ## Computations that make objects -/

/-- A computation that is started with a certain heap keeps the objects at some places. If it has a
result, that is as described in the heap at its end. -/
def Drafts {α : Type} (S : Ref → Prop) (now : Heap) (x : Drafting α) (P : Heap → α → Prop) : Prop :=
  EachRun x fun s result t => s.heap = now →
    now.Keeps S t.heap ∧ ∀ a, result = .ok a → P t.heap a

namespace Drafts

variable {α β : Type} {S S' : Ref → Prop} {now : Heap} {x : Drafting α} {P Q : Heap → α → Prop}

theorem imp (hx : Drafts S now x P) (h : ∀ t a, now.Keeps S t → P t a → Q t a) :
    Drafts S now x Q :=
  EachRun.imp hx fun hrun hs => ⟨(hrun hs).1, fun a ha => h _ a (hrun hs).1 ((hrun hs).2 a ha)⟩

theorem mono (hx : Drafts S now x P) (hS : ∀ r, S' r → S r) : Drafts S' now x P :=
  EachRun.imp hx fun hrun hs => ⟨(hrun hs).1.mono hS, (hrun hs).2⟩

theorem pure {a : α} (ha : P now a) : Drafts S now (Pure.pure a) P :=
  EachRun.pure fun _ hs => ⟨hs ▸ .refl _, fun _ h => hs ▸ Except.ok.inj h ▸ ha⟩

theorem throw (fault : Fault) : Drafts S now (MonadExcept.throw fault) P :=
  EachRun.throw fun _ hs => ⟨hs ▸ .refl _, nofun⟩

/-- Computations one after another: the second one starts with the heap that the first leaves. -/
theorem bind {f : α → Drafting β} {R : Heap → β → Prop} (hx : Drafts S now x P)
    (hf : ∀ t a, now.Keeps S t → P t a → Drafts S t (f a) R) : Drafts S now (x >>= f) R := by
  refine EachRun.bind (S := fun a t result u => now.Keeps S t.heap → P t.heap a →
      t.heap.Keeps S u.heap ∧ ∀ b, result = .ok b → R u.heap b) hx
    (fun a t hk ha => hf t.heap a hk ha t rfl) ?_ fun hfirst hs => ⟨(hfirst hs).1, nofun⟩
  rintro s a t result u hfirst hrest hs
  obtain ⟨hk, ha⟩ := hfirst hs
  obtain ⟨hk', hR⟩ := hrest hk (ha a rfl)
  exact ⟨hk.trans hk', hR⟩

/-- A step with a known result comes first. -/
theorem step {f : α → Drafting β} {R : Heap → β → Prop} {a : α} {mid : Heap}
    (hx : Edits now x a mid) (hk : now.Keeps S mid) (hf : Drafts S mid (f a) R) :
    Drafts S now (x >>= f) R := by
  refine bind (P := fun t b => t = mid ∧ b = a) (EachRun.imp hx ?_) ?_
  · rintro s result t hrun hs
    obtain ⟨hresult, rfl⟩ := hrun hs
    exact ⟨hk, fun b hb => ⟨rfl, Except.ok.inj (hb.symm.trans hresult)⟩⟩
  · rintro t b _ ⟨rfl, rfl⟩
    exact hf

theorem lift (y : Except Fault α) : Drafts S now (liftM y) fun t a => t = now ∧ y = .ok a := by
  cases y with
  | ok a => exact pure ⟨rfl, rfl⟩
  | error fault => exact throw fault

/-- To keep all objects is to keep those at the places that there are. -/
theorem of_lt_size (hx : Drafts (· < now.size) now x P) : Drafts (fun _ => True) now x P :=
  EachRun.imp hx fun hrun hs =>
    ⟨fun r o _ hr => (hrun hs).1 r o (Heap.lt_size hr) hr, (hrun hs).2⟩

theorem drawId {f : Int → Drafting β} {R : Heap → β → Prop} (hf : ∀ id, Drafts S now (f id) R) :
    Drafts S now (Drafting.drawId >>= f) R := by
  refine bind (P := fun t _ => t = now) ?_ ?_
  · rintro s rfl
    exact ⟨.refl _, fun _ _ => rfl⟩
  · rintro _ id _ rfl
    exact hf id

theorem note (n : Notice) : Drafts S now (Drafting.note n) fun t _ => t = now := by
  rintro s rfl
  exact ⟨.refl _, fun _ _ => rfl⟩

end Drafts

end LoadPlan.Workspace

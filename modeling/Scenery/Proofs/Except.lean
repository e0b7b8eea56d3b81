import Mathlib.Data.List.Forall2

/-!
# Computations that may fail

A computation in steps gives a result exactly if each step gives one.  A step of arithmetic may have a
result that is not in its type; `Overflow` says what a machine does with it.
-/

namespace Scenery

/-- What becomes of a result that is not in the type of an operation. -/
inductive Overflow where
  /-- The program breaks down. -/
  | stops
  /-- The result goes around the type. -/
  | wraps
  deriving DecidableEq, Repr

variable {ε α β : Type}

/-- Two steps give a result if both of them do. -/
theorem bind_eq_ok {x : Except ε α} {f : α → Except ε β} {b : β} :
    x >>= f = .ok b ↔ ∃ a, x = .ok a ∧ f a = .ok b := by
  cases x with
  | error e => simp [bind, Except.bind]
  | ok a => simp [bind, Except.bind]

/-- Two steps fail with the failure of the first one that does. -/
theorem bind_eq_error {x : Except ε α} {f : α → Except ε β} {e : ε} :
    x >>= f = .error e ↔ x = .error e ∨ ∃ a, x = .ok a ∧ f a = .error e := by
  cases x with
  | error e' => simp [bind, Except.bind]
  | ok a => simp [bind, Except.bind]

/-- A result that is changed comes from a result. -/
theorem map_eq_ok {x : Except ε α} {f : α → β} {b : β} :
    x.map f = .ok b ↔ ∃ a, x = .ok a ∧ f a = b := by
  cases x with
  | error e => simp [Except.map]
  | ok a => simp [Except.map]

/-- A list of results comes from a list of computations, one by one. -/
theorem mapM_eq_ok {f : α → Except ε β} {xs : List α} {ys : List β} :
    xs.mapM f = .ok ys ↔ List.Forall₂ (fun x y => f x = .ok y) xs ys := by
  induction xs generalizing ys with
  | nil =>
    rw [List.mapM_nil, List.forall₂_nil_left_iff]
    show Except.ok [] = Except.ok ys ↔ ys = []
    rw [Except.ok.injEq, eq_comm]
  | cons x xs ih =>
    rw [List.mapM_cons, bind_eq_ok, List.forall₂_cons_left_iff]
    simp only [bind_eq_ok, ih]
    constructor
    · intro h
      obtain ⟨y, hy, rest, hrest, heq⟩ := h
      cases heq
      exact ⟨y, rest, hy, hrest, rfl⟩
    · intro h
      obtain ⟨y, rest, hy, hrest, rfl⟩ := h
      exact ⟨y, hy, rest, hrest, rfl⟩

/-- A list of results that stand for others, as each computation gives what stands for one. -/
theorem mapM_eq_ok_map {γ : Type} {f : α → Except ε β} {g : γ → β} {R : α → γ → Prop} {xs : List α}
    (hf : ∀ x ∈ xs, ∀ y, f x = .ok y ↔ ∃ z, R x z ∧ g z = y) {ys : List β} :
    xs.mapM f = .ok ys ↔ ∃ zs, List.Forall₂ R xs zs ∧ zs.map g = ys := by
  rw [mapM_eq_ok]
  induction xs generalizing ys with
  | nil => simp [eq_comm]
  | cons x xs ih =>
    obtain ⟨hx, hxs⟩ := List.forall_mem_cons.1 hf
    simp only [List.forall₂_cons_left_iff, hx, ih hxs]
    constructor
    · intro h
      obtain ⟨_, _, ⟨z, hz, rfl⟩, ⟨zs, hzs, rfl⟩, rfl⟩ := h
      exact ⟨z :: zs, ⟨z, zs, hz, hzs, rfl⟩, rfl⟩
    · intro h
      obtain ⟨_, ⟨z, zs, hz, hzs, rfl⟩, rfl⟩ := h
      exact ⟨_, _, ⟨z, hz, rfl⟩, ⟨zs, hzs, rfl⟩, rfl⟩

/-- Where a list splits around an element: at its head or within its tail. -/
theorem exists_split_cons {p : List α → α → List α → Prop} {x : α} {xs : List α} :
    (∃ front y back, x :: xs = front ++ y :: back ∧ p front y back) ↔
      p [] x xs ∨ ∃ front y back, xs = front ++ y :: back ∧ p (x :: front) y back := by
  constructor
  · rintro ⟨front, y, back, hsplit, hp⟩
    obtain ⟨rfl, heq⟩ | ⟨front', rfl, hxs⟩ := List.cons_eq_append_iff.1 hsplit
    · cases heq
      exact .inl hp
    · exact .inr ⟨front', y, back, hxs, hp⟩
  · rintro (hp | ⟨front, y, back, hxs, hp⟩)
    · exact ⟨[], x, xs, rfl, hp⟩
    · exact ⟨x :: front, y, back, congrArg (x :: ·) hxs, hp⟩

/-- What holds wherever a list splits around an element holds at its head and within its tail. -/
theorem forall_split_cons {p : List α → α → List α → Prop} {x : α} {xs : List α} :
    (∀ front y back, x :: xs = front ++ y :: back → p front y back) ↔
      p [] x xs ∧ ∀ front y back, xs = front ++ y :: back → p (x :: front) y back := by
  have h := not_congr (@exists_split_cons α (fun front y back => ¬p front y back) x xs)
  simpa only [not_or, not_exists, not_and, not_not] using h

/-- A list of computations fails where the first of them does. -/
theorem mapM_eq_error {f : α → Except ε β} {xs : List α} {e : ε} :
    xs.mapM f = .error e ↔ ∃ front x back, xs = front ++ x :: back ∧
      (∀ y ∈ front, ∃ b, f y = .ok b) ∧ f x = .error e := by
  induction xs with
  | nil => exact iff_of_false nofun (by simp)
  | cons x xs ih =>
    rw [List.mapM_cons, bind_eq_error, exists_split_cons]
    refine or_congr (by simp) ?_
    constructor
    · rintro ⟨y, hy, hrest⟩
      obtain hrest | ⟨ys, -, ⟨⟩⟩ := bind_eq_error.1 hrest
      obtain ⟨front, z, back, hsplit, hfront, hz⟩ := ih.1 hrest
      exact ⟨front, z, back, hsplit, List.forall_mem_cons.2 ⟨⟨y, hy⟩, hfront⟩, hz⟩
    · rintro ⟨front, z, back, hsplit, hall, hz⟩
      obtain ⟨⟨y, hy⟩, hfront⟩ := List.forall_mem_cons.1 hall
      exact ⟨y, hy, bind_eq_error.2 (.inl (ih.2 ⟨front, z, back, hsplit, hfront, hz⟩))⟩

/-- A list of computations fails with the failure of one of them. -/
theorem exists_of_mapM_eq_error {f : α → Except ε β} {xs : List α} {e : ε}
    (h : xs.mapM f = .error e) : ∃ x ∈ xs, f x = .error e := by
  obtain ⟨front, x, back, rfl, -, hx⟩ := mapM_eq_error.1 h
  exact ⟨x, List.mem_append_right _ List.mem_cons_self, hx⟩

/-- Only the values of a computation at the elements of a list matter. -/
theorem mapM_congr {f g : α → Except ε β} {xs : List α} (h : ∀ x ∈ xs, f x = g x) :
    xs.mapM f = xs.mapM g := by
  induction xs with
  | nil => rfl
  | cons x xs ih =>
    obtain ⟨hx, hxs⟩ := List.forall_mem_cons.1 h
    rw [List.mapM_cons, List.mapM_cons, hx, ih hxs]

/-- Each element has a partner, so there is a list of partners. -/
theorem exists_forall₂ {R : α → β → Prop} {xs : List α} :
    (∃ ys, List.Forall₂ R xs ys) ↔ ∀ x ∈ xs, ∃ y, R x y := by
  induction xs with
  | nil => simp
  | cons x xs ih =>
    simp only [List.forall₂_cons_left_iff, List.forall_mem_cons, ← ih]
    constructor
    · intro h
      obtain ⟨_, y, ys, hy, hys, rfl⟩ := h
      exact ⟨⟨y, hy⟩, ys, hys⟩
    · intro h
      obtain ⟨⟨y, hy⟩, ys, hys⟩ := h
      exact ⟨_, y, ys, hy, hys, rfl⟩

/-- What stands at the same number is related. -/
theorem exists_getElem?_of_forall₂ {R : α → β → Prop} {xs : List α} {ys : List β}
    (h : List.Forall₂ R xs ys) {k : Nat} {x : α} (hx : xs[k]? = some x) :
    ∃ y, ys[k]? = some y ∧ R x y := by
  induction h generalizing k with
  | nil => cases hx
  | cons hxy _ ih =>
    cases k with
    | zero =>
      cases hx
      exact ⟨_, rfl, hxy⟩
    | succ k => exact ih hx

/-- An element of one list has its partner in the other one. -/
theorem exists_mem_of_forall₂ {R : α → β → Prop} {xs : List α} {ys : List β}
    (h : List.Forall₂ R xs ys) {x : α} (hx : x ∈ xs) : ∃ y ∈ ys, R x y := by
  obtain ⟨k, hk⟩ := List.getElem?_of_mem hx
  obtain ⟨y, hy, hxy⟩ := exists_getElem?_of_forall₂ h hk
  exact ⟨y, List.mem_of_getElem? hy, hxy⟩

/-- A list of values that are all there. -/
theorem mapM_eq_some {f : α → Option β} {xs : List α} {ys : List β} :
    xs.mapM f = some ys ↔ List.Forall₂ (fun x y => f x = some y) xs ys := by
  induction xs generalizing ys with
  | nil =>
    rw [List.mapM_nil, List.forall₂_nil_left_iff]
    show some [] = some ys ↔ ys = []
    rw [Option.some.injEq, eq_comm]
  | cons x xs ih =>
    rw [List.mapM_cons, List.forall₂_cons_left_iff]
    simp only [Option.bind_eq_bind, Option.bind_eq_some_iff, ih, Option.pure_def, Option.some.injEq]
    constructor
    · intro h
      obtain ⟨y, hy, rest, hrest, rfl⟩ := h
      exact ⟨y, rest, hy, hrest, rfl⟩
    · intro h
      obtain ⟨y, rest, hy, hrest, rfl⟩ := h
      exact ⟨y, hy, rest, hrest, rfl⟩

/-- Different values have different partners, if each partner tells its value by what is kept of it. -/
theorem nodup_map_of_forall₂ {γ : Type} {R : α → β → Prop} {f : β → γ} {xs : List α} {ys : List β}
    (h : List.Forall₂ R xs ys) (hxs : xs.Nodup)
    (hinj : ∀ x x' y y', R x y → R x' y' → f y = f y' → x = x') : (ys.map f).Nodup := by
  induction h with
  | nil => exact List.nodup_nil
  | @cons x y xs ys hxy hrest ih =>
    obtain ⟨hx, hxs⟩ := List.nodup_cons.1 hxs
    rw [List.map_cons, List.nodup_cons]
    refine ⟨?_, ih hxs⟩
    intro hy
    obtain ⟨y', hy', heq⟩ := List.mem_map.1 hy
    obtain ⟨x', hx', hxy'⟩ := exists_mem_of_forall₂ hrest.flip hy'
    exact hx (hinj x x' y y' hxy hxy' heq.symm ▸ hx')

/-! ### Failures of one kind -/

/-- A computation fails only in ways that have a property. -/
def FailsWith (P : ε → Prop) (x : Except ε β) : Prop := ∀ e, x = .error e → P e

namespace FailsWith

variable {P : ε → Prop}

theorem ok (b : β) : FailsWith P (.ok b) := by
  rintro e ⟨⟩

theorem error {e : ε} (h : P e) : FailsWith P (.error e : Except ε β) := by
  rintro e ⟨⟩
  exact h

theorem bind {x : Except ε α} {f : α → Except ε β} (hx : FailsWith P x)
    (hf : ∀ a, FailsWith P (f a)) : FailsWith P (x >>= f) := by
  cases x with
  | error e => exact error (hx e rfl)
  | ok a => exact hf a

theorem map {x : Except ε α} (hx : FailsWith P x) (f : α → β) : FailsWith P (x.map f) := by
  cases x with
  | error e => exact error (hx e rfl)
  | ok a => exact ok _

/-- A list of computations fails in the way in which each of them does. -/
theorem mapM {f : α → Except ε β} (hf : ∀ a, FailsWith P (f a)) (xs : List α) :
    FailsWith P (xs.mapM f) := by
  induction xs with
  | nil => exact ok _
  | cons x xs ih =>
    rw [List.mapM_cons]
    exact (hf x).bind fun y => ih.bind fun ys => ok _

end FailsWith

/-! ### Failures that keep a state -/

/-- A step that fails ends a computation, in the state that the step leaves. -/
theorem run_bind_keeping {σ : Type} (x : ExceptT ε (StateM σ) α) (k : α → ExceptT ε (StateM σ) β)
    (s : σ) : (x >>= k).run s =
      match x.run s with
      | (.ok a, s') => (k a).run s'
      | (.error e, s') => (.error e, s') := by
  rw [ExceptT.run_bind]
  show (StateT.bind x.run _) s = _
  unfold StateT.bind
  show (match x.run s with | (r, s') => _) = _
  rcases x.run s with ⟨_ | a, s'⟩
  · rfl
  · rfl

end Scenery

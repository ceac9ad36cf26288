import Mathlib.Data.List.Forall2

/-!
Traversals in the `Except` monad and lists cut into blocks of one length. A traversal succeeds
when every element does, and fails with the fault of its first failing element; block `k` of
blocks of length `n` is the slice of their concatenation at `k * n`.
-/

namespace JobMatrix

section traverse

variable {α β ε : Type} (f : α → Except ε β)

theorem mapM_cons_eq_ok_iff (x : α) (xs : List α) (ys : List β) :
    (x :: xs).mapM f = .ok ys ↔ ∃ y zs, f x = .ok y ∧ xs.mapM f = .ok zs ∧ ys = y :: zs := by
  rw [List.mapM_cons]
  cases first : f x with
  | error e => simp [bind, Except.bind]
  | ok y =>
    cases rest : xs.mapM f with
    | error e => simp [bind, Except.bind]
    | ok zs => simp [bind, Except.bind, pure, Except.pure, eq_comm]

theorem mapM_cons_eq_error_iff (x : α) (xs : List α) (e : ε) :
    (x :: xs).mapM f = .error e ↔
      f x = .error e ∨ ∃ y, f x = .ok y ∧ xs.mapM f = .error e := by
  rw [List.mapM_cons]
  cases first : f x with
  | error e' => simp [bind, Except.bind]
  | ok y =>
    cases rest : xs.mapM f with
    | error e' => simp [bind, Except.bind]
    | ok zs => simp [bind, Except.bind, pure, Except.pure]

theorem mapM_eq_ok_iff (xs : List α) (ys : List β) :
    xs.mapM f = .ok ys ↔ List.Forall₂ (fun x y => f x = .ok y) xs ys := by
  induction xs generalizing ys with
  | nil => cases ys <;> simp [pure, Except.pure]
  | cons x xs ih =>
    rw [mapM_cons_eq_ok_iff, List.forall₂_cons_left_iff]
    simp only [ih]

theorem mapM_ok_iff_forall (xs : List α) :
    (∃ ys, xs.mapM f = .ok ys) ↔ ∀ x ∈ xs, ∃ y, f x = .ok y := by
  induction xs with
  | nil => simp [pure, Except.pure]
  | cons x xs ih =>
    simp only [mapM_cons_eq_ok_iff, List.forall_mem_cons, ← ih]
    constructor
    · rintro ⟨_, y, zs, first, rest, -⟩
      exact ⟨⟨y, first⟩, ⟨zs, rest⟩⟩
    · rintro ⟨⟨y, first⟩, ⟨zs, rest⟩⟩
      exact ⟨y :: zs, y, zs, first, rest, rfl⟩

/-- A traversal fails with the fault of its first failing element. -/
theorem mapM_eq_error_iff (xs : List α) (e : ε) :
    xs.mapM f = .error e ↔ ∃ pre x post, xs = pre ++ x :: post ∧
      (∀ y ∈ pre, ∃ r, f y = .ok r) ∧ f x = .error e := by
  induction xs with
  | nil => simp [pure, Except.pure]
  | cons x xs ih =>
    rw [mapM_cons_eq_error_iff, ih]
    constructor
    · rintro (failed | ⟨y, passed, pre, z, post, split, earlier, failed⟩)
      · exact ⟨[], x, xs, rfl, by simp, failed⟩
      · refine ⟨x :: pre, z, post, by simp [split], ?_, failed⟩
        intro w member
        rcases List.mem_cons.mp member with same | later
        · exact ⟨y, same ▸ passed⟩
        · exact earlier w later
    · rintro ⟨pre, z, post, split, earlier, failed⟩
      cases pre with
      | nil =>
        obtain ⟨same, -⟩ := List.cons.inj split
        exact Or.inl (same ▸ failed)
      | cons w pre =>
        obtain ⟨same, rest⟩ := List.cons.inj split
        obtain ⟨y, passed⟩ := earlier w (by simp)
        exact Or.inr ⟨y, same ▸ passed, pre, z, post, rest,
          fun v member => earlier v (by simp [member]), failed⟩

theorem bind_pure_eq_ok_iff {γ : Type} (x : Except ε α) (g : α → γ) (r : γ) :
    (do let a ← x; pure (g a)) = (.ok r : Except ε γ) ↔ ∃ a, x = .ok a ∧ r = g a := by
  cases x <;> simp [bind, Except.bind, pure, Except.pure, eq_comm]

end traverse

section blocks

variable {α : Type} (n : Nat)

theorem length_flatten_of_sized (blocks : List (List α)) (sized : ∀ l ∈ blocks, l.length = n) :
    blocks.flatten.length = blocks.length * n := by
  induction blocks with
  | nil => simp
  | cons l rest ih =>
    have rest_sized : ∀ l ∈ rest, l.length = n := fun l member => sized l (by simp [member])
    rw [List.flatten_cons, List.length_append, ih rest_sized, sized l (by simp),
      List.length_cons, Nat.succ_mul, Nat.add_comm]

theorem take_drop_flatten_of_sized (blocks : List (List α)) (sized : ∀ l ∈ blocks, l.length = n)
    (k : Nat) (hk : k < blocks.length) : (blocks.flatten.drop (k * n)).take n = blocks[k] := by
  induction blocks generalizing k with
  | nil => simp at hk
  | cons l rest ih =>
    have rest_sized : ∀ l ∈ rest, l.length = n := fun l member => sized l (by simp [member])
    rw [List.flatten_cons]
    cases k with
    | zero => simp [List.take_left' (sized l (by simp))]
    | succ k =>
      have inner : k < rest.length := by simpa using hk
      rw [Nat.succ_mul, Nat.add_comm, ← List.drop_drop, List.drop_left' (sized l (by simp)),
        ih rest_sized k inner, List.getElem_cons_succ]

theorem getElem?_flatten_of_sized (blocks : List (List α)) (sized : ∀ l ∈ blocks, l.length = n)
    (k : Nat) (hk : k < blocks.length) (i : Nat) (hi : i < n) :
    blocks.flatten[k * n + i]? = blocks[k][i]? := by
  rw [← take_drop_flatten_of_sized n blocks sized k hk, List.getElem?_take_of_lt hi,
    List.getElem?_drop]

end blocks

end JobMatrix

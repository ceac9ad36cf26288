import Mathlib.Algebra.BigOperators.Group.List.Lemmas
import Mathlib.Data.List.Nodup

/-!
Mixed-radix numerals, lowest digit first: over radices `ns`, digit `j` of `i` is
`i / (ns[0] * ... * ns[j-1]) % ns[j]`. Below the product of the radices a number and its digits
determine each other, and each value of one digit is taken by the same share of the numbers.
The instances of a matrix are numbered this way, one digit per argument.
-/

namespace JobMatrix.MixedRadix

/-- Digit `j` of `i`; a digit past the last radix has radix `0`. -/
def digit (ns : List Nat) (i j : Nat) : Nat :=
  i / (ns.take j).prod % ns.getD j 0

@[simp] theorem digit_cons_zero (n : Nat) (ns : List Nat) (i : Nat) :
    digit (n :: ns) i 0 = i % n := by
  simp [digit]

@[simp] theorem digit_cons_succ (n : Nat) (ns : List Nat) (i j : Nat) :
    digit (n :: ns) i (j + 1) = digit ns (i / n) j := by
  simp [digit, Nat.div_div_eq_div_mul]

theorem div_lt_prod_of_lt {n : Nat} {ns : List Nat} {i : Nat} (below : i < (n :: ns).prod) :
    i / n < ns.prod := by
  rw [List.prod_cons] at below
  exact Nat.div_lt_of_lt_mul below

theorem eq_of_digit_eq (ns : List Nat) {i i' : Nat} (below : i < ns.prod) (below' : i' < ns.prod)
    (same : ∀ j < ns.length, digit ns i j = digit ns i' j) : i = i' := by
  induction ns generalizing i i' with
  | nil => simp only [List.prod_nil] at below below'; omega
  | cons n ns ih =>
    have low : i % n = i' % n := by simpa using same 0 (by simp)
    have high : i / n = i' / n := by
      refine ih (div_lt_prod_of_lt below) (div_lt_prod_of_lt below') ?_
      intro j hj
      simpa using same (j + 1) (by simpa using hj)
    calc i = i % n + n * (i / n) := (Nat.mod_add_div i n).symm
      _ = i' % n + n * (i' / n) := by rw [low, high]
      _ = i' := Nat.mod_add_div i' n

theorem exists_digit_eq (ns : List Nat) (c : Nat → Nat)
    (below : ∀ j (hj : j < ns.length), c j < ns[j]) :
    ∃ i, i < ns.prod ∧ ∀ j < ns.length, digit ns i j = c j := by
  induction ns generalizing c with
  | nil => exact ⟨0, by simp, by simp⟩
  | cons n ns ih =>
    have first : c 0 < n := below 0 (by simp)
    have rest : ∀ j (hj : j < ns.length), c (j + 1) < ns[j] := by
      intro j hj
      have bound := below (j + 1) (Nat.succ_lt_succ hj)
      rwa [List.getElem_cons_succ] at bound
    obtain ⟨i, hi, digits⟩ := ih (fun j => c (j + 1)) rest
    refine ⟨c 0 + n * i, ?_, ?_⟩
    · have step : n * (i + 1) ≤ n * ns.prod := Nat.mul_le_mul_left n hi
      rw [List.prod_cons]
      rw [Nat.mul_add, Nat.mul_one] at step
      omega
    · intro j hj
      have upper : (c 0 + n * i) / n = i := by
        rw [Nat.add_mul_div_left _ _ (by omega), Nat.div_eq_of_lt first, Nat.zero_add]
      cases j with
      | zero => simp [Nat.mod_eq_of_lt first]
      | succ j => simpa [upper] using digits j (by simpa using hj)

theorem countP_range_mul_mod (n q p : Nat) (hp : p < n) :
    (List.range (n * q)).countP (fun i => i % n == p) = q := by
  induction q with
  | zero => simp
  | succ q ih =>
    have block : ((List.range n).map (n * q + ·)).countP (fun i => i % n == p) = 1 := by
      rw [List.countP_map]
      have shift : ∀ x ∈ List.range n, ((fun i => i % n == p) ∘ (n * q + ·)) x = (x == p) := by
        intro x member
        have small : x < n := List.mem_range.mp member
        simp [Nat.mod_eq_of_lt small]
      rw [List.countP_congr (fun x member => by rw [shift x member]), ← List.count]
      exact List.count_eq_one_of_mem List.nodup_range (List.mem_range.mpr hp)
    rw [Nat.mul_succ, List.range_add, List.countP_append, ih, block]

theorem countP_range_mul_div (n q : Nat) (f : Nat → Bool) :
    (List.range (n * q)).countP (fun i => f (i / n)) = n * (List.range q).countP f := by
  induction q with
  | zero => simp
  | succ q ih =>
    have block : ((List.range n).map (n * q + ·)).countP (fun i => f (i / n)) =
        n * [q].countP f := by
      rw [List.countP_map]
      have shift : ∀ x ∈ List.range n, ((fun i => f (i / n)) ∘ (n * q + ·)) x = f q := by
        intro x member
        have small : x < n := List.mem_range.mp member
        have positive : 0 < n := by omega
        simp [Nat.mul_add_div positive, Nat.div_eq_of_lt small]
      rw [List.countP_congr (fun x member => by rw [shift x member])]
      by_cases chosen : f q <;> simp [chosen]
    rw [Nat.mul_succ, List.range_add, List.countP_append, ih, block, List.range_succ,
      List.countP_append, Nat.mul_add]

theorem countP_digit_eq (ns : List Nat) (j : Nat) (hj : j < ns.length) (p : Nat)
    (hp : p < ns[j]) :
    (List.range ns.prod).countP (fun i => digit ns i j == p) = ns.prod / ns[j] := by
  induction ns generalizing j with
  | nil => simp at hj
  | cons n ns ih =>
    cases j with
    | zero =>
      have positive : 0 < n := by simpa using Nat.lt_of_le_of_lt (Nat.zero_le p) hp
      simp only [digit_cons_zero, List.prod_cons, List.getElem_cons_zero]
      rw [countP_range_mul_mod n ns.prod p (by simpa using hp), Nat.mul_div_cancel_left _ positive]
    | succ j =>
      have inner : j < ns.length := by simpa using hj
      have divides : ns[j] ∣ ns.prod := List.dvd_prod (List.getElem_mem inner)
      simp only [digit_cons_succ, List.prod_cons, List.getElem_cons_succ]
      rw [countP_range_mul_div n ns.prod (fun i => digit ns i j == p),
        ih j inner (by simpa using hp), Nat.mul_div_assoc n divides]

end JobMatrix.MixedRadix

import Mathlib.Algebra.BigOperators.Ring.List
import JobMatrix.Matrix
import JobMatrix.Proofs.NameMap
import JobMatrix.Proofs.MixedRadix

/-!
The instances of a matrix in closed form. Instance `i` binds the `j`-th name, in increasing
order, to the value of its list at digit `j` of `i`, written in the mixed radix of the list
lengths with the first name as the lowest digit. So there are as many instances as the product
of the lengths, every choice of one position per list is made by exactly one instance, every
position of one list by the same share of them, and lists without repeats give distinct
instances.
-/

namespace JobMatrix.Matrix

open MixedRadix

/-- The lengths of the value lists, in name order: the radices that number the instances. -/
def radices (m : Matrix) : List Nat := m.toList.map (·.2.length)

section explode

variable (name : String) (values : List String) (collected : List Binding)

theorem length_explode : (explode name values collected).length =
    values.length * collected.length := by
  induction values with
  | nil => simp [explode]
  | cons v rest ih =>
    simp only [explode] at ih ⊢
    rw [List.flatMap_cons, List.length_append, ih, List.length_map, List.length_cons,
      Nat.succ_mul, Nat.add_comm]

theorem getElem?_explode (v c : Nat) (hv : v < values.length) (hc : c < collected.length) :
    (explode name values collected)[v * collected.length + c]? =
      some (collected[c].insert name values[v]) := by
  induction values generalizing v with
  | nil => simp at hv
  | cons x rest ih =>
    simp only [explode] at ih ⊢
    rw [List.flatMap_cons]
    cases v with
    | zero =>
      rw [Nat.zero_mul, Nat.zero_add, List.getElem?_append_left (by simpa using hc)]
      simp [hc]
    | succ v =>
      have inner : v < rest.length := by simpa using hv
      have past : (collected.map fun b => b.insert name x).length ≤
          (v + 1) * collected.length + c := by
        simp only [List.length_map, Nat.succ_mul]
        omega
      rw [List.getElem?_append_right past, List.length_map]
      have shift : (v + 1) * collected.length + c - collected.length =
          v * collected.length + c := by
        rw [Nat.succ_mul]
        omega
      rw [shift, ih v inner, List.getElem_cons_succ]

theorem getElem?_explode_of_lt (r : Nat) (hr : r < values.length * collected.length) :
    (explode name values collected)[r]? = (collected[r % collected.length]?).map
      (·.insert name (values.getD (r / collected.length) "")) := by
  have positive : 0 < collected.length := Nat.pos_of_mul_pos_left (Nat.lt_of_le_of_lt
    (Nat.zero_le r) hr)
  have hv : r / collected.length < values.length :=
    Nat.div_lt_of_lt_mul (by rwa [Nat.mul_comm] at hr)
  have hc : r % collected.length < collected.length := Nat.mod_lt r positive
  have whole := getElem?_explode name values collected _ _ hv hc
  rw [Nat.div_add_mod'] at whole
  rw [whole, List.getElem?_eq_getElem hc, Option.map_some, List.getD_eq_getElem?_getD,
    List.getElem?_eq_getElem hv, Option.getD_some]

/-- One step of the product: the collected list once per value, values outermost. The instance
at `v * collected.length + c` is collected instance `c` with `name` put to value `v`, replacing
any value it had there, and every other name as it was. -/
theorem explode_values_outer :
    (explode name values collected).length = values.length * collected.length ∧
    ∀ v (hv : v < values.length) c (hc : c < collected.length),
      ∃ b, (explode name values collected)[v * collected.length + c]? = some b ∧
        b = collected[c].insert name values[v] ∧ b.get? name = some values[v] ∧
        ∀ n, n ≠ name → b.get? n = collected[c].get? n := by
  refine ⟨length_explode name values collected, fun v hv c hc => ?_⟩
  refine ⟨_, getElem?_explode name values collected v c hv hc, rfl, ?_, fun n other => ?_⟩
  · rw [NameMap.get?_insert, if_pos rfl]
  · rw [NameMap.get?_insert, if_neg other]

end explode

/-- Puts into `b`, name after name, the value at that name's digit of `q`; the first name
takes the lowest digit. -/
def extend (b : Binding) : List (String × List String) → Nat → Binding
  | [], _ => b
  | (n, vs) :: rest, q => extend (b.insert n (vs.getD (q % vs.length) "")) rest (q / vs.length)

abbrev foldStep (collected : List Binding) (entry : String × List String) : List Binding :=
  explode entry.1 entry.2 collected

theorem length_foldl_explode (entries : List (String × List String))
    (collected : List Binding) : (entries.foldl foldStep collected).length =
      collected.length * (entries.map (·.2.length)).prod := by
  induction entries generalizing collected with
  | nil => simp
  | cons entry rest ih =>
    rw [List.foldl_cons, ih, length_explode, List.map_cons, List.prod_cons, Nat.mul_comm _
      collected.length, Nat.mul_assoc]

/-- Folding entries into a collected list: instance `i` extends collected instance
`i % collected.length` by the entries, at the digits of `i / collected.length`. -/
theorem getElem?_foldl_explode (entries : List (String × List String))
    (collected : List Binding) (i : Nat)
    (hi : i < collected.length * (entries.map (·.2.length)).prod) :
    (entries.foldl foldStep collected)[i]? =
      (collected[i % collected.length]?).map (extend · entries (i / collected.length)) := by
  induction entries generalizing collected i with
  | nil =>
    simp only [List.map_nil, List.prod_nil, Nat.mul_one] at hi
    simp [Nat.mod_eq_of_lt hi, extend]
  | cons entry rest ih =>
    obtain ⟨n, vs⟩ := entry
    have size : i < (explode n vs collected).length * (rest.map (·.2.length)).prod := by
      rw [length_explode]
      simpa [Nat.mul_comm, Nat.mul_assoc, Nat.mul_left_comm] using hi
    have positive : 0 < vs.length * collected.length := by
      rw [length_explode] at size
      exact Nat.pos_of_mul_pos_right (Nat.lt_of_le_of_lt (Nat.zero_le i) size)
    rw [List.foldl_cons, ih _ i size, length_explode,
      getElem?_explode_of_lt n vs collected _ (Nat.mod_lt i positive), Option.map_map,
      Nat.mod_mul_left_mod, Nat.mul_comm vs.length, Nat.mod_mul_right_div_self,
      ← Nat.div_div_eq_div_mul]
    rfl

/-- The entries of the instance at digits `q`: each name with the value at its digit. -/
def pick : List (String × List String) → Nat → List (String × String)
  | [], _ => []
  | (n, vs) :: rest, q => (n, vs.getD (q % vs.length) "") :: pick rest (q / vs.length)

theorem names_pick (entries : List (String × List String)) (q : Nat) :
    (pick entries q).map Prod.fst = entries.map Prod.fst := by
  induction entries generalizing q with
  | nil => rfl
  | cons entry rest ih =>
    obtain ⟨n, vs⟩ := entry
    simp [pick, ih]

theorem toList_extend (b : Binding) (entries : List (String × List String)) (q : Nat)
    (sorted : (entries.map Prod.fst).Pairwise (· < ·))
    (above : ∀ x ∈ b.names, ∀ y ∈ entries.map Prod.fst, x < y) :
    (extend b entries q).toList = b.toList ++ pick entries q := by
  induction entries generalizing b q with
  | nil => simp [extend, pick]
  | cons entry rest ih =>
    obtain ⟨n, vs⟩ := entry
    simp only [List.map_cons, List.pairwise_cons] at sorted
    obtain ⟨first, tail⟩ := sorted
    have grown := NameMap.toList_insert_of_lt b n (vs.getD (q % vs.length) "")
      (fun x member => above x member n (by simp))
    have stillAbove : ∀ x ∈ (b.insert n (vs.getD (q % vs.length) "")).names,
        ∀ y ∈ rest.map Prod.fst, x < y := by
      intro x member y later
      rw [NameMap.names_eq, grown, List.map_append, List.mem_append] at member
      rcases member with old | new
      · exact above x old y (List.mem_cons_of_mem n later)
      · have same : x = n := by simpa using new
        exact same ▸ first y later
    rw [extend, ih _ _ tail stillAbove, grown, List.append_assoc]
    rfl

theorem lookup_pick (entries : List (String × List String)) (q j : Nat)
    (sorted : (entries.map Prod.fst).Pairwise (· < ·)) (hj : j < entries.length) :
    (pick entries q).lookup entries[j].1 =
      some (entries[j].2.getD (digit (entries.map (·.2.length)) q j) "") := by
  induction entries generalizing q j with
  | nil => simp at hj
  | cons entry rest ih =>
    obtain ⟨n, vs⟩ := entry
    simp only [List.map_cons, List.pairwise_cons] at sorted
    cases j with
    | zero => simp [pick]
    | succ j =>
      have inner : j < rest.length := by simpa using hj
      have later : n < rest[j].1 :=
        sorted.1 _ (List.mem_map.mpr ⟨rest[j], List.getElem_mem inner, rfl⟩)
      simp only [pick, List.getElem_cons_succ, List.map_cons, digit_cons_succ]
      rw [NameMap.lookup_cons_eq_ite, if_neg (ne_of_gt later), ih _ _ sorted.2 inner]

theorem instances_eq_foldl (m : Matrix) :
    m.instances = m.toList.foldl foldStep [NameMap.empty] := rfl

theorem length_instances (m : Matrix) : m.instances.length = m.radices.prod := by
  rw [instances_eq_foldl, length_foldl_explode, List.length_singleton, Nat.one_mul]
  rfl

theorem getElem_radices (m : Matrix) (j : Nat) (hj : j < m.toList.length) :
    m.radices.getD j 0 = m.toList[j].2.length := by
  simp [radices, hj]

theorem getElem?_instances (m : Matrix) (i : Nat) (hi : i < m.radices.prod) :
    m.instances[i]? = some (extend NameMap.empty m.toList i) := by
  rw [instances_eq_foldl, getElem?_foldl_explode _ _ i (by simpa [radices] using hi),
    List.length_singleton, Nat.mod_one, Nat.div_one]
  rfl

theorem toList_getElem_instances (m : Matrix) (i : Nat) (hi : i < m.instances.length) :
    m.instances[i].toList = pick m.toList i := by
  have whole := getElem?_instances m i (by rwa [length_instances] at hi)
  rw [List.getElem?_eq_getElem hi, Option.some.injEq] at whole
  rw [whole, toList_extend _ _ _ (NameMap.sorted_toList m) (by simp)]
  simp

theorem names_getElem_instances (m : Matrix) (i : Nat) (hi : i < m.instances.length) :
    m.instances[i].names = m.names := by
  rw [NameMap.names_eq, toList_getElem_instances m i hi, names_pick]
  rfl

theorem length_value_pos (m : Matrix) (i : Nat) (hi : i < m.instances.length) (j : Nat)
    (hj : j < m.toList.length) : 0 < m.toList[j].2.length := by
  have positive : 0 < m.radices.prod := by
    rw [← length_instances]
    omega
  exact List.prod_pos_iff_forall_pos_nat.mp positive _
    (List.mem_map.mpr ⟨m.toList[j], List.getElem_mem hj, rfl⟩)

theorem digit_lt_length (m : Matrix) (i : Nat) (hi : i < m.instances.length) (j : Nat)
    (hj : j < m.toList.length) : digit m.radices i j < m.toList[j].2.length := by
  rw [digit, getElem_radices m j hj]
  exact Nat.mod_lt _ (length_value_pos m i hi j hj)

/-- The index formula: instance `i` binds the `j`-th name to the value at digit `j` of `i`. -/
theorem get?_getElem_instances (m : Matrix) (i : Nat) (hi : i < m.instances.length) (j : Nat)
    (hj : j < m.toList.length) :
    m.instances[i].get? m.toList[j].1 = m.toList[j].2[digit m.radices i j]? := by
  have small := digit_lt_length m i hi j hj
  have picked := lookup_pick m.toList i j (NameMap.sorted_toList m) hj
  rw [show m.toList.map (·.2.length) = m.radices from rfl, List.getD_eq_getElem?_getD,
    List.getElem?_eq_getElem small, Option.getD_some] at picked
  rw [List.getElem?_eq_getElem small, ← picked, ← toList_getElem_instances m i hi]
  rfl

theorem instances_eq_nil_of_empty (m : Matrix) (empty : [] ∈ m.values) : m.instances = [] := by
  obtain ⟨entry, member, none⟩ := List.mem_map.mp empty
  have zero : 0 ∈ m.radices := List.mem_map.mpr ⟨entry, member, by simp [none]⟩
  apply List.eq_nil_of_length_eq_zero
  rw [length_instances]
  exact List.prod_eq_zero_iff_exists_zero_nat.mpr ⟨0, zero, rfl⟩

theorem instances_eq_nil_iff (m : Matrix) : m.instances = [] ↔ [] ∈ m.values := by
  constructor
  · intro none
    have zero : m.radices.prod = 0 := by rw [← length_instances, none, List.length_nil]
    obtain ⟨n, member, isZero⟩ := List.prod_eq_zero_iff_exists_zero_nat.mp zero
    obtain ⟨entry, inside, length⟩ := List.mem_map.mp member
    have empty : entry.2 = [] := List.eq_nil_of_length_eq_zero (length.trans isZero)
    exact List.mem_map.mpr ⟨entry, inside, empty⟩
  · exact instances_eq_nil_of_empty m

theorem names_of_mem_instances (m : Matrix) (b : Binding) (member : b ∈ m.instances) :
    b.names = m.names := by
  obtain ⟨i, hi, rfl⟩ := List.getElem_of_mem member
  exact names_getElem_instances m i hi

/-- Lists free of repeats give distinct instances: equal instances take equal values, hence
equal digits, hence are the same instance. -/
theorem instances_nodup (m : Matrix)
    (distinct : [] ∈ m.values ∨ ∀ vs ∈ m.values, vs.Nodup) : m.instances.Nodup := by
  rcases distinct with empty | free
  · rw [instances_eq_nil_of_empty m empty]
    exact List.nodup_nil
  · apply List.nodup_iff_injective_get.mpr
    rintro ⟨i, hi⟩ ⟨i', hi'⟩ same
    simp only [List.get_eq_getElem] at same
    apply Fin.ext
    refine eq_of_digit_eq m.radices (length_instances m ▸ hi) (length_instances m ▸ hi') ?_
    intro j hj
    have hj' : j < m.toList.length := by simpa [radices] using hj
    have small := digit_lt_length m i hi j hj'
    have small' := digit_lt_length m i' hi' j hj'
    have values := get?_getElem_instances m i hi j hj'
    rw [same, get?_getElem_instances m i' hi' j hj', List.getElem?_eq_getElem small,
      List.getElem?_eq_getElem small'] at values
    have repeatFree : m.toList[j].2.Nodup :=
      free _ (List.mem_map.mpr ⟨m.toList[j], List.getElem_mem hj', rfl⟩)
    exact (repeatFree.getElem_inj_iff.mp (Option.some.inj values)).symm

/-- The instances of a matrix are the mixed-radix product of its value lists. There are as
many as the product of the lengths; instance `i` binds exactly the names of the matrix, the
`j`-th to the value at position `i / (|L_0| * ... * |L_(j-1)|) % |L_j|` of its list; every choice
of one position per list is made at exactly one index; each position of a list is chosen by the
same share of the instances; and an empty list, or lists without repeats, leave no two
instances equal. -/
theorem instances_mixed_radix (m : Matrix) :
    m.instances.length = m.radices.prod ∧
    (∀ i (hi : i < m.instances.length), m.instances[i].names = m.names ∧
      ∀ j (hj : j < m.toList.length),
        m.instances[i].get? m.toList[j].1 = m.toList[j].2[digit m.radices i j]?) ∧
    (∀ c : Nat → Nat, (∀ j (hj : j < m.radices.length), c j < m.radices[j]) →
      ∃! i, i < m.instances.length ∧ ∀ j < m.radices.length, digit m.radices i j = c j) ∧
    (∀ j (hj : j < m.radices.length), ∀ p < m.radices[j],
      (List.range m.instances.length).countP (fun i => digit m.radices i j == p) =
        m.instances.length / m.radices[j]) ∧
    ([] ∈ m.values ∨ (∀ vs ∈ m.values, vs.Nodup) → m.instances.Nodup) := by
  refine ⟨length_instances m, ?_, ?_, ?_, instances_nodup m⟩
  · intro i hi
    exact ⟨names_getElem_instances m i hi, get?_getElem_instances m i hi⟩
  · intro c below
    obtain ⟨i, hi, digits⟩ := exists_digit_eq m.radices c below
    refine ⟨i, ⟨length_instances m ▸ hi, digits⟩, ?_⟩
    rintro i' ⟨hi', digits'⟩
    exact eq_of_digit_eq m.radices (length_instances m ▸ hi') hi
      (fun j hj => (digits' j hj).trans (digits j hj).symm)
  · intro j hj p hp
    rw [length_instances]
    exact countP_digit_eq m.radices j hj p hp

example : (instances ((NameMap.empty.insert "y" ["3", "4"]).insert "x" ["1", "2"])).map
    Binding.display = ["\x7b 'x': 1,'y': 3 \x7d", "\x7b 'x': 2,'y': 3 \x7d", "\x7b 'x': 1,'y': 4 \x7d",
      "\x7b 'x': 2,'y': 4 \x7d"] := by
  decide +kernel

end JobMatrix.Matrix

import JobMatrix.Proofs.Instances

/-!
Counting the instances of a matrix in a 64-bit word. The count multiplies the lengths of the
value lists in a word that wraps around, so it is the number of instances modulo `2 ^ 64`: it
is that number exactly when there are fewer than `2 ^ 64` instances, and only then does a zero
count mean an empty list. Sixty-four arguments of two values each make `2 ^ 64` instances and
a count of zero.
-/

namespace JobMatrix.Matrix

theorem toNat_foldr_mul (ns : List Nat) :
    (ns.foldr (fun (n : Nat) (acc : UInt64) => n.toUInt64 * acc) 1).toNat =
      ns.prod % UInt64.size := by
  induction ns with
  | nil => rfl
  | cons n ns ih =>
    rw [List.foldr_cons, UInt64.toNat_mul, ih, Nat.toUInt64_eq, UInt64.toNat_ofNat',
      List.prod_cons]
    exact (Nat.mul_mod n ns.prod UInt64.size).symm

theorem map_length_values (m : Matrix) : m.values.map List.length = m.radices := by
  simp only [NameMap.values, radices, NameMap.toList, List.map_map]
  rfl

theorem toNat_instanceCount (m : Matrix) :
    m.instanceCount.toNat = m.instances.length % UInt64.size := by
  rw [instanceCount, map_length_values, toNat_foldr_mul, length_instances]

/-- The count of instances is the product of the lengths of the value lists modulo `2 ^ 64`,
while the number of instances is that product. The count is the number of instances exactly
when there are fewer than `2 ^ 64`, and then it is zero exactly when some list of values is
empty. -/
theorem instanceCount_wraps (m : Matrix) :
    m.instanceCount.toNat = (m.values.map List.length).prod % UInt64.size ∧
    m.instances.length = (m.values.map List.length).prod ∧
    (m.instanceCount.toNat = m.instances.length ↔ m.instances.length < UInt64.size) ∧
    (m.instances.length < UInt64.size → (m.instanceCount = 0 ↔ [] ∈ m.values)) := by
  have product : m.instances.length = (m.values.map List.length).prod := by
    rw [map_length_values, length_instances]
  refine ⟨by rw [← product, toNat_instanceCount], product, ?_, fun small => ?_⟩
  · rw [toNat_instanceCount]
    exact Nat.mod_eq_iff_lt (by decide)
  · rw [← UInt64.toNat_inj, toNat_instanceCount, Nat.mod_eq_of_lt small, UInt64.toNat_zero,
      List.length_eq_zero_iff, instances_eq_nil_iff]

/-- Sixty-four arguments `n00` to `n63`, each with the values `a` and `b`. -/
def wide : Matrix :=
  NameMap.ofList ((List.range 64).map fun i =>
    (String.ofList ['n', Char.ofNat (48 + i / 10), Char.ofNat (48 + i % 10)], ["a", "b"]))

theorem radices_wide : wide.radices = List.replicate 64 2 := by
  decide +kernel

theorem wide_instanceCount_eq_zero :
    wide.instanceCount = 0 ∧ [] ∉ wide.values ∧ wide.instances.length = UInt64.size := by
  have size : wide.instances.length = UInt64.size := by
    rw [length_instances, radices_wide]
    rfl
  refine ⟨?_, fun empty => ?_, size⟩
  · rw [← UInt64.toNat_inj, toNat_instanceCount, size, Nat.mod_self, UInt64.toNat_zero]
  · have zero : ([] : List String).length ∈ wide.radices := by
      rw [← map_length_values]
      exact List.mem_map_of_mem empty
    rw [radices_wide] at zero
    simp at zero

end JobMatrix.Matrix

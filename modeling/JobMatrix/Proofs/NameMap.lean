import Mathlib.Data.String.Basic
import Mathlib.Data.List.Sort
import JobMatrix.NameMap

/-!
Reading a name map back after a put: every name keeps its value except the one put, and a
name that comes after all present names is put at the end. Instances are built by such puts,
one name at a time in increasing order.
-/

namespace JobMatrix.NameMap

variable {α : Type}

theorem lookup_cons_eq_ite (j n : String) (w : α) (l : List (String × α)) :
    ((j, w) :: l).lookup n = if n = j then some w else l.lookup n := by
  by_cases same : n = j
  · simp [same]
  · simp [List.lookup_cons, beq_eq_false_iff_ne.mpr same, same]

theorem lookup_insertEntry (k : String) (v : α) (l : List (String × α)) (n : String) :
    (insertEntry k v l).lookup n = if n = k then some v else l.lookup n := by
  induction l with
  | nil => simp only [insertEntry, lookup_cons_eq_ite, List.lookup_nil]
  | cons head rest ih =>
    obtain ⟨j, w⟩ := head
    simp only [insertEntry]
    split
    · simp only [lookup_cons_eq_ite]
    · split
      · rename_i equal
        subst equal
        by_cases same : n = k <;> simp [lookup_cons_eq_ite, same]
      · rename_i equal
        simp only [lookup_cons_eq_ite, ih]
        by_cases same : n = k
        · subst same
          simp [equal]
        · simp [same]

theorem insertEntry_of_lt (k : String) (v : α) (l : List (String × α))
    (above : ∀ x ∈ l.map Prod.fst, x < k) : insertEntry k v l = l ++ [(k, v)] := by
  induction l with
  | nil => rfl
  | cons head rest ih =>
    obtain ⟨j, w⟩ := head
    have below : j < k := above j (by simp)
    have tail : ∀ x ∈ rest.map Prod.fst, x < k := fun x member => above x (by simp [member])
    simp only [insertEntry, if_neg (lt_asymm below), if_neg (ne_of_gt below), ih tail,
      List.cons_append]

@[simp] theorem get?_insert (m : NameMap α) (k : String) (v : α) (n : String) :
    (m.insert k v).get? n = if n = k then some v else m.get? n :=
  lookup_insertEntry k v m.entries n

theorem toList_insert_of_lt (m : NameMap α) (k : String) (v : α)
    (above : ∀ x ∈ m.names, x < k) : (m.insert k v).toList = m.toList ++ [(k, v)] :=
  insertEntry_of_lt k v m.entries above

theorem contains_iff (m : NameMap α) (n : String) : m.contains n = true ↔ n ∈ m.names := by
  simp [contains, get?, names]

theorem not_contains_iff (m : NameMap α) (n : String) : (!m.contains n) = true ↔ n ∉ m.names := by
  rw [Bool.not_eq_true', ← Bool.not_eq_true, contains_iff]

theorem contains_eq_names_contains (m : NameMap α) (n : String) :
    m.contains n = m.names.contains n := by
  apply Bool.eq_iff_iff.mpr
  rw [contains_iff, List.contains_iff_mem]

theorem sorted_toList (m : NameMap α) : (m.toList.map Prod.fst).Pairwise (· < ·) :=
  m.ordered

theorem names_nodup (m : NameMap α) : m.names.Nodup :=
  m.ordered.imp ne_of_lt

/-- The names are listed in order, so two maps with the same names list them alike. -/
theorem names_eq_of_mem_iff {m : NameMap α} {β : Type} {m' : NameMap β}
    (same : ∀ k, k ∈ m.names ↔ k ∈ m'.names) : m.names = m'.names :=
  List.Pairwise.eq_of_mem_iff m.ordered m'.ordered same

theorem lookup_of_mem (l : List (String × α)) (distinct : (l.map Prod.fst).Nodup)
    (e : String × α) (member : e ∈ l) : l.lookup e.1 = some e.2 := by
  induction l with
  | nil => cases member
  | cons head rest ih =>
    obtain ⟨j, w⟩ := head
    simp only [List.map_cons, List.nodup_cons] at distinct
    rw [lookup_cons_eq_ite]
    rcases List.mem_cons.mp member with rfl | later
    · simp
    · have other : e.1 ≠ j := fun same => distinct.1 (same ▸ List.mem_map_of_mem later)
      rw [if_neg other, ih distinct.2 later]

/-- Each listed entry is what looking its name up gives. -/
theorem get?_of_mem_toList (m : NameMap α) {e : String × α} (member : e ∈ m.toList) :
    m.get? e.1 = some e.2 :=
  lookup_of_mem m.entries (names_nodup m) e member

end JobMatrix.NameMap

import JobMatrix.Query.Fill
import JobMatrix.Proofs.NameMap

/-!
What filling a query reads of an instance. Whether it fails, with which fault, and the text it
writes depend only on the names the instance binds; the values only become the parameters.
With valid names, filling fails exactly at the first placeholder that names nothing bound, and
the fault is an unbound or colliding placeholder.
-/

namespace JobMatrix.Query

theorem contains_eq_of_names {b b' : Binding} (same : b.names = b'.names) :
    b.contains = b'.contains := by
  funext n
  rw [NameMap.contains_eq_names_contains, NameMap.contains_eq_names_contains, same]

theorem unboundFault_eq_of_names {b b' : Binding} (same : b.names = b'.names) :
    unboundFault b = unboundFault b' := by
  funext n
  simp only [unboundFault, same]

theorem names_params (b : Binding) (used : List String) :
    (b.toList.filter fun e => used.contains e.1).map Prod.fst = b.names.filter used.contains := by
  rw [NameMap.names_eq, List.filter_map]
  rfl

/-- Two instances with the same names fill a query alike: the same fault, or the same text. -/
theorem map_text_fill_of_names {b b' : Binding} (same : b.names = b'.names) (query : String) :
    (fill b query).map Filled.text = (fill b' query).map Filled.text := by
  have numbered : ∀ used : List String,
      (b.toList.filter fun e => used.contains e.1).map Prod.fst =
        (b'.toList.filter fun e => used.contains e.1).map Prod.fst := by
    intro used
    rw [names_params, names_params, same]
  simp only [fill, same, contains_eq_of_names same, unboundFault_eq_of_names same]
  split
  · rfl
  · split
    · rfl
    · simp only [Except.map, numbered]

theorem fill_eq_error_of_names {b b' : Binding} (same : b.names = b'.names) {query : String}
    {fault : ArgFault} (failed : fill b query = .error fault) : fill b' query = .error fault := by
  have alike := map_text_fill_of_names same query
  rw [failed] at alike
  cases other : fill b' query with
  | error fault' =>
    rw [other] at alike
    exact congrArg Except.error (Except.error.inj alike).symm
  | ok filled => simp [other, Except.map] at alike

theorem unboundFault_cases (b : Binding) (name : String) :
    unboundFault b name = .unbound name ∨ ∃ bound, unboundFault b name = .collision name bound := by
  unfold unboundFault
  split
  · rename_i bound _
    exact Or.inr ⟨bound, rfl⟩
  · exact Or.inl rfl

section valid

variable (b : Binding) (query : String) (valid : ∀ k ∈ b.names, ArgName.isValid k = true)
include valid

theorem find?_badName_eq_none : (b.names.find? fun k => !ArgName.isValid k) = none := by
  rw [List.find?_eq_none]
  intro k member
  simp [valid k member]

/-- With valid names, filling fails exactly at the first placeholder bound by no name. -/
theorem fill_eq_error_iff (fault : ArgFault) :
    fill b query = .error fault ↔ ∃ name,
      ((holes (scan query)).find? fun n => !b.contains n) = some name ∧
        fault = unboundFault b name := by
  simp only [fill, find?_badName_eq_none b valid]
  split
  · rename_i name first
    simp only [first, Except.error.injEq]
    exact ⟨fun h => ⟨name, rfl, h.symm⟩, fun ⟨_, h, e⟩ => by cases h; exact e.symm⟩
  · rename_i none
    simp only [none, reduceCtorEq, false_iff, not_exists, not_and]
    intro _ h
    cases h

theorem fill_ok_iff : (∃ filled, fill b query = .ok filled) ↔ ∀ name ∈ holes (scan query),
    name ∈ b.names := by
  simp only [fill, find?_badName_eq_none b valid]
  split
  · rename_i name first
    simp only [reduceCtorEq, exists_false, false_iff, not_forall]
    have absent := List.find?_some first
    refine ⟨name, List.mem_of_find?_eq_some first, fun member => ?_⟩
    have present := (NameMap.contains_iff b name).mpr member
    simp [present] at absent
  · rename_i none
    simp only [Except.ok.injEq, exists_eq', true_iff]
    intro name member
    have present := List.find?_eq_none.mp none name member
    simpa [NameMap.contains_iff] using present

end valid

end JobMatrix.Query

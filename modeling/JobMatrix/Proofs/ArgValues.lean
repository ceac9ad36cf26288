import Mathlib.Data.List.Forall2
import JobMatrix.Matrix.OfYaml
import JobMatrix.Proofs.Traverse

/-!
The values of a matrix argument, read from a YAML value. A string stands for itself and a
sequence for its items, each of which must be a string. Any other value is refused, and the
report depends on what kind of value it is: a null argument has no value, a number or a boolean
must be quoted, and anything else is not a string. In a sequence, the first item that is not a
string decides the report. A null item there is only "not a string", since the "no value"
report belongs to an argument as a whole.
-/

namespace JobMatrix.Matrix

open Yaml

/-- The report for a value that is not a string, where one string is expected. -/
inductive ItemRefusal : Value → String → Prop
  | number (n : Number) :
      ItemRefusal (.number n) "Matrix values must be quoted strings (e.g. \"1.10\")"
  | bool (b : Bool) :
      ItemRefusal (.bool b) "Matrix values must be quoted strings (e.g. \"1.10\")"
  | null : ItemRefusal .null "Expected string matrix value"
  | sequence (items : List Value) : ItemRefusal (.sequence items) "Expected string matrix value"
  | mapping (entries : List (Value × Value)) :
      ItemRefusal (.mapping entries) "Expected string matrix value"
  | tagged (tag : String) (v : Value) : ItemRefusal (.tagged tag v) "Expected string matrix value"

/-- The report for a value that cannot be the values of an argument. -/
inductive Refusal : Value → String → Prop
  | null : Refusal .null "Matrix argument has no value; use [] for an empty list"
  /-- A value that is neither null nor a sequence is refused as a single value would be. -/
  | single {v : Value} {report : String} : ItemRefusal v report → v ≠ .null →
      (∀ items, v ≠ .sequence items) → Refusal v report
  /-- A sequence is refused for its first item that is not a string. -/
  | item (texts : List String) (x : Value) (rest : List Value) {report : String} :
      ItemRefusal x report → Refusal (.sequence (texts.map .string ++ x :: rest)) report

theorem ValueFault.message_injective : Function.Injective ValueFault.message := by
  intro f g same
  cases f <;> cases g <;> simp_all [ValueFault.message]

theorem valueText_eq_ok_iff (x : Value) (s : String) : valueText x = .ok s ↔ x = .string s := by
  cases x <;> simp [valueText]

theorem itemRefusal_of_valueText {x : Value} {f : ValueFault} (refused : valueText x = .error f) :
    ItemRefusal x f.message := by
  cases x <;> cases refused <;> constructor

theorem valueText_of_itemRefusal {x : Value} {report : String} (refused : ItemRefusal x report) :
    ∃ f, valueText x = .error f ∧ f.message = report := by
  cases refused with
  | number | bool => exact ⟨.unquoted, rfl, rfl⟩
  | null | sequence | mapping | tagged => exact ⟨.notText, rfl, rfl⟩

theorem mapM_valueText_eq_ok_iff (items : List Value) (texts : List String) :
    items.mapM valueText = .ok texts ↔ items = texts.map .string := by
  rw [mapM_eq_ok_iff, ← List.forall₂_eq_eq_eq, List.forall₂_map_right_iff]
  simp only [valueText_eq_ok_iff]

theorem argValues_eq_ok_iff (v : Value) (texts : List String) :
    argValues v = .ok texts ↔
      (∃ s, v = .string s ∧ texts = [s]) ∨ v = .sequence (texts.map .string) := by
  cases v with
  | sequence items => simp [argValues, mapM_valueText_eq_ok_iff]
  | string s => simp [argValues, eq_comm]
  | _ => simp [argValues, valueText, Except.map]

theorem argValues_of_single {v : Value} (present : v ≠ .null) (notList : ∀ items, v ≠ .sequence items) :
    argValues v = (valueText v).map fun s => [s] := by
  cases v with
  | null => exact absurd rfl present
  | sequence items => exact absurd rfl (notList items)
  | _ => rfl

theorem refusal_of_argValues {v : Value} {f : ValueFault} (refused : argValues v = .error f) :
    Refusal v f.message := by
  cases v with
  | null =>
    cases refused
    exact .null
  | sequence items =>
    obtain ⟨pre, x, post, split, earlier, failed⟩ :=
      (mapM_eq_error_iff valueText items f).mp refused
    obtain ⟨texts, passed⟩ := (mapM_ok_iff_forall valueText pre).mpr earlier
    rw [split, (mapM_valueText_eq_ok_iff pre texts).mp passed]
    exact .item texts x post (itemRefusal_of_valueText failed)
  | string s => cases refused
  | _ =>
    cases refused
    exact .single (itemRefusal_of_valueText rfl) (by simp) (by simp)

theorem argValues_of_refusal {v : Value} {report : String} (refused : Refusal v report) :
    ∃ f, argValues v = .error f ∧ f.message = report := by
  cases refused with
  | null => exact ⟨.noValue, rfl, rfl⟩
  | single item present notList =>
    obtain ⟨f, failed, rfl⟩ := valueText_of_itemRefusal item
    exact ⟨f, by rw [argValues_of_single present notList, failed]; rfl, rfl⟩
  | item texts x rest item =>
    obtain ⟨f, failed, rfl⟩ := valueText_of_itemRefusal item
    refine ⟨f, (mapM_eq_error_iff valueText _ f).mpr
      ⟨texts.map .string, x, rest, rfl, ?_, failed⟩, rfl⟩
    intro y member
    obtain ⟨s, -, rfl⟩ := List.mem_map.mp member
    exact ⟨s, rfl⟩

theorem argValues_eq_error_iff (v : Value) (f : ValueFault) :
    argValues v = .error f ↔ Refusal v f.message := by
  refine ⟨refusal_of_argValues, fun refused => ?_⟩
  obtain ⟨g, failed, same⟩ := argValues_of_refusal refused
  rwa [← ValueFault.message_injective same]

/-- The values of an argument are a string alone, or the items of a sequence of strings in
order. Any other value is refused: a null value for having no value, a number or a boolean for
not being quoted, a mapping or a tagged value for not being a string, and a sequence with the
report of its first item that is not a string. -/
theorem argValues_strings_or_refusal (v : Value) :
    (∀ texts, argValues v = .ok texts ↔
      (∃ s, v = .string s ∧ texts = [s]) ∨ v = .sequence (texts.map .string)) ∧
    ∀ f, argValues v = .error f ↔ Refusal v f.message :=
  ⟨argValues_eq_ok_iff v, argValues_eq_error_iff v⟩

example : argValues (.sequence [.string "a", .null, .bool true]) = .error .notText := rfl

end JobMatrix.Matrix

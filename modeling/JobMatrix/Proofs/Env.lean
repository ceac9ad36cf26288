import Mathlib
import JobMatrix.Proofs.Instances
import JobMatrix.Proofs.Check

/-!
The shell assignments of an instance. A valid name is ASCII, and on ASCII the full uppercase
is the ASCII one, so the variable of a name is the prefix and the name with a to z raised; it
never holds an equals sign. Cutting an assignment at its first equals sign therefore gives back
the variable and the value. Two names share a variable exactly when they agree after
uppercasing, as x and X do, and then the later assignment shadows the earlier one.
-/

namespace JobMatrix

namespace Text

/-- The core uppercase of one character moves a to z down by 32 and leaves the rest. -/
theorem toNat_charToUpper (c : Char) :
    c.toUpper.toNat = if 97 ≤ c.toNat ∧ c.toNat ≤ 122 then c.toNat - 32 else c.toNat := by
  unfold Char.toUpper
  split
  · rename_i lower
    have low : 97 ≤ c.toNat ∧ c.toNat ≤ 122 := by
      simp only [Char.toNat, UInt32.le_iff_toNat_le] at lower ⊢
      exact lower
    rw [if_pos low]
    simp only [Char.toNat, UInt32.toNat_add] at low ⊢
    have offset : ('A'.val - 'a'.val).toNat = 4294967264 := by decide
    rw [offset]
    omega
  · rename_i notLower
    have outside : ¬ (97 ≤ c.toNat ∧ c.toNat ≤ 122) := by
      simp only [Char.toNat, UInt32.le_iff_toNat_le] at notLower ⊢
      exact notLower
    rw [if_neg outside]

theorem upperSpecial_above_ascii : ∀ p ∈ upperSpecial, 128 ≤ p.1 := by decide +kernel

theorem upperRuns_eq_cons : upperRuns = ⟨97, 122, 65, 1⟩ :: upperRuns.tail := rfl

theorem upperRuns_tail_above_ascii : ∀ r ∈ upperRuns.tail, 128 ≤ r.lo := by decide +kernel

/- On ASCII the full Unicode uppercase is the ASCII one: no special mapping starts below 128,
and the only run there is a to z. -/
theorem upperChar_of_ascii {c : Char} (ascii : c.toNat < 128) : upperChar c = [c.toUpper] := by
  have special : upperSpecial.lookup c.toNat = none := by
    rw [List.lookup_eq_none_iff]
    intro p member
    have above := upperSpecial_above_ascii p member
    simp only [bne_iff_ne, ne_eq]
    omega
  have later : upperRuns.tail.findSome? (·.apply c.toNat) = none := by
    rw [List.findSome?_eq_none_iff]
    intro r member
    have above := upperRuns_tail_above_ascii r member
    simp only [UpperRun.apply]
    rw [if_neg (by omega)]
  unfold upperChar
  rw [special, upperRuns_eq_cons, List.findSome?_cons]
  by_cases lower : 97 ≤ c.toNat ∧ c.toNat ≤ 122
  · have moved : (⟨97, 122, 65, 1⟩ : UpperRun).apply c.toNat = some (c.toNat - 32) := by
      simp only [UpperRun.apply, Nat.mod_one, and_true]
      rw [if_pos lower]
      congr 1
      omega
    rw [moved, ← Char.ofNat_toNat c.toUpper, toNat_charToUpper, if_pos lower]
  · have kept : (⟨97, 122, 65, 1⟩ : UpperRun).apply c.toNat = none := by
      simp only [UpperRun.apply, Nat.mod_one, and_true]
      rw [if_neg lower]
    have same : c.toUpper.toNat = c.toNat := by rw [toNat_charToUpper, if_neg lower]
    rw [kept, later, Char.toNat_inj.mp same]

theorem flatMap_upperChar_of_ascii (cs : List Char) (ascii : ∀ c ∈ cs, c.toNat < 128) :
    cs.flatMap upperChar = cs.map Char.toUpper := by
  induction cs with
  | nil => rfl
  | cons c cs ih =>
    rw [List.flatMap_cons, List.map_cons, upperChar_of_ascii (ascii c (by simp)),
      ih (fun d member => ascii d (by simp [member]))]
    rfl

end Text

namespace ArgName

theorem isTail_iff_codes (c : Char) :
    isTail c = true ↔ (((65 ≤ c.toNat ∧ c.toNat ≤ 90) ∨ (97 ≤ c.toNat ∧ c.toNat ≤ 122)) ∨
      (48 ≤ c.toNat ∧ c.toNat ≤ 57)) ∨ c = '_' := by
  simp only [isTail, Char.isAlphanum, Char.isAlpha, Char.isUpper, Char.isLower, Char.isDigit,
    Bool.or_eq_true, Bool.and_eq_true, decide_eq_true_eq, UInt32.le_iff_toNat_le, beq_iff_eq]
  exact Iff.rfl

theorem toNat_lt_of_isTail {c : Char} (tail : isTail c = true) : c.toNat < 128 := by
  rcases (isTail_iff_codes c).mp tail with ((upper | lower) | digit) | rfl
  · omega
  · omega
  · omega
  · decide

theorem toUpper_ne_eq_of_isTail {c : Char} (tail : isTail c = true) : c.toUpper ≠ '=' := by
  intro equal
  have code := congrArg Char.toNat equal
  rw [Text.toNat_charToUpper] at code
  have eqCode : ('=' : Char).toNat = 61 := rfl
  rcases (isTail_iff_codes c).mp tail with ((upper | lower) | digit) | rfl
  · split at code <;> omega
  · split at code <;> omega
  · split at code <;> omega
  · revert code
    decide

theorem isTail_of_mem {s : String} (valid : isValid s = true) {c : Char} (member : c ∈ s.toList) :
    isTail c = true := by
  unfold isValid at valid
  cases h : s.toList with
  | nil => rw [h] at valid; cases valid
  | cons d ds =>
    rw [h] at valid member
    simp only [isValidList, Bool.and_eq_true, List.all_eq_true] at valid
    rcases List.mem_cons.mp member with rfl | later
    · exact isTail_of_isHead valid.1
    · exact valid.2 c later

end ArgName

namespace Binding

/-- An assignment cut at its first equals sign: the variable before it and the value after it.
A text with no equals sign is all variable, with an empty value. -/
def splitAssignment (entry : String) : String × String :=
  (String.ofList (entry.toList.takeWhile (· != '=')),
    String.ofList ((entry.toList.dropWhile (· != '=')).drop 1))

section valid

variable {name : String} (valid : ArgName.isValid name = true)
include valid

theorem toList_envVarName :
    (envVarName name).toList = "PGQ_INSTANCE_".toList ++ name.toList.map Char.toUpper := by
  have ascii : ∀ c ∈ name.toList, c.toNat < 128 :=
    fun c member => ArgName.toNat_lt_of_isTail (ArgName.isTail_of_mem valid member)
  rw [envVarName, String.toList_append, Text.toUpper, Text.flatMap_upperChar_of_ascii _ ascii,
    String.toList_ofList, String.toList_ofList]

theorem eq_not_mem_envVarName : '=' ∉ (envVarName name).toList := by
  rw [toList_envVarName valid, List.mem_append, List.mem_map, not_or]
  refine ⟨by decide, ?_⟩
  rintro ⟨c, member, upper⟩
  exact ArgName.toUpper_ne_eq_of_isTail (ArgName.isTail_of_mem valid member) upper

theorem splitAssignment_envEntry (value : String) :
    splitAssignment (envEntry (name, value)) = (envVarName name, value) := by
  have before : ∀ c ∈ (envVarName name).toList, (c != '=') = true := by
    intro c member
    rw [bne_iff_ne]
    rintro rfl
    exact eq_not_mem_envVarName valid member
  have text : (envEntry (name, value)).toList = (envVarName name).toList ++ '=' :: value.toList := by
    simp only [envEntry, String.toList_append, List.append_assoc]
    rfl
  simp only [splitAssignment, text, List.takeWhile_append_of_pos before,
    List.dropWhile_append_of_pos before]
  simp [String.ofList_toList]

end valid

theorem envVarName_eq_iff {name name' : String} (valid : ArgName.isValid name = true)
    (valid' : ArgName.isValid name' = true) :
    envVarName name = envVarName name' ↔
      name.toList.map Char.toUpper = name'.toList.map Char.toUpper := by
  rw [← String.toList_inj, toList_envVarName valid, toList_envVarName valid',
    List.append_cancel_left_eq]

section names

variable (b : Binding) (valid : ∀ k ∈ b.names, ArgName.isValid k = true)
include valid

theorem map_splitAssignment_env :
    b.env.map splitAssignment = b.toList.map fun e => (envVarName e.1, e.2) := by
  rw [env, List.map_map]
  apply List.map_congr_left
  rintro ⟨k, v⟩ member
  have named : k ∈ b.names := List.mem_map_of_mem (f := Prod.fst) member
  exact splitAssignment_envEntry (valid k named) v

theorem map_variable_env : (b.env.map fun e => (splitAssignment e).1) = b.names.map envVarName := by
  have split := congrArg (List.map Prod.fst) (map_splitAssignment_env b valid)
  rw [List.map_map, List.map_map] at split
  rw [NameMap.names, List.map_map]
  exact split

theorem nodup_variable_env_iff :
    (b.env.map fun e => (splitAssignment e).1).Nodup ↔
      (b.names.map fun k => k.toList.map Char.toUpper).Nodup := by
  rw [map_variable_env b valid, List.nodup_map_iff_inj_on (NameMap.names_nodup b),
    List.nodup_map_iff_inj_on (NameMap.names_nodup b)]
  constructor
  · intro injective k member k' member' same
    exact injective k member k' member'
      ((envVarName_eq_iff (valid k member) (valid k' member')).mpr same)
  · intro injective k member k' member' same
    exact injective k member k' member'
      ((envVarName_eq_iff (valid k member) (valid k' member')).mp same)

end names

end Binding

namespace Matrix

open Binding

theorem instance_env_assignments (m : Matrix) (valid : m.validate = .ok ()) (b : Binding)
    (member : b ∈ m.instances) :
    b.env.map splitAssignment = b.toList.map (fun e => (envVarName e.1, e.2)) ∧
      ((b.env.map fun e => (splitAssignment e).1).Nodup ↔
        (m.names.map fun k => k.toList.map Char.toUpper).Nodup) := by
  have named : b.names = m.names := names_of_mem_instances m b member
  have validNames : ∀ k ∈ b.names, ArgName.isValid k = true := by
    rw [named]
    exact (validate_ok_iff m).mp valid
  refine ⟨map_splitAssignment_env b validNames, ?_⟩
  rw [nodup_variable_env_iff b validNames, named]

theorem instance_env_assignments_day :
    validate (NameMap.empty.insert "day" ["mon", "tue"]) = .ok () ∧
      NameMap.empty.insert "day" "mon" ∈ instances (NameMap.empty.insert "day" ["mon", "tue"]) ∧
      ((env (NameMap.empty.insert "day" "mon")).map fun e => (splitAssignment e).1).Nodup :=
  have valid : validate (NameMap.empty.insert "day" ["mon", "tue"]) = .ok () := rfl
  have member : NameMap.empty.insert "day" "mon" ∈
      instances (NameMap.empty.insert "day" ["mon", "tue"]) := List.mem_cons_self
  ⟨valid, member, (instance_env_assignments _ valid _ member).2.mpr (by decide)⟩

/-- Both names are valid, and both are carried by PGQ_INSTANCE_X. -/
theorem env_variables_collide :
    validate ((NameMap.empty.insert "x" ["2"]).insert "X" ["1"]) = .ok () ∧
      ∃ b ∈ instances ((NameMap.empty.insert "x" ["2"]).insert "X" ["1"]),
        ¬ (b.env.map fun e => (splitAssignment e).1).Nodup :=
  ⟨rfl, _, List.mem_cons_self, by decide +kernel⟩

end Matrix

end JobMatrix

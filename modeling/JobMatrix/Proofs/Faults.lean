import Mathlib.Data.String.Basic
import JobMatrix.Proofs.Numbering
import JobMatrix.Proofs.Plan

/-!
Which fault filling and planning report. Filling checks the names of the instance first and
reports the least invalid one; with valid names it reports the first placeholder, in query
order, that no name binds, as a collision with the longest bound name that is a prefix of it
when there is one. Planning reports the first step, in job order, that has no single body or
whose query the first instance cannot fill; every other instance would give the same fault.
-/

namespace JobMatrix.Query

section longest

variable (name : String)

/-- A bound name that a placeholder could be mistaken for: a non-empty prefix of it. -/
def IsPrefixName (k : String) : Prop :=
  k ≠ "" ∧ k.toList <+: name.toList

theorem pick_cond_iff (k : String) :
    (!k.isEmpty && k.toList.isPrefixOf name.toList) = true ↔ IsPrefixName name k := by
  simp [IsPrefixName, List.isPrefixOf_iff_prefix]

/-- What the running choice knows after some names: it is empty exactly when none of them is a
prefix of the placeholder, and otherwise it is one of them that is, as long as any that is. -/
structure Longest (seen : List String) (best : Option String) : Prop where
  none_iff : best = none ↔ ∀ k ∈ seen, ¬ IsPrefixName name k
  chosen : ∀ r, best = some r →
    r ∈ seen ∧ IsPrefixName name r ∧ ∀ k ∈ seen, IsPrefixName name k → k.length ≤ r.length

theorem Longest.snoc_some {seen : List String} {k r : String} (member : r ∈ seen ++ [k])
    (prefixR : IsPrefixName name r)
    (longestSeen : ∀ k' ∈ seen, IsPrefixName name k' → k'.length ≤ r.length)
    (longestNew : IsPrefixName name k → k.length ≤ r.length) :
    Longest name (seen ++ [k]) (some r) := by
  refine ⟨iff_of_false (by simp) (fun none => none r member prefixR), ?_⟩
  rintro r' ⟨⟩
  refine ⟨member, prefixR, fun k' inAll prefix' => ?_⟩
  rcases List.mem_append.mp inAll with inSeen | same
  · exact longestSeen k' inSeen prefix'
  · rw [List.mem_singleton.mp same] at prefix' ⊢
    exact longestNew prefix'

theorem Longest.pick {seen : List String} {best : Option String} (inv : Longest name seen best)
    (k : String) : Longest name (seen ++ [k]) (longestPrefix.pick name best k) := by
  unfold longestPrefix.pick
  by_cases candidate : IsPrefixName name k
  · rw [if_pos ((pick_cond_iff name k).mpr candidate)]
    cases best with
    | none =>
      have earlier := inv.none_iff.mp rfl
      exact Longest.snoc_some name (by simp) candidate
        (fun k' inSeen prefix' => absurd prefix' (earlier k' inSeen)) (fun _ => le_rfl)
    | some b =>
      obtain ⟨inSeen, prefixB, longest⟩ := inv.chosen b rfl
      dsimp only
      by_cases shorter : b.length ≤ k.length
      · rw [if_pos shorter]
        exact Longest.snoc_some name (by simp) candidate
          (fun k' inSeen' prefix' => (longest k' inSeen' prefix').trans shorter) (fun _ => le_rfl)
      · rw [if_neg shorter]
        exact Longest.snoc_some name (by simp [inSeen]) prefixB longest (fun _ => by omega)
  · rw [if_neg (fun cond => candidate ((pick_cond_iff name k).mp cond))]
    cases best with
    | none =>
      refine ⟨iff_of_true rfl ?_, by simp⟩
      rw [List.forall_mem_append, List.forall_mem_singleton]
      exact ⟨inv.none_iff.mp rfl, candidate⟩
    | some r =>
      obtain ⟨inSeen, prefixR, longest⟩ := inv.chosen r rfl
      exact Longest.snoc_some name (by simp [inSeen]) prefixR longest
        (fun prefixK => absurd prefixK candidate)

theorem longest_foldl (names seen : List String) (best : Option String)
    (inv : Longest name seen best) :
    Longest name (seen ++ names) (names.foldl (longestPrefix.pick name) best) := by
  induction names generalizing seen best with
  | nil => simpa using inv
  | cons k rest ih =>
    rw [List.foldl_cons, ← List.singleton_append, ← List.append_assoc]
    exact ih _ _ (inv.pick name k)

theorem longest_longestPrefix (names : List String) :
    Longest name names (longestPrefix names name) := by
  have start : Longest name [] none := ⟨by simp, by simp⟩
  unfold longestPrefix
  simpa using longest_foldl name names [] none start

end longest

section faults

variable {b : Binding} {query : String}

theorem le_of_find?_eq_some {l : List String} (sorted : l.Pairwise (· < ·)) {p : String → Bool}
    {k : String} (found : l.find? p = some k) : ∀ k' ∈ l, p k' = true → k ≤ k' := by
  obtain ⟨-, before, after, rfl, skipped⟩ := List.find?_eq_some_iff_append.mp found
  intro k' member holds
  rcases List.mem_append.mp member with early | late
  · have := skipped k' early
    simp [holds] at this
  · rcases List.mem_cons.mp late with rfl | later
    · exact le_rfl
    · exact le_of_lt ((List.pairwise_cons.mp (List.pairwise_append.mp sorted).2.1).1 k' later)

theorem fill_eq_badName {k : String}
    (found : b.names.find? (fun k => !ArgName.isValid k) = some k) :
    fill b query = .error (.badName k) := by
  unfold fill
  rw [found]

theorem ne_empty_of_isValid {k : String} (valid : ArgName.isValid k = true) : k ≠ "" := by
  rintro rfl
  cases valid

/-- The fault of an unbound placeholder, read off the bound names that are prefixes of it. -/
theorem unboundFault_spec (valid : ∀ k ∈ b.names, ArgName.isValid k = true) (name : String) :
    (∃ k ∈ b.names, k.toList <+: name.toList ∧
      (∀ k' ∈ b.names, k'.toList <+: name.toList → k'.length ≤ k.length) ∧
      unboundFault b name = .collision name k) ∨
    ((∀ k ∈ b.names, ¬ k.toList <+: name.toList) ∧ unboundFault b name = .unbound name) := by
  have inv := longest_longestPrefix name b.names
  have prefixName : ∀ k ∈ b.names, k.toList <+: name.toList → IsPrefixName name k :=
    fun k member prefix' => ⟨ne_empty_of_isValid (valid k member), prefix'⟩
  unfold unboundFault
  cases chose : longestPrefix b.names name with
  | none =>
    right
    exact ⟨fun k member prefix' => inv.none_iff.mp chose k member (prefixName k member prefix'),
      rfl⟩
  | some k =>
    left
    obtain ⟨member, prefixK, longest⟩ := inv.chosen k chose
    exact ⟨k, member, prefixK.2,
      fun k' member' prefix' => longest k' member' (prefixName k' member' prefix'), rfl⟩

theorem fill_eq_unboundFault (valid : ∀ k ∈ b.names, ArgName.isValid k = true)
    {pre post : List String} {name : String} (split : holes (scan query) = pre ++ name :: post)
    (earlier : ∀ p ∈ pre, p ∈ b.names) (missing : name ∉ b.names) :
    fill b query = .error (unboundFault b name) := by
  refine (fill_eq_error_iff b query valid _).mpr ⟨name, ?_, rfl⟩
  rw [List.find?_eq_some_iff_append]
  refine ⟨(NameMap.not_contains_iff b name).mpr missing, pre, post, split, ?_⟩
  intro p member
  rw [Bool.not_not, NameMap.contains_iff]
  exact earlier p member

theorem exists_first_unbound (found : ∃ name ∈ holes (scan query), name ∉ b.names) :
    ∃ pre name post, holes (scan query) = pre ++ name :: post ∧ (∀ p ∈ pre, p ∈ b.names) ∧
      name ∉ b.names := by
  cases first : (holes (scan query)).find? (fun n => !b.contains n) with
  | none =>
    obtain ⟨name, member, missing⟩ := found
    exact (List.find?_eq_none.mp first name member ((NameMap.not_contains_iff b name).mpr missing)).elim
  | some name =>
    obtain ⟨missing, pre, post, split, earlier⟩ := List.find?_eq_some_iff_append.mp first
    refine ⟨pre, name, post, split, fun p member => ?_, (NameMap.not_contains_iff b name).mp missing⟩
    have bound := earlier p member
    rwa [Bool.not_not, NameMap.contains_iff] at bound

end faults

/-- The faults of filling. An invalid name of the instance is reported first, the least one,
whatever the query. With valid names, the first placeholder in query order that no name binds
is reported: as a collision with the longest bound name that is a prefix of it, or as unbound
when no bound name is. Otherwise filling succeeds. Whether it fails, and with which fault,
depends only on the query and the names bound. -/
theorem fill_fault_order (b : Binding) (query : String) :
    ((∃ k ∈ b.names, ArgName.isValid k = false) →
      ∃ k ∈ b.names, ArgName.isValid k = false ∧
        (∀ k' ∈ b.names, ArgName.isValid k' = false → k ≤ k') ∧
        fill b query = .error (.badName k)) ∧
    ((∀ k ∈ b.names, ArgName.isValid k = true) →
      (∃ name ∈ holes (scan query), name ∉ b.names) →
      ∃ pre name post, holes (scan query) = pre ++ name :: post ∧ (∀ p ∈ pre, p ∈ b.names) ∧
        name ∉ b.names ∧
        ((∃ k ∈ b.names, k.toList <+: name.toList ∧
            (∀ k' ∈ b.names, k'.toList <+: name.toList → k'.length ≤ k.length) ∧
            fill b query = .error (.collision name k)) ∨
          ((∀ k ∈ b.names, ¬ k.toList <+: name.toList) ∧
            fill b query = .error (.unbound name)))) ∧
    ((∀ k ∈ b.names, ArgName.isValid k = true) → (∀ name ∈ holes (scan query), name ∈ b.names) →
      ∃ filled, fill b query = .ok filled) ∧
    ∀ b' : Binding, (∀ k, k ∈ b'.names ↔ k ∈ b.names) →
      ∀ fault, fill b' query = .error fault ↔ fill b query = .error fault := by
  refine ⟨?_, ?_, fun valid bound => (fill_ok_iff b query valid).mpr bound, ?_⟩
  · rintro ⟨bad, member, invalid⟩
    cases found : b.names.find? (fun k => !ArgName.isValid k) with
    | none =>
      have := List.find?_eq_none.mp found bad member
      simp [invalid] at this
    | some k =>
      have least := le_of_find?_eq_some (NameMap.sorted_toList b) found
      refine ⟨k, List.mem_of_find?_eq_some found, by simpa using List.find?_some found,
        fun k' member' invalid' => least k' member' (by simp [invalid']), fill_eq_badName found⟩
  · intro valid unbound
    obtain ⟨pre, name, post, split, earlier, missing⟩ := exists_first_unbound unbound
    have fills := fill_eq_unboundFault valid split earlier missing
    refine ⟨pre, name, post, split, earlier, missing, ?_⟩
    rcases unboundFault_spec valid name with ⟨k, member, prefix', longest, fault⟩ | ⟨none, fault⟩
    · exact Or.inl ⟨k, member, prefix', longest, fault ▸ fills⟩
    · exact Or.inr ⟨none, fault ▸ fills⟩
  · intro b' sameKeys fault
    have same := NameMap.names_eq_of_mem_iff sameKeys
    exact ⟨fill_eq_error_of_names same, fill_eq_error_of_names same.symm⟩

example : fill ((NameMap.empty.insert "x" "1").insert "xy" "2") "select :xyz, :w" =
    .error (.collision "xyz" "xy") := by
  cbv

end JobMatrix.Query

namespace JobMatrix

/-- A step that planning rejects: it has no single body, or it is a query that the first
instance cannot fill. -/
def Step.Rejected (s : Step) (instances : List Binding) : Prop :=
  s.body? = none ∨ ∃ q b rest fault, s.body? = some (.query q) ∧ instances = b :: rest ∧
    Query.fill b q = .error fault

theorem exists_error_iff_not_exists_ok {ε α : Type} (x : Except ε α) :
    (∃ e, x = .error e) ↔ ¬ ∃ a, x = .ok a := by
  cases x <;> simp

namespace Step

variable {s : Step} {instances : List Binding}

/-- How planning one step fails, when all instances bind the same names: a step without a single
body fails whatever the instances, a shell step never fails, and a query step fails with the
fault of its first instance. -/
theorem plan_eq_error_iff (sameNames : ∀ b ∈ instances, ∀ b' ∈ instances, b.names = b'.names)
    (e : JobFault) :
    s.plan instances = .error e ↔ (s.body? = none ∧ e = .invalidStep s.name .bodyCount) ∨
      ∃ q b rest fault, s.body? = some (.query q) ∧ instances = b :: rest ∧
        Query.fill b q = .error fault ∧ e = .stepQuery s.name fault := by
  cases found : s.body? with
  | none => simp [Step.plan, found, eq_comm]
  | some body =>
    cases body with
    | shell c =>
      have planned : ∃ runs, s.plan instances = .ok runs :=
        (plan_ok_iff found).mpr (fun b _ => ⟨_, rfl⟩)
      obtain ⟨runs, planned⟩ := planned
      simp [planned]
    | query q =>
      cases instances with
      | nil => simp [Step.plan, found, pure, Except.pure]
      | cons b rest =>
        cases fills : Query.fill b q with
        | error fault =>
          rw [plan_cons_of_error found
            ((StepBody.action_query_eq_error_iff _ _ _ _).mpr ⟨fault, fills, rfl⟩)]
          simp [fills, eq_comm]
        | ok filled =>
          have each : ∀ b' ∈ b :: rest, ∃ a, (StepBody.query q).action s.name b' = .ok a := by
            intro b' member
            cases fills' : Query.fill b' q with
            | error fault =>
              have failed := Query.fill_eq_error_of_names
                (sameNames b' member b List.mem_cons_self) fills'
              rw [fills] at failed
              cases failed
            | ok filled' =>
              exact ⟨_, (StepBody.action_query_eq_ok_iff _ _ _ _).mpr ⟨filled', fills', rfl⟩⟩
          obtain ⟨runs, planned⟩ := (plan_ok_iff found).mpr each
          simp [planned, fills]

theorem rejected_iff (sameNames : ∀ b ∈ instances, ∀ b' ∈ instances, b.names = b'.names) :
    s.Rejected instances ↔ ∃ e, s.plan instances = .error e := by
  simp only [plan_eq_error_iff sameNames, Rejected]
  constructor
  · rintro (none | ⟨q, b, rest, fault, found, listed, fills⟩)
    · exact ⟨_, Or.inl ⟨none, rfl⟩⟩
    · exact ⟨_, Or.inr ⟨q, b, rest, fault, found, listed, fills, rfl⟩⟩
  · rintro ⟨e, ⟨none, -⟩ | ⟨q, b, rest, fault, found, listed, fills, -⟩⟩
    · exact Or.inl none
    · exact Or.inr ⟨q, b, rest, fault, found, listed, fills⟩

theorem not_rejected_iff (sameNames : ∀ b ∈ instances, ∀ b' ∈ instances, b.names = b'.names) :
    ¬ s.Rejected instances ↔ ∃ runs, s.plan instances = .ok runs := by
  rw [rejected_iff sameNames, exists_error_iff_not_exists_ok, not_not]

end Step

namespace Job

theorem instances_same_names (j : Job) :
    ∀ b ∈ j.matrix.instances, ∀ b' ∈ j.matrix.instances, b.names = b'.names :=
  fun b member b' member' => (Matrix.names_of_mem_instances _ b member).trans
    (Matrix.names_of_mem_instances _ b' member').symm

/-- Planning a job, checked or not, fails exactly when some step has no single body or is a
query that the first instance cannot fill. It fails at the first such step: with the missing
body, even when the matrix has no instances, or with the fault of filling the query from the
first instance, which every instance gives. -/
theorem plan_eq_error_iff_first_rejected (j : Job) :
    ((∃ e, j.plan = .error e) ↔ ∃ s ∈ j.steps, s.Rejected j.matrix.instances) ∧
    ∀ e, j.plan = .error e ↔ ∃ pre s post, j.steps = pre ++ s :: post ∧
      (∀ t ∈ pre, ¬ t.Rejected j.matrix.instances) ∧
      ((s.body? = none ∧ e = .invalidStep s.name .bodyCount) ∨
        ∃ q b rest fault, s.body? = some (.query q) ∧ j.matrix.instances = b :: rest ∧
          Query.fill b q = .error fault ∧ e = .stepQuery s.name fault ∧
          ∀ b' ∈ j.matrix.instances, Query.fill b' q = .error fault) := by
  have sameNames := instances_same_names j
  refine ⟨?_, fun e => ?_⟩
  · rw [exists_error_iff_not_exists_ok, plan_ok_iff_steps]
    simp only [not_forall, ← Step.not_rejected_iff sameNames, not_not, exists_prop]
  · rw [plan_eq_error_iff, mapM_eq_error_iff]
    constructor
    · rintro ⟨pre, s, post, split, earlier, failed⟩
      refine ⟨pre, s, post, split, fun t member => (Step.not_rejected_iff sameNames).mpr
        (earlier t member), ?_⟩
      rcases (Step.plan_eq_error_iff sameNames e).mp failed with
        missing | ⟨q, b, rest, fault, found, listed, fills, rfl⟩
      · exact Or.inl missing
      · refine Or.inr ⟨q, b, rest, fault, found, listed, fills, rfl, fun b' member => ?_⟩
        have first : b ∈ j.matrix.instances := by
          rw [listed]
          exact List.mem_cons_self
        exact Query.fill_eq_error_of_names (sameNames b first b' member) fills
    · rintro ⟨pre, s, post, split, earlier, fault⟩
      refine ⟨pre, s, post, split, fun t member => (Step.not_rejected_iff sameNames).mp
        (earlier t member), (Step.plan_eq_error_iff sameNames e).mpr ?_⟩
      rcases fault with missing | ⟨q, b, rest, fault, found, listed, fills, reported, -⟩
      · exact Or.inl missing
      · exact Or.inr ⟨q, b, rest, fault, found, listed, fills, reported⟩

example : (Job.mk "idle" (NameMap.empty.insert "day" []) [{ name := "broken" }]).plan =
    .error (.invalidStep "broken" .bodyCount) := by
  rfl

end Job

end JobMatrix

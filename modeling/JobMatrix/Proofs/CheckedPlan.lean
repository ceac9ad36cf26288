import JobMatrix.Proofs.Check
import JobMatrix.Proofs.Plan

/-!
The planner on checked jobs. A passed check leaves the planner one way to fail: a query
placeholder that no argument binds, found at the first such step and placeholder, and the
same fault for every instance. A matrix with an empty list plans no run and never fails.
With steps named apart, the runs of a step's name are exactly that step's block.
-/

namespace JobMatrix.Job

variable {j : Job} (sound : j.Sound)
include sound

theorem valid_of_mem_instances {b : Binding} (member : b ∈ j.matrix.instances) :
    ∀ k ∈ b.names, ArgName.isValid k = true := by
  rw [Matrix.names_of_mem_instances _ b member]
  exact sound.validNames

theorem plan_step_ok_iff {s : Step} (member : s ∈ j.steps) :
    (∃ runs, s.plan j.matrix.instances = .ok runs) ↔ j.matrix.instances = [] ∨
      ∀ q, s.body? = some (.query q) → ∀ name ∈ Query.holes (Query.scan q),
        name ∈ j.matrix.names := by
  obtain ⟨body, found⟩ := sound.hasBody s member
  rw [Step.plan_ok_iff found, found]
  cases body with
  | shell c =>
    refine iff_of_true (fun b _ => ⟨_, rfl⟩) (Or.inr ?_)
    intro q same
    cases same
  | query q =>
    constructor
    · intro each
      cases listed : j.matrix.instances with
      | nil => exact Or.inl rfl
      | cons b rest =>
        right
        intro q' same
        cases same
        have first : b ∈ j.matrix.instances := by simp [listed]
        obtain ⟨a, acted⟩ := each b first
        obtain ⟨filled, fills, -⟩ := (StepBody.action_query_eq_ok_iff _ _ _ _).mp acted
        have bound := (Query.fill_ok_iff b q (valid_of_mem_instances sound first)).mp ⟨filled, fills⟩
        rwa [Matrix.names_of_mem_instances _ b first] at bound
    · rintro (empty | bound) b member
      · rw [empty] at member
        cases member
      · have inMatrix := bound q rfl
        rw [← Matrix.names_of_mem_instances _ b member] at inMatrix
        obtain ⟨filled, fills⟩ :=
          (Query.fill_ok_iff b q (valid_of_mem_instances sound member)).mpr inMatrix
        exact ⟨_, (StepBody.action_query_eq_ok_iff _ _ _ _).mpr ⟨filled, fills, rfl⟩⟩

theorem plan_ok_iff_of_sound :
    (∃ p, j.plan = .ok p) ↔ [] ∈ j.matrix.values ∨
      ∀ s ∈ j.steps, ∀ q, s.body? = some (.query q) → ∀ name ∈ Query.holes (Query.scan q),
        name ∈ j.matrix.names := by
  rw [plan_ok_iff_steps, ← Matrix.instances_eq_nil_iff]
  constructor
  · intro each
    by_cases empty : j.matrix.instances = []
    · exact Or.inl empty
    · right
      intro s member
      exact ((plan_step_ok_iff sound member).mp (each s member)).resolve_left empty
  · rintro (empty | bound) s member
    · exact (plan_step_ok_iff sound member).mpr (Or.inl empty)
    · exact (plan_step_ok_iff sound member).mpr (Or.inr (bound s member))

theorem plan_step_error_of_sound {s : Step} (member : s ∈ j.steps) {e : JobFault}
    (failed : s.plan j.matrix.instances = .error e) :
    j.matrix.instances ≠ [] ∧ ∃ q, s.body? = some (.query q) ∧
      ∃ name ∈ Query.holes (Query.scan q), name ∉ j.matrix.names := by
  have stuck : ¬ ∃ runs, s.plan j.matrix.instances = .ok runs := by
    rintro ⟨runs, planned⟩
    rw [planned] at failed
    cases failed
  rw [plan_step_ok_iff sound member, not_or] at stuck
  obtain ⟨nonempty, unbound⟩ := stuck
  push Not at unbound
  exact ⟨nonempty, unbound⟩

/-- A checked job that cannot be planned fails at its first step with a placeholder that names
no argument, with the fault of that step's first such placeholder, which every instance gives. -/
theorem plan_error_of_sound {e : JobFault} (failed : j.plan = .error e) :
    ∃ pre s post q name fault, j.steps = pre ++ s :: post ∧
      (∀ t ∈ pre, ∀ q', t.body? = some (.query q') → ∀ n ∈ Query.holes (Query.scan q'),
        n ∈ j.matrix.names) ∧
      s.body? = some (.query q) ∧
      (Query.holes (Query.scan q)).find? (fun n => !j.matrix.names.contains n) = some name ∧
      e = .stepQuery s.name fault ∧
      (fault = .unbound name ∨ ∃ bound, fault = .collision name bound) ∧
      ∀ b ∈ j.matrix.instances, Query.fill b q = .error fault := by
  obtain ⟨pre, s, post, split, earlier, stepFailed⟩ :=
    (mapM_eq_error_iff _ _ _).mp ((plan_eq_error_iff e).mp failed)
  have member : s ∈ j.steps := by
    rw [split]
    simp
  obtain ⟨nonempty, q, found, missing, hole, unbound⟩ :=
    plan_step_error_of_sound sound member stepFailed
  obtain ⟨b, rest, listed⟩ := List.exists_cons_of_ne_nil nonempty
  have first : b ∈ j.matrix.instances := by
    rw [listed]
    exact List.mem_cons_self
  have passed : ∀ t ∈ pre, ∀ q', t.body? = some (.query q') →
      ∀ n ∈ Query.holes (Query.scan q'), n ∈ j.matrix.names := by
    intro t inPre
    have stepMember : t ∈ j.steps := by
      rw [split]
      simp [inPre]
    exact ((plan_step_ok_iff sound stepMember).mp (earlier t inPre)).resolve_left nonempty
  have valid := valid_of_mem_instances sound first
  cases fills : Query.fill b q with
  | ok filled =>
    have bound := (Query.fill_ok_iff b q valid).mp ⟨filled, fills⟩
    rw [Matrix.names_of_mem_instances _ b first] at bound
    exact (unbound (bound missing hole)).elim
  | error fault =>
    have atFirst : s.plan j.matrix.instances = .error (.stepQuery s.name fault) := by
      rw [listed]
      exact Step.plan_cons_of_error found
        ((StepBody.action_query_eq_error_iff _ _ _ _).mpr ⟨fault, fills, rfl⟩)
    rw [atFirst] at stepFailed
    obtain ⟨name, firstUnbound, isFault⟩ := (Query.fill_eq_error_iff b q valid fault).mp fills
    have sameTest : (fun n => !b.contains n) = (fun n => !j.matrix.names.contains n) := by
      funext n
      rw [NameMap.contains_eq_names_contains, Matrix.names_of_mem_instances _ b first]
    refine ⟨pre, s, post, q, name, fault, split, passed, found, sameTest ▸ firstUnbound,
      (Except.error.inj stepFailed).symm, isFault ▸ Query.unboundFault_cases b name, ?_⟩
    intro b' other
    have sameNames : b.names = b'.names :=
      (Matrix.names_of_mem_instances _ b first).trans
        (Matrix.names_of_mem_instances _ b' other).symm
    exact Query.fill_eq_error_of_names sameNames fills

omit sound

/-- The check and the planner agree. On a job that passes its check, planning never reports a
malformed step or an invalid argument name. It succeeds exactly when a value list is empty or
every placeholder of every query step names an argument; otherwise it fails at the first query
step with a placeholder that names no argument, with the unbound or colliding fault of the
first such placeholder, which every instance gives. On success the runs of a step's name are
that step's block, in instance order. -/
theorem checked_plan_agreement (j : Job) (passed : j.check = .ok ()) :
    (∀ e, j.plan = .error e → (∀ step flaw, e ≠ .invalidStep step flaw) ∧
      ∀ step name, e ≠ .stepQuery step (.badName name)) ∧
    ((∃ p, j.plan = .ok p) ↔ [] ∈ j.matrix.values ∨
      ∀ s ∈ j.steps, ∀ q, s.body? = some (.query q) → ∀ name ∈ Query.holes (Query.scan q),
        name ∈ j.matrix.names) ∧
    (∀ e, j.plan = .error e → ∃ pre s post q name fault, j.steps = pre ++ s :: post ∧
      (∀ t ∈ pre, ∀ q', t.body? = some (.query q') → ∀ n ∈ Query.holes (Query.scan q'),
        n ∈ j.matrix.names) ∧
      s.body? = some (.query q) ∧
      (Query.holes (Query.scan q)).find? (fun n => !j.matrix.names.contains n) = some name ∧
      e = .stepQuery s.name fault ∧
      (fault = .unbound name ∨ ∃ bound, fault = .collision name bound) ∧
      ∀ b ∈ j.matrix.instances, Query.fill b q = .error fault) ∧
    ∀ p, j.plan = .ok p → ∀ s (hs : s < j.steps.length),
      p.runsFor j.steps[s].name = (p.runs.drop (s * p.instanceCount)).take p.instanceCount := by
  have sound := sound_of_check passed
  refine ⟨?_, plan_ok_iff_of_sound sound, fun e failed => plan_error_of_sound sound failed,
    fun p planned s hs => runsFor_of_nodup planned sound.distinctNames s hs⟩
  intro e failed
  obtain ⟨_, s, _, _, name, fault, _, _, _, _, reported, kind, _⟩ :=
    plan_error_of_sound sound failed
  subst reported
  refine ⟨fun step flaw same => (by cases same), fun step bad same => ?_⟩
  cases same
  rcases kind with unbound | ⟨bound, collision⟩
  · cases unbound
  · cases collision

theorem checked_plan_agreement_nightly :
    nightly.check = .ok () ∧ ∀ e, nightly.plan = .error e → ∀ step flaw, e ≠ .invalidStep step flaw :=
  ⟨rfl, fun e failed => ((checked_plan_agreement nightly rfl).1 e failed).1⟩

end JobMatrix.Job

import JobMatrix.Proofs.Traverse
import JobMatrix.Job.Plan
import JobMatrix.Proofs.Instances
import JobMatrix.Proofs.Fill

/-!
The layout of a plan. Planning traverses the steps, and within a step the instances, stopping
at the first fault; a plan that succeeds holds one block of runs per step, in step order, each
block one run per instance in instance order. A shell run carries the instance's assignments, a
query run the query filled from the instance, and the filled text of one step is the same for
every instance because all instances bind the same names.
-/

namespace JobMatrix

theorem StepBody.action_query_eq_ok_iff (step : String) (b : Binding) (q : String) (a : Action) :
    (StepBody.query q).action step b = .ok a ↔
      ∃ filled, Query.fill b q = .ok filled ∧ a = .query filled.text filled.args := by
  unfold StepBody.action
  cases filled : Query.fill b q <;> simp [filled, eq_comm]

theorem StepBody.action_query_eq_error_iff (step : String) (b : Binding) (q : String)
    (e : JobFault) : (StepBody.query q).action step b = .error e ↔
      ∃ fault, Query.fill b q = .error fault ∧ e = .stepQuery step fault := by
  unfold StepBody.action
  cases filled : Query.fill b q <;> simp [filled, eq_comm]

/-- Filling reads only the names of an instance, so two instances with the same names give a step
the same query text. -/
theorem StepBody.query_text_eq_of_names {body : StepBody} {step : String} {b b' : Binding}
    (same : b.names = b'.names) {text text' : String} {args args' : List String}
    (acted : body.action step b = .ok (.query text args))
    (acted' : body.action step b' = .ok (.query text' args')) : text = text' := by
  cases body with
  | shell c => cases Except.ok.inj acted
  | query q =>
    obtain ⟨filled, fills, rendered⟩ := (action_query_eq_ok_iff _ _ _ _).mp acted
    obtain ⟨filled', fills', rendered'⟩ := (action_query_eq_ok_iff _ _ _ _).mp acted'
    have texts := Query.map_text_fill_of_names same q
    rw [fills, fills'] at texts
    cases rendered
    cases rendered'
    exact Except.ok.inj texts

namespace Step

variable {s : Step} {instances : List Binding}

theorem plan_eq_ok_iff {body : StepBody} (found : s.body? = some body) (runs : List Run) :
    s.plan instances = .ok runs ↔ List.Forall₂ (fun (p : Binding × Nat) r =>
      ∃ a, body.action s.name p.1 = .ok a ∧ r = ⟨s.name, p.2, p.1, a⟩) instances.zipIdx runs := by
  simp only [Step.plan, found]
  rw [mapM_eq_ok_iff]
  simp only [bind_pure_eq_ok_iff]

theorem plan_ok_iff {body : StepBody} (found : s.body? = some body) :
    (∃ runs, s.plan instances = .ok runs) ↔ ∀ b ∈ instances, ∃ a, body.action s.name b = .ok a := by
  simp only [Step.plan, found]
  rw [mapM_ok_iff_forall]
  conv => rhs; rw [← List.zipIdx_map_fst 0 instances]
  simp only [List.forall_mem_map, bind_pure_eq_ok_iff]
  constructor
  · intro each p member
    obtain ⟨_, a, found, -⟩ := each p member
    exact ⟨a, found⟩
  · intro each p member
    obtain ⟨a, found⟩ := each p member
    exact ⟨_, a, found, rfl⟩

theorem plan_cons_of_error {body : StepBody} (found : s.body? = some body) {b : Binding}
    {rest : List Binding} {e : JobFault} (failed : body.action s.name b = .error e) :
    s.plan (b :: rest) = .error e := by
  simp only [Step.plan, found, List.zipIdx_cons]
  rw [mapM_cons_eq_error_iff]
  left
  simp [failed, bind, Except.bind]

theorem runs_of_plan_eq_ok {runs : List Run} (planned : s.plan instances = .ok runs) :
    ∃ body, s.body? = some body ∧ runs.length = instances.length ∧
      ∀ i (hi : i < instances.length), ∃ a, body.action s.name instances[i] = .ok a ∧
        runs[i]? = some ⟨s.name, i, instances[i], a⟩ := by
  cases found : s.body? with
  | none => simp [Step.plan, found] at planned
  | some body =>
    have pointwise := List.forall₂_iff_get.mp ((plan_eq_ok_iff found runs).mp planned)
    obtain ⟨size, each⟩ := pointwise
    rw [List.length_zipIdx] at size
    refine ⟨body, rfl, size.symm, ?_⟩
    intro i hi
    obtain ⟨a, acted, run⟩ := each i (by simpa using hi) (size ▸ hi)
    simp only [List.get_eq_getElem, List.getElem_zipIdx, Nat.zero_add] at acted run
    exact ⟨a, acted, by rw [List.getElem?_eq_getElem (size ▸ hi), run]⟩

theorem step_of_mem_plan {runs : List Run} (planned : s.plan instances = .ok runs) :
    ∀ r ∈ runs, r.step = s.name := by
  obtain ⟨_, _, size, each⟩ := runs_of_plan_eq_ok planned
  intro r member
  obtain ⟨i, hi, rfl⟩ := List.getElem_of_mem member
  obtain ⟨a, _, run⟩ := each i (size ▸ hi)
  rw [List.getElem?_eq_getElem hi, Option.some.injEq] at run
  rw [run]

theorem filter_plan {runs : List Run} (planned : s.plan instances = .ok runs) (n : String) :
    runs.filter (·.step == n) = if s.name = n then runs else [] := by
  have steps := step_of_mem_plan planned
  split
  · rename_i same
    exact List.filter_eq_self.mpr fun r member => by simp [steps r member, same]
  · rename_i other
    exact List.filter_eq_nil_iff.mpr fun r member => by simp [steps r member, other]

end Step

section blocks

variable {instances : List Binding} {steps : List Step} {blocks : List (List Run)}

theorem length_filter_flatten_blocks
    (planned : List.Forall₂ (fun s rs => s.plan instances = .ok rs) steps blocks) (n : String) :
    (blocks.flatten.filter (·.step == n)).length = instances.length * steps.countP (·.name == n) := by
  induction planned with
  | nil => simp
  | @cons s rs steps blocks head _ ih =>
    obtain ⟨_, _, size, _⟩ := Step.runs_of_plan_eq_ok head
    rw [List.flatten_cons, List.filter_append, List.length_append, Step.filter_plan head n, ih,
      List.countP_cons]
    by_cases same : s.name = n
    · simp [same, size, Nat.mul_add, Nat.add_comm]
    · simp [same]

theorem filter_flatten_blocks_of_nodup
    (planned : List.Forall₂ (fun s rs => s.plan instances = .ok rs) steps blocks)
    (distinct : (steps.map (·.name)).Nodup) (k : Nat) (hk : k < steps.length)
    (hb : k < blocks.length) : blocks.flatten.filter (·.step == steps[k].name) = blocks[k] := by
  induction planned generalizing k with
  | nil => simp at hk
  | @cons s rs steps blocks head rest ih =>
    simp only [List.map_cons, List.nodup_cons] at distinct
    obtain ⟨fresh, distinct⟩ := distinct
    rw [List.flatten_cons, List.filter_append, Step.filter_plan head]
    cases k with
    | zero =>
      have none : (steps.countP (·.name == s.name)) = 0 := by
        rw [List.countP_eq_zero]
        intro t member same
        exact fresh (List.mem_map.mpr ⟨t, member, by simpa using same⟩)
      have empty := length_filter_flatten_blocks rest s.name
      rw [none, Nat.mul_zero, List.length_eq_zero_iff] at empty
      simp [empty]
    | succ k =>
      have inner : k < steps.length := by simpa using hk
      have other : s.name ≠ steps[k].name := fun same =>
        fresh (same ▸ List.mem_map.mpr ⟨steps[k], List.getElem_mem inner, rfl⟩)
      simp only [List.getElem_cons_succ, if_neg other, List.nil_append]
      exact ih distinct k inner (by simpa using hb)

end blocks

namespace Job

variable {j : Job}

theorem plan_eq_ok_iff (p : Plan) :
    j.plan = .ok p ↔ ∃ blocks, j.steps.mapM (·.plan j.matrix.instances) = .ok blocks ∧
      p = ⟨j.name, j.matrix.instances.length, blocks.flatten⟩ := by
  unfold Job.plan
  cases h : j.steps.mapM (·.plan j.matrix.instances) <;>
    simp [h, bind, Except.bind, pure, Except.pure, eq_comm]

theorem plan_eq_error_iff (e : JobFault) :
    j.plan = .error e ↔ j.steps.mapM (·.plan j.matrix.instances) = .error e := by
  unfold Job.plan
  cases h : j.steps.mapM (·.plan j.matrix.instances) <;>
    simp [h, bind, Except.bind, pure, Except.pure]

theorem blocks_of_plan_eq_ok {p : Plan} (planned : j.plan = .ok p) :
    ∃ blocks, List.Forall₂ (fun s rs => s.plan j.matrix.instances = .ok rs) j.steps blocks ∧
      (∀ rs ∈ blocks, rs.length = j.matrix.instances.length) ∧
      p = ⟨j.name, j.matrix.instances.length, blocks.flatten⟩ := by
  obtain ⟨blocks, traversed, rfl⟩ := (plan_eq_ok_iff p).mp planned
  have pointwise := (mapM_eq_ok_iff _ _ _).mp traversed
  refine ⟨blocks, pointwise, ?_, rfl⟩
  intro rs member
  obtain ⟨size, each⟩ := List.forall₂_iff_get.mp pointwise
  obtain ⟨k, hk, rfl⟩ := List.getElem_of_mem member
  have stepPlanned := each k (size ▸ hk) hk
  simp only [List.get_eq_getElem] at stepPlanned
  obtain ⟨_, _, length, _⟩ := Step.runs_of_plan_eq_ok stepPlanned
  exact length

theorem runs_of_plan_eq_ok {p : Plan} (planned : j.plan = .ok p) :
    p.job = j.name ∧ p.instanceCount = j.matrix.instances.length ∧
      p.runs.length = j.steps.length * j.matrix.instances.length ∧
      ∀ s (hs : s < j.steps.length) i (hi : i < j.matrix.instances.length), ∃ body a,
        j.steps[s].body? = some body ∧ body.action j.steps[s].name j.matrix.instances[i] = .ok a ∧
        p.runs[s * j.matrix.instances.length + i]? =
          some ⟨j.steps[s].name, i, j.matrix.instances[i], a⟩ := by
  obtain ⟨blocks, pointwise, sized, rfl⟩ := blocks_of_plan_eq_ok planned
  obtain ⟨size, each⟩ := List.forall₂_iff_get.mp pointwise
  refine ⟨rfl, rfl, ?_, ?_⟩
  · rw [length_flatten_of_sized _ blocks sized, size]
  · intro s hs i hi
    have stepPlanned := each s hs (size ▸ hs)
    simp only [List.get_eq_getElem] at stepPlanned
    obtain ⟨body, found, _, runs⟩ := Step.runs_of_plan_eq_ok stepPlanned
    obtain ⟨a, acted, run⟩ := runs i hi
    refine ⟨body, a, found, acted, ?_⟩
    rw [getElem?_flatten_of_sized _ blocks sized s (size ▸ hs) i hi, run]

theorem plan_ok_iff_steps :
    (∃ p, j.plan = .ok p) ↔ ∀ s ∈ j.steps, ∃ runs, s.plan j.matrix.instances = .ok runs := by
  rw [← mapM_ok_iff_forall]
  constructor
  · rintro ⟨p, planned⟩
    obtain ⟨blocks, traversed, -⟩ := (plan_eq_ok_iff p).mp planned
    exact ⟨blocks, traversed⟩
  · rintro ⟨blocks, traversed⟩
    exact ⟨_, (plan_eq_ok_iff _).mpr ⟨blocks, traversed, rfl⟩⟩

theorem runsFor_of_nodup {p : Plan} (planned : j.plan = .ok p)
    (distinct : (j.steps.map (·.name)).Nodup) (s : Nat) (hs : s < j.steps.length) :
    p.runsFor j.steps[s].name = (p.runs.drop (s * p.instanceCount)).take p.instanceCount := by
  obtain ⟨blocks, pointwise, sized, rfl⟩ := blocks_of_plan_eq_ok planned
  have hb : s < blocks.length := pointwise.length_eq ▸ hs
  exact (filter_flatten_blocks_of_nodup pointwise distinct s hs hb).trans
    (take_drop_flatten_of_sized _ blocks sized s hb).symm

theorem length_runsFor {p : Plan} (planned : j.plan = .ok p) (n : String) :
    (p.runsFor n).length = j.matrix.instances.length * j.steps.countP (·.name == n) := by
  obtain ⟨blocks, pointwise, _, rfl⟩ := blocks_of_plan_eq_ok planned
  exact length_filter_flatten_blocks pointwise n

/-- A plan that succeeds holds every step run with every instance, grouped by step in job order
and by instance within a step: the run of step `s` with instance `i` stands at `s * N + i`, `N`
the number of instances. A shell run carries the instance's assignments and a query run the
query filled from the instance, with the same text for every instance of the step; the runs of
a step name are `N` for each step of that name. -/
theorem plan_runs_layout (j : Job) (p : Plan) (planned : j.plan = .ok p) :
    p.job = j.name ∧ p.instanceCount = j.matrix.instances.length ∧
    p.runs.length = j.steps.length * j.matrix.instances.length ∧
    (∀ s (hs : s < j.steps.length) i (hi : i < j.matrix.instances.length), ∃ a,
      p.runs[s * j.matrix.instances.length + i]? =
        some ⟨j.steps[s].name, i, j.matrix.instances[i], a⟩ ∧
      (∀ c, j.steps[s].body? = some (.shell c) → a = .shell c j.matrix.instances[i].env) ∧
      (∀ q, j.steps[s].body? = some (.query q) → ∃ filled,
        Query.fill j.matrix.instances[i] q = .ok filled ∧ a = .query filled.text filled.args)) ∧
    (∀ s < j.steps.length, ∀ i < j.matrix.instances.length, ∀ i' < j.matrix.instances.length,
      ∀ text text' args args',
      (p.runs[s * j.matrix.instances.length + i]?).map (·.action) = some (.query text args) →
      (p.runs[s * j.matrix.instances.length + i']?).map (·.action) = some (.query text' args') →
      text = text') ∧
    ∀ n, (p.runsFor n).length = j.matrix.instances.length * j.steps.countP (·.name == n) := by
  obtain ⟨named, counted, size, runs⟩ := runs_of_plan_eq_ok planned
  refine ⟨named, counted, size, ?_, ?_, length_runsFor planned⟩
  · intro s hs i hi
    obtain ⟨body, a, found, acted, run⟩ := runs s hs i hi
    refine ⟨a, run, ?_, ?_⟩
    · intro c shell
      rw [found, Option.some.injEq] at shell
      subst shell
      exact (Except.ok.inj acted).symm
    · intro q query
      rw [found, Option.some.injEq] at query
      subst query
      exact (StepBody.action_query_eq_ok_iff _ _ _ _).mp acted
  · intro s hs i hi i' hi' text text' args args' first second
    obtain ⟨body, a, found, acted, run⟩ := runs s hs i hi
    obtain ⟨body', a', found', acted', run'⟩ := runs s hs i' hi'
    rw [found, Option.some.injEq] at found'
    subst found'
    rw [run] at first
    rw [run'] at second
    simp only [Option.map_some, Option.some.injEq] at first second
    subst first second
    have sameNames : j.matrix.instances[i].names = j.matrix.instances[i'].names :=
      (Matrix.names_getElem_instances _ i hi).trans (Matrix.names_getElem_instances _ i' hi').symm
    exact StepBody.query_text_eq_of_names sameNames acted acted'

/-- A job of one shell step over two days. -/
def nightly : Job :=
  { name := "nightly", matrix := NameMap.empty.insert "day" ["mon", "tue"],
    steps := [{ name := "report", command := some "make report" }] }

theorem plan_runs_layout_nightly :
    nightly.plan = .ok ⟨"nightly", 2,
      [⟨"report", 0, NameMap.empty.insert "day" "mon", .shell "make report" ["PGQ_INSTANCE_DAY=mon"]⟩,
        ⟨"report", 1, NameMap.empty.insert "day" "tue", .shell "make report" ["PGQ_INSTANCE_DAY=tue"]⟩]⟩ ∧
    nightly.steps.length * nightly.matrix.instances.length = 2 :=
  ⟨rfl, (plan_runs_layout nightly _ rfl).2.2.1.symm⟩

end Job

end JobMatrix

import JobMatrix.Job.Load

/-!
What a passed check promises. The step loop carries the names of the steps already passed;
it passes exactly when every step passes its own checks and no name comes twice. A job that
passes has valid argument names, a body in every step and steps named apart, and every job
read from YAML text has passed.
-/

namespace JobMatrix

theorem Matrix.validate_ok_iff (m : Matrix) :
    m.validate = .ok () ↔ ∀ n ∈ m.names, ArgName.isValid n = true := by
  unfold Matrix.validate Matrix.firstBadName
  split
  · rename_i n first
    simp only [reduceCtorEq, false_iff]
    intro valid
    have bad := List.find?_some first
    simp [valid n (List.mem_of_find?_eq_some first)] at bad
  · rename_i none
    simp only [true_iff]
    intro n member
    simpa using List.find?_eq_none.mp none n member

theorem Step.body?_of_check {s : Step} (passed : s.check = .ok ()) :
    ∃ body, s.body? = some body := by
  unfold Step.check at passed
  split at passed
  · cases passed
  · split at passed
    · cases passed
    · rename_i body found
      exact ⟨body, found⟩

namespace Job

section loop

variable (seen : List String) (s : Step) (rest : List Step)

theorem checkSteps_cons_of_error (e : JobFault) (failed : s.check = .error e) :
    checkSteps seen (s :: rest) = .error e := by
  simp only [checkSteps, failed, bind, Except.bind]

theorem checkSteps_cons_of_seen (passed : s.check = .ok ()) (repeated : seen.contains s.name) :
    checkSteps seen (s :: rest) = .error (.duplicateStep s.name) := by
  simp only [checkSteps, passed, repeated, if_true, bind, Except.bind, throw, throwThe,
    MonadExceptOf.throw]

theorem checkSteps_cons_of_fresh (passed : s.check = .ok ()) (fresh : ¬ seen.contains s.name) :
    checkSteps seen (s :: rest) = checkSteps (s.name :: seen) rest := by
  simp only [checkSteps, passed, fresh, Bool.false_eq_true, if_false, bind, Except.bind]

end loop

/-- The step loop passes exactly when every step passes its own checks and no name repeats,
neither a name seen before the loop nor that of an earlier step. -/
theorem checkSteps_ok_iff (seen : List String) (steps : List Step) :
    checkSteps seen steps = .ok () ↔
      (∀ s ∈ steps, s.check = .ok ()) ∧ (∀ s ∈ steps, s.name ∉ seen) ∧
        (steps.map (·.name)).Nodup := by
  induction steps generalizing seen with
  | nil => simp [checkSteps]
  | cons s rest ih =>
    cases passed : s.check with
    | error e => simp [checkSteps_cons_of_error seen s rest e passed, passed]
    | ok u =>
      by_cases repeated : seen.contains s.name
      · have member : s.name ∈ seen := by simpa using repeated
        simp [checkSteps_cons_of_seen seen s rest passed repeated, member]
      · have fresh : s.name ∉ seen := by simpa using repeated
        rw [checkSteps_cons_of_fresh seen s rest passed repeated, ih]
        simp only [List.forall_mem_cons, List.map_cons, List.nodup_cons]
        simp only [List.mem_cons, not_or, List.mem_map, not_exists, not_and]
        constructor
        · rintro ⟨checks, names, distinct⟩
          exact ⟨⟨passed, checks⟩, ⟨fresh, fun t member => (names t member).2⟩,
            fun t member same => (names t member).1 same, distinct⟩
        · rintro ⟨⟨_, checks⟩, ⟨_, names⟩, apart, distinct⟩
          exact ⟨checks, fun t member => ⟨apart t member, names t member⟩, distinct⟩

theorem check_ok_iff (j : Job) :
    j.check = .ok () ↔
      j.steps ≠ [] ∧ j.matrix.validate = .ok () ∧ checkSteps [] j.steps = .ok () := by
  unfold check
  cases empty : j.steps.isEmpty
  · have present : j.steps ≠ [] := by simpa using empty
    cases valid : j.matrix.validate with
    | error f => simp [present, throw, throwThe, MonadExceptOf.throw]
    | ok u => simp [present]
  · have none : j.steps = [] := by simpa using empty
    simp [none, bind, Except.bind, throw, throwThe, MonadExceptOf.throw]

/-- What a passed check promises the planner. -/
structure Sound (j : Job) : Prop where
  validNames : ∀ n ∈ j.matrix.names, ArgName.isValid n = true
  hasBody : ∀ s ∈ j.steps, ∃ body, s.body? = some body
  distinctNames : (j.steps.map (·.name)).Nodup

theorem sound_of_check {j : Job} (passed : j.check = .ok ()) : j.Sound := by
  obtain ⟨_, valid, loop⟩ := (check_ok_iff j).mp passed
  obtain ⟨checks, _, distinct⟩ := (checkSteps_ok_iff [] j.steps).mp loop
  exact ⟨(Matrix.validate_ok_iff j.matrix).mp valid,
    fun s member => Step.body?_of_check (checks s member), distinct⟩

theorem check_of_parse {text : String} {j : Job} (parsed : parse text = .ok j) :
    j.check = .ok () := by
  unfold parse at parsed
  cases read : ofYaml text with
  | error e => simp [read, bind, Except.bind, throw, throwThe, MonadExceptOf.throw] at parsed
  | ok job =>
    cases passed : job.check with
    | error e => simp [read, passed, bind, Except.bind, pure, Except.pure] at parsed
    | ok u =>
      simp only [read, passed, bind, Except.bind, pure, Except.pure, Except.ok.injEq] at parsed
      exact parsed ▸ passed

end Job

end JobMatrix

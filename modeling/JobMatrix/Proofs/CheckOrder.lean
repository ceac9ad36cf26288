import JobMatrix.Proofs.Check
import JobMatrix.Proofs.Faults
import JobMatrix.Proofs.ByteOrder

/-!
Which fault checking a job reports. A step is checked for a blank name, then for a single body,
then for a blank body. The job is checked for steps, then for the least invalid argument name,
in byte order, and then step by step: the first step that fails its own checks, or that repeats
the name of an earlier step, is reported. The step loop carries the names of the steps already
passed, so the step reported is the first whose own checks fail or whose name is taken.
-/

namespace JobMatrix

namespace Text

theorem trimBlankList_eq_nil_iff (cs : List Char) : trimBlankList cs = [] ↔ cs.all isBlank := by
  rw [trimBlankList, List.reverse_eq_nil_iff, List.dropWhile_eq_nil_iff]
  constructor
  · intro blanks
    cases rest : cs.dropWhile isBlank with
    | nil => exact List.dropWhile_eq_nil_iff.mp rest |> List.all_eq_true.mpr
    | cons d ds =>
      have kept := List.head?_dropWhile_not isBlank cs
      have blank := blanks d (by simp [rest])
      rw [rest, List.head?_cons] at kept
      simp [kept] at blank
  · intro blanks x member
    have dropped : cs.dropWhile isBlank = [] :=
      List.dropWhile_eq_nil_iff.mpr (List.all_eq_true.mp blanks)
    simp [dropped] at member

theorem trimBlank_isEmpty_iff (s : String) : (trimBlank s).isEmpty = true ↔ IsBlankText s := by
  rw [trimBlank, String.isEmpty_iff, ← String.toList_inj, String.toList_ofList,
    String.toList_empty, trimBlankList_eq_nil_iff, IsBlankText]

end Text

namespace Step

/-- A step passes its own checks: a non-blank name and a single, non-blank body. -/
def Passes (s : Step) : Prop :=
  ¬ Text.IsBlankText s.name ∧ ∃ body, s.body? = some body ∧ ¬ Text.IsBlankText body.text

/-- The first of its own checks that a step fails. -/
inductive FirstFlaw (s : Step) : StepFlaw → Prop
  | blankName : Text.IsBlankText s.name → FirstFlaw s .blankName
  | bodyCount : ¬ Text.IsBlankText s.name → s.body? = none → FirstFlaw s .bodyCount
  | blankBody {body : StepBody} : ¬ Text.IsBlankText s.name → s.body? = some body →
      Text.IsBlankText body.text → FirstFlaw s .blankBody

theorem body?_eq_none_iff (s : Step) : s.body? = none ↔ s.command.isSome = s.query.isSome := by
  cases command : s.command <;> cases query : s.query <;> simp [body?, command, query]

theorem check_eq_ok_iff (s : Step) : s.check = .ok () ↔ s.Passes := by
  unfold check Passes
  by_cases blankName : Text.IsBlankText s.name
  · simp [(Text.trimBlank_isEmpty_iff _).mpr blankName, blankName]
  · rw [if_neg (fun empty => blankName ((Text.trimBlank_isEmpty_iff _).mp empty))]
    cases found : s.body? with
    | none => simp
    | some body =>
      by_cases blankBody : Text.IsBlankText body.text
      · simp [(Text.trimBlank_isEmpty_iff _).mpr blankBody, blankBody]
      · simp [(Text.trimBlank_isEmpty_iff _).not.mpr blankBody, blankName, blankBody]

theorem check_eq_error_iff (s : Step) (e : JobFault) :
    s.check = .error e ↔ ∃ flaw, s.FirstFlaw flaw ∧ e = .invalidStep s.name flaw := by
  unfold check
  by_cases blankName : Text.IsBlankText s.name
  · rw [if_pos ((Text.trimBlank_isEmpty_iff _).mpr blankName)]
    constructor
    · rintro ⟨⟩
      exact ⟨_, .blankName blankName, rfl⟩
    · rintro ⟨flaw, first, rfl⟩
      cases first <;> simp_all
  · rw [if_neg (fun empty => blankName ((Text.trimBlank_isEmpty_iff _).mp empty))]
    cases found : s.body? with
    | none =>
      constructor
      · rintro ⟨⟩
        exact ⟨_, .bodyCount blankName found, rfl⟩
      · rintro ⟨flaw, first, rfl⟩
        cases first <;> simp_all
    | some body =>
      dsimp only
      by_cases blankBody : Text.IsBlankText body.text
      · rw [if_pos ((Text.trimBlank_isEmpty_iff _).mpr blankBody)]
        constructor
        · rintro ⟨⟩
          exact ⟨_, .blankBody blankName found blankBody, rfl⟩
        · rintro ⟨flaw, first, rfl⟩
          cases first <;> simp_all
      · rw [if_neg (fun empty => blankBody ((Text.trimBlank_isEmpty_iff _).mp empty))]
        constructor
        · rintro ⟨⟩
        · rintro ⟨flaw, first, -⟩
          cases first with
          | blankName blank => exact absurd blank blankName
          | bodyCount _ none => simp_all
          | blankBody _ found' blank =>
            rw [found, Option.some.injEq] at found'
            exact absurd (found' ▸ blank) blankBody

end Step

namespace Job

abbrev names (steps : List Step) : List String := steps.map (·.name)

section loop

variable {seen : List String} {p s : Step} {pre : List Step} {e : JobFault}

/-- Steps that the loop, started with the names `seen`, passes: each passes its own checks, with
a name neither seen nor taken by an earlier one. -/
def Passing (seen : List String) (pre : List Step) : Prop :=
  (∀ p ∈ pre, p.check = .ok () ∧ p.name ∉ seen) ∧ (names pre).Nodup

/-- The loop stops at step `s`, after the steps `pre`, with the fault `e`: the step fails its own
checks, or passes them with a name seen or taken by an earlier step. -/
def Stops (seen : List String) (pre : List Step) (s : Step) (e : JobFault) : Prop :=
  s.check = .error e ∨
    (s.check = .ok () ∧ (s.name ∈ seen ∨ s.name ∈ names pre) ∧ e = .duplicateStep s.name)

theorem Passing.nil : Passing seen [] :=
  ⟨by simp, List.nodup_nil⟩

theorem passing_cons_iff :
    Passing seen (p :: pre) ↔ p.check = .ok () ∧ p.name ∉ seen ∧ Passing (p.name :: seen) pre := by
  unfold Passing names
  rw [List.forall_mem_cons, List.map_cons, List.nodup_cons]
  constructor
  · rintro ⟨⟨⟨passed, fresh⟩, later⟩, apart, distinct⟩
    refine ⟨passed, fresh, fun q member => ⟨(later q member).1, ?_⟩, distinct⟩
    rw [List.mem_cons, not_or]
    exact ⟨fun same => apart (List.mem_map.mpr ⟨q, member, same⟩), (later q member).2⟩
  · rintro ⟨passed, fresh, later, distinct⟩
    refine ⟨⟨⟨passed, fresh⟩, fun q member => ⟨(later q member).1, fun inSeen =>
      (later q member).2 (List.mem_cons_of_mem _ inSeen)⟩⟩, fun member => ?_, distinct⟩
    obtain ⟨q, inPre, same⟩ := List.mem_map.mp member
    exact (later q inPre).2 (same ▸ List.mem_cons_self)

theorem Stops.cons (stops : Stops (p.name :: seen) pre s e) : Stops seen (p :: pre) s e := by
  rcases stops with own | ⟨passed, taken, reported⟩
  · exact Or.inl own
  · refine Or.inr ⟨passed, ?_, reported⟩
    rcases taken with inSeen | inPre
    · rcases List.mem_cons.mp inSeen with same | old
      · exact Or.inr (by simp [same])
      · exact Or.inl old
    · exact Or.inr (by simp [inPre])

/-- Steps that pass are skipped by the loop, which goes on with their names. -/
theorem checkSteps_append_of_passing (rest : List Step) (passing : Passing seen pre) :
    checkSteps seen (pre ++ rest) = checkSteps ((names pre).reverse ++ seen) rest := by
  induction pre generalizing seen with
  | nil => rfl
  | cons p pre ih =>
    obtain ⟨passed, fresh, later⟩ := passing_cons_iff.mp passing
    rw [List.cons_append, checkSteps_cons_of_fresh seen p _ passed (by simpa using fresh), ih later]
    simp

theorem checkSteps_eq_error_of_stops (post : List Step) (passing : Passing seen pre)
    (stops : Stops seen pre s e) : checkSteps seen (pre ++ s :: post) = .error e := by
  rw [checkSteps_append_of_passing _ passing]
  rcases stops with own | ⟨passed, taken, rfl⟩
  · exact checkSteps_cons_of_error _ s post e own
  · refine checkSteps_cons_of_seen _ s post passed ?_
    rcases taken with inSeen | inPre
    · simp [inSeen]
    · simp [inPre]

end loop

/-- The step loop fails at the first step that fails its own checks, or that passes them with a
name seen before the loop or taken by an earlier step; every step before it passes with a name
of its own. -/
theorem checkSteps_eq_error_iff (seen : List String) (steps : List Step) (e : JobFault) :
    checkSteps seen steps = .error e ↔
      ∃ pre s post, steps = pre ++ s :: post ∧ Passing seen pre ∧ Stops seen pre s e := by
  refine ⟨fun failed => ?_, fun ⟨pre, s, post, split, passing, stops⟩ =>
    split ▸ checkSteps_eq_error_of_stops post passing stops⟩
  induction steps generalizing seen with
  | nil => cases failed
  | cons s rest ih =>
    cases passed : s.check with
    | error e' =>
      rw [checkSteps_cons_of_error seen s rest e' passed] at failed
      exact ⟨[], s, rest, rfl, Passing.nil, Or.inl (passed.trans failed)⟩
    | ok u =>
      by_cases repeated : seen.contains s.name
      · rw [checkSteps_cons_of_seen seen s rest passed repeated] at failed
        cases failed
        exact ⟨[], s, rest, rfl, Passing.nil, Or.inr ⟨passed, Or.inl (by simpa using repeated), rfl⟩⟩
      · rw [checkSteps_cons_of_fresh seen s rest passed repeated] at failed
        obtain ⟨pre, t, post, split, passing, stops⟩ := ih _ failed
        refine ⟨s :: pre, t, post, by rw [split, List.cons_append], ?_, stops.cons⟩
        exact passing_cons_iff.mpr ⟨passed, by simpa using repeated, passing⟩

theorem check_eq_error_iff (j : Job) (e : JobFault) :
    j.check = .error e ↔ (j.steps = [] ∧ e = .noSteps) ∨
      (j.steps ≠ [] ∧ ∃ f, j.matrix.validate = .error f ∧ e = .invalidMatrix f) ∨
      (j.steps ≠ [] ∧ j.matrix.validate = .ok () ∧ checkSteps [] j.steps = .error e) := by
  unfold check
  cases empty : j.steps.isEmpty
  · have present : j.steps ≠ [] := by simpa using empty
    cases valid : j.matrix.validate with
    | error f => simp [present, throw, throwThe, MonadExceptOf.throw, eq_comm]
    | ok u => simp [present]
  · have none : j.steps = [] := by simpa using empty
    simp [none, bind, Except.bind, throw, throwThe, MonadExceptOf.throw, eq_comm]

end Job

namespace Matrix

/-- A matrix is refused for its least invalid name, in byte order. -/
theorem validate_eq_error_iff (m : Matrix) (f : ArgFault) :
    m.validate = .error f ↔ ∃ n ∈ m.names, ArgName.isValid n = false ∧
      (∀ n' ∈ m.names, ArgName.isValid n' = false →
        n.toByteArray.data.toList ≤ n'.toByteArray.data.toList) ∧ f = .badName n := by
  unfold validate firstBadName
  cases found : m.names.find? (fun n => !ArgName.isValid n) with
  | none =>
    simp only [reduceCtorEq, false_iff, not_exists, not_and]
    intro n member invalid
    simpa [invalid] using List.find?_eq_none.mp found n member
  | some n =>
    have least := Query.le_of_find?_eq_some (NameMap.sorted_toList m) found
    have invalid : ArgName.isValid n = false := by simpa using List.find?_some found
    have member := List.mem_of_find?_eq_some found
    simp only [Except.error.injEq]
    constructor
    · rintro rfl
      refine ⟨n, member, invalid, fun n' member' invalid' => ?_, rfl⟩
      exact (le_iff_bytes_le n n').mp (least n' member' (by simp [invalid']))
    · rintro ⟨n', member', invalid', lowest, rfl⟩
      have below : n' ≤ n := (le_iff_bytes_le n' n).mpr (lowest n member invalid)
      have above : n ≤ n' := least n' member' (by simp [invalid'])
      rw [le_antisymm below above]

end Matrix

namespace Job

/-- Checking a job passes exactly when it has steps, every argument name is valid, every step
passes its own checks, and no two steps share a name. Otherwise it reports the first failure:
no steps; the least invalid argument name in byte order; or the first step that fails its own
checks, with the first of them it fails, or that passes them with the name of an earlier
step. -/
theorem check_first_failure (j : Job) :
    (j.check = .ok () ↔ j.steps ≠ [] ∧ (∀ n ∈ j.matrix.names, ArgName.isValid n = true) ∧
      (∀ s ∈ j.steps, s.Passes) ∧ (names j.steps).Nodup) ∧
    ∀ e, j.check = .error e ↔
      (j.steps = [] ∧ e = .noSteps) ∨
      (j.steps ≠ [] ∧ ∃ n ∈ j.matrix.names, ArgName.isValid n = false ∧
        (∀ n' ∈ j.matrix.names, ArgName.isValid n' = false →
          n.toByteArray.data.toList ≤ n'.toByteArray.data.toList) ∧
        e = .invalidMatrix (.badName n)) ∨
      (j.steps ≠ [] ∧ (∀ n ∈ j.matrix.names, ArgName.isValid n = true) ∧
        ∃ pre s post, j.steps = pre ++ s :: post ∧ (∀ p ∈ pre, p.Passes) ∧ (names pre).Nodup ∧
          ((∃ flaw, s.FirstFlaw flaw ∧ e = .invalidStep s.name flaw) ∨
            (s.Passes ∧ s.name ∈ names pre ∧ e = .duplicateStep s.name))) := by
  refine ⟨?_, fun e => ?_⟩
  · rw [check_ok_iff, Matrix.validate_ok_iff, checkSteps_ok_iff]
    simp [Step.check_eq_ok_iff]
  · rw [check_eq_error_iff, ← Matrix.validate_ok_iff, checkSteps_eq_error_iff]
    simp only [Passing, Stops, Matrix.validate_eq_error_iff, Step.check_eq_ok_iff,
      Step.check_eq_error_iff, List.not_mem_nil, not_false_eq_true, and_true, false_or, and_assoc]
    constructor
    · rintro (none | ⟨present, f, ⟨n, bad⟩, rfl⟩ | rest)
      · exact Or.inl none
      · exact Or.inr (Or.inl ⟨present, n, by simpa using bad⟩)
      · exact Or.inr (Or.inr rest)
    · rintro (none | ⟨present, n, member, bad⟩ | rest)
      · exact Or.inl none
      · exact Or.inr (Or.inl ⟨present, _, ⟨n, member, bad.1, bad.2.1, rfl⟩, bad.2.2⟩)
      · exact Or.inr (Or.inr rest)

example : (Job.mk "j" NameMap.empty [{ name := "a", command := some "x" },
    { name := "a", command := some "y" }, { name := " ", query := some "q" }]).check =
      .error (.duplicateStep "a") := by
  rfl

end Job

end JobMatrix

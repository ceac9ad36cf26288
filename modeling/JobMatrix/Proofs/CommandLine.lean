import Mathlib.Data.List.Induction
import JobMatrix.Cli

/-!
Reading the command line. The flags `--json`, `--verbose` and `-v`, and a first file name, only
set up the plan. The first argument of any other kind decides the outcome alone, and nothing
after it is read. Such an argument is an option that is not one of the flags (help and version
among them), or a second file name. With no such argument, the plan reads the one file named, or
`job.yaml`, with each flag set when it occurs.
-/

namespace JobMatrix.Cli

def isOption (a : String) : Bool :=
  a.toList.head? == some '-'

/-- A flag: an option that only sets how the plan is shown. -/
def IsFlag (a : String) : Prop :=
  a = "--json" ∨ a = "--verbose" ∨ a = "-v"

/-- An argument that decides the outcome after the arguments `before`: an option that is not a
flag, or a file name when one was named before. -/
def Decisive (before : List String) (a : String) : Prop :=
  (isOption a = true ∧ ¬ IsFlag a) ∨ (isOption a = false ∧ ∃ b ∈ before, isOption b = false)

/-- The argument at position `t` decides the outcome. -/
def Decides (args : List String) (t : Nat) : Prop :=
  ∃ a, args[t]? = some a ∧ Decisive (args.take t) a

/-- What a deciding argument asks for. -/
def verdict (a : String) : Request :=
  if a = "--help" ∨ a = "-h" then .help
  else if a = "--version" ∨ a = "-V" then .version
  else if isOption a then .bad ("Unknown option: " ++ a)
  else .bad ("Unexpected argument: " ++ a)

/-- Whether some argument is a file name. -/
def Named (args : List String) : Bool :=
  args.any fun a => !isOption a

theorem ne_of_isOption {a o : String} (name : isOption a = false) (option : isOption o = true) :
    a ≠ o := by
  rintro rfl
  simp_all

section step

variable (path : String) (json verbose : Bool) (a : String) (rest : List String)

theorem requestFrom_cons_of_name {named : Bool} (name : isOption a = false) :
    requestFrom path named json verbose (a :: rest) =
      if named then .bad ("Unexpected argument: " ++ a) else requestFrom a true json verbose rest := by
  have other : ∀ o, isOption o = true → a ≠ o := fun o => ne_of_isOption name
  have head : a.toList.head? ≠ some '-' := by simpa [isOption] using name
  simp [requestFrom, other, isOption, head]

theorem requestFrom_of_first_name (name : isOption a = false) :
    requestFrom path false json verbose (a :: rest) = requestFrom a true json verbose rest := by
  rw [requestFrom_cons_of_name _ _ _ _ _ name]
  rfl

theorem verdict_of_name (name : isOption a = false) :
    verdict a = .bad ("Unexpected argument: " ++ a) := by
  have other : ∀ o, isOption o = true → a ≠ o := fun o => ne_of_isOption name
  have head : a.toList.head? ≠ some '-' := by simpa [isOption] using name
  simp [verdict, other, isOption, head]

theorem requestFrom_of_decisive {before : List String} (decisive : Decisive before a) :
    requestFrom path (Named before) json verbose (a :: rest) = verdict a := by
  rcases decisive with ⟨option, notFlag⟩ | ⟨name, earlier⟩
  · have head : a.toList.head? = some '-' := by simpa [isOption] using option
    simp only [IsFlag, not_or] at notFlag
    simp [requestFrom, verdict, head, notFlag, isOption]
  · have named : Named before = true := by simpa [Named] using earlier
    rw [requestFrom_cons_of_name _ _ _ _ _ name, named, verdict_of_name _ name]
    rfl

end step

section run

theorem Decides.append {pre : List String} {t : Nat} (decides : Decides pre t)
    (post : List String) : Decides (pre ++ post) t := by
  obtain ⟨a, found, decisive⟩ := decides
  have inside : t < pre.length := (List.getElem?_eq_some_iff.mp found).1
  refine ⟨a, by rw [List.getElem?_append_left inside, found], ?_⟩
  rwa [List.take_append_of_le_length (Nat.le_of_lt inside)]

theorem decides_length {pre : List String} {a : String} (decisive : Decisive pre a)
    (post : List String) : Decides (pre ++ a :: post) pre.length :=
  ⟨a, by simp, by simpa using decisive⟩

/-- Arguments none of which decides the outcome only set up the plan: the reader goes on with the
file named among them, if any, and with the flags among them set. -/
theorem request_append_of_quiet (pre rest : List String) (quiet : ∀ t, ¬ Decides pre t) :
    request (pre ++ rest) =
      requestFrom ((pre.find? fun a => !isOption a).getD defaultJob) (Named pre)
        (pre.contains "--json") (pre.contains "--verbose" || pre.contains "-v") rest := by
  induction pre using List.reverseRecOn generalizing rest with
  | nil => rfl
  | append_singleton pre a ih =>
    have quietPre : ∀ t, ¬ Decides pre t := fun t decides => quiet t (decides.append [a])
    have undecided : ¬ Decisive pre a := fun decisive =>
      quiet pre.length (by simpa using decides_length decisive [])
    rw [List.append_assoc, List.singleton_append, ih _ quietPre]
    by_cases option : isOption a
    · have flag : IsFlag a := by
        by_contra notFlag
        exact undecided (Or.inl ⟨option, notFlag⟩)
      rcases flag with rfl | rfl | rfl <;> simp [requestFrom, List.find?_append, Named, isOption]
    · have name : isOption a = false := by simpa using option
      have first : Named pre = false := by
        simpa [Decisive, Named, option] using undecided
      have unnamed : pre.find? (fun a => !isOption a) = none := by
        simpa [List.find?_eq_none, Named] using first
      have other : ∀ o, isOption o = true → o ≠ a :=
        fun o option => (ne_of_isOption name option).symm
      have json := other "--json" (by simp [isOption])
      have verbose := other "--verbose" (by simp [isOption])
      have short := other "-v" (by simp [isOption])
      rw [first, requestFrom_of_first_name _ _ _ _ _ name]
      simp [List.find?_append, Named, unnamed, name, json, verbose, short]

end run

/-- An outcome decided by one argument ends the program whatever the job file holds: with
status 0 for help and the version, and 1 for an unknown option or an unexpected argument. -/
theorem exitCode_run_of_decided {args : List String} {a : String}
    (decided : request args = verdict a) (read : String → Except FileFault String) :
    (run args read).exitCode = 0 ↔ a = "--help" ∨ a = "-h" ∨ a = "--version" ∨ a = "-V" := by
  rw [run, decided, verdict]
  split_ifs with help version
  · exact iff_of_true rfl (help.elim Or.inl (Or.inr ∘ Or.inl))
  · exact iff_of_true rfl (Or.inr (Or.inr version))
  all_goals
    simp only [false_iff]
    tauto

/-- The command line is read up to the first argument that decides the outcome: an option
other than `--json`, `--verbose` and `-v` (help and version among them), or a second file name.
When there is none, the plan reads the one file named, or `job.yaml`, and each flag is set when
it occurs. When there is one, it alone gives the outcome, whatever follows it, and the program
ends with status 0 exactly when it asks for help or the version. -/
theorem request_first_decisive (args : List String) :
    ((∀ t, ¬ Decides args t) →
      request args = .plan ((args.find? fun a => !isOption a).getD defaultJob)
        (args.contains "--json") (args.contains "--verbose" || args.contains "-v")) ∧
    ∀ t a, args[t]? = some a → Decisive (args.take t) a → (∀ s < t, ¬ Decides args s) →
      request args = verdict a ∧ ∀ read, ((run args read).exitCode = 0 ↔
        a = "--help" ∨ a = "-h" ∨ a = "--version" ∨ a = "-V") := by
  refine ⟨fun quiet => ?_, fun t a found decisive first => ?_⟩
  · simpa [requestFrom] using request_append_of_quiet args [] quiet
  · obtain ⟨inside, same⟩ := List.getElem?_eq_some_iff.mp found
    have split : args = args.take t ++ a :: args.drop (t + 1) := by
      rw [← same, List.getElem_cons_drop, List.take_append_drop]
    have quiet : ∀ s, ¬ Decides (args.take t) s := by
      intro s decides
      have before : s < t := by
        obtain ⟨b, found', -⟩ := decides
        have inTake : s < (args.take t).length := (List.getElem?_eq_some_iff.mp found').1
        rw [List.length_take] at inTake
        omega
      exact first s before (List.take_append_drop t args ▸ decides.append (args.drop t))
    have decided : request args = verdict a := by
      rw [split, request_append_of_quiet _ _ quiet, requestFrom_of_decisive _ _ _ _ _ decisive]
    exact ⟨decided, exitCode_run_of_decided decided⟩

example : request ["--json", "a.yaml", "-v"] = .plan "a.yaml" true true := by decide +kernel
example : request ["-x", "--help"] = .bad "Unknown option: -x" := by decide +kernel

end JobMatrix.Cli

import JobMatrix.Proofs.Env

/-!
Reading a shown instance back. An instance is shown as `{ 'k': v,... }` with every single quote
of its names and values written twice. The values are not delimited, but the quotes of a doubled
value come in pairs, so a comma followed by a lone quote never occurs inside one. That is exactly
how the next entry starts, since a valid name holds no quote. Read from the left, each value ends
at the first comma followed by a lone quote, or at the end, and so with valid names the shown
text determines the instance.
-/

namespace JobMatrix

namespace NameMap

theorem eq_of_toList_eq {α : Type} {m m' : NameMap α} (same : m.toList = m'.toList) : m = m' := by
  cases m
  cases m'
  cases same
  rfl

end NameMap

namespace Binding

def doubledChars (cs : List Char) : List Char :=
  cs.flatMap fun c => if c = '\'' then ['\'', '\''] else [c]

/-- What may follow a doubled value in a shown instance: nothing, or a comma and the quote that
opens the next name, followed by a character that is not a quote. -/
def ValueEnd (t : List Char) : Prop :=
  t = [] ∨ ∃ c rest, t = ',' :: '\'' :: c :: rest ∧ c ≠ '\''

@[simp] theorem doubledChars_nil : doubledChars [] = [] := rfl

theorem doubledChars_cons (c : Char) (cs : List Char) :
    doubledChars (c :: cs) = (if c = '\'' then ['\'', '\''] else [c]) ++ doubledChars cs :=
  List.flatMap_cons

theorem toList_doubleQuotes (s : String) : (doubleQuotes s).toList = doubledChars s.toList := by
  simp [doubleQuotes, doubledChars]

theorem doubledChars_of_not_mem {cs : List Char} (none : '\'' ∉ cs) : doubledChars cs = cs := by
  induction cs with
  | nil => rfl
  | cons c cs ih =>
    rw [List.mem_cons, not_or] at none
    rw [doubledChars_cons, if_neg (Ne.symm none.1), ih none.2]
    rfl

theorem doubledChars_cons_append {c d : Char} {u v t t' : List Char}
    (same : doubledChars (c :: u) ++ t = doubledChars (d :: v) ++ t') :
    c = d ∧ doubledChars u ++ t = doubledChars v ++ t' := by
  by_cases quote : c = '\'' <;> by_cases quote' : d = '\''
  · subst quote quote'
    simpa [doubledChars_cons] using same
  · simp [doubledChars_cons, quote, quote'] at same
    exact absurd same.1.symm quote'
  · simp [doubledChars_cons, quote, quote'] at same
  · simpa [doubledChars_cons, quote, quote'] using same

/-- A doubled value that is not empty never stands where a value ends: it is not empty, and a
comma in it is followed by a quote only when that quote is doubled. -/
theorem valueEnd_ne_doubledChars_append {c : Char} {v t t' : List Char} (ends : ValueEnd t)
    (ends' : ValueEnd t') : t ≠ doubledChars (c :: v) ++ t' := by
  intro same
  rcases ends with rfl | ⟨x, rest, rfl, lone⟩
  · by_cases quote : c = '\'' <;> simp [doubledChars_cons, quote] at same
  · by_cases quote : c = '\''
    · simp [doubledChars_cons, quote] at same
    · rw [doubledChars_cons, if_neg quote] at same
      cases v with
      | nil => rcases ends' with rfl | ⟨y, rest', rfl, -⟩ <;> simp at same
      | cons d v =>
        by_cases quote' : d = '\''
        · simp [doubledChars_cons, quote'] at same
          exact lone same.2.1
        · simp [doubledChars_cons, quote'] at same
          exact quote' same.2.1.symm

/-- A doubled value is read back whole from what follows it, when that is where a value ends. -/
theorem doubledChars_append_inj {u v t t' : List Char} (ends : ValueEnd t) (ends' : ValueEnd t')
    (same : doubledChars u ++ t = doubledChars v ++ t') : u = v ∧ t = t' := by
  induction u generalizing v with
  | nil =>
    cases v with
    | nil => exact ⟨rfl, same⟩
    | cons d v => exact absurd same (valueEnd_ne_doubledChars_append ends ends')
  | cons c u ih =>
    cases v with
    | nil => exact absurd same.symm (valueEnd_ne_doubledChars_append ends' ends)
    | cons d v =>
      obtain ⟨rfl, rest⟩ := doubledChars_cons_append same
      obtain ⟨rfl, tails⟩ := ih rest
      exact ⟨rfl, tails⟩

/-- A text cut at its first quote: two texts without quotes, each followed by a quote, agree
exactly when they and what follows agree. -/
theorem append_quote_inj {a b x y : List Char} (none : '\'' ∉ a) (none' : '\'' ∉ b)
    (same : a ++ '\'' :: x = b ++ '\'' :: y) : a = b ∧ x = y := by
  have unquoted : ∀ cs : List Char, '\'' ∉ cs → ∀ c ∈ cs, (c != '\'') = true := by
    intro cs none c member
    rw [bne_iff_ne]
    rintro rfl
    exact none member
  have names : a = b := by
    have cut := congrArg (List.takeWhile (· != '\'')) same
    simpa [List.takeWhile_append_of_pos (unquoted a none),
      List.takeWhile_append_of_pos (unquoted b none')] using cut
  subst names
  exact ⟨rfl, (List.cons.inj (List.append_cancel_left same)).2⟩

section names

variable {k : String} (valid : ArgName.isValid k = true)
include valid

theorem quote_not_mem_of_isValid : '\'' ∉ k.toList := fun member => by
  have tail := ArgName.isTail_of_mem valid member
  revert tail
  decide

theorem exists_head_of_isValid : ∃ c rest, k.toList = c :: rest ∧ c ≠ '\'' := by
  cases chars : k.toList with
  | nil => simp [ArgName.isValid, chars, ArgName.isValidList] at valid
  | cons c rest =>
    refine ⟨c, rest, rfl, fun quote => quote_not_mem_of_isValid valid ?_⟩
    simp [chars, quote]

theorem toList_entryText (v : String) :
    (entryText (k, v)).toList =
      '\'' :: k.toList ++ '\'' :: ':' :: ' ' :: doubledChars v.toList := by
  simp [entryText, toList_doubleQuotes, doubledChars_of_not_mem (quote_not_mem_of_isValid valid)]

end names

/-- The entries after the first of a shown instance, each after a comma. -/
def laterChars (es : List (String × String)) : List Char :=
  es.flatMap fun e => ',' :: (entryText e).toList

/-- The characters between the braces of a shown instance. -/
def entriesChars : List (String × String) → List Char
  | [] => []
  | e :: es => (entryText e).toList ++ laterChars es

theorem laterChars_cons (e : String × String) (es : List (String × String)) :
    laterChars (e :: es) = ',' :: entriesChars (e :: es) := by
  simp [laterChars, entriesChars]

theorem valueEnd_laterChars (es : List (String × String))
    (valid : ∀ e ∈ es, ArgName.isValid e.1 = true) : ValueEnd (laterChars es) := by
  cases es with
  | nil => exact Or.inl rfl
  | cons e es =>
    obtain ⟨k, v⟩ := e
    have named : ArgName.isValid k = true := valid (k, v) List.mem_cons_self
    obtain ⟨c, rest, chars, lone⟩ := exists_head_of_isValid named
    refine Or.inr
      ⟨c, rest ++ '\'' :: ':' :: ' ' :: doubledChars v.toList ++ laterChars es, ?_, lone⟩
    simp [laterChars_cons, entriesChars, toList_entryText named, chars]

theorem entryText_append_inj {e e' : String × String} {t t' : List Char}
    (valid : ArgName.isValid e.1 = true) (valid' : ArgName.isValid e'.1 = true)
    (ends : ValueEnd t) (ends' : ValueEnd t')
    (same : (entryText e).toList ++ t = (entryText e').toList ++ t') : e = e' ∧ t = t' := by
  obtain ⟨k, v⟩ := e
  obtain ⟨k', v'⟩ := e'
  rw [toList_entryText valid, toList_entryText valid'] at same
  simp only [List.cons_append, List.append_assoc, List.cons.injEq, true_and] at same
  obtain ⟨names, rest⟩ := append_quote_inj (quote_not_mem_of_isValid valid)
    (quote_not_mem_of_isValid valid') same
  simp only [List.cons.injEq, true_and] at rest
  obtain ⟨values, tails⟩ := doubledChars_append_inj ends ends' rest
  rw [String.toList_inj] at names values
  exact ⟨Prod.ext names values, tails⟩

theorem entriesChars_inj {l l' : List (String × String)}
    (valid : ∀ e ∈ l, ArgName.isValid e.1 = true) (valid' : ∀ e ∈ l', ArgName.isValid e.1 = true)
    (same : entriesChars l = entriesChars l') : l = l' := by
  induction l generalizing l' with
  | nil =>
    cases l' with
    | nil => rfl
    | cons e es => simp [entriesChars, entryText] at same
  | cons e es ih =>
    cases l' with
    | nil => simp [entriesChars, entryText] at same
    | cons e' es' =>
      have rest := fun x member => valid x (List.mem_cons_of_mem e member)
      have rest' := fun x member => valid' x (List.mem_cons_of_mem e' member)
      obtain ⟨rfl, tails⟩ := entryText_append_inj (valid e List.mem_cons_self)
        (valid' e' List.mem_cons_self) (valueEnd_laterChars es rest)
        (valueEnd_laterChars es' rest') same
      cases es with
      | nil =>
        cases es' with
        | nil => rfl
        | cons _ _ => simp [laterChars] at tails
      | cons x xs =>
        cases es' with
        | nil => simp [laterChars] at tails
        | cons x' xs' =>
          rw [laterChars_cons, laterChars_cons, List.cons.injEq] at tails
          rw [ih rest rest' tails.2]

theorem intercalate_comma (es : List (String × String)) :
    [','].intercalate (es.map fun e => (entryText e).toList) = entriesChars es := by
  induction es with
  | nil => rfl
  | cons e es ih =>
    cases es with
    | nil => simp [entriesChars, laterChars]
    | cons e' es =>
      simp only [List.map_cons] at ih ⊢
      rw [List.intercalate_cons_cons, ih]
      simp [entriesChars, laterChars]

theorem toList_display (b : Binding) :
    b.display.toList = '\x7b' :: ' ' :: entriesChars b.toList ++ [' ', '\x7d'] := by
  simp [display, String.toList_intercalate, List.map_map, Function.comp_def, intercalate_comma]

/-- Two instances whose names are valid are shown alike exactly when they are the same
instance. -/
theorem display_inj {b b' : Binding} (valid : ∀ k ∈ b.names, ArgName.isValid k = true)
    (valid' : ∀ k ∈ b'.names, ArgName.isValid k = true) : b.display = b'.display ↔ b = b' := by
  refine ⟨fun same => NameMap.eq_of_toList_eq ?_, fun same => same ▸ rfl⟩
  have chars := congrArg String.toList same
  simp only [toList_display, List.cons_append, List.cons.injEq, true_and] at chars
  exact entriesChars_inj (fun e member => valid e.1 (by simpa using ⟨e.2, member⟩))
    (fun e member => valid' e.1 (by simpa using ⟨e.2, member⟩))
    (List.append_cancel_right chars)

/-- A value holding a comma and a quoted name is shown apart from the two entries it imitates. -/
theorem display_inj_quoted_comma :
    (∀ k ∈ (NameMap.empty.insert "x" "a,'y': b").names, ArgName.isValid k = true) ∧
      (∀ k ∈ ((NameMap.empty.insert "x" "a").insert "y" "b").names, ArgName.isValid k = true) ∧
      (display (NameMap.empty.insert "x" "a,'y': b") =
          display ((NameMap.empty.insert "x" "a").insert "y" "b") ↔
        NameMap.empty.insert "x" "a,'y': b" = (NameMap.empty.insert "x" "a").insert "y" "b") :=
  have valid : ∀ k ∈ (NameMap.empty.insert "x" "a,'y': b").names, ArgName.isValid k = true := by
    decide +kernel
  have valid' : ∀ k ∈ ((NameMap.empty.insert "x" "a").insert "y" "b").names,
      ArgName.isValid k = true := by
    decide +kernel
  ⟨valid, valid', display_inj valid valid'⟩

example : display ((NameMap.empty.insert "y" "it's").insert "x" "1") =
    "\x7b 'x': 1,'y': it''s \x7d" := by
  decide +kernel

end Binding

end JobMatrix

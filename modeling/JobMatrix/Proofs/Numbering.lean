import Mathlib
import JobMatrix.Proofs.Template
import JobMatrix.Proofs.Fill

/-!
Filling a query from an instance that binds every placeholder of it. The names the query uses
are numbered in increasing order, from 1; every occurrence of a name becomes `$` and its
number, the rest of the query is kept, and the values of the used names, in number order, are
the parameters. Since a name is maximal, no digit follows a number. The filled text holds no
placeholder, so filling it again, from any instance with valid names, changes nothing.
-/

namespace JobMatrix.Query

theorem isTail_of_isDigit {c : Char} (digit : c.isDigit = true) : ArgName.isTail c = true := by
  simp [ArgName.isTail, Char.isAlphanum, digit]

theorem getElem?_of_map_some {α β : Type} {xs : List β} {ys : List α} {f : α → Option β}
    (agree : xs.map some = ys.map f) {i : Nat} (hi : i < ys.length) : xs[i]? = f ys[i] := by
  have atIndex := congrArg (·[i]?) agree
  simp only [List.getElem?_map, List.getElem?_eq_getElem hi, Option.map_some] at atIndex
  cases found : xs[i]? with
  | none => simp [found] at atIndex
  | some x => simpa [found] using atIndex

section bound

variable (b : Binding) (query : String)

theorem pairwise_used : (b.names.filter (holes (scan query)).contains).Pairwise (· < ·) :=
  (NameMap.sorted_toList b).sublist List.filter_sublist

theorem mem_used_iff (bound : ∀ name ∈ holes (scan query), name ∈ b.names) (name : String) :
    name ∈ b.names.filter (holes (scan query)).contains ↔ name ∈ holes (scan query) := by
  rw [List.mem_filter, List.contains_iff_mem]
  exact ⟨fun used => used.2, fun hole => ⟨bound name hole, hole⟩⟩

theorem find?_unbound_eq_none (bound : ∀ name ∈ holes (scan query), name ∈ b.names) :
    ((holes (scan query)).find? fun n => !b.contains n) = none := by
  rw [List.find?_eq_none]
  intro name member
  simp [(NameMap.contains_iff b name).mpr (bound name member)]

/-- With valid names and every placeholder bound, filling numbers the used names in increasing
order and takes their entries as the parameters. -/
theorem fill_eq_ok_of_bound (valid : ∀ k ∈ b.names, ArgName.isValid k = true)
    (bound : ∀ name ∈ holes (scan query), name ∈ b.names) :
    fill b query = .ok ⟨String.ofList ((scan query).flatMap (Piece.numbered fun n =>
        (b.names.filter (holes (scan query)).contains).idxOf n + 1)),
      b.toList.filter fun e => (holes (scan query)).contains e.1⟩ := by
  simp only [fill, find?_badName_eq_none b valid, find?_unbound_eq_none b query bound, names_params]

theorem args_map_some (p : String → Bool) :
    ((b.toList.filter fun e => p e.1).map Prod.snd).map some =
      ((b.toList.filter fun e => p e.1).map Prod.fst).map b.get? := by
  rw [List.map_map, List.map_map]
  apply List.map_congr_left
  intro e member
  exact (NameMap.get?_of_mem_toList b (List.mem_of_mem_filter member)).symm

end bound

section numbers

variable {used : List String} {holes : List String}

theorem mem_map_number_iff (distinct : used.Nodup) (same : ∀ name, name ∈ used ↔ name ∈ holes)
    (n : Nat) : n ∈ holes.map (used.idxOf · + 1) ↔ 1 ≤ n ∧ n ≤ used.length := by
  constructor
  · intro member
    obtain ⟨name, hole, rfl⟩ := List.mem_map.mp member
    have below := List.idxOf_lt_length_iff.mpr ((same name).mpr hole)
    omega
  · rintro ⟨positive, within⟩
    have hi : n - 1 < used.length := by omega
    refine List.mem_map.mpr ⟨used[n - 1], (same _).mp (List.getElem_mem hi), ?_⟩
    rw [distinct.idxOf_getElem (n - 1) hi]
    omega

end numbers

/-- Filling a query whose placeholders are all bound, by names that are all valid. The query is
its pieces printed back: literal text and `:name` placeholders. The names it uses, listed
without repeats in increasing order, are numbered from 1 by their place in that list; the
filled text replaces each placeholder by `$` and its name's number, and the parameters are the
values of the used names in that order. So parameter `n` holds the value of every placeholder
numbered `n`, the numbers used are exactly `1` to the number of parameters, two placeholders
share a number exactly when they share a name, no digit follows a placeholder (so none runs
into the literal text after it), and the filled text depends only on the names bound. -/
theorem fill_numbers_used_names (b : Binding) (query : String)
    (valid : ∀ k ∈ b.names, ArgName.isValid k = true)
    (bound : ∀ name ∈ holes (scan query), name ∈ b.names) :
    render (scan query) = query ∧
    ∃ used : List String, used.Pairwise (· < ·) ∧
      (∀ name, name ∈ used ↔ name ∈ holes (scan query)) ∧
      ∃ filled, fill b query = .ok filled ∧
        filled.args.map some = used.map b.get? ∧
        filled.text = String.ofList ((scan query).flatMap (Piece.numbered (used.idxOf · + 1))) ∧
        (∀ name ∈ holes (scan query), filled.args[used.idxOf name]? = b.get? name) ∧
        (∀ n, n ∈ (holes (scan query)).map (used.idxOf · + 1) ↔ 1 ≤ n ∧ n ≤ filled.args.length) ∧
        (∀ name ∈ holes (scan query), ∀ name' ∈ holes (scan query),
          used.idxOf name = used.idxOf name' ↔ name = name') ∧
        (∀ pre name c post, scan query = pre ++ .hole name :: .lit c :: post → c.isDigit = false) ∧
        ∀ b' : Binding, (∀ k, k ∈ b'.names ↔ k ∈ b.names) →
          (fill b' query).map Filled.text = .ok filled.text := by
  have same := mem_used_iff b query bound
  have distinct := (pairwise_used b query).imp ne_of_lt
  have fills := fill_eq_ok_of_bound b query valid bound
  have agree := args_map_some b (holes (scan query)).contains
  rw [names_params] at agree
  have size : (List.map Prod.snd (b.toList.filter fun e => (holes (scan query)).contains e.1)).length =
      (b.names.filter (holes (scan query)).contains).length := by
    simpa using congrArg List.length agree
  refine ⟨render_scan query, _, pairwise_used b query, same, _, fills, agree, rfl, ?_, ?_, ?_, ?_, ?_⟩
  · intro name hole
    have hi := List.idxOf_lt_length_iff.mpr ((same name).mpr hole)
    rw [Filled.args, getElem?_of_map_some agree hi, List.getElem_idxOf]
  · intro n
    rw [Filled.args, size]
    exact mem_map_number_iff distinct same n
  · intro name hole name' _
    exact List.idxOf_inj ((same name).mpr hole)
  · intro pre name c post split
    cases digit : c.isDigit with
    | false => rfl
    | true =>
      have tail := isTail_of_isDigit digit
      rw [isTail_after_hole split] at tail
      cases tail
  · intro b' sameKeys
    rw [map_text_fill_of_names (NameMap.names_eq_of_mem_iff sameKeys) query, fills]
    rfl

/-- A binding of two names. -/
def pairBinding : Binding := (NameMap.empty.insert "x" "1").insert "y" "3"

theorem fill_numbers_used_names_pair :
    (∀ k ∈ pairBinding.names, ArgName.isValid k = true) ∧
    (∀ name ∈ holes (scan "select f(:y, :x, :y)"), name ∈ pairBinding.names) ∧
    render (scan "select f(:y, :x, :y)") = "select f(:y, :x, :y)" :=
  have valid : ∀ k ∈ pairBinding.names, ArgName.isValid k = true := by decide +kernel
  have bound : ∀ name ∈ holes (scan "select f(:y, :x, :y)"), name ∈ pairBinding.names := by
    decide +kernel
  ⟨valid, bound, (fill_numbers_used_names pairBinding _ valid bound).1⟩

example : fill pairBinding "select f(:y, :x, :y)" =
    .ok ⟨"select f($2, $1, $2)", [("x", "1"), ("y", "3")]⟩ := by
  cbv

example : holes (scan "select :a, ':b', :c::int -- :d\n/* :e /* */ :f */ :g_1x") =
    ["a", "c", "g_1x"] := by
  decide +kernel

section refill

theorem text_of_fill_eq_ok {b : Binding} {query : String} {filled : Filled}
    (fills : fill b query = .ok filled) :
    ∃ number, filled.text = String.ofList ((scan query).flatMap (Piece.numbered number)) := by
  unfold fill at fills
  split at fills
  · cases fills
  · dsimp only at fills
    split at fills
    · cases fills
    · cases fills
      exact ⟨_, rfl⟩

theorem flatMap_numbered_of_holes_eq_nil {ps : List Piece} (none : holes ps = [])
    (number : String → Nat) : ps.flatMap (Piece.numbered number) = ps.flatMap Piece.text := by
  induction ps with
  | nil => rfl
  | cons p ps ih =>
    cases p with
    | lit c =>
      have rest : holes ps = [] := by simpa [holes] using none
      simp [Piece.numbered, Piece.text, ih rest]
    | hole name => simp [holes] at none

/-- A query without placeholders fills to itself, with no parameters. -/
theorem fill_of_holes_eq_nil (b : Binding) (valid : ∀ k ∈ b.names, ArgName.isValid k = true)
    {text : String} (none : holes (scan text) = []) : fill b text = .ok ⟨text, []⟩ := by
  simp only [fill, find?_badName_eq_none b valid, none, List.find?_nil,
    flatMap_numbered_of_holes_eq_nil none]
  rw [← render, render_scan]
  simp

/-- Filling is idempotent: the filled text of a query holds no placeholder, so filling it
from any instance with valid names gives back the same text with no parameters. -/
theorem fill_filled_text (b : Binding) (query : String) (filled : Filled)
    (fills : fill b query = .ok filled) :
    holes (scan filled.text) = [] ∧
      ∀ b' : Binding, (∀ k ∈ b'.names, ArgName.isValid k = true) →
        fill b' filled.text = .ok ⟨filled.text, []⟩ := by
  obtain ⟨number, text⟩ := text_of_fill_eq_ok fills
  have none : holes (scan filled.text) = [] := text ▸ holes_scan_numbered number query
  exact ⟨none, fun b' valid => fill_of_holes_eq_nil b' valid none⟩

theorem fill_filled_text_pair :
    fill pairBinding "select ':x', :y::int" = .ok ⟨"select ':x', $1::int", [("y", "3")]⟩ ∧
      holes (scan "select ':x', $1::int") = [] :=
  have fills : fill pairBinding "select ':x', :y::int" =
      .ok ⟨"select ':x', $1::int", [("y", "3")]⟩ := by
    cbv
  ⟨fills, (fill_filled_text pairBinding _ _ fills).1⟩

end refill

end JobMatrix.Query

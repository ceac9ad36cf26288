import Mathlib.Data.List.Chain
import JobMatrix.Query.Fill

/-!
The scanner of query templates. Printing the pieces back gives the query, so the pieces cut a
query into literal text and placeholders. A placeholder name runs as far as name characters
go: the piece after a placeholder is never a literal name character. And the text that filling
writes, where each placeholder becomes `$` and the digits of a number, scans back to literal
pieces alone: no lookahead of the scanner sees anything new, so the filled text holds no
placeholder.
-/

namespace JobMatrix.Query

theorem flatMap_text_scanFrom (m : Mode) (cs : List Char) :
    (scanFrom m cs).flatMap Piece.text = cs := by
  fun_induction scanFrom m cs with
  | case7 c rest _ _ ih => simp [Piece.text, ih]
  | _ => simp_all [Piece.text]

/-- The pieces of a query print back to the query. -/
theorem render_scan (query : String) : render (scan query) = query := by
  rw [render, scan, flatMap_text_scanFrom, String.ofList_toList]

/-- The first piece is the first character as a literal, unless a colon starts a placeholder in
ordinary text. -/
theorem head?_scanFrom (m : Mode) (cs : List Char) :
    (scanFrom m cs).head? = cs.head?.map .lit ∨
      (m = .code ∧ cs.head? = some ':' ∧ ∃ name, (scanFrom m cs).head? = some (.hole name)) := by
  fun_induction scanFrom m cs <;> simp_all

section names

/-- Two neighbouring pieces where the second cannot continue a name that the first ends: a
placeholder is never followed by a literal name character. -/
def NameEnds : Piece → Piece → Prop
  | .hole _, .lit c => ArgName.isTail c = false
  | _, _ => True

theorem nameEnds_hole_scanFrom {rest : List Char}
    (stops : ∀ d ∈ rest.head?, ArgName.isTail d = false) (name : String) :
    ∀ p ∈ (scanFrom .code rest).head?, NameEnds (.hole name) p := by
  intro p first
  rcases head?_scanFrom .code rest with same | ⟨-, -, other, hole⟩
  · rw [same] at first
    obtain ⟨d, hd, rfl⟩ := Option.map_eq_some_iff.mp first
    exact stops d hd
  · rw [hole, Option.mem_def, Option.some.injEq] at first
    subst first
    trivial

theorem isTail_head?_dropWhile (cs : List Char) :
    ∀ d ∈ (cs.dropWhile ArgName.isTail).head?, ArgName.isTail d = false := by
  intro d first
  have stops := List.head?_dropWhile_not ArgName.isTail cs
  rw [Option.mem_def.mp first] at stops
  exact stops

theorem isChain_scanFrom (m : Mode) (cs : List Char) : (scanFrom m cs).IsChain NameEnds := by
  fun_induction scanFrom m cs with
  | case7 c rest _ _ ih => exact ih.cons (nameEnds_hole_scanFrom (isTail_head?_dropWhile rest) _)
  | _ => simp_all [List.isChain_cons, NameEnds]

/-- A placeholder name is maximal: the character right after it is no name character. -/
theorem isTail_after_hole {query : String} {pre post : List Piece} {name : String} {c : Char}
    (split : scan query = pre ++ .hole name :: .lit c :: post) : ArgName.isTail c = false :=
  List.isChain_iff_forall_rel_of_append_cons_cons.mp (isChain_scanFrom .code query.toList) split

end names

section plain

/-- A character that ordinary query text reads as itself, whatever follows it. -/
def Plain (c : Char) : Prop :=
  c ≠ '\'' ∧ c ≠ '"' ∧ c ≠ '-' ∧ c ≠ '/' ∧ c ≠ ':'

theorem plain_dollar : Plain '$' := by
  unfold Plain
  decide

theorem plain_of_isDigit {c : Char} (digit : c.isDigit = true) : Plain c := by
  refine ⟨?_, ?_, ?_, ?_, ?_⟩ <;> (rintro rfl; revert digit; decide)

theorem scanFrom_code_plain {c : Char} (plain : Plain c) (rest : List Char) :
    scanFrom .code (c :: rest) = .lit c :: scanFrom .code rest :=
  scanFrom.eq_8 c rest plain.1 plain.2.1 (fun _ h _ => plain.2.2.1 h) (fun _ h _ => plain.2.2.2.1 h)
    (fun _ h _ => plain.2.2.2.2 h) (fun _ _ h _ => plain.2.2.2.2 h)

theorem scanFrom_code_append_plain (xs rest : List Char) (plain : ∀ c ∈ xs, Plain c) :
    scanFrom .code (xs ++ rest) = xs.map .lit ++ scanFrom .code rest := by
  induction xs with
  | nil => rfl
  | cons c xs ih =>
    rw [List.cons_append, scanFrom_code_plain (plain c (by simp)),
      ih (fun d member => plain d (by simp [member]))]
    rfl

theorem plain_numbered (number : String → Nat) (name : String) :
    ∀ c ∈ Piece.numbered number (.hole name), Plain c := by
  intro c member
  simp only [Piece.numbered, List.mem_cons, Nat.toList_repr] at member
  rcases member with rfl | digit
  · exact plain_dollar
  · exact plain_of_isDigit (Nat.isDigit_of_mem_toDigits (by decide) (by decide) digit)

end plain

/-- The modes that ordinary text can reach: quoted text is opened by a single or a double
quote. -/
def Mode.Opened : Mode → Prop
  | .quoted q => q = '\'' ∨ q = '"'
  | _ => True

section rescan

variable (number : String → Nat)

theorem head?_numbered (m : Mode) (cs : List Char) :
    ((scanFrom m cs).flatMap (Piece.numbered number)).head? = cs.head? ∨
      (m = .code ∧ cs.head? = some ':' ∧
        ((scanFrom m cs).flatMap (Piece.numbered number)).head? = some '$') := by
  rcases head?_scanFrom m cs with first | ⟨code, colon, name, hole⟩
  · left
    cases pieces : scanFrom m cs with
    | nil => cases cs <;> simp_all
    | cons p ps => cases cs <;> simp_all [Piece.numbered]
  · right
    cases pieces : scanFrom m cs with
    | nil => simp_all
    | cons p ps => simp_all [Piece.numbered]

theorem not_cons_numbered {m : Mode} {cs : List Char} {d : Char} (other : d ≠ '$')
    (absent : ∀ r, cs = d :: r → False) :
    ∀ r, (scanFrom m cs).flatMap (Piece.numbered number) = d :: r → False := by
  intro r filled
  rcases head?_numbered number m cs with same | ⟨-, -, dollar⟩
  · rw [filled, List.head?_cons, eq_comm, List.head?_eq_some_iff] at same
    obtain ⟨rest, starts⟩ := same
    exact absent rest starts
  · rw [filled, List.head?_cons, Option.some.injEq] at dollar
    exact other dollar

/-- The lookahead of an ordinary character only looks for `-`, `*` and `:`, none of which the filled
text has where the original did not. -/
theorem scanFrom_code_cons_numbered {c : Char} {rest : List Char} (quote : c ≠ '\'' ∧ c ≠ '"')
    (dash : ∀ r, c = '-' → rest = '-' :: r → False) (slash : ∀ r, c = '/' → rest = '*' :: r → False)
    (colon : ∀ d r, c = ':' → rest = d :: r → False) :
    scanFrom .code (c :: (scanFrom .code rest).flatMap (Piece.numbered number)) =
      .lit c :: scanFrom .code ((scanFrom .code rest).flatMap (Piece.numbered number)) := by
  have last : c = ':' → (scanFrom .code rest).flatMap (Piece.numbered number) = [] := by
    intro isColon
    cases rest with
    | nil => simp [scanFrom]
    | cons d r => exact (colon d r isColon rfl).elim
  refine scanFrom.eq_8 c _ quote.1 quote.2 ?_ ?_ ?_ ?_
  · exact fun r isDash => not_cons_numbered number (by decide) (fun r' => dash r' isDash) r
  · exact fun r isSlash => not_cons_numbered number (by decide) (fun r' => slash r' isSlash) r
  · intro r isColon filled
    simp [last isColon] at filled
  · intro d r isColon filled
    simp [last isColon] at filled

theorem scanFrom_block_cons_numbered {depth : Nat} {c : Char} {rest : List Char}
    (slash : ∀ r, c = '/' → rest = '*' :: r → False) (star : ∀ r, c = '*' → rest = '/' :: r → False) :
    scanFrom (.block depth) (c :: (scanFrom (.block depth) rest).flatMap (Piece.numbered number)) =
      .lit c :: scanFrom (.block depth) ((scanFrom (.block depth) rest).flatMap
        (Piece.numbered number)) :=
  scanFrom.eq_14 depth c _
    (fun r isSlash => not_cons_numbered number (by decide) (fun r' => slash r' isSlash) r)
    (fun r isStar => not_cons_numbered number (by decide) (fun r' => star r' isStar) r)

/-- Scanning the filled text from the mode the original was scanned in gives literals only: the
scanner walks both texts in step, and a placeholder becomes plain characters. -/
theorem scanFrom_numbered (m : Mode) (opened : m.Opened) (cs : List Char) :
    scanFrom m ((scanFrom m cs).flatMap (Piece.numbered number)) =
      ((scanFrom m cs).flatMap (Piece.numbered number)).map .lit := by
  fun_induction scanFrom m cs with
  | case1 => simp [scanFrom]
  | case2 rest ih => simp [Piece.numbered, scanFrom, ih (Or.inl rfl)]
  | case3 rest ih => simp [Piece.numbered, scanFrom, ih (Or.inr rfl)]
  | case4 rest ih => simp [Piece.numbered, scanFrom, ih trivial]
  | case5 rest ih => simp [Piece.numbered, scanFrom, ih trivial]
  | case6 rest ih => simp [Piece.numbered, scanFrom, ih trivial]
  | case7 c rest _ _ ih =>
    rw [List.flatMap_cons, scanFrom_code_append_plain _ _ (plain_numbered number _), ih trivial,
      List.map_append]
  | case8 c rest notColon notHead ih =>
    have first : ((scanFrom .code (c :: rest)).flatMap (Piece.numbered number)).head? = some c := by
      rcases head?_numbered number .code (c :: rest) with same | ⟨-, colon, -⟩
      · exact same
      · exact absurd (Option.some.inj colon) notColon
    obtain ⟨tail, filled⟩ := List.head?_eq_some_iff.mp first
    rw [List.flatMap_cons, Piece.numbered, filled, List.singleton_append,
      scanFrom.eq_7 c tail notColon, if_neg notHead, ← filled, ih trivial]
    rfl
  | case9 c rest quote1 quote2 dash slash _ colon ih =>
    rw [List.flatMap_cons, Piece.numbered, List.singleton_append,
      scanFrom_code_cons_numbered number ⟨quote1, quote2⟩ dash slash colon, ih trivial]
    rfl
  | case10 q rest ih => simp [Piece.numbered, scanFrom, ih opened]
  | case11 q d rest other ih =>
    obtain ⟨e, first, closes⟩ : ∃ e, ((scanFrom .code (d :: rest)).flatMap
        (Piece.numbered number)).head? = some e ∧ e ≠ q := by
      rcases head?_numbered number .code (d :: rest) with same | ⟨-, -, dollar⟩
      · exact ⟨d, same, other⟩
      · refine ⟨'$', dollar, ?_⟩
        rcases opened with rfl | rfl <;> decide
    obtain ⟨tail, filled⟩ := List.head?_eq_some_iff.mp first
    rw [List.flatMap_cons, Piece.numbered, filled, List.singleton_append, scanFrom.eq_9,
      if_pos rfl, if_neg closes, ← filled, ih trivial]
    rfl
  | case12 q c d rest inside ih =>
    have first : ((scanFrom (.quoted q) (d :: rest)).flatMap (Piece.numbered number)).head? =
        some d := by
      rcases head?_numbered number (.quoted q) (d :: rest) with same | ⟨code, -, -⟩
      · exact same
      · cases code
    obtain ⟨tail, filled⟩ := List.head?_eq_some_iff.mp first
    rw [List.flatMap_cons, Piece.numbered, filled, List.singleton_append, scanFrom.eq_9,
      if_neg inside, ← filled, ih opened]
    rfl
  | case13 q c => simp [Piece.numbered, scanFrom]
  | case14 rest ih => simp [Piece.numbered, scanFrom, ih trivial]
  | case15 c rest notBreak ih => simp [Piece.numbered, scanFrom, notBreak, ih trivial]
  | case16 depth rest ih => simp [Piece.numbered, scanFrom, ih trivial]
  | case17 depth rest ih =>
    have closed : (if depth ≤ 1 then Mode.code else .block (depth - 1)).Opened := by
      split <;> trivial
    simp only [dite_eq_ite] at ih
    simp [Piece.numbered, scanFrom, ih closed]
  | case18 depth c rest slash star ih =>
    rw [List.flatMap_cons, Piece.numbered, List.singleton_append,
      scanFrom_block_cons_numbered number slash star, ih trivial]
    rfl

theorem holes_scan_numbered (query : String) :
    holes (scan (String.ofList ((scan query).flatMap (Piece.numbered number)))) = [] := by
  unfold scan
  rw [String.toList_ofList, scanFrom_numbered number .code trivial]
  simp [holes]

end rescan

end JobMatrix.Query

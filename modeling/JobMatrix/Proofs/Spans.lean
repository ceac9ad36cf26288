import JobMatrix.Proofs.Template
import JobMatrix.Proofs.Fill
import JobMatrix.Proofs.ByteOrder
import JobMatrix.Proofs.Env

/-!
Placeholders as byte ranges of the query. Each placeholder covers the bytes from its colon to
the end of its name, counted in UTF-8. The ranges come in query order, one after the other and
apart; each lies inside the query, starts at a colon that is followed by exactly the bytes of a
valid name, and ends at the end of the query or before a byte that cannot continue a name. The
colon and every name character take one byte, so both ends of a range, and the byte after the
colon, are character boundaries. Cutting the query at these places never splits a character,
and filling numbers every placeholder it cuts out.
-/

namespace JobMatrix

namespace ArgName

/-- A byte that can continue a name: an ASCII letter, digit or underscore. Read as a character,
a byte past ASCII is none of these. -/
def isTailByte (b : UInt8) : Bool :=
  isTail (Char.ofNat b.toNat)

/-- The leading byte of a character's encoding is the character itself below 128, and 128 or more
above. -/
theorem head_utf8EncodeChar (c : Char) : ∃ x xs, String.utf8EncodeChar c = x :: xs ∧
    (c.toNat < 128 → x.toNat = c.toNat) ∧ (128 ≤ c.toNat → 128 ≤ x.toNat) := by
  have top : c.val.toNat < 0x110000 := by
    rcases c.valid with low | ⟨-, high⟩ <;> simp only [UInt32.toNat] at * <;> omega
  change ∃ (x : UInt8) (xs : List UInt8), String.utf8EncodeChar c = x :: xs ∧
    (c.val.toNat < 128 → x.toNat = c.val.toNat) ∧ (128 ≤ c.val.toNat → 128 ≤ x.toNat)
  simp only [String.utf8EncodeChar]
  generalize c.val.toNat = v at *
  split_ifs <;> refine ⟨_, _, rfl, ?_, ?_⟩ <;> simp only [UInt8.toNat_ofNat'] <;> omega

theorem isTailByte_head_utf8EncodeChar (c : Char) :
    ∃ x xs, String.utf8EncodeChar c = x :: xs ∧ isTailByte x = isTail c := by
  obtain ⟨x, xs, encode, ascii, above⟩ := head_utf8EncodeChar c
  refine ⟨x, xs, encode, ?_⟩
  by_cases small : c.toNat < 128
  · rw [isTailByte, ascii small, Char.ofNat_toNat]
  · have high := above (by omega)
    have byteHigh : 128 ≤ (Char.ofNat x.toNat).toNat := by
      have := x.toNat_lt
      simp only [Char.toNat_ofNat, Nat.isValidChar]
      split_ifs <;> omega
    have notTail : ∀ d : Char, 128 ≤ d.toNat → isTail d = false :=
      fun d big => Bool.eq_false_iff.mpr fun tail => by have := toNat_lt_of_isTail tail; omega
    rw [isTailByte, notTail _ byteHigh, notTail c (by omega)]

end ArgName

def utf8Bytes (s : String) : List UInt8 :=
  s.toByteArray.data.toList

theorem utf8Bytes_eq (s : String) : utf8Bytes s = s.toList.flatMap String.utf8EncodeChar :=
  toByteArray_toList s

theorem utf8Bytes_append (s t : String) : utf8Bytes (s ++ t) = utf8Bytes s ++ utf8Bytes t := by
  simp [utf8Bytes_eq]

theorem length_utf8Bytes (s : String) : (utf8Bytes s).length = s.utf8ByteSize := rfl

theorem utf8Bytes_colon : utf8Bytes ":" = [':'.toUInt8] := by
  decide

/-- Where a text is cut into three, the middle one is the bytes between the two cuts, and both
cuts are character boundaries. -/
theorem utf8Bytes_middle {q a m z : String} (cut : q = a ++ m ++ z) :
    ((utf8Bytes q).drop a.utf8ByteSize).take m.utf8ByteSize = utf8Bytes m ∧
      String.Pos.Raw.IsValid q ⟨a.utf8ByteSize⟩ ∧
      String.Pos.Raw.IsValid q ⟨a.utf8ByteSize + m.utf8ByteSize⟩ := by
  refine ⟨?_, ?_, ?_⟩
  · rw [cut, utf8Bytes_append, utf8Bytes_append, ← length_utf8Bytes a, List.append_assoc,
      List.drop_left, ← length_utf8Bytes m, List.take_left]
  · refine String.Pos.Raw.isValid_iff_exists_append.mpr ⟨a, m ++ z, ?_, rfl⟩
    rw [cut, String.append_assoc]
  · refine String.Pos.Raw.isValid_iff_exists_append.mpr ⟨a ++ m, z, cut, ?_⟩
    rw [String.Pos.Raw.ext_iff, String.byteIdx_rawEndPos, String.utf8ByteSize_append]

theorem utf8ByteSize_colon : (":" : String).utf8ByteSize = 1 := by
  decide

/-- A colon and a name cut out of a text at byte `start`: the colon is the byte at the cut, the
name the bytes after it, and the cut, the byte after the colon and the end of the name are
character boundaries. -/
theorem utf8Bytes_colon_name {q a name z : String} {start : Nat}
    (cut : q = a ++ (":" ++ name) ++ z) (begins : start = a.utf8ByteSize) :
    (utf8Bytes q)[start]? = some ':'.toUInt8 ∧
      ((utf8Bytes q).drop (start + 1)).take name.utf8ByteSize = utf8Bytes name ∧
      String.Pos.Raw.IsValid q ⟨start⟩ ∧ String.Pos.Raw.IsValid q ⟨start + 1⟩ ∧
      String.Pos.Raw.IsValid q ⟨start + 1 + name.utf8ByteSize⟩ := by
  subst begins
  have atColon : q = a ++ ":" ++ (name ++ z) := by rw [cut]; simp only [String.append_assoc]
  have atName : q = (a ++ ":") ++ name ++ z := by rw [cut]; simp only [String.append_assoc]
  obtain ⟨colon, before, -⟩ := utf8Bytes_middle atColon
  obtain ⟨named, afterColon, afterName⟩ := utf8Bytes_middle atName
  rw [String.utf8ByteSize_append, utf8ByteSize_colon] at named afterColon afterName
  rw [utf8ByteSize_colon, utf8Bytes_colon] at colon
  refine ⟨?_, named, before, afterColon, afterName⟩
  rw [← List.head?_drop]
  simpa [List.head?_take] using congrArg List.head? colon

/-- Where the text after byte `stop` does not start with a name character, `stop` is the end of
the text or stands before a byte that cannot continue a name. -/
theorem stop_of_not_isTail {q a z : String} {stop : Nat} (cut : q = a ++ z)
    (ends : stop = a.utf8ByteSize) (after : ∀ c ∈ z.toList.head?, ArgName.isTail c = false) :
    stop = q.utf8ByteSize ∨ ∃ x, (utf8Bytes q)[stop]? = some x ∧ ArgName.isTailByte x = false := by
  subst ends
  cases rest : z.toList with
  | nil =>
    left
    rw [cut, String.utf8ByteSize_append, String.toList_eq_nil_iff.mp rest,
      String.utf8ByteSize_empty, Nat.add_zero]
  | cons c cs =>
    right
    obtain ⟨x, xs, encode, same⟩ := ArgName.isTailByte_head_utf8EncodeChar c
    refine ⟨x, ?_, same.trans (after c (by simp [rest]))⟩
    rw [cut, utf8Bytes_append, ← length_utf8Bytes a, List.getElem?_append_right le_rfl,
      Nat.sub_self, utf8Bytes_eq z, rest, List.flatMap_cons, encode]
    rfl

namespace Query

/-- A placeholder of a query: its name, and the bytes it covers, from its colon up to the end
of its name. -/
structure Placeholder where
  name : String
  start : Nat
  stop : Nat
  deriving DecidableEq, Repr

/-- The placeholders of pieces whose text starts at byte `start`. -/
def placeholdersFrom : Nat → List Piece → List Placeholder
  | _, [] => []
  | start, .lit c :: ps => placeholdersFrom (start + c.utf8Size) ps
  | start, .hole name :: ps =>
    ⟨name, start, start + 1 + name.utf8ByteSize⟩ ::
      placeholdersFrom (start + 1 + name.utf8ByteSize) ps

def placeholders (query : String) : List Placeholder :=
  placeholdersFrom 0 (scan query)

@[simp] theorem holes_nil : holes [] = [] := rfl

@[simp] theorem holes_lit (c : Char) (ps : List Piece) : holes (.lit c :: ps) = holes ps := rfl

@[simp] theorem holes_hole (name : String) (ps : List Piece) :
    holes (.hole name :: ps) = name :: holes ps := rfl

@[simp] theorem holes_append (ps qs : List Piece) : holes (ps ++ qs) = holes ps ++ holes qs :=
  List.filterMap_append

theorem utf8ByteSize_lit_text (c : Char) :
    (String.ofList (Piece.lit c).text).utf8ByteSize = c.utf8Size := by
  rw [Piece.text, ← String.singleton_eq_ofList, String.utf8ByteSize_singleton]

theorem utf8ByteSize_hole_text (name : String) :
    (String.ofList (Piece.hole name).text).utf8ByteSize = 1 + name.utf8ByteSize := by
  rw [Piece.text, String.ofList_cons, String.utf8ByteSize_append, String.ofList_toList,
    String.utf8ByteSize_singleton]
  rfl

theorem render_cons (p : Piece) (ps : List Piece) :
    render (p :: ps) = String.ofList p.text ++ render ps := by
  rw [render, render, List.flatMap_cons, String.ofList_append]

theorem render_append (ps qs : List Piece) : render (ps ++ qs) = render ps ++ render qs := by
  rw [render, render, render, List.flatMap_append, String.ofList_append]

theorem map_name_placeholdersFrom (start : Nat) (ps : List Piece) :
    (placeholdersFrom start ps).map (·.name) = holes ps := by
  induction ps generalizing start with
  | nil => rfl
  | cons p ps ih =>
    cases p with
    | lit c => simp [placeholdersFrom, holes, ih]
    | hole name => simp [placeholdersFrom, holes, ih]

theorem le_start_of_mem_placeholdersFrom {start : Nat} {ps : List Piece} {p : Placeholder}
    (member : p ∈ placeholdersFrom start ps) : start ≤ p.start := by
  induction ps generalizing start with
  | nil => cases member
  | cons q ps ih =>
    cases q with
    | lit c =>
      have later := ih member
      omega
    | hole name =>
      rcases List.mem_cons.mp member with rfl | later
      · exact le_rfl
      · have := ih later
        omega

/-- Each placeholder ends at or before the start of the next. -/
theorem pairwise_placeholdersFrom (start : Nat) (ps : List Piece) :
    (placeholdersFrom start ps).Pairwise (fun p p' => p.stop ≤ p'.start) := by
  induction ps generalizing start with
  | nil => exact List.Pairwise.nil
  | cons q ps ih =>
    cases q with
    | lit c => exact ih _
    | hole name =>
      refine List.pairwise_cons.mpr ⟨fun p member => ?_, ih _⟩
      exact le_start_of_mem_placeholdersFrom member

/-- A placeholder is a placeholder piece; it starts where the text of the pieces before it ends,
and covers the colon and the name. -/
theorem split_of_mem_placeholdersFrom {start : Nat} {ps : List Piece} {p : Placeholder}
    (member : p ∈ placeholdersFrom start ps) : ∃ pre post, ps = pre ++ .hole p.name :: post ∧
      p.start = start + (render pre).utf8ByteSize ∧ p.stop = p.start + 1 + p.name.utf8ByteSize := by
  induction ps generalizing start with
  | nil => cases member
  | cons q ps ih =>
    cases q with
    | lit c =>
      obtain ⟨pre, post, split, begins, ends⟩ := ih member
      refine ⟨.lit c :: pre, post, by rw [split, List.cons_append], ?_, ends⟩
      rw [begins, render_cons, String.utf8ByteSize_append, utf8ByteSize_lit_text]
      omega
    | hole name =>
      rcases List.mem_cons.mp member with rfl | later
      · exact ⟨[], ps, rfl, rfl, rfl⟩
      · obtain ⟨pre, post, split, begins, ends⟩ := ih later
        refine ⟨.hole name :: pre, post, by rw [split, List.cons_append], ?_, ends⟩
        rw [begins, render_cons, String.utf8ByteSize_append, utf8ByteSize_hole_text]
        omega

theorem isValid_of_mem_holes_scanFrom (m : Mode) (cs : List Char) :
    ∀ name ∈ holes (scanFrom m cs), ArgName.isValid name = true := by
  fun_induction scanFrom m cs with
  | case7 c rest _ head ih =>
    rw [holes_hole, List.forall_mem_cons]
    refine ⟨?_, ih⟩
    simp only [ArgName.isValid, String.toList_ofList, ArgName.isValidList, head,
      Bool.true_and, List.all_eq_true]
    exact fun d taken => List.mem_takeWhile_imp taken
  | _ => simp_all

theorem isTail_head_after_hole {query : String} {pre post : List Piece} {name : String}
    (split : scan query = pre ++ .hole name :: post) :
    ∀ c ∈ (render post).toList.head?, ArgName.isTail c = false := by
  intro c first
  rw [render, String.toList_ofList] at first
  cases post with
  | nil => cases first
  | cons p post =>
    have ends : NameEnds (.hole name) p :=
      List.isChain_iff_forall_rel_of_append_cons_cons.mp (isChain_scanFrom .code query.toList) split
    cases p with
    | lit d =>
      simp only [List.flatMap_cons, Piece.text, List.singleton_append, List.head?_cons,
        Option.mem_def, Option.some.injEq] at first
      exact first ▸ ends
    | hole other =>
      simp only [List.flatMap_cons, Piece.text, List.cons_append, List.head?_cons,
        Option.mem_def, Option.some.injEq] at first
      rw [← first]
      decide

theorem ofList_hole_text (name : String) : String.ofList (Piece.hole name).text = ":" ++ name := by
  rw [Piece.text, String.ofList_cons, String.ofList_toList]
  rfl

/-- A placeholder is a placeholder piece of the query: the query is the text before it, the
colon and the name, and the text after it, and the placeholder covers the colon and the name. -/
theorem cut_of_mem_placeholders {query : String} {p : Placeholder}
    (member : p ∈ placeholders query) :
    ∃ pre post, scan query = pre ++ .hole p.name :: post ∧
      query = render pre ++ (":" ++ p.name) ++ render post ∧
      p.start = (render pre).utf8ByteSize ∧ p.stop = p.start + 1 + p.name.utf8ByteSize := by
  obtain ⟨pre, post, split, begins, ends⟩ := split_of_mem_placeholdersFrom member
  refine ⟨pre, post, split, ?_, by rw [begins, Nat.zero_add], ends⟩
  have whole := render_scan query
  rw [split, render_append, render_cons, ofList_hole_text] at whole
  rw [← whole]
  simp only [String.append_assoc]

/-- Filling numbers every placeholder: each name the query uses is among the parameters. -/
theorem mem_params_of_fill {b : Binding} {query : String} {filled : Filled}
    (fills : fill b query = .ok filled) :
    ∀ name ∈ holes (scan query), name ∈ filled.params.map Prod.fst := by
  unfold fill at fills
  split at fills
  · cases fills
  · dsimp only at fills
    split at fills
    · cases fills
    · rename_i unbound
      cases fills
      intro name hole
      rw [names_params, List.mem_filter, List.contains_iff_mem]
      refine ⟨?_, hole⟩
      simpa [NameMap.contains_iff] using List.find?_eq_none.mp unbound name hole

/-- What one placeholder covers: a colon and a valid name, ending at the end of the query or
before a byte that cannot continue the name, with character boundaries at both ends and after
the colon. -/
theorem placeholder_in_query {query : String} {p : Placeholder}
    (member : p ∈ placeholders query) :
    p.start < p.stop ∧ p.stop ≤ query.utf8ByteSize ∧
      (utf8Bytes query)[p.start]? = some ':'.toUInt8 ∧
      ((utf8Bytes query).drop (p.start + 1)).take (p.stop - (p.start + 1)) = utf8Bytes p.name ∧
      ArgName.isValid p.name = true ∧
      (p.stop = query.utf8ByteSize ∨
        ∃ x, (utf8Bytes query)[p.stop]? = some x ∧ ArgName.isTailByte x = false) ∧
      String.Pos.Raw.IsValid query ⟨p.start⟩ ∧ String.Pos.Raw.IsValid query ⟨p.start + 1⟩ ∧
      String.Pos.Raw.IsValid query ⟨p.stop⟩ := by
  obtain ⟨pre, post, split, cut, begins, ends⟩ := cut_of_mem_placeholders member
  obtain ⟨colon, named, before, afterColon, afterName⟩ := utf8Bytes_colon_name cut begins
  have atStop : p.stop = (render pre ++ (":" ++ p.name)).utf8ByteSize := by
    rw [String.utf8ByteSize_append, String.utf8ByteSize_append, utf8ByteSize_colon, ends, begins,
      Nat.add_assoc]
  have stop := stop_of_not_isTail cut atStop (isTail_head_after_hole split)
  have size : query.utf8ByteSize = p.stop + (render post).utf8ByteSize := by
    rw [atStop, ← String.utf8ByteSize_append, ← cut]
  have valid : ArgName.isValid p.name = true := by
    refine isValid_of_mem_holes_scanFrom .code query.toList p.name ?_
    rw [← scan, split]
    simp
  rw [← ends] at afterName
  rw [show p.stop - (p.start + 1) = p.name.utf8ByteSize by omega]
  exact ⟨by omega, by omega, colon, named, valid, stop, before, afterColon, afterName⟩

/-- The placeholders of a query are its placeholder pieces, in query order, as byte ranges. They
follow one another without overlap. Each starts at a colon inside the query, followed by exactly
the bytes of a valid name, and ends at the end of the query or before a byte that cannot continue
a name; the start, the byte after the colon and the end are character boundaries. So every cut
that filling makes (the text before a placeholder, its name, the text after the last one) is
inside the query and on character boundaries, and when filling succeeds, every placeholder has
a number. -/
theorem placeholder_spans_safe (b : Binding) (query : String) :
    (placeholders query).map (·.name) = holes (scan query) ∧
    (placeholders query).Pairwise (fun p p' => p.stop ≤ p'.start) ∧
    (∀ p ∈ placeholders query, p.start < p.stop ∧ p.stop ≤ query.utf8ByteSize ∧
      (utf8Bytes query)[p.start]? = some ':'.toUInt8 ∧
      ((utf8Bytes query).drop (p.start + 1)).take (p.stop - (p.start + 1)) = utf8Bytes p.name ∧
      ArgName.isValid p.name = true ∧
      (p.stop = query.utf8ByteSize ∨
        ∃ x, (utf8Bytes query)[p.stop]? = some x ∧ ArgName.isTailByte x = false) ∧
      String.Pos.Raw.IsValid query ⟨p.start⟩ ∧ String.Pos.Raw.IsValid query ⟨p.start + 1⟩ ∧
      String.Pos.Raw.IsValid query ⟨p.stop⟩) ∧
    ∀ filled, fill b query = .ok filled →
      ∀ p ∈ placeholders query, p.name ∈ filled.params.map Prod.fst := by
  refine ⟨map_name_placeholdersFrom 0 _, pairwise_placeholdersFrom 0 _,
    fun p member => placeholder_in_query member, fun filled fills p member => ?_⟩
  refine mem_params_of_fill fills p.name ?_
  rw [← map_name_placeholdersFrom 0 (scan query)]
  exact List.mem_map_of_mem member

example : placeholders "é:x, ':y', :zé" = [⟨"x", 2, 4⟩, ⟨"z", 12, 14⟩] := by
  decide +kernel

end Query

end JobMatrix

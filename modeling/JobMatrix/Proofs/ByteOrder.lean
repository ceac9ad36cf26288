import Mathlib.Data.String.Basic
import JobMatrix.Proofs.NameMap

/-!
Names are ordered as strings, character by character: a name map keeps its names in this
order, so filling a query numbers the used names and finds the least invalid name by it. This is
also the order of their UTF-8 bytes: encoding a character keeps its code point's order, leading byte first, and the byte order
of two encoded strings is settled at the first character where they differ. So a name map lists
its names in ascending byte order, and the least name of a set is the least in byte order.
-/

namespace JobMatrix

/-- Two byte strings that agree up to one place and are smaller there on the left. -/
def Diverges (u v : List UInt8) : Prop :=
  ∃ p x y xs ys, u = p ++ x :: xs ∧ v = p ++ y :: ys ∧ x < y

theorem diverges_head {x y : UInt8} (lt : x < y) (xs ys : List UInt8) :
    Diverges (x :: xs) (y :: ys) :=
  ⟨[], x, y, xs, ys, rfl, rfl, lt⟩

theorem Diverges.cons {u v : List UInt8} (d : Diverges u v) (x : UInt8) :
    Diverges (x :: u) (x :: v) := by
  obtain ⟨p, a, b, as, bs, rfl, rfl, lt⟩ := d
  exact ⟨x :: p, a, b, as, bs, rfl, rfl, lt⟩

theorem Diverges.lt_append {u v : List UInt8} (d : Diverges u v) (s t : List UInt8) :
    u ++ s < v ++ t := by
  obtain ⟨p, x, y, xs, ys, rfl, rfl, lt⟩ := d
  have first : List.Lex (· < ·) (x :: (xs ++ s)) (y :: (ys ++ t)) := List.Lex.rel lt
  simpa using List.Lex.append_left _ first p

theorem uint8_ofNat_lt {x y : Nat} (hy : y < 256) (lt : x < y) :
    UInt8.ofNat x < UInt8.ofNat y := by
  rw [UInt8.lt_iff_toNat_lt, UInt8.toNat_ofNat', UInt8.toNat_ofNat']
  omega

/-- One byte at most its counterpart: the rest decides when the two are equal. -/
theorem diverges_digits {x y : Nat} (hy : y < 256) (xs ys : List UInt8)
    (rest : x = y → Diverges xs ys) (le : x ≤ y) :
    Diverges (UInt8.ofNat x :: xs) (UInt8.ofNat y :: ys) := by
  rcases Nat.lt_or_eq_of_le le with lt | rfl
  · exact diverges_head (uint8_ofNat_lt hy lt) xs ys
  · exact (rest rfl).cons _

/-- Encoding keeps the order of code points. Across lengths, the leading byte of a longer
encoding is the larger; within one length, the bytes are the code point's digits in base 64
after a fixed tag, most significant first. -/
theorem utf8EncodeChar_diverges {c d : Char} (lt : c < d) :
    Diverges (String.utf8EncodeChar c) (String.utf8EncodeChar d) := by
  have order : c.val.toNat < d.val.toNat := lt
  have top : d.val.toNat < 0x110000 := by
    rcases d.valid with low | ⟨-, high⟩ <;> simp only [UInt32.toNat] at * <;> omega
  simp only [String.utf8EncodeChar]
  generalize c.val.toNat = a at *
  generalize d.val.toNat = b at *
  split_ifs <;>
    repeat' refine diverges_digits (by omega) _ _ (fun _ => ?_) (by omega)
  all_goals exfalso; omega

theorem flatMap_utf8EncodeChar_lt {cs ds : List Char} (lt : cs < ds) :
    cs.flatMap String.utf8EncodeChar < ds.flatMap String.utf8EncodeChar := by
  induction lt with
  | @nil d ds =>
    obtain ⟨x, xs, first⟩ := List.exists_cons_of_ne_nil (String.utf8EncodeChar_ne_nil (c := d))
    rw [List.flatMap_nil, List.flatMap_cons, first]
    exact List.Lex.nil
  | rel lt => exact (utf8EncodeChar_diverges lt).lt_append _ _
  | cons _ ih => simpa using List.Lex.append_left _ ih _

theorem toByteArray_toList (s : String) :
    s.toByteArray.data.toList = s.toList.flatMap String.utf8EncodeChar := by
  rw [← String.utf8Encode_toList]
  simp [List.utf8Encode]

/-- Strings compare as their UTF-8 bytes do. -/
theorem lt_iff_bytes_lt (s t : String) :
    s < t ↔ s.toByteArray.data.toList < t.toByteArray.data.toList := by
  have encode : ∀ {s t : String}, s < t →
      s.toByteArray.data.toList < t.toByteArray.data.toList := fun lt => by
    rw [toByteArray_toList, toByteArray_toList]
    exact flatMap_utf8EncodeChar_lt (String.lt_iff.mp lt)
  refine ⟨encode, fun bytes => ?_⟩
  rcases lt_trichotomy s t with lt | rfl | gt
  · exact lt
  · exact absurd bytes (List.lt_irrefl _)
  · exact absurd bytes (List.lt_asymm (encode gt))

theorem le_iff_bytes_le (s t : String) :
    s ≤ t ↔ s.toByteArray.data.toList ≤ t.toByteArray.data.toList := by
  rw [← not_lt, ← List.not_lt, lt_iff_bytes_lt]

/-- A name map lists its names in strictly ascending byte order. -/
theorem NameMap.names_bytes_ascending {α : Type} (m : NameMap α) :
    m.names.Pairwise fun k k' => k.toByteArray.data.toList < k'.toByteArray.data.toList :=
  m.ordered.imp fun lt => (lt_iff_bytes_lt _ _).mp lt

end JobMatrix

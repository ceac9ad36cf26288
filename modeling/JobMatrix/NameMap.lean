/-!
Maps keyed by names and kept in increasing order of the names (code point order, which is
also the byte order of their UTF-8 text). Putting a name that is present replaces its value in
place; listing walks the names in order. Matrices and instances are such maps.
The order is a field of the type, so every map built by these operations lists its names
strictly increasing.
-/

namespace JobMatrix

/-- Entries in strictly increasing order of their names. -/
structure NameMap (α : Type) where
  entries : List (String × α)
  ordered : (entries.map Prod.fst).Pairwise (· < ·)

namespace NameMap

variable {α : Type}

/-- Puts an entry in its place by name; an entry of the same name is replaced. -/
def insertEntry (k : String) (v : α) : List (String × α) → List (String × α)
  | [] => [(k, v)]
  | (j, w) :: rest =>
    if k < j then (k, v) :: (j, w) :: rest
    else if k = j then (k, v) :: rest
    else (j, w) :: insertEntry k v rest

theorem mem_names_insertEntry (k : String) (v : α) (l : List (String × α)) (x : String)
    (member : x ∈ (insertEntry k v l).map Prod.fst) : x = k ∨ x ∈ l.map Prod.fst := by
  induction l with
  | nil => simp_all [insertEntry]
  | cons head rest ih =>
    obtain ⟨j, w⟩ := head
    by_cases before : k < j
    · simp_all [insertEntry]
    · by_cases same : k = j
      · simp_all [insertEntry]
      · simp only [insertEntry, if_neg before, if_neg same, List.map_cons, List.mem_cons]
          at member ⊢
        rcases member with here | inner
        · exact Or.inr (Or.inl here)
        · rcases ih inner with h | h
          · exact Or.inl h
          · exact Or.inr (Or.inr h)

theorem ordered_insertEntry (k : String) (v : α) (l : List (String × α))
    (ordered : (l.map Prod.fst).Pairwise (· < ·)) :
    ((insertEntry k v l).map Prod.fst).Pairwise (· < ·) := by
  induction l with
  | nil => simp [insertEntry]
  | cons head rest ih =>
    obtain ⟨j, w⟩ := head
    simp only [List.map_cons, List.pairwise_cons] at ordered
    obtain ⟨below, tail⟩ := ordered
    simp only [insertEntry]
    split
    · rename_i before
      simp only [List.map_cons, List.pairwise_cons, List.mem_cons]
      refine ⟨?_, below, tail⟩
      intro x member
      rcases member with same | inner
      · exact same ▸ before
      · exact String.lt_trans before (below x inner)
    · split
      · rename_i same
        subst same
        simpa [List.pairwise_cons] using And.intro below tail
      · rename_i notBefore notSame
        have after : j < k := Std.lt_of_le_of_ne (String.not_lt.mp notBefore) (Ne.symm notSame)
        simp only [List.map_cons, List.pairwise_cons]
        refine ⟨?_, ih tail⟩
        intro x member
        rcases mem_names_insertEntry k v rest x member with h | h
        · exact h ▸ after
        · exact below x h

def empty : NameMap α := ⟨[], List.Pairwise.nil⟩

instance : EmptyCollection (NameMap α) := ⟨empty⟩

instance : Inhabited (NameMap α) := ⟨empty⟩

def insert (m : NameMap α) (k : String) (v : α) : NameMap α :=
  ⟨insertEntry k v m.entries, ordered_insertEntry k v m.entries m.ordered⟩

def get? (m : NameMap α) (k : String) : Option α :=
  m.entries.lookup k

def contains (m : NameMap α) (k : String) : Bool :=
  (m.get? k).isSome

def size (m : NameMap α) : Nat :=
  m.entries.length

def isEmpty (m : NameMap α) : Bool :=
  m.entries.isEmpty

def names (m : NameMap α) : List String :=
  m.entries.map Prod.fst

def values (m : NameMap α) : List α :=
  m.entries.map Prod.snd

def toList (m : NameMap α) : List (String × α) :=
  m.entries

/-- Puts the pairs in one after another, so that a later pair of a name replaces an earlier. -/
def ofList (pairs : List (String × α)) : NameMap α :=
  pairs.foldl (fun m p => m.insert p.1 p.2) empty

@[simp] theorem toList_empty : (empty : NameMap α).toList = [] := rfl

@[simp] theorem names_eq (m : NameMap α) : m.names = m.toList.map Prod.fst := rfl

end NameMap

end JobMatrix

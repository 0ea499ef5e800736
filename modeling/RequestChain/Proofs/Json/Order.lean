import RequestChain.Json.Basic

/-! # Fields in order

The fields of a sorted object stand in strict order of their names: sorting puts them so, and what
stands so is left as it is. So an object stays sorted when the values of its fields are replaced by
sorted ones.
-/

namespace RequestChain.Json

/-- The names of fields in strict order. -/
def InOrder (fields : List (String × Json)) : Prop :=
  fields.Pairwise (fun field next => field.1 < next.1)

private theorem mem_insertField {name : String} {value : Json} {field : String × Json}
    {fields : List (String × Json)} (member : field ∈ insertField name value fields) :
    field = (name, value) ∨ field ∈ fields := by
  induction fields with
  | nil => simpa [insertField] using member
  | cons first rest ih =>
    rw [insertField] at member
    grind

theorem InOrder.insertField {fields : List (String × Json)} (ordered : InOrder fields)
    (name : String) (value : Json) : InOrder (insertField name value fields) := by
  induction fields with
  | nil => simp [Json.insertField, InOrder]
  | cons first rest ih =>
    obtain ⟨other, held⟩ := first
    obtain ⟨least, others⟩ := List.pairwise_cons.mp ordered
    rw [Json.insertField]
    split
    · exact ordered
    next differ =>
      split
      next lesser =>
        refine .cons ?_ ordered
        intro field member
        rcases List.mem_cons.mp member with rfl | behind
        · exact lesser
        · exact String.lt_trans lesser (least field behind)
      next least' =>
        refine .cons ?_ (ih others)
        intro field member
        rcases mem_insertField member with rfl | behind
        · exact Std.lt_of_le_of_ne (String.not_lt.mp least') (Ne.symm differ)
        · exact least field behind

theorem sortedFields_inOrder : ∀ fields : List (String × Json), InOrder (sortedFields fields)
  | [] => by
    rw [sortedFields]
    exact .nil
  | (name, value) :: rest => by
    rw [sortedFields]
    exact (sortedFields_inOrder rest).insertField name value.sorted

private theorem length_insertField_le (name : String) (value : Json)
    (fields : List (String × Json)) :
    (insertField name value fields).length ≤ fields.length + 1 := by
  induction fields with
  | nil => simp [insertField]
  | cons first rest ih =>
    rw [insertField]
    split
    · simp
    · split
      · simp
      · simpa using ih

private theorem length_sortedFields_le : ∀ fields : List (String × Json),
    (sortedFields fields).length ≤ fields.length
  | [] => by simp [sortedFields]
  | (name, value) :: rest => by
    rw [sortedFields]
    exact Nat.le_trans (length_insertField_le ..) (Nat.succ_le_succ (length_sortedFields_le rest))

/-- Fields are sorted if the first name comes before the others and the rest is sorted. -/
theorem sortedFields_cons_eq_self_iff {name : String} {value : Json}
    {rest : List (String × Json)} :
    sortedFields ((name, value) :: rest) = (name, value) :: rest ↔
      (∀ other ∈ rest.map Prod.fst, name < other) ∧ value.sorted = value ∧
        sortedFields rest = rest := by
  constructor
  · intro fixed
    have ordered := sortedFields_inOrder ((name, value) :: rest)
    rw [fixed] at ordered
    have least : ∀ other ∈ rest.map Prod.fst, name < other := by
      simpa using (List.pairwise_cons.mp ordered).1
    have short := length_sortedFields_le rest
    rw [sortedFields] at fixed
    rcases behind : sortedFields rest with _ | ⟨⟨other, held⟩, others⟩
    · rw [behind, insertField] at fixed
      injection fixed with first none
      injection first with _ sorted
      exact ⟨least, sorted, none⟩
    rw [behind, insertField] at fixed
    split at fixed
    · -- the name would be there twice, and one field too many
      injection fixed with _ same
      rw [behind, same] at short
      exact absurd short (Nat.not_succ_le_self _)
    next differ =>
      split at fixed
      · injection fixed with first same
        injection first with _ sorted
        exact ⟨least, sorted, same⟩
      · injection fixed with first _
        injection first with same _
        exact absurd same.symm differ
  · rintro ⟨least, sorted, same⟩
    rw [sortedFields, sorted, same]
    cases rest with
    | nil => rfl
    | cons first others =>
      have lesser : name < first.1 := least _ (by simp)
      rw [insertField, if_neg (fun same => String.lt_irrefl _ (same ▸ lesser)), if_pos lesser]

end RequestChain.Json

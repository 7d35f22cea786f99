/-!
# Lists that are split at a mark

A list is one part without the mark, or it is a first part, the mark and a rest.  Proofs about the
parts go along with that (`partInduction`): each of them is without the mark, and parts without the
mark are found again in what they are joined to.
-/

set_option autoImplicit false

namespace RowStream

variable {α : Type}

section Parts

variable [BEq α] [LawfulBEq α]

/-- Induction along the parts of a list. -/
theorem partInduction (mark : α) {motive : List α → Prop}
    (last : ∀ part, mark ∉ part → motive part)
    (part : ∀ part rest, mark ∉ part → motive rest → motive (part ++ mark :: rest))
    (list : List α) : motive list := by
  by_cases marked : mark ∈ list
  · obtain ⟨first, rest, shape, unmarked⟩ := List.eq_append_cons_of_mem marked
    have shorter : rest.length < list.length := by
      rw [shape, List.length_append, List.length_cons]
      omega
    rw [shape]
    exact part first rest unmarked (partInduction mark last part rest)
  · exact last list marked
termination_by list.length

theorem of_mem_splitOn {mark : α} {list part : List α} (member : part ∈ list.splitOn mark) :
    mark ∉ part ∧ part ⊆ list := by
  induction list using partInduction mark with
  | last whole unmarked =>
      rw [List.splitOn_eq_singleton unmarked, List.mem_singleton] at member
      rw [member]
      exact ⟨unmarked, List.Subset.refl whole⟩
  | part first rest unmarked inductionHypothesis =>
      rw [List.splitOn_append_cons_self_of_not_mem unmarked, List.mem_cons] at member
      rcases member with rfl | later
      · exact ⟨unmarked, List.subset_append_left _ _⟩
      · obtain ⟨laterUnmarked, inRest⟩ := inductionHypothesis later
        refine ⟨laterUnmarked, fun item inPart => ?_⟩
        exact List.mem_append_right first (List.mem_cons_of_mem mark (inRest inPart))

theorem splitOn_flatMap_concat {mark : α} {parts : List (List α)}
    (unmarked : ∀ part ∈ parts, mark ∉ part) :
    (parts.flatMap (· ++ [mark])).splitOn mark = parts ++ [[]] := by
  induction parts with
  | nil => rfl
  | cons part rest inductionHypothesis =>
      obtain ⟨partUnmarked, restUnmarked⟩ := List.forall_mem_cons.mp unmarked
      rw [List.flatMap_cons, List.append_assoc, List.singleton_append,
        List.splitOn_append_cons_self_of_not_mem partUnmarked, inductionHypothesis restUnmarked,
        List.cons_append]

end Parts

theorem notMem_intercalate {item : α} {separator : List α} (apart : item ∉ separator)
    {parts : List (List α)} (without : ∀ part ∈ parts, item ∉ part) :
    item ∉ separator.intercalate parts := by
  induction parts with
  | nil => simp
  | cons part rest inductionHypothesis =>
      obtain ⟨notInPart, restWithout⟩ := List.forall_mem_cons.mp without
      cases rest with
      | nil => simpa using notInPart
      | cons next others =>
          rw [List.intercalate_cons_cons]
          simp only [List.mem_append, not_or]
          exact ⟨⟨notInPart, apart⟩, inductionHypothesis restWithout⟩

end RowStream

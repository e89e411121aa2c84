/-!
# Sets of characters given by ranges

A property of characters is tabulated as a list of closed ranges of code
points in ascending order. Membership walks the list and stops at the first
range that begins beyond the tested code point, so small code points are
decided after a few comparisons.
-/

namespace NumberedLambda.Character

/-- Whether `code` lies in one of the ranges, which are listed in ascending
order. -/
def inRanges (code : Nat) : List (Nat × Nat) → Bool
  | [] => false
  | (first, last) :: later =>
      if code < first then
        false
      else if code ≤ last then
        true
      else
        inRanges code later

/-- Every range is nonempty and begins beyond `bound` and beyond the end of
the range before it. -/
def AscendingFrom : Nat → List (Nat × Nat) → Prop
  | _, [] => True
  | bound, (first, last) :: later =>
      bound ≤ first ∧ first ≤ last ∧ AscendingFrom (last + 1) later

instance decidableAscendingFrom :
    (bound : Nat) → (ranges : List (Nat × Nat)) →
      Decidable (AscendingFrom bound ranges)
  | _, [] => isTrue trivial
  | bound, (first, last) :: later =>
      have := decidableAscendingFrom (last + 1) later
      inferInstanceAs <| Decidable <|
        bound ≤ first ∧ first ≤ last ∧ AscendingFrom (last + 1) later

/-- Code points below the bound of an ascending list lie in none of its
ranges. -/
theorem bound_le_of_mem
    {bound : Nat} {ranges : List (Nat × Nat)}
    (ascending : AscendingFrom bound ranges)
    {range : Nat × Nat} (member : range ∈ ranges) :
    bound ≤ range.1 := by
  induction ranges generalizing bound with
  | nil =>
      cases member
  | cons head later inductionHypothesis =>
      obtain ⟨lower, nonempty, laterAscending⟩ := ascending
      rcases List.mem_cons.mp member with rfl | laterMember
      · exact lower
      · have := inductionHypothesis laterAscending laterMember
        omega

/-- On an ascending list the walk decides membership in the union. -/
theorem inRanges_iff
    {bound code : Nat} {ranges : List (Nat × Nat)}
    (ascending : AscendingFrom bound ranges) :
    inRanges code ranges = true ↔
      ∃ range ∈ ranges, range.1 ≤ code ∧ code ≤ range.2 := by
  induction ranges generalizing bound with
  | nil =>
      simp [inRanges]
  | cons head later inductionHypothesis =>
      obtain ⟨first, last⟩ := head
      obtain ⟨_, nonempty, laterAscending⟩ := ascending
      by_cases before : code < first
      · have outside :
            ∀ range ∈ later, range.1 ≤ code → ¬ code ≤ range.2 := by
          intro range member lower
          have := bound_le_of_mem laterAscending member
          omega
        simp only [inRanges, before, if_true, Bool.false_eq_true,
          false_iff]
        rintro ⟨range, member, lower, upper⟩
        rcases List.mem_cons.mp member with rfl | laterMember
        · exact absurd lower (by omega)
        · exact outside range laterMember lower upper
      · by_cases within : code ≤ last
        · simp only [inRanges, before, within, if_true, if_false,
            true_iff]
          exact ⟨(first, last), List.Mem.head later, by omega, within⟩
        · simp only [inRanges, before, within, if_false,
            inductionHypothesis laterAscending, List.mem_cons]
          constructor
          · rintro ⟨range, member, lower, upper⟩
            exact ⟨range, Or.inr member, lower, upper⟩
          · rintro ⟨range, rfl | member, lower, upper⟩
            · exact absurd upper within
            · exact ⟨range, member, lower, upper⟩

end NumberedLambda.Character

import NumberedLambda.Term.WrittenForm

/-!
# Written identifiers

An identifier is written as its name, an underscore and its number. The digits
of the number contain no underscore, so the last underscore of the written
form is the one that joins the two, and different identifiers are written
differently. If the name can stand in an identifier of a source text, so can
the written form.
-/

namespace NumberedLambda

/-- What begins with a separator and has no other is not divided by it
again. -/
private theorem eq_nil_of_cons_eq_append {separator : Char}
    {first last otherLast : List Char} (noSeparator : separator ∉ last)
    (same : separator :: last = first ++ separator :: otherLast) :
    first = [] := by
  cases first with
  | nil =>
      rfl
  | cons character later =>
      rw [List.cons_append] at same
      injection same with _ sameLast
      refine absurd ?_ noSeparator
      rw [sameLast]
      exact List.mem_append_right _ (List.mem_cons_self ..)

/-- The last separator of a text tells what is in front of it and what is
behind it. -/
theorem append_cons_cancel_of_not_mem {separator : Char}
    {first last otherFirst otherLast : List Char}
    (noSeparator : separator ∉ last) (noOther : separator ∉ otherLast)
    (same : first ++ separator :: last =
      otherFirst ++ separator :: otherLast) :
    first = otherFirst ∧ last = otherLast := by
  rcases List.append_eq_append_iff.mp same with
    ⟨between, rfl, sameEnd⟩ | ⟨between, rfl, sameEnd⟩
  · have nothing := eq_nil_of_cons_eq_append noSeparator sameEnd
    subst nothing
    injection sameEnd with _ sameLast
    exact ⟨(List.append_nil first).symm, sameLast⟩
  · have nothing := eq_nil_of_cons_eq_append noOther sameEnd
    subst nothing
    injection sameEnd with _ sameLast
    exact ⟨List.append_nil otherFirst, sameLast.symm⟩

namespace Identifier

theorem toList_render (identifier : Identifier) :
    identifier.render.toList =
      identifier.name.toList ++
        '_' :: Nat.toDigits 10 identifier.number := by
  simp [render, decimal]

theorem toList_render_ne_nil (identifier : Identifier) :
    identifier.render.toList ≠ [] := by
  rw [toList_render]
  exact List.append_ne_nil_of_right_ne_nil _ (List.cons_ne_nil _ _)

theorem render_injective {first second : Identifier}
    (same : first.render = second.render) : first = second := by
  have sameText := congrArg String.toList same
  rw [toList_render, toList_render] at sameText
  obtain ⟨sameName, sameDigits⟩ :=
    append_cons_cancel_of_not_mem Nat.underscore_not_in_toDigits
      Nat.underscore_not_in_toDigits sameText
  have sameNumber : first.number = second.number := by
    have parsed :=
      congrArg (fun digits => Nat.ofDigitChars 10 digits 0) sameDigits
    simpa using parsed
  obtain ⟨name, number⟩ := first
  obtain ⟨otherName, otherNumber⟩ := second
  cases String.toList_injective sameName
  cases sameNumber
  rfl

theorem nodup_map_render {identifiers : List Identifier}
    (nodup : identifiers.Nodup) : (identifiers.map render).Nodup :=
  List.pairwise_map.mpr <|
    List.Pairwise.imp
      (fun different same => different (render_injective same)) nodup

theorem Readable.isIdentifierCharacter_of_mem_render
    {identifier : Identifier} (readable : identifier.Readable) :
    ∀ character ∈ identifier.render.toList,
      Character.isIdentifierCharacter character = true := by
  intro character member
  rw [toList_render] at member
  rcases List.mem_append.mp member with inName | later
  · exact readable character inName
  · rcases List.mem_cons.mp later with rfl | digit
    · exact Character.isIdentifierCharacter_underscore
    · exact Character.isIdentifierCharacter_of_isDigit
        (Nat.isDigit_of_mem_toDigits (by decide) (by decide) digit)

end Identifier

end NumberedLambda

import GitLogin.Text.Elide

namespace GitLogin.Text

variable {width : Nat} {s : String}

theorem elide_of_fits (h : s.length ≤ width) : elide width s = s := by
  rw [← String.length_toList] at h
  exact if_pos h

theorem length_elide (h : width < s.length) : (elide width s).length = max 1 width := by
  rw [← String.length_toList] at h
  rw [elide, if_neg (Nat.not_le.2 h), String.length_ofList, List.length_append, List.length_take,
    List.length_cons, List.length_drop]
  -- the two halves of the width add up to it, less the one that the ellipsis takes
  omega

theorem length_elide_le_iff : (elide width s).length ≤ width ↔ 0 < width ∨ s = "" := by
  by_cases h : s.length ≤ width
  · rw [elide_of_fits h, ← String.length_eq_zero_iff]
    omega
  · rw [length_elide (Nat.not_le.1 h), ← String.length_eq_zero_iff]
    omega

theorem elide_zero (h : s ≠ "") : elide 0 s = .singleton ellipsis := by
  have hlong : ¬s.toList.length ≤ 0 := by simpa using h
  rw [elide, if_neg hlong]
  simp

theorem elide_append {front middle back : String} (hfront : front.length = width - width / 2 - 1)
    (hback : back.length = width / 2) (hlong : width < (front ++ middle ++ back).length) :
    elide width (front ++ middle ++ back) = front ++ .singleton ellipsis ++ back := by
  have htaken : width - (width / 2 + 1) = front.toList.length := by
    rw [String.length_toList, hfront, Nat.sub_sub]
  have hcut : (front ++ middle ++ back).toList.length - width / 2 =
      (front ++ middle).toList.length := by
    rw [String.length_toList, String.length_append, hback, Nat.add_sub_cancel, String.length_toList]
  rw [← String.length_toList] at hlong
  rw [elide, if_neg (Nat.not_le.2 hlong), htaken, hcut, ← String.toList_inj]
  simp

theorem exists_ends {m n : Nat} (h : m + n ≤ s.length) :
    ∃ front middle back, s = front ++ middle ++ back ∧ front.length = m ∧ back.length = n := by
  rw [← String.length_toList] at h
  let rest := s.toList.drop m
  refine ⟨.ofList (s.toList.take m), .ofList (rest.take (rest.length - n)),
    .ofList (rest.drop (rest.length - n)), ?_, ?_, ?_⟩
  · rw [String.append_assoc, ← String.ofList_append, List.take_append_drop, ← String.ofList_append,
      List.take_append_drop, String.ofList_toList]
  · rw [String.length_ofList, List.length_take]
    omega
  · rw [String.length_ofList, List.length_drop, List.length_drop]
    omega

theorem elide_elide (width : Nat) (s : String) : elide width (elide width s) = elide width s := by
  -- without any width a text becomes the ellipsis, which stays as it is; else it becomes as long
  -- as the width, and fits
  by_cases hfits : s.length ≤ width
  · rw [elide_of_fits hfits, elide_of_fits hfits]
  · have hlong : width < s.length := Nat.not_le.1 hfits
    cases width with
    | zero =>
      have hne : s ≠ "" := by
        rintro rfl
        contradiction
      rw [elide_zero hne]
      exact elide_zero (by decide)
    | succ width =>
      apply elide_of_fits
      rw [length_elide hlong]
      omega

/-- A text that fits is kept whole. Of any other the first and the last characters are kept, as many
as fit beside the ellipsis. They are fewer than the text has, so none is kept twice, and the
ellipsis stands for those between them. Shortening the result again changes nothing. -/
theorem elide_ends (width : Nat) (s : String) :
    (s.length ≤ width → elide width s = s) ∧
    (width < s.length → ∃ front middle back, s = front ++ middle ++ back ∧
      front.length = width - width / 2 - 1 ∧ back.length = width / 2 ∧
      front.length + back.length < s.length ∧
      elide width s = front ++ .singleton ellipsis ++ back ∧
      (elide width s).length = max 1 width) ∧
    elide width (elide width s) = elide width s := by
  refine ⟨elide_of_fits, ?_, elide_elide width s⟩
  intro hlong
  have hroom : width - width / 2 - 1 + width / 2 ≤ s.length := by omega
  obtain ⟨front, middle, back, rfl, hfront, hback⟩ := exists_ends hroom
  refine ⟨front, middle, back, rfl, hfront, hback, ?_, elide_append hfront hback hlong,
    length_elide hlong⟩
  omega

example : elide 7 "abcdefghij" = "abc…hij" ∧ elide 2 "höst" = "…t" := by decide

end GitLogin.Text

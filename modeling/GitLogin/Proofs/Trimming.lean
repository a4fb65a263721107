import GitLogin.Text.Trim
import Mathlib.Data.List.DropRight

namespace GitLogin.Text

variable {p : Char → Bool} {s t : String}

theorem dropStart_isSuffix (p : Char → Bool) (s : String) :
    (dropStart p s).toList <:+ s.toList := by
  rw [toList_dropStart]
  exact List.dropWhile_suffix p

theorem dropEnd_isPrefix (p : Char → Bool) (s : String) : (dropEnd p s).toList <+: s.toList := by
  rw [toList_dropEnd]
  exact List.rdropWhile_prefix p s.toList

theorem head?_dropStart (p : Char → Bool) (s : String) :
    ∀ c ∈ (dropStart p s).toList.head?, p c = false := by
  intro c hc
  have hhead := List.head?_dropWhile_not p s.toList
  rw [toList_dropStart] at hc
  rw [hc] at hhead
  simpa using hhead

theorem getLast?_dropEnd (p : Char → Bool) (s : String) :
    ∀ c ∈ (dropEnd p s).toList.getLast?, p c = false := by
  intro c hc
  have hhead := List.head?_dropWhile_not p s.toList.reverse
  rw [toList_dropEnd, List.getLast?_reverse] at hc
  rw [hc] at hhead
  simpa using hhead

theorem exists_dropStart (p : Char → Bool) (s : String) :
    ∃ start t, s = start ++ t ∧ dropStart p s = t ∧ ∀ c ∈ start.toList, p c := by
  refine ⟨.ofList (s.toList.takeWhile p), dropStart p s, ?_, rfl, ?_⟩
  · rw [dropStart, ← String.ofList_append, List.takeWhile_append_dropWhile, String.ofList_toList]
  · rw [String.toList_ofList]
    exact List.all_eq_true.1 List.all_takeWhile

theorem exists_dropEnd (p : Char → Bool) (s : String) :
    ∃ t rest, s = t ++ rest ∧ dropEnd p s = t ∧ (∀ c ∈ t.toList.getLast?, p c = false) ∧
      ∀ c ∈ rest.toList, p c := by
  refine ⟨dropEnd p s, .ofList (s.toList.rtakeWhile p), ?_, rfl, getLast?_dropEnd p s, ?_⟩
  · have hparts : s.toList.rdropWhile p ++ s.toList.rtakeWhile p = s.toList :=
      List.rdropWhile_append_rtakeWhile
    rw [← String.toList_inj, String.toList_append, String.toList_ofList, toList_dropEnd]
    exact hparts.symm
  · rw [String.toList_ofList]
    exact fun c => List.mem_rtakeWhile_imp

theorem dropStart_eq_self (h : ∀ c ∈ s.toList.head?, p c = false) : dropStart p s = s := by
  rw [← String.toList_inj, toList_dropStart]
  cases hs : s.toList with
  | nil => rfl
  | cons c cs => exact List.dropWhile_cons_of_neg (by simp [h c (by simp [hs])])

theorem dropEnd_eq_self (h : ∀ c ∈ s.toList.getLast?, p c = false) : dropEnd p s = s := by
  rw [← String.toList_inj, toList_dropEnd]
  refine List.rdropWhile_eq_self_iff.2 fun hne => ?_
  simp [h _ (List.getLast?_eq_some_getLast hne)]

theorem dropStart_append (h : ∀ c ∈ s.toList, p c) : dropStart p (s ++ t) = dropStart p t := by
  rw [dropStart, String.toList_append, List.dropWhile_append_of_pos h, dropStart]

theorem dropEnd_append (h : ∀ c ∈ t.toList, p c) : dropEnd p (s ++ t) = dropEnd p s := by
  have hp : ∀ c ∈ t.toList.reverse, p c := fun c hc => h c (List.mem_reverse.1 hc)
  rw [dropEnd, String.toList_append, List.reverse_append, List.dropWhile_append_of_pos hp, dropEnd]

theorem dropStart_append_of_mem {c : Char} (hc : c ∈ s.toList) (hp : p c = false) :
    dropStart p (s ++ t) = dropStart p s ++ t := by
  have hne : ¬(s.toList.dropWhile p).isEmpty := by
    rw [List.isEmpty_iff, List.dropWhile_eq_nil_iff]
    intro hall
    rw [hall c hc] at hp
    contradiction
  rw [dropStart, String.toList_append, List.dropWhile_append, if_neg hne, String.ofList_append,
    String.ofList_toList, dropStart]

theorem dropStart_eq_empty : dropStart p s = "" ↔ ∀ c ∈ s.toList, p c := by
  rw [← String.toList_inj, toList_dropStart, String.toList_empty, List.dropWhile_eq_nil_iff]

theorem getLast?_append_of_ne_empty (s : String) (ht : t ≠ "") :
    (s ++ t).toList.getLast? = t.toList.getLast? := by
  rw [String.toList_append]
  exact List.getLast?_append_of_ne_nil _ (by simpa using ht)

theorem getLast?_dropStart (h : dropStart p s ≠ "") :
    (dropStart p s).toList.getLast? = s.toList.getLast? := by
  obtain ⟨start, t, rfl, ht, -⟩ := exists_dropStart p s
  rw [ht] at h ⊢
  exact (getLast?_append_of_ne_empty start h).symm

theorem trim_isInfix (s : String) : (trim s).toList <:+: s.toList :=
  (dropEnd_isPrefix isBlank _).isInfix.trans (dropStart_isSuffix isBlank s).isInfix

theorem head?_trim (s : String) : ∀ c ∈ (trim s).toList.head?, isBlank c = false := by
  intro c hc
  apply head?_dropStart isBlank s
  obtain ⟨rest, hrest⟩ := dropEnd_isPrefix isBlank (dropStart isBlank s)
  rw [← hrest, List.head?_append]
  exact Option.or_eq_some_iff.2 (.inl hc)

theorem getLast?_trim (s : String) : ∀ c ∈ (trim s).toList.getLast?, isBlank c = false :=
  getLast?_dropEnd isBlank _

theorem trim_eq_self (hhead : ∀ c ∈ s.toList.head?, isBlank c = false)
    (hlast : ∀ c ∈ s.toList.getLast?, isBlank c = false) : trim s = s := by
  rw [trim, dropStart_eq_self hhead, dropEnd_eq_self hlast]

end GitLogin.Text

import GitLogin.Proofs.Trimming
import GitLogin.Text.BaseName

namespace GitLogin.Text

def Separators (s : String) : Prop := ∀ c ∈ s.toList, isSeparator c

def Directory (s : String) : Prop := ∀ c ∈ s.toList.getLast?, isSeparator c

instance (s : String) : Decidable (Separators s) :=
  decidable_of_iff (s.toList.all isSeparator = true) List.all_eq_true

instance (s : String) : Decidable (Directory s) :=
  decidable_of_iff (s.toList.getLast?.all isSeparator = true) (Option.all_eq_true ..)

variable {s t dir name rest path : String}

theorem Directory.append (hs : Directory s) (ht : Directory t) : Directory (s ++ t) := by
  intro c hc
  rw [String.toList_append, List.getLast?_append] at hc
  rcases Option.or_eq_some_iff.1 hc with hc | ⟨-, hc⟩
  · exact ht c hc
  · exact hs c hc

/-- A directory, a text that no separator is in, and the separators at the end of a path. Each of
them may be empty. -/
structure PathParts (dir name rest : String) : Prop where
  dir : Directory dir
  name : ∀ c ∈ name.toList, isSeparator c = false
  rest : Separators rest

theorem baseName_eq_of_dropEnd (path : String) : baseName path =
    .ofList ((dropEnd isSeparator path).toList.reverse.takeWhile (!isSeparator ·)).reverse := by
  rw [toList_dropEnd, List.reverse_reverse, baseName]

theorem baseName_of_separators (h : Separators path) : baseName path = "" := by
  have hempty : dropEnd isSeparator ("" ++ path) = dropEnd isSeparator "" := dropEnd_append h
  rw [String.empty_append] at hempty
  rw [baseName_eq_of_dropEnd, hempty]
  rfl

namespace PathParts

theorem dropEnd_eq (h : PathParts dir name rest) (hne : name ≠ "") :
    dropEnd isSeparator (dir ++ name ++ rest) = dir ++ name := by
  rw [dropEnd_append h.rest]
  apply dropEnd_eq_self
  intro c hc
  rw [getLast?_append_of_ne_empty dir hne] at hc
  exact h.name c (List.mem_of_getLast? hc)

theorem baseName_eq (h : PathParts dir name rest) (hne : name ≠ "") :
    baseName (dir ++ name ++ rest) = name := by
  have hname : ∀ c ∈ name.toList.reverse, (!isSeparator c) = true := by
    simpa using h.name
  have hdir : dir.toList.reverse.takeWhile (!isSeparator ·) = [] := by
    cases hlast : dir.toList.reverse with
    | nil => rfl
    | cons c cs =>
      have hc : isSeparator c := h.dir c (by rw [← List.head?_reverse, hlast]; rfl)
      exact List.takeWhile_cons_of_neg (by simp [hc])
  rw [baseName_eq_of_dropEnd, h.dropEnd_eq hne, String.toList_append, List.reverse_append,
    List.takeWhile_append_of_pos hname, hdir, List.append_nil, List.reverse_reverse,
    String.ofList_toList]

end PathParts

theorem exists_directory (s : String) :
    ∃ dir name, s = dir ++ name ∧ Directory dir ∧ ∀ c ∈ name.toList, isSeparator c = false := by
  obtain ⟨dir, name, hs, -, hdir, hname⟩ := exists_dropEnd (!isSeparator ·) s
  exact ⟨dir, name, hs, by simpa [Directory] using hdir, by simpa using hname⟩

theorem exists_pathParts (h : ¬Separators path) :
    ∃ dir name rest, path = dir ++ name ++ rest ∧ PathParts dir name rest ∧ name ≠ "" := by
  -- with the separators cut off its end, what is left has to end with a component
  obtain ⟨trimmed, rest, rfl, -, hlast, hrest⟩ := exists_dropEnd isSeparator path
  obtain ⟨dir, name, rfl, hdir, hname⟩ := exists_directory trimmed
  refine ⟨dir, name, rest, rfl, ⟨hdir, hname, hrest⟩, ?_⟩
  rintro rfl
  rw [String.append_empty] at h hlast
  have hempty : dir.toList.getLast? = none := by
    refine Option.eq_none_iff_forall_ne_some.2 fun c hc => ?_
    have hend := hdir c hc
    rw [hlast c hc] at hend
    exact Bool.false_ne_true hend
  rw [List.getLast?_eq_none_iff, String.toList_eq_nil_iff] at hempty
  rw [hempty, String.empty_append] at h
  exact h hrest

/-- The name that a path ends with. It is empty only where the path has nothing but separators. -/
structure LastComponent (name path : String) : Prop where
  parts : ∃ dir rest, path = dir ++ name ++ rest ∧ PathParts dir name rest
  eq_empty : name = "" ↔ Separators path

theorem lastComponent_baseName (path : String) : LastComponent (baseName path) path := by
  by_cases h : Separators path
  · rw [baseName_of_separators h]
    have hparts : PathParts "" "" path := ⟨by simp [Directory], by simp, h⟩
    exact ⟨⟨"", path, by simp, hparts⟩, iff_of_true rfl h⟩
  · obtain ⟨dir, name, rest, rfl, hparts, hne⟩ := exists_pathParts h
    rw [hparts.baseName_eq hne]
    exact ⟨⟨dir, rest, rfl, hparts⟩, iff_of_false hne h⟩

theorem LastComponent.eq_baseName (h : LastComponent name path) : baseName path = name := by
  by_cases hs : Separators path
  · rw [baseName_of_separators hs, h.eq_empty.2 hs]
  · obtain ⟨dir, rest, rfl, hparts⟩ := h.parts
    exact hparts.baseName_eq (mt h.eq_empty.1 hs)

theorem baseName_eq_iff : baseName path = name ↔ LastComponent name path := by
  constructor
  · rintro rfl
    exact lastComponent_baseName path
  · exact LastComponent.eq_baseName

theorem baseName_baseName (path : String) : baseName (baseName path) = baseName path := by
  by_cases hne : baseName path = ""
  · rw [hne]
    exact baseName_of_separators (by simp [Separators])
  · obtain ⟨_, _, -, hparts⟩ := (lastComponent_baseName path).parts
    have halone : PathParts "" (baseName path) "" :=
      ⟨by simp [Directory], hparts.name, by simp [Separators]⟩
    simpa using halone.baseName_eq hne

theorem baseName_append_separators (path : String) (hrest : Separators rest) :
    baseName (path ++ rest) = baseName path := by
  rw [baseName_eq_of_dropEnd, baseName_eq_of_dropEnd, dropEnd_append hrest]

theorem baseName_directory_append (hdir : Directory dir) (hpath : ¬Separators path) :
    baseName (dir ++ path) = baseName path := by
  obtain ⟨dir', name, rest, rfl, hparts, hne⟩ := exists_pathParts hpath
  have hparts' : PathParts (dir ++ dir') name rest :=
    ⟨hdir.append hparts.dir, hparts.name, hparts.rest⟩
  calc
    baseName (dir ++ (dir' ++ name ++ rest)) = baseName (dir ++ dir' ++ name ++ rest) := by
      simp only [String.append_assoc]
    _ = name := hparts'.baseName_eq hne
    _ = baseName (dir' ++ name ++ rest) := (hparts.baseName_eq hne).symm

theorem baseName_eq_empty : baseName path = "" ↔ Separators path :=
  (lastComponent_baseName path).eq_empty

/-- Each path has one last component, its name. The name has itself for its name. It stays the same
whatever separators follow the path, and whatever directory is put in front of the path, unless the
name is empty and that directory has one. -/
theorem baseName_lastComponent (path : String) :
    (∀ name, baseName path = name ↔ LastComponent name path) ∧
    baseName (baseName path) = baseName path ∧
    (∀ rest, Separators rest → baseName (path ++ rest) = baseName path) ∧
    (∀ dir, Directory dir → (baseName (dir ++ path) = baseName path ↔
      ¬Separators path ∨ Separators dir)) := by
  refine ⟨fun name => baseName_eq_iff, baseName_baseName path,
    fun rest => baseName_append_separators path, ?_⟩
  intro dir hdir
  by_cases hpath : Separators path
  · rw [baseName_append_separators dir hpath, baseName_of_separators hpath, baseName_eq_empty]
    exact (or_iff_right (not_not_intro hpath)).symm
  · exact iff_of_true (baseName_directory_append hdir hpath) (.inl hpath)

theorem baseName_lastComponent_share :
    let path := "keys\\/id_rsa/\\"
    Separators "\\/" ∧ Directory "\\\\host/" ∧ ¬Separators path ∧ LastComponent "id_rsa" path ∧
      baseName (path ++ "\\/") = "id_rsa" ∧ baseName ("\\\\host/" ++ path) = "id_rsa" := by
  -- a path with both separators, more of them, and a share in front
  intro path
  have hrest : Separators "\\/" := by decide
  have hdir : Directory "\\\\host/" := by decide
  have hpath : ¬Separators path := by decide
  have hname : baseName path = "id_rsa" := by decide
  obtain ⟨hlast, -, hafter, hbefore⟩ := baseName_lastComponent path
  exact ⟨hrest, hdir, hpath, (hlast "id_rsa").1 hname, (hafter _ hrest).trans hname,
    ((hbefore _ hdir).2 (.inl hpath)).trans hname⟩

end GitLogin.Text

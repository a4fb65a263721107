import GitLogin.Proofs.Recognition

namespace GitLogin

namespace Question

structure ColonsBehind (blanks colons rest : String) : Prop where
  blanks_ne : blanks ≠ ""
  blanks : ∀ c ∈ blanks.toList, Text.isBlank c
  colons_ne : colons ≠ ""
  colons : ∀ c ∈ colons.toList, isColon c
  rest : ∀ c ∈ rest.toList, Text.isBlank c

/-- Colons at the end of a text that do not stand in one row: blanks part them. -/
def PartedColons (s : String) : Prop :=
  ∃ text blanks colons rest : String, s = text ++ ":" ++ blanks ++ colons ++ rest ∧
    ColonsBehind blanks colons rest

theorem isColon_iff {c : Char} : isColon c ↔ c = ':' := beq_iff_eq

theorem isBlank_of_isColon {c : Char} (h : isColon c) : Text.isBlank c = false := by
  rw [isColon_iff.1 h]
  decide

theorem isColon_of_isBlank {c : Char} (h : Text.isBlank c) : isColon c = false := by
  cases hc : isColon c with
  | false => rfl
  | true =>
    rw [isBlank_of_isColon hc] at h
    contradiction

variable {s text blanks colons rest : String}

theorem getLast?_dropStart_colon (text : String) :
    (Text.dropStart Text.isBlank (text ++ ":")).toList.getLast? = some ':' := by
  have hne : Text.dropStart Text.isBlank (text ++ ":") ≠ "" := by
    rw [Ne, Text.dropStart_eq_empty]
    intro hall
    exact absurd (hall ':' (by simp)) (by decide)
  rw [Text.getLast?_dropStart hne]
  simp

theorem ColonsBehind.trimQuestion_eq (h : ColonsBehind blanks colons rest) (text : String) :
    trimQuestion (text ++ ":" ++ blanks ++ colons ++ rest) =
      Text.dropStart Text.isBlank (text ++ ":") := by
  -- the colons in front of the last blanks are out of reach once these are cut off
  have hrest : Text.dropEnd Text.isBlank (text ++ ":" ++ blanks ++ colons ++ rest) =
      text ++ ":" ++ blanks ++ colons := by
    rw [Text.dropEnd_append h.rest]
    apply Text.dropEnd_eq_self
    rw [Text.getLast?_append_of_ne_empty _ h.colons_ne]
    exact fun c hc => isBlank_of_isColon (h.colons c (List.mem_of_getLast? hc))
  have hcolons : Text.dropEnd isColon (text ++ ":" ++ blanks ++ colons) =
      text ++ ":" ++ blanks := by
    rw [Text.dropEnd_append h.colons]
    apply Text.dropEnd_eq_self
    rw [Text.getLast?_append_of_ne_empty _ h.blanks_ne]
    exact fun c hc => isColon_of_isBlank (h.blanks c (List.mem_of_getLast? hc))
  have hcolon : ':' ∈ (text ++ ":").toList := by simp
  rw [trimQuestion, hrest, hcolons, Text.trim, Text.dropStart_append_of_mem hcolon (by decide),
    Text.dropEnd_append h.blanks]
  apply Text.dropEnd_eq_self
  rw [getLast?_dropStart_colon]
  rintro c ⟨⟩
  decide

theorem partedColons_of_getLast? (h : (trimQuestion s).toList.getLast? = some ':') :
    PartedColons s := by
  -- a colon that is left over was not the last character when colons were cut off, so blanks were
  -- behind it; and these were not the last ones when blanks were cut off before, so colons were
  -- behind them
  obtain ⟨u, rest, rfl, hu, hulast, hrest⟩ := Text.exists_dropEnd Text.isBlank s
  obtain ⟨v, colons, rfl, hv, hvlast, hcolons⟩ := Text.exists_dropEnd isColon u
  obtain ⟨start, w, rfl, hw, -⟩ := Text.exists_dropStart Text.isBlank v
  obtain ⟨t, blanks, rfl, ht, -, hblanks⟩ := Text.exists_dropEnd Text.isBlank w
  rw [trimQuestion, hu, hv, Text.trim, hw, ht] at h
  have hblanks_ne : blanks ≠ "" := by
    rintro rfl
    have hcolon : (start ++ (t ++ "")).toList.getLast? = some ':' := by
      rw [String.append_empty, String.toList_append, List.getLast?_append, h]
      rfl
    exact absurd (hvlast ':' hcolon) (by decide)
  have hcolons_ne : colons ≠ "" := by
    rintro rfl
    have hne : blanks.toList ≠ [] := by simpa using hblanks_ne
    have hlast : (start ++ (t ++ blanks) ++ "").toList.getLast? =
        some (blanks.toList.getLast hne) := by
      rw [String.append_empty, ← String.append_assoc,
        Text.getLast?_append_of_ne_empty _ hblanks_ne, List.getLast?_eq_some_getLast hne]
    have hblank := hblanks _ (List.getLast_mem hne)
    rw [hulast _ hlast] at hblank
    exact Bool.false_ne_true hblank
  obtain ⟨before, hbefore⟩ := List.getLast?_eq_some_iff.1 h
  have htext : t = .ofList before ++ ":" := by
    rw [← String.toList_inj, hbefore, String.toList_append, String.toList_ofList]
    rfl
  refine ⟨start ++ .ofList before, blanks, colons, rest, ?_,
    ⟨hblanks_ne, hblanks, hcolons_ne, hcolons, hrest⟩⟩
  rw [htext]
  simp only [String.append_assoc]

theorem getLast?_trimQuestion :
    (trimQuestion s).toList.getLast? = some ':' ↔ PartedColons s := by
  constructor
  · exact partedColons_of_getLast?
  · rintro ⟨text, blanks, colons, rest, rfl, h⟩
    rw [h.trimQuestion_eq]
    exact getLast?_dropStart_colon text

theorem trimQuestion_eq_self_iff (hhead : ∀ c ∈ s.toList.head?, Text.isBlank c = false)
    (hlast : ∀ c ∈ s.toList.getLast?, Text.isBlank c = false) :
    trimQuestion s = s ↔ s.toList.getLast? ≠ some ':' := by
  rw [trimQuestion, Text.dropEnd_eq_self hlast]
  constructor
  · intro h hcolon
    have hwhole : (Text.dropEnd isColon s).toList = s.toList := by
      apply (Text.dropEnd_isPrefix isColon s).eq_of_length_le
      have hinfix := Text.trim_isInfix (Text.dropEnd isColon s)
      rw [h] at hinfix
      exact hinfix.length_le
    rw [← hwhole] at hcolon
    exact absurd (Text.getLast?_dropEnd isColon s ':' hcolon) (by decide)
  · intro h
    have hcolons : Text.dropEnd isColon s = s := by
      apply Text.dropEnd_eq_self
      intro c hc
      rw [Bool.eq_false_iff, Ne, isColon_iff]
      rintro rfl
      exact h hc
    rw [hcolons, Text.trim_eq_self hhead hlast]

theorem trimQuestion_trimQuestion :
    trimQuestion (trimQuestion s) = trimQuestion s ↔ ¬PartedColons s := by
  rw [← getLast?_trimQuestion]
  exact trimQuestion_eq_self_iff (Text.head?_trim _) (Text.getLast?_trim _)

/-- The text of a question is between no quotes: it is all of the question, or a key file. -/
inductive Unquoted (question text : String) : Prop
  | whole (h : parse question = .unknown text)
  | keyFile (hquoted : quoted? question = none) (h : parse question = .passphrase text)

theorem parse_eq_unknown (h : parse s = .unknown text) : text = trimQuestion s := by
  rw [parse] at h
  cases hq : known? s with
  | none =>
    rw [hq, Option.getD_none, Question.unknown.injEq] at h
    exact h.symm
  | some q =>
    obtain ⟨k, hstart⟩ := exists_startsWith hq
    obtain ⟨object, -, rfl⟩ :=
      Option.map_eq_some_iff.1 ((known?_of_startsWith hstart).symm.trans hq)
    rw [hq, Option.getD_some] at h
    cases k <;> cases h

theorem Unquoted.exists_rest {question : String} (h : Unquoted question text) :
    ∃ front rest, question = front ++ rest ∧ ':' ∉ front.toList ∧ text = trimQuestion rest := by
  cases h with
  | whole h => exact ⟨"", question, by simp, by simp, parse_eq_unknown h⟩
  | keyFile hquoted h =>
    obtain ⟨hstart, hobject⟩ := (parse_eq_about (k := .passphrase)).1 h
    obtain ⟨words, rest, rfl, hwords⟩ := startsWith_iff.1 hstart
    have hcolon : ':' ∉ words.toList := hwords.notMem (by decide)
    rw [quoted?_append_left (Known.quote_notMem hwords)] at hquoted
    change keyFile? _ = _ at hobject
    rw [keyFile?_append hwords, hquoted, Option.none_or] at hobject
    obtain ⟨rfl, -⟩ := Text.nonEmpty?_eq_some.1 hobject
    cases hkey : Text.afterStart? "key " rest with
    | none => exact ⟨words, rest, rfl, hcolon, rfl⟩
    | some path =>
      obtain rfl := Text.afterStart?_eq_some.1 hkey
      refine ⟨words ++ "key ", path, String.append_assoc.symm, ?_, rfl⟩
      simpa using hcolon

theorem partedColons_append {front : String} (hfront : ':' ∉ front.toList) :
    PartedColons (front ++ rest) ↔ PartedColons rest := by
  constructor
  · rintro ⟨text, blanks, colons, after, heq, h⟩
    have hprefix : front.toList <+: text.toList ++ ':' :: (blanks ++ colons ++ after).toList := by
      refine ⟨rest.toList, ?_⟩
      rw [← String.toList_append, heq]
      simp
    obtain ⟨before, hbefore⟩ := Text.prefix_of_append_cons hfront hprefix
    refine ⟨.ofList before, blanks, colons, after, ?_, h⟩
    have htext : text = front ++ .ofList before := by
      rw [← String.toList_inj, ← hbefore, String.toList_append, String.toList_ofList]
    rw [htext] at heq
    simpa only [String.append_assoc, String.append_right_inj] using heq
  · rintro ⟨text, blanks, colons, after, rfl, h⟩
    exact ⟨front ++ text, blanks, colons, after, by simp only [String.append_assoc], h⟩

end Question

open Question

/-- The text of a question without quotes is a part of it, and there are no blanks around it. It ends
with a colon exactly if blanks part the colons at the end of the question, and only then trimming it
once more changes it. -/
theorem parse_unquoted {question text : String} (h : Unquoted question text) :
    text.toList <:+: question.toList ∧
    (∀ c ∈ text.toList.head?, Text.isBlank c = false) ∧
    (∀ c ∈ text.toList.getLast?, Text.isBlank c = false) ∧
    (text.toList.getLast? = some ':' ↔ PartedColons question) ∧
    (trimQuestion text = text ↔ ¬PartedColons question) := by
  obtain ⟨front, rest, rfl, hfront, rfl⟩ := h.exists_rest
  rw [partedColons_append hfront]
  refine ⟨?_, Text.head?_trim _, Text.getLast?_trim _, getLast?_trimQuestion,
    trimQuestion_trimQuestion⟩
  rw [String.toList_append]
  exact (trimQuestion_isInfix rest).trans (List.suffix_append ..).isInfix

theorem parse_unquoted_row :
    let question := "Enter passphrase for key /my keys/id: a:: \t"
    Unquoted question "/my keys/id: a" ∧ "/my keys/id: a".toList <:+: question.toList ∧
      ¬PartedColons question := by
  -- a key file whose question ends with colons in one row
  intro question
  have h : Unquoted question "/my keys/id: a" := .keyFile (by decide) (by decide)
  obtain ⟨hpart, -, -, -, hrow⟩ := parse_unquoted h
  exact ⟨h, hpart, hrow.1 (by decide)⟩

/-- A blank between two colons, of which the first stays. -/
theorem parse_unquoted_parted :
    Unquoted "Password: : " "Password:" ∧ Unquoted "Enter passphrase for /id : :" "/id :" ∧
      "Password:".toList.getLast? = some ':' ∧ trimQuestion "Password:" ≠ "Password:" ∧
      "/id :".toList.getLast? = some ':' ∧ trimQuestion "/id :" ≠ "/id :" := by
  have hwhole : Unquoted "Password: : " "Password:" := .whole (by decide)
  have hkey : Unquoted "Enter passphrase for /id : :" "/id :" := .keyFile (by decide) (by decide)
  exact ⟨hwhole, hkey, by decide, by decide, by decide, by decide⟩

end GitLogin

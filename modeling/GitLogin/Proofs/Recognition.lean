import GitLogin.Proofs.KeyFile
import GitLogin.Proofs.Prefill
import GitLogin.Proofs.Trimming

namespace GitLogin

namespace Text

variable {s : String}

theorem afterStart?_eq_some {start rest : String} :
    afterStart? start s = some rest ↔ s = start ++ rest := by
  constructor
  · intro h
    rw [afterStart?] at h
    split at h
    · next hstart =>
      obtain ⟨after, hafter⟩ := List.isPrefixOf_iff_prefix.1 hstart
      cases h
      rw [← String.toList_inj, String.toList_append, String.toList_ofList, ← hafter,
        ← String.length_toList, List.drop_left]
    · cases h
  · rintro rfl
    exact afterStart?_append start rest

theorem prefix_of_append_cons {start cs ds : List Char} {c : Char} (hc : c ∉ start)
    (h : start <+: cs ++ c :: ds) : start <+: cs := by
  rcases List.prefix_or_prefix_of_prefix h (List.prefix_append cs (c :: ds)) with hcs | ⟨rest, rfl⟩
  · exact hcs
  · cases rest with
    | nil => simp
    | cons d rest =>
      rw [List.prefix_append_right_inj, List.cons_prefix_cons] at h
      simp [h.1] at hc

end Text

namespace Question

theorem quoted?_append_left {front : String} (hfront : '\'' ∉ front.toList) (rest : String) :
    quoted? (front ++ rest) = quoted? rest := by
  by_cases hrest : '\'' ∈ rest.toList
  · obtain ⟨before, after, hbefore, rfl⟩ := Text.exists_cut hrest
    have hcut : Text.cut? '\'' (front ++ (before ++ .singleton '\'' ++ after)) =
        some (front ++ before, after) := by
      rw [← String.append_assoc, ← String.append_assoc]
      exact Text.cut?_append (by simp [hfront, hbefore]) after
    simp only [quoted?, hcut, Text.cut?_append hbefore, Option.bind_eq_bind, Option.bind_some]
  · have hnone : Text.cut? '\'' (front ++ rest) = none := by
      apply Text.cut?_eq_none
      simp [hfront, hrest]
    simp only [quoted?, hnone, Text.cut?_eq_none hrest]

theorem trimQuestion_isInfix (s : String) : (trimQuestion s).toList <:+: s.toList := by
  have hend := Text.dropEnd_isPrefix Text.isBlank s
  have hcolons := Text.dropEnd_isPrefix isColon (Text.dropEnd Text.isBlank s)
  exact (Text.trim_isInfix _).trans (hcolons.trans hend).isInfix

theorem keyFile?_append {front : String} (hfront : Text.Spells passphraseStart front)
    (rest : String) : keyFile? (front ++ rest) = (quoted? rest).or
      (Text.nonEmpty? (trimQuestion ((Text.afterStart? "key " rest).getD rest))) := by
  -- only what follows the words of a passphrase question is searched for a path
  have hquote : '\'' ∉ front.toList := Known.quote_notMem (k := .passphrase) hfront
  have hdrop : (front ++ rest).toList.drop passphraseStart.length = rest.toList := by
    rw [String.toList_append, ← hfront.length_eq, ← String.length_toList, List.drop_left]
  rw [keyFile?, quoted?_append_left hquote, hdrop, String.ofList_toList]
  cases quoted? rest with
  | none => exact Option.none_or.symm
  | some path => exact Option.some_or.symm

namespace Known

variable {k : Known} {front rest object : String}

end Known

/-- A path that a question can name without quotes. -/
structure Bare (path : String) : Prop where
  ne_empty : path ≠ ""
  noQuote : '\'' ∉ path.toList
  first : ∀ c ∈ path.toList.head?, Text.isBlank c = false
  last : ∀ c ∈ path.toList.getLast?, Text.isBlank c = false ∧ c ≠ ':'

namespace Bare

variable {path blanks : String}

theorem trimQuestion_eq (hpath : Bare path) (hblanks : ∀ c ∈ blanks.toList, Text.isBlank c) :
    trimQuestion (path ++ ":" ++ blanks) = path := by
  have hend : Text.dropEnd Text.isBlank (path ++ ":" ++ blanks) = path ++ ":" := by
    rw [Text.dropEnd_append hblanks]
    apply Text.dropEnd_eq_self
    simp [Text.isBlank]
  have hcolon : Text.dropEnd isColon (path ++ ":") = path := by
    rw [Text.dropEnd_append (by simp [isColon])]
    apply Text.dropEnd_eq_self
    intro c hc
    simpa [isColon] using (hpath.last c hc).2
  rw [trimQuestion, hend, hcolon]
  exact Text.trim_eq_self hpath.first fun c hc => (hpath.last c hc).1

end Bare

end Question

open Question

end GitLogin

import GitLogin.Question

namespace GitLogin

namespace Text

def Spells (words text : String) : Prop := text.toList.map Char.toLower = words.toList

instance (words text : String) : Decidable (Spells words text) :=
  inferInstanceAs (Decidable (_ = _))

theorem Spells.notMem {words text : String} {c : Char} (h : Spells words text)
    (hc : c.toLower ∉ words.toList) : c ∉ text.toList := by
  intro hmem
  have hlower : c.toLower ∈ text.toList.map Char.toLower := List.mem_map_of_mem hmem
  rw [h] at hlower
  exact hc hlower

theorem Spells.length_eq {words text : String} (h : Spells words text) :
    text.length = words.length := by
  rw [← String.length_toList, ← String.length_toList, ← h, List.length_map]

end Text

namespace Question

theorem startsWith_iff {words s : String} :
    startsWith words s ↔ ∃ front rest, s = front ++ rest ∧ Text.Spells words front := by
  rw [startsWith, List.isPrefixOf_iff_prefix]
  constructor
  · rintro ⟨after, hafter⟩
    obtain ⟨front, rest, hs, hfront, -⟩ := List.append_eq_map_iff.1 hafter
    refine ⟨.ofList front, .ofList rest, ?_, ?_⟩
    · rw [← String.ofList_append, ← hs, String.ofList_toList]
    · rw [Text.Spells, String.toList_ofList, hfront]
  · rintro ⟨front, rest, rfl, hfront⟩
    rw [String.toList_append, List.map_append, hfront]
    exact List.prefix_append ..

inductive Known
  | username
  | password
  | passphrase
  deriving DecidableEq

namespace Known

def words : Known → String
  | username => usernameStart
  | password => passwordStart
  | passphrase => passphraseStart

def object? : Known → String → Option String
  | username | password => quoted?
  | passphrase => keyFile?

def about : Known → String → Question
  | username => .username
  | password => .password
  | passphrase => .passphrase

theorem about_inj {k k' : Known} {object object' : String} (h : k.about object = k'.about object') :
    k = k' ∧ object = object' := by
  cases k <;> cases k' <;> cases h <;> exact ⟨rfl, rfl⟩

theorem quote_notMem {k : Known} {front : String} (h : Text.Spells k.words front) :
    '\'' ∉ front.toList := by
  apply h.notMem
  cases k <;> decide

theorem eq_of_startsWith {k k' : Known} {s : String} (h : startsWith k.words s)
    (h' : startsWith k'.words s) : k = k' := by
  -- the first letter of its words tells a question
  have hinj : ∀ k k' : Known, k.words.toList.head? = k'.words.toList.head? → k = k' := by
    intro k k'
    cases k <;> cases k' <;> decide
  have hhead {k : Known} (h : startsWith k.words s) :
      k.words.toList.head? = (s.toList.map Char.toLower).head? := by
    obtain ⟨after, hafter⟩ := List.isPrefixOf_iff_prefix.1 h
    rw [← hafter, List.head?_append]
    cases k <;> rfl
  exact hinj k k' ((hhead h).trans (hhead h').symm)

end Known

theorem known?_of_startsWith {k : Known} {s : String} (h : startsWith k.words s) :
    known? s = (k.object? s).map k.about := by
  have hother {k' : Known} (hne : k' ≠ k) : ¬startsWith k'.words s :=
    fun h' => hne (Known.eq_of_startsWith h' h)
  have husername (hne : Known.username ≠ k) : ¬startsWith usernameStart s := hother hne
  have hpassword (hne : Known.password ≠ k) : ¬startsWith passwordStart s := hother hne
  rw [known?]
  cases k with
  | username => exact if_pos h
  | password =>
    rw [if_neg (husername nofun)]
    exact if_pos h
  | passphrase =>
    rw [if_neg (husername nofun), if_neg (hpassword nofun)]
    exact if_pos h

theorem exists_startsWith {s : String} {q : Question} (h : known? s = some q) :
    ∃ k : Known, startsWith k.words s := by
  rw [known?] at h
  split at h
  · next hstart => exact ⟨.username, hstart⟩
  · split at h
    · next hstart => exact ⟨.password, hstart⟩
    · split at h
      · next hstart => exact ⟨.passphrase, hstart⟩
      · cases h

theorem parse_eq_about {k : Known} {s object : String} :
    parse s = k.about object ↔ startsWith k.words s ∧ k.object? s = some object := by
  constructor
  · intro h
    rw [parse] at h
    cases hq : known? s with
    | none =>
      rw [hq] at h
      cases k <;> cases h
    | some q =>
      obtain ⟨k', hstart⟩ := exists_startsWith hq
      obtain ⟨object', hobject, rfl⟩ :=
        Option.map_eq_some_iff.1 ((known?_of_startsWith hstart).symm.trans hq)
      rw [hq] at h
      obtain ⟨rfl, rfl⟩ := Known.about_inj h
      exact ⟨hstart, hobject⟩
  · rintro ⟨hstart, hobject⟩
    rw [parse, known?_of_startsWith hstart, hobject]
    rfl

end Question

end GitLogin

import GitLogin.Proofs.Askpass

namespace GitLogin

namespace Question

def passphraseText (path : String) : String := "Enter passphrase for key '" ++ path ++ "': "

/-- The key file that such a question is taken to be about. Where nothing stands in front of the
first quote of the path, the quotes around it are kept. -/
def heardKey (path : String) : String :=
  if upToQuote path = "" then "'" ++ path ++ "'" else upToQuote path

theorem upToQuote_eq_self {text : String} : upToQuote text = text ↔ '\'' ∉ text.toList := by
  rw [upToQuote, ← String.toList_inj, String.toList_ofList, List.takeWhile_eq_self_iff]
  constructor
  · intro h hmem
    simpa using h _ hmem
  · exact Text.forall_bne

theorem heardKey_eq_self {path : String} :
    heardKey path = path ↔ path ≠ "" ∧ '\'' ∉ path.toList := by
  rw [heardKey]
  split
  · next hempty =>
    constructor
    · intro h
      have hlen := congrArg String.length h
      simp only [String.length_append] at hlen
      have hone : "'".length = 1 := rfl
      omega
    · rintro ⟨hne, hquote⟩
      rw [upToQuote_eq_self.2 hquote] at hempty
      contradiction
  · next hne =>
    rw [upToQuote_eq_self]
    constructor
    · intro hquote
      rw [upToQuote_eq_self.2 hquote] at hne
      exact ⟨hne, hquote⟩
    · exact And.right

theorem trimQuestion_quoted (text : String) :
    trimQuestion ("'" ++ text ++ "': ") = "'" ++ text ++ "'" := by
  rw [← String.toList_inj]
  simp [trimQuestion, Text.trim, Text.isBlank, isColon]

theorem keyFile?_passphraseText (path : String) :
    keyFile? (passphraseText path) = some (heardKey path) := by
  have hbefore : '\'' ∉ "Enter passphrase for key ".toList := by simp
  have htext : passphraseText path =
      "Enter passphrase for key " ++ "'" ++ (path ++ "'" ++ ": ") := by
    unfold passphraseText
    rw [← String.toList_inj]
    simp
  have hquoted : quoted? (passphraseText path) = Text.nonEmpty? (upToQuote path) := by
    rw [htext]
    exact quoted?_append hbefore path ": "
  rw [keyFile?, hquoted, heardKey]
  by_cases hempty : upToQuote path = ""
  · have hrest : String.ofList ((passphraseText path).toList.drop passphraseStart.length) =
        "key " ++ ("'" ++ path ++ "': ") := by
      have hwords : passphraseText path =
          "Enter passphrase for " ++ ("key " ++ ("'" ++ path ++ "': ")) := by
        unfold passphraseText
        rw [← String.toList_inj]
        simp
      have hlen : passphraseStart.length = "Enter passphrase for ".toList.length := by
        rw [← String.length_toList]
        simp [passphraseStart]
      rw [hwords, String.toList_append, hlen, List.drop_left, String.ofList_toList]
    have hnone : Text.nonEmpty? "" = none := rfl
    rw [if_pos hempty, hempty, hnone]
    simp only [hrest, Text.afterStart?_append, Option.getD_some, trimQuestion_quoted]
    rw [Text.nonEmpty?, if_neg (by simp)]
  · rw [if_neg hempty, Text.nonEmpty?, if_neg (by simpa using hempty)]

theorem parse_passphrase (path : String) :
    parse (passphraseText path) = .passphrase (heardKey path) := by
  have hwords : passphraseText path = "Enter passphrase for key '" ++ path ++ "': " := rfl
  have hstart : startsWith Known.passphrase.words (passphraseText path) = true := by
    rw [startsWith, hwords]
    simp [Known.words, passphraseStart]
  exact parse_eq_about.2 ⟨hstart, keyFile?_passphraseText path⟩

end Question

theorem Prompt.username_of_key {σ : Type} {S : Surface σ} {r : Remote} {file : String}
    {prior : Option Credential} {settings : Settings} {s : σ} {c : Credential}
    (hkey : r.keyFile = some file) (hc : (run S r prior settings s).1 = .confirmed c) :
    c.username = Text.nonBlank? (Text.baseName file) := by
  obtain ⟨h, -, rfl⟩ := run_confirmed hc
  simp only [History.credential, Remote.loginName, hkey]

/-- Of a path with a quote the part in front of the quote is what the form is about: its header names
the last component of that part, and so does the credential. Only a path without quotes is told
apart whole. -/
theorem parse_passphraseText [UrlParser] (path : String) :
    Question.parse (Question.passphraseText path) = .passphrase (Question.heardKey path) ∧
    let q := Question.parse (Question.passphraseText path)
    let key := Question.heardKey path
    (q = .passphrase path ↔ path ≠ "" ∧ '\'' ∉ path.toList) ∧
    q.remote = { uri := key, keyFile := some key } ∧ q.prior = none ∧
    (∀ settings, (Layout.of q.remote q.prior settings).message =
      (Wording.keyPassword (Text.baseName key)).text) ∧
    (∀ (σ : Type) (S : Surface σ) settings s, ∃ o s',
      Prompt.ask S .interactive q.remote q.prior settings s = .ok (o, s') ∧
        ∀ c, o = .confirmed c → c.username = Text.nonBlank? (Text.baseName key)) := by
  rw [Question.parse_passphrase path]
  refine ⟨rfl, ?_, rfl, rfl, fun settings => rfl, ?_⟩
  · rw [Question.passphrase.injEq]
    exact Question.heardKey_eq_self
  · intro σ S settings s
    refine ⟨_, _, Prompt.ask_interactive .., ?_⟩
    intro c hc
    exact Prompt.username_of_key rfl hc

/-- A path with an apostrophe: the form names another key. -/
theorem parse_passphraseText_apostrophe :
    let q := Question.parse (Question.passphraseText "/home/o'brien/id_rsa")
    q = .passphrase "/home/o" ∧
      (Layout.of q.remote q.prior {}).message =
        "Enter your password for the SSH key \"o\"" := by
  decide

end GitLogin

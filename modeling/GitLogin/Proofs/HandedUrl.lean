import GitLogin.Proofs.Askpass

namespace GitLogin

namespace Text

theorem lines_of_ending {line ending : String} (hne : line ≠ "")
    (hline : ∀ c ∈ line.toList, isLineEnd c = false) (hending : ending ∈ ["", "\n", "\r\n"]) :
    lines (line ++ ending) = [line] := by
  have hlf : '\n' ∉ line.toList := fun hmem => absurd (hline _ hmem) (by decide)
  have hlist : line.toList ≠ [] := by simpa using hne
  have hpieces : pieces '\n' line.toList = [line.toList] := pieces_of_notMem hlf
  simp only [List.mem_cons, List.not_mem_nil, or_false] at hending
  rcases hending with rfl | rfl | rfl
  · simp [lines, hpieces, hlist, withoutEnding_of_all hline]
  · have hsplit : pieces '\n' (line ++ "\n").toList = [line.toList, []] := by
      rw [String.toList_append]
      exact (pieces_append '\n' line.toList []).trans (by rw [hpieces]; rfl)
    rw [lines, hsplit]
    simp [withoutEnding_of_all hline]
  · have hcr : '\n' ∉ line.toList ++ ['\r'] := by simp [hlf]
    have hsplit : pieces '\n' (line ++ "\r\n").toList = [line.toList ++ ['\r'], []] := by
      have htext : (line ++ "\r\n").toList = line.toList ++ ['\r'] ++ '\n' :: [] := by simp
      rw [htext, pieces_append, pieces_of_notMem hcr]
      rfl
    have hcut : withoutEnding (line ++ "\r") = withoutEnding line :=
      withoutEnding_append (by simp [isLineEnd]) line
    rw [lines, hsplit]
    simp [hcut, withoutEnding_of_all hline]

end Text

namespace Request

variable [UrlParser]

theorem ofUrl_eq_apply (url : String) : ofUrl url = apply {} "url" url := by simp [ofUrl, apply]

theorem read_urlLine {i : Source} {url : String} (htyped : i.typed = [some ("url=" ++ url)])
    (hb : i.broken = false) : read i = ofUrl url := by
  cases hu : UrlParser.parse url with
  | error e =>
    have hline : i.typed = [] ++ some ("url=" ++ url) :: [] := htyped
    rw [read_offends hline .nil (.badUrl hu), ofUrl_error hu]
  | ok u =>
    have hequals : '=' ∉ "url".toList := by decide
    have ha : Attribute.Written (some ("url=" ++ url)) ⟨"url", url⟩ :=
      ⟨rfl, hequals, fun _ => ⟨u, hu⟩⟩
    have happly := @apply_written _ [] _ _ ha
    have hnone : ofAttributes [] = {} := rfl
    rw [hnone, ← ofUrl_eq_apply] at happly
    rw [read_end htyped (.cons ha .nil), hb, happly]
    rfl

end Request

namespace Question

def passwordText (url : String) : String := "Password for '" ++ url ++ "': "

theorem parse_passwordText {url : String} (hne : url ≠ "") (hquote : '\'' ∉ url.toList) :
    parse (passwordText url) = .password url := by
  have hwords : passwordText url = "Password for '" ++ url ++ "': " := rfl
  have hstart : startsWith Known.password.words (passwordText url) = true := by
    rw [startsWith, hwords]
    simp [Known.words, passwordStart]
  have hquoted : quoted? (passwordText url) = some url := by
    have hbefore : '\'' ∉ "Password for ".toList := by decide
    have htext : passwordText url = "Password for " ++ "'" ++ (url ++ "'" ++ ": ") := by
      simp [hwords, String.append_assoc]
    have hup : upToQuote url = url := by
      rw [upToQuote, List.takeWhile_eq_self_iff.2 (Text.forall_bne hquote), String.ofList_toList]
    rw [htext, quoted?_append hbefore, hup, Text.nonEmpty?, if_neg (by simpa using hne)]
  exact parse_eq_about.2 ⟨hstart, hquoted⟩

variable [UrlParser] {url : String}

theorem remote_password_error {e : UrlError} (hu : UrlParser.parse url = .error e) :
    (password url).remote = { uri := url } ∧ (password url).prior = none := by
  constructor
  · rw [remote.eq_def]
    simp only [Request.ofUrl_error hu]
  · rw [prior.eq_def]
    simp only [Request.ofUrl_error hu]
    rfl

theorem remote_password_ok {r : Request} (hr : Request.ofUrl url = .ok r) :
    (password url).remote = r.remote ∧
      (password url).prior = r.username.map fun name => { username := some name } := by
  constructor
  · rw [remote.eq_def]
    simp only [hr]
  · rw [prior.eq_def]
    simp only [hr]
    rfl

end Question

theorem Layout.of_prior {prior prior' : Option Credential} (r : Remote) (settings : Settings)
    (hname : prior.bind Credential.username = prior'.bind Credential.username)
    (hsecret : prior.bind Credential.secret = none) :
    Layout.of r prior settings = { Layout.of r prior' settings with secretPrefilled := false } := by
  have hdefault : r.defaultUsername prior = r.defaultUsername prior' := by
    rw [Remote.defaultUsername, hname, ← Remote.defaultUsername]
  simp [Layout.of, hdefault, hsecret]

/-- A URL leads to the same remote and the same login name whether Git names it in a question for a
password or hands it over as the one line of a request; of the two forms, only that of the request
may have its secret filled in. A text that is no URL is an error in the request and is shown as it
is for the question. -/
theorem passwordText_urlLine [UrlParser] {url ending : String} (hne : url ≠ "")
    (hchars : ∀ c ∈ url.toList, c ≠ '\'' ∧ c ≠ '\r' ∧ c ≠ '\n')
    (hending : ending ∈ ["", "\n", "\r\n"]) :
    Question.parse (Question.passwordText url) = .password url ∧
    let q := Question.parse (Question.passwordText url)
    let result := Request.read (.ofString ("url=" ++ url ++ ending))
    (∀ u, UrlParser.parse url = .ok u →
      let r := Request.applyUrl {} u
      result = .ok r ∧ q.remote = r.remote ∧
        q.prior = r.username.map (fun name => { username := some name }) ∧
        ∀ settings, Layout.of q.remote q.prior settings =
          { Layout.of r.remote r.prior settings with secretPrefilled := false }) ∧
    (∀ e, UrlParser.parse url = .error e → result = .error (.invalidUrl e) ∧
      q.remote = { uri := url } ∧ q.prior = none) := by
  have hq : Question.parse (Question.passwordText url) = .password url :=
    Question.parse_passwordText hne fun hmem => (hchars _ hmem).1 rfl
  have hline : ∀ c ∈ ("url=" ++ url).toList, Text.isLineEnd c = false := by
    intro c hc
    rw [String.toList_append, List.mem_append] at hc
    rcases hc with hc | hc
    · have hkey : "url=".toList.all (!Text.isLineEnd ·) = true := by decide
      simpa using List.all_eq_true.1 hkey c hc
    · obtain ⟨-, hcr, hlf⟩ := hchars c hc
      simp [Text.isLineEnd, hcr, hlf]
  have htyped : (Source.ofString ("url=" ++ url ++ ending)).typed = [some ("url=" ++ url)] := by
    rw [Source.ofString, Source.typed_ofBytes, typedLines_encode,
      Text.lines_of_ending (by simp) hline hending]
    rfl
  refine ⟨hq, ?_⟩
  intro q result
  have hresult : result = Request.ofUrl url := Request.read_urlLine htyped rfl
  rw [show q = .password url from hq, hresult]
  constructor
  · intro u hu r
    have hr : Request.ofUrl url = .ok r := Request.ofUrl_ok hu
    obtain ⟨hremote, hprior⟩ := Question.remote_password_ok hr
    refine ⟨hr, hremote, hprior, fun settings => ?_⟩
    rw [hremote, hprior]
    apply Layout.of_prior
    · rw [Request.prior_username]
      cases r.username <;> rfl
    · cases r.username <;> rfl
  · intro e he
    exact ⟨Request.ofUrl_error he, Question.remote_password_error he⟩

theorem passwordText_urlLine_port :
    let url := "ssh://git@host:8022/a=b=c"
    let u : Url := ⟨"ssh", "git", none, some "host", some 8022, "/a=b=c"⟩
    let q := Question.parse (Question.passwordText url)
    Request.read (.ofString ("url=" ++ url ++ "\n")) = .ok (Request.applyUrl {} u) ∧
      q.remote = (Request.applyUrl {} u).remote ∧
      q.prior = some { username := some "git" } := by
  -- a URL with a login name, a port and equals signs
  intro url u q
  have hu : UrlParser.parse url = .ok u := by decide
  have hname : (Request.applyUrl {} u).username = some "git" := by decide
  have hchars : url.toList.all (fun c => c ≠ '\'' ∧ c ≠ '\r' ∧ c ≠ '\n') = true := by decide
  obtain ⟨-, haccepted, -⟩ := @passwordText_urlLine _ url "\n" (by decide)
    (fun c hc => of_decide_eq_true (List.all_eq_true.1 hchars c hc)) (by decide)
  obtain ⟨hr, hremote, hprior, -⟩ := haccepted u hu
  refine ⟨hr, hremote, ?_⟩
  rw [hprior, hname]
  rfl

end GitLogin

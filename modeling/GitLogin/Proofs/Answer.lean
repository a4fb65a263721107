import GitLogin.Proofs.Lines
import GitLogin.Proofs.Trimming
import GitLogin.Request

namespace GitLogin

namespace Text

theorem withoutEnding_of_all {s : String} (hs : ∀ c ∈ s.toList, isLineEnd c = false) :
    withoutEnding s = s :=
  withoutEnding_eq_self fun c hc => hs c (List.mem_of_getLast? hc)

theorem forall_bne {c : Char} {cs : List Char} (hc : c ∉ cs) : ∀ d ∈ cs, (d != c) = true := by
  intro d hd
  rw [bne_iff_ne]
  rintro rfl
  exact hc hd

theorem cut?_append {c : Char} {key : String} (hkey : c ∉ key.toList) (value : String) :
    cut? c (key ++ .singleton c ++ value) = some (key, value) := by
  have hp := forall_bne hkey
  have htext : (key ++ .singleton c ++ value).toList = key.toList ++ c :: value.toList := by simp
  rw [cut?, htext, List.dropWhile_append_of_pos hp, List.takeWhile_append_of_pos hp]
  simp

end Text

def Sendable (value : String) : Prop := value.toList.any isUnsendable = false

instance (value : String) : Decidable (Sendable value) := inferInstanceAs (Decidable (_ = _))

theorem sendable_iff {value : String} : Sendable value ↔
    '\n' ∉ value.toList ∧ '\r' ∉ value.toList ∧ '\x00' ∉ value.toList := by
  rw [Sendable, List.any_eq_false]
  constructor
  · intro h
    refine ⟨fun hmem => ?_, fun hmem => ?_, fun hmem => ?_⟩
    · exact absurd (h _ hmem) (by decide)
    · exact absurd (h _ hmem) (by decide)
    · exact absurd (h _ hmem) (by decide)
  · rintro ⟨hn, hr, hz⟩ c hc hbad
    simp only [isUnsendable, Bool.or_eq_true, beq_iff_eq] at hbad
    rcases hbad with (rfl | rfl) | rfl
    · exact hn hc
    · exact hr hc
    · exact hz hc

theorem Sendable.newline_notMem {value : String} (hv : Sendable value) : '\n' ∉ value.toList :=
  (sendable_iff.1 hv).1

theorem Sendable.lineEnd {value : String} (hv : Sendable value) :
    ∀ c ∈ value.toList, Text.isLineEnd c = false := by
  intro c hc
  have hall := List.any_eq_false.1 hv c hc
  simp only [isUnsendable, Bool.or_eq_true, not_or, Bool.not_eq_true] at hall
  rw [Text.isLineEnd, hall.1.1, hall.1.2, Bool.or_false]

namespace Part

def text (p : Part) : Option String → String
  | none => ""
  | some value => p.name ++ "=" ++ value ++ "\n"

variable {p : Part} {value : String} {w : Sink}

def line (p : Part) (value : String) : String := p.name ++ "=" ++ value

def fill (p : Part) (value : Option String) (r : Request) : Request :=
  match p, value with
  | _, none => r
  | .username, some value => { r with username := some value }
  | .password, some value => { r with password := some value }

@[simp] theorem apply_name [UrlParser] (p : Part) (value : String) (r : Request) :
    r.apply p.name value = .ok (p.fill (some value) r) := by
  cases p <;> rfl

theorem equals_notMem_name (p : Part) : '=' ∉ p.name.toList := by
  cases p <;> decide

theorem sendable_entry (p : Part) {value : String} (hv : Sendable value) :
    Sendable (p.name ++ "=" ++ value) := by
  have hname : p.name.toList.any isUnsendable = false := by cases p <;> decide
  have hequals : isUnsendable '=' = false := by decide
  rw [Sendable] at hv ⊢
  simp [hname, hequals, hv]

theorem sendAny_of_sendable {value : Option String} (hw : w.Reliable)
    (hv : ∀ v ∈ value, Sendable v) :
    p.sendAny value w =
      (.ok (), { w with written := w.written ++ Text.Utf8.encode (p.text value) }) := by
  cases value with
  | none => simp [sendAny, text]
  | some v =>
    have hs : v.toList.any isUnsendable = false := hv v rfl
    simp [sendAny, send, hs, hw.write, text]

theorem sendAny_of_not_sendable (hv : ¬Sendable value) (w : Sink) :
    p.sendAny (some value) w = (.error (.unsendable p), w) := by
  simp only [Sendable, Bool.not_eq_false] at hv
  simp [sendAny, send, hv]

end Part

namespace Credential

def text (c : Credential) : String := Part.username.text c.username ++ Part.password.text c.secret

def lines (c : Credential) : List String :=
  (c.username.map Part.username.line).toList ++ (c.secret.map Part.password.line).toList

structure Sendable (c : Credential) : Prop where
  username : ∀ u ∈ c.username, GitLogin.Sendable u
  secret : ∀ t ∈ c.secret, GitLogin.Sendable t

/-- What a sink without faults holds once a credential was sent. The username goes out before the
secret is looked at. -/
inductive Sent (w : Sink) : Credential → Except HelperError Unit → Sink → Prop
  | whole {c : Credential} : c.Sendable →
      Sent w c (.ok ()) { w with written := w.written ++ Text.Utf8.encode c.text }
  | badUsername {u : String} {t : Option String} : ¬GitLogin.Sendable u →
      Sent w ⟨some u, t⟩ (.error (.unsendable .username)) w
  | badSecret {u : Option String} {t : String} : (∀ v ∈ u, GitLogin.Sendable v) →
      ¬GitLogin.Sendable t → Sent w ⟨u, some t⟩ (.error (.unsendable .password))
        { w with written := w.written ++ Text.Utf8.encode (Part.username.text u) }

theorem sendable_iff {c : Credential} : c.Sendable ↔
    ∀ v, c.username = some v ∨ c.secret = some v → GitLogin.Sendable v := by
  constructor
  · rintro hc v (hu | ht)
    · exact hc.username v hu
    · exact hc.secret v ht
  · exact fun h => ⟨fun u hu => h u (.inl hu), fun t ht => h t (.inr ht)⟩

theorem sent {w : Sink} (hw : w.Reliable) (c : Credential) :
    Sent w c (c.send w).1 (c.send w).2 := by
  obtain ⟨u, t⟩ := c
  by_cases hu : ∀ v ∈ u, GitLogin.Sendable v
  · rw [send, Part.sendAny_of_sendable hw hu]
    have hw' := hw.withWritten (w.written ++ Text.Utf8.encode (Part.username.text u))
    by_cases ht : ∀ v ∈ t, GitLogin.Sendable v
    · simp only [Part.sendAny_of_sendable hw' ht]
      rw [(hw'.withWritten _).flush]
      simp only [List.append_assoc, ← Text.Utf8.encode_append]
      exact .whole ⟨hu, ht⟩
    · cases t with
      | none => simp at ht
      | some t =>
        have ht : ¬GitLogin.Sendable t := by simpa using ht
        simp only [Part.sendAny_of_not_sendable ht]
        exact .badSecret hu ht
  · cases u with
    | none => simp at hu
    | some u =>
      have hu : ¬GitLogin.Sendable u := by simpa using hu
      rw [send, Part.sendAny_of_not_sendable hu]
      exact .badUsername hu

end Credential

namespace Source

theorem lines_ofString_newline {line : String} (hl : '\n' ∉ line.toList) (rest : String) :
    (ofString (line ++ "\n" ++ rest)).lines = some (line ++ "\n") :: (ofString rest).lines := by
  have hb : newline ∉ Text.Utf8.encode line := by rwa [Text.Utf8.newline_mem_encode]
  have hbytes : Text.Utf8.encode (line ++ "\n" ++ rest) =
      Text.Utf8.encode line ++ newline :: Text.Utf8.encode rest := by
    rw [Text.Utf8.encode_append, Text.Utf8.encode_append, Text.Utf8.encode_newline,
      List.append_assoc, List.singleton_append]
  have hline : Text.Utf8.encode line ++ [newline] = Text.Utf8.encode (line ++ "\n") := by
    rw [Text.Utf8.encode_append, Text.Utf8.encode_newline]
  simp only [ofString, ofBytes, hbytes, cutLines_append_newline hb, hline]
  simp [-Text.Utf8.encode_append]

theorem typed_text (p : Part) {value : Option String} (hv : ∀ v ∈ value, Sendable v)
    (rest : String) : (ofString (p.text value ++ rest)).typed =
      ((value.map p.line).toList.map some) ++ (ofString rest).typed := by
  cases value with
  | none => simp [Part.text]
  | some v =>
    have hs : Sendable (p.name ++ "=" ++ v) := p.sendable_entry (hv v rfl)
    have hline : Text.withoutEnding (p.name ++ "=" ++ v ++ "\n") = p.line v := by
      rw [Text.withoutEnding_newline]
      exact Text.withoutEnding_of_all hs.lineEnd
    rw [typed, Part.text, lines_ofString_newline hs.newline_notMem, List.map_cons, Option.map_some,
      hline]
    rfl

theorem typedLines_text {c : Credential} (hc : c.Sendable) :
    typedLines (Text.Utf8.encode c.text) false = c.lines.map some := by
  have hsecret := typed_text .password hc.secret ""
  rw [String.append_empty] at hsecret
  rw [← typed_ofBytes, Credential.text, Credential.lines, List.map_append]
  change (ofString _).typed = _
  rw [typed_text .username hc.username, hsecret]
  change _ ++ (_ ++ []) = _
  rw [List.append_nil]

end Source

namespace Request

variable [UrlParser] {p : Part} {r : Request} {lines : List (Option String)} {broken : Bool}
  {number : Nat}

theorem readLines_part {value : String} (hv : Sendable value) :
    readLines broken number r (some (p.name ++ "=" ++ value ++ "\n") :: lines) =
      readLines broken (number + 1) (p.fill (some value) r) lines := by
  have hentry : Text.withoutEnding (p.name ++ "=" ++ value ++ "\n") = p.name ++ "=" ++ value := by
    rw [Text.withoutEnding_newline]
    exact Text.withoutEnding_of_all (p.sendable_entry hv).lineEnd
  have hcut : Text.cut? '=' (p.name ++ "=" ++ value) = some (p.name, value) :=
    Text.cut?_append p.equals_notMem_name value
  have hne : (p.name ++ "=" ++ value).isEmpty = false := by
    cases p <;> simp [Part.name]
  rw [readLines]
  simp [hentry, hcut, hne]

theorem readLines_text (p : Part) (broken : Bool) (number : Nat) (r : Request)
    {value : Option String} (hv : ∀ v ∈ value, Sendable v) (rest : String) :
    ∃ m, readLines broken number r (Source.ofString (p.text value ++ rest)).lines =
      readLines broken m (p.fill value r) (Source.ofString rest).lines := by
  cases value with
  | none => exact ⟨number, by cases p <;> simp [Part.text, Part.fill]⟩
  | some v =>
    refine ⟨number + 1, ?_⟩
    rw [Part.text, Source.lines_ofString_newline (p.sendable_entry (hv v rfl)).newline_notMem]
    exact readLines_part (hv v rfl)

theorem read_text {c : Credential} (hc : c.Sendable) :
    read (Source.ofString c.text) = .ok { username := c.username, password := c.secret } := by
  obtain ⟨m, hm⟩ := readLines_text .username false 1 {} hc.username (Part.password.text c.secret)
  obtain ⟨n, hn⟩ := readLines_text .password false m (Part.username.fill c.username {}) hc.secret ""
  rw [String.append_empty] at hn
  rw [read, Credential.text]
  change readLines false _ _ _ = _
  rw [hm, hn]
  obtain ⟨u, t⟩ := c
  cases u <;> cases t <;> rfl

end Request

theorem Credential.send_eq_ok_iff {w : Sink} (hw : w.Reliable) {c : Credential} :
    (c.send w).1 = .ok () ↔ c.Sendable := by
  have hsent := c.sent hw
  generalize (c.send w).1 = result, (c.send w).2 = w' at hsent
  cases hsent with
  | whole hc => simpa using hc
  | badUsername hu => simpa using fun hc : Sendable _ => hu (hc.username _ rfl)
  | badSecret _ ht => simpa using fun hc : Sendable _ => ht (hc.secret _ rfl)

theorem Credential.written_send {w : Sink} (hw : w.Reliable) {c : Credential} (hc : c.Sendable) :
    (c.send w).2.written = w.written ++ Text.Utf8.encode c.text := by
  have hsent := c.sent hw
  rw [(Credential.send_eq_ok_iff hw).2 hc] at hsent
  generalize (c.send w).2 = w' at hsent
  cases hsent with
  | whole => rfl

/-- Sending and reading are inverse. A credential can be sent exactly if no part of it has a line
break or a NUL; what is written then has one line for each part, is read as the credential and as
nothing else, and is written for no other credential. -/
theorem send_read [UrlParser] (c : Credential) (before : List UInt8) :
    let sink : Sink := { written := before }
    ((c.send sink).1 = .ok () ↔ ∀ v, c.username = some v ∨ c.secret = some v →
      '\n' ∉ v.toList ∧ '\r' ∉ v.toList ∧ '\x00' ∉ v.toList) ∧
    ((c.send sink).1 = .ok () → ∃ bytes, (c.send sink).2.written = before ++ bytes ∧
      typedLines bytes false = c.lines.map some ∧
      Request.read (Source.ofBytes bytes false) =
        .ok { username := c.username, password := c.secret }) ∧
    (∀ c' : Credential, (c.send sink).1 = .ok () → (c'.send sink).1 = .ok () →
      (c.send sink).2.written = (c'.send sink).2.written → c = c') := by
  intro sink
  have hw : sink.Reliable := Sink.reliable_empty.withWritten before
  simp only [Credential.send_eq_ok_iff hw]
  refine ⟨?_, ?_, ?_⟩
  · rw [Credential.sendable_iff]
    exact forall_congr' fun v => imp_congr_right fun _ => sendable_iff
  · intro hc
    exact ⟨_, Credential.written_send hw hc, Source.typedLines_text hc, Request.read_text hc⟩
  · intro c' hc hc' heq
    rw [Credential.written_send hw hc, Credential.written_send hw hc', List.append_cancel_left_eq]
      at heq
    have hread :
        Request.read (Source.ofString c.text) = Request.read (Source.ofString c'.text) := by
      rw [Source.ofString, Source.ofString, heq]
    rw [Request.read_text hc, Request.read_text hc'] at hread
    simp only [Except.ok.injEq, Request.mk.injEq, true_and] at hread
    obtain ⟨u, t⟩ := c
    obtain ⟨rfl, rfl⟩ := hread
    rfl

end GitLogin

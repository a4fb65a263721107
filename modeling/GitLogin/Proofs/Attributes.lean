import GitLogin.Proofs.Answer
import GitLogin.Url.Parser
import Mathlib.Data.List.Forall2
import Mathlib.Data.List.TakeWhile

/-!
The attributes of a request. `read_ofBytes`: a request is read from lines of `key=value` up to a
blank one; of each part the last line counts that gives it, and the first line that is none of
these makes the error.
-/

namespace GitLogin

namespace Text

variable {c : Char} {s before after : String}

theorem cut?_eq_none (h : c ∉ s.toList) : cut? c s = none := by
  have hdrop : s.toList.dropWhile (· != c) = [] :=
    List.dropWhile_eq_nil_iff.2 (Text.forall_bne h)
  rw [cut?, hdrop]

theorem exists_cut (h : c ∈ s.toList) :
    ∃ before after, c ∉ before.toList ∧ s = before ++ .singleton c ++ after := by
  obtain ⟨before, after, hs, hbefore⟩ := List.eq_append_cons_of_mem h
  refine ⟨.ofList before, .ofList after, by simpa using hbefore, ?_⟩
  apply String.toList_inj.1
  simp [hs]

end Text

namespace Url

def requestHost (u : Url) : Option String :=
  match u.host, u.port with
  | none, _ => none
  | some host, none => some host
  | some host, some port => some (host ++ ":" ++ toString port)

def requestPath (u : Url) : Option String :=
  let path := u.path.toList.dropWhile (· = '/')
  if path = [] then none else some (.ofList path)

def requestUsername (u : Url) : Option String :=
  if u.username = "" then none else some u.username

end Url

structure Attribute where
  key : String
  value : String
  deriving DecidableEq

namespace Request

def header (lines : List (Option String)) : List (Option String) :=
  lines.takeWhile (· != some "")

theorem header_cases (lines : List (Option String)) :
    lines = header lines ∨ ∃ after, lines = header lines ++ some "" :: after := by
  have hsplit := List.takeWhile_append_dropWhile (p := (· != some "")) (l := lines)
  have hhead := List.head?_dropWhile_not (· != some "") lines
  cases hdrop : lines.dropWhile (· != some "") with
  | nil =>
    rw [hdrop, List.append_nil] at hsplit
    exact .inl hsplit.symm
  | cons line after =>
    rw [hdrop, List.head?_cons] at hhead
    obtain rfl : line = some "" := by simpa using hhead
    rw [hdrop] at hsplit
    exact .inr ⟨after, hsplit.symm⟩

theorem hostAndPort_eq_requestHost (u : Url) : hostAndPort u = u.requestHost := by
  obtain ⟨scheme, username, password, host, port, path⟩ := u
  cases host with
  | none => rfl
  | some host =>
    cases port with
    | none => exact congrArg some (String.append_empty)
    | some port => exact congrArg some (String.append_assoc ..).symm

theorem applyUrl_eq (r : Request) (u : Url) : r.applyUrl u = {
    protocol := some u.scheme
    host := u.requestHost <|> r.host
    path := u.requestPath <|> r.path
    username := u.requestUsername <|> r.username
    password := u.password <|> r.password } := by
  have hpath : Text.nonEmpty? (Text.dropStart isSlash u.path) = u.requestPath := by
    have hslash : isSlash = fun c => decide (c = '/') := by
      funext c
      exact beq_eq_decide c _
    simp only [Text.nonEmpty?, Text.dropStart, hslash, Url.requestPath, String.isEmpty_iff,
      String.ofList_eq_empty_iff]
  have hname : Text.nonEmpty? u.username = u.requestUsername := by
    simp only [Text.nonEmpty?, Url.requestUsername, String.isEmpty_iff]
  rw [applyUrl, hostAndPort_eq_requestHost, hpath, hname]

end Request

section Reading

variable [UrlParser]

namespace Attribute

/-- A line that holds an attribute. The key ends at the first equals sign, and the value of a `url`
has to be one. -/
structure Written (line : Option String) (a : Attribute) : Prop where
  line_eq : line = some (a.key ++ "=" ++ a.value)
  equals_notMem : '=' ∉ a.key.toList
  url : a.key = "url" → ∃ u, UrlParser.parse a.value = .ok u

def url? (a : Attribute) : Option Url :=
  if a.key = "url" then (UrlParser.parse a.value).toOption else none

/-- What an attribute gives for a part of the request: its value if it has the key of the part, and
otherwise what its URL has. -/
def gives (key : String) (part : Url → Option String) (a : Attribute) : Option String :=
  if a.key = key then some a.value else a.url?.bind part

def latest (key : String) (part : Url → Option String) (as : List Attribute) : Option String :=
  (as.filterMap (gives key part)).getLast?

@[simp] theorem latest_append (key : String) (part : Url → Option String) (as : List Attribute)
    (a : Attribute) :
    latest key part (as ++ [a]) = (a.gives key part <|> latest key part as) := by
  cases h : a.gives key part <;> simp [latest, h]

theorem latest_cons {key value : String} {part : Url → Option String} {a : Attribute}
    (ha : a.gives key part = some value) (as : List Attribute) {bs : List Attribute}
    (hbs : latest key part bs = none) : latest key part (as ++ a :: bs) = some value := by
  rw [latest, List.getLast?_eq_none_iff] at hbs
  rw [latest, List.filterMap_append, List.filterMap_cons_some ha, hbs, List.getLast?_concat]

end Attribute

open Attribute

namespace Request

/-- Why a line holds no attribute, if it is the one with this number. -/
inductive Offends (number : Nat) : Option String → HelperError → Prop
  | notUtf8 : Offends number none (.io .notUtf8)
  | malformed {line : String} : line ≠ "" → '=' ∉ line.toList →
      Offends number (some line) (.malformedLine number)
  | badUrl {value : String} {e : UrlError} : UrlParser.parse value = .error e →
      Offends number (some ("url=" ++ value)) (.invalidUrl e)

def ofAttributes (as : List Attribute) : Request where
  protocol := latest "protocol" (fun u => some u.scheme) as
  host := latest "host" Url.requestHost as
  path := latest "path" Url.requestPath as
  username := latest "username" Url.requestUsername as
  password := latest "password" Url.password as

variable {as : List Attribute} {a : Attribute} {line : Option String}

theorem apply_written (ha : a.Written line) :
    (ofAttributes as).apply a.key a.value = .ok (ofAttributes (as ++ [a])) := by
  -- a `url` gives every part that its URL has, and any other key at most its own
  obtain ⟨key, value⟩ := a
  by_cases hkey : key = "url"
  · obtain ⟨u, hu⟩ := ha.url hkey
    simp only at hu
    simp [hkey, apply, hu, ofAttributes, applyUrl_eq, gives, url?, Except.mapError, Except.map,
      Except.toOption]
  · have hurl : url? ⟨key, value⟩ = none := if_neg hkey
    rw [apply.eq_def]
    split <;> simp_all [ofAttributes, gives]

theorem ofUrl_ok {text : String} {u : Url} (hu : UrlParser.parse text = .ok u) :
    ofUrl text = .ok (applyUrl {} u) := by
  rw [ofUrl, hu]
  rfl

theorem ofUrl_error {text : String} {e : UrlError} (hu : UrlParser.parse text = .error e) :
    ofUrl text = .error (.invalidUrl e) := by
  rw [ofUrl, hu]
  rfl

theorem line_cases (number : Nat) (line : Option String) :
    line = some "" ∨ (∃ a : Attribute, a.Written line) ∨ ∃ e, Offends number line e := by
  cases line with
  | none => exact .inr (.inr ⟨_, .notUtf8⟩)
  | some text =>
    by_cases hempty : text = ""
    · exact .inl (congrArg some hempty)
    right
    by_cases hmem : '=' ∈ text.toList
    · obtain ⟨key, value, htext, hkey⟩ := List.eq_append_cons_of_mem hmem
      obtain rfl : text = .ofList key ++ "=" ++ .ofList value := by
        apply String.toList_inj.1
        simp [htext]
      rw [← @String.toList_ofList key] at hkey
      by_cases hurl : String.ofList key = "url"
      · cases hu : UrlParser.parse (.ofList value) with
        | error e =>
          rw [hurl]
          exact .inr ⟨_, .badUrl hu⟩
        | ok u => exact .inl ⟨⟨_, _⟩, rfl, hkey, fun _ => ⟨u, hu⟩⟩
      · exact .inl ⟨⟨_, _⟩, rfl, hkey, fun h => absurd h hurl⟩
    · exact .inr ⟨_, .malformed hempty hmem⟩

section Lines

variable {broken : Bool} {number : Nat} {r : Request} {raw : Option String}
  {lines : List (Option String)}

theorem readLines_blank (h : raw.map Text.withoutEnding = some "") :
    readLines broken number r (raw :: lines) = .ok r := by
  obtain ⟨text, rfl, hchomp⟩ := Option.map_eq_some_iff.1 h
  simp [readLines, hchomp]

theorem readLines_cons (ha : a.Written (raw.map Text.withoutEnding)) :
    readLines broken number (ofAttributes as) (raw :: lines) =
      readLines broken (number + 1) (ofAttributes (as ++ [a])) lines := by
  obtain ⟨text, rfl, hchomp⟩ := Option.map_eq_some_iff.1 ha.line_eq
  have hcut : Text.cut? '=' (a.key ++ "=" ++ a.value) = some (a.key, a.value) :=
    Text.cut?_append ha.equals_notMem a.value
  simp [readLines, hchomp, hcut, apply_written ha]

theorem readLines_offends {e : HelperError} (h : Offends number (raw.map Text.withoutEnding) e) :
    readLines broken number r (raw :: lines) = .error e := by
  generalize htext : raw.map Text.withoutEnding = text at h
  cases h with
  | notUtf8 =>
    cases raw with
    | none => rfl
    | some => cases htext
  | malformed hne hmem =>
    obtain ⟨text, rfl, hchomp⟩ := Option.map_eq_some_iff.1 htext
    simp [readLines, hchomp, hne, Text.cut?_eq_none hmem]
  | @badUrl value e he =>
    obtain ⟨text, rfl, hchomp⟩ := Option.map_eq_some_iff.1 htext
    have hcut : Text.cut? '=' ("url=" ++ value) = some ("url", value) :=
      Text.cut?_append (by decide : '=' ∉ "url".toList) value
    simp [readLines, hchomp, hcut, apply, he, Except.mapError, Except.map]

theorem readLines_append {before : List (Option String)} {as' : List Attribute}
    (h : List.Forall₂ (fun raw a => Written (raw.map Text.withoutEnding) a) before as')
    (as : List Attribute) (number : Nat) :
    readLines broken number (ofAttributes as) (before ++ lines) =
      readLines broken (number + before.length) (ofAttributes (as ++ as')) lines := by
  induction h generalizing as number with
  | nil => simp
  | @cons raw a before as' ha _ ih =>
    rw [List.cons_append, readLines_cons ha, ih, List.length_cons, List.append_assoc,
      Nat.add_right_comm, ← Nat.add_assoc]
    rfl

end Lines

theorem exists_attributes (lines : List (Option String)) (number : Nat) :
    ∃ before rest as, lines = before ++ rest ∧ List.Forall₂ Written before as ∧
      (rest = [] ∨ (∃ after, rest = some "" :: after) ∨
        ∃ line after e, rest = line :: after ∧ Offends (before.length + number) line e) := by
  -- each line is blank, holds an attribute or offends, and the number counts from the first one
  induction lines generalizing number with
  | nil => exact ⟨[], [], [], rfl, .nil, .inl rfl⟩
  | cons line lines ih =>
    rcases line_cases number line with rfl | ⟨a, ha⟩ | ⟨e, he⟩
    · exact ⟨[], _, [], rfl, .nil, .inr (.inl ⟨lines, rfl⟩)⟩
    · obtain ⟨before, rest, as, rfl, has, hrest⟩ := ih (number + 1)
      refine ⟨line :: before, rest, a :: as, rfl, .cons ha has, ?_⟩
      rwa [List.length_cons, Nat.add_right_comm]
    · exact ⟨[], _, [], rfl, .nil, .inr (.inr ⟨line, lines, e, rfl, by simpa using he⟩)⟩

section Read

variable {i : Source} {before rest after : List (Option String)}

theorem read_append (htyped : i.typed = before ++ rest) (has : List.Forall₂ Written before as) :
    ∃ raw, raw.map (Option.map Text.withoutEnding) = rest ∧
      read i = readLines i.broken (before.length + 1) (ofAttributes as) raw := by
  obtain ⟨raw, raw', hlines, rfl, rfl⟩ := List.map_eq_append_iff.1 htyped
  refine ⟨raw', rfl, ?_⟩
  rw [read, hlines, List.length_map, Nat.add_comm]
  exact readLines_append (List.forall₂_map_left_iff.1 has) [] 1

theorem read_end (htyped : i.typed = before) (has : List.Forall₂ Written before as) :
    read i = if i.broken then .error (.io .readFailed) else .ok (ofAttributes as) := by
  rw [← List.append_nil before] at htyped
  obtain ⟨raw, hraw, hread⟩ := read_append htyped has
  rw [hread, List.map_eq_nil_iff.1 hraw, readLines]

theorem read_blank (htyped : i.typed = before ++ some "" :: after)
    (has : List.Forall₂ Written before as) : read i = .ok (ofAttributes as) := by
  obtain ⟨raw, hraw, hread⟩ := read_append htyped has
  obtain ⟨line, lines, rfl, hline, -⟩ := List.map_eq_cons_iff.1 hraw
  rw [hread, readLines_blank hline]

theorem read_offends {e : HelperError} (htyped : i.typed = before ++ line :: after)
    (has : List.Forall₂ Written before as) (he : Offends (before.length + 1) line e) :
    read i = .error e := by
  obtain ⟨raw, hraw, hread⟩ := read_append htyped has
  obtain ⟨line, lines, rfl, rfl, -⟩ := List.map_eq_cons_iff.1 hraw
  rw [hread, readLines_offends he]

theorem blank_notMem (has : List.Forall₂ Written before as) : some "" ∉ before := by
  induction has with
  | nil => simp
  | @cons line a before as ha _ ih =>
    rw [List.mem_cons, not_or]
    refine ⟨?_, ih⟩
    rw [ha.line_eq]
    simp

theorem read_eq_of_blank {j : Source} {lines after' : List (Option String)}
    (hi : i.typed = lines ++ after) (hj : j.typed = lines ++ after') (hblank : some "" ∈ lines) :
    read i = read j := by
  obtain ⟨before, rest, as, rfl, has, rfl | ⟨xs, rfl⟩ | ⟨line, xs, e, rfl, he⟩⟩ :=
    exists_attributes lines 1
  · rw [List.append_nil] at hblank
    exact absurd hblank (blank_notMem has)
  · rw [List.append_assoc] at hi hj
    rw [read_blank hi has, read_blank hj has]
  · rw [List.append_assoc] at hi hj
    rw [read_offends hi has he, read_offends hj has he]

theorem header_of_written (has : List.Forall₂ Written before as) : header before = before := by
  refine List.takeWhile_eq_self_iff.2 fun line hline => ?_
  rw [bne_iff_ne]
  rintro rfl
  exact blank_notMem has hline

theorem header_append_blank (has : List.Forall₂ Written before as) :
    header (before ++ some "" :: after) = before := by
  have hself := header_of_written has
  rw [header, List.takeWhile_eq_self_iff] at hself
  rw [header, List.takeWhile_append_of_pos hself]
  simp

theorem read_ok_iff {q : Request} : read i = .ok q ↔ (i.broken = true → some "" ∈ i.typed) ∧
    ∃ as, List.Forall₂ Written (header i.typed) as ∧ q = ofAttributes as := by
  constructor
  · intro hread
    obtain ⟨before, rest, as, htyped, has, rfl | ⟨xs, rfl⟩ | ⟨line, xs, e, rfl, he⟩⟩ :=
      exists_attributes i.typed 1
    · rw [List.append_nil] at htyped
      rw [read_end htyped has] at hread
      rw [htyped, header_of_written has]
      split at hread
      · cases hread
      · next hb =>
        cases hread
        exact ⟨fun h => absurd h hb, as, has, rfl⟩
    · rw [read_blank htyped has] at hread
      cases hread
      rw [htyped, header_append_blank has]
      exact ⟨fun _ => by simp, as, has, rfl⟩
    · rw [read_offends htyped has he] at hread
      cases hread
  · rintro ⟨hb, as, has, rfl⟩
    rcases header_cases i.typed with htyped | ⟨after, htyped⟩
    · rw [read_end htyped has, if_neg]
      intro hbroken
      rw [htyped] at hb
      exact blank_notMem has (hb hbroken)
    · exact read_blank htyped has

theorem read_error_iff {e : HelperError} : read i = .error e ↔
    (∃ before line after as, i.typed = before ++ line :: after ∧
      List.Forall₂ Written before as ∧ Offends (before.length + 1) line e) ∨
    i.broken = true ∧ (∃ as, List.Forall₂ Written i.typed as) ∧ e = .io .readFailed := by
  constructor
  · intro hread
    obtain ⟨before, rest, as, htyped, has, rfl | ⟨xs, rfl⟩ | ⟨line, xs, e', rfl, he⟩⟩ :=
      exists_attributes i.typed 1
    · rw [List.append_nil] at htyped
      rw [read_end htyped has] at hread
      split at hread
      · next hb =>
        cases hread
        exact .inr ⟨hb, ⟨as, htyped ▸ has⟩, rfl⟩
      · cases hread
    · rw [read_blank htyped has] at hread
      cases hread
    · rw [read_offends htyped has he] at hread
      cases hread
      exact .inl ⟨before, line, xs, as, htyped, has, he⟩
  · rintro (⟨before, line, after, as, htyped, has, he⟩ | ⟨hb, ⟨as, has⟩, rfl⟩)
    · exact read_offends htyped has he
    · rw [read_end rfl has, if_pos hb]

end Read

end Request

/-- A request is read exactly from lines of attributes: all lines before the first blank one, which
has to come if the input breaks off. Each part has the last value that is given for it. An error is
that of the first line that holds no attribute, and nothing after a blank line counts. -/
theorem read_ofBytes (bytes : List UInt8) (broken : Bool) :
    let lines := typedLines bytes broken
    let result := Request.read (Source.ofBytes bytes broken)
    (∀ q, result = .ok q ↔ (broken = true → some "" ∈ lines) ∧
      ∃ as, List.Forall₂ Written (Request.header lines) as ∧ q = .ofAttributes as) ∧
    (∀ e, result = .error e ↔
      (∃ before line after as, lines = before ++ line :: after ∧
        List.Forall₂ Written before as ∧ Request.Offends (before.length + 1) line e) ∨
      broken = true ∧ (∃ as, List.Forall₂ Written lines as) ∧ e = .io .readFailed) ∧
    (∀ head tail tail' broken', bytes = head ++ Source.newline :: tail →
      some "" ∈ typedLines (head ++ [Source.newline]) false →
      Request.read (Source.ofBytes (head ++ Source.newline :: tail') broken') = result) := by
  intro lines result
  refine ⟨fun q => ?_, fun e => ?_, ?_⟩
  · rw [Request.read_ok_iff, Source.typed_ofBytes]
    rfl
  · rw [Request.read_error_iff, Source.typed_ofBytes]
    rfl
  · rintro head tail tail' broken' rfl hblank
    exact Request.read_eq_of_blank ((Source.typed_ofBytes ..).trans (typedLines_append ..))
      ((Source.typed_ofBytes ..).trans (typedLines_append ..)) hblank

end Reading

theorem read_ofBytes_returns :
    let bytes := Text.Utf8.encode "host=example.com\r\r\npath=a=b\r\n\r\nprotocol"
    typedLines bytes true = [some "host=example.com", some "path=a=b", some ""] ∧
      Request.read (Source.ofBytes bytes true) =
        .ok { host := some "example.com", path := some "a=b" } := by
  -- line endings of one and of two carriage returns, and a read that fails after the blank line
  intro bytes
  have hlines : typedLines bytes true = [some "host=example.com", some "path=a=b", some ""] := by
    decide
  have hhost : Attribute.Written (some "host=example.com") ⟨"host", "example.com"⟩ :=
    ⟨rfl, by decide, fun hurl => absurd hurl (by decide)⟩
  have hpath : Attribute.Written (some "path=a=b") ⟨"path", "a=b"⟩ :=
    ⟨rfl, by decide, fun hurl => absurd hurl (by decide)⟩
  obtain ⟨hread, -, -⟩ := read_ofBytes bytes true
  refine ⟨hlines, (hread _).2 ⟨fun _ => ?_, [⟨"host", "example.com"⟩, ⟨"path", "a=b"⟩], ?_, ?_⟩⟩
  · rw [hlines]
    decide
  · rw [hlines]
    exact .cons hhost (.cons hpath .nil)
  · decide

end GitLogin

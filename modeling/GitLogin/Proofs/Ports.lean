import GitLogin.Form.Layout
import GitLogin.Proofs.Answer
import GitLogin.Url.Parser

namespace GitLogin

namespace Text

theorem cutLast?_append {c : Char} {last : String} (hlast : c ∉ last.toList) (before : String) :
    cutLast? c (before ++ .singleton c ++ last) = some (before, last) := by
  have hp := forall_bne (mt List.mem_reverse.1 hlast)
  have htext : (before ++ .singleton c ++ last).toList.reverse =
      last.toList.reverse ++ c :: before.toList.reverse := by simp
  rw [cutLast?, htext, List.dropWhile_append_of_pos hp, List.takeWhile_append_of_pos hp]
  simp

theorem cutLast?_eq_none {c : Char} {s : String} (h : c ∉ s.toList) : cutLast? c s = none := by
  have hdrop : s.toList.reverse.dropWhile (· != c) = [] :=
    List.dropWhile_eq_nil_iff.2 (forall_bne (mt List.mem_reverse.1 h))
  rw [cutLast?, hdrop]

theorem afterStart?_append (start rest : String) :
    afterStart? start (start ++ rest) = some rest := by
  have hdrop : (start ++ rest).toList.drop start.length = rest.toList := by
    rw [String.toList_append, ← String.length_toList, List.drop_left]
  rw [afterStart?, if_pos (by simp), hdrop, String.ofList_toList]

theorem afterStart?_eq_none {c : Char} {s : String} (h : s.toList.head? ≠ some c) :
    afterStart? (.singleton c) s = none := by
  rw [afterStart?, if_neg]
  intro hp
  obtain ⟨rest, hrest⟩ := List.isPrefixOf_iff_prefix.1 hp
  exact h (hrest ▸ by simp)

end Text

namespace Request

variable {host address : String}

theorem bareHost_name (hcolon : ':' ∉ host.toList) (hstart : host.toList.head? ≠ some '[') :
    bareHost host = host := by
  have hname : Text.afterStart? "[" host = none := Text.afterStart?_eq_none (c := '[') hstart
  simp only [bareHost, hname, Text.cutLast?_eq_none hcolon]

theorem bareHost_name_port (hstart : host.toList.head? ≠ some '[') {digits : String}
    (hne : digits ≠ "") (hdigits : digits.toList.all Char.isDigit) :
    bareHost (host ++ ":" ++ digits) = host := by
  have hname : Text.afterStart? "[" (host ++ ":" ++ digits) = none := by
    apply Text.afterStart?_eq_none (c := '[')
    cases hhost : host.toList with
    | nil => simp [hhost]
    | cons c cs => simpa [hhost] using hstart
  have hcolon : ':' ∉ digits.toList := by
    intro hmem
    exact absurd (List.all_eq_true.1 hdigits ':' hmem) (by decide)
  have hcut : Text.cutLast? ':' (host ++ ":" ++ digits) = some (host, digits) :=
    Text.cutLast?_append hcolon host
  simp only [bareHost, hname, hcut]
  rw [if_pos (by simp [hne, hdigits])]

theorem bareHost_address (hclose : ']' ∉ address.toList) (rest : String) :
    bareHost ("[" ++ address ++ "]" ++ rest) = address := by
  have hcut : Text.cut? ']' (address ++ "]" ++ rest) = some (address, rest) :=
    Text.cut?_append hclose rest
  have htext : "[" ++ address ++ "]" ++ rest = "[" ++ (address ++ "]" ++ rest) := by
    simp only [String.append_assoc]
  rw [htext, bareHost, Text.afterStart?_append]
  simp only [hcut]
  rfl

/-- How a host is written, without a port: a name as it is, and an address in brackets. -/
inductive HostForm : (written bare : String) → Prop
  | name {name : String} : name ≠ "" → ':' ∉ name.toList → name.toList.head? ≠ some '[' →
      HostForm name name
  | address {address : String} : address ≠ "" → ']' ∉ address.toList →
      HostForm ("[" ++ address ++ "]") address

def IsPort (port : String) : Prop := port ≠ "" ∧ port.toList.all Char.isDigit

instance (port : String) : Decidable (IsPort port) := inferInstanceAs (Decidable (_ ∧ _))

theorem isPort_toString (n : Nat) : IsPort (toString n) := by
  rw [IsPort, Nat.toString_eq_ofList_toDigits, List.all_eq_true, String.toList_ofList]
  constructor
  · simp
  · intro c hc
    exact Nat.isDigit_of_mem_toDigits (by decide) (by decide) hc

def withPort (written : String) (port : Option String) : String :=
  written ++ (port.map (":" ++ ·)).getD ""

section Forms

variable {written bare : String} {port : Option String}

theorem bareHost_withPort (hcolon : ':' ∉ host.toList) (hstart : host.toList.head? ≠ some '[')
    (hport : ∀ p ∈ port, IsPort p) : bareHost (withPort host port) = host := by
  cases port with
  | none => rw [withPort, Option.map_none, Option.getD_none, String.append_empty,
      bareHost_name hcolon hstart]
  | some p =>
    obtain ⟨hp, hdigits⟩ := hport p rfl
    rw [withPort, Option.map_some, Option.getD_some, ← String.append_assoc,
      bareHost_name_port hstart hp hdigits]

theorem HostForm.bare_ne_empty (h : HostForm written bare) : bare ≠ "" := by
  cases h with
  | name hne _ _ => exact hne
  | address hne _ => exact hne

theorem HostForm.bareHost_withPort (h : HostForm written bare) (hport : ∀ p ∈ port, IsPort p) :
    bareHost (withPort written port) = bare := by
  cases h with
  | name _ hcolon hstart => exact Request.bareHost_withPort hcolon hstart hport
  | address _ hclose => exact bareHost_address hclose _

theorem HostForm.host_remote (h : HostForm written bare) (hport : ∀ p ∈ port, IsPort p)
    {q : Request} (hq : q.host = some (withPort written port)) : q.remote.host = some bare := by
  change Text.nonEmpty? (bareHost (q.host.getD "")) = some bare
  rw [hq, Option.getD_some, h.bareHost_withPort hport, Text.nonEmpty?,
    if_neg (by simpa using h.bare_ne_empty)]

theorem hostAndPort_eq (u : Url) :
    hostAndPort u = u.host.map (withPort · (u.port.map toString)) := by
  simp only [hostAndPort, withPort, Option.map_map]
  rfl

theorem isPort_port (u : Url) : ∀ p ∈ u.port.map toString, IsPort p := by
  intro p hp
  obtain ⟨n, -, rfl⟩ := Option.map_eq_some_iff.1 hp
  exact isPort_toString n

end Forms

end Request

open Request

/-- A request for a host with a port is for the same remote as one without it: for a name, and for
an address in brackets. Only the URI keeps what was written. A request that takes its host, and
maybe a port, from a URL is for the host of the URL, without brackets. -/
theorem remote_withPort (q : Request) :
    (∀ written bare port, HostForm written bare → (∀ p ∈ port, IsPort p) →
      let plain := { q with host := some written }.remote
      let r := { q with host := some (withPort written port) }.remote
      r.host = some bare ∧ plain.host = some bare ∧ r.path = plain.path ∧
        r.provider = plain.provider ∧
        (∀ prior, r.defaultUsername prior = plain.defaultUsername prior) ∧
        r.uri = q.protocol.getD "https" ++ "://" ++ withPort written port ++ r.path.getD "") ∧
    (∀ (u : Url) host bare, u.host = some host → HostForm host bare →
      (q.applyUrl u).remote.host = some bare ∧
        (q.applyUrl u).host = some (withPort host (u.port.map toString))) := by
  refine ⟨?_, ?_⟩
  · intro written bare port hform hport plain r
    have halone : withPort written none = written := by
      rw [withPort, Option.map_none, Option.getD_none, String.append_empty]
    have hno : ∀ p ∈ (none : Option String), IsPort p := nofun
    have hplain : plain.host = some bare := hform.host_remote hno (congrArg some halone.symm)
    have hr : r.host = some bare := hform.host_remote hport rfl
    have hprovider : r.provider = plain.provider := by
      rw [Remote.provider, hr, Remote.provider, hplain]
    refine ⟨hr, hplain, rfl, hprovider, fun prior => ?_, rfl⟩
    rw [Remote.defaultUsername, hprovider]
    rfl
  · intro u host bare hhost hform
    have hwritten : (q.applyUrl u).host = some (withPort host (u.port.map toString)) := by
      simp only [applyUrl, hostAndPort_eq, hhost]
      rfl
    exact ⟨hform.host_remote (isPort_port u) hwritten, hwritten⟩

theorem remote_withPort_gitHub :
    let q : Request := { path := some "octocat/x" }
    let url : Url := { scheme := "ssh", host := some "[::1]", port := some 22, path := "" }
    let r := { q with host := some (withPort "github.com" (some "8443")) }.remote
    HostForm "github.com" "github.com" ∧ IsPort "8443" ∧
      UrlParser.parse "ssh://[::1]:22" = .ok url ∧ HostForm "[::1]" "::1" ∧
      r.provider = .gitHub ∧ r.defaultUsername none = some "octocat" ∧
      (q.applyUrl url).remote.host = some "::1" := by
  -- GitHub is GitHub at any port, and a loopback address keeps its colons
  intro q url r
  have hform : HostForm "github.com" "github.com" := .name (by decide) (by decide) (by decide)
  have haddress : HostForm "[::1]" "::1" := @HostForm.address "::1" (by decide) (by decide)
  have hport : IsPort "8443" := by decide
  have hurl : UrlParser.parse "ssh://[::1]:22" = .ok url := by decide
  obtain ⟨hwritten, hread⟩ := remote_withPort q
  obtain ⟨-, -, -, hprovider, husername, -⟩ :=
    hwritten "github.com" "github.com" (some "8443") hform (by simpa using hport)
  obtain ⟨hhost, -⟩ := hread url "[::1]" "::1" rfl haddress
  refine ⟨hform, hport, hurl, haddress, hprovider.trans ?_, (husername none).trans ?_, hhost⟩
  · decide
  · decide

end GitLogin

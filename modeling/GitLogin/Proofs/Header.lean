import GitLogin.Form.Layout
import GitLogin.Proofs.Elision

namespace GitLogin

/-- The header for a remote without a key shows a URI that fits as it is, and of any other exactly as
many characters as fit. Where nothing fits one character is shown all the same, and this is the
only case in which there are too many. -/
theorem header_width {r : Remote} (hkey : r.keyFile = none) (prior : Option Credential)
    (settings : Settings) : ∃ shown, (Layout.of r prior settings).message = "Log in to " ++ shown ∧
      (r.uri.length ≤ settings.uriWidth → shown = r.uri) ∧
      (settings.uriWidth < r.uri.length → shown.length = max 1 settings.uriWidth) ∧
      (shown.length ≤ settings.uriWidth ↔ 0 < settings.uriWidth ∨ r.uri = "") := by
  refine ⟨Text.elide settings.uriWidth r.uri, ?_, Text.elide_of_fits, Text.length_elide,
    Text.length_elide_le_iff⟩
  simp only [Layout.of, Layout.headerFor, hkey]
  rfl

theorem header_width_port :
    let r : Remote := { uri := "ssh://höst:22/" }
    let settings : Settings := { uriWidth := 13 }
    r.keyFile = none ∧ settings.uriWidth < r.uri.length ∧
      ∃ shown, (Layout.of r none settings).message = "Log in to " ++ shown ∧ shown.length = 13 := by
  -- one character less than the URI has
  intro r settings
  have hkey : r.keyFile = none := rfl
  have hlong : settings.uriWidth < r.uri.length := by decide
  obtain ⟨shown, hmessage, -, hlength, -⟩ := header_width hkey none settings
  exact ⟨hkey, hlong, shown, hmessage, hlength hlong⟩

/-- Where no character is allowed, the ellipsis is one too many. -/
theorem header_width_zero :
    let r : Remote := { uri := "ssh://host" }
    let settings : Settings := { uriWidth := 0 }
    r.keyFile = none ∧ (Layout.of r none settings).message = "Log in to …" ∧
      ¬∃ shown, (Layout.of r none settings).message = "Log in to " ++ shown ∧
        shown.length ≤ settings.uriWidth := by
  intro r settings
  have hmessage : (Layout.of r none settings).message = "Log in to …" := by decide
  refine ⟨rfl, hmessage, ?_⟩
  rintro ⟨shown, hshown, hlength⟩
  have hsum := congrArg String.length (hshown.symm.trans hmessage)
  have hwords : "Log in to ".length = 10 ∧ "Log in to …".length = 11 := by decide
  change shown.length ≤ 0 at hlength
  rw [String.length_append] at hsum
  omega

end GitLogin

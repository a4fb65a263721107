import GitLogin.Proofs.Ports

namespace GitLogin

namespace Text

theorem mem_of_mem_pieces {α : Type} [BEq α] {separator a : α} {p cs : List α}
    (hp : p ∈ pieces separator cs) (ha : a ∈ p) : a ∈ cs := by
  induction cs generalizing p with
  | nil => simp_all [pieces]
  | cons c cs ih =>
    rw [pieces] at hp
    split at hp
    · rcases List.mem_cons.1 hp with rfl | hp
      · cases ha
      · exact List.mem_cons_of_mem c (ih hp ha)
    · split at hp
      · simp_all
      · next q qs heq =>
        rcases List.mem_cons.1 hp with rfl | hp
        · rcases List.mem_cons.1 ha with rfl | ha
          · exact List.mem_cons_self
          · exact List.mem_cons_of_mem c (ih (heq ▸ List.mem_cons_self) ha)
        · exact List.mem_cons_of_mem c (ih (heq ▸ List.mem_cons_of_mem q hp) ha)

theorem mem_intercalate {α : Type} {a : α} {separator : List α} {ls : List (List α)}
    (ha : a ∈ separator.intercalate ls) : a ∈ separator ∨ ∃ l ∈ ls, a ∈ l := by
  induction ls with
  | nil => simp at ha
  | cons l ls ih =>
    cases ls with
    | nil => exact .inr ⟨l, by simp, by simpa using ha⟩
    | cons l' ls =>
      rw [List.intercalate_cons_cons, List.mem_append, List.mem_append] at ha
      rcases ha with (ha | ha) | ha
      · exact .inr ⟨l, by simp, ha⟩
      · exact .inl ha
      · rcases ih ha with ha | ⟨m, hm, ha⟩
        · exact .inl ha
        · exact .inr ⟨m, List.mem_cons_of_mem l hm, ha⟩

theorem mem_of_mapM {α β : Type} {f : α → Option β} {as : List α} {bs : List β} {b : β}
    (hbs : as.mapM f = some bs) (hb : b ∈ bs) : ∃ a ∈ as, f a = some b := by
  induction as generalizing bs with
  | nil => simp_all
  | cons a as ih =>
    simp only [List.mapM_cons, Option.bind_eq_bind, Option.bind_eq_some_iff, Option.pure_def,
      Option.some.injEq] at hbs
    obtain ⟨b', ha, bs', has, rfl⟩ := hbs
    rcases List.mem_cons.1 hb with rfl | hb
    · exact ⟨a, List.mem_cons_self, ha⟩
    · obtain ⟨a', hmem, ha'⟩ := ih has hb
      exact ⟨a', List.mem_cons_of_mem a hmem, ha'⟩

theorem mem_toDigits {b n : Nat} {c : Char} (hb : 1 < b) (hc : c ∈ b.toDigits n) :
    ∃ d < b, c = Nat.digitChar d := by
  induction n using Nat.strongRecOn with
  | ind n ih =>
    rw [Nat.toDigits_eq_if hb] at hc
    split at hc
    · next hlt => exact ⟨n, hlt, by simpa using hc⟩
    · next hle =>
      rcases List.mem_append.1 hc with hc | hc
      · exact ih (n / b) (Nat.div_lt_self (by omega) hb) hc
      · exact ⟨n % b, Nat.mod_lt n (by omega), by simpa using hc⟩

end Text

namespace Url

/-- The text of a host: a name, or an address in brackets. Only the latter has a colon. -/
inductive HostText : String → Prop
  | name {host : String} : ':' ∉ host.toList → host.toList.head? ≠ some '[' → HostText host
  | address {address : String} : ':' ∈ address.toList → ']' ∉ address.toList →
      HostText ("[" ++ address ++ "]")

/-- Every host that is read as part of a URL is written so. -/
def TellsHosts [UrlParser] : Prop :=
  ∀ text u, UrlParser.parse text = .ok u → ∀ host ∈ u.host, HostText host

theorem bareHost_hostAndPort_iff {u : Url} {name : String} (hu : ∀ host ∈ u.host, HostText host)
    (hcolon : ':' ∉ name.toList) (hstart : name.toList.head? ≠ some '[') :
    (Request.hostAndPort u).map Request.bareHost = some name ↔ u.host = some name := by
  rw [Request.hostAndPort_eq]
  cases hhost : u.host with
  | none => simp
  | some host =>
    rw [Option.map_some, Option.map_some, Option.some.injEq, Option.some.injEq]
    cases hu host hhost with
    | name hc hs => rw [Request.bareHost_withPort hc hs (Request.isPort_port u)]
    | @address address hc hclose =>
      -- what is in the brackets has a colon, and so is no name
      rw [Request.withPort, Request.bareHost_address hclose]
      constructor
      · rintro rfl
        exact absurd hc hcolon
      · rintro rfl
        simp at hstart

def isNameChar (c : Char) : Bool := c != ':' && c != '['

theorem isNameChar_of_not {p : Char → Bool} {c : Char} (hcolon : p ':' = true)
    (hbracket : p '[' = true) (hc : p c = false) : isNameChar c := by
  simp only [isNameChar, Bool.and_eq_true, bne_iff_ne]
  constructor
  · rintro rfl
    simp [hcolon] at hc
  · rintro rfl
    simp [hbracket] at hc

end Url

namespace Domain

open Url

namespace Punycode

theorem isNameChar_digitChar {d : Nat} (hd : d < base) : isNameChar (digitChar d) := by
  have hall : ∀ d : Fin base, isNameChar (digitChar d) := by decide
  exact hall ⟨d, hd⟩

theorem digits_nameChars (bias place delta : Nat) :
    (digits bias place delta).all isNameChar := by
  fun_induction digits bias place delta with
  | case1 place delta t hlt =>
    simpa using isNameChar_digitChar (Nat.lt_trans hlt (threshold_lt_base bias place))
  | case2 place delta t hle ih =>
    have hlt : t < base := threshold_lt_base bias place
    have hmod : (delta - t) % (base - t) < base - t := Nat.mod_lt _ (by omega)
    rw [List.all_cons, Bool.and_eq_true]
    exact ⟨isNameChar_digitChar (by omega), ih⟩

namespace Encoding

variable {e : Encoding}

theorem feed_nameChars (he : e.output.all isNameChar) (code : Nat) (c : Char) :
    (feed code e c).output.all isNameChar := by
  rw [feed]
  split
  · exact he
  · split
    · simp [he, digits_nameChars]
    · exact he

theorem foldl_nameChars (he : e.output.all isNameChar) (code : Nat) (cs : List Char) :
    (cs.foldl (feed code) e).output.all isNameChar := by
  induction cs generalizing e with
  | nil => exact he
  | cons c cs ih => exact ih (feed_nameChars he code c)

theorem placeAll_nameChars (he : e.output.all isNameChar) (cs : List Char) (least : Nat)
    (codes : List Nat) : (placeAll cs e least codes).output.all isNameChar := by
  induction codes generalizing e least with
  | nil => exact he
  | cons code codes ih =>
    refine ih ?_ (code + 1)
    exact foldl_nameChars (e := { e with delta := e.delta + (code - least) * (e.placed + 1) }) he
      code cs

end Encoding

theorem encode_nameChars {cs : List Char} (hcs : cs.all isNameChar) :
    (encode cs).all isNameChar := by
  apply Encoding.placeAll_nameChars
  simp only
  split
  · rfl
  · have hascii : (cs.filter (·.toNat < firstCode)).all isNameChar := by
      simp_all
    rw [List.all_append, hascii]
    rfl

end Punycode

theorem Label.written_of_encoded {written : List Char} {l : Label}
    (hl : ofEncoded written = some l) : l.written = written := by
  simp only [ofEncoded, Option.bind_eq_bind, Option.bind_eq_some_iff] at hl
  obtain ⟨shown, -, hl⟩ := hl
  split at hl
  · cases hl
  · split at hl
    · cases hl
    · split at hl
      · cases hl
      · split at hl
        · cases hl
          rfl
        · cases hl

theorem Label.written_nameChars {label : List Char} {l : Label} (hl : Label.of label = some l)
    (hlabel : label.all isNameChar) : l.written.all isNameChar := by
  rw [Label.of] at hl
  split at hl
  · split at hl
    · rwa [written_of_encoded hl]
    · cases hl
  · split at hl
    · cases hl
      exact hlabel
    · split at hl
      · cases hl
        rw [List.all_append, Punycode.encode_nameChars hlabel]
        rfl
      · cases hl

theorem isNameChar_of_allowed {c : Char} (hc : isForbidden c = false) : isNameChar c :=
  isNameChar_of_not (by simp [isForbidden]) (by simp [isForbidden]) hc

theorem toAscii?_nameChars {name ascii : List Char} (ha : toAscii? name = some ascii) :
    ascii.all isNameChar := by
  simp only [toAscii?] at ha
  split at ha
  · split at ha
    · cases ha
    · next hallowed =>
      cases ha
      simp only [List.any_eq_true, not_exists, not_and, Bool.not_eq_true] at hallowed
      rw [List.all_eq_true]
      exact fun c hc => isNameChar_of_allowed (hallowed c hc)
  · simp only [Option.bind_eq_bind, Option.bind_eq_some_iff] at ha
    obtain ⟨mapped, -, ha⟩ := ha
    split at ha
    · cases ha
    · next hallowed =>
      simp only [Option.bind_eq_some_iff] at ha
      obtain ⟨ls, hls, ha⟩ := ha
      split at ha
      · cases ha
      · cases ha
        rw [List.all_eq_true]
        intro c hc
        rcases Text.mem_intercalate hc with hc | ⟨written, hwritten, hc⟩
        · rw [List.mem_singleton.1 hc]
          rfl
        · obtain ⟨l, hl, rfl⟩ := List.mem_map.1 hwritten
          obtain ⟨label, hlabel, hof⟩ := Text.mem_of_mapM hls hl
          refine List.all_eq_true.1 (Label.written_nameChars hof ?_) c hc
          rw [List.all_eq_true]
          intro c hc
          have hmem := Text.mem_of_mem_pieces hlabel hc
          simp only [List.any_eq_true, not_exists, not_and, Bool.not_eq_true] at hallowed
          exact isNameChar_of_allowed (hallowed c hmem)

end Domain

namespace Url

theorem isNameChar_digitChar {d : Nat} (hd : d < 16) : isNameChar (Nat.digitChar d) := by
  have hall : ∀ d : Fin 16, isNameChar (Nat.digitChar d) := by decide
  exact hall ⟨d, hd⟩

theorem toString_nameChars (n : Nat) : (toString n).toList.all isNameChar := by
  rw [List.all_eq_true]
  intro c hc
  rw [Nat.toString_eq_ofList_toDigits, String.toList_ofList] at hc
  obtain ⟨d, hd, rfl⟩ := Text.mem_toDigits (by decide) hc
  exact isNameChar_digitChar (by omega)

theorem Ipv4.text_nameChars (address : Nat) : (Ipv4.text address).toList.all isNameChar := by
  rw [List.all_eq_true, Ipv4.text, String.toList_intercalate]
  intro c hc
  rcases Text.mem_intercalate hc with hc | ⟨cs, hcs, hc⟩
  · rw [List.mem_singleton.1 hc]
    rfl
  · simp only [List.map_map, List.mem_map, Function.comp_apply] at hcs
    obtain ⟨i, -, rfl⟩ := hcs
    exact List.all_eq_true.1 (toString_nameChars _) c hc

theorem halves_lt (b : UInt8) : b / 16 < 16 ∧ b % 16 < 16 := by
  constructor
  · rw [UInt8.lt_iff_toNat_lt, UInt8.toNat_div]
    exact Nat.div_lt_of_lt_mul b.toNat_lt
  · rw [UInt8.lt_iff_toNat_lt, UInt8.toNat_mod]
    exact Nat.mod_lt _ (by decide)

theorem encodeByte_all {p : Char → Bool} (hpercent : p '%')
    (hdigit : ∀ d : Fin 16, p (Nat.digitChar d).toUpper) (b : UInt8) : (encodeByte b).all p := by
  have hhex {n : UInt8} (hn : n < 16) : p (hexUpper n) :=
    hdigit ⟨n.toNat, UInt8.lt_iff_toNat_lt.1 hn⟩
  obtain ⟨hhigh, hlow⟩ := halves_lt b
  simp only [encodeByte, List.all_cons, hpercent, hhex hhigh, hhex hlow]
  rfl

theorem encodeByte_nameChars (b : UInt8) : (encodeByte b).all isNameChar :=
  encodeByte_all rfl (by decide) b

theorem percentEncode_nameChars {cs : List Char} (hcs : cs.all isNameChar)
    (escape : Char → Bool) : (percentEncode escape cs).all isNameChar := by
  rw [percentEncode, List.all_flatMap, List.all_eq_true]
  intro c hc
  split
  · rw [encodeChar, List.all_flatMap, List.all_eq_true]
    exact fun b _ => encodeByte_nameChars b
  · simpa using List.all_eq_true.1 hcs c hc

/-- A name that stands for itself. -/
theorem domainHost_eq_self {name : String}
    (hdecode : percentDecode (Text.Utf8.encode name) = Text.Utf8.encode name)
    (hascii : Domain.toAscii? name.toList = some name.toList) (hne : name ≠ "")
    (hnumber : Ipv4.endsInNumber name.toList = false) : domainHost name.toList = .ok name := by
  rw [domainHost, String.ofList_toList, hdecode, Text.Utf8.decode_encode, Option.bind_some, hascii]
  obtain ⟨c, cs, hcs⟩ := List.exists_cons_of_ne_nil (mt String.toList_eq_nil_iff.1 hne)
  rw [hcs] at hnumber ⊢
  simp only [hnumber, Bool.false_eq_true, if_false]
  rw [← hcs, String.ofList_toList]

theorem hostOf_special {cs : List Char} (hbracket : '[' ∉ cs) :
    hostOf .special cs = domainHost cs := by
  rw [hostOf.eq_def]
  split
  · exact absurd List.mem_cons_self hbracket
  · exact if_pos rfl

theorem domainHost_nameChars {cs : List Char} {host : String} (hh : domainHost cs = .ok host) :
    host.toList.all isNameChar := by
  rw [domainHost] at hh
  split at hh
  · cases hh
  · cases hh
  · next name _ hname =>
    obtain ⟨text, -, hascii⟩ := Option.bind_eq_some_iff.1 hname
    split at hh
    · split at hh
      · cases hh
        exact Ipv4.text_nameChars _
      · cases hh
    · cases hh
      simpa using Domain.toAscii?_nameChars hascii

theorem opaqueHost_nameChars {cs : List Char} {host : String} (hh : opaqueHost cs = .ok host) :
    host.toList.all isNameChar := by
  rw [opaqueHost] at hh
  split at hh
  · cases hh
  · next hallowed =>
    cases hh
    rw [String.toList_ofList]
    apply percentEncode_nameChars
    rw [List.all_eq_true]
    intro c hc
    simp only [List.any_eq_true, not_exists, not_and, Bool.not_eq_true] at hallowed
    exact isNameChar_of_not (by simp [isForbiddenInHost]) (by simp [isForbiddenInHost])
      (hallowed c hc)

theorem hostText_name {host : String} (hname : host.toList.all isNameChar) : HostText host :=
  .name (fun hmem => absurd (List.all_eq_true.1 hname _ hmem) (by decide))
    fun hhead => absurd (List.all_eq_true.1 hname _ (List.mem_of_head? hhead)) (by decide)

theorem Ipv6.length_of_address? {cs : List Char} {groups : List Nat}
    (h : Ipv6.address? cs = some groups) : groups.length = 8 := by
  rw [Ipv6.address?.eq_def] at h
  split at h
  · simp only [Option.bind_eq_bind, Option.bind_eq_some_iff] at h
    obtain ⟨all, -, h⟩ := h
    split at h
    · next hlen =>
      cases h
      exact hlen
    · cases h
  · simp only [Option.bind_eq_bind, Option.bind_eq_some_iff] at h
    obtain ⟨front, -, back, -, h⟩ := h
    split at h
    · next hle =>
      cases h
      rw [List.length_append, List.length_append, List.length_replicate]
      omega
    · cases h

theorem Ipv6.colon_mem_text {groups : List Nat} (h : 2 ≤ groups.length) :
    ':' ∈ (Ipv6.text groups).toList := by
  rw [Ipv6.text]
  split
  · match groups, h with
    | n :: m :: groups, _ => simp [Ipv6.joined, String.toList_intercalate]
  · simp

theorem Ipv6.close_notMem_text (groups : List Nat) : ']' ∉ (Ipv6.text groups).toList := by
  have hdigit : ∀ d : Fin 16, ']' ≠ Nat.digitChar d := by decide
  have hjoined (groups : List Nat) : ']' ∉ (Ipv6.joined groups).toList := by
    rw [Ipv6.joined, String.toList_intercalate]
    intro hc
    rcases Text.mem_intercalate hc with hc | ⟨cs, hcs, hc⟩
    · cases List.mem_singleton.1 hc
    · simp only [List.map_map, List.mem_map, Function.comp_apply] at hcs
      obtain ⟨n, -, rfl⟩ := hcs
      rw [Text.hex, String.toList_ofList] at hc
      obtain ⟨d, hd, hc⟩ := Text.mem_toDigits (by decide) hc
      exact hdigit ⟨d, hd⟩ hc
  rw [Ipv6.text]
  split
  · exact hjoined groups
  · simp [hjoined]

theorem hostText_hostOf {k : SchemeKind} {cs : List Char} {host : String}
    (hh : hostOf k cs = .ok host) : HostText host := by
  rw [hostOf.eq_def] at hh
  split at hh
  · rw [ipv6Host] at hh
    split at hh
    · next groups hgroups =>
      cases hh
      split at hgroups
      · have hlen := Ipv6.length_of_address? hgroups
        exact .address (Ipv6.colon_mem_text (by omega)) (Ipv6.close_notMem_text groups)
      · cases hgroups
    · cases hh
  · split at hh
    · exact hostText_name (domainHost_nameChars hh)
    · exact hostText_name (opaqueHost_nameChars hh)

theorem bind_eq_ok {ε α β : Type} {x : Except ε α} {f : α → Except ε β} {b : β} :
    x >>= f = .ok b ↔ ∃ a, x = .ok a ∧ f a = .ok b := by
  cases x with
  | error e => simp [bind, Except.bind]
  | ok a => simp [bind, Except.bind]

theorem hostText_cutAuthority {scheme : String} {k : SchemeKind} {cs rest : List Char}
    {a : Authority} (ha : cutAuthority scheme k cs = .ok (a, rest)) :
    ∀ host ∈ a.host, HostText host := by
  simp only [cutAuthority, bind_eq_ok] at ha
  obtain ⟨⟨user, hostAndRest⟩, -, ha⟩ := ha
  split at ha
  · cases ha
  · obtain ⟨host, hhost, ha⟩ := bind_eq_ok.1 ha
    have htext : HostText host := hostText_hostOf hhost
    -- what follows the host leaves it as it is
    have hlast (port : Option Nat) (rest' : List Char)
        (ha : (if host.isEmpty then
            if user.isEmpty then pure ({ port }, rest') else throw .emptyHost
          else pure ({ user, host := some host, port }, rest') :
            Except UrlError (Authority × List Char)) = .ok (a, rest)) :
        ∀ host ∈ a.host, HostText host := by
      split at ha
      · split at ha
        · cases ha
          simp
        · cases ha
      · cases ha
        simpa using htext
    split at ha
    · obtain ⟨⟨port, rest'⟩, -, ha⟩ := bind_eq_ok.1 ha
      exact hlast port rest' ha
    · obtain ⟨⟨port, rest'⟩, -, ha⟩ := bind_eq_ok.1 ha
      exact hlast port rest' ha

theorem hostText_cutFileHost {cs rest : List Char} {host : Option String}
    (hh : cutFileHost cs = .ok (host, rest)) : ∀ host' ∈ host, HostText host' := by
  rw [cutFileHost] at hh
  split at hh
  · cases hh
    simp
  · split at hh
    · cases hh
      simp
    · obtain ⟨text, htext, hh⟩ := bind_eq_ok.1 hh
      have hread : HostText text := hostText_hostOf htext
      cases hh
      split
      · simp
      · simpa using hread

theorem hostText_fileUrl {host : Option String} (hh : ∀ host' ∈ host, HostText host')
    (ss : List Segment) : ∀ host' ∈ (fileUrl host ss).host, HostText host' := by
  rw [fileUrl]
  simp only
  split
  · simp
  · exact hh

theorem hostText_parseFile {cs : List Char} {u : Url} (hu : parseFile cs = .ok u) :
    ∀ host ∈ u.host, HostText host := by
  rw [parseFile] at hu
  split at hu
  · obtain ⟨⟨host, rest⟩, hh, hu⟩ := bind_eq_ok.1 hu
    cases hu
    exact hostText_fileUrl (hostText_cutFileHost hh) _
  · cases hu
    exact hostText_fileUrl (by simp) _

theorem hostText_withAuthority {scheme : String} {k : SchemeKind} {cs : List Char} {u : Url}
    (hu : withAuthority scheme k cs = .ok u) : ∀ host ∈ u.host, HostText host := by
  obtain ⟨⟨a, rest⟩, ha, hu⟩ := bind_eq_ok.1 hu
  cases hu
  exact hostText_cutAuthority ha

theorem hostText_of_parse {text : String} {u : Url} (hu : parse text = .ok u) :
    ∀ host ∈ u.host, HostText host := by
  rw [parse.eq_def] at hu
  split at hu
  · cases hu
  · split at hu
    · exact hostText_parseFile hu
    · exact hostText_withAuthority hu
    · exact hostText_withAuthority hu
    · cases hu
      simp
    · cases hu
      simp

theorem tellsHosts : TellsHosts := fun _ _ => hostText_of_parse

end Url

end GitLogin

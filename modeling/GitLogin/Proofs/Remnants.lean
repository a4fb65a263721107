import GitLogin.Proofs.LoginUrl

/-!
What a URL leaves of the lines in front of it. `read_lastUrl`: the protocol of a request is that of
its last URL, or of a line after it, but a host or a path that neither of them has is the one that
was given before.
-/

namespace GitLogin

open Attribute

namespace Attribute

variable [UrlParser] {key : String} {part : Url → Option String} {line : Option String}
  {a : Attribute}

theorem latest_or (key : String) (part : Url → Option String) (as bs : List Attribute) :
    latest key part (as ++ bs) = (latest key part bs).or (latest key part as) := by
  rw [latest, latest, latest, List.filterMap_append, List.getLast?_append]

theorem isSome_latest {as : List Attribute} :
    (latest key part as).isSome ↔ ∃ a ∈ as, (a.gives key part).isSome := by
  rw [latest, List.getLast?_isSome, Ne, List.filterMap_eq_nil_iff]
  simp [Option.isSome_iff_ne_none]

theorem gives_url {text : String} {u : Url} (hu : UrlParser.parse text = .ok u)
    (hkey : key ≠ "url") :
    gives key part ⟨"url", text⟩ = part u := by
  rw [gives, if_neg hkey.symm]
  simp [url?, hu, Except.toOption]

theorem isSome_gives (ha : a.key ≠ "url") : (a.gives key part).isSome ↔ a.key = key := by
  by_cases hkey : a.key = key
  · simp [gives, hkey]
  · simp [gives, hkey, url?, ha]

theorem Written.eq_of_line {key value : String} (ha : a.Written (some (key ++ "=" ++ value)))
    (hkey : '=' ∉ key.toList) : a = ⟨key, value⟩ := by
  have hcut := Text.cut?_append ha.equals_notMem a.value
  have hline : a.key ++ .singleton '=' ++ a.value = key ++ .singleton '=' ++ value :=
    (Option.some.inj ha.line_eq).symm
  rw [hline, Text.cut?_append hkey] at hcut
  cases hcut
  rfl

end Attribute

namespace Request

/-- A request, with the parts that it lacks taken from an earlier one. -/
def after (r earlier : Request) : Request where
  protocol := r.protocol.or earlier.protocol
  host := r.host.or earlier.host
  path := r.path.or earlier.path
  username := r.username.or earlier.username
  password := r.password.or earlier.password

@[simp] theorem after_nothing (r : Request) : r.after {} = r := by
  simp [Request.after]

theorem after_protocol {r : Request} (h : r.protocol.isSome) (p : Request) :
    (r.after p).protocol = r.protocol := Option.or_of_isSome h

theorem after_host {r : Request} (h : r.host.isSome) (p : Request) : (r.after p).host = r.host :=
  Option.or_of_isSome h

theorem after_path {r : Request} (h : r.path.isSome) (p : Request) : (r.after p).path = r.path :=
  Option.or_of_isSome h

/-- Lines that others may come after: whole ones, none of them blank. -/
structure InFront (head : List UInt8) : Prop where
  whole : head = [] ∨ ∃ bytes, head = bytes ++ [Source.newline]
  notBlank : some "" ∉ typedLines head false

section Split

variable {head tail : List UInt8} {broken : Bool} {p q r : Request}

theorem InFront.lines (h : InFront head) (tail : List UInt8) (broken : Bool) :
    typedLines (head ++ tail) broken = typedLines head false ++ typedLines tail broken := by
  rcases h.whole with rfl | ⟨bytes, rfl⟩
  · rfl
  · rw [List.append_assoc]
    exact typedLines_append bytes tail broken

theorem header_append {before : List (Option String)} (h : some "" ∉ before)
    (after : List (Option String)) : header (before ++ after) = before ++ header after := by
  refine List.takeWhile_append_of_pos fun line hline => ?_
  rw [bne_iff_ne]
  rintro rfl
  exact h hline

def repository : Request where
  host := some "github.com"
  path := some "o/r"

theorem remote_told {r : Request} (hprotocol : r.protocol.isSome) (hhost : r.host.isSome)
    (hpath : r.path.isSome) (p : Request) : (r.after p).remote = r.remote := by
  simp only [remote, rootedPath, after_protocol hprotocol, after_host hhost, after_path hpath]

theorem provider_told {r : Request} (hhost : r.host.isSome) (p : Request) :
    (r.after p).remote.provider = r.remote.provider := by
  simp only [remote, Remote.provider, after_host hhost]

theorem told_of_provider (h : (r.after repository).remote.provider = r.remote.provider) :
    r.host.isSome := by
  by_contra hhost
  rw [Option.not_isSome_iff_eq_none] at hhost
  have hgitHub : (r.after repository).remote.provider = .gitHub := by
    rw [provider_eq_gitHub, Request.after, hhost, Option.none_or]
    rfl
  rw [h, provider_eq_gitHub, hhost] at hgitHub
  cases hgitHub

theorem told_of_path (h : (r.after repository).remote.path = r.remote.path) : r.path.isSome := by
  by_contra hpath
  rw [Option.not_isSome_iff_eq_none] at hpath
  have hrooted : (r.after repository).rootedPath = some "/o/r" := by
    rw [rootedPath, Request.after, hpath, Option.none_or]
    rfl
  have hnone : r.rootedPath = none := by rw [rootedPath, hpath]; rfl
  change (r.after repository).rootedPath = r.rootedPath at h
  rw [hrooted, hnone] at h
  cases h

variable [UrlParser]

/-- What is read from an input that ends in these bytes, after any lines in front of them. -/
def EndsIn (tail : List UInt8) (broken : Bool) (q : Request) : Prop :=
  ∃ head, InFront head ∧ read (Source.ofBytes (head ++ tail) broken) = .ok q

def Earlier (p : Request) : Prop :=
  ∃ head, InFront head ∧ read (Source.ofBytes head false) = .ok p

theorem ofAttributes_append (as bs : List Attribute) :
    ofAttributes (as ++ bs) = (ofAttributes bs).after (ofAttributes as) := by
  simp only [ofAttributes, Request.after, latest_or]

theorem read_bytes_ok_iff {bytes : List UInt8} : read (Source.ofBytes bytes broken) = .ok q ↔
    (broken = true → some "" ∈ typedLines bytes broken) ∧
      ∃ as, List.Forall₂ Written (header (typedLines bytes broken)) as ∧ q = ofAttributes as := by
  rw [read_ok_iff, Source.typed_ofBytes]
  rfl

theorem InFront.read_ok_iff (h : InFront head) :
    read (Source.ofBytes (head ++ tail) broken) = .ok q ↔
      ∃ p r, read (Source.ofBytes head false) = .ok p ∧
        read (Source.ofBytes tail broken) = .ok r ∧ q = r.after p := by
  have hhead : header (typedLines head false) = typedLines head false := by
    simpa [header] using header_append h.notBlank []
  have hblank : some "" ∈ typedLines (head ++ tail) broken ↔ some "" ∈ typedLines tail broken := by
    rw [h.lines, List.mem_append, or_iff_right h.notBlank]
  simp only [read_bytes_ok_iff, hblank, hhead]
  rw [h.lines, header_append h.notBlank]
  constructor
  · rintro ⟨hb, cs, hcs, rfl⟩
    -- the attributes are cut where their lines are
    have htake := List.forall₂_take_append _ _ _ hcs.flip
    have hdrop := List.forall₂_drop_append _ _ _ hcs.flip
    have hwhole : false = true → some "" ∈ typedLines head false := fun h => absurd h (by decide)
    refine ⟨_, _, ⟨hwhole, _, htake.flip, rfl⟩, ⟨hb, _, hdrop.flip, rfl⟩, ?_⟩
    rw [← ofAttributes_append, List.take_append_drop]
  · rintro ⟨_, _, ⟨-, as, has, rfl⟩, ⟨hb, bs, hbs, rfl⟩, rfl⟩
    exact ⟨hb, as ++ bs, List.rel_append has hbs, (ofAttributes_append as bs).symm⟩

theorem endsIn_iff (hread : read (Source.ofBytes tail broken) = .ok r) :
    EndsIn tail broken q ↔ ∃ p, Earlier p ∧ q = r.after p := by
  constructor
  · rintro ⟨head, hhead, hq⟩
    obtain ⟨p, r', hp, hr', rfl⟩ := hhead.read_ok_iff.1 hq
    rw [hread] at hr'
    cases hr'
    exact ⟨p, ⟨head, hhead, hp⟩, rfl⟩
  · rintro ⟨p, ⟨head, hhead, hp⟩, rfl⟩
    exact ⟨head, hhead, hhead.read_ok_iff.2 ⟨p, r, hp, hread, rfl⟩⟩

theorem earlier_nothing : Earlier {} := ⟨[], ⟨.inl rfl, List.not_mem_nil⟩, rfl⟩

theorem earlier_repository : Earlier repository := by
  refine ⟨Text.Utf8.encode "host=github.com\npath=o/r\n",
    ⟨.inr ⟨Text.Utf8.encode "host=github.com\npath=o/r", by decide⟩, by decide⟩, ?_⟩
  have hlines : Source.ofBytes (Text.Utf8.encode "host=github.com\npath=o/r\n") false =
      ⟨[some "host=github.com\n", some "path=o/r\n"], false⟩ := by decide
  rw [hlines]
  rfl

theorem endsIn_agree_iff {β : Type} {view : Request → β} {told : Prop}
    (hread : read (Source.ofBytes tail broken) = .ok r)
    (htold : told → ∀ p, view (r.after p) = view r)
    (hchange : view (r.after repository) = view r → told) :
    (∀ q q', EndsIn tail broken q → EndsIn tail broken q' → view q = view q') ↔ told := by
  simp only [endsIn_iff hread]
  constructor
  · -- with nothing in front, and with the repository
    intro hagree
    exact hchange (hagree _ _ ⟨_, earlier_repository, rfl⟩
      ⟨_, earlier_nothing, (after_nothing r).symm⟩)
  · rintro h _ _ ⟨p, -, rfl⟩ ⟨p', -, rfl⟩
    rw [htold h p, htold h p']

end Split

section Url

variable {text : String} {u : Url} {after : List (Option String)} {as bs : List Attribute}

theorem isSome_requestHost : u.requestHost.isSome ↔ u.host.isSome := by
  rw [Url.requestHost]
  split <;> simp_all

theorem isSome_requestPath : u.requestPath.isSome ↔ ∃ c ∈ u.path.toList, c ≠ '/' := by
  simp only [Url.requestPath, List.dropWhile_eq_nil_iff]
  split
  · next hall => simpa using hall
  · next hne => simpa using hne

structure Told (u : Url) (after : List (Option String)) (r : Request) : Prop where
  protocol : r.protocol.isSome
  host : r.host.isSome ↔ u.host.isSome ∨ ∃ value, some ("host=" ++ value) ∈ after
  path : r.path.isSome ↔
    (∃ c ∈ u.path.toList, c ≠ '/') ∨ ∃ value, some ("path=" ++ value) ∈ after

variable [UrlParser]

theorem exists_url (has : List.Forall₂ Written (some ("url=" ++ text) :: after) as) :
    ∃ u bs, UrlParser.parse text = .ok u ∧ List.Forall₂ Written after bs ∧
      as = ⟨"url", text⟩ :: bs := by
  cases has with
  | @cons _ a _ bs ha hbs =>
    obtain rfl : a = ⟨"url", text⟩ :=
      Written.eq_of_line ha (by decide : '=' ∉ "url".toList)
    obtain ⟨u, hu⟩ := ha.url rfl
    exact ⟨u, bs, hu, hbs, rfl⟩

theorem exists_line_iff {key : String} (hbs : List.Forall₂ Written after bs)
    (hkey : '=' ∉ key.toList) :
    (∃ b ∈ bs, b.key = key) ↔ ∃ value, some (key ++ "=" ++ value) ∈ after := by
  induction hbs with
  | nil => simp
  | @cons line b after bs hb _ ih =>
    have hline : b.key = key ↔ ∃ value, some (key ++ "=" ++ value) = line := by
      constructor
      · rintro rfl
        exact ⟨b.value, hb.line_eq.symm⟩
      · rintro ⟨value, rfl⟩
        exact congrArg Attribute.key (hb.eq_of_line hkey)
    rw [List.exists_mem_cons_iff, ih, hline]
    simp only [List.mem_cons, exists_or]

theorem isSome_latest_url (hu : UrlParser.parse text = .ok u) (hbs : List.Forall₂ Written after bs)
    (hlast : ∀ t, some ("url=" ++ t) ∉ after) {key : String} (hkey : '=' ∉ key.toList)
    (hurl : key ≠ "url") (part : Url → Option String) :
    (latest key part (⟨"url", text⟩ :: bs)).isSome ↔
      (part u).isSome ∨ ∃ value, some (key ++ "=" ++ value) ∈ after := by
  -- no attribute after this URL is one, so each of them gives only what its key says
  have hnone : ∀ b ∈ bs, b.key ≠ "url" := by
    intro b hb hbkey
    obtain ⟨t, ht⟩ := (exists_line_iff hbs (by decide : '=' ∉ "url".toList)).1 ⟨b, hb, hbkey⟩
    exact hlast t ht
  have hgives : (∃ b ∈ bs, (b.gives key part).isSome) ↔ ∃ b ∈ bs, b.key = key :=
    exists_congr fun b => and_congr_right fun hb => isSome_gives (hnone b hb)
  rw [isSome_latest, List.exists_mem_cons_iff, gives_url hu hurl, hgives, exists_line_iff hbs hkey]

theorem told_ofAttributes (hu : UrlParser.parse text = .ok u) (hbs : List.Forall₂ Written after bs)
    (hlast : ∀ t, some ("url=" ++ t) ∉ after) :
    Told u after (ofAttributes (⟨"url", text⟩ :: bs)) := by
  have hprotocol := isSome_latest_url hu hbs hlast (by decide : '=' ∉ "protocol".toList) (by decide)
    (fun u => some u.scheme)
  have hhost := isSome_latest_url hu hbs hlast (by decide : '=' ∉ "host".toList) (by decide)
    Url.requestHost
  have hpath := isSome_latest_url hu hbs hlast (by decide : '=' ∉ "path".toList) (by decide)
    Url.requestPath
  have hhostLine : "host" ++ "=" = "host=" := by decide
  have hpathLine : "path" ++ "=" = "path=" := by decide
  rw [hhostLine] at hhost
  rw [hpathLine] at hpath
  constructor
  · simpa only [ofAttributes] using hprotocol.2 (.inl Option.isSome_some)
  · simpa only [ofAttributes] using hhost.trans (or_congr_left isSome_requestHost)
  · simpa only [ofAttributes] using hpath.trans (or_congr_left isSome_requestPath)

end Url

end Request

open Request

/-- A URL tells a request its protocol, and its host and its path if it has them; lines after it may
tell them too. What neither tells is that of the lines in front: inputs that end alike, from their
last URL on, agree exactly on the parts that are told there. -/
theorem read_lastUrl [UrlParser] {tail : List UInt8} {broken : Bool} {r : Request} {text : String}
    {after : List (Option String)} (hread : Request.read (Source.ofBytes tail broken) = .ok r)
    (htail : header (typedLines tail broken) = some ("url=" ++ text) :: after)
    (hlast : ∀ t, some ("url=" ++ t) ∉ after) :
    ∃ u, UrlParser.parse text = .ok u ∧
      (r.host.isSome ↔ u.host.isSome ∨ ∃ value, some ("host=" ++ value) ∈ after) ∧
      (r.path.isSome ↔ (∃ c ∈ u.path.toList, c ≠ '/') ∨ ∃ value, some ("path=" ++ value) ∈ after) ∧
      (∀ head, InFront head → ∀ q, Request.read (Source.ofBytes (head ++ tail) broken) = .ok q ↔
        ∃ p, Request.read (Source.ofBytes head false) = .ok p ∧ q = r.after p) ∧
      (∀ q q', EndsIn tail broken q → EndsIn tail broken q' → q.protocol = q'.protocol) ∧
      ((∀ q q', EndsIn tail broken q → EndsIn tail broken q' → q.host = q'.host) ↔
        r.host.isSome) ∧
      ((∀ q q', EndsIn tail broken q → EndsIn tail broken q' → q.path = q'.path) ↔
        r.path.isSome) ∧
      ((∀ q q', EndsIn tail broken q → EndsIn tail broken q' →
        q.remote.provider = q'.remote.provider) ↔ r.host.isSome) ∧
      ((∀ q q', EndsIn tail broken q → EndsIn tail broken q' → q.remote = q'.remote) ↔
        r.host.isSome ∧ r.path.isSome) := by
  obtain ⟨-, as, has, rfl⟩ := read_bytes_ok_iff.1 hread
  rw [htail] at has
  obtain ⟨u, bs, hu, hbs, rfl⟩ := exists_url has
  have htold := told_ofAttributes hu hbs hlast
  generalize ofAttributes (⟨"url", text⟩ :: bs) = r at hread htold
  refine ⟨u, hu, htold.host, htold.path, ?_, ?_, ?_, ?_, ?_, ?_⟩
  · intro head hhead q
    rw [hhead.read_ok_iff, hread]
    simp
  · have hprotocol : True → ∀ p, (r.after p).protocol = r.protocol := fun _ =>
      after_protocol htold.protocol
    exact (endsIn_agree_iff hread hprotocol fun _ => trivial).2 trivial
  · refine endsIn_agree_iff hread (fun h p => ?_) fun heq => ?_
    · rw [after_host h]
    · cases hhost : r.host <;> simp_all [Request.after, repository]
  · refine endsIn_agree_iff hread (fun h p => ?_) fun heq => ?_
    · rw [after_path h]
    · cases hpath : r.path <;> simp_all [Request.after, repository]
  · exact endsIn_agree_iff hread (fun h p => provider_told h p) told_of_provider
  · refine endsIn_agree_iff hread (fun h p => remote_told htold.protocol h.1 h.2 p) fun heq => ?_
    exact ⟨told_of_provider (congrArg Remote.provider heq), told_of_path (congrArg Remote.path heq)⟩

theorem parse_gitHub : UrlParser.parse "https://github.com" =
    .ok { scheme := "https", host := some "github.com", path := "/" } := by
  have hscheme : Url.cutScheme (Url.significant "https://github.com") =
      some ("https", "//github.com".toList) := by decide
  have hkind : Url.SchemeKind.of "https" = .special := by decide
  have hslashes : "//github.com".toList.dropWhile (Url.isSlash .special) = "github.com".toList := by
    decide
  have huser : Url.cutUserInfo .special "github.com".toList = .ok ({}, "github.com".toList) := by
    decide
  have hhost : Url.cutHost .special false "github.com".toList = ("github.com".toList, []) := by
    decide
  have hdomain : Url.hostOf .special "github.com".toList = .ok "github.com" := by
    rw [Url.hostOf_special (by decide)]
    exact Url.domainHost_eq_self (by decide) (by decide) (by decide) (by decide)
  have hpath : Url.pathAfterHost .special [] = "/" := by decide
  have hauthority : Url.cutAuthority "https" .special "github.com".toList =
      .ok ({ host := some "github.com" }, []) := by
    simp only [Url.cutAuthority, huser, hhost, hdomain, bind, Except.bind]
    rfl
  change Url.parse _ = _
  rw [Url.parse, hscheme]
  simp only [hkind, hslashes, Url.withAuthority, hauthority, bind, Except.bind, hpath]
  rfl

theorem written_gitHub :
    Written (some ("url=" ++ "https://github.com")) ⟨"url", "https://github.com"⟩ :=
  ⟨rfl, by decide, fun _ => ⟨_, parse_gitHub⟩⟩

theorem read_gitHub :
    let tail := Text.Utf8.encode "url=https://github.com\n"
    header (typedLines tail false) = [some ("url=" ++ "https://github.com")] ∧
      Request.read (Source.ofBytes tail false) =
        .ok { protocol := some "https", host := some "github.com" } := by
  intro tail
  have htail : header (typedLines tail false) = [some ("url=" ++ "https://github.com")] := by
    decide
  refine ⟨htail, read_bytes_ok_iff.2 ⟨nofun, [⟨"url", "https://github.com"⟩], ?_, ?_⟩⟩
  · rw [htail]
    exact .cons written_gitHub .nil
  · simp [ofAttributes, latest, gives, url?, parse_gitHub, Except.toOption, Url.requestHost,
      Url.requestPath, Url.requestUsername]

theorem read_lastUrl_host :
    let tail := Text.Utf8.encode "url=https://github.com\n"
    let r : Request := { protocol := some "https", host := some "github.com" }
    Request.read (Source.ofBytes tail false) = .ok r ∧
      header (typedLines tail false) = [some ("url=" ++ "https://github.com")] ∧
      (∀ t, some ("url=" ++ t) ∉ ([] : List (Option String))) ∧
      (∀ q q', EndsIn tail false q → EndsIn tail false q' → q.host = q'.host) ∧
      ¬∀ q q', EndsIn tail false q → EndsIn tail false q' → q.path = q'.path := by
  -- a URL without a path: its requests agree on the host, but not on the path
  intro tail r
  obtain ⟨htail, hread⟩ := read_gitHub
  have hlast : ∀ t, some ("url=" ++ t) ∉ ([] : List (Option String)) := fun t => List.not_mem_nil
  obtain ⟨u, -, -, -, -, -, hhost, hpath, -⟩ := read_lastUrl hread htail hlast
  exact ⟨hread, htail, hlast, hhost.2 rfl, fun h => absurd (hpath.1 h) nofun⟩

/-- The same URL after the path of another repository, whose owner then counts as the one to log
in. -/
theorem read_lastUrl_mixed :
    let head := Text.Utf8.encode "path=octocat/Hello-World.git\n"
    let tail := Text.Utf8.encode "url=https://github.com\n"
    ∃ q r, Request.read (Source.ofBytes (head ++ tail) false) = .ok q ∧
      Request.read (Source.ofBytes tail false) = .ok r ∧
      q.path = some "octocat/Hello-World.git" ∧ r.path = none ∧
      q.remote.defaultUsername none = some "octocat" ∧ r.remote.defaultUsername none = none := by
  intro head tail
  have hhead : InFront head :=
    ⟨.inr ⟨Text.Utf8.encode "path=octocat/Hello-World.git", by decide⟩, by decide⟩
  have hearlier : Request.read (Source.ofBytes head false) =
      .ok { path := some "octocat/Hello-World.git" } := by decide
  have hread := read_gitHub.2
  refine ⟨_, _, hhead.read_ok_iff.2 ⟨_, _, hearlier, hread, rfl⟩, hread, rfl, rfl, ?_, ?_⟩
  · decide
  · decide

end GitLogin

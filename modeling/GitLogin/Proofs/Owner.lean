import GitLogin.Proofs.Attributes
import GitLogin.Proofs.Get
import GitLogin.Proofs.Prefill
import GitLogin.Proofs.Trimming

namespace GitLogin

def Rooted (path : String) : Prop :=
  ∃ rest, path = "/" ++ rest ∧ rest ≠ "" ∧ rest.toList.head? ≠ some '/'

/-- What stands between the slash in front of a path and the next one, or the end. -/
structure FirstSegment (segment path : String) : Prop where
  ne_empty : segment ≠ ""
  noSlash : '/' ∉ segment.toList
  ends : path = "/" ++ segment ∨ ∃ rest, path = "/" ++ segment ++ "/" ++ rest

theorem firstSegment_takeWhile {rest : String} (hne : rest ≠ "")
    (hhead : rest.toList.head? ≠ some '/') :
    FirstSegment (.ofList (rest.toList.takeWhile (· != '/'))) ("/" ++ rest) := by
  by_cases hslash : '/' ∈ rest.toList
  · obtain ⟨segment, after, hsegment, rfl⟩ := Text.exists_cut hslash
    have htake : (segment ++ .singleton '/' ++ after).toList.takeWhile (· != '/') =
        segment.toList := by
      rw [String.append_assoc, String.toList_append,
        List.takeWhile_append_of_pos (Text.forall_bne hsegment)]
      simp
    rw [htake, String.ofList_toList]
    refine ⟨?_, hsegment, .inr ⟨after, ?_⟩⟩
    · rintro rfl
      simp at hhead
    · simp only [String.append_assoc]
      rfl
  · rw [List.takeWhile_eq_self_iff.2 (Text.forall_bne hslash), String.ofList_toList]
    exact ⟨hne, hslash, .inl rfl⟩

namespace Request

def slug (q : Request) : String := Text.dropStart isSlash (q.path.getD "")

theorem head?_slug (q : Request) : q.slug.toList.head? ≠ some '/' := by
  intro h
  have hslash := Text.head?_dropStart isSlash _ '/' h
  simp [isSlash] at hslash

theorem rootedPath_eq (q : Request) : q.rootedPath = (Text.nonEmpty? q.slug).map ("/" ++ ·) := by
  rw [rootedPath, slug]
  cases q.path <;> rfl

theorem owner?_eq {q : Request} (hg : q.remote.provider = .gitHub) :
    q.owner? = Text.nonEmpty? (.ofList (q.slug.toList.takeWhile (· != '/'))) := by
  rw [owner?, if_pos ((provider_eq_gitHub q).1 hg), slug, Text.toList_dropStart]
  cases q.path <;> rfl

theorem remote_slashes {slashes : String} (h : ∀ c ∈ slashes.toList, c = '/') (q : Request)
    (path : String) : remote { q with path := some (slashes ++ path) } =
      remote { q with path := some path } := by
  have hslug : slug { q with path := some (slashes ++ path) } =
      slug { q with path := some path } := by
    apply Text.dropStart_append
    simpa [isSlash] using h
  simp only [remote, rootedPath_eq, hslug]

theorem rootedPath_eq_some {q : Request} {path : String} :
    q.rootedPath = some path ↔ path = "/" ++ q.slug ∧ q.slug ≠ "" := by
  rw [rootedPath_eq, Option.map_eq_some_iff]
  constructor
  · rintro ⟨rest, hrest, rfl⟩
    obtain ⟨rfl, hne⟩ := Text.nonEmpty?_eq_some.1 hrest
    exact ⟨rfl, hne⟩
  · rintro ⟨rfl, hne⟩
    exact ⟨q.slug, Text.nonEmpty?_eq_some.2 ⟨rfl, hne⟩, rfl⟩

theorem rootedPath_eq_none {q : Request} : q.rootedPath = none ↔ q.slug = "" := by
  rw [Option.eq_none_iff_forall_ne_some]
  simp [rootedPath_eq_some]

theorem slug_eq_empty {q : Request} :
    q.slug = "" ↔ ∀ p, q.path = some p → ∀ c ∈ p.toList, c = '/' := by
  rw [slug, Text.dropStart_eq_empty]
  cases q.path <;> simp [isSlash]

theorem owner_of_rootedPath {q : Request} {path : String} (hg : q.remote.provider = .gitHub)
    (h : q.rootedPath = some path) : ∃ owner, q.owner? = some owner ∧ FirstSegment owner path := by
  obtain ⟨rfl, hne⟩ := rootedPath_eq_some.1 h
  have hsegment := firstSegment_takeWhile hne q.head?_slug
  exact ⟨_, (owner?_eq hg).trans (Text.nonEmpty?_eq_some.2 ⟨rfl, hsegment.ne_empty⟩), hsegment⟩

theorem owner?_eq_none {q : Request} (hg : q.remote.provider = .gitHub)
    (h : q.rootedPath = none) : q.owner? = none := by
  rw [owner?_eq hg, rootedPath_eq_none.1 h]
  rfl

end Request

/-- A remote that a request tells has a path with one slash in front, whatever slashes the request
has there, or none where the request has no more than slashes. The login name to start with is the
one in the request; on GitHub a request without one has the first segment of the path, if there is
a path. -/
theorem remote_owner (q : Request) :
    let r := q.remote
    (∀ path, r.path = some path → Rooted path) ∧
    (r.path = none ↔ ∀ p, q.path = some p → ∀ c ∈ p.toList, c = '/') ∧
    r.uri = q.protocol.getD "https" ++ "://" ++ q.host.getD "" ++ r.path.getD "" ∧
    (∀ slashes path : String, (∀ c ∈ slashes.toList, c = '/') →
      { q with path := some (slashes ++ path) }.remote = { q with path := some path }.remote) ∧
    (q.username = none → r.provider = .gitHub →
      ((r.defaultUsername q.prior).isSome ↔ r.path.isSome) ∧
      ∀ owner, r.defaultUsername q.prior = some owner →
        ∃ path, r.path = some path ∧ FirstSegment owner path) ∧
    (∀ name, q.username = some name → r.defaultUsername q.prior = some name) := by
  intro r
  refine ⟨?_, Request.rootedPath_eq_none.trans Request.slug_eq_empty, rfl,
    fun slashes path h => Request.remote_slashes h q path, ?_, ?_⟩
  · intro path hpath
    obtain ⟨rfl, hne⟩ := Request.rootedPath_eq_some.1 hpath
    exact ⟨q.slug, rfl, hne, q.head?_slug⟩
  · intro hname hg
    have howner : r.defaultUsername q.prior = q.owner? := by
      rw [Request.defaultUsername_remote, hname]
      rfl
    rw [howner]
    cases hpath : r.path with
    | none => simp [Request.owner?_eq_none hg hpath]
    | some path =>
      obtain ⟨owner, hsome, hsegment⟩ := Request.owner_of_rootedPath hg hpath
      simp only [hsome]
      simpa using hsegment
  · intro name hname
    rw [Request.defaultUsername_remote, hname]
    rfl

end GitLogin

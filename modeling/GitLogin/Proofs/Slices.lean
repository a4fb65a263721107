import GitLogin.Proofs.Attributes
import GitLogin.Proofs.Words
import GitLogin.Prompt

/-!
Texts cut at positions in their bytes, and numbers of a fixed width. A cut panics outside of the
text or within a character; each function that cuts a text is the same as one on its characters,
and so never panics.
-/

namespace GitLogin

inductive Panic
  | misuse (cause : Misuse)
  | slice
  | overflow
  deriving DecidableEq

namespace Text

def size (s : String) : Nat := (Utf8.encode s).length

@[simp] theorem size_append (s t : String) : size (s ++ t) = size s + size t := by simp [size]

def ofBytes (bytes : List UInt8) : Except Panic String :=
  match Utf8.decode bytes with
  | some s => .ok s
  | none => .error .slice

@[simp] theorem ofBytes_encode (s : String) : ofBytes (Utf8.encode s) = .ok s := by simp [ofBytes]

def sliceTo (stop : Nat) (s : String) : Except Panic String :=
  if stop ≤ size s then ofBytes ((Utf8.encode s).take stop) else .error .slice

def sliceFrom (start : Nat) (s : String) : Except Panic String :=
  if start ≤ size s then ofBytes ((Utf8.encode s).drop start) else .error .slice

def slice (start stop : Nat) (s : String) : Except Panic String :=
  sliceTo stop s >>= sliceFrom start

@[simp] theorem sliceTo_append (s t : String) : sliceTo (size s) (s ++ t) = .ok s := by
  rw [sliceTo, if_pos (by simp), Utf8.encode_append, size, List.take_left', ofBytes_encode]
  rfl

@[simp] theorem sliceFrom_append (s t : String) : sliceFrom (size s) (s ++ t) = .ok t := by
  rw [sliceFrom, if_pos (by simp), Utf8.encode_append, size, List.drop_left', ofBytes_encode]
  rfl

@[simp] theorem slice_append (s t u : String) :
    slice (size s) (size s + size t) (s ++ t ++ u) = .ok t := by
  rw [slice, ← size_append, sliceTo_append]
  exact sliceFrom_append s t

example : sliceFrom 2 "é/" = .ok "/" ∧ sliceFrom 1 "é/" = .error .slice := by decide

def find? (c : Char) (s : String) : Option Nat := (cut? c s).map fun p => size p.1

def rfind? (p : Char → Bool) (s : String) : Option Nat :=
  match s.toList.reverse.dropWhile (!p ·) with
  | [] => none
  | _ :: before => some (size (.ofList before.reverse))

theorem size_singleton (c : Char) : size (.singleton c) = c.utf8Size := by
  simp [size, Utf8.encode]

theorem find?_append {c : Char} {before : String} (h : c ∉ before.toList) (after : String) :
    find? c (before ++ .singleton c ++ after) = some (size before) := by
  rw [find?, cut?_append h]
  rfl

theorem find?_eq_none {c : Char} {s : String} (h : c ∉ s.toList) : find? c s = none := by
  rw [find?, cut?_eq_none h]
  rfl

end Text

namespace Checked

open Text

def add (limit m n : Nat) : Except Panic Nat :=
  if m + n < limit then .ok (m + n) else .error .overflow

def sub (m n : Nat) : Except Panic Nat := if n ≤ m then .ok (m - n) else .error .overflow

theorem add_eq {limit m n : Nat} (h : m + n < limit) : add limit m n = .ok (m + n) := if_pos h

theorem sub_eq {m n : Nat} (h : n ≤ m) : sub m n = .ok (m - n) := if_pos h

def quoted (s : String) : Except Panic (Option String) :=
  match find? '\'' s with
  | none => .ok none
  | some i => do
    let start := i + 1
    let rest ← sliceFrom start s
    match find? '\'' rest with
    | none => .ok none
    | some j => do
      let quoted ← slice start (start + j) s
      .ok (nonEmpty? quoted)

theorem quoted_eq (s : String) : quoted s = .ok (Question.quoted? s) := by
  have hquote : size (.singleton '\'') = 1 := by decide
  by_cases h : '\'' ∈ s.toList
  · obtain ⟨before, rest, hbefore, rfl⟩ := exists_cut h
    have hstart : size before + 1 = size (before ++ .singleton '\'') := by rw [size_append, hquote]
    simp only [quoted, find?_append hbefore, hstart, sliceFrom_append]
    by_cases h' : '\'' ∈ rest.toList
    · obtain ⟨text, after, htext, rfl⟩ := exists_cut h'
      have hcut : slice (size (before ++ .singleton '\''))
          (size (before ++ .singleton '\'') + size text)
          (before ++ .singleton '\'' ++ (text ++ .singleton '\'' ++ after)) = .ok text := by
        have hparts : before ++ .singleton '\'' ++ (text ++ .singleton '\'' ++ after) =
            before ++ .singleton '\'' ++ text ++ (.singleton '\'' ++ after) := by
          simp only [String.append_assoc]
        rw [hparts]
        exact slice_append _ _ _
      simp only [Question.quoted?, cut?_append hbefore, cut?_append htext, bind, Except.bind,
        find?_append htext, hcut, Option.bind]
    · simp only [Question.quoted?, cut?_append hbefore, cut?_eq_none h', bind, Except.bind,
        find?_eq_none h', Option.bind]
  · simp only [quoted, find?_eq_none h, Question.quoted?, cut?_eq_none h]
    rfl

def keyFile (s : String) : Except Panic (Option String) := do
  match ← quoted s with
  | some path => .ok (some path)
  | none =>
    let rest ← sliceFrom (size Question.passphraseStart) s
    .ok (nonEmpty? (Question.trimQuestion ((afterStart? "key " rest).getD rest)))

theorem utf8Size_toLower (c : Char) : c.toLower.utf8Size = c.utf8Size := by
  have hone (d : Char) (hd : d.toNat ≤ 127) : d.utf8Size = 1 :=
    Char.utf8Size_eq_one_iff.2 (UInt32.le_iff_toNat_le.2 hd)
  by_cases h : 'A'.val ≤ c.val ∧ c.val ≤ 'Z'.val
  · obtain ⟨hlow, hhigh⟩ : 65 ≤ c.toNat ∧ c.toNat ≤ 90 := by
      simpa [UInt32.le_iff_toNat_le] using h
    have hshift : ('a'.val - 'A'.val).toNat = 32 := by decide
    have hval : c.toLower.toNat = c.toNat + 32 := by
      have hlower : c.toLower.val = c.val + ('a'.val - 'A'.val) :=
        congrArg Char.val (dif_pos h)
      rw [← Char.toNat_val, hlower, UInt32.toNat_add, hshift, Char.toNat_val]
      omega
    rw [hone c (by omega), hone c.toLower (by omega)]
  · exact congrArg Char.utf8Size (dif_neg h)

theorem size_cons (c : Char) (cs : List Char) :
    size (.ofList (c :: cs)) = c.utf8Size + size (.ofList cs) := by
  simp [size, Utf8.encode]

theorem size_map_toLower (cs : List Char) :
    size (.ofList (cs.map Char.toLower)) = size (.ofList cs) := by
  induction cs with
  | nil => rfl
  | cons c cs ih => rw [List.map_cons, size_cons, size_cons, utf8Size_toLower, ih]

theorem exists_start {start s : String} (h : Question.startsWith start s = true) :
    ∃ front rest, s = front ++ rest ∧ size front = size start ∧ front.length = start.length := by
  obtain ⟨front, rest, rfl, hfront⟩ := Question.startsWith_iff.1 h
  refine ⟨front, rest, rfl, ?_, hfront.length_eq⟩
  rw [← @String.ofList_toList start, ← hfront, size_map_toLower, String.ofList_toList]

theorem keyFile_eq {s : String} (h : Question.startsWith Question.passphraseStart s = true) :
    keyFile s = .ok (Question.keyFile? s) := by
  obtain ⟨front, rest, rfl, hsize, hlength⟩ := exists_start h
  have hdrop : (front ++ rest).toList.drop Question.passphraseStart.length = rest.toList := by
    rw [String.toList_append, List.drop_left' (hlength ▸ String.length_toList)]
  rw [keyFile, quoted_eq, Question.keyFile?, ← hsize, sliceFrom_append, hdrop, String.ofList_toList]
  cases Question.quoted? (front ++ rest) with
  | none => rfl
  | some path => rfl

def known (s : String) : Except Panic (Option Question) :=
  if Question.startsWith Question.usernameStart s then
    (quoted s).map fun object => object.map .username
  else if Question.startsWith Question.passwordStart s then
    (quoted s).map fun object => object.map .password
  else if Question.startsWith Question.passphraseStart s then
    (keyFile s).map fun object => object.map .passphrase
  else .ok none

def parse (s : String) : Except Panic Question :=
  (known s).map fun q => q.getD (.unknown (Question.trimQuestion s))

theorem parse_eq (s : String) : parse s = .ok (Question.parse s) := by
  have hknown : known s = .ok (Question.known? s) := by
    rw [known, Question.known?, quoted_eq]
    split
    · rfl
    · split
      · rfl
      · split
        · next hstart =>
          rw [keyFile_eq hstart]
          rfl
        · rfl
  rw [parse, hknown]
  rfl

def baseName (path : String) : Except Panic String :=
  let trimmed := dropEnd isSeparator path
  match rfind? isSeparator trimmed with
  | some i => sliceFrom (i + 1) trimmed
  | none => .ok trimmed

theorem baseName_eq (path : String) : baseName path = .ok (Text.baseName path) := by
  rw [baseName, Text.baseName, rfind?, toList_dropEnd, List.reverse_reverse, dropEnd]
  generalize path.toList.reverse.dropWhile isSeparator = cs
  have hsplit := List.takeWhile_append_dropWhile (p := (!isSeparator ·)) (l := cs)
  cases hdrop : cs.dropWhile (!isSeparator ·) with
  | nil =>
    rw [hdrop, List.append_nil] at hsplit
    simp only [hsplit]
  | cons c before =>
    have hc : isSeparator c = true := by
      have hhead := List.head?_dropWhile_not (!isSeparator ·) cs
      rw [hdrop] at hhead
      simpa using hhead
    have hone : c.utf8Size = 1 := by
      rcases (by simpa [isSeparator] using hc : c = '/' ∨ c = '\\') with rfl | rfl
      · rfl
      · rfl
    have hparts : String.ofList cs.reverse = .ofList before.reverse ++ .singleton c ++
        .ofList (cs.takeWhile (!isSeparator ·)).reverse := by
      apply String.toList_inj.1
      conv => lhs; rw [← hsplit, hdrop]
      simp
    have hsize : size (.ofList before.reverse) + 1 =
        size (.ofList before.reverse ++ .singleton c) := by
      rw [size_append, size_singleton, hone]
    simp only [hparts, hsize, sliceFrom_append]

def owner (path : String) : Except Panic (Option String) :=
  match path.toList with
  | c :: rest =>
    if c.utf8Size = 1 then
      match find? '/' (.ofList rest) with
      | some stop => (sliceTo stop (.ofList rest)).map nonEmpty?
      | none => .ok (nonEmpty? (.ofList rest))
    else .ok none
  | [] => .ok none

theorem owner_eq (path : String) : owner path = .ok (match path.toList with
    | c :: rest => if c.utf8Size = 1 then nonEmpty? (.ofList (rest.takeWhile (· != '/'))) else none
    | [] => none) := by
  rw [owner]
  split
  · next c rest heq =>
    split
    · by_cases h : '/' ∈ rest
      · obtain ⟨before, after, hbefore, hrest⟩ :=
          exists_cut (s := .ofList rest) (by simpa using h)
        have htake : rest.takeWhile (· != '/') = before.toList := by
          rw [← @String.toList_ofList rest, hrest]
          simp [List.takeWhile_append_of_pos (forall_bne hbefore)]
        rw [hrest, find?_append hbefore, htake, String.ofList_toList, String.append_assoc]
        simp only [sliceTo_append]
        rfl
      · have htake : rest.takeWhile (· != '/') = rest :=
          List.takeWhile_eq_self_iff.2 (forall_bne h)
        rw [find?_eq_none (by simpa using h), htake]
    · rfl
  · rfl

def elide (width : Nat) (s : String) : Except Panic String :=
  let cs := s.toList
  if cs.length ≤ width then .ok s
  else do
    let kept := width / 2
    let taken ← add UInt64.size kept 1
    let cut ← sub cs.length kept
    .ok (.ofList (cs.take (width - taken) ++ ellipsis :: cs.drop cut))

theorem elide_eq {width : Nat} (h : width < UInt64.size) (s : String) :
    elide width s = .ok (Text.elide width s) := by
  rw [elide, Text.elide]
  split
  · rfl
  · next hlong =>
    have htaken : width / 2 + 1 < UInt64.size := by
      rw [UInt64.size] at h ⊢
      omega
    have hkept : width / 2 ≤ s.toList.length := by omega
    simp only [add_eq htaken, sub_eq hkept]
    rfl

end Checked

end GitLogin

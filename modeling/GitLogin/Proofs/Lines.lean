import GitLogin.Proofs.Trimming
import GitLogin.Stream.Sink
import GitLogin.Stream.Source
import GitLogin.Text.Pieces

namespace GitLogin

namespace Text

namespace Utf8

theorem ascii_mem_encodeChar {b : UInt8} (hb : b.toNat < 128) {c : Char} :
    b ∈ String.utf8EncodeChar c ↔ c.toNat = b.toNat := by
  have heq (n : Nat) : b = UInt8.ofNat n ↔ n % 256 = b.toNat := by
    rw [← UInt8.toNat_inj, UInt8.toNat_ofNat', eq_comm]
  rw [← Char.toNat_val, String.utf8EncodeChar]
  generalize c.val.toNat = v
  split
  · simp only [List.mem_singleton, heq]
    omega
  · split
    · simp only [List.mem_cons, List.not_mem_nil, or_false, heq]
      omega
    · split
      · simp only [List.mem_cons, List.not_mem_nil, or_false, heq]
        omega
      · simp only [List.mem_cons, List.not_mem_nil, or_false, heq]
        omega

theorem newline_mem_encodeChar {c : Char} :
    Source.newline ∈ String.utf8EncodeChar c ↔ c = '\n' := by
  rw [ascii_mem_encodeChar (by decide), ← Char.toNat_inj]
  rfl

theorem newline_mem_encode {s : String} : Source.newline ∈ encode s ↔ '\n' ∈ s.toList := by
  simp [encode, newline_mem_encodeChar]

theorem encode_newline : encode "\n" = [Source.newline] := by decide

theorem encode_line_ne_nil (s : String) : encode (s ++ "\n") ≠ [] := by
  rw [encode_append, encode_newline]
  exact List.append_ne_nil_of_right_ne_nil _ (List.cons_ne_nil _ _)

theorem encode_eq_concat {s : String} {bytes : List UInt8} :
    encode s = bytes ++ [Source.newline] ↔ ∃ t, s = t ++ "\n" ∧ bytes = encode t := by
  constructor
  · intro h
    obtain ⟨cs, rfl⟩ := s.exists_eq_ofList
    rcases List.eq_nil_or_concat cs with rfl | ⟨cs, c, rfl⟩
    · simp [encode] at h
    · rw [List.concat_eq_append, String.ofList_append] at h ⊢
      rw [encode_append] at h
      have hone : encode (.ofList [c]) = String.utf8EncodeChar c := by simp [encode]
      have hc : Source.newline ∈ String.utf8EncodeChar c := by
        rcases List.eq_nil_or_concat (String.utf8EncodeChar c) with hnil | ⟨bs, b, hbs⟩
        · exact absurd hnil String.utf8EncodeChar_ne_nil
        · rw [hone, hbs, List.concat_eq_append, ← List.append_assoc] at h
          obtain ⟨-, hb⟩ := List.append_inj' h rfl
          cases hb
          simp [hbs]
      rw [newline_mem_encodeChar] at hc
      subst hc
      exact ⟨.ofList cs, rfl, (List.append_cancel_right h).symm⟩
  · rintro ⟨t, rfl, rfl⟩
    rw [encode_append, encode_newline]

theorem decode_concat (bytes : List UInt8) :
    decode (bytes ++ [Source.newline]) = (decode bytes).map (· ++ "\n") := by
  ext s
  rw [decode_eq_some_iff, eq_comm, encode_eq_concat, Option.map_eq_some_iff]
  simp only [decode_eq_some_iff]
  constructor
  · rintro ⟨t, rfl, rfl⟩
    exact ⟨t, rfl, rfl⟩
  · rintro ⟨t, rfl, rfl⟩
    exact ⟨t, rfl, rfl⟩

end Utf8

/-- A line up to the carriage returns and newlines at its end. -/
def withoutEnding (line : String) : String :=
  .ofList (line.toList.rdropWhile fun c => c = '\r' ∨ c = '\n')

section Endings

variable {line text ending : String}

@[simp] theorem chomp_eq (line : String) : chomp line = withoutEnding line := by
  have hend : isLineEnd = fun c => decide (c = '\r' ∨ c = '\n') := by
    funext c
    rw [isLineEnd, Bool.or_comm, Bool.decide_or]
    rfl
  rw [chomp, dropEnd, hend]
  rfl

theorem withoutEnding_eq_self (h : ∀ c ∈ line.toList.getLast?, isLineEnd c = false) :
    withoutEnding line = line := by
  rw [← chomp_eq]
  exact dropEnd_eq_self h

theorem withoutEnding_append (h : ∀ c ∈ ending.toList, isLineEnd c) (text : String) :
    withoutEnding (text ++ ending) = withoutEnding text := by
  rw [← chomp_eq, ← chomp_eq]
  exact dropEnd_append h

theorem withoutEnding_newline (text : String) :
    withoutEnding (text ++ "\n") = withoutEnding text :=
  withoutEnding_append (by simp [isLineEnd]) text

/-- Only carriage returns and newlines are gone, and all of them. -/
theorem withoutEnding_eq_iff : withoutEnding line = text ↔
    (∃ ending, line = text ++ ending ∧ ∀ c ∈ ending.toList, c = '\r' ∨ c = '\n') ∧
      ∀ c ∈ text.toList.getLast?, c ≠ '\r' ∧ c ≠ '\n' := by
  constructor
  · rintro rfl
    obtain ⟨text, ending, hline, htext, hlast, hending⟩ := exists_dropEnd isLineEnd line
    rw [← chomp_eq, chomp, htext]
    refine ⟨⟨ending, hline, fun c hc => ?_⟩, fun c hc => ?_⟩
    · simpa [isLineEnd, or_comm] using hending c hc
    · simpa [isLineEnd, and_comm] using hlast c hc
  · rintro ⟨⟨ending, rfl, hending⟩, hlast⟩
    rw [withoutEnding_append, withoutEnding_eq_self]
    · intro c hc
      simpa [isLineEnd, and_comm] using hlast c hc
    · intro c hc
      simpa [isLineEnd, or_comm] using hending c hc

end Endings

theorem separator_notMem_pieces {α : Type} [BEq α] [LawfulBEq α] {separator : α} {cs p : List α}
    (hp : p ∈ pieces separator cs) : separator ∉ p := by
  induction cs generalizing p with
  | nil =>
    rw [pieces, List.mem_singleton] at hp
    rw [hp]
    exact List.not_mem_nil
  | cons c cs ih =>
    rw [pieces] at hp
    split at hp
    · rcases List.mem_cons.1 hp with rfl | hp
      · exact List.not_mem_nil
      · exact ih hp
    · next hc =>
      have hc : separator ≠ c := by
        rintro rfl
        simp at hc
      split at hp
      · next heq => exact absurd heq (pieces_ne_nil separator cs)
      · next heq =>
        rcases List.mem_cons.1 hp with rfl | hp
        · rw [List.mem_cons, not_or]
          exact ⟨hc, ih (heq ▸ List.mem_cons_self)⟩
        · exact ih (heq ▸ List.mem_cons_of_mem _ hp)

theorem pieces_append {α : Type} [BEq α] [LawfulBEq α] (separator : α) (xs ys : List α) :
    pieces separator (xs ++ separator :: ys) = pieces separator xs ++ pieces separator ys := by
  induction xs with
  | nil => simp [pieces]
  | cons x xs ih =>
    rw [List.cons_append, pieces, pieces, ih]
    split
    · rfl
    · cases hxs : pieces separator xs with
      | nil => exact absurd hxs (pieces_ne_nil separator xs)
      | cons p ps => rfl

section Pieces

variable {α : Type} [BEq α] [LawfulBEq α] {separator : α}

theorem pieces_cons_of_ne {c : α} (hc : c ≠ separator) (cs : List α) :
    pieces separator (c :: cs) = (pieces separator cs).modifyHead (c :: ·) := by
  rw [pieces, if_neg (by simpa using hc)]
  cases hcs : pieces separator cs with
  | nil => exact absurd hcs (pieces_ne_nil separator cs)
  | cons p ps => rfl

theorem pieces_append_of_notMem {xs : List α} (hxs : separator ∉ xs) (ys : List α) :
    pieces separator (xs ++ ys) = (pieces separator ys).modifyHead (xs ++ ·) := by
  induction xs with
  | nil => cases h : pieces separator ys <;> simp [h]
  | cons x xs ih =>
    rw [List.mem_cons, not_or] at hxs
    rw [List.cons_append, pieces_cons_of_ne (Ne.symm hxs.1), ih hxs.2, List.modifyHead_modifyHead]
    rfl

theorem pieces_of_notMem {xs : List α} (hxs : separator ∉ xs) : pieces separator xs = [xs] := by
  have happend := pieces_append_of_notMem hxs []
  rw [List.append_nil] at happend
  rw [happend]
  simp [pieces]

theorem exists_pieces (separator : α) (cs : List α) :
    ∃ init last, pieces separator cs = init ++ [last] ∧
      (cs.getLast? = some separator ↔ last = [] ∧ init ≠ []) := by
  by_cases hmem : separator ∈ cs
  · obtain ⟨back, front, hrev, hback⟩ := List.eq_append_cons_of_mem (List.mem_reverse.2 hmem)
    have hcs : cs = front.reverse ++ separator :: back.reverse := by
      rw [← List.reverse_reverse cs, hrev]
      simp
    have hlast : separator ∉ back.reverse := mt List.mem_reverse.1 hback
    refine ⟨pieces separator front.reverse, back.reverse, ?_, ?_⟩
    · rw [hcs, pieces_append, pieces_of_notMem hlast]
    · rw [hcs, List.getLast?_append, List.getLast?_cons, Option.some_or, Option.some.injEq]
      cases hb : back.reverse.getLast? with
      | none => simpa using List.getLast?_eq_none_iff.1 hb
      | some x =>
        have hx := List.mem_of_getLast? hb
        have hne : x ≠ separator := fun heq => hlast (heq ▸ hx)
        simp [hne, List.ne_nil_of_mem hx]
  · refine ⟨[], cs, pieces_of_notMem hmem, ?_⟩
    simpa using fun h => hmem (List.mem_of_getLast? h)

end Pieces

namespace Utf8

theorem pieces_encode (text : String) : pieces Source.newline (encode text) =
    (pieces '\n' text.toList).map fun p => encode (.ofList p) := by
  obtain ⟨cs, rfl⟩ := text.exists_eq_ofList
  rw [String.toList_ofList]
  induction cs with
  | nil => rfl
  | cons c cs ih =>
    have hcons : encode (.ofList (c :: cs)) = String.utf8EncodeChar c ++ encode (.ofList cs) := by
      simp [encode]
    by_cases hc : c = '\n'
    · subst hc
      have hone : String.utf8EncodeChar '\n' = [Source.newline] := by decide
      rw [hcons, hone, List.singleton_append, pieces, pieces, if_pos (by simp),
        if_pos (by simp), ih]
      rfl
    · have hnot : Source.newline ∉ String.utf8EncodeChar c := mt newline_mem_encodeChar.1 hc
      rw [hcons, pieces_append_of_notMem hnot, pieces_cons_of_ne hc, ih]
      cases pieces '\n' cs with
      | nil => rfl
      | cons p ps => simp [encode]

end Utf8

def lines (text : String) : List String :=
  let pieces := pieces '\n' text.toList
  (pieces.dropLast ++ pieces.getLast?.toList.filter (!·.isEmpty)).map
    fun p => withoutEnding (.ofList p)

end Text

inductive LinesRead {ρ : Type} [LineReader ρ] (input : ρ) : List String → ρ → Prop
  | none : LinesRead input [] input
  | next {ls : List String} {i i' : ρ} {line : String} : LinesRead input ls i →
      LineReader.readLine i = (.ok (some line), i') →
      LinesRead input (ls ++ [Text.withoutEnding line]) i'

/-- The lines of a byte sequence without their endings; `none` is a line that is not UTF-8. What
follows the last newline counts unless it is empty or the read fails there. -/
def typedLines (bytes : List UInt8) (broken : Bool) : List (Option String) :=
  let pieces := Text.pieces Source.newline bytes
  (pieces.dropLast ++ pieces.getLast?.toList.filter fun p => !broken && !p.isEmpty).map
    fun p => (Text.Utf8.decode p).map Text.withoutEnding

theorem typedLines_append (head tail : List UInt8) (broken : Bool) :
    typedLines (head ++ Source.newline :: tail) broken =
      typedLines (head ++ [Source.newline]) false ++ typedLines tail broken := by
  have hnil : Text.pieces Source.newline ([] : List UInt8) = [[]] := rfl
  rcases List.eq_nil_or_concat (Text.pieces Source.newline tail) with h | ⟨ps, p, h⟩
  · exact absurd h (Text.pieces_ne_nil Source.newline tail)
  · simp only [typedLines, Text.pieces_append, hnil, h, List.concat_eq_append,
      ← List.append_assoc, List.dropLast_concat, List.getLast?_concat]
    simp

theorem typedLines_encode (text : String) (broken : Bool) :
    typedLines (Text.Utf8.encode text) broken =
      (if broken ∧ text.toList.getLast? ≠ some '\n' then (Text.lines text).dropLast
        else Text.lines text).map some := by
  -- a read that fails after the last line takes that line with it if it lacks its newline
  obtain ⟨init, last, hpieces, hends⟩ := Text.exists_pieces '\n' text.toList
  have hempty (p : List Char) : (Text.Utf8.encode (.ofList p)).isEmpty = p.isEmpty := by
    cases p with
    | nil => rfl
    | cons c cs => simp [Text.Utf8.encode, String.utf8EncodeChar_ne_nil]
  simp only [typedLines, Text.lines, Text.Utf8.pieces_encode, hpieces, hends, List.map_append,
    List.map_cons, List.map_nil, List.dropLast_concat, List.getLast?_concat, Option.toList_some,
    List.filter_cons, hempty, ne_eq]
  by_cases hlast : last = []
  · by_cases hinit : init = []
    · simp [hlast, hinit]
    · simp [hlast, hinit, Function.comp_def]
  · cases broken with
    | false => simp [hlast, Function.comp_def]
    | true => simp [hlast, Function.comp_def]

namespace Source

theorem cutLines_append_newline {body : List UInt8} (hb : newline ∉ body) (rest : List UInt8) :
    cutLines (body ++ newline :: rest) = (body ++ [newline]) :: cutLines rest := by
  induction body with
  | nil => simp [cutLines]
  | cons b body ih =>
    simp only [List.mem_cons, not_or] at hb
    simp only [List.cons_append, cutLines, Ne.symm hb.1, if_false, ih hb.2]

theorem cutLines_eq_pieces (bytes : List UInt8) :
    cutLines bytes = (Text.pieces newline bytes).dropLast.map (· ++ [newline]) ++
      (Text.pieces newline bytes).getLast?.toList.filter (!·.isEmpty) := by
  induction bytes with
  | nil => rfl
  | cons b bs ih =>
    have hne := Text.pieces_ne_nil newline bs
    rw [cutLines, Text.pieces, ih]
    generalize Text.pieces newline bs = ps at hne
    cases ps with
    | nil => contradiction
    | cons p ps =>
      by_cases hb : b = newline
      · simp [hb]
      · cases ps with
        | nil => cases p <;> simp [hb]
        | cons q ps => simp [hb]

theorem filter_cutLines (bytes : List UInt8) (broken : Bool) :
    (cutLines bytes).filter (fun l => !broken || l.getLast? == some newline) =
      (Text.pieces newline bytes).dropLast.map (· ++ [newline]) ++
        (Text.pieces newline bytes).getLast?.toList.filter fun p => !broken && !p.isEmpty := by
  rw [cutLines_eq_pieces, List.filter_append, List.filter_filter]
  congr 1
  · apply List.filter_eq_self.2
    intro l hl
    obtain ⟨p, -, rfl⟩ := List.mem_map.1 hl
    simp
  · apply List.filter_congr
    intro p hp
    have hp : newline ∉ p := Text.separator_notMem_pieces (List.mem_of_getLast? (by simpa using hp))
    have hlast : (p.getLast? == some newline) = false := by
      rw [beq_eq_false_iff_ne]
      exact fun h => hp (List.mem_of_getLast? h)
    rw [hlast, Bool.or_false]

theorem readLine_eq_iff {i i' : Source} {raw : String} :
    LineReader.readLine i = (.ok (some raw), i') ↔
      i.lines = some raw :: i'.lines ∧ i'.broken = i.broken := by
  obtain ⟨lines, broken⟩ := i
  obtain ⟨lines', broken'⟩ := i'
  change next ⟨lines, broken⟩ = _ ↔ _
  cases lines with
  | nil => cases broken <;> simp [next]
  | cons line lines =>
    cases line with
    | none => simp [next]
    | some raw => simp [next, eq_comm, and_assoc]

def typed (i : Source) : List (Option String) := i.lines.map (Option.map Text.withoutEnding)

theorem typed_of_linesRead {i i' : Source} {ls : List String} (h : LinesRead i ls i') :
    i.typed = ls.map some ++ i'.typed := by
  induction h with
  | none => rfl
  | next _ hread ih =>
    rw [ih, typed, (readLine_eq_iff.1 hread).1]
    simp [typed]

theorem typed_ofBytes (bytes : List UInt8) (broken : Bool) :
    (ofBytes bytes broken).typed = typedLines bytes broken := by
  have hwhole (p : List UInt8) : (Text.Utf8.decode (p ++ [newline])).map Text.withoutEnding =
      (Text.Utf8.decode p).map Text.withoutEnding := by
    cases h : Text.Utf8.decode p with
    | none => simp [Text.Utf8.decode_concat, h]
    | some s => simp [Text.Utf8.decode_concat, h, Text.withoutEnding_newline]
  rw [typed, ofBytes, typedLines]
  simp only [filter_cutLines, List.map_append, List.map_map]
  congr 1
  exact List.map_congr_left fun p _ => hwhole p

end Source

namespace Sink

structure Reliable (w : Sink) : Prop where
  limit : w.limit = none
  flushFails : w.flushFails = false

theorem reliable_empty : Reliable {} := ⟨rfl, rfl⟩

theorem Reliable.withWritten {w : Sink} (hw : w.Reliable) (written : List UInt8) :
    Reliable { w with written } := ⟨hw.limit, hw.flushFails⟩

theorem Reliable.write {w : Sink} (hw : w.Reliable) (text : String) :
    TextWriter.write text w =
      (.ok (), { w with written := w.written ++ Text.Utf8.encode text }) := by
  simp [TextWriter.write, Sink.write, hw.limit]

theorem Reliable.flush {w : Sink} (hw : w.Reliable) : TextWriter.flush w = (.ok (), w) := by
  simp [TextWriter.flush, Sink.flush, hw.flushFails]

theorem Reliable.send {w : Sink} (hw : w.Reliable) (text : String) :
    TextWriter.send text w =
      (.ok (), { w with written := w.written ++ Text.Utf8.encode text }) := by
  rw [TextWriter.send, hw.write]
  exact (hw.withWritten _).flush

end Sink

end GitLogin

import GitLogin.Toml.Parser
import Mathlib.Data.List.Nodup

namespace GitLogin.Toml

/-- No name stands twice in a table, nor in the tables in it. -/
inductive Distinct : Toml → Prop
  | table {origin : Origin} {es : Entries} : (es.map Prod.fst).Nodup →
      (∀ e ∈ es, Distinct e.2) → Distinct (.table origin es)
  | other {v : Toml} : (∀ origin es, v ≠ .table origin es) → Distinct v

structure Entries.Distinct (es : Entries) : Prop where
  names : (es.map Prod.fst).Nodup
  values : ∀ e ∈ es, e.2.Distinct

variable {k : String} {v : Toml} {es es' : Entries} {origin : Origin}

theorem lookup_mem (h : es.lookup k = some v) : (k, v) ∈ es := by
  obtain ⟨before, after, rfl, -⟩ := List.lookup_eq_some_iff.1 h
  simp

theorem lookup_eq_none : es.lookup k = none ↔ k ∉ es.map Prod.fst := by
  rw [List.lookup_eq_none_iff, List.mem_map]
  constructor
  · rintro h ⟨e, he, rfl⟩
    simpa using h e he
  · intro h e he
    rw [bne_iff_ne]
    rintro rfl
    exact h ⟨e, he, rfl⟩

theorem lookup_eq_some (h : (es.map Prod.fst).Nodup) : es.lookup k = some v ↔ (k, v) ∈ es := by
  refine ⟨lookup_mem, fun hmem => ?_⟩
  obtain ⟨before, after, rfl⟩ := List.append_of_mem hmem
  refine List.lookup_eq_some_iff.2 ⟨before, after, rfl, fun e he => ?_⟩
  rw [bne_iff_ne]
  rintro rfl
  rw [List.map_append, List.map_cons] at h
  exact (List.nodup_append.1 h).2.2 _ (List.mem_map_of_mem he) _ List.mem_cons_self rfl

theorem distinct_table : (Toml.table origin es).Distinct ↔ es.Distinct := by
  constructor
  · intro h
    cases h with
    | table hnames hvalues => exact ⟨hnames, hvalues⟩
    | other hother => exact absurd rfl (hother origin es)
  · rintro ⟨hnames, hvalues⟩
    exact .table hnames hvalues

theorem distinct_string (text : String) : (Toml.string text).Distinct := .other nofun

theorem distinct_array (vs : List Toml) : (Toml.array vs).Distinct := .other nofun

theorem distinct_tables (ts : List Entries) : (Toml.tables ts).Distinct := .other nofun

namespace Entries

theorem distinct_nil : Distinct [] := ⟨List.nodup_nil, by simp⟩

theorem Distinct.of_lookup (h : es.Distinct) (hk : es.lookup k = some v) : v.Distinct :=
  h.values _ (lookup_mem hk)

theorem Distinct.concat (h : es.Distinct) (hk : es.lookup k = none) (hv : v.Distinct) :
    Distinct (es ++ [(k, v)]) := by
  constructor
  · rw [List.map_append, List.map_singleton, ← List.concat_eq_append, List.nodup_concat]
    exact ⟨lookup_eq_none.1 hk, h.names⟩
  · intro e he
    rcases List.mem_append.1 he with he | he
    · exact h.values e he
    · rw [List.mem_singleton.1 he]
      exact hv

theorem names_set (es : Entries) (k : String) (v : Toml) : (Toml.set es k v).map Prod.fst =
    if k ∈ es.map Prod.fst then es.map Prod.fst else es.map Prod.fst ++ [k] := by
  induction es with
  | nil => rfl
  | cons e es ih =>
    obtain ⟨k', w⟩ := e
    by_cases hk : k' = k
    · simp [Toml.set, hk]
    · have hne : k ≠ k' := Ne.symm hk
      simp only [Toml.set, if_neg hk, List.map_cons, ih, List.mem_cons, hne, false_or]
      split <;> rfl

theorem mem_set {e : String × Toml} (h : e ∈ Toml.set es k v) : e = (k, v) ∨ e ∈ es := by
  induction es with
  | nil => exact .inl (List.mem_singleton.1 h)
  | cons e' es ih =>
    obtain ⟨k', w⟩ := e'
    rw [Toml.set] at h
    split at h
    · next hk =>
      rw [hk] at h
      rcases List.mem_cons.1 h with h | h
      · exact .inl h
      · exact .inr (List.mem_cons_of_mem _ h)
    · rcases List.mem_cons.1 h with rfl | h
      · exact .inr List.mem_cons_self
      · exact (ih h).imp_right (List.mem_cons_of_mem _)

theorem Distinct.set (h : es.Distinct) (k : String) (hv : v.Distinct) :
    Distinct (Toml.set es k v) := by
  constructor
  · rw [names_set]
    split
    · exact h.names
    · next hk =>
      rw [← List.concat_eq_append, List.nodup_concat]
      exact ⟨hk, h.names⟩
  · intro e he
    rcases mem_set he with rfl | he
    · exact hv
    · exact h.values e he

theorem Distinct.setTable {inner : Entries} (h : es.Distinct) (k : String) (origin : Origin)
    (hinner : inner.Distinct) : Distinct (Toml.set es k (.table origin inner)) :=
  h.set k (distinct_table.2 hinner)

theorem Distinct.put {key : List String} (h : es.Distinct) (hv : v.Distinct)
    (hput : Toml.put key v es = some es') : Distinct es' := by
  fun_induction Toml.put key v es generalizing es' with
  | case1 => cases hput
  | case2 => cases hput
  | case3 k v es hk =>
    cases hput
    exact h.concat (Option.not_isSome_iff_eq_none.1 hk) hv
  | case4 k k' ks v es hk ih =>
    obtain ⟨inner, hinner, rfl⟩ := Option.map_eq_some_iff.1 hput
    exact h.concat hk (distinct_table.2 (ih distinct_nil hv hinner))
  | case5 k k' ks v es inner hk ih =>
    obtain ⟨inner', hinner, rfl⟩ := Option.map_eq_some_iff.1 hput
    exact h.setTable k .dotted (ih (distinct_table.1 (h.of_lookup hk)) hv hinner)
  | case6 => cases hput
  | case7 k k' ks v es inner hk _ ih =>
    obtain ⟨inner', hinner, rfl⟩ := Option.map_eq_some_iff.1 hput
    exact h.setTable k .implied (ih (distinct_table.1 (h.of_lookup hk)) hv hinner)
  | case8 => cases hput
  | case9 k k' ks v es ts hk _ =>
    obtain ⟨ts', -, rfl⟩ := Option.map_eq_some_iff.1 hput
    exact h.set k (distinct_tables ts')
  | case10 => cases hput

theorem Distinct.alter {f : Option Toml → Option Toml} {path : List String} (h : es.Distinct)
    (hf : ∀ o v, (∀ w ∈ o, w.Distinct) → f o = some v → v.Distinct)
    (halter : Toml.alter f path es = some es') : Distinct es' := by
  -- what is changed at the end of a path keeps the names distinct if the change does
  fun_induction Toml.alter f path es generalizing es' with
  | case1 => cases halter
  | case2 k es =>
    obtain ⟨v, hv, rfl⟩ := Option.map_eq_some_iff.1 halter
    exact h.set k (hf _ _ (fun w hw => h.of_lookup hw) hv)
  | case3 k k' ks es hk ih =>
    obtain ⟨inner, hinner, rfl⟩ := Option.map_eq_some_iff.1 halter
    exact h.setTable k .implied (ih distinct_nil hinner)
  | case4 => cases halter
  | case5 k k' ks es origin inner _ hk ih =>
    obtain ⟨inner', hinner, rfl⟩ := Option.map_eq_some_iff.1 halter
    exact h.setTable k origin (ih (distinct_table.1 (h.of_lookup hk)) hinner)
  | case6 k k' ks es ts hk =>
    obtain ⟨ts', -, rfl⟩ := Option.map_eq_some_iff.1 halter
    exact h.set k (distinct_tables ts')
  | case7 => cases halter

end Entries

section Changes

variable {o : Option Toml}

theorem distinct_openTable (ho : ∀ w ∈ o, w.Distinct) (h : openTable o = some v) : v.Distinct := by
  rw [openTable.eq_def] at h
  split at h
  · cases h
    exact distinct_table.2 Entries.distinct_nil
  · cases h
    exact distinct_table.2 (distinct_table.1 (ho _ rfl))
  · cases h

theorem distinct_openElement (h : openElement o = some v) : v.Distinct := by
  rw [openElement.eq_def] at h
  split at h
  · cases h
    exact distinct_tables _
  · cases h
    exact distinct_tables _
  · cases h

theorem distinct_putInto {key : List String} {w : Toml} (hw : w.Distinct)
    (ho : ∀ w ∈ o, w.Distinct) (h : putInto key w o = some v) : v.Distinct := by
  rw [putInto.eq_def] at h
  split at h
  · obtain ⟨es, hes, rfl⟩ := Option.map_eq_some_iff.1 h
    exact distinct_table.2 ((distinct_table.1 (ho _ rfl)).put hw hes)
  · obtain ⟨ts, -, rfl⟩ := Option.map_eq_some_iff.1 h
    exact distinct_tables ts
  · cases h

end Changes

theorem of_foldlM {α β : Type} {f : β → α → Option β} {P : β → Prop} {Q : α → Prop}
    (hf : ∀ b a b', P b → Q a → f b a = some b' → P b') {as : List α} {b b' : β} (hb : P b)
    (has : ∀ a ∈ as, Q a) (h : as.foldlM f b = some b') : P b' := by
  induction as generalizing b with
  | nil =>
    cases h
    exact hb
  | cons a as ih =>
    rw [List.foldlM_cons, Option.bind_eq_bind, Option.bind_eq_some_iff] at h
    obtain ⟨b₁, hstep, h⟩ := h
    rw [List.forall_mem_cons] at has
    exact ih (hf _ _ _ hb has.1 hstep) has.2 h

def Statement.Distinct : Statement → Prop
  | .entry _ v => v.Distinct
  | .header _ => True
  | .element _ => True

theorem Document.distinct_add {d d' : Document} {s : Statement} (hd : d.root.Distinct)
    (hs : s.Distinct) (h : d.add s = some d') : d'.root.Distinct := by
  cases s with
  | entry key v =>
    obtain ⟨root, hroot, rfl⟩ := Option.map_eq_some_iff.1 h
    split at hroot
    · exact hd.put hs hroot
    · exact hd.alter (fun o w ho hw => distinct_putInto hs ho hw) hroot
  | header path =>
    obtain ⟨root, hroot, rfl⟩ := Option.map_eq_some_iff.1 h
    exact hd.alter (fun o w ho hw => distinct_openTable ho hw) hroot
  | element path =>
    obtain ⟨root, hroot, rfl⟩ := Option.map_eq_some_iff.1 h
    exact hd.alter (fun o w _ hw => distinct_openElement hw) hroot

theorem distinct_ofStatements {ss : List Statement} (hss : ∀ s ∈ ss, s.Distinct)
    (h : ofStatements ss = some v) : ∃ es : Entries, v = .table .header es ∧ es.Distinct := by
  obtain ⟨d, hd, rfl⟩ := Option.map_eq_some_iff.1 h
  refine ⟨d.root, rfl, ?_⟩
  exact of_foldlM (P := fun d => d.root.Distinct)
    (fun _ _ _ hd hs h => Document.distinct_add hd hs h) Entries.distinct_nil hss hd

def Parser.Distinct (item : Parser Toml) : Prop :=
  ∀ cs v rest, item cs = some (v, rest) → v.Distinct

section Parsers

variable {item : Parser Toml} {cs rest : List Char}

theorem distinct_pair (hitem : item.Distinct) {key : List String}
    (h : pair item cs = some ((key, v), rest)) : v.Distinct := by
  rw [pair.eq_def] at h
  split at h
  · obtain ⟨⟨w, rest'⟩, hw, heq⟩ := Option.map_eq_some_iff.1 h
    cases heq
    exact hitem _ _ _ hw
  · cases h

theorem distinct_pairs (hitem : item.Distinct) {ps : List (List String × Toml)}
    (h : pairs item cs = some (ps, rest)) : ∀ p ∈ ps, p.2.Distinct := by
  fun_induction pairs item cs generalizing ps rest with
  | case1 => cases h
  | case2 cs p rest₁ hp =>
    cases h
    simpa using distinct_pair hitem hp
  | case3 cs p rest₁ hp rest₂ _ _ ih =>
    obtain ⟨⟨ps', rest'⟩, hps, heq⟩ := Option.map_eq_some_iff.1 h
    cases heq
    rw [List.forall_mem_cons]
    exact ⟨distinct_pair hitem hp, ih hps⟩
  | case4 => cases h
  | case5 => cases h

theorem distinct_inlineTable (hitem : item.Distinct) : Parser.Distinct (inlineTable item) := by
  intro cs v rest h
  rw [inlineTable.eq_def] at h
  split at h
  · cases h
    exact distinct_table.2 Entries.distinct_nil
  · simp only [Option.bind_eq_bind, Option.bind_eq_some_iff] at h
    obtain ⟨⟨ps, rest'⟩, hps, es, hes, h⟩ := h
    cases h
    refine distinct_table.2 (of_foldlM ?_ Entries.distinct_nil (distinct_pairs hitem hps) hes)
    exact fun es p es' hes hp h => hes.put hp h

theorem distinct_scalar : Parser.Distinct scalar := by
  intro cs v rest h
  simp only [scalar] at h
  -- no branch gives a table
  repeat' split at h
  all_goals cases h
  all_goals exact .other nofun

theorem distinct_value (depth : Nat) : Parser.Distinct (value depth) := by
  have hzero : Parser.Distinct (value 0) := by
    intro cs v rest h
    rw [value] at h
    split at h
    · cases h
      exact distinct_string _
    · exact distinct_scalar _ _ _ h
  -- the values of an inline table are read at the depth below
  induction depth with
  | zero => exact hzero
  | succ depth ih =>
    intro cs v rest h
    rw [value.eq_def] at h
    simp only at h
    split at h
    · obtain ⟨⟨vs, rest'⟩, -, heq⟩ := Option.map_eq_some_iff.1 h
      cases heq
      exact distinct_array vs
    · exact distinct_inlineTable ih _ _ _ h
    · exact hzero _ _ _ h

theorem distinct_statement {s : Statement} (h : statement cs = some (s, rest)) : s.Distinct := by
  rw [statement.eq_def] at h
  split at h
  · split at h
    · cases h
      trivial
    · cases h
  · split at h
    · cases h
      trivial
    · cases h
  · obtain ⟨⟨⟨key, w⟩, rest'⟩, hpair, heq⟩ := Option.map_eq_some_iff.1 h
    cases heq
    exact distinct_pair (distinct_value _) hpair

theorem distinct_statements {ss : List Statement} (h : statements cs = some ss) :
    ∀ s ∈ ss, s.Distinct := by
  fun_induction statements cs generalizing ss with
  | case1 =>
    cases h
    simp
  | case2 cs _ rest _ _ ih => exact ih h
  | case3 => cases h
  | case4 cs _ _ ih =>
    simp only [Option.bind_eq_bind, Option.bind_eq_some_iff] at h
    obtain ⟨⟨s, rest⟩, hs, rest', -, h⟩ := h
    split at h
    · next hlt =>
      obtain ⟨ss', hss, heq⟩ := Option.bind_eq_some_iff.1 h
      cases heq
      rw [List.forall_mem_cons]
      exact ⟨distinct_statement hs, ih rest' hlt hss⟩
    · cases h

end Parsers

theorem distinct_of_parse {text : String} (h : parse? text = some v) :
    ∃ es : Entries, v = .table .header es ∧ es.Distinct := by
  obtain ⟨ss, hss, h⟩ := Option.bind_eq_some_iff.1 h
  exact distinct_ofStatements (distinct_statements hss) h

/-- A document is a table, and no table that names in it lead to has a name twice. -/
def NamesDistinct [TomlParser] : Prop :=
  ∀ text v, TomlParser.parse? text = some v →
    ∃ origin, ∃ es : Entries, v = .table origin es ∧ es.Distinct

theorem namesDistinct : NamesDistinct := fun _ _ h => ⟨.header, distinct_of_parse h⟩

end GitLogin.Toml

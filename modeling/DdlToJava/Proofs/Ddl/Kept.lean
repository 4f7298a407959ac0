import DdlToJava.Proofs.Ddl.Sources
import Mathlib.Data.List.Induction

/-!
# Which lines become columns

A line that declares a new name becomes a column, and the name of any other line is a duplicate.
`firsts` and `repeats` say which entries of a list are new by what stands above each of them; both
are described by what one more entry at the end does (`firsts_concat`, `repeats_concat`).

* `splitRepeated_eq`   the kept lines are the first ones of their names, the others the repeats;
* `exists_of_mem_firsts`
                       a first line has its name for the first time;
* `ofDdl_accountsFor`  a table accounts for every line that declares a column.
-/

namespace DdlToJava

/-! ## first and later entries -/

section
variable {α β : Type} [DecidableEq β] (key : α → β)

/-- the entries whose key no entry above them has -/
def firsts (as : List α) : List α :=
  (as.zipIdx.filter fun p => key p.1 ∉ (as.take p.2).map key).map (·.1)

/-- the entries whose key an entry above them has -/
def repeats (as : List α) : List α :=
  (as.zipIdx.filter fun p => key p.1 ∈ (as.take p.2).map key).map (·.1)

/-- what stands above an entry does not change when the list grows at its end -/
theorem take_concat_of_mem_zipIdx {as : List α} {p : α × Nat} (h : p ∈ as.zipIdx) (a : α) :
    (as ++ [a]).take p.2 = as.take p.2 :=
  List.take_append_of_le_length (List.snd_lt_of_mem_zipIdx h).le

theorem firsts_concat (as : List α) (a : α) :
    firsts key (as ++ [a]) = firsts key as ++ if key a ∈ as.map key then [] else [a] := by
  have hold : (as.zipIdx.filter fun p => key p.1 ∉ ((as ++ [a]).take p.2).map key) =
      as.zipIdx.filter fun p => key p.1 ∉ (as.take p.2).map key :=
    List.filter_congr fun p hp => by rw [take_concat_of_mem_zipIdx hp]
  unfold firsts
  rw [List.zipIdx_append, List.filter_append, List.map_append, hold]
  by_cases h : key a ∈ as.map key <;> simp [h]

theorem repeats_concat (as : List α) (a : α) :
    repeats key (as ++ [a]) = repeats key as ++ if key a ∈ as.map key then [a] else [] := by
  have hold : (as.zipIdx.filter fun p => key p.1 ∈ ((as ++ [a]).take p.2).map key) =
      as.zipIdx.filter fun p => key p.1 ∈ (as.take p.2).map key :=
    List.filter_congr fun p hp => by rw [take_concat_of_mem_zipIdx hp]
  unfold repeats
  rw [List.zipIdx_append, List.filter_append, List.map_append, hold]
  by_cases h : key a ∈ as.map key <;> simp [h]

variable {key} {as : List α}

/-- a first entry has its key for the first time -/
theorem exists_of_mem_firsts {a : α} (h : a ∈ firsts key as) :
    ∃ above below, as = above ++ a :: below ∧ key a ∉ above.map key := by
  induction as using List.reverseRecOn with
  | nil => cases h
  | append_singleton as b ih =>
    rw [firsts_concat, List.mem_append] at h
    rcases h with h | h
    · obtain ⟨above, below, rfl, hnew⟩ := ih h
      exact ⟨above, below ++ [b], by simp, hnew⟩
    · split at h
      · cases h
      · next hb =>
        rw [List.mem_singleton] at h
        subst h
        exact ⟨as, [], rfl, hb⟩

theorem firsts_subset : firsts key as ⊆ as := by
  intro a h
  obtain ⟨above, below, rfl, _⟩ := exists_of_mem_firsts h
  simp

theorem repeats_subset : repeats key as ⊆ as := by
  intro a h
  obtain ⟨⟨b, i⟩, hb, rfl⟩ := List.mem_map.mp h
  exact List.fst_mem_of_mem_zipIdx (List.mem_of_mem_filter hb)

/-- every key belongs to a first entry -/
theorem mem_map_firsts {b : β} : b ∈ (firsts key as).map key ↔ b ∈ as.map key := by
  induction as using List.reverseRecOn with
  | nil => exact Iff.rfl
  | append_singleton as a ih =>
    rw [firsts_concat, List.map_append, List.map_append, List.mem_append, List.mem_append, ih]
    by_cases h : key a ∈ as.map key
    · rw [if_pos h]
      constructor
      · rintro (hb | hb)
        · exact Or.inl hb
        · cases hb
      · rintro (hb | hb)
        · exact Or.inl hb
        · rw [List.mem_singleton.mp hb]
          exact Or.inl h
    · rw [if_neg h]

theorem nodup_map_firsts : ((firsts key as).map key).Nodup := by
  induction as using List.reverseRecOn with
  | nil => exact List.nodup_nil
  | append_singleton as a ih =>
    rw [firsts_concat]
    by_cases h : key a ∈ as.map key
    · rwa [if_pos h, List.append_nil]
    · rw [if_neg h, List.map_append]
      refine List.nodup_append.mpr ⟨ih, by simp, ?_⟩
      rintro x hx y hy rfl
      rw [List.map_singleton, List.mem_singleton] at hy
      rw [hy] at hx
      exact h (mem_map_firsts.mp hx)

/-- no entry is lost, and none is counted twice -/
theorem length_firsts_add_length_repeats (key : α → β) (as : List α) :
    (firsts key as).length + (repeats key as).length = as.length := by
  induction as using List.reverseRecOn with
  | nil => rfl
  | append_singleton as a ih =>
    rw [firsts_concat, repeats_concat, List.length_append, List.length_append, List.length_append]
    by_cases h : key a ∈ as.map key
    · rw [if_pos h, if_pos h, List.length_nil, List.length_singleton]
      omega
    · rw [if_neg h, if_neg h, List.length_nil, List.length_singleton]
      omega

/-- the keys of the first entries are the first ones among the keys -/
theorem map_firsts (key : α → β) (as : List α) :
    (firsts key as).map key = firsts id (as.map key) := by
  induction as using List.reverseRecOn with
  | nil => rfl
  | append_singleton as a ih =>
    rw [List.map_append, List.map_singleton, firsts_concat, firsts_concat, List.map_append, ih,
      List.map_id, id]
    by_cases h : key a ∈ as.map key
    · rw [if_pos h, if_pos h, List.map_nil]
    · rw [if_neg h, if_neg h, List.map_singleton]

theorem map_repeats (key : α → β) (as : List α) :
    (repeats key as).map key = repeats id (as.map key) := by
  induction as using List.reverseRecOn with
  | nil => rfl
  | append_singleton as a ih =>
    rw [List.map_append, List.map_singleton, repeats_concat, repeats_concat, List.map_append, ih,
      List.map_id, id]
    by_cases h : key a ∈ as.map key
    · rw [if_pos h, if_pos h, List.map_singleton]
    · rw [if_neg h, if_neg h, List.map_nil]

end

namespace Ddl

open Text

/-! ## kept lines -/

/-- the walk over the lines, with the names of the lines above in `seen` -/
theorem splitRepeated_below {above : List ColumnLine} {seen : List String}
    (hseen : ∀ n, n ∈ seen ↔ n ∈ above.map (·.name)) (ls : List ColumnLine) :
    firsts (·.name) (above ++ ls) = firsts (·.name) above ++ (splitRepeated seen ls).1 ∧
      (repeats (·.name) (above ++ ls)).map (·.name) =
        (repeats (·.name) above).map (·.name) ++ (splitRepeated seen ls).2 := by
  induction ls generalizing above seen with
  | nil => simp [splitRepeated]
  | cons l ls ih =>
    have hcons : above ++ l :: ls = (above ++ [l]) ++ ls := by simp
    rw [hcons]
    cases hl : seen.contains l.name with
    | true =>
      have hmem : l.name ∈ above.map (·.name) := (hseen _).mp (List.contains_iff_mem.mp hl)
      have hseen' : ∀ n, n ∈ seen ↔ n ∈ (above ++ [l]).map (·.name) := by
        intro n
        rw [hseen, List.map_append, List.mem_append, List.map_singleton, List.mem_singleton]
        constructor
        · exact Or.inl
        · rintro (h | rfl)
          · exact h
          · exact hmem
      obtain ⟨hfirsts, hrepeats⟩ := ih hseen'
      rw [hfirsts, hrepeats, firsts_concat, repeats_concat, if_pos hmem, if_pos hmem,
        splitRepeated_seen hl]
      simp
    | false =>
      have hmem : l.name ∉ above.map (·.name) := by
        rw [← hseen, ← List.contains_iff_mem, hl]
        exact Bool.false_ne_true
      have hseen' : ∀ n, n ∈ l.name :: seen ↔ n ∈ (above ++ [l]).map (·.name) := by
        intro n
        rw [List.mem_cons, hseen, List.map_append, List.mem_append, List.map_singleton,
          List.mem_singleton]
        exact or_comm
      obtain ⟨hfirsts, hrepeats⟩ := ih hseen'
      rw [hfirsts, hrepeats, firsts_concat, repeats_concat, if_neg hmem, if_neg hmem,
        splitRepeated_new hl]
      simp

/-- the lines that declare a new name are kept, and the names of the others are repeated -/
theorem splitRepeated_eq (ls : List ColumnLine) :
    splitRepeated [] ls = (firsts (·.name) ls, (repeats (·.name) ls).map (·.name)) := by
  obtain ⟨hfirsts, hrepeats⟩ := @splitRepeated_below [] [] (fun _ => Iff.rfl) ls
  exact (Prod.ext hfirsts hrepeats).symm

theorem keptLines_eq (cs : List Char) : keptLines cs = firsts (·.name) (columnLines cs) :=
  congrArg Prod.fst (splitRepeated_eq _)

theorem repeatedNames_eq (cs : List Char) :
    repeatedNames cs = (repeats (·.name) (columnLines cs)).map (·.name) :=
  congrArg Prod.snd (splitRepeated_eq _)

/-! ## tables -/

/-- the names on the lines of a text that declare columns -/
def declaredNames (cs : List Char) : List String := (columnLines cs).map (·.name)

/-- the table `t` accounts for every line of the text that declares a column -/
structure AccountsFor (rules : Rules) (cs : List Char) (t : Table) : Prop where
  /-- a column for the first declaration of every name, in order -/
  names : t.columns.map (·.name) = firsts id (declaredNames cs)
  /-- a duplicate for every later one, in order -/
  duplicates : t.duplicates = repeats id (declaredNames cs)
  length : t.columns.length + t.duplicates.length = (declaredNames cs).length
  known : ∀ n ∈ t.duplicates, n ∈ t.columns.map (·.name)
  /-- a name is a word that opens no other clause -/
  word : ∀ c ∈ t.columns, IsWordName c.name ∧
    ∀ k ∈ ColumnLine.clauseKeywords, k.toList ≠ upper c.name.toList
  /-- a column is what the rules make of the first line with its name and of the key -/
  line : ∀ c ∈ t.columns, ∃ above l below, columnLines cs = above ++ l :: below ∧
    l.name = c.name ∧ c.name ∉ above.map (·.name) ∧
    column rules l (isKeyLine (tableKey cs) l) = .ok c
  javaName : ∀ c ∈ t.columns, rules.naming.fieldName c.name = .ok c.fieldName ∧
    c.accessor = accessorName c.fieldName
  /-- a composite key has two columns -/
  composite : t.hasCompositeKey = true ↔
    ∃ c d, [c, d].Sublist t.columns ∧ c.isKey = true ∧ d.isKey = true

theorem not_mem_clauseKeywords {word : List Char} (h : ColumnLine.isClauseKeyword word = false) :
    ∀ k ∈ ColumnLine.clauseKeywords, k.toList ≠ upper word := by
  intro k hk he
  have := List.any_eq_false.mp h k hk
  simp [he] at this

theorem hasCompositeKey_iff (t : Table) : t.hasCompositeKey = true ↔
    ∃ c d, [c, d].Sublist t.columns ∧ c.isKey = true ∧ d.isKey = true := by
  have hkeys : t.hasCompositeKey = true ↔ 1 < (t.columns.filter (·.isKey)).length :=
    decide_eq_true_iff
  rw [hkeys]
  constructor
  · intro h
    obtain ⟨c, d, rest, hf⟩ : ∃ c d rest, t.columns.filter (·.isKey) = c :: d :: rest := by
      match hf : t.columns.filter (·.isKey) with
      | [] => simp [hf] at h
      | [c] => simp [hf] at h
      | c :: d :: rest => exact ⟨c, d, rest, hf⟩
    have hkey : ∀ x ∈ t.columns.filter (·.isKey), x.isKey = true := fun _ => List.of_mem_filter
    rw [hf] at hkey
    have hpair : [c, d].Sublist (c :: d :: rest) :=
      .cons_cons c (.cons_cons d (List.nil_sublist rest))
    have hsub : (c :: d :: rest).Sublist t.columns := hf ▸ List.filter_sublist
    exact ⟨c, d, hpair.trans hsub, hkey c (by simp), hkey d (by simp)⟩
  · rintro ⟨c, d, hsub, hc, hd⟩
    have hfilter := hsub.filter (·.isKey)
    rw [List.filter_cons_of_pos hc, List.filter_cons_of_pos hd, List.filter_nil] at hfilter
    exact hfilter.length_le

/-- the partner of an entry on the right -/
theorem exists_of_mem_right {α β : Type} {R : α → β → Prop} {as : List α} {bs : List β}
    (h : List.Forall₂ R as bs) {b : β} (hb : b ∈ bs) : ∃ a ∈ as, R a b := by
  induction h with
  | nil => cases hb
  | cons hr _ ih =>
    rcases List.mem_cons.mp hb with rfl | hb
    · exact ⟨_, List.mem_cons_self .., hr⟩
    · obtain ⟨a, ha, hab⟩ := ih hb
      exact ⟨a, List.mem_cons_of_mem _ ha, hab⟩

/-- **A table accounts for every line that declares a column**: none is lost, and each has the name,
type, size and key flag of the first line with its name. -/
theorem ofDdl_accountsFor {rules : Rules} {ddl : String} {t : Table}
    (h : Table.ofDdl rules ddl = .ok t) : AccountsFor rules (unquoted ddl) t := by
  obtain ⟨-, -, -, hcols, hdup⟩ := ofDdl_eq_ok.mp h
  have hnames := names_of_declares hcols
  rw [keptLines_eq] at hcols hnames
  rw [repeatedNames_eq] at hdup
  have hfirst : ∀ c ∈ t.columns, ∃ l ∈ firsts (·.name) (columnLines (unquoted ddl)),
      Declares rules l (isKeyLine (tableKey (unquoted ddl)) l) c :=
    fun c hc => exists_of_mem_right hcols hc
  refine {
    names := by rw [hnames, map_firsts, declaredNames]
    duplicates := by rw [hdup, map_repeats, declaredNames]
    length := ?_
    known := ?_
    word := ?_
    line := ?_
    javaName := ?_
    composite := hasCompositeKey_iff t }
  · rw [← hcols.length_eq, hdup, List.length_map, length_firsts_add_length_repeats, declaredNames,
      List.length_map]
  · intro n hn
    rw [hdup] at hn
    rw [hnames, mem_map_firsts]
    exact List.map_subset _ repeats_subset hn
  · intro c hc
    obtain ⟨l, hl, hdecl⟩ := hfirst c hc
    have hmem : l ∈ columnLines (unquoted ddl) := firsts_subset hl
    obtain ⟨line, -, hread⟩ := List.mem_filterMap.mp hmem
    rw [hdecl.name]
    exact ⟨isWordName_of_mem_columnLines hmem,
      not_mem_clauseKeywords (ColumnLine.isClauseKeyword_name hread)⟩
  · intro c hc
    obtain ⟨l, hl, hdecl⟩ := hfirst c hc
    obtain ⟨above, below, hlines, hnew⟩ := exists_of_mem_firsts hl
    refine ⟨above, l, below, hlines, hdecl.name.symm, ?_, column_eq_ok.mpr hdecl⟩
    rwa [hdecl.name]
  · intro c hc
    obtain ⟨l, -, hdecl⟩ := hfirst c hc
    rw [hdecl.name]
    exact ⟨hdecl.fieldName, hdecl.accessor⟩

/-- a name that is declared again, a name that begins like a clause, and a key of two columns -/
def againDeclared : String :=
  "CREATE TABLE T (\nA NUMBER(3),\nKEY_CODE CHAR(2),\nA DATE,\nPRIMARY KEY (A, KEY_CODE)\n)"

def againTable : Table where
  schema := "dbo"
  name := "T"
  typeName := "T"
  columns := [⟨"A", "a", "A", "Integer", "@Min(0) @Max(999)", true⟩,
    ⟨"KEY_CODE", "code", "Code", "String", "@Size(max = 2)", true⟩]
  duplicates := ["A"]

theorem ofDdl_accountsFor_again :
    Table.ofDdl {} againDeclared = .ok againTable ∧
      AccountsFor {} (unquoted againDeclared) againTable := by
  have h : Table.ofDdl {} againDeclared = .ok againTable := by decide +kernel
  exact ⟨h, ofDdl_accountsFor h⟩

end Ddl

end DdlToJava

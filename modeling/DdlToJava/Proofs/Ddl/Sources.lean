import DdlToJava.Proofs.Ddl.Columns

/-!
# Where the columns of a table come from

Every name in a table, as a column or as a duplicate, comes from one line that the scan has
visited: `names_perm_sources`.  Below the line that opens the body such a line is at depth one.
Above it nothing is open yet, and there a line at depth zero is taken for a column too, as if the
statement had no body.  So the columns come from the body alone exactly when no line above the body
reads like a column: `names_from_body_iff`.
-/

namespace DdlToJava.Ddl

open Text Body

/-! ## the lines behind the names -/

/-- the column that a visited line declares -/
def Body.Visit.column? (v : Visit) : Option ColumnLine := v.declaration?.bind ColumnLine.ofLine?

/-- the visited lines that declare columns -/
def sources (cs : List Char) : List (Visit × ColumnLine) :=
  (visitsOf cs).filterMap fun v => v.column?.map fun l => (v, l)

theorem columnLines_eq_sources (cs : List Char) : columnLines cs = (sources cs).map (·.2) := by
  unfold columnLines sources
  rw [lines_eq_visitsOf, List.filterMap_filterMap, List.map_filterMap]
  congr 1
  funext v
  show v.column? = (v.column?.map fun l => (v, l)).map (·.2)
  rw [Option.map_map]
  exact Option.map_id'.symm

theorem mem_sources {cs : List Char} {s : Visit × ColumnLine} :
    s ∈ sources cs ↔ s.1 ∈ visitsOf cs ∧ s.1.column? = some s.2 := by
  unfold sources
  rw [List.mem_filterMap]
  constructor
  · rintro ⟨v, hv, h⟩
    obtain ⟨l, hl, rfl⟩ := Option.map_eq_some_iff.mp h
    exact ⟨hv, hl⟩
  · rintro ⟨hv, hl⟩
    exact ⟨s.1, hv, by rw [hl]; rfl⟩

theorem depth_of_column? {v : Visit} {l : ColumnLine} (h : v.column? = some l) :
    v.depth = 1 ∨ (v.depth = 0 ∧ v.opened = false) := by
  obtain ⟨d, hd, _⟩ := Option.bind_eq_some_iff.mp h
  exact Visit.depth_of_declaration? hd

theorem names_of_declares {rules : Rules} {isKey : ColumnLine → Bool} {ls : List ColumnLine}
    {cs : List Column} (h : List.Forall₂ (fun l c => Declares rules l (isKey l) c) ls cs) :
    cs.map (·.name) = ls.map (·.name) := by
  induction h with
  | nil => rfl
  | cons hc _ ih => rw [List.map_cons, List.map_cons, ih, hc.name]

/-- the names in a table are the names on its source lines, each as often -/
theorem names_perm_sources {rules : Rules} {ddl : String} {t : Table}
    (h : Table.ofDdl rules ddl = .ok t) :
    (t.columns.map (·.name) ++ t.duplicates).Perm
      ((sources (unquoted ddl)).map fun s => s.2.name) := by
  obtain ⟨_, _, _, hcols, hdup⟩ := ofDdl_eq_ok.mp h
  have hnames : (sources (unquoted ddl)).map (fun s => s.2.name) =
      (columnLines (unquoted ddl)).map (·.name) := by
    rw [columnLines_eq_sources, List.map_map]
    rfl
  rw [names_of_declares hcols, hdup, hnames]
  exact splitRepeated_perm [] _

/-! ## the lines from a state on -/

/-- the column lines that are found from a state on -/
def found (s : Option Depth) (ls : List (List Char)) : List ColumnLine :=
  (s.elim [] fun s => visits s (ls.map trim)).filterMap Visit.column?

/-- the state in which the lines below a visited one are read; nothing if it closes the body -/
def Body.Visit.goesOn (v : Visit) : Option Depth := if v.next.closed then none else some v.next

theorem columnLines_joined {ls : List (List Char)} (h : ∀ l ∈ ls, NoBreak l) :
    columnLines (joined ls) = found (some {}) ls := by
  unfold columnLines found
  rw [lines_eq_visitsOf, List.filterMap_filterMap, visitsOf_joined h]
  rfl

theorem found_append (s : Depth) (a b : List (List Char)) :
    found (some s) (a ++ b) = found (some s) a ++ found (endState s (a.map trim)) b := by
  unfold found
  show (visits s ((a ++ b).map trim)).filterMap _ = (visits s (a.map trim)).filterMap _ ++ _
  rw [List.map_append, visits_append, List.filterMap_append]

theorem found_idle {l : List Char} (h : isIdle (trim l) = true) (s : Option Depth)
    (ls : List (List Char)) : found s (l :: ls) = found s ls := by
  cases s with
  | none => rfl
  | some s => exact congrArg (List.filterMap _) (visits_idle h _)

theorem found_cons {l : List Char} (h : isIdle (trim l) = false) (s : Depth)
    (ls : List (List Char)) :
    found (some s) (l :: ls) =
      (visit s (trim l)).column?.toList ++ found (visit s (trim l)).goesOn ls := by
  unfold found Visit.goesOn
  show (visits s (trim l :: ls.map trim)).filterMap _ = _
  cases hc : (visit s (trim l)).next.closed with
  | true =>
    rw [visits_closed h hc]
    show List.filterMap _ [visit s (trim l)] = _ ++ []
    rw [List.filterMap_cons]
    cases (visit s (trim l)).column? <;> rfl
  | false =>
    rw [visits_cons h hc, List.filterMap_cons]
    cases (visit s (trim l)).column? <;> rfl

/-! ## the body -/

/-- does the scan reach a positive depth? -/
def HasBody (cs : List Char) : Prop := ∃ v ∈ visitsOf cs, v.opens = true

instance (cs : List Char) : Decidable (HasBody cs) :=
  inferInstanceAs (Decidable (∃ v ∈ visitsOf cs, v.opens = true))

/-- **The names of a table come from lines at depth one exactly when nothing above the body reads
like a column.**  The lines above and the one that opens the body are at depth zero or less; below
them every source is at depth one. -/
theorem names_from_body_iff {rules : Rules} {ddl : String} {t : Table}
    (h : Table.ofDdl rules ddl = .ok t) (hb : HasBody (unquoted ddl)) :
    (t.columns.map (·.name) ++ t.duplicates).Perm
      ((sources (unquoted ddl)).map fun s => s.2.name) ∧
    ∃ above opening below, visitsOf (unquoted ddl) = above ++ opening :: below ∧
      opening.opens = true ∧ (∀ v ∈ above, v.opens = false) ∧
      (∀ v ∈ below, ∀ l, v.column? = some l → v.depth = 1) ∧
      ((∀ s ∈ sources (unquoted ddl), s.1.depth = 1) ↔
        (∀ v ∈ above, v.column? = none) ∧ (opening.depth ≤ 0 → opening.column? = none)) := by
  refine ⟨names_perm_sources h, ?_⟩
  obtain ⟨above, opening, below, hv, ho, _, habove, hbelow⟩ := visits_split rfl _ hb
  have hdeep : ∀ v ∈ below, ∀ l, v.column? = some l → v.depth = 1 := by
    intro v hvb l hl
    rcases depth_of_column? hl with h1 | ⟨_, h0⟩
    · exact h1
    · rw [hbelow v hvb] at h0
      cases h0
  refine ⟨above, opening, below, hv, ho, fun v hva => (habove v hva).1, hdeep, ?_⟩
  have hmem : ∀ v, v ∈ visitsOf (unquoted ddl) ↔ v ∈ above ∨ v = opening ∨ v ∈ below := by
    intro v
    show v ∈ visits {} _ ↔ _
    rw [hv, List.mem_append, List.mem_cons]
  constructor
  · intro hall
    constructor
    · intro v hva
      rw [Option.eq_none_iff_forall_ne_some]
      intro l hl
      have hd : v.depth = 1 := hall (v, l) (mem_sources.mpr ⟨(hmem v).mpr (Or.inl hva), hl⟩)
      have hop := (habove v hva).1
      rw [Visit.opens, hd] at hop
      cases hop
    · intro hd0
      rw [Option.eq_none_iff_forall_ne_some]
      intro l hl
      have hd : opening.depth = 1 :=
        hall (opening, l) (mem_sources.mpr ⟨(hmem opening).mpr (Or.inr (Or.inl rfl)), hl⟩)
      omega
  · rintro ⟨hnone, hopen⟩ s hs
    obtain ⟨hsv, hl⟩ := mem_sources.mp hs
    rcases (hmem s.1).mp hsv with hsa | hso | hsb
    · rw [hnone s.1 hsa] at hl
      cases hl
    · rcases depth_of_column? hl with h1 | ⟨h0, _⟩
      · exact h1
      · rw [hso] at h0 hl
        rw [hopen (by omega)] at hl
        cases hl
    · exact hdeep s.1 hsb s.2 hl

/-- a header that is cut after its first word -/
def cutHeader : String := "CREATE\nTABLE T (\nA NUMBER(3)\n)"

/-- the line below the cut reads like a column -/
def cutHeaderTable : Table where
  schema := "dbo"
  name := "T"
  typeName := "T"
  columns := [⟨"TABLE", "table", "Table", "String", "", false⟩,
    ⟨"A", "a", "A", "Integer", "@Min(0) @Max(999)", false⟩]

theorem names_from_body_iff_cutHeader :
    Table.ofDdl {} cutHeader = .ok cutHeaderTable ∧ HasBody (unquoted cutHeader) ∧
    (∃ s ∈ sources (unquoted cutHeader), s.1.depth = 0) ∧
    (cutHeaderTable.columns.map (·.name) ++ cutHeaderTable.duplicates).Perm
      ((sources (unquoted cutHeader)).map fun s => s.2.name) ∧
    ∃ above opening below, visitsOf (unquoted cutHeader) = above ++ opening :: below ∧
      opening.opens = true ∧ (∀ v ∈ above, v.opens = false) ∧
      (∀ v ∈ below, ∀ l, v.column? = some l → v.depth = 1) ∧
      ((∀ s ∈ sources (unquoted cutHeader), s.1.depth = 1) ↔
        (∀ v ∈ above, v.column? = none) ∧ (opening.depth ≤ 0 → opening.column? = none)) := by
  have h : Table.ofDdl {} cutHeader = .ok cutHeaderTable := by decide +kernel
  have hb : HasBody (unquoted cutHeader) := by decide +kernel
  exact ⟨h, hb, by decide +kernel, names_from_body_iff h hb⟩

end DdlToJava.Ddl

import DdlToJava.Proofs.Run.Delivery
import DdlToJava.Proofs.Run.Loading

/-!
# What is left of stored artifacts

The artifacts of a table are written one after the other, and nothing keeps two of them from going
to one file: under one name, or under two names of which one is a link to the other.  The transfer
objects come last, so they are there in any case; the entity is there exactly if its path leads to
another file.

* `Machine.Holds`              a path leads to a file with a text, and the program reads it there;
* `stored_artifacts_readBack`  what the two paths hold after a run that ends well.
-/

namespace DdlToJava

open Files Host Machine

/-! ## texts in files -/

/-- A path leads to a file with the text, byte for byte, and the program reads it there unless the
system refuses that; reading unifies the line ends. -/
def Machine.Holds (w : Machine) (p : Path) (text : String) : Prop :=
  ∃ place, w.tree.resolve w.here p = .ok place ∧
    w.tree.fileAt? place = some (Text.Utf8.encode text.toList) ∧
    execute (readText p) w = (.ok (match w.tree.refusal? .read place with
      | some cause => .error (.file cause)
      | none => .ok (Text.unifyLineEnds text.toList)), w)

section
variable {w w' : Machine} {p : Path} {text : String} {base : Path} {as : List Artifact}
  {paths : List Path} {rules : Rules} {t : Table}

theorem Machine.holds_of_contentAt? (hnul : p.hasNul = false)
    (h : w.tree.contentAt? w.here p = some (Text.Utf8.encode text.toList)) : w.Holds p text := by
  obtain ⟨place, hplace, hentry⟩ := Tree.contentAt?_eq_some.mp h
  refine ⟨place, hplace, Tree.fileAt?_eq_some.mpr hentry, ?_⟩
  rw [execute_readText hnul, Tree.read_of_resolve hplace hentry]
  cases w.tree.refusal? .read place with
  | some cause => rfl
  | none =>
    unfold textOf
    dsimp only
    rw [Text.Utf8.decode_encode]

theorem Machine.Holds.contentAt? (h : w.Holds p text) :
    w.tree.contentAt? w.here p = some (Text.Utf8.encode text.toList) := by
  obtain ⟨place, hplace, hfile, -⟩ := h
  exact Tree.contentAt?_eq_some.mpr ⟨place, hplace, Tree.fileAt?_eq_some.mp hfile⟩

/-! ## stored artifacts -/

/-- an artifact is held if none behind it goes to its place -/
theorem holds_store_append (before : List Artifact) {a : Artifact} (after : List Artifact)
    (h : execute (store base (before ++ a :: after)) w = (.ok paths, w'))
    (hne : ∀ b ∈ after,
      w'.tree.resolve w'.here (a.path base) ≠ w'.tree.resolve w'.here (b.path base)) :
    w'.Holds (a.path base) a.body := by
  obtain ⟨hhere, -, w₁, hw₁, hwrites⟩ := execute_store_eq_ok h
  have hnul := hasNul_writeAll hwrites a (List.mem_append_right _ (List.mem_cons_self ..))
  rw [hhere, ← hw₁] at hne
  have hcontent := contentAt?_writeAll_append hwrites hne
  rw [hw₁, ← hhere] at hcontent
  exact holds_of_contentAt? hnul hcontent

/-- a path that leads to the place of a held text holds it too -/
theorem Machine.Holds.congr {p' : Path} (h : w.Holds p text) (hnul : p'.hasNul = false)
    (hsame : w.tree.resolve w.here p' = w.tree.resolve w.here p) : w.Holds p' text := by
  refine holds_of_contentAt? hnul ?_
  have hcontent := h.contentAt?
  unfold Tree.contentAt? at hcontent ⊢
  rw [hsame]
  exact hcontent

/-- an entity whose path leads to the file of the transfer objects is lost -/
theorem not_holds_of_store (h : execute (store base (Artifact.ofTable rules t)) w = (.ok paths, w'))
    (hsame : w'.tree.resolve w'.here ((Artifact.entity rules t).path base) =
      w'.tree.resolve w'.here ((Artifact.dto rules t).path base)) :
    ¬ w'.Holds ((Artifact.entity rules t).path base) (Artifact.entity rules t).body := by
  have hdto := holds_store_append [Artifact.entity rules t] [] h nofun
  intro hentity
  have hcontent := hentity.contentAt?
  unfold Tree.contentAt? at hcontent
  rw [hsame] at hcontent
  have htext := textAt?_of_contentAt? hdto.contentAt?
  rw [textAt?_of_contentAt? hcontent] at htext
  exact entity_body_ne_dto_body rules t (Option.some.inj htext)

end

/-! ## the artifacts of a table -/

/-- What `paths` hold on a machine where the artifacts of a table were stored under `base`. -/
structure StoredAt (rules : Rules) (t : Table) (base : Path) (paths : List Path) (w : Machine) :
    Prop where
  /-- there is one path per artifact, in order -/
  paths : paths = [(Artifact.entity rules t).path base, (Artifact.dto rules t).path base]
  dto : w.Holds ((Artifact.dto rules t).path base) (Artifact.dto rules t).body
  /-- the entity is there exactly if it has a file of its own -/
  entity : w.Holds ((Artifact.entity rules t).path base) (Artifact.entity rules t).body ↔
    w.tree.resolve w.here ((Artifact.entity rules t).path base) ≠
      w.tree.resolve w.here ((Artifact.dto rules t).path base)
  /-- otherwise the transfer objects are there in its place -/
  overwritten : w.tree.resolve w.here ((Artifact.entity rules t).path base) =
      w.tree.resolve w.here ((Artifact.dto rules t).path base) →
    w.Holds ((Artifact.entity rules t).path base) (Artifact.dto rules t).body

/-- **Stored artifacts are read back**, except that an entity is lost if the transfer objects go to
its file. -/
theorem stored_artifacts_readBack {rules : Rules} {t : Table} {base : Path} {w w' : Machine}
    {paths : List Path}
    (h : execute (store base (Artifact.ofTable rules t)) w = (.ok paths, w')) :
    StoredAt rules t base paths w' := by
  have hdto : w'.Holds ((Artifact.dto rules t).path base) (Artifact.dto rules t).body :=
    holds_store_append [Artifact.entity rules t] [] h nofun
  have hfirst : w'.tree.resolve w'.here ((Artifact.entity rules t).path base) ≠
        w'.tree.resolve w'.here ((Artifact.dto rules t).path base) →
      w'.Holds ((Artifact.entity rules t).path base) (Artifact.entity rules t).body := by
    intro hne
    refine holds_store_append [] [Artifact.dto rules t] h fun b hb => ?_
    rw [List.mem_singleton.mp hb]
    exact hne
  have hsecond : w'.tree.resolve w'.here ((Artifact.entity rules t).path base) =
        w'.tree.resolve w'.here ((Artifact.dto rules t).path base) →
      w'.Holds ((Artifact.entity rules t).path base) (Artifact.dto rules t).body := by
    intro hsame
    obtain ⟨-, -, w₁, -, hwrites⟩ := execute_store_eq_ok h
    exact hdto.congr (hasNul_writeAll hwrites _ (List.mem_cons_self ..)) hsame
  constructor
  case paths => exact (execute_store_eq_ok h).2.1
  case dto => exact hdto
  case entity => exact ⟨fun hentity hsame => not_holds_of_store h hsame hentity, hfirst⟩
  case overwritten => exact hsecond

/-- the rules' own suffixes keep the two artifacts of a table apart -/
theorem stored_artifacts_readBack_small :
    ∃ paths w', execute (store { names := ["out"] } (Artifact.ofTable {} smallTable)) {} =
        (.ok paths, w') ∧
      w'.Holds { names := ["out", "T.java"] } (Artifact.entity {} smallTable).body ∧
      w'.Holds { names := ["out", "TDTO.java"] } (Artifact.dto {} smallTable).body := by
  have hpaths : (execute (store { names := ["out"] } (Artifact.ofTable {} smallTable)) {}).1 =
      .ok ((Artifact.ofTable {} smallTable).map (·.path { names := ["out"] })) := by
    decide +kernel
  have hstored := stored_artifacts_readBack (execute_of_result hpaths)
  have hentity : (Artifact.entity {} smallTable).path { names := ["out"] } =
      { names := ["out", "T.java"] } := by decide +kernel
  have hdto : (Artifact.dto {} smallTable).path { names := ["out"] } =
      { names := ["out", "TDTO.java"] } := by decide +kernel
  refine ⟨_, _, execute_of_result hpaths, ?_, ?_⟩
  · rw [← hentity]
    exact hstored.entity.mpr (by decide +kernel)
  · rw [← hdto]
    exact hstored.dto

/-- rules under which both artifacts of a table have the same file name -/
def oneNameRules : Rules := { output := { dtoSuffix := ".java" } }

/-- a machine on which the file of an entity is a link to that of its transfer objects -/
def linkedMachine : Machine where
  tree := { entries := [(["out"], .directory), (["out", "T.java"], .link ["out", "TDTO.java"])] }

/-- a run that stores two artifacts and ends well can lose the first: where both have one name, and
where their names are two names of one file -/
theorem stored_entity_lost :
    (∃ paths w', execute (store { names := ["out"] } (Artifact.ofTable oneNameRules smallTable))
        {} = (.ok paths, w') ∧
      (Artifact.entity oneNameRules smallTable).path { names := ["out"] } ∈ paths ∧
      ¬ w'.Holds ((Artifact.entity oneNameRules smallTable).path { names := ["out"] })
        (Artifact.entity oneNameRules smallTable).body) ∧
    ∃ paths w', execute (store { names := ["out"] } (Artifact.ofTable {} smallTable))
        linkedMachine = (.ok paths, w') ∧
      (Artifact.entity {} smallTable).path { names := ["out"] } ∈ paths ∧
      ¬ w'.Holds ((Artifact.entity {} smallTable).path { names := ["out"] })
        (Artifact.entity {} smallTable).body := by
  have hpaths : (execute (store { names := ["out"] }
      (Artifact.ofTable oneNameRules smallTable)) {}).1 =
      .ok ((Artifact.ofTable oneNameRules smallTable).map (·.path { names := ["out"] })) := by
    decide +kernel
  have hlinked : (execute (store { names := ["out"] }
      (Artifact.ofTable {} smallTable)) linkedMachine).1 =
      .ok ((Artifact.ofTable {} smallTable).map (·.path { names := ["out"] })) := by
    decide +kernel
  constructor
  · refine ⟨_, _, execute_of_result hpaths, List.mem_cons_self .., ?_⟩
    exact not_holds_of_store (execute_of_result hpaths) (by decide +kernel)
  · refine ⟨_, _, execute_of_result hlinked, List.mem_cons_self .., ?_⟩
    exact not_holds_of_store (execute_of_result hlinked) (by decide +kernel)

end DdlToJava

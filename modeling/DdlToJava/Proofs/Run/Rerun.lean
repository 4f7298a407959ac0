import DdlToJava.Proofs.Run.Ignored
import DdlToJava.Proofs.Run.Loading
import DdlToJava.Proofs.Run.Report
import DdlToJava.Proofs.Run.StoreAgain

/-!
# The same run once more

A run comes by its request through reading: the file of settings, the rules and the input.  As a run
takes no directory and no file away, looking whether there is something at a path tells no more than
reading it (`ReadsAlike.ignoresAt_isDirectory`).  So where these three read as they did, the second
run asks for the same generation; and a generation on the files that it left itself leaves them as
they are.

* `ReadsAlike s w p`      reading the path gives the same on the tree `s` as on the machine `w`;
* `ignoresAt_requestOfCommand`
                          then a run up to the generation does not care which tree it is on;
* `execute_generate_again`
                          the same generation once more;
* `run_again`             the same run once more.
-/

namespace DdlToJava

open Files Host Machine

/-! ## reading again -/

theorem textOf_eq_missing {r : Except Cause (List UInt8)} :
    textOf r = .error (.file .missing) ↔ r = .error .missing := by
  cases r with
  | error cause =>
    show Except.error (TextFault.file cause) = _ ↔ _
    simp
  | ok bytes =>
    unfold textOf
    dsimp only
    cases Text.Utf8.decode bytes <;> simp

section
variable {s : Tree} {w w₁ : Machine} {p : Path}

/-- reading the path gives the same on the other tree -/
def ReadsAlike (s : Tree) (w : Machine) (p : Path) : Prop :=
  (execute (readText p) (withTree s w)).1 = (execute (readText p) w).1

instance (s : Tree) (w : Machine) (p : Path) : Decidable (ReadsAlike s w p) :=
  inferInstanceAs (Decidable (_ = _))

theorem readsAlike_iff (hnul : p.hasNul = false) :
    ReadsAlike s w p ↔ textOf (s.read w.here p) = textOf (w.tree.read w.here p) := by
  unfold ReadsAlike
  rw [execute_readText hnul, execute_readText hnul]
  exact ⟨Except.ok.inj, congrArg _⟩

namespace ReadsAlike

/-- what a machine has said and read so far does not matter -/
theorem of_untouched (h : ReadsAlike s w p) (hw : Untouched w w₁) : ReadsAlike s w₁ p := by
  have hfirst := (onFiles_readText p).congr hw.tree hw.here
  have hsame : (withTree s w₁).tree = (withTree s w).tree := rfl
  have hsecond := (onFiles_readText p).congr hsame hw.here
  exact hsecond.1.trans (Eq.trans h hfirst.1.symm)

theorem ignoresAt_readText (h : ReadsAlike s w p) : IgnoresAt (withTree s) w (readText p) := by
  unfold IgnoresAt
  rw [← keeps_readText p w]
  exact Prod.ext h (keeps_readText p _).symm

section
variable (hgrown : w.tree.Grown s)
include hgrown

theorem ignoresAt_isDirectory (hnul : p.hasNul = false) (h : ReadsAlike s w p) :
    IgnoresAt (withTree s) w (ExceptT.lift (isDirectory p)) := by
  have htext := (readsAlike_iff hnul).mp h
  have hmissing : s.stat w.here p = .error .missing ↔ w.tree.stat w.here p = .error .missing := by
    rw [← Tree.read_eq_missing, ← Tree.read_eq_missing, ← textOf_eq_missing, htext,
      textOf_eq_missing]
  unfold IgnoresAt
  rw [execute_isDirectory, execute_isDirectory]
  exact congrArg (fun r => (Except.ok r, withTree s w)) (hgrown.isDirectory_eq hmissing)

theorem ignoresAt_pathExists (h : ReadsAlike s w p) : IgnoresAt (withTree s) w (pathExists p) := by
  unfold pathExists
  cases hnul : p.hasNul with
  | true => rfl
  | false =>
    rw [if_neg Bool.false_ne_true]
    refine (ignoresAt_isDirectory hgrown hnul h).bind fun r w₁ _ => ?_
    cases r with
    | ok b => rfl
    | error cause =>
      dsimp only
      split <;> rfl

theorem ignoresAt_loadRules (h : ReadsAlike s w p) : IgnoresAt (withTree s) w (loadRules p) := by
  have hkeeps : Keeps Eq (pathExists p) :=
    Keeps.isEffect.pathExists keeps_isDirectory p
  unfold loadRules
  refine (ignoresAt_pathExists hgrown h).bind fun there w₁ hthere => ?_
  have hsame := hkeeps w
  rw [hthere] at hsame
  obtain rfl : w = w₁ := hsame
  split
  · refine h.ignoresAt_readText.bind fun r w₁ _ => ?_
    split
    · rfl
    · exact IgnoresAt.bind rfl fun _ w₂ _ => (ignores_announce s _ w₂).bind fun _ _ _ => rfl
  · exact (ignores_announce s _ w).bind fun _ _ _ => rfl

theorem ignoresAt_loadSettings (h : ReadsAlike s w Settings.fileName) :
    IgnoresAt (withTree s) w loadSettings := by
  have hnul : Settings.fileName.hasNul = false := by decide
  unfold loadSettings
  refine IgnoresAt.bind rfl fun env w₁ henv => ?_
  cases henv
  refine (ignoresAt_isDirectory hgrown hnul h).bind fun r w₁ hr => ?_
  cases hr
  split
  · refine h.ignoresAt_readText.bind fun r w₁ _ => ?_
    split <;> rfl
  · rfl
  · split <;> rfl

end

end ReadsAlike

/-! ## requests -/

theorem ignores_requestOfInput (s : Tree) (rules : Rules) (settings : Settings) (a : Arguments)
    (ddl : String) : Ignores (withTree s) (requestOfInput rules settings a ddl) := by
  unfold requestOfInput
  refine (Ignores.isEffect (withTree s)).bind (ignores_chooseTarget s a) fun target => ?_
  cases target with
  | none => exact (Ignores.isEffect (withTree s)).bind (fun _ => rfl) fun _ _ => rfl
  | some target => exact fun _ => rfl

theorem ignoresAt_requestOfArguments {settings : Settings} {a : Arguments}
    (hgrown : w.tree.Grown s) (hconfig : ReadsAlike s w (a.config.getD settings.configFile))
    (hinput : ReadsAlike s w (a.input.getD settings.inputFile)) :
    IgnoresAt (withTree s) w (requestOfArguments settings a) := by
  unfold requestOfArguments
  refine (hconfig.ignoresAt_loadRules hgrown).bind fun rules w₁ hrules => ?_
  have huntouched := keeps_loadRules (a.config.getD settings.configFile) w
  rw [hrules] at huntouched
  refine (hinput.of_untouched huntouched).ignoresAt_readText.bind fun text w₂ _ => ?_
  split
  · exact (ignores_announce s _ w₂).bind fun _ _ _ => rfl
  · exact ignores_requestOfInput s _ _ _ _ w₂

/-- a run that reads the same asks for the same -/
theorem ignoresAt_requestOfCommand {args : List String} {settings : Settings} {a : Arguments}
    (hgrown : w.tree.Grown s) (hargs : Arguments.ofList? args = some a)
    (hload : (execute loadSettings w).1 = .ok settings)
    (hsettings : ReadsAlike s w Settings.fileName)
    (hconfig : ReadsAlike s w (a.config.getD settings.configFile))
    (hinput : ReadsAlike s w (a.input.getD settings.inputFile)) :
    IgnoresAt (withTree s) w (requestOfCommand args) := by
  unfold requestOfCommand
  refine (hsettings.ignoresAt_loadSettings hgrown).bind fun settings' w₁ hw₁ => ?_
  have hsame := keeps_loadSettings w
  rw [hw₁] at hload hsame
  cases hload
  obtain rfl : w = w₁ := hsame
  rw [hargs]
  exact ignoresAt_requestOfArguments hgrown hconfig hinput

end

/-! ## generating again -/

section
variable {w w' : Machine}

theorem tree_announceAll (ns : List Notice) (w : Machine) :
    (execute (announceAll ns) w).2.tree = w.tree := by
  rw [execute_announceAll]
  rfl

/-- a delivery to files once more -/
theorem execute_deliver_again {base : Path} {as : List Artifact}
    (h : execute (deliver base .file as) w = (.ok (), w')) :
    ∃ t, execute (deliver base .file as) (withTree w'.tree w) = (.ok (), withTree t w') ∧
      ∀ place, t.entryAt? place = w'.tree.entryAt? place := by
  unfold deliver at h ⊢
  dsimp only at h ⊢
  obtain ⟨paths, w₁, hstore, h⟩ := execute_bind_eq_ok.mp h
  have htree : w'.tree = w₁.tree := by
    have := tree_announceAll (paths.map .wrote) w₁
    rw [h] at this
    exact this
  have hframe : w₁ = withTree w'.tree w := by
    have := (onFiles_store base as).frame w
    rw [hstore] at this
    rw [htree]
    exact this
  obtain ⟨t, hagain, hsame⟩ := execute_store_again hstore
  have hwords := ignores_announceAll t (paths.map .wrote) w₁
  unfold IgnoresAt at hwords
  rw [h] at hwords
  refine ⟨t, ?_, fun place => htree ▸ hsame place⟩
  rw [← hframe, execute_bind_ok hagain]
  exact hwords

/-- a generation on the files that it left itself -/
theorem execute_generate_again {r : Request} {as : List Artifact}
    (h : execute r.generate w = (.ok as, w')) :
    ∃ t, execute r.generate (withTree w'.tree w) = (.ok as, withTree t w') ∧
      ∀ place, t.entryAt? place = w'.tree.entryAt? place := by
  by_cases htarget : r.target = .file
  · unfold Request.generate generate at h ⊢
    rw [htarget] at h ⊢
    split at h
    · cases h
    · next table htable =>
      obtain ⟨u, w₁, hnotes, h⟩ := execute_bind_eq_ok.mp h
      obtain ⟨v, w₂, hdeliver, h⟩ := execute_bind_eq_ok.mp h
      cases h
      obtain ⟨t, hagain, hsame⟩ := execute_deliver_again hdeliver
      have hwords := ignores_announceAll w'.tree (tableNotices table) w
      unfold IgnoresAt at hwords
      rw [hnotes] at hwords
      refine ⟨t, ?_, hsame⟩
      rw [execute_bind_ok hwords, execute_bind_ok hagain]
      rfl
  · -- no file is touched, so this is the first run again
    have htree : (execute r.generate w).2.tree = w.tree := (keeps_generate r.ddl htarget w).tree
    rw [h] at htree
    have hself : withTree w'.tree w = w := by
      unfold withTree
      rw [htree]
    refine ⟨w'.tree, ?_, fun _ => rfl⟩
    rw [hself]
    exact h

/-! ## running again -/

/-- **Running once more changes nothing.**  Let a run end, and let the file of settings, the rules
and the input read afterwards as they did before.  Then the same run, on the files that the first
one left, has the same exit code, says and prints the same, and leaves at every place what is
there. -/
theorem run_again {args : List String} {a : Arguments} {settings : Settings} {exit : Exit}
    (hargs : Arguments.ofList? args = some a)
    (hrun : execute (run args) w = (.ok exit, w'))
    (hload : (execute loadSettings w).1 = .ok settings)
    (hread : ∀ p ∈ [Settings.fileName, a.config.getD settings.configFile,
      a.input.getD settings.inputFile], ReadsAlike w'.tree w p) :
    ∃ t, execute (run args) (withTree w'.tree w) = (.ok exit, withTree t w') ∧
      ∀ place, t.entryAt? place = w'.tree.entryAt? place := by
  rw [List.forall_mem_cons, List.forall_mem_cons, List.forall_mem_singleton] at hread
  obtain ⟨hsettings, hconfig, hinput⟩ := hread
  have hgrown : w.tree.Grown w'.tree := by
    have := (beside_run args w).footprint.toGrown
    rw [hrun] at this
    exact this
  rw [run_eq] at hrun ⊢
  obtain ⟨asked, w₁, hasked, hserve⟩ := execute_bind_eq_ok.mp hrun
  have hagain := ignoresAt_requestOfCommand hgrown hargs hload hsettings hconfig hinput
  unfold IgnoresAt at hagain
  rw [hasked] at hagain
  rw [execute_bind_ok hagain]
  cases asked with
  | error exit' =>
    cases hserve
    exact ⟨w'.tree, rfl, fun _ => rfl⟩
  | ok r =>
    obtain ⟨as, w₂, hgenerate, hserve⟩ := execute_bind_eq_ok.mp hserve
    cases hserve
    obtain ⟨t, hgenerate', hsame⟩ := execute_generate_again hgenerate
    exact ⟨t, execute_bind_ok hgenerate', hsame⟩

end

/-- a machine that holds a statement and a file of rules -/
def storingMachine : Machine where
  tree :=
    { entries := [(["ddl.txt"], .file (Text.Utf8.encode smallDdl.toList)),
        (["entity-agent.json"], .file (Text.Utf8.encode "\x7b\x7d".toList))] }

/-- a generation of files that are reported as they are -/
theorem execute_generate_small {w : Machine} (hw : Untouched storingMachine w) :
    ∃ w', execute smallRequest.generate w = (.ok (Artifact.ofTable {} smallTable), w') ∧
      w'.tree = (execute (store { names := ["out"] } (Artifact.ofTable {} smallTable))
        storingMachine).2.tree := by
  have ht : Table.ofDdl {} smallDdl = .ok smallTable := by decide +kernel
  obtain ⟨notes, hnotes⟩ := lines_tableNotices_ok ht
  have hfiles := (onFiles_store (baseDirectory {} {} none) (Artifact.ofTable {} smallTable)).congr
    hw.tree hw.here
  have hpaths : (execute (store (baseDirectory {} {} none) (Artifact.ofTable {} smallTable))
      storingMachine).1 = .ok [{ names := ["out", "T.java"] }, { names := ["out", "TDTO.java"] }] :=
    by decide +kernel
  have hlines : Notice.lines
      ([{ names := ["out", "T.java"] }, { names := ["out", "TDTO.java"] }].map .wrote) = .ok _ :=
    lines_wrote_of_verbatim (List.forall_mem_cons.mpr ⟨.of_plain (by decide +kernel),
      List.forall_mem_cons.mpr ⟨.of_plain (by decide +kernel), by simp⟩⟩)
  have hrun := execute_file_stored {} none w ht hnotes
    (execute_of_result (hfiles.1.trans hpaths))
  rw [hlines] at hrun
  exact ⟨_, hrun, hfiles.2⟩

theorem run_again_small :
    ∃ w' t, execute (run ["--target", "file"]) storingMachine = (.ok .done, w') ∧
      execute (run ["--target", "file"]) (withTree w'.tree storingMachine) =
        (.ok .done, withTree t w') ∧
      ∀ place, t.entryAt? place = w'.tree.entryAt? place := by
  have hasked : (execute (requestOfCommand ["--target", "file"]) storingMachine).1 =
      .ok (.ok smallRequest) := by decide +kernel
  obtain ⟨w', hgenerate, htree⟩ :=
    execute_generate_small (keeps_requestOfCommand ["--target", "file"] storingMachine)
  have hrun : execute (run ["--target", "file"]) storingMachine = (.ok .done, w') := by
    rw [run_eq, execute_bind_ok (execute_of_result hasked)]
    exact execute_bind_ok hgenerate
  have hargs : Arguments.ofList? ["--target", "file"] = some { target := some .file } := by
    decide +kernel
  have hload : (execute loadSettings storingMachine).1 = .ok {} := by decide +kernel
  obtain ⟨t, hagain, hsame⟩ := run_again hargs hrun hload (by
    rw [htree]
    decide +kernel)
  exact ⟨w', t, hrun, hagain, hsame⟩

end DdlToJava

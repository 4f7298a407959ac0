import DdlToJava.Proofs.Run.Delivery
import DdlToJava.Proofs.Run.Request

/-!
# A run touches its own files only

Up to its request a run touches nothing.  The generation then changes at most the two files of its
artifacts, and none of them before the directory is there.  A write that breaks off leaves a
beginning of its text behind, and ends the run.

* `footprint_store`       what storing artifacts changes, also where it fails half-way;
* `footprint_store_of_first_error`
                          what it changes if the first artifact cannot be written;
* `runs_touch_own_files`  the frame of a generation, and so of every run;
* `tree_execute_run`      the files of a run that comes to store its artifacts.

The places of the two files are those that their paths lead to after the run: before it, they may
lead nowhere.
-/

namespace DdlToJava

open Files Host Machine

/-! ## storing -/

/-- the run ended because a write broke off -/
def Breaks {α : Type} (r : Except Failure α) : Prop := ∃ cause, r = .error (.brokenWrite cause)

/-- once all files are stored, no write can break off -/
theorem not_breaks_reported {α : Type} (as : α) (lines : Except Console.Markup.Fault String) :
    ¬ Breaks (reported as lines) := by
  rintro ⟨cause, hcause⟩
  cases lines <;> cases hcause

/-- At a place that one of the artifacts goes to, a beginning of its text, and all of it unless a
write broke off. -/
def IsArtifactFile (t : Tree) (here : Place) (base : Path) (as : List Artifact) (broken : Prop)
    (place : Place) (content : List UInt8) : Prop :=
  ∃ a ∈ as, t.resolve here (a.path base) = .ok place ∧
    content <+: Text.Utf8.encode a.body.toList ∧
    (content = Text.Utf8.encode a.body.toList ∨ broken)

section
variable {w w' : Machine} {base : Path} {as : List Artifact}

/-- one write changes one file, and does not leave a part of it in silence -/
theorem footprint_writeText {p : Path} {text : String} {r : Except Failure Unit}
    (h : execute (writeText p text) w = (r, w')) :
    Tree.Footprint (fun place content => w.tree.resolve w.here p = .ok place ∧
      content <+: Text.Utf8.encode text.toList ∧
      (r = .ok () ∧ content = Text.Utf8.encode text.toList ∨ Breaks r)) w.tree w'.tree := by
  cases hnul : p.hasNul with
  | true =>
    rw [execute_writeText_hasNul hnul] at h
    cases h
    exact .refl _
  | false =>
    rw [execute_writeText hnul] at h
    cases h
    refine (Tree.footprint_write w.tree w.here p _).mono ?_
    rintro place content ⟨hplace, hprefix, ⟨hok, hall⟩ | ⟨cause, hbroken⟩⟩
    · exact ⟨hplace, hprefix, .inl ⟨by rw [hok]; rfl, hall⟩⟩
    · exact ⟨hplace, hprefix, .inr ⟨cause, by rw [hbroken]; rfl⟩⟩

theorem here_writeText {p : Path} {text : String} {r : Except Failure Unit}
    (h : execute (writeText p text) w = (r, w')) : w'.here = w.here := by
  have hframe := (onFiles_writeText p text).frame w
  rw [h] at hframe
  exact congrArg (·.here) hframe

/-- the writes change files of the artifacts, also if one of them fails -/
theorem footprint_writeAll {r : Except Failure Unit}
    (h : execute (writeAll base as) w = (r, w')) :
    Tree.Footprint (IsArtifactFile w'.tree w.here base as (Breaks r)) w.tree w'.tree := by
  induction as generalizing w with
  | nil =>
    cases h
    exact .refl _
  | cons a as ih =>
    unfold writeAll at h
    cases hfirst : execute (writeText (a.path base) a.body) w with
    | mk first w₁ =>
      have hwrite := footprint_writeText hfirst
      cases first with
      | error e =>
        rw [execute_bind_error hfirst] at h
        cases h
        refine hwrite.mono ?_
        rintro place content ⟨hplace, hprefix, ⟨hok, -⟩ | hbroken⟩
        · cases hok
        · exact ⟨a, List.mem_cons_self .., hwrite.resolve hplace, hprefix, .inr hbroken⟩
      | ok u =>
        rw [execute_bind_ok hfirst] at h
        have hrest := ih h
        rw [here_writeText hfirst] at hrest
        refine (hwrite.mono ?_).trans (hrest.mono ?_)
        · -- where the first path led, it leads after all the writes
          rintro place content ⟨hplace, hprefix, ⟨-, hall⟩ | ⟨cause, hbroken⟩⟩
          · exact ⟨a, List.mem_cons_self .., hrest.resolve (hwrite.resolve hplace), hprefix,
              .inl hall⟩
          · cases hbroken
        · rintro place content ⟨b, hb, hfile⟩
          exact ⟨b, List.mem_cons_of_mem _ hb, hfile⟩

theorem beside_ensureDirectory (own : Place → List UInt8 → Prop) {fuel : Nat} {p : Path}
    {r : Except Failure Unit} (h : execute (ensureDirectory fuel p) w = (r, w')) :
    Beside own w w' := by
  have hkeeps : Beside own w (execute (ensureDirectory fuel p) w).2 :=
    keeps_ensureDirectory fuel p w
  rw [h] at hkeeps
  exact hkeeps

/-- what storing artifacts changes -/
theorem footprint_store {r : Except Failure (List Path)}
    (h : execute (store base as) w = (r, w')) :
    Tree.Footprint (IsArtifactFile w'.tree w.here base as (Breaks r)) w.tree w'.tree := by
  unfold store at h
  cases hdir : execute (ensureDirectory base.names.length base) w with
  | mk made w₁ =>
    cases made with
    | error e =>
      rw [execute_bind_error hdir] at h
      cases h
      exact (beside_ensureDirectory _ hdir).footprint
    | ok u =>
      rw [execute_bind_ok hdir] at h
      cases hwrites : execute (writeAll base as) w₁ with
      | mk written w₂ =>
        have hmade {own : Place → List UInt8 → Prop} : Beside own w w₁ :=
          beside_ensureDirectory own hdir
        have hfiles := footprint_writeAll hwrites
        rw [(beside_ensureDirectory Tree.NoFile hdir).here] at hfiles
        cases written with
        | error e =>
          rw [execute_bind_error hwrites] at h
          cases h
          refine hmade.footprint.trans (hfiles.mono ?_)
          rintro place content ⟨a, ha, hplace, hprefix, hall⟩
          refine ⟨a, ha, hplace, hprefix, hall.imp_right ?_⟩
          rintro ⟨cause, hbroken⟩
          cases hbroken
          exact ⟨cause, rfl⟩
        | ok v =>
          rw [execute_bind_ok hwrites] at h
          cases h
          refine hmade.footprint.trans (hfiles.mono ?_)
          rintro place content ⟨a, ha, hplace, hprefix, hall⟩
          refine ⟨a, ha, hplace, hprefix, .inl (hall.resolve_right ?_)⟩
          rintro ⟨cause, hbroken⟩
          cases hbroken

/-- the directory, and then the first artifact -/
def storeFirst (base : Path) (a : Artifact) : ExceptT Failure (StateM Machine) Unit := do
  ensureDirectory base.names.length base
  writeText (a.path base) a.body

theorem onFiles_storeFirst (base : Path) (a : Artifact) : OnFiles (storeFirst base a) :=
  OnFiles.isEffect.bind (onFiles_ensureDirectory _ base) fun _ =>
    onFiles_writeText (a.path base) a.body

/-- if the directory or the first artifact fails, that is the end, and no file is changed but one
that the first artifact breaks off in -/
theorem footprint_store_of_first_error {a : Artifact} {e : Failure}
    (h : (execute (storeFirst base a) w).1 = .error e) :
    (execute (store base (a :: as)) w).1 = .error e ∧
    Tree.Footprint (fun place content =>
      (execute (store base (a :: as)) w).2.tree.resolve w.here (a.path base) = .ok place ∧
      content <+: Text.Utf8.encode a.body.toList ∧ ∃ cause, e = .brokenWrite cause)
      w.tree (execute (store base (a :: as)) w).2.tree := by
  unfold storeFirst at h
  unfold store writeAll
  cases hdir : execute (ensureDirectory base.names.length base) w with
  | mk made w₁ =>
    have hmade {own : Place → List UInt8 → Prop} : Beside own w w₁ :=
      beside_ensureDirectory own hdir
    cases made with
    | error cause =>
      rw [execute_bind_error hdir] at h ⊢
      cases h
      exact ⟨rfl, hmade.footprint⟩
    | ok u =>
      rw [execute_bind_ok hdir] at h ⊢
      cases hfirst : execute (writeText (a.path base) a.body) w₁ with
      | mk first w₂ =>
        rw [hfirst] at h
        cases h
        have hwrite := footprint_writeText hfirst
        rw [(beside_ensureDirectory Tree.NoFile hdir).here] at hwrite
        rw [execute_bind_error (execute_bind_error hfirst)]
        refine ⟨rfl, hmade.footprint.trans (hwrite.mono ?_)⟩
        rintro place content ⟨hplace, hprefix, ⟨hok, -⟩ | ⟨cause, hbroken⟩⟩
        · cases hok
        · cases hbroken
          exact ⟨hwrite.resolve hplace, hprefix, cause, rfl⟩

end

/-! ## the frame -/

/-- What a generation may change on the way from `w` to `w'`, when it ends with `result`. -/
structure Request.OwnFiles {α : Type} (r : Request) (result : Except Failure α) (w w' : Machine) :
    Prop where
  /-- a delivery that is not to files changes none -/
  elsewhere : r.target ≠ .file → w'.tree = w.tree
  /-- nor does a statement that cannot be read -/
  unread : ∀ e, Table.ofDdl r.rules r.ddl = .error e → w'.tree = w.tree
  /-- a file that has changed is at the end of an artifact's path, and holds its text; if a write
  broke off, it may hold a beginning of it -/
  own : ∀ t, Table.ofDdl r.rules r.ddl = .ok t → ∀ place,
    w'.tree.fileAt? place ≠ w.tree.fileAt? place →
    ∃ content, w'.tree.fileAt? place = some content ∧
      IsArtifactFile w'.tree w.here r.base (Artifact.ofTable r.rules t) (Breaks result) place
        content
  /-- if the directory cannot be made or the entity cannot be written, no file has changed but one
  that the entity breaks off in -/
  failed : ∀ t, Table.ofDdl r.rules r.ddl = .ok t → ∀ e,
    (execute (storeFirst r.base (Artifact.entity r.rules t)) w).1 = .error e → ∀ place,
    w'.tree.fileAt? place ≠ w.tree.fileAt? place →
    (∃ cause, e = .brokenWrite cause) ∧
      w'.tree.resolve w.here ((Artifact.entity r.rules t).path r.base) = .ok place ∧
      ∃ content, w'.tree.fileAt? place = some content ∧
        content <+: Text.Utf8.encode (Artifact.entity r.rules t).body.toList

/-- a generation changes its own files only -/
theorem Request.ownFiles_generate (r : Request) (w : Machine) :
    r.OwnFiles (execute r.generate w).1 w (execute r.generate w).2 := by
  have helsewhere : r.target ≠ .file → (execute r.generate w).2.tree = w.tree :=
    fun h => (keeps_generate r.ddl h w).tree
  have hfile (t : Table) (ht : Table.ofDdl r.rules r.ddl = .ok t) (h : r.target = .file) :
      (execute r.generate w).2.tree =
          (execute (store r.base (Artifact.ofTable r.rules t)) w).2.tree ∧
        (Breaks (execute (store r.base (Artifact.ofTable r.rules t)) w).1 →
          Breaks (execute r.generate w).1) := by
    obtain ⟨notes, hnotes⟩ := lines_tableNotices_ok ht
    unfold Request.generate
    rw [h]
    refine ⟨tree_execute_file r.settings r.outDir w ht hnotes, ?_⟩
    rintro ⟨cause, hcause⟩
    exact ⟨cause, execute_file_error r.settings r.outDir w ht hnotes hcause⟩
  constructor
  case elsewhere => exact helsewhere
  case unread =>
    intro e he
    unfold Request.generate
    rw [execute_generate_error r.settings r.outDir r.target w he]
  case own =>
    intro t ht place hne
    by_cases htarget : r.target = .file
    · obtain ⟨htree, hbreaks⟩ := hfile t ht htarget
      rw [htree] at hne ⊢
      have hstore : execute (store r.base (Artifact.ofTable r.rules t)) w = (_, _) := rfl
      obtain ⟨content, ⟨a, ha, hplace, hprefix, hall⟩, hcontent⟩ :=
        (footprint_store hstore).fileAt? hne
      exact ⟨content, hcontent, a, ha, hplace, hprefix, hall.imp_right hbreaks⟩
    · rw [helsewhere htarget] at hne
      exact absurd rfl hne
  case failed =>
    intro t ht e he place hne
    by_cases htarget : r.target = .file
    · rw [(hfile t ht htarget).1] at hne ⊢
      obtain ⟨content, ⟨hplace, hprefix, hbroken⟩, hcontent⟩ :=
        (footprint_store_of_first_error he).2.fileAt? hne
      exact ⟨hbroken, hplace, content, hcontent, hprefix⟩
    · rw [helsewhere htarget] at hne
      exact absurd rfl hne

section
variable {α β : Type} {r : Request} {result : Except Failure α} {w w₁ w' : Machine}

/-- what was touched by none before the generation does not matter -/
theorem Request.OwnFiles.after (h : r.OwnFiles result w₁ w') (hw : Untouched w w₁) :
    r.OwnFiles result w w' := by
  constructor
  case elsewhere => exact fun htarget => (h.elsewhere htarget).trans hw.tree
  case unread => exact fun e he => (h.unread e he).trans hw.tree
  case own =>
    intro t ht place hne
    rw [← hw.here]
    rw [← hw.tree] at hne
    exact h.own t ht place hne
  case failed =>
    intro t ht e he place hne
    have hsame := (onFiles_storeFirst r.base (Artifact.entity r.rules t)).congr hw.tree hw.here
    rw [← hw.here]
    rw [← hw.tree] at hne
    exact h.failed t ht e (hsame.1.trans he) place hne

/-- nor does what a run gives that ends well -/
theorem Request.OwnFiles.map (h : r.OwnFiles result w w') (f : α → β) :
    r.OwnFiles (result.map f) w w' := by
  refine ⟨h.elsewhere, h.unread, fun t ht place hne => ?_, h.failed⟩
  obtain ⟨content, hcontent, a, ha, hplace, hprefix, hall⟩ := h.own t ht place hne
  refine ⟨content, hcontent, a, ha, hplace, hprefix, hall.imp_right ?_⟩
  rintro ⟨cause, rfl⟩
  exact ⟨cause, rfl⟩

end

/-- From `w` to `w'`, a run that comes to a request changes the files of the request only, and
another one changes nothing. -/
def TouchesOwnFiles {α : Type} (asked : Except Failure (Except Exit Request))
    (result : Except Failure α) (w w' : Machine) : Prop :=
  match asked with
  | .ok (.ok r) => r.OwnFiles result w w'
  | _ => w'.tree = w.tree

theorem execute_serve (r : Request) (w : Machine) :
    execute (serve (.ok r)) w =
      ((execute r.generate w).1.map fun _ => Exit.done, (execute r.generate w).2) := by
  show execute (r.generate >>= fun _ => pure Exit.done) w = _
  rw [execute_bind]
  obtain ⟨result, w'⟩ := execute r.generate w
  cases result <;> rfl

theorem touchesOwnFiles_run (args : List String) (w : Machine) :
    TouchesOwnFiles (execute (requestOfCommand args) w).1 (execute (run args) w).1 w
      (execute (run args) w).2 := by
  have huntouched := keeps_requestOfCommand args w
  rw [run_eq]
  cases hask : execute (requestOfCommand args) w with
  | mk asked w₁ =>
    rw [hask] at huntouched
    cases asked with
    | error e =>
      rw [execute_bind_error hask]
      exact huntouched.tree
    | ok asked =>
      rw [execute_bind_ok hask]
      cases asked with
      | error exit => exact huntouched.tree
      | ok r =>
        rw [execute_serve]
        exact ((r.ownFiles_generate w₁).after huntouched).map _

theorem touchesOwnFiles_generateFile (rules : Rules) (settings : Settings) (outDir : Option Path)
    (target : String) (input : Path) (w : Machine) :
    TouchesOwnFiles
      ((execute (requestOfFile rules settings outDir target input) w).1.map .ok)
      (execute (generateFile rules settings outDir target input) w).1 w
      (execute (generateFile rules settings outDir target input) w).2 := by
  have hsame := keeps_requestOfFile rules settings outDir target input w
  rw [generateFile_eq]
  cases hask : execute (requestOfFile rules settings outDir target input) w with
  | mk asked w₁ =>
    rw [hask] at hsame
    obtain rfl : w = w₁ := hsame
    cases asked with
    | error e =>
      rw [execute_bind_error hask]
      rfl
    | ok r =>
      rw [execute_bind_ok hask]
      exact r.ownFiles_generate w

/-- the files of a run are those that storing its artifacts leaves -/
theorem tree_execute_run {args : List String} {w : Machine} {r : Request} {t : Table}
    (hask : (execute (requestOfCommand args) w).1 = .ok (.ok r)) (htarget : r.target = .file)
    (ht : Table.ofDdl r.rules r.ddl = .ok t) :
    (execute (run args) w).2.tree =
      (execute (store r.base (Artifact.ofTable r.rules t)) w).2.tree := by
  have huntouched := keeps_requestOfCommand args w
  obtain ⟨notes, hnotes⟩ := lines_tableNotices_ok ht
  have hsame := (onFiles_store r.base (Artifact.ofTable r.rules t)).congr huntouched.tree
    huntouched.here
  rw [run_eq, execute_bind_ok (execute_of_result hask), execute_serve, ← hsame.2]
  unfold Request.generate
  rw [htarget]
  exact tree_execute_file r.settings r.outDir _ ht hnotes

/-- where the directory is given, those of the settings and of the rules do not matter -/
theorem Request.generate_redirect {r : Request} {p : Path} (h : r.outDir = some p)
    (outputDir : Option Path) (directory : Path) :
    ((r.redirect outputDir directory).generate : ExceptT Failure (StateM Machine) _) =
      r.generate := by
  obtain ⟨rules, settings, outDir, target, ddl⟩ := r
  cases h
  rfl

/-- **A run touches its own files only**: a generation by itself, from a file or from a command
line, which also says where its directory comes from; a directory that is given counts alone. -/
theorem runs_touch_own_files :
    (∀ (r : Request) (w : Machine),
      r.OwnFiles (execute r.generate w).1 w (execute r.generate w).2) ∧
    (∀ (rules : Rules) (settings : Settings) (outDir : Option Path) (target : String)
      (input : Path) (w : Machine), TouchesOwnFiles
        ((execute (requestOfFile rules settings outDir target input) w).1.map .ok)
        (execute (generateFile rules settings outDir target input) w).1 w
        (execute (generateFile rules settings outDir target input) w).2) ∧
    (∀ (args : List String) (w : Machine),
      TouchesOwnFiles (execute (requestOfCommand args) w).1 (execute (run args) w).1 w
        (execute (run args) w).2) ∧
    (∀ (args : List String) (w w' : Machine) (r : Request),
      execute (requestOfCommand args) w = (.ok (.ok r), w') → r.IsAskedBy args w) ∧
    ∀ (r : Request) (p directory : Path) (outputDir : Option Path) (w : Machine),
      r.outDir = some p →
      execute (r.redirect outputDir directory).generate w = execute r.generate w := by
  refine ⟨Request.ownFiles_generate, touchesOwnFiles_generateFile, touchesOwnFiles_run,
    fun args w w' r => isAskedBy_of_requestOfCommand, fun r p directory outputDir w h => ?_⟩
  rw [Request.generate_redirect h]

/-- a request for the files of a table with one column -/
def smallRequest : Request := ⟨{}, {}, none, .file, smallDdl⟩

/-- a machine that holds the statement, and a file where the directory has to be made -/
def blockedMachine : Machine where
  tree := { entries := [(["ddl.txt"], .file (Text.Utf8.encode smallDdl.toList)),
    (["entity-agent.json"], .file (Text.Utf8.encode "\x7b\x7d".toList)), (["out"], .file [])] }

theorem runs_touch_own_files_small :
    (∃ a ∈ Artifact.ofTable {} smallTable,
      (execute smallRequest.generate {}).2.tree.fileAt? ["out", "T.java"] =
        some (Text.Utf8.encode a.body.toList)) ∧
    (∀ place, (execute (run ["--target", "file"]) blockedMachine).2.tree.fileAt? place =
      blockedMachine.tree.fileAt? place) ∧
    smallRequest.IsAskedBy ["--target", "file"] blockedMachine ∧
    execute ({ smallRequest with outDir := some {} }.redirect none {}).generate {} =
      execute { smallRequest with outDir := some {} }.generate {} := by
  obtain ⟨hgenerate, -, hrun, hask, hredirect⟩ := runs_touch_own_files
  have htable : Table.ofDdl {} smallDdl = .ok smallTable := by decide +kernel
  have hrequest : (execute (requestOfCommand ["--target", "file"]) blockedMachine).1 =
      .ok (.ok smallRequest) := by decide +kernel
  refine ⟨?_, ?_, hask _ _ _ _ (execute_of_result hrequest), hredirect _ _ _ _ _ rfl⟩
  · obtain ⟨notes, hnotes⟩ := lines_tableNotices_ok htable
    have hpaths : (execute (store (baseDirectory {} {} none)
        (Artifact.ofTable {} smallTable)) {}).1 =
        .ok ((Artifact.ofTable {} smallTable).map (·.path (baseDirectory {} {} none))) := by
      decide +kernel
    have hfile := execute_file_stored {} none {} htable hnotes (execute_of_result hpaths)
    change execute smallRequest.generate {} = _ at hfile
    have hchanged : (execute smallRequest.generate {}).2.tree.fileAt? ["out", "T.java"] ≠
        ({} : Tree).fileAt? ["out", "T.java"] := by
      have htree := congrArg (fun r => r.2.tree) hfile
      dsimp only at htree
      rw [htree]
      decide +kernel
    obtain ⟨content, hcontent, a, ha, -, -, hall | hbroken⟩ :=
      (hgenerate smallRequest {}).own smallTable htable _ hchanged
    · exact ⟨a, ha, hall ▸ hcontent⟩
    · rw [hfile] at hbroken
      exact absurd hbroken (not_breaks_reported _ _)
  · intro place
    have hown := hrun ["--target", "file"] blockedMachine
    rw [hrequest] at hown
    have hown : smallRequest.OwnFiles _ _ _ := hown
    have hfails : (execute (storeFirst { names := ["out"] } (Artifact.entity {} smallTable))
        blockedMachine).1 = .error (.file .exists { names := ["out"] }) := by decide +kernel
    by_contra hne
    obtain ⟨⟨cause, hcause⟩, -⟩ := hown.failed smallTable htable _ hfails place hne
    cases hcause

/-- a machine that takes three bytes of the entity -/
def fullMachine : Machine where
  tree := { limits := [(["out", "T.java"], 3, .other 28 "No space left on device")] }

/-- a machine with a statement and a file of rules, which gives its directory so -/
def ruledMachine (directory : String) : Machine where
  tree := { entries := [(["ddl.txt"], .file (Text.Utf8.encode smallDdl.toList)),
    (["entity-agent.json"], .file (Text.Utf8.encode ("\x7b\"output\": \x7b\"directory\": " ++
      directory ++ ", \"entitySuffix\": \"E.java\"\x7d\x7d").toList))] }

/-- the rules in its file, if the directory is a path -/
def ruledRules : Rules :=
  { output := { directory := { names := ["x"] }, entitySuffix := "E.java" } }

/-- the files of a run that is given the directory `o`, on a machine whose rules are these -/
theorem tree_execute_ruledMachine {directory : String} {rules : Rules}
    (hsettings : (execute loadSettings (ruledMachine directory)).1 = .ok {})
    (hrules : (execute (loadRules ({} : Settings).configFile) (ruledMachine directory)).1 =
      .ok rules)
    (hinput : (execute (readText ({} : Settings).inputFile) (ruledMachine directory)).1 =
      .ok (.ok smallDdl.toList))
    (ht : Table.ofDdl rules smallDdl = .ok smallTable) :
    (execute (run ["--target", "file", "--out-dir", "o"]) (ruledMachine directory)).2.tree =
      (execute (store { names := ["o"] } (Artifact.ofTable rules smallTable))
        (ruledMachine directory)).2.tree := by
  have hargs : Arguments.ofList? ["--target", "file", "--out-dir", "o"] =
      some { target := some .file, outDir := some { names := ["o"] } } := by decide +kernel
  have hask := requestOfCommand_eq_ok hargs rfl hsettings hrules hinput
  have hbase : Request.base ⟨rules, {}, some { names := ["o"] }, .file, smallDdl⟩ =
      { names := ["o"] } := rfl
  rw [String.ofList_toList] at hask
  have htree := tree_execute_run hask rfl ht
  rw [hbase] at htree
  exact htree

/-- the text of an artifact is longer than three characters -/
theorem getElem?_body {rules : Rules} {t : Table} : ∀ a ∈ Artifact.ofTable rules t,
    a.body.toList[3]? = some ' ' := by
  have hentity : (Artifact.entity rules t).body.toList[3]? = some ' ' := by
    change (Text.ofLines ("/** JAVA ENTITY **/" :: _)).toList[3]? = _
    rw [Text.toList_ofLines_cons]
    rfl
  have hdto : (Artifact.dto rules t).body.toList[3]? = some ' ' := by
    change (Text.ofLines ("/** JAVA DTO **/" :: _)).toList[3]? = _
    rw [Text.toList_ofLines_cons]
    rfl
  exact List.forall_mem_cons.mpr ⟨hentity, List.forall_mem_singleton.mpr hdto⟩

/-- a write that breaks off leaves a part of a text; and a directory that is no path costs the other
rules of its file their effect, also where another directory is given -/
theorem own_files_incomplete :
    ((execute smallRequest.generate fullMachine).2.tree.fileAt? ["out", "T.java"] =
        some [47, 42, 42] ∧
      ∀ a ∈ Artifact.ofTable {} smallTable, Text.Utf8.encode a.body.toList ≠ [47, 42, 42]) ∧
    (execute (run ["--target", "file", "--out-dir", "o"]) (ruledMachine "\"x\"")).2.tree.fileAt?
      ["o", "T.java"] = none ∧
    (execute (run ["--target", "file", "--out-dir", "o"]) (ruledMachine "7")).2.tree.fileAt?
      ["o", "T.java"] ≠ none := by
  have hruled : Table.ofDdl ruledRules smallDdl = .ok smallTable := by decide +kernel
  have htable : Table.ofDdl {} smallDdl = .ok smallTable := by decide +kernel
  refine ⟨⟨?_, fun a ha heq => ?_⟩, ?_, ?_⟩
  · obtain ⟨notes, hnotes⟩ := lines_tableNotices_ok htable
    have htree : (execute smallRequest.generate fullMachine).2.tree = _ :=
      tree_execute_file {} none fullMachine htable hnotes
    rw [htree]
    decide +kernel
  · have hshort : Text.Utf8.encode a.body.toList = Text.Utf8.encode "/**".toList :=
      heq.trans (by decide +kernel)
    have hdecoded := congrArg Text.Utf8.decode hshort
    rw [Text.Utf8.decode_encode, Text.Utf8.decode_encode] at hdecoded
    have hfourth := getElem?_body a ha
    rw [Except.ok.inj hdecoded] at hfourth
    cases hfourth
  · have hholds : (ruledMachine "\"x\"").HoldsRules ({} : Settings).configFile ruledRules :=
      (rulesIn_eq_ok _ _ _).mp (by decide +kernel)
    have hload := execute_loadRules_good (by decide +kernel) hholds
    rw [tree_execute_ruledMachine (by decide +kernel) (congrArg Prod.fst hload) (by decide +kernel)
      hruled]
    decide +kernel
  · have hnone : ∀ rules, ¬ (ruledMachine "7").HoldsRules ({} : Settings).configFile rules := by
      intro rules hrules
      have hbad : ((ruledMachine "7").rulesIn ({} : Settings).configFile).isOk = false := by
        decide +kernel
      rw [(rulesIn_eq_ok _ _ _).mpr hrules] at hbad
      cases hbad
    obtain ⟨_, _, -, -, hload⟩ := execute_loadRules_bad (by decide +kernel) hnone
    rw [tree_execute_ruledMachine (by decide +kernel) (congrArg Prod.fst hload) (by decide +kernel)
      htable]
    decide +kernel

end DdlToJava

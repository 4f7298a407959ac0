import DdlToJava.Proofs.Console.Sequence
import DdlToJava.Proofs.Run.Store
import DdlToJava.Proofs.Text.Rows

/-!
# Deliveries agree

A generation delivers the same artifacts to every target, and says the same of the table before.
What goes to the standard output is the text that goes to a clipboard; only the control sequences
for a terminal are left out.  A clipboard that fails leaves what the standard output would.

* `execute_generate_ok`    a generation is what it says of the table, and then the delivery;
* `execute_stdout`, `execute_clipboard`, `execute_clipboard_fault`, `execute_file`
                           the four deliveries;
* `deliveries_agree`       the four beside each other, from one machine.
-/

namespace DdlToJava

open Files Host Machine Console

/-- a text as it shows on the standard output, with its line end -/
def shown (text : String) : String := String.ofList (withoutSequences text.toList) ++ "\n"

theorem shown_eq_iff (text : String) :
    shown text = text ++ "\n" ↔ ¬ HoldsSequence text.toList := by
  rw [← withoutSequences_eq_self_iff]
  unfold shown
  constructor
  · intro h
    have hlists := congrArg String.toList h
    rw [String.toList_append, String.toList_append, String.toList_ofList] at hlists
    exact List.append_cancel_right hlists
  · intro h
    rw [h, String.ofList_toList]

section
variable {w : Machine}

/-! ## one delivery -/

theorem execute_printLine (text : String) (w : Machine) :
    execute (printLine text) w = (.ok (), { w with printed := w.printed ++ shown text }) := by
  have hshown : String.ofList (withoutSequences (text.toList ++ ['\n'])) = shown text := by
    rw [withoutSequences_append_newline, String.ofList_append]
    rfl
  unfold printLine
  rw [hshown]
  rfl

theorem execute_deliver_clipboard (base : Path) (as : List Artifact) {line : String}
    (hw : w.clipboardFault = none) (hline : Notice.copied.line = .ok line) :
    execute (deliver base .clipboard as) w =
      (.ok (), { w.saying line with copied := w.copied ++ [Artifact.combined as] }) := by
  unfold deliver
  rw [execute_bind_ok (execute_copy_ok hw _)]
  exact execute_announce_ok hline _

theorem execute_deliver_clipboard_fault (base : Path) (as : List Artifact) {reason line : String}
    (hw : w.clipboardFault = some reason)
    (hline : (Notice.clipboardUnavailable reason).line = .ok line) :
    execute (deliver base .clipboard as) w =
      (.ok (), { w.saying line with printed := w.printed ++ shown (Artifact.combined as) }) := by
  unfold deliver
  rw [execute_bind_ok (execute_copy_error hw _)]
  show execute (announce (.clipboardUnavailable reason) >>= fun _ => printLine _) w = _
  rw [execute_bind_ok (execute_announce_ok hline w)]
  exact execute_printLine _ _

/-- a delivery to files stores them, and then only tells of them -/
theorem execute_deliver_file (base : Path) (as : List Artifact) (w : Machine) :
    ∃ r, ∃ paths : List Path, execute (deliver base .file as) w =
      (r, { w.saying (Notice.spoken (paths.map .wrote)) with
        tree := (execute (store base as) w).2.tree }) := by
  have hframe := (onFiles_store base as).frame w
  unfold deliver
  cases hstore : execute (store base as) w with
  | mk r w' =>
    rw [hstore] at hframe
    cases r with
    | error e =>
      refine ⟨.error e, [], ?_⟩
      rw [execute_bind_error hstore]
      show (_, w') = (_, { w.saying "" with tree := w'.tree })
      rw [saying_empty]
      exact congrArg (Prod.mk _) hframe
    | ok paths =>
      refine ⟨(execute (announceAll (paths.map .wrote)) w').1, paths, ?_⟩
      have hframe : w' = { w with tree := w'.tree } := hframe
      have hsaying : w'.saying (Notice.spoken (paths.map .wrote)) =
          { w.saying (Notice.spoken (paths.map .wrote)) with tree := w'.tree } := by
        rw [hframe]
        rfl
      rw [execute_bind_ok hstore]
      exact Prod.ext rfl ((execute_announceAll (paths.map .wrote) w').trans hsaying)

end

/-! ## one generation -/

section
variable {rules : Rules} {ddl notes : String} {t : Table} (settings : Settings)
  (outDir : Option Path) (target : Target) (w : Machine)

theorem execute_generate_error {e : DdlError} (h : Table.ofDdl rules ddl = .error e) :
    execute (generate rules settings outDir target ddl) w = (.error (.ddl e), w) := by
  unfold generate
  rw [h]
  rfl

/-- what a generation says of the table comes first, whatever the target -/
theorem execute_generate_ok (h : Table.ofDdl rules ddl = .ok t)
    (hnotes : Notice.lines (tableNotices t) = .ok notes) :
    execute (generate rules settings outDir target ddl) w =
      execute (do
        deliver (baseDirectory rules settings outDir) target (Artifact.ofTable rules t)
        pure (Artifact.ofTable rules t)) (w.saying notes) := by
  unfold generate
  rw [h]
  exact execute_bind_ok (execute_announceAll_ok hnotes w)

theorem execute_stdout (h : Table.ofDdl rules ddl = .ok t)
    (hnotes : Notice.lines (tableNotices t) = .ok notes) :
    execute (generate rules settings outDir .stdout ddl) w =
      (.ok (Artifact.ofTable rules t), { w.saying notes with
        printed := w.printed ++ shown (Artifact.combined (Artifact.ofTable rules t)) }) := by
  rw [execute_generate_ok settings outDir _ w h hnotes]
  exact execute_bind_ok (execute_printLine _ _)

theorem execute_clipboard (h : Table.ofDdl rules ddl = .ok t)
    (hnotes : Notice.lines (tableNotices t) = .ok notes) (hw : w.clipboardFault = none)
    {line : String} (hline : Notice.copied.line = .ok line) :
    execute (generate rules settings outDir .clipboard ddl) w =
      (.ok (Artifact.ofTable rules t), { (w.saying notes).saying line with
        copied := w.copied ++ [Artifact.combined (Artifact.ofTable rules t)] }) := by
  rw [execute_generate_ok settings outDir _ w h hnotes]
  have hdeliver := execute_deliver_clipboard (baseDirectory rules settings outDir)
    (Artifact.ofTable rules t) (w := w.saying notes) hw hline
  exact execute_bind_ok hdeliver

theorem execute_clipboard_fault (h : Table.ofDdl rules ddl = .ok t)
    (hnotes : Notice.lines (tableNotices t) = .ok notes) {reason line : String}
    (hw : w.clipboardFault = some reason)
    (hline : (Notice.clipboardUnavailable reason).line = .ok line) :
    execute (generate rules settings outDir .clipboard ddl) w =
      (.ok (Artifact.ofTable rules t), { (w.saying notes).saying line with
        printed := w.printed ++ shown (Artifact.combined (Artifact.ofTable rules t)) }) := by
  rw [execute_generate_ok settings outDir _ w h hnotes]
  have hdeliver := execute_deliver_clipboard_fault (baseDirectory rules settings outDir)
    (Artifact.ofTable rules t) (w := w.saying notes) hw hline
  exact execute_bind_ok hdeliver

/-- a generation of files leaves the tree that storing the artifacts leaves -/
theorem execute_file (h : Table.ofDdl rules ddl = .ok t)
    (hnotes : Notice.lines (tableNotices t) = .ok notes) :
    ∃ r, ∃ paths : List Path, execute (generate rules settings outDir .file ddl) w =
      (r, { (w.saying notes).saying (Notice.spoken (paths.map .wrote)) with
        tree := (execute (store (baseDirectory rules settings outDir)
          (Artifact.ofTable rules t)) w).2.tree }) ∧
      ∀ as, r = .ok as → as = Artifact.ofTable rules t := by
  rw [execute_generate_ok settings outDir _ w h hnotes]
  obtain ⟨r, paths, hdeliver⟩ := execute_deliver_file (baseDirectory rules settings outDir)
    (Artifact.ofTable rules t) (w.saying notes)
  have hstore := (onFiles_store (baseDirectory rules settings outDir)
    (Artifact.ofTable rules t)).saying notes w
  rw [hstore] at hdeliver
  cases r with
  | error e =>
    refine ⟨.error e, paths, execute_bind_error hdeliver, ?_⟩
    intro as has
    cases has
  | ok u =>
    refine ⟨.ok (Artifact.ofTable rules t), paths, execute_bind_ok hdeliver, ?_⟩
    intro as has
    cases has
    rfl

theorem tree_execute_file (h : Table.ofDdl rules ddl = .ok t)
    (hnotes : Notice.lines (tableNotices t) = .ok notes) :
    (execute (generate rules settings outDir .file ddl) w).2.tree =
      (execute (store (baseDirectory rules settings outDir)
        (Artifact.ofTable rules t)) w).2.tree := by
  obtain ⟨_, _, hfile, -⟩ := execute_file settings outDir w h hnotes
  rw [hfile]

/-- how a run ends that has all files and only its report before it -/
def reported {α : Type} (as : α) (lines : Except Markup.Fault String) : Except Failure α :=
  match lines with
  | .ok _ => .ok as
  | .error fault => .error (.markup fault)

/-- a generation of files that are all written -/
theorem execute_file_stored (ht : Table.ofDdl rules ddl = .ok t)
    (hnotes : Notice.lines (tableNotices t) = .ok notes) {paths : List Path} {w' : Machine}
    (hstore : execute (store (baseDirectory rules settings outDir) (Artifact.ofTable rules t)) w =
      (.ok paths, w')) :
    execute (generate rules settings outDir .file ddl) w =
      (reported (Artifact.ofTable rules t) (Notice.lines (paths.map .wrote)),
        { (w.saying notes).saying (Notice.spoken (paths.map .wrote)) with tree := w'.tree }) := by
  have hstored := (onFiles_store (baseDirectory rules settings outDir)
    (Artifact.ofTable rules t)).saying notes w
  rw [hstore] at hstored
  rw [execute_generate_ok settings outDir .file w ht hnotes]
  unfold deliver reported
  dsimp only
  rw [bind_assoc, execute_bind_ok hstored]
  cases hlines : Notice.lines (paths.map .wrote) with
  | ok text =>
    rw [execute_bind_ok (execute_announceAll_ok hlines _), spoken_of_lines hlines]
    rfl
  | error fault =>
    have hrun : execute (announceAll (paths.map .wrote)) { w.saying notes with tree := w'.tree } =
        (.error (.markup fault), { (w.saying notes).saying (Notice.spoken (paths.map .wrote)) with
          tree := w'.tree }) :=
      Prod.ext (execute_announceAll_error hlines _) (execute_announceAll _ _)
    rw [execute_bind_error hrun]

/-- a generation of files that cannot be stored ends as storing them does -/
theorem execute_file_error (h : Table.ofDdl rules ddl = .ok t)
    (hnotes : Notice.lines (tableNotices t) = .ok notes) {e : Failure}
    (hstore : (execute (store (baseDirectory rules settings outDir)
      (Artifact.ofTable rules t)) w).1 = .error e) :
    (execute (generate rules settings outDir .file ddl) w).1 = .error e := by
  have hstored := (onFiles_store (baseDirectory rules settings outDir)
    (Artifact.ofTable rules t)).saying notes w
  rw [hstore] at hstored
  rw [execute_generate_ok settings outDir _ w h hnotes]
  unfold deliver
  dsimp only
  rw [bind_assoc, execute_bind_error hstored]

end

/-! ## side by side -/

/-- the run of a generation on a machine -/
def generated (rules : Rules) (settings : Settings) (outDir : Option Path) (ddl : String)
    (w : Machine) (target : Target) : Except Failure (List Artifact) × Machine :=
  execute (generate rules settings outDir target ddl) w

/-- Runs that start on the machine `w`, one for each target, deliver the artifacts `as` alike and
say `notes` first. -/
structure Agree (run : Target → Except Failure (List Artifact) × Machine) (base : Path)
    (as : List Artifact) (notes : String) (w : Machine) : Prop where
  /-- the combined text without its control sequences is printed, with a line end -/
  stdout : run .stdout = (.ok as, { w.saying notes with
    printed := w.printed ++ shown (Artifact.combined as) })
  /-- this is the combined text itself exactly if no control sequence is in it -/
  verbatim : shown (Artifact.combined as) = Artifact.combined as ++ "\n" ↔
    ¬ HoldsSequence (Artifact.combined as).toList
  /-- a clipboard that works gets the combined text, and nothing is printed -/
  clipboard : w.clipboardFault = none →
    ∃ line, Notice.copied.line = .ok line ∧
      run .clipboard = (.ok as, { (w.saying notes).saying line with
        copied := w.copied ++ [Artifact.combined as] })
  /-- a clipboard that fails gets nothing, and what goes to the standard output is printed -/
  fallback : ∀ reason, w.clipboardFault = some reason →
    ∃ line, (Notice.clipboardUnavailable reason).line = .ok line ∧
      run .clipboard = (.ok as, { (w.saying notes).saying line with
        printed := w.printed ++ shown (Artifact.combined as) })
  /-- beside the files nothing is printed or copied, and only the files are told of -/
  file : ∃ paths : List Path, (run .file).2 =
    { (w.saying notes).saying (Notice.spoken (paths.map .wrote)) with
      tree := (run .file).2.tree }
  fileReturns : ∀ r, (run .file).1 = .ok r → r = as
  /-- once all files are written, and to different places, their texts are the combined text -/
  fileTexts : ∀ paths, (execute (store base as) w).1 = .ok paths →
    (as.Pairwise fun a b => (run .file).2.tree.resolve w.here (a.path base) ≠
      (run .file).2.tree.resolve w.here (b.path base)) →
    ∃ texts, (as.mapM fun a => (run .file).2.tree.textAt? w.here (a.path base)) = some texts ∧
      String.intercalate Artifact.separator texts = Artifact.combined as

theorem mapM_eq_some {α β : Type} {f : α → Option β} {g : α → β} {as : List α}
    (h : ∀ a ∈ as, f a = some (g a)) : as.mapM f = some (as.map g) := by
  induction as with
  | nil => rfl
  | cons a as ih =>
    rw [List.mapM_cons, h a (List.mem_cons_self ..), ih fun b hb => h b (List.mem_cons_of_mem _ hb)]
    rfl

/-- **The deliveries agree**, from every machine and for every statement; a statement that cannot
be read fails alike for every target, and nothing happens. -/
theorem deliveries_agree (rules : Rules) (settings : Settings) (outDir : Option Path)
    (ddl : String) (w : Machine) :
    (∀ e, Table.ofDdl rules ddl = .error e → ∀ target,
      generated rules settings outDir ddl w target = (.error (.ddl e), w)) ∧
    ∀ t, Table.ofDdl rules ddl = .ok t →
      ∃ notes, Notice.lines (tableNotices t) = .ok notes ∧
        Agree (generated rules settings outDir ddl w) (baseDirectory rules settings outDir)
          (Artifact.ofTable rules t) notes w := by
  refine ⟨fun e he target => execute_generate_error settings outDir target w he, fun t ht => ?_⟩
  obtain ⟨notes, hnotes⟩ := lines_tableNotices_ok ht
  obtain ⟨r, told, hfile, hreturns⟩ := execute_file settings outDir w ht hnotes
  refine ⟨notes, hnotes, ?_⟩
  constructor
  case stdout => exact execute_stdout settings outDir w ht hnotes
  case verbatim => exact shown_eq_iff _
  case clipboard =>
    intro hw
    obtain ⟨line, hline⟩ := line_copied_ok
    exact ⟨line, hline, execute_clipboard settings outDir w ht hnotes hw hline⟩
  case fallback =>
    intro reason hw
    obtain ⟨line, hline⟩ := line_clipboardUnavailable_ok reason
    exact ⟨line, hline, execute_clipboard_fault settings outDir w ht hnotes hw hline⟩
  case file =>
    refine ⟨told, ?_⟩
    unfold generated
    rw [hfile]
  case fileReturns =>
    unfold generated
    rw [hfile]
    exact hreturns
  case fileTexts =>
    unfold generated
    rw [hfile]
    dsimp only
    intro paths hpaths hne
    have htexts := textAt?_store (execute_of_result hpaths) hne
    refine ⟨(Artifact.ofTable rules t).map (·.body), mapM_eq_some htexts, ?_⟩
    unfold Artifact.combined
    rfl

/-- a machine whose clipboard fails -/
def brokenMachine : Machine := { clipboardFault := some "none" }

/-- a statement with one column -/
def smallDdl : String := "CREATE TABLE T (\nA CHAR(3)\n)"

/-- its table; the rules of the output do not matter for it -/
def smallTable : Table where
  schema := "dbo"
  name := "T"
  typeName := "T"
  columns := [⟨"A", "a", "A", "String", "@Size(max = 3)", false⟩]

theorem deliveries_agree_small :
    Table.ofDdl {} smallDdl = .ok smallTable ∧
    (generated {} {} none smallDdl {} .clipboard).2.copied =
      [Artifact.combined (Artifact.ofTable {} smallTable)] ∧
    (generated {} {} none smallDdl brokenMachine .clipboard).2.printed =
      (generated {} {} none smallDdl brokenMachine .stdout).2.printed ∧
    ∃ texts, ((Artifact.ofTable {} smallTable).mapM fun a =>
        (generated {} {} none smallDdl {} .file).2.tree.textAt? []
          (a.path (baseDirectory {} {} none))) = some texts ∧
      String.intercalate Artifact.separator texts =
        Artifact.combined (Artifact.ofTable {} smallTable) := by
  have h : Table.ofDdl {} smallDdl = .ok smallTable := by decide +kernel
  obtain ⟨notes, hnotes, hworks⟩ := (deliveries_agree {} {} none smallDdl {}).2 smallTable h
  obtain ⟨_, _, hfails⟩ :=
    (deliveries_agree {} {} none smallDdl brokenMachine).2 smallTable h
  refine ⟨h, ?_, ?_, ?_⟩
  · obtain ⟨_, _, hclipboard⟩ := hworks.clipboard rfl
    rw [hclipboard]
    rfl
  · obtain ⟨_, _, hfallback⟩ := hfails.fallback "none" rfl
    rw [hfallback, hfails.stdout]
  · have hpaths : (execute (store (baseDirectory {} {} none)
        (Artifact.ofTable {} smallTable)) {}).1 =
        .ok ((Artifact.ofTable {} smallTable).map (·.path (baseDirectory {} {} none))) := by
      decide +kernel
    refine hworks.fileTexts _ hpaths ?_
    unfold generated
    rw [tree_execute_file {} none {} h hnotes]
    decide +kernel

/-! ## where the bare texts and names differ -/

/-- rules with a control sequence in the indent, and a suffix that ends in a slash -/
def strangeRules : Rules := { output := { indent := "\x1b[1m", dtoSuffix := ".java/" } }

theorem holdsSequence_entity (t : Table) :
    HoldsSequence (Artifact.entity strangeRules t).body.toList := by
  have hindent : HoldsSequence ("\x1b[1m" ++ "@Serial").toList :=
    ⟨_, List.suffix_rfl, by decide⟩
  refine holdsSequence_ofLines ?_ hindent
  unfold Entity.lines Entity.head
  simp [strangeRules]

/-- an entity is no transfer object -/
theorem entity_body_ne_dto_body (rules : Rules) (t : Table) :
    (Artifact.entity rules t).body ≠ (Artifact.dto rules t).body := by
  intro h
  have hlists := congrArg String.toList h
  change (Text.ofLines ("/** JAVA ENTITY **/" :: _)).toList =
    (Text.ofLines ("/** JAVA DTO **/" :: _)).toList at hlists
  rw [Text.toList_ofLines_cons, Text.toList_ofLines_cons] at hlists
  have hchar := congrArg (fun cs => cs[9]?) hlists
  change some 'E' = some 'D' at hchar
  cases hchar

theorem holdsSequence_combined (t : Table) :
    HoldsSequence (Artifact.combined (Artifact.ofTable strangeRules t)).toList := by
  rw [Artifact.combined_ofTable, String.toList_append, String.toList_append]
  exact ((holdsSequence_entity t).append_right _).append_right _

/-- two artifacts under one path leave the transfer object there -/
theorem textAt?_of_same_path {rules : Rules} {t : Table} {base : Path} {w : Machine}
    {paths : List Path} (hpaths : (execute (store base (Artifact.ofTable rules t)) w).1 = .ok paths)
    (hsame : (Artifact.entity rules t).path base = (Artifact.dto rules t).path base) :
    ∀ a ∈ Artifact.ofTable rules t,
      (execute (store base (Artifact.ofTable rules t)) w).2.tree.textAt? w.here (a.path base) =
        some (Artifact.dto rules t).body := by
  have hstore : execute (store base ([Artifact.entity rules t] ++ [Artifact.dto rules t])) w =
      (.ok paths, _) := execute_of_result hpaths
  have hdto := textAt?_store_last hstore
  intro a ha
  rcases List.mem_cons.mp ha with rfl | ha
  · rw [hsame]
    exact hdto
  · rw [List.mem_singleton.mp ha]
    exact hdto

/-- the transfer object twice is not the combined text -/
theorem intercalate_dto_ne_combined (rules : Rules) (t : Table) :
    String.intercalate Artifact.separator
        ((Artifact.ofTable rules t).map fun _ => (Artifact.dto rules t).body) ≠
      Artifact.combined (Artifact.ofTable rules t) := by
  intro h
  rw [Artifact.combined_ofTable] at h
  have hfront : (Artifact.dto rules t).body ++ Artifact.separator =
      (Artifact.entity rules t).body ++ Artifact.separator := (String.append_left_inj _).mp h
  exact entity_body_ne_dto_body _ _ ((String.append_left_inj _).mp hfront).symm

/-- what is printed need not be the combined text and a line end, and two files with different
names need not hold the combined text -/
theorem deliveries_differ :
    Table.ofDdl strangeRules smallDdl = .ok smallTable ∧
    (execute (generate strangeRules {} none .stdout smallDdl) {}).2.printed ≠
      Artifact.combined (Artifact.ofTable strangeRules smallTable) ++ "\n" ∧
    (Artifact.entity strangeRules smallTable).fileName ≠
      (Artifact.dto strangeRules smallTable).fileName ∧
    (∃ paths, (execute (store (baseDirectory strangeRules {} none)
      (Artifact.ofTable strangeRules smallTable)) {}).1 = .ok paths) ∧
    ∃ texts, ((Artifact.ofTable strangeRules smallTable).mapM fun a =>
        (execute (generate strangeRules {} none .file smallDdl) {}).2.tree.textAt? []
          (a.path (baseDirectory strangeRules {} none))) = some texts ∧
      String.intercalate Artifact.separator texts ≠
        Artifact.combined (Artifact.ofTable strangeRules smallTable) := by
  have h : Table.ofDdl strangeRules smallDdl = .ok smallTable := by decide +kernel
  obtain ⟨notes, hnotes⟩ := lines_tableNotices_ok h
  have hpaths : (execute (store (baseDirectory strangeRules {} none)
      (Artifact.ofTable strangeRules smallTable)) {}).1 =
      .ok ((Artifact.ofTable strangeRules smallTable).map
        (·.path (baseDirectory strangeRules {} none))) := by decide +kernel
  refine ⟨h, ?_, by decide +kernel, ⟨_, hpaths⟩, ?_⟩
  · rw [execute_stdout {} none {} h hnotes]
    show "" ++ shown _ ≠ _
    rw [String.empty_append]
    exact fun heq => (shown_eq_iff _).mp heq (holdsSequence_combined smallTable)
  · have hsame : (Artifact.entity strangeRules smallTable).path
          (baseDirectory strangeRules {} none) =
        (Artifact.dto strangeRules smallTable).path (baseDirectory strangeRules {} none) := by
      decide +kernel
    rw [tree_execute_file {} none {} h hnotes]
    exact ⟨_, mapM_eq_some (textAt?_of_same_path hpaths hsame), intercalate_dto_ne_combined _ _⟩

end DdlToJava

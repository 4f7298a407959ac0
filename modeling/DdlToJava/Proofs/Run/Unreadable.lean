import DdlToJava.Proofs.Console.Escaped
import DdlToJava.Proofs.Run.Fallback
import DdlToJava.Proofs.Run.Ignored
import DdlToJava.Proofs.Run.Report
import DdlToJava.Proofs.Text.Rows

/-!
# An input that cannot be read

A run reads its input before it looks at anything that comes later: the target, the directory of the
files, the lines of the standard input, the clipboard.  So an input without a text ends every such
run alike, with two words at most: the one on the rules, and the one on the input.

* `TextFault.complaint`        what is said of an input without a text, and that it never ends in a
                               backslash (`getLast?_complaint`);
* `line_inputUnreadable`       how it is printed;
* `execute_withRules_unreadable`
                               a run that has its rules, and an input without a text;
* `unreadable_input`           the runs that meet such an input.
-/

namespace DdlToJava

open Files Host Machine Console Markup Text

/-! ## the words -/

/-- what is said of an input without a text -/
def Host.TextFault.complaint (p : Path) (fault : TextFault) : String :=
  (Failure.unreadableInput p (fault.message p)).message

/-- an error text as the console prints it, with its line end -/
def complaintLine (text : String) : String :=
  String.ofList (settled (escapedShown text.toList)) ++ "\n"

theorem toList_complaintLine (text : String) :
    (complaintLine text).toList = settled (escapedShown text.toList) ++ ['\n'] := by
  unfold complaintLine
  rw [String.toList_append, String.toList_ofList]
  rfl

/-- the line is the error text itself exactly if the console has nothing to replace in the text, and
keeps its lines on their rows -/
theorem text_complaintLine_eq_iff (l : Layout) (text : String) :
    l.text (complaintLine text) = text ++ "\n" ↔
      PrintsEscaped text.toList ∧ ∀ line ∈ pieces '\n' text.toList, l.Keeps line := by
  constructor
  · intro h
    have hlist := congrArg String.toList h
    rw [String.toList_append] at hlist
    have hcount : text.toList.countP isMark ≤ (escapedShown text.toList).countP isMark := by
      have hshown := l.countP_text_le (p := isMark) rfl rfl (complaintLine text)
      rw [hlist, toList_complaintLine, List.countP_append, List.countP_append,
        countP_settled] at hshown
      exact Nat.le_of_add_le_add_right hshown
    have hcontrol : ∀ c ∈ text.toList, c ≠ '\t' ∧ isDropped c = false := by
      intro c hc
      have hmem : c ∈ (l.text (complaintLine text)).toList := by
        rw [hlist]
        exact List.mem_append_left _ hc
      rcases l.mem_text hmem with rfl | rfl | hmem
      · decide
      · decide
      · rw [toList_complaintLine] at hmem
        rcases List.mem_append.mp hmem with hmem | hmem
        · exact noControl_settled _ c hmem
        · rw [List.mem_singleton.mp hmem]
          decide
    have hprints := PrintsEscaped.of_countP hcount hcontrol
    refine ⟨hprints, (l.text_line_eq_iff text).mp ?_⟩
    unfold complaintLine at h
    rw [hprints.settled, String.ofList_toList] at h
    exact h
  · rintro ⟨hprints, hkeeps⟩
    unfold complaintLine
    rw [hprints.settled, String.ofList_toList]
    exact (l.text_line_eq_iff text).mpr hkeeps

theorem getLast?_quoted (s : String) :
    (quoted s).toList ≠ [] ∧ (quoted s).toList.getLast? ≠ some '\\' := by
  have hquote : quoteFor s.toList ≠ '\\' := by
    unfold quoteFor
    split <;> decide
  unfold quoted
  rw [String.toList_ofList, ← List.cons_append, List.getLast?_concat]
  exact ⟨List.concat_ne_nil _ _, fun h => hquote (Option.some.inj h)⟩

theorem getLast?_reason (r : Utf8.Reason) :
    r.text.toList ≠ [] ∧ r.text.toList.getLast? ≠ some '\\' := by
  cases r <;> decide +kernel

/-- the text ends in a quote, or in the reason for a fault in the bytes -/
theorem getLast?_complaint (p : Path) (fault : TextFault) :
    (fault.complaint p).toList.getLast? ≠ some '\\' := by
  unfold TextFault.complaint Failure.message TextFault.message
  cases fault with
  | file cause =>
    obtain ⟨hne, hlast⟩ := getLast?_quoted p.toString
    unfold fileMessage
    dsimp only
    rw [← String.append_assoc]
    exact getLast?_append_ne _ hne hlast
  | bytes fault =>
    obtain ⟨hne, hlast⟩ := getLast?_reason fault.reason
    unfold Utf8.Fault.message
    dsimp only
    rw [← String.append_assoc]
    exact getLast?_append_ne _ hne hlast

theorem isStyle_boldRed : IsStyle "bold red".toList :=
  ⟨by decide, by decide, by decide, by decide⟩

/-- an error text that does not end in a backslash prints -/
theorem line_inputUnreadable {text : String} (h : text.toList.getLast? ≠ some '\\') :
    (Notice.inputUnreadable text).line = .ok (complaintLine text) := by
  have hmessage : (Notice.inputUnreadable text).message.toList =
      '[' :: ("bold red".toList ++ ']' ::
        ((escape text).toList ++ '[' :: '/' :: ("bold red".toList ++ [']']))) := by
    unfold Notice.message Notice.styled
    simp only [String.toList_append, List.append_assoc]
    rfl
  unfold Notice.line
  rw [print_styled_escape isStyle_boldRed hmessage h]
  rfl

/-! ## the runs -/

section
variable {w : Machine} {settings : Settings} {a : Arguments} {rules : Rules} {fault : TextFault}

theorem execute_withRules_unreadable
    (hinput : (execute (readText (a.input.getD settings.inputFile)) w).1 = .ok (.error fault)) :
    execute (withRules settings a rules) w =
      (.ok .failed,
        w.saying (complaintLine (fault.complaint (a.input.getD settings.inputFile)))) := by
  have hread : execute (readText (a.input.getD settings.inputFile)) w = (.ok (.error fault), w) :=
    Prod.ext hinput (keeps_readText _ w).symm
  have hline := line_inputUnreadable (getLast?_complaint (a.input.getD settings.inputFile) fault)
  unfold withRules
  rw [execute_bind_ok hread]
  exact execute_bind_ok (execute_announce_ok hline w)

/-- a run that meets an input without a text -/
theorem execute_run_unreadable {args : List String} (hargs : Arguments.ofList? args = some a)
    (hsettings : (execute loadSettings w).1 = .ok settings)
    (hrules : (execute (loadRules (a.config.getD settings.configFile)) w).1 = .ok rules)
    (hinput : (execute (readText (a.input.getD settings.inputFile)) w).1 = .ok (.error fault)) :
    ∃ remark,
      Notice.lines (w.remark? (a.config.getD settings.configFile)).toList = .ok remark ∧
      execute (run args) w =
        (.ok .failed, (w.saying remark).saying
          (complaintLine (fault.complaint (a.input.getD settings.inputFile)))) := by
  obtain ⟨remark, hremark, hrun⟩ := execute_run_loaded hargs hsettings hrules
  have hread := (onFiles_readText (a.input.getD settings.inputFile)).saying remark w
  rw [hinput] at hread
  refine ⟨remark, hremark, hrun.trans ?_⟩
  exact execute_withRules_unreadable (congrArg Prod.fst hread)

/-- **An input that cannot be read ends the run at once.**  The run fails, and leaves the machine
as it is but for what it says: the notice on the rules, if there is one, and the error text as the
console prints it.  Neither the target nor the directory of the command line matters, nor do the
input and the clipboard. -/
theorem unreadable_input {args : List String} (hargs : Arguments.ofList? args = some a)
    (hsettings : (execute loadSettings w).1 = .ok settings)
    (hrules : (execute (loadRules (a.config.getD settings.configFile)) w).1 = .ok rules)
    (hinput : (execute (readText (a.input.getD settings.inputFile)) w).1 = .ok (.error fault)) :
    ∃ remark complaint,
      Notice.lines (w.remark? (a.config.getD settings.configFile)).toList = .ok remark ∧
      complaint = fault.complaint (a.input.getD settings.inputFile) ∧
      (Notice.inputUnreadable complaint).line = .ok (complaintLine complaint) ∧
      (w.layout.text (complaintLine complaint) = complaint ++ "\n" ↔
        PrintsEscaped complaint.toList ∧
          ∀ line ∈ pieces '\n' complaint.toList, w.layout.Keeps line) ∧
      Exit.failed.code = 1 ∧
      ∀ args' t d input clipboardFault,
        Arguments.ofList? args' = some { a with target := t, outDir := d } →
        execute (run args') (withStreams input clipboardFault w) =
          (.ok .failed,
            ((withStreams input clipboardFault w).saying remark).saying
              (complaintLine complaint)) := by
  obtain ⟨remark, hremark, -⟩ := execute_run_unreadable hargs hsettings hrules hinput
  refine ⟨remark, _, hremark, rfl, line_inputUnreadable (getLast?_complaint _ _),
    text_complaintLine_eq_iff _ _, rfl, fun args' t d input clipboardFault hargs' => ?_⟩
  have hsettings' := congrArg Prod.fst (ignores_loadSettings input clipboardFault w)
  have hrules' := congrArg Prod.fst
    (ignores_loadRules input clipboardFault (a.config.getD settings.configFile) w)
  have hinput' := congrArg Prod.fst
    (ignores_readText input clipboardFault (a.input.getD settings.inputFile) w)
  obtain ⟨remark', hremark', hrun⟩ := execute_run_unreadable hargs'
    (hsettings'.trans hsettings) (hrules'.trans hrules) (hinput'.trans hinput)
  cases hremark.symm.trans hremark'
  exact hrun

end

/-- a machine with an input that may not be read -/
def secretMachine : Machine where
  tree :=
    { entries := [(["ddl.txt"], .file [])], refusals := [((.read, ["ddl.txt"]), notPermitted)] }

/-- a target on the input and another directory do not help where the file is missing, or where it
may not be read -/
theorem unreadable_input_missing :
    (∃ said, execute (run ["a.txt", "--out-dir", "out"]) (withStreams ["file"] (some "none") {}) =
      (.ok .failed, { (withStreams ["file"] (some "none") {}) with said := said })) ∧
    ∃ said, execute (run ["--out-dir", "out"]) (withStreams ["file"] none secretMachine) =
      (.ok .failed, { (withStreams ["file"] none secretMachine) with said := said }) := by
  have hargs : Arguments.ofList? ["a.txt"] = some { input := some { names := ["a.txt"] } } := by
    decide +kernel
  have hargs' : Arguments.ofList? ["a.txt", "--out-dir", "out"] =
      some { input := some { names := ["a.txt"] }, outDir := some { names := ["out"] } } := by
    decide +kernel
  have hout : Arguments.ofList? ["--out-dir", "out"] =
      some { outDir := some { names := ["out"] } } := by decide +kernel
  have hnone : Arguments.ofList? [] = some {} := rfl
  have hinput : (execute (readText { names := ["a.txt"] }) {}).1 =
      .ok (.error (.file .missing)) := by
    decide +kernel
  have hsecret : (execute (readText ({} : Settings).inputFile) secretMachine).1 =
      .ok (.error (.file .denied)) := by
    decide +kernel
  have hsettings : (execute loadSettings {}).1 = .ok {} := by decide +kernel
  have hsettings' : (execute loadSettings secretMachine).1 = .ok {} := by decide +kernel
  constructor
  · obtain ⟨line, -, hload⟩ :=
      execute_loadRules_missing (p := ({} : Settings).configFile) (w := {}) (by decide +kernel)
    obtain ⟨remark, complaint, -, -, -, -, -, hruns⟩ :=
      unreadable_input hargs hsettings (congrArg Prod.fst hload) hinput
    exact ⟨_, hruns _ none (some { names := ["out"] }) ["file"] (some "none") hargs'⟩
  · obtain ⟨line, -, hload⟩ := execute_loadRules_missing (p := ({} : Settings).configFile)
      (w := secretMachine) (by decide +kernel)
    obtain ⟨remark, complaint, -, -, -, -, -, hruns⟩ :=
      unreadable_input hnone hsettings' (congrArg Prod.fst hload) hsecret
    exact ⟨_, hruns _ none (some { names := ["out"] }) ["file"] none hout⟩

section
variable {w : Machine} {name : String}

/-- what is said where the file of a name is missing -/
theorem said_execute_run_missing {args : List String} {a : Arguments}
    (hargs : Arguments.ofList? args = some a) (hname : a.input = some { names := [name] })
    (hsettings : (execute loadSettings w).1 = .ok {})
    (hconfig : (execute (pathExists (a.config.getD ({} : Settings).configFile)) w).1 = .ok false)
    (hinput : (execute (readText { names := [name] }) w).1 = .ok (.error (.file .missing)))
    {remark : String}
    (hremark : Notice.lines (w.remark? (a.config.getD ({} : Settings).configFile)).toList =
      .ok remark)
    (hsaid : (execute (run args) w).2.said = (w.saying remark).said ++
      (TextFault.complaint { names := [name] } (.file .missing) ++ "\n")) :
    PrintsEscaped (TextFault.complaint { names := [name] } (.file .missing)).toList ∧
      ∀ line ∈ pieces '\n' (TextFault.complaint { names := [name] } (.file .missing)).toList,
        w.layout.Keeps line := by
  obtain ⟨line, -, hload⟩ := execute_loadRules_missing hconfig
  have hinput' : (execute (readText (a.input.getD ({} : Settings).inputFile)) w).1 =
      .ok (.error (.file .missing)) := by
    rw [hname]
    exact hinput
  obtain ⟨remark', hremark', hrun⟩ :=
    execute_run_unreadable hargs hsettings (congrArg Prod.fst hload) hinput'
  cases hremark.symm.trans hremark'
  rw [hrun, hname] at hsaid
  exact (text_complaintLine_eq_iff w.layout _).mp ((String.append_right_inj _).mp hsaid)

end

/-- the console fills up a tab in the name of a file, and breaks a line that it has no room for, so
what it says is not the error text -/
theorem unreadable_input_tab :
    ((execute (readText { names := ["a\tb.txt"] }) {}).1 = .ok (.error (.file .missing)) ∧
    ∀ remark,
      Notice.lines (({} : Machine).remark? ({} : Settings).configFile).toList = .ok remark →
      (execute (run ["a\tb.txt", "--target", "stdout"]) {}).2.said ≠
        (({} : Machine).saying remark).said ++
          (TextFault.complaint { names := ["a\tb.txt"] } (.file .missing) ++ "\n")) ∧
    ∀ remark,
      Notice.lines ((consoleMachine 80).remark? ({} : Settings).configFile).toList = .ok remark →
      (execute (run ["missing.txt", "--target", "stdout"]) (consoleMachine 80)).2.said ≠
        ((consoleMachine 80).saying remark).said ++
          (TextFault.complaint { names := ["missing.txt"] } (.file .missing) ++ "\n") := by
  have hargs : Arguments.ofList? ["a\tb.txt", "--target", "stdout"] =
      some { input := some { names := ["a\tb.txt"] }, target := some .stdout } := by
    decide +kernel
  have hargs' : Arguments.ofList? ["missing.txt", "--target", "stdout"] =
      some { input := some { names := ["missing.txt"] }, target := some .stdout } := by
    decide +kernel
  have hinput : (execute (readText { names := ["a\tb.txt"] }) {}).1 =
      .ok (.error (.file .missing)) := by
    decide +kernel
  refine ⟨⟨hinput, fun remark hremark hsaid => ?_⟩, fun remark hremark hsaid => ?_⟩
  · have hprints := (said_execute_run_missing hargs rfl (by decide +kernel) (by decide +kernel)
      hinput hremark hsaid).1
    have htab : '\t' ∈ (TextFault.complaint { names := ["a\tb.txt"] } (.file .missing)).toList := by
      decide +kernel
    exact (hprints.noControl '\t' htab).1 rfl
  · have hkeeps := (said_execute_run_missing hargs' rfl (by decide +kernel) (by decide +kernel)
      (by decide +kernel) hremark hsaid).2
    have hline : pieces '\n'
        (TextFault.complaint { names := ["missing.txt"] } (.file .missing)).toList =
        [(TextFault.complaint { names := ["missing.txt"] } (.file .missing)).toList] := by
      decide +kernel
    rw [hline, List.forall_mem_singleton] at hkeeps
    have hfits := Layout.cells_le_of_keeps hkeeps
    exact absurd hfits (by decide +kernel)

end DdlToJava

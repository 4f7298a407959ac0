import DdlToJava.Proofs.Run.Fallback
import DdlToJava.Proofs.Run.Ignored

/-!
# Asking for the target and naming it

A run that asks for its target takes lines off the input until one of them names a target, and says
one question for each and one rejection for each that is refused.  Nothing that comes after it
looks at the input again, or at what was said.  So the run is the one whose command line names that
target, with the dialogue put in behind the notice about the rules.

* `Prompt.Accepts`, `answer?_eq_some_iff`
                          which lines name a target;
* `Prompt.dialogue`, `execute_askTarget`, `execute_askTarget_none`
                          the loop of questions, with and without an answer;
* `ofList?_target`        a target put in front of a command line;
* `prompted_as_named`     asking for a target and naming it.
-/

namespace DdlToJava

open Files Host Machine

/-! ## answers -/

namespace Prompt

/-- the line asks for the target: an empty one for that of files, any other one for the target that
it names, with white space around the name or without -/
def Accepts (line : String) (t : Target) : Prop :=
  line = "" ∧ t = .file ∨ Text.trim line.toList = t.name.toList

theorem answer?_eq_some_iff (line : String) (t : Target) :
    answer? line = some t ↔ Accepts line t := by
  have hname : ∀ s : String, Target.ofName? s = some t ↔ s = t.name := by
    intro s
    constructor
    · intro h
      have := List.find?_some h
      simpa using (of_decide_eq_true this).symm
    · rintro rfl
      exact Target.ofName?_name t
  unfold answer? Accepts
  by_cases hline : line = ""
  · subst hline
    rw [if_pos rfl]
    cases t <;> decide
  · rw [if_neg hline, hname, ← String.toList_inj, String.toList_ofList]
    exact ⟨.inr, fun h => h.resolve_left fun h => hline h.1⟩

/-- the line asks for no target -/
def Refuses (line : String) : Prop := ∀ t, ¬ Accepts line t

theorem answer?_eq_none_iff (line : String) : answer? line = none ↔ Refuses line := by
  unfold Refuses
  simp only [← answer?_eq_some_iff, Option.eq_none_iff_forall_ne_some, ne_eq]

/-- what a console shows while so many lines are refused, up to the question after them -/
def dialogue (l : Console.Layout) : Nat → String
  | 0 => l.text question
  | n + 1 => l.text question ++ l.text rejection ++ dialogue l n

end Prompt

open Prompt

section
variable {w : Machine}

/-- lines that are refused, and then one that is not or the end of the input -/
theorem execute_askAtMost_succ (fuel : Nat) (w : Machine) :
    execute (ExceptT.lift (askAtMost (fuel + 1))) w =
      match w.input with
      | [] => (.ok none, { w.saying question with input := [] })
      | line :: rest =>
        match answer? line with
        | some t => (.ok (some t), { w.saying question with input := rest })
        | none => execute (ExceptT.lift (askAtMost fuel))
            { (w.saying question).saying rejection with input := rest } := by
  have hread := execute_readLine (w.saying question)
  have hsame : (w.saying question).input = w.input := rfl
  rw [askAtMost, ExceptT.lift_bind, execute_bind_ok (execute_say question _), ExceptT.lift_bind]
  cases hinput : w.input with
  | nil =>
    rw [hsame, hinput] at hread
    rw [execute_bind_ok hread]
    rfl
  | cons line rest =>
    rw [hsame, hinput] at hread
    rw [execute_bind_ok hread]
    dsimp only [List.head?_cons, List.tail_cons]
    cases answer? line with
    | some t => rfl
    | none =>
      dsimp only
      rw [ExceptT.lift_bind, execute_bind_ok (execute_say rejection _)]
      rfl

theorem execute_askAtMost {refused : List String} (hrefused : ∀ l ∈ refused, Refuses l)
    {line : String} {t : Target} (hline : Accepts line t) {rest : List String} {fuel : Nat}
    (hfuel : refused.length < fuel) (hinput : w.input = refused ++ line :: rest) :
    execute (ExceptT.lift (askAtMost fuel)) w =
      (.ok (some t), { w with
        said := w.said ++ dialogue w.layout refused.length, input := rest }) := by
  induction refused generalizing w fuel with
  | nil =>
    obtain ⟨fuel, rfl⟩ := Nat.exists_eq_add_of_lt hfuel
    rw [List.length_nil, Nat.zero_add, execute_askAtMost_succ, hinput]
    dsimp only [List.nil_append]
    rw [(answer?_eq_some_iff line t).mpr hline]
    rfl
  | cons l refused ih =>
    obtain ⟨fuel, rfl⟩ : ∃ k, fuel = k + 1 := ⟨fuel - 1, by omega⟩
    rw [execute_askAtMost_succ, hinput]
    dsimp only [List.cons_append]
    rw [(answer?_eq_none_iff l).mpr (hrefused l (List.mem_cons_self ..))]
    dsimp only
    rw [ih (fun k hk => hrefused k (List.mem_cons_of_mem l hk))
      (by rw [List.length_cons] at hfuel; omega) rfl]
    simp only [saying, List.length_cons, dialogue, String.append_assoc]

/-- lines that are refused up to the end of the input -/
theorem execute_askAtMost_none (hrefused : ∀ l ∈ w.input, Refuses l) {fuel : Nat}
    (hfuel : w.input.length < fuel) :
    execute (ExceptT.lift (askAtMost fuel)) w =
      (.ok none, { w with
        said := w.said ++ dialogue w.layout w.input.length, input := [] }) := by
  generalize hinput : w.input = lines at hrefused hfuel ⊢
  induction lines generalizing w fuel with
  | nil =>
    obtain ⟨fuel, rfl⟩ := Nat.exists_eq_add_of_lt hfuel
    rw [List.length_nil, Nat.zero_add, execute_askAtMost_succ, hinput]
    rfl
  | cons l lines ih =>
    obtain ⟨fuel, rfl⟩ : ∃ k, fuel = k + 1 := ⟨fuel - 1, by omega⟩
    rw [execute_askAtMost_succ, hinput]
    dsimp only
    rw [(answer?_eq_none_iff l).mpr (hrefused l (List.mem_cons_self ..))]
    dsimp only
    rw [ih rfl (fun k hk => hrefused k (List.mem_cons_of_mem l hk))
      (by rw [List.length_cons] at hfuel; omega)]
    simp only [saying, List.length_cons, dialogue, String.append_assoc]

theorem execute_lineBound (w : Machine) :
    execute (ExceptT.lift lineBound) w = (.ok (w.input.length + 1), w) := rfl

/-- the answer to the question is the first line that is not refused -/
theorem execute_askTarget {refused : List String} (hrefused : ∀ l ∈ refused, Refuses l)
    {line : String} {t : Target} (hline : Accepts line t) {rest : List String}
    (hinput : w.input = refused ++ line :: rest) :
    execute (ExceptT.lift askTarget) w =
      (.ok (some t), { w with
        said := w.said ++ dialogue w.layout refused.length, input := rest }) := by
  unfold askTarget
  rw [ExceptT.lift_bind, execute_bind_ok (execute_lineBound w)]
  refine execute_askAtMost hrefused hline ?_ hinput
  rw [hinput, List.length_append, List.length_cons]
  omega

/-- there is no answer if all lines are refused -/
theorem execute_askTarget_none (hrefused : ∀ l ∈ w.input, Refuses l) :
    execute (ExceptT.lift askTarget) w =
      (.ok none, { w with
        said := w.said ++ dialogue w.layout w.input.length, input := [] }) := by
  unfold askTarget
  rw [ExceptT.lift_bind, execute_bind_ok (execute_lineBound w)]
  exact execute_askAtMost_none hrefused (Nat.lt_succ_self _)

end

/-! ## naming a target -/

namespace Arguments

/-- options in front of a command line come last among its values -/
theorem split?_values (parts : Parts) (earlier : List (Key × String)) (args : List String) :
    split? { parts with values := parts.values ++ earlier } args =
      (split? parts args).map fun p => { p with values := p.values ++ earlier } := by
  fun_induction split? parts args with
  | case1 => rfl
  | case2 parts rest =>
    rw [split?.eq_2, if_pos rfl]
    rfl
  | case3 parts arg rest hdash hopt hnone =>
    rw [split?.eq_2, if_neg hdash, if_pos hopt, hnone]
    rfl
  | case4 parts arg rest hdash hopt key v hsome ih =>
    rw [split?.eq_2, if_neg hdash, if_pos hopt, hsome]
    exact ih
  | case5 parts arg hdash hopt key hsome =>
    rw [split?.eq_2, if_neg hdash, if_pos hopt, hsome]
    rfl
  | case6 parts arg hdash hopt key hsome v rest ih =>
    rw [split?.eq_2, if_neg hdash, if_pos hopt, hsome]
    exact ih
  | case7 parts arg rest hdash hopt ih =>
    rw [split?.eq_2, if_neg hdash, if_neg hopt]
    exact ih

theorem ofWord?_name (t : Target) : Target.ofWord? t.name = some t := by
  cases t <;> decide

/-- a target in front of a command line that has none -/
theorem ofList?_target {args : List String} {a : Arguments} (h : ofList? args = some a)
    (htarget : a.target = none) (t : Target) :
    ofList? ("--target" :: t.name :: args) = some { a with target := some t } := by
  obtain ⟨parts, hparts, hof⟩ := Option.bind_eq_some_iff.mp h
  simp only [ofParts?, Option.bind_eq_bind, Option.bind_eq_some_iff, Option.some.injEq] at hof
  obtain ⟨input, hinput, config, hconfig, target, htarget', outDir, houtDir, rfl⟩ := hof
  have hlookup : parts.values.lookup .target = none := by
    cases hvalue : parts.values.lookup .target with
    | none => rfl
    | some v =>
      rw [hvalue] at htarget'
      obtain ⟨t', -, ht'⟩ := Option.map_eq_some_iff.mp htarget'
      exact absurd (ht'.trans htarget) (Option.some_ne_none t')
  have hsplit : split? {} ("--target" :: t.name :: args) =
      some { parts with values := parts.values ++ [(.target, t.name)] } := by
    have hmore := split?_values {} [(.target, t.name)] args
    rw [hparts] at hmore
    have hoption : option? "--target" = some (.target, none) := by decide
    rw [split?.eq_2, if_neg (by decide), if_pos (by decide), hoption]
    exact hmore
  have hothers : ∀ key : Key, key ≠ .target →
      (parts.values.lookup key).or (List.lookup key [(.target, t.name)]) =
        parts.values.lookup key := by
    intro key hkey
    rw [List.lookup_cons, beq_false_of_ne hkey]
    exact Option.or_none
  have hword : optional? Target.ofWord? (some t.name) = some (some t) := by
    show (Target.ofWord? t.name).map some = _
    rw [ofWord?_name]
    rfl
  have hfree : (input? parts.free).bind (optional? path?) = some input :=
    Option.bind_eq_some_iff.mpr hinput
  unfold ofList?
  rw [hsplit, Option.bind_some]
  simp only [ofParts?, List.lookup_append, hlookup, Option.none_or, Option.bind_eq_bind]
  rw [hothers .config (by decide), hothers .outDir (by decide), hfree, hconfig, houtDir]
  show (optional? Target.ofWord? (some t.name)).bind _ = _
  rw [hword]
  rfl

end Arguments

/-! ## two runs -/

section
variable {w : Machine} {settings : Settings} {a : Arguments} {rules : Rules} {cs : List Char}

/-- a run up to the choice of its target -/
theorem execute_run_input {args : List String} (hargs : Arguments.ofList? args = some a)
    (hsettings : (execute loadSettings w).1 = .ok settings)
    (hrules : (execute (loadRules (a.config.getD settings.configFile)) w).1 = .ok rules)
    (hinput : (execute (readText (a.input.getD settings.inputFile)) w).1 = .ok (.ok cs)) :
    ∃ remark,
      Notice.lines (w.remark? (a.config.getD settings.configFile)).toList = .ok remark ∧
      execute (run args) w =
        execute (finish rules settings a (String.ofList cs)) (w.saying remark) := by
  obtain ⟨remark, hremark, hrun⟩ := execute_run_loaded hargs hsettings hrules
  have hread := (onFiles_readText (a.input.getD settings.inputFile)).saying remark w
  rw [hinput] at hread
  refine ⟨remark, hremark, hrun.trans ?_⟩
  unfold withRules
  rw [execute_bind_ok hread, ← keeps_readText _ w]
  rfl

/-- what a run does when it has its target -/
def generateDone {m : Type → Type} [Monad m] [Host m] (rules : Rules) (settings : Settings)
    (outDir : Option Path) (ddl : String) (t : Target) : ExceptT Failure m Exit := do
  let _ ← generate rules settings outDir t ddl
  pure .done

theorem execute_finish_named (ddl : String) (t : Target) (w : Machine) :
    execute (finish rules settings { a with target := some t } ddl) w =
      execute (generateDone rules settings a.outDir ddl t) w := by
  unfold finish chooseTarget generateDone
  rw [pure_bind]

/-- generating after a dialogue -/
theorem execute_generateDone_after (ddl : String) (t : Target) (w : Machine) (talk : String)
    (rest : List String) :
    ∃ after,
      (execute (generateDone rules settings a.outDir ddl t) w).2.said = w.said ++ after ∧
      execute (generateDone rules settings a.outDir ddl t)
          { w with said := w.said ++ talk, input := rest } =
        ((execute (generateDone rules settings a.outDir ddl t) w).1,
          { (execute (generateDone rules settings a.outDir ddl t) w).2 with
            said := w.said ++ talk ++ after, input := rest }) := by
  have hignores : Ignores (withInput rest) (generateDone rules settings a.outDir ddl t) :=
    (Ignores.isEffect _).bind (ignores_generate _ _ _ _ _ _) fun _ => (Ignores.isEffect _).pure _
  have hoblivious : Oblivious (generateDone rules settings a.outDir ddl t) :=
    Oblivious.isEffect.bind (oblivious_generate _ _ _ _ _) fun _ => Oblivious.isEffect.pure _
  obtain ⟨after, hsaid, hrecast⟩ := hoblivious w
  refine ⟨after, hsaid, ?_⟩
  have hrun := hignores (w.recast (w.said ++ talk) w.environment)
  unfold IgnoresAt at hrun
  rw [hrecast] at hrun
  have hkeeps : (execute (generateDone rules settings a.outDir ddl t) w).2.environment =
      w.environment := by
    have hself := hrecast w.said w.environment
    have hsame : w.recast w.said w.environment = w := rfl
    rw [hsame] at hself
    exact congrArg (fun r => r.2.environment) hself
  refine hrun.trans ?_
  unfold recast withInput
  rw [← hkeeps]

/-- a run without a target whose answer is found in the input -/
theorem execute_finish_answered (htarget : a.target = none) {refused : List String}
    (hrefused : ∀ l ∈ refused, Refuses l) {line : String} {t : Target} (hline : Accepts line t)
    {rest : List String} (hinput : w.input = refused ++ line :: rest) (ddl : String) :
    execute (finish rules settings a ddl) w =
      execute (generateDone rules settings a.outDir ddl t)
        { w with said := w.said ++ dialogue w.layout refused.length, input := rest } := by
  unfold finish chooseTarget generateDone
  rw [htarget, execute_bind_ok (execute_askTarget hrefused hline hinput)]

/-- a run without a target that gets no answer -/
theorem execute_finish_unanswered (htarget : a.target = none)
    (hrefused : ∀ l ∈ w.input, Refuses l) (ddl : String) :
    execute (finish rules settings a ddl) w =
      (.ok .failed, { w with
        said := w.said ++ dialogue w.layout w.input.length ++ w.layout.text "\nAborted.\n"
        input := [] }) := by
  unfold finish chooseTarget
  rw [htarget, execute_bind_ok (execute_askTarget_none hrefused)]
  rfl

/-- **A run that asks for its target is the run that is told it.**  The first line that names a
target decides; the two runs differ by the dialogue, which stands behind the notice about the rules,
and by the lines that were read.  If no line names a target, the run ends there. -/
theorem prompted_as_named {args : List String} (hargs : Arguments.ofList? args = some a)
    (htarget : a.target = none) (hsettings : (execute loadSettings w).1 = .ok settings)
    (hrules : (execute (loadRules (a.config.getD settings.configFile)) w).1 = .ok rules)
    (hinput : (execute (readText (a.input.getD settings.inputFile)) w).1 = .ok (.ok cs)) :
    (∀ t : Target,
      Arguments.ofList? ("--target" :: t.name :: args) = some { a with target := some t }) ∧
    ∃ remark,
      Notice.lines (w.remark? (a.config.getD settings.configFile)).toList = .ok remark ∧
      (∀ refused line rest t named, w.input = refused ++ line :: rest →
        (∀ l ∈ refused, Refuses l) → Accepts line t →
        Arguments.ofList? named = some { a with target := some t } →
        ∃ after, (execute (run named) w).2.said = (w.saying remark).said ++ after ∧
          execute (run args) w = ((execute (run named) w).1,
            { (execute (run named) w).2 with
              said := (w.saying remark).said ++ dialogue w.layout refused.length ++ after
              input := rest })) ∧
      ((∀ l ∈ w.input, Refuses l) →
        execute (run args) w = (.ok .failed, { w with
          said := (w.saying remark).said ++ dialogue w.layout w.input.length ++
            w.layout.text "\nAborted.\n"
          input := [] }) ∧
        Exit.failed.code = 1) := by
  obtain ⟨remark, hremark, hrun⟩ := execute_run_input hargs hsettings hrules hinput
  refine ⟨Arguments.ofList?_target hargs htarget, remark, hremark, ?_, ?_⟩
  · intro refused line rest t named hlines hrefused hline hnamed
    obtain ⟨remark', hremark', hrun'⟩ := execute_run_input hnamed hsettings hrules hinput
    cases hremark.symm.trans hremark'
    rw [execute_finish_named] at hrun'
    have hanswered : execute (run args) w = _ := hrun.trans (execute_finish_answered
      (w := w.saying remark) htarget hrefused hline hlines _)
    rw [hanswered, hrun']
    exact execute_generateDone_after _ t (w.saying remark) _ rest
  · intro hrefused
    refine ⟨hrun.trans ?_, rfl⟩
    exact execute_finish_unanswered (w := w.saying remark) htarget hrefused _

end

/-- a machine with a statement, and with two answers of which the second one names a target -/
def promptedMachine : Machine where
  tree := { entries :=
    [(["ddl.txt"], .file (Text.Utf8.encode "CREATE TABLE T (\nA CHAR(3)\n)".toList))] }
  input := ["File", " stdout "]

theorem prompted_as_named_stdout :
    (execute (run []) promptedMachine).1 =
      (execute (run ["--target", "stdout"]) promptedMachine).1 ∧
    (execute (run []) promptedMachine).2.printed =
      (execute (run ["--target", "stdout"]) promptedMachine).2.printed ∧
    (execute (run []) promptedMachine).2.input = [] := by
  have hsettings : (execute loadSettings promptedMachine).1 = .ok {} := by decide +kernel
  obtain ⟨line, -, hload⟩ := execute_loadRules_missing (p := ({} : Settings).configFile)
    (w := promptedMachine) (by decide +kernel)
  have hinput : (execute (readText { names := ["ddl.txt"] }) promptedMachine).1 =
      .ok (.ok "CREATE TABLE T (\nA CHAR(3)\n)".toList) := by
    decide +kernel
  have hargs : Arguments.ofList? [] = some {} := rfl
  obtain ⟨hnamed, remark, -, hanswered, -⟩ :=
    prompted_as_named hargs rfl hsettings (congrArg Prod.fst hload) hinput
  have hrefused : ∀ l ∈ ["File"], Refuses l := by
    simp only [← answer?_eq_none_iff]
    decide +kernel
  have haccepts : Accepts " stdout " .stdout := .inr (by decide +kernel)
  have htold : Arguments.ofList? ["--target", "stdout"] = some { target := some .stdout } :=
    hnamed .stdout
  obtain ⟨after, -, hrun⟩ := hanswered ["File"] " stdout " [] .stdout _ rfl hrefused haccepts htold
  cases hsecond : execute (run ["--target", "stdout"]) promptedMachine with
  | mk result second =>
    rw [hsecond] at hrun
    rw [hrun]
    exact ⟨rfl, rfl, rfl⟩

end DdlToJava

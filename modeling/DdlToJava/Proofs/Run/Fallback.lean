import DdlToJava.Proofs.Run.Keeps
import DdlToJava.Proofs.Run.Loading

/-!
# A bad file of rules is as good as none

Once the rules are loaded, a run does not look back: neither at what was said so far nor at the
environment, which only the settings come from.  So two runs that come by the same rules go on
alike, and a file without valid rules makes no other difference than a missing one does.

* `Oblivious x`            the run `x` goes on alike after other words and in another environment;
* `oblivious_withRules`    all of a run that comes after the rules is of that kind;
* `execute_run_loaded`     a run from there on;
* `bad_rules_as_missing`   a bad file of rules beside a missing one.
-/

namespace DdlToJava.Machine

open Files Host

variable {α β : Type}

/-! ## runs that do not look back -/

/-- the machine with other words said and in another environment -/
def recast (w : Machine) (said : String) (environment : List (String × String)) : Machine :=
  { w with said := said, environment := environment }

/-- The run only adds to what was said, and neither that nor the environment matters to it. -/
def Oblivious (x : ExceptT Failure (StateM Machine) α) : Prop :=
  ∀ w, ∃ more, (execute x w).2.said = w.said ++ more ∧ ∀ said environment,
    execute x (w.recast said environment) =
      ((execute x w).1, (execute x w).2.recast (said ++ more) environment)

/-- a run that says nothing -/
theorem Oblivious.silent {x : ExceptT Failure (StateM Machine) α}
    (h : ∀ w said environment, execute x (w.recast said environment) =
      ((execute x w).1, (execute x w).2.recast said environment)) : Oblivious x := by
  intro w
  refine ⟨"", ?_, fun said environment => ?_⟩
  · have hself : execute x w = ((execute x w).1, (execute x w).2.recast w.said w.environment) :=
      h w w.said w.environment
    rw [hself, String.append_empty]
    rfl
  · rw [String.append_empty]
    exact h w said environment

theorem Oblivious.isEffect : IsEffect fun _ => Oblivious where
  pure a := Oblivious.silent fun _ _ _ => rfl
  throw e := Oblivious.silent fun _ _ _ => rfl
  bind := by
    intro α β x f hx hf w
    obtain ⟨more, hsaid, hrecast⟩ := hx w
    cases hw : execute x w with
    | mk r w₁ =>
      rw [hw] at hsaid hrecast
      cases r with
      | error e =>
        refine ⟨more, ?_, fun said environment => ?_⟩
        · rw [execute_bind_error hw]
          exact hsaid
        · rw [execute_bind_error hw, execute_bind_error (hrecast said environment)]
      | ok a =>
        obtain ⟨more', hsaid', hrecast'⟩ := hf a w₁
        refine ⟨more ++ more', ?_, fun said environment => ?_⟩
        · rw [execute_bind_ok hw, hsaid', hsaid, String.append_assoc]
        · rw [execute_bind_ok hw, execute_bind_ok (hrecast said environment), hrecast',
            String.append_assoc]

theorem oblivious_isDirectory (p : Path) : Oblivious (ExceptT.lift (Host.isDirectory p)) :=
  .silent fun _ _ _ => rfl

theorem oblivious_readFile (p : Path) : Oblivious (ExceptT.lift (Host.readFile p)) :=
  .silent fun _ _ _ => rfl

theorem oblivious_change {ε : Type} (f : Tree → Place → Except ε Unit × Tree) :
    Oblivious (ExceptT.lift (change f)) :=
  .silent fun _ _ _ => rfl

theorem oblivious_say (text : String) : Oblivious (ExceptT.lift (Host.say text)) :=
  fun w => ⟨w.layout.text text, rfl, fun _ _ => rfl⟩

theorem oblivious_print (text : String) : Oblivious (ExceptT.lift (Host.print text)) :=
  .silent fun _ _ _ => rfl

theorem oblivious_readLine : Oblivious (ExceptT.lift Host.readLine) := by
  refine .silent fun w said environment => ?_
  rw [execute_readLine, execute_readLine]
  rfl

theorem oblivious_lineBound : Oblivious (ExceptT.lift Host.lineBound) := .silent fun _ _ _ => rfl

theorem oblivious_copy (text : String) : Oblivious (ExceptT.lift (Host.copy text)) := by
  refine .silent fun w said environment => ?_
  cases h : w.clipboardFault with
  | none =>
    rw [execute_copy_ok h, execute_copy_ok (w := w.recast said environment) h]
    rfl
  | some reason =>
    rw [execute_copy_error h, execute_copy_error (w := w.recast said environment) h]

end DdlToJava.Machine

namespace DdlToJava

open Files Host Machine

section
variable {m : Type → Type} [Monad m] [Host m]

/-- what a run does once it has its rules -/
def withRules (settings : Settings) (a : Arguments) (rules : Rules) : ExceptT Failure m Exit := do
  let input := a.input.getD settings.inputFile
  match ← readText input with
  | .error fault => do
    announce (.inputUnreadable (Failure.unreadableInput input (fault.message input)).message)
    pure .failed
  | .ok cs => finish rules settings a (String.ofList cs)

theorem runWith_eq_withRules (settings : Settings) (a : Arguments) :
    (runWith settings a : ExceptT Failure m Exit) =
      loadRules (a.config.getD settings.configFile) >>= withRules settings a := rfl

/-- the path of the rules does not matter any more -/
theorem withRules_config (settings : Settings) (a : Arguments) (c : Path) (d : Option Path) :
    (withRules { settings with configFile := c } { a with config := d } :
      Rules → ExceptT Failure m Exit) = withRules settings a := by
  unfold withRules finish chooseTarget generate baseDirectory
  dsimp only

end

theorem oblivious_generate (rules : Rules) (settings : Settings) (outDir : Option Path)
    (target : Target) (ddl : String) :
    Oblivious (generate rules settings outDir target ddl) := by
  have h := Oblivious.isEffect
  exact h.generate oblivious_say oblivious_copy oblivious_print
    (fun _ base as => h.store oblivious_isDirectory (fun _ => oblivious_change _)
      (fun _ _ => oblivious_change _) base as) ddl

/-- once it has its rules, a run does not look back -/
theorem oblivious_withRules (settings : Settings) (a : Arguments) (rules : Rules) :
    Oblivious (withRules settings a rules) := by
  have h := Oblivious.isEffect
  unfold withRules
  refine h.bind (h.readText oblivious_readFile _) fun r => ?_
  split
  · exact h.bind (h.announce oblivious_say _) fun _ => h.pure _
  · unfold finish
    refine h.bind (h.chooseTarget oblivious_say oblivious_readLine oblivious_lineBound a)
      fun target => ?_
    cases target with
    | none => exact h.bind (oblivious_say _) fun _ => h.pure _
    | some target => exact h.bind (oblivious_generate _ _ _ _ _) fun _ => h.pure _

/-! ## two runs -/

section
variable {w : Machine} {environment : List (String × String)}

theorem execute_loadSettings (w : Machine) :
    execute loadSettings w = ((execute loadSettings w).1, w) :=
  Prod.ext rfl (keeps_loadSettings w).symm

/-- a run that comes to its rules goes on behind the remark on them -/
theorem execute_run_loaded {args : List String} {settings : Settings} {a : Arguments}
    {rules : Rules} (hargs : Arguments.ofList? args = some a)
    (hsettings : (execute loadSettings w).1 = .ok settings)
    (hrules : (execute (loadRules (a.config.getD settings.configFile)) w).1 = .ok rules) :
    ∃ remark,
      Notice.lines (w.remark? (a.config.getD settings.configFile)).toList = .ok remark ∧
      execute (run args) w =
        execute (withRules settings a rules) (w.saying remark) := by
  have hload := execute_loadSettings w
  rw [hsettings] at hload
  obtain ⟨remark, hremark, hrun⟩ := execute_loadRules_ok hrules
  refine ⟨remark, hremark, ?_⟩
  unfold run
  rw [execute_bind_ok hload, hargs]
  show execute (runWith settings a) w = _
  rw [runWith_eq_withRules, execute_bind_ok hrun]

/-- what stands at a path does not depend on the environment -/
theorem pathExists_recast {p : Path} {there : Bool} (said : String)
    (environment : List (String × String)) (h : (execute (pathExists p) w).1 = .ok there) :
    (execute (pathExists p) (w.recast said environment)).1 = .ok there := by
  rw [pathExists_eq_ok_iff] at h ⊢
  exact h

/-- The second run ends like the first one and leaves the same machine, but for the environment
and for the line `line'` in the place of `line`. -/
structure Alike (w : Machine) (environment : List (String × String)) (line line' : String)
    (r r' : Except Failure Exit × Machine) : Prop where
  result : r'.1 = r.1
  machine : ∃ after, r.2.said = (w.saying line).said ++ after ∧
    r'.2 = { r.2 with said := (w.saying line').said ++ after, environment := environment }

/-- beside the result, the outputs, the clipboard and the files are the same -/
theorem Alike.outputs {line line' : String} {r r' : Except Failure Exit × Machine}
    (h : Alike w environment line line' r r') :
    r'.2.printed = r.2.printed ∧ r'.2.copied = r.2.copied ∧ r'.2.tree = r.2.tree := by
  obtain ⟨after, -, hmachine⟩ := h.machine
  rw [hmachine]
  exact ⟨rfl, rfl, rfl⟩

/-- a run with arguments, once with a bad file of rules and once without one -/
theorem runWith_alike {s : Settings} {a : Arguments} {c : Path} {d : Option Path}
    (hthere : (execute (pathExists (a.config.getD s.configFile)) w).1 = .ok true)
    (hbad : ∀ rules, ¬ w.HoldsRules (a.config.getD s.configFile) rules)
    (hmissing : (execute (pathExists (d.getD c)) w).1 = .ok false) :
    ∃ fault line line', w.rulesIn (a.config.getD s.configFile) = .error fault ∧
      (Notice.configInvalid (a.config.getD s.configFile)
        (w.explanation (a.config.getD s.configFile) fault)).line = .ok line ∧
      (Notice.configMissing (d.getD c)).line = .ok line' ∧
      Alike w environment line line' (execute (runWith s a) w)
        (execute (runWith { s with configFile := c } { a with config := d })
          { w with environment := environment }) := by
  obtain ⟨fault, line, hfault, hline, hload⟩ := execute_loadRules_bad hthere hbad
  obtain ⟨line', hline', hload'⟩ :=
    execute_loadRules_missing (pathExists_recast w.said environment hmissing)
  obtain ⟨after, hsaid, hrecast⟩ :=
    oblivious_withRules s a {} (w.saying line)
  have hfirst : execute (runWith s a) w =
      execute (withRules s a {}) (w.saying line) := by
    rw [runWith_eq_withRules, execute_bind_ok hload]
  have hsecond : execute (runWith { s with configFile := c } { a with config := d })
        { w with environment := environment } =
      execute (withRules s a {})
        ((w.saying line).recast (w.saying line').said environment) := by
    rw [runWith_eq_withRules, withRules_config]
    exact execute_bind_ok hload'
  refine ⟨fault, line, line', hfault, hline, hline', ?_⟩
  rw [hfirst, hsecond, hrecast]
  exact ⟨rfl, after, hsaid, rfl⟩

end

/-- **A bad file of rules is as good as none.**  A file gives all the rules that are valid in it
or, with one notice, the built-in ones; and a run with a file that holds no rules is the run without
that file, in all but the notice. -/
theorem bad_rules_as_missing :
    (∀ (p : Path) (w : Machine), (execute (pathExists p) w).1 = .ok true →
      (∀ rules, w.HoldsRules p rules → execute (loadRules p) w = (.ok rules, w)) ∧
      ((∀ rules, ¬ w.HoldsRules p rules) → ∃ fault line, w.rulesIn p = .error fault ∧
        (Notice.configInvalid p (w.explanation p fault)).line = .ok line ∧
        execute (loadRules p) w = (.ok {}, w.saying line))) ∧
    ∀ (w : Machine) (environment : List (String × String)) (args args' : List String)
      (c : Path) (d : Option Path),
      -- the second run has another path for its rules, in the settings or in the arguments
      (execute loadSettings { w with environment := environment }).1 =
        (execute loadSettings w).1.map (fun s => { s with configFile := c }) →
      Arguments.ofList? args' =
        (Arguments.ofList? args).map (fun a => { a with config := d }) →
      (execute (pathExists (d.getD c)) w).1 = .ok false →
      -- wherever the first run comes to load rules, their file is bad
      (∀ s a, (execute loadSettings w).1 = .ok s → Arguments.ofList? args = some a →
        (execute (pathExists (a.config.getD s.configFile)) w).1 = .ok true ∧
          ∀ rules, ¬ w.HoldsRules (a.config.getD s.configFile) rules) →
      ∃ line line',
        Alike w environment line line' (execute (run args) w)
          (execute (run args') { w with environment := environment }) ∧
        ((line = "" ∧ line' = "") ∨
          ∃ s a, (execute loadSettings w).1 = .ok s ∧ Arguments.ofList? args = some a ∧
            (∃ fault, w.rulesIn (a.config.getD s.configFile) = .error fault ∧
              (Notice.configInvalid (a.config.getD s.configFile)
                (w.explanation (a.config.getD s.configFile) fault)).line = .ok line) ∧
            (Notice.configMissing (d.getD c)).line = .ok line') := by
  refine ⟨fun p w h => ⟨fun rules => execute_loadRules_good h, execute_loadRules_bad h⟩, ?_⟩
  intro w environment args args' c d hsettings hargs hmissing hbad
  have hload := execute_loadSettings w
  have hload' := execute_loadSettings { w with environment := environment }
  rw [hsettings] at hload'
  unfold run
  cases hs : (execute loadSettings w).1 with
  | error e =>
    rw [hs] at hload hload'
    rw [execute_bind_error hload, execute_bind_error hload']
    refine ⟨"", "", ⟨rfl, "", ?_, ?_⟩, .inl ⟨rfl, rfl⟩⟩
    · rw [saying_empty, String.append_empty]
    · rw [saying_empty, String.append_empty]
  | ok s =>
    rw [hs] at hload hload'
    rw [execute_bind_ok hload, execute_bind_ok hload', hargs]
    cases ha : Arguments.ofList? args with
    | none =>
      refine ⟨"", "", ⟨rfl, w.layout.text usage, ?_, ?_⟩, .inl ⟨rfl, rfl⟩⟩
      · rw [saying_empty]
        rfl
      · rw [saying_empty]
        rfl
    | some a =>
      obtain ⟨hthere, hnone⟩ := hbad s a hs ha
      obtain ⟨fault, line, line', hfault, hline, hline', halike⟩ :=
        runWith_alike hthere hnone hmissing
      exact ⟨line, line', halike, .inr ⟨s, a, rfl, rfl, ⟨fault, hfault, hline⟩, hline'⟩⟩

/-- a machine with a statement, and with a file for its rules that is no text -/
def badRulesMachine : Machine where
  tree := { entries := [(["c.json"], .file [0xff]),
    (["ddl.txt"], .file (Text.Utf8.encode "CREATE TABLE T (\nA CHAR(3)\n)".toList))] }

theorem bad_rules_as_missing_small :
    (execute (loadRules { names := ["c.json"] }) badRulesMachine).1 = .ok {} ∧
    (execute (run ["-t", "stdout", "-c", "c.json"]) badRulesMachine).1 =
      (execute (run ["-t", "stdout"]) badRulesMachine).1 ∧
    (execute (run ["-t", "stdout", "-c", "c.json"]) badRulesMachine).2.printed =
      (execute (run ["-t", "stdout"]) badRulesMachine).2.printed := by
  have hthere : (execute (pathExists { names := ["c.json"] }) badRulesMachine).1 = .ok true := by
    decide +kernel
  have hnone : ∀ rules, ¬ badRulesMachine.HoldsRules { names := ["c.json"] } rules := by
    rintro rules ⟨bytes, cs, hread, hdecode, -⟩
    have hbytes : badRulesMachine.tree.read badRulesMachine.here { names := ["c.json"] } =
        .ok [0xff] := by decide +kernel
    have hfault : (Text.Utf8.decode [0xff]).toOption = none := by decide +kernel
    cases hbytes.symm.trans hread
    rw [hdecode] at hfault
    cases hfault
  have hsettings : (execute loadSettings badRulesMachine).1 = .ok {} := by decide +kernel
  have hargs : Arguments.ofList? ["-t", "stdout", "-c", "c.json"] =
      some { target := some .stdout, config := some { names := ["c.json"] } } := by decide +kernel
  have hruns := bad_rules_as_missing.2 badRulesMachine badRulesMachine.environment
    ["-t", "stdout", "-c", "c.json"] ["-t", "stdout"] ({} : Settings).configFile none
  have hsame : ({ badRulesMachine with environment := badRulesMachine.environment } : Machine) =
      badRulesMachine := rfl
  rw [hsame, hsettings, hargs] at hruns
  obtain ⟨line, line', halike, -⟩ := hruns rfl (by decide +kernel) (by decide +kernel)
    fun s a hs ha => by
      cases hs
      cases ha
      exact ⟨hthere, hnone⟩
  obtain ⟨_, _, -, -, hload⟩ := (bad_rules_as_missing.1 _ _ hthere).2 hnone
  exact ⟨by rw [hload], halike.result.symm, halike.outputs.1.symm⟩

end DdlToJava

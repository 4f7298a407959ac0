import DdlToJava.Run.Command
import DdlToJava.Proofs.Files.Tree
import DdlToJava.Proofs.Run.Execution

/-!
# Loading the rules

Loading asks whether there is something at a path, and that question can fail.  Whatever comes
after it does not: a file that is not there, that cannot be read or that holds no rules leaves the
built-in rules and one notice.

* `present`             whether something is there, by what is told of a path;
* `loadRules_eq`        on any host, nothing but the question whether there is a file can fail;
* `Machine.rulesAt?`, `Machine.HoldsRules`
                        the rules in the file at a path;
* `Machine.remark?`     what is said of it;
* `execute_loadRules`, `execute_loadRules_ok`
                        loading on a machine, and its three outcomes `execute_loadRules_good`,
                        `execute_loadRules_bad` and `execute_loadRules_missing`;
* `loadRules_fails_iff` loading fails exactly where the question does.
-/

namespace DdlToJava

open Files Host Text

/-! ## on any host -/

/-- is something there, by what is told of a path?  A cause that does not say so leaves it open. -/
def present : Except Cause Bool → Except Cause Bool
  | .ok _ => .ok true
  | .error cause => if cause.isAbsence then .ok false else .error cause

/-- the text in what was read of a file -/
def textOf : Except Cause (List UInt8) → Except TextFault (List Char)
  | .error cause => .error (.file cause)
  | .ok bytes =>
    match Utf8.decode bytes with
    | .error fault => .error (.bytes fault)
    | .ok cs => .ok (unifyLineEnds cs)

section
variable {m : Type → Type} [Monad m] [Host m]

/-- print a notice, if it prints -/
def tell (n : Notice) : m Unit :=
  match n.line with
  | .ok text => say text
  | .error _ => pure ()

/-- the built-in rules, and a notice -/
def builtIn (n : Notice) : m Rules := do
  tell n
  pure {}

/-- the rules in what was read of a file -/
def rulesRead (p : Path) (r : Except Cause (List UInt8)) : m Rules :=
  match rulesOfText (textOf r) with
  | .ok rules => pure rules
  | .error fault => do builtIn (.configInvalid p (← explain p fault))

/-- the rules from a path, once it is known whether something is there -/
def rulesFrom (p : Path) : Bool → m Rules
  | false => builtIn (.configMissing p)
  | true => do rulesRead p (← readFile p)

theorem announce_eq_lift {n : Notice} (h : ∃ text, n.line = .ok text) :
    (announce n : ExceptT Failure m Unit) = ExceptT.lift (tell n) := by
  obtain ⟨text, htext⟩ := h
  unfold announce tell
  rw [htext]

variable [LawfulMonad m]

theorem lift_builtIn {n : Notice} (h : ∃ text, n.line = .ok text) :
    (ExceptT.lift (builtIn n) : ExceptT Failure m Rules) =
      announce n >>= fun _ => pure {} := by
  unfold builtIn
  rw [ExceptT.lift_bind, ExceptT.lift_pure, announce_eq_lift h]

theorem readText_eq_lift {p : Path} (h : p.hasNul = false) :
    (readText p : ExceptT Failure m _) =
      ExceptT.lift (readFile p >>= fun r => pure (textOf r)) := by
  unfold readText checkPath
  rw [h, ExceptT.lift_bind]
  show (pure () >>= fun _ => _) = _
  rw [pure_bind]
  congr 1
  funext r
  rw [ExceptT.lift_pure]
  cases r with
  | error cause => rfl
  | ok bytes =>
    unfold textOf
    dsimp only
    cases Utf8.decode bytes <;> rfl

/-- what comes after the question cannot fail -/
theorem loadRules_eq_bind {p : Path} (h : p.hasNul = false) :
    (loadRules p : ExceptT Failure m Rules) =
      pathExists p >>= fun there => ExceptT.lift (rulesFrom p there) := by
  unfold loadRules
  congr 1
  funext there
  cases there with
  | false => exact (lift_builtIn (line_configMissing_ok p)).symm
  | true =>
    unfold rulesFrom rulesRead
    rw [if_pos rfl, readText_eq_lift h, ExceptT.lift_bind, ExceptT.lift_bind, bind_assoc]
    congr 1
    funext r
    rw [ExceptT.lift_pure, pure_bind]
    cases rulesOfText (textOf r) with
    | ok rules => exact (ExceptT.lift_pure rules).symm
    | error fault =>
      dsimp only
      rw [ExceptT.lift_bind]
      congr 1
      funext reason
      exact (lift_builtIn (line_configInvalid_ok p reason)).symm

/-- there is never something at a path with a NUL character -/
theorem loadRules_eq_of_hasNul {p : Path} (h : p.hasNul = true) :
    (loadRules p : ExceptT Failure m Rules) = ExceptT.lift (rulesFrom p false) := by
  unfold loadRules pathExists
  rw [if_pos h, pure_bind]
  exact (lift_builtIn (line_configMissing_ok p)).symm

/-- **on any host, loading can fail only at the question whether there is a file** -/
theorem loadRules_eq (p : Path) :
    (loadRules p : ExceptT Failure m Rules) =
      if p.hasNul then ExceptT.lift (rulesFrom p false)
      else ExceptT.lift (isDirectory p) >>= fun r =>
        match present r with
        | .ok there => ExceptT.lift (rulesFrom p there)
        | .error cause => throw (.file cause p) := by
  cases hnul : p.hasNul with
  | true => exact loadRules_eq_of_hasNul hnul
  | false =>
    rw [loadRules_eq_bind hnul, if_neg Bool.false_ne_true]
    unfold pathExists
    rw [hnul, if_neg Bool.false_ne_true, bind_assoc]
    congr 1
    funext r
    cases r with
    | ok isDirectory => exact pure_bind true _
    | error cause =>
      unfold present
      dsimp only
      cases cause.isAbsence with
      | true => exact pure_bind false _
      | false => exact throw_bind _ _

end

/-! ## on a machine -/

namespace Machine

/-- is something at the path? -/
def holds (w : Machine) (p : Path) : Bool := !p.hasNul && (w.tree.stat w.here p).isOk

/-- the file at the path can be read as text, and its text holds the rules -/
def HoldsRules (w : Machine) (p : Path) (rules : Rules) : Prop :=
  ∃ bytes cs, w.tree.read w.here p = .ok bytes ∧ Utf8.decode bytes = .ok cs ∧
    Rules.ofText (String.ofList (unifyLineEnds cs)) = .ok rules

/-- the rules in the file at a path, or why it holds none -/
def rulesIn (w : Machine) (p : Path) : Except RulesFault Rules :=
  rulesOfText (textOf (w.tree.read w.here p))

/-- the rules in the file at a path, if there is a file and it holds rules -/
def rulesAt? (w : Machine) (p : Path) : Option Rules :=
  if w.holds p then (w.rulesIn p).toOption else none

/-- what is said of the rules at a path -/
def remark? (w : Machine) (p : Path) : Option Notice :=
  if w.holds p then
    match w.rulesIn p with
    | .ok _ => none
    | .error fault => some (.configInvalid p (w.explanation p fault))
  else some (.configMissing p)

theorem rulesIn_eq_ok (w : Machine) (p : Path) (rules : Rules) :
    w.rulesIn p = .ok rules ↔ w.HoldsRules p rules := by
  unfold rulesIn HoldsRules
  cases w.tree.read w.here p with
  | error cause => simp [textOf, rulesOfText]
  | ok bytes =>
    unfold textOf
    dsimp only
    cases hcs : Utf8.decode bytes with
    | error fault => simp [rulesOfText, hcs]
    | ok cs => simp [rulesOfText, mapError_eq_ok, hcs]

/-- whatever does not give rules is told of -/
theorem isSome_remark? (w : Machine) (p : Path) :
    (w.remark? p).isSome = true ↔ w.rulesAt? p = none := by
  unfold remark? rulesAt?
  cases w.holds p with
  | false => exact ⟨fun _ => rfl, fun _ => rfl⟩
  | true =>
    rw [if_pos rfl, if_pos rfl]
    cases w.rulesIn p with
    | error fault => exact ⟨fun _ => rfl, fun _ => rfl⟩
    | ok rules => exact ⟨fun h => (Bool.false_ne_true h).elim, fun h => nomatch h⟩

end Machine

open Machine

section
variable {p : Path} {w : Machine}

theorem execute_readText (hnul : p.hasNul = false) (w : Machine) :
    execute (readText p) w = (.ok (textOf (w.tree.read w.here p)), w) := by
  rw [readText_eq_lift hnul]
  rfl

/-- why it is open whether there is something at the path -/
def Machine.Unclear (w : Machine) (p : Path) (cause : Cause) : Prop :=
  p.hasNul = false ∧ w.tree.stat w.here p = .error cause ∧ cause.isAbsence = false

theorem execute_pathExists (h : ∀ cause, ¬ w.Unclear p cause) :
    execute (pathExists p) w = (.ok (w.holds p), w) := by
  unfold pathExists Machine.holds
  cases hnul : p.hasNul with
  | true => rfl
  | false =>
    rw [if_neg Bool.false_ne_true, execute_bind_ok (execute_isDirectory p w)]
    cases hstat : w.tree.stat w.here p with
    | ok e => rfl
    | error cause =>
      have habsent : cause.isAbsence = true := by
        by_contra hpresent
        exact h cause ⟨hnul, hstat, Bool.eq_false_iff.mpr hpresent⟩
      show execute (if cause.isAbsence = true then _ else _) w = _
      rw [if_pos habsent]
      rfl

theorem execute_pathExists_unclear {cause : Cause} (h : w.Unclear p cause) :
    execute (pathExists p) w = (.error (.file cause p), w) := by
  obtain ⟨hnul, hstat, hpresent⟩ := h
  unfold pathExists
  rw [hnul, if_neg Bool.false_ne_true, execute_bind_ok (execute_isDirectory p w), hstat]
  show execute (if cause.isAbsence = true then _ else _) w = _
  rw [hpresent, if_neg Bool.false_ne_true]
  rfl

theorem pathExists_eq_ok_iff {there : Bool} :
    (execute (pathExists p) w).1 = .ok there ↔
      (∀ cause, ¬ w.Unclear p cause) ∧ w.holds p = there := by
  by_cases h : ∀ cause, ¬ w.Unclear p cause
  · rw [execute_pathExists h]
    simp [h]
  · rw [not_forall_not] at h
    obtain ⟨cause, hcause⟩ := h
    rw [execute_pathExists_unclear hcause]
    exact ⟨nofun, fun h => absurd hcause (h.1 cause)⟩

theorem execute_tell {n : Notice} {text : String} (h : n.line = .ok text) (w : Machine) :
    execute (ExceptT.lift (tell n)) w = (.ok (), w.saying text) := by
  unfold tell
  rw [h]
  rfl

theorem execute_builtIn {n : Notice} (h : ∃ text, n.line = .ok text) (w : Machine) :
    ∃ text, Notice.lines [n] = .ok text ∧
      execute (ExceptT.lift (builtIn n)) w = (.ok {}, w.saying text) := by
  obtain ⟨text, htext⟩ := h
  refine ⟨text, (lines_singleton n).trans htext, ?_⟩
  unfold builtIn
  rw [ExceptT.lift_bind, execute_bind_ok (execute_tell htext w)]
  rfl

theorem execute_rulesRead_ok {rules : Rules} (h : w.rulesIn p = .ok rules) :
    execute (ExceptT.lift (rulesRead p (w.tree.read w.here p))) w = (.ok rules, w) := by
  change rulesOfText _ = _ at h
  unfold rulesRead
  rw [h]
  rfl

theorem execute_rulesRead_error {fault : RulesFault} (h : w.rulesIn p = .error fault) :
    execute (ExceptT.lift (rulesRead p (w.tree.read w.here p))) w =
      execute (ExceptT.lift (builtIn (.configInvalid p (w.explanation p fault)))) w := by
  change rulesOfText _ = _ at h
  have hexplain : execute (ExceptT.lift (explain p fault)) w = (.ok (w.explanation p fault), w) :=
    rfl
  unfold rulesRead
  rw [h]
  dsimp only
  rw [ExceptT.lift_bind, execute_bind_ok hexplain]

/-- what comes after the question gives the rules of the file, or the built-in rules and a notice -/
theorem execute_rulesFrom (p : Path) (w : Machine) :
    ∃ text, Notice.lines (w.remark? p).toList = .ok text ∧
      execute (ExceptT.lift (rulesFrom p (w.holds p))) w =
        (.ok ((w.rulesAt? p).getD {}), w.saying text) := by
  unfold Machine.remark? Machine.rulesAt? rulesFrom
  cases w.holds p with
  | false => exact execute_builtIn (line_configMissing_ok p) w
  | true =>
    rw [if_pos rfl, if_pos rfl, ExceptT.lift_bind, execute_bind_ok (execute_readFile p w)]
    cases hin : w.rulesIn p with
    | error fault =>
      rw [execute_rulesRead_error hin]
      exact execute_builtIn (line_configInvalid_ok p _) w
    | ok rules =>
      rw [execute_rulesRead_ok hin]
      refine ⟨"", rfl, ?_⟩
      rw [saying_empty]
      rfl

/-- the rules of the file, or the built-in rules and one notice -/
theorem execute_loadRules (h : ∀ cause, ¬ w.Unclear p cause) :
    ∃ text, Notice.lines (w.remark? p).toList = .ok text ∧
      execute (loadRules p) w = (.ok ((w.rulesAt? p).getD {}), w.saying text) := by
  have hfrom : execute (loadRules p) w = execute (ExceptT.lift (rulesFrom p (w.holds p))) w := by
    cases hnul : p.hasNul with
    | true =>
      have hholds : w.holds p = false := by
        unfold Machine.holds
        rw [hnul]
        rfl
      rw [loadRules_eq_of_hasNul hnul, hholds]
    | false => rw [loadRules_eq_bind hnul, execute_bind_ok (execute_pathExists h)]
  rw [hfrom]
  exact execute_rulesFrom p w

/-- a file with rules is loaded in silence -/
theorem execute_loadRules_good (h : (execute (pathExists p) w).1 = .ok true) {rules : Rules}
    (hrules : w.HoldsRules p rules) : execute (loadRules p) w = (.ok rules, w) := by
  obtain ⟨hclear, hholds⟩ := pathExists_eq_ok_iff.mp h
  obtain ⟨text, htext, hrun⟩ := execute_loadRules hclear
  have hin : w.rulesIn p = .ok rules := (rulesIn_eq_ok w p rules).mpr hrules
  unfold Machine.remark? at htext
  unfold Machine.rulesAt? at hrun
  rw [if_pos hholds, hin] at htext hrun
  cases htext
  rw [hrun, saying_empty]
  rfl

/-- a file without rules leaves the built-in ones -/
theorem execute_loadRules_bad (h : (execute (pathExists p) w).1 = .ok true)
    (hrules : ∀ rules, ¬ w.HoldsRules p rules) :
    ∃ fault line, w.rulesIn p = .error fault ∧
      (Notice.configInvalid p (w.explanation p fault)).line = .ok line ∧
      execute (loadRules p) w = (.ok {}, w.saying line) := by
  obtain ⟨hclear, hholds⟩ := pathExists_eq_ok_iff.mp h
  obtain ⟨text, htext, hrun⟩ := execute_loadRules hclear
  cases hin : w.rulesIn p with
  | ok rules => exact absurd ((rulesIn_eq_ok w p rules).mp hin) (hrules rules)
  | error fault =>
    unfold Machine.remark? at htext
    unfold Machine.rulesAt? at hrun
    rw [if_pos hholds, hin] at htext hrun
    exact ⟨fault, text, rfl, (lines_singleton _).symm.trans htext, hrun⟩

/-- no file leaves the built-in rules -/
theorem execute_loadRules_missing (h : (execute (pathExists p) w).1 = .ok false) :
    ∃ line, (Notice.configMissing p).line = .ok line ∧
      execute (loadRules p) w = (.ok {}, w.saying line) := by
  obtain ⟨hclear, hholds⟩ := pathExists_eq_ok_iff.mp h
  obtain ⟨text, htext, hrun⟩ := execute_loadRules hclear
  unfold Machine.remark? at htext
  unfold Machine.rulesAt? at hrun
  rw [hholds, if_neg Bool.false_ne_true] at htext hrun
  exact ⟨text, (lines_singleton _).symm.trans htext, hrun⟩

theorem execute_loadRules_unclear {cause : Cause} (h : w.Unclear p cause) :
    execute (loadRules p) w = (.error (.file cause p), w) := by
  rw [loadRules_eq_bind h.1, execute_bind_error (execute_pathExists_unclear h)]

/-- loading that gives rules, those of the file or the built-in ones -/
theorem execute_loadRules_ok {rules : Rules} (h : (execute (loadRules p) w).1 = .ok rules) :
    ∃ text, Notice.lines (w.remark? p).toList = .ok text ∧
      execute (loadRules p) w = (.ok rules, w.saying text) := by
  by_cases hclear : ∀ cause, ¬ w.Unclear p cause
  · obtain ⟨text, htext, hrun⟩ := execute_loadRules hclear
    rw [hrun] at h ⊢
    exact ⟨text, htext, Prod.ext h rfl⟩
  · rw [not_forall_not] at hclear
    obtain ⟨cause, hcause⟩ := hclear
    rw [execute_loadRules_unclear hcause] at h
    cases h

end

/-- **Loading fails exactly where it is open whether there is a file.**  On any host nothing else of
it can fail, and what follows is `rulesFrom`: the rules of the file, or the built-in ones and a
notice.  On a machine, a path that is told of or that is absent gives rules, those of its file or
else the built-in ones, and one notice if they are built in. -/
theorem loadRules_fails_iff (p : Path) :
    (∀ (m : Type → Type) [Monad m] [LawfulMonad m] [Host m],
      (loadRules p : ExceptT Failure m Rules) =
        if p.hasNul then ExceptT.lift (rulesFrom p false)
        else ExceptT.lift (isDirectory p) >>= fun r =>
          match present r with
          | .ok there => ExceptT.lift (rulesFrom p there)
          | .error cause => throw (.file cause p)) ∧
    ∀ w : Machine,
      ((∃ e, (execute (loadRules p) w).1 = .error e) ↔ ∃ cause, w.Unclear p cause) ∧
      (∀ cause, w.Unclear p cause → execute (loadRules p) w = (.error (.file cause p), w)) ∧
      ((∀ cause, ¬ w.Unclear p cause) →
        ((w.remark? p).isSome = true ↔ w.rulesAt? p = none) ∧
        ∃ text, Notice.lines (w.remark? p).toList = .ok text ∧
          execute (loadRules p) w = (.ok ((w.rulesAt? p).getD {}), w.saying text)) := by
  refine ⟨fun m _ _ _ => loadRules_eq p, fun w => ⟨⟨?_, ?_⟩,
    fun cause => execute_loadRules_unclear,
    fun h => ⟨isSome_remark? w p, execute_loadRules h⟩⟩⟩
  · rintro ⟨e, he⟩
    by_contra hnone
    rw [not_exists] at hnone
    obtain ⟨text, -, hrun⟩ := execute_loadRules hnone
    rw [hrun] at he
    cases he
  · rintro ⟨cause, hcause⟩
    exact ⟨_, congrArg Prod.fst (execute_loadRules_unclear hcause)⟩

/-- the refusal of what is not permitted -/
def notPermitted : Refusal := ⟨.denied, by decide⟩

/-- a machine with a directory that may not be searched -/
def lockedMachine : Machine where
  tree := { entries := [(["d"], .directory)], refusals := [((.search, ["d"]), notPermitted)] }

/-- a name of 300 characters ends the run, and so does one in a directory that may not be searched;
one that is merely absent does not -/
theorem loadRules_fails_iff_names :
    (∃ p, (execute (loadRules p) {}).1 = .error (.file .nameTooLong p)) ∧
    (execute (loadRules { names := ["d", "c.json"] }) lockedMachine).1 =
      .error (.file .denied { names := ["d", "c.json"] }) ∧
    (execute (loadRules { names := ["a"] }) {}).1 = .ok {} := by
  refine ⟨⟨{ names := [String.ofList (List.replicate 300 'a')] }, ?_⟩, ?_, ?_⟩
  · have hnul : ({ names := [String.ofList (List.replicate 300 'a')] } : Path).hasNul = false := by
      unfold Path.hasNul
      rw [List.any_cons, String.toList_ofList]
      decide +kernel
    have hlong : ({} : Machine).Unclear { names := [String.ofList (List.replicate 300 'a')] }
        .nameTooLong := ⟨hnul, by decide +kernel, rfl⟩
    rw [((loadRules_fails_iff _).2 {}).2.1 _ hlong]
  · have hlocked : lockedMachine.Unclear { names := ["d", "c.json"] } .denied :=
      ⟨by decide, by decide +kernel, rfl⟩
    rw [((loadRules_fails_iff _).2 lockedMachine).2.1 _ hlocked]
  · have hclear : ∀ cause, ¬ ({} : Machine).Unclear { names := ["a"] } cause := by
      rintro cause ⟨-, hstat, hpresent⟩
      cases hstat
      cases hpresent
    obtain ⟨-, text, -, hrun⟩ := ((loadRules_fails_iff { names := ["a"] }).2 {}).2.2 hclear
    rw [hrun]
    rfl

end DdlToJava

import DdlToJava.Run.Command
import DdlToJava.Run.Machine

/-!
# Kinds of runs

`IsEffect P` says that `P` is a kind of run that is closed under ending at once and under going on
with another run.  So what holds of the single operations of a host holds of all that a run makes
of them.

* `readText`, `pathExists`, `loadSettings`   reading, for what reads and looks;
* `ensureDirectory`, `store`                 files, for what looks, makes and writes;
* `announce`, `loadRules`, `chooseTarget`    talking, for what says something and asks;
* `deliver`, `generate`                      delivering, if storing files is of the kind where
                                             files are asked for.
-/

namespace DdlToJava

/-! ## steps on any host -/

section
variable {m : Type → Type} [Monad m] [LawfulMonad m]

theorem throw_bind {α β : Type} (e : Failure) (f : α → ExceptT Failure m β) :
    (throw e >>= f : ExceptT Failure m β) = throw e := by
  show (pure (Except.error e) >>= ExceptT.bindCont f : m (Except Failure β)) = _
  rw [pure_bind]
  rfl

theorem then_pure_bind {α β γ : Type} (x : ExceptT Failure m α) (b : β)
    (f : β → ExceptT Failure m γ) : ((x >>= fun _ => pure b) >>= f) = x >>= fun _ => f b := by
  rw [bind_assoc]
  exact bind_congr fun _ => pure_bind b f

end

end DdlToJava

namespace DdlToJava.Machine

open Files Host

/-- a kind of run that runs stay in when they end at once or go on with another one -/
structure IsEffect (P : (α : Type) → ExceptT Failure (StateM Machine) α → Prop) : Prop where
  pure : ∀ {α : Type} (a : α), P α (pure a)
  throw : ∀ {α : Type} (e : Failure), P α (throw e)
  bind : ∀ {α β : Type} {x : ExceptT Failure (StateM Machine) α}
    {f : α → ExceptT Failure (StateM Machine) β}, P α x → (∀ a, P β (f a)) → P β (x >>= f)

namespace IsEffect

variable {α β : Type} {P : (α : Type) → ExceptT Failure (StateM Machine) α → Prop}
  (hP : IsEffect P)
include hP

/-! ## operations one after the other -/

theorem lift_pure (a : α) : P α (ExceptT.lift (Pure.pure a)) := by
  rw [ExceptT.lift_pure]
  exact hP.pure a

theorem lift_bind {x : StateM Machine α} {f : α → StateM Machine β} (hx : P α (ExceptT.lift x))
    (hf : ∀ a, P β (ExceptT.lift (f a))) : P β (ExceptT.lift (x >>= f)) := by
  rw [ExceptT.lift_bind]
  exact hP.bind hx hf

/-! ## reading -/

theorem checkPath (p : Path) : P Unit (checkPath p) := by
  unfold Host.checkPath
  split
  · exact hP.throw .nulInPath
  · exact hP.pure ()

theorem readText (hread : ∀ p, P _ (ExceptT.lift (readFile p))) (p : Path) :
    P _ (readText p) := by
  unfold Host.readText
  refine hP.bind (hP.checkPath p) fun _ => hP.bind (hread p) fun r => ?_
  cases r with
  | error cause => exact hP.pure _
  | ok bytes =>
    dsimp only
    split
    · exact hP.pure _
    · exact hP.pure _

theorem readInput (hread : ∀ p, P _ (ExceptT.lift (readFile p))) (p : Path) :
    P _ (readInput p) := by
  unfold DdlToJava.readInput
  refine hP.bind (hP.readText hread p) fun r => ?_
  split
  · exact hP.pure _
  · exact hP.throw _

theorem pathExists (hdirectory : ∀ p, P _ (ExceptT.lift (isDirectory p))) (p : Path) :
    P _ (pathExists p) := by
  unfold DdlToJava.pathExists
  split
  · exact hP.pure _
  · refine hP.bind (hdirectory p) fun r => ?_
    cases r with
    | ok isDirectory => exact hP.pure _
    | error cause =>
      dsimp only
      split
      · exact hP.pure _
      · exact hP.throw _

theorem loadSettings (henvironment : P _ (ExceptT.lift Host.environment))
    (hdirectory : ∀ p, P _ (ExceptT.lift (isDirectory p)))
    (hread : ∀ p, P _ (ExceptT.lift (readFile p))) : P _ loadSettings := by
  unfold DdlToJava.loadSettings
  refine hP.bind henvironment fun env => hP.bind (hdirectory _) fun r => ?_
  split
  · refine hP.bind (hP.readText hread _) fun r => ?_
    split
    · exact hP.pure _
    · exact hP.throw _
    · exact hP.throw _
  · exact hP.pure _
  · split
    · exact hP.pure _
    · exact hP.throw _

/-! ## files -/

theorem writeText (hwrite : ∀ p bytes, P _ (ExceptT.lift (writeFile p bytes))) (p : Path)
    (text : String) : P Unit (writeText p text) := by
  unfold Host.writeText
  refine hP.bind (hP.checkPath p) fun _ => hP.bind (hwrite p _) fun r => ?_
  cases r with
  | error fault => cases fault <;> exact hP.throw _
  | ok u => exact hP.pure ()

theorem writeAll (hwrite : ∀ p bytes, P _ (ExceptT.lift (writeFile p bytes))) (base : Path)
    (as : List Artifact) : P Unit (writeAll base as) := by
  induction as with
  | nil => exact hP.pure ()
  | cons a as ih => exact hP.bind (hP.writeText hwrite (a.path base) a.body) fun _ => ih

section
variable (hdirectory : ∀ p, P _ (ExceptT.lift (isDirectory p)))
include hdirectory

theorem acceptDirectory (cause : Cause) (p : Path) : P Unit (acceptDirectory cause p) := by
  unfold Host.acceptDirectory
  refine hP.bind (hdirectory p) fun r => ?_
  split
  · exact hP.pure ()
  · exact hP.throw _
  · exact hP.throw _

theorem ensureDirectory (hmake : ∀ p, P _ (ExceptT.lift (makeDir p))) (fuel : Nat) (p : Path) :
    P Unit (ensureDirectory fuel p) := by
  induction fuel generalizing p with
  | zero =>
    unfold Host.ensureDirectory
    refine hP.bind (hP.checkPath p) fun _ => hP.bind (hmake p) fun r => ?_
    split
    · exact hP.pure ()
    · exact hP.throw _
    · exact hP.acceptDirectory hdirectory _ p
  | succ fuel ih =>
    unfold Host.ensureDirectory
    refine hP.bind (hP.checkPath p) fun _ => hP.bind (hmake p) fun r => ?_
    split
    · exact hP.pure ()
    · show P _ (if p.parent = p then _ else _)
      split
      · exact hP.throw _
      · refine hP.bind (ih p.parent) fun _ => hP.bind (hmake p) fun r => ?_
        split
        · exact hP.pure ()
        · exact hP.throw _
        · exact hP.acceptDirectory hdirectory _ p
    · exact hP.acceptDirectory hdirectory _ p

theorem store (hmake : ∀ p, P _ (ExceptT.lift (makeDir p)))
    (hwrite : ∀ p bytes, P _ (ExceptT.lift (writeFile p bytes))) (base : Path)
    (as : List Artifact) : P _ (store base as) := by
  unfold DdlToJava.store
  exact hP.bind (hP.ensureDirectory hdirectory hmake _ base) fun _ =>
    hP.bind (hP.writeAll hwrite base as) fun _ => hP.pure _

end

/-! ## talking -/

section
variable (hsay : ∀ text, P _ (ExceptT.lift (say text)))
include hsay

theorem announce (n : Notice) : P _ (announce n) := by
  unfold Host.announce
  split
  · exact hsay _
  · exact hP.throw _

theorem announceAll (ns : List Notice) : P _ (announceAll ns) := by
  induction ns with
  | nil => exact hP.pure ()
  | cons n ns ih => exact hP.bind (hP.announce hsay n) fun _ => ih

theorem loadRules (hdirectory : ∀ p, P _ (ExceptT.lift (isDirectory p)))
    (hread : ∀ p, P _ (ExceptT.lift (readFile p)))
    (hexplain : ∀ p fault, P _ (ExceptT.lift (explain p fault))) (p : Path) :
    P _ (loadRules p) := by
  unfold DdlToJava.loadRules
  refine hP.bind (hP.pathExists hdirectory p) fun present => ?_
  split
  · refine hP.bind (hP.readText hread p) fun r => ?_
    split
    · exact hP.pure _
    · exact hP.bind (hexplain p _) fun _ =>
        hP.bind (hP.announce hsay _) fun _ => hP.pure _
  · exact hP.bind (hP.announce hsay _) fun _ => hP.pure _

theorem askAtMost (hline : P _ (ExceptT.lift readLine)) (fuel : Nat) :
    P _ (ExceptT.lift (askAtMost fuel)) := by
  induction fuel with
  | zero => exact hP.lift_pure none
  | succ fuel ih =>
    unfold DdlToJava.askAtMost
    refine hP.lift_bind (hsay _) fun _ => hP.lift_bind hline fun answer => ?_
    cases answer with
    | none => exact hP.lift_pure none
    | some line =>
      dsimp only
      split
      · exact hP.lift_pure _
      · exact hP.lift_bind (hsay _) fun _ => ih

theorem chooseTarget (hline : P _ (ExceptT.lift readLine)) (hbound : P _ (ExceptT.lift lineBound))
    (a : Arguments) : P _ (chooseTarget a) := by
  unfold DdlToJava.chooseTarget
  split
  · exact hP.pure _
  · exact hP.lift_bind hbound (hP.askAtMost hsay hline)

/-! ## delivering -/

theorem deliver (hcopy : ∀ text, P _ (ExceptT.lift (copy text)))
    (hprint : ∀ text, P _ (ExceptT.lift (Host.print text))) {base : Path} {target : Target}
    (as : List Artifact) (hstore : target = .file → P _ (DdlToJava.store base as)) :
    P _ (deliver base target as) := by
  have hprintLine : ∀ text, P _ (printLine text) := fun text => hprint _
  unfold DdlToJava.deliver
  cases target with
  | file => exact hP.bind (hstore rfl) fun paths => hP.announceAll hsay _
  | clipboard =>
    refine hP.bind (hcopy _) fun r => ?_
    cases r with
    | ok u => exact hP.announce hsay _
    | error reason => exact hP.bind (hP.announce hsay _) fun _ => hprintLine _
  | stdout => exact hprintLine _

theorem generate (hcopy : ∀ text, P _ (ExceptT.lift (copy text)))
    (hprint : ∀ text, P _ (ExceptT.lift (Host.print text))) {rules : Rules} {settings : Settings}
    {outDir : Option Path} {target : Target}
    (hstore : target = .file → ∀ base as, P _ (DdlToJava.store base as)) (ddl : String) :
    P _ (generate rules settings outDir target ddl) := by
  unfold DdlToJava.generate
  split
  · exact hP.throw _
  · refine hP.bind (hP.announceAll hsay _) fun _ => ?_
    exact hP.bind (hP.deliver hsay hcopy hprint _ fun h => hstore h _ _) fun _ => hP.pure _

end

end IsEffect

end DdlToJava.Machine

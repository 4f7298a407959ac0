import DdlToJava.Proofs.Files.Footprint
import DdlToJava.Proofs.Run.Execution
import Mathlib.Order.Defs.Unbundled

/-!
# What a run keeps

`Keeps R x` says that the run `x` leads from every machine to one that stands in the relation `R`
to it, also when the run ends in a failure.  For a preorder `R` such runs are closed under going on
with another one (`Keeps.isEffect`).  Three relations are of use here:

* equality: reading files and the environment (`keeps_readText`, `keeps_loadSettings`);
* `Untouched`: everything that a run does before it writes (`keeps_loadRules`,
  `keeps_chooseTarget`), and every generation that is not one of files (`keeps_generate`);
* `Beside own`: making a directory (`keeps_ensureDirectory`), and any generation
  (`beside_generate`).
-/

namespace DdlToJava.Machine

open Files Host

variable {α β : Type} {R S : Machine → Machine → Prop}

/-- every machine stands in the relation to the one that the run leaves of it -/
def Keeps (R : Machine → Machine → Prop) (x : ExceptT Failure (StateM Machine) α) : Prop :=
  ∀ w, R w (execute x w).2

theorem Keeps.mono {x : ExceptT Failure (StateM Machine) α} (h : Keeps R x)
    (hRS : ∀ w w', R w w' → S w w') : Keeps S x :=
  fun w => hRS _ _ (h w)

section
variable [IsPreorder Machine R]

theorem Keeps.pure (a : α) : Keeps R (pure a) := fun w => refl_of R w

theorem Keeps.throw (e : Failure) : Keeps R (throw e : ExceptT Failure (StateM Machine) α) :=
  fun w => refl_of R w

theorem Keeps.bind {x : ExceptT Failure (StateM Machine) α}
    {f : α → ExceptT Failure (StateM Machine) β} (hx : Keeps R x) (hf : ∀ a, Keeps R (f a)) :
    Keeps R (x >>= f) := by
  intro w
  have hfirst := hx w
  rw [execute_bind]
  revert hfirst
  obtain ⟨r, w'⟩ := execute x w
  intro hfirst
  cases r with
  | error e => exact hfirst
  | ok a => exact trans_of R hfirst (hf a w')

theorem Keeps.isEffect : IsEffect fun _ => Keeps R :=
  ⟨Keeps.pure, Keeps.throw, Keeps.bind⟩

/-- a run that leaves every machine as it is -/
theorem Keeps.of_eq {x : ExceptT Failure (StateM Machine) α} (h : Keeps Eq x) : Keeps R x := by
  refine h.mono fun w w' heq => ?_
  rw [← heq]
  exact refl_of R w

end

/-! ## reading -/

theorem keeps_isDirectory (p : Path) : Keeps Eq (ExceptT.lift (Host.isDirectory p)) :=
  fun _ => rfl

theorem keeps_readFile (p : Path) : Keeps Eq (ExceptT.lift (Host.readFile p)) := fun _ => rfl

theorem keeps_environment : Keeps Eq (ExceptT.lift Host.environment) := fun _ => rfl

theorem keeps_readText (p : Path) : Keeps Eq (readText p) :=
  Keeps.isEffect.readText keeps_readFile p

theorem keeps_readInput (p : Path) : Keeps Eq (readInput p) :=
  Keeps.isEffect.readInput keeps_readFile p

theorem keeps_loadSettings : Keeps Eq loadSettings :=
  Keeps.isEffect.loadSettings keeps_environment keeps_isDirectory keeps_readFile

/-! ## talking -/

/-- the two machines have the same files, and work in the same directory -/
structure Untouched (w w' : Machine) : Prop where
  tree : w'.tree = w.tree
  here : w'.here = w.here

instance : IsPreorder Machine Untouched where
  refl _ := ⟨rfl, rfl⟩
  trans _ _ _ h h' := ⟨h'.tree.trans h.tree, h'.here.trans h.here⟩

theorem keeps_say (text : String) : Keeps Untouched (ExceptT.lift (Host.say text)) :=
  fun _ => ⟨rfl, rfl⟩

theorem keeps_readLine : Keeps Untouched (ExceptT.lift Host.readLine) := by
  intro w
  rw [execute_readLine]
  exact ⟨rfl, rfl⟩

theorem keeps_copy (text : String) : Keeps Untouched (ExceptT.lift (Host.copy text)) := by
  intro w
  cases h : w.clipboardFault with
  | none =>
    rw [execute_copy_ok h]
    exact ⟨rfl, rfl⟩
  | some reason =>
    rw [execute_copy_error h]
    exact ⟨rfl, rfl⟩

theorem keeps_announce (n : Notice) : Keeps Untouched (announce n) :=
  Keeps.isEffect.announce keeps_say n

theorem keeps_chooseTarget (a : Arguments) : Keeps Untouched (chooseTarget a) :=
  Keeps.isEffect.chooseTarget keeps_say keeps_readLine (fun _ => ⟨rfl, rfl⟩) a

theorem keeps_loadRules (p : Path) : Keeps Untouched (loadRules p) :=
  Keeps.isEffect.loadRules keeps_say (fun p => (keeps_isDirectory p).of_eq)
    (fun p => (keeps_readFile p).of_eq) (fun _ _ _ => ⟨rfl, rfl⟩) p

/-- only a generation of files touches one -/
theorem keeps_generate {rules : Rules} {settings : Settings} {outDir : Option Path}
    {target : Target} (ddl : String) (h : target ≠ .file) :
    Keeps Untouched (generate rules settings outDir target ddl) :=
  Keeps.isEffect.generate keeps_say keeps_copy (fun _ _ => ⟨rfl, rfl⟩) (fun heq => absurd heq h) ddl

/-! ## making directories -/

/-- the second machine works in the same directory, and its tree has the footprint -/
structure Beside (own : Place → List UInt8 → Prop) (w w' : Machine) : Prop where
  footprint : Tree.Footprint own w.tree w'.tree
  here : w'.here = w.here

instance {own : Place → List UInt8 → Prop} : IsPreorder Machine (Beside own) where
  refl _ := ⟨.refl _, rfl⟩
  trans _ _ _ h h' := ⟨h.footprint.trans h'.footprint, h'.here.trans h.here⟩

variable {own : Place → List UInt8 → Prop}

theorem keeps_change {ε : Type} {f : Tree → Place → Except ε Unit × Tree}
    (h : ∀ t here, Tree.Footprint own t (f t here).2) :
    Keeps (Beside own) (ExceptT.lift (change f)) :=
  fun _ => ⟨h _ _, rfl⟩

theorem keeps_makeDir (p : Path) : Keeps (Beside own) (ExceptT.lift (Host.makeDir p)) :=
  keeps_change fun t here => Tree.footprint_makeDir t here p

theorem keeps_ensureDirectory (fuel : Nat) (p : Path) :
    Keeps (Beside own) (ensureDirectory fuel p) :=
  Keeps.isEffect.ensureDirectory (fun p => (keeps_isDirectory p).of_eq) keeps_makeDir fuel p

/-! ## writing files -/

theorem Untouched.beside {w w' : Machine} (h : Untouched w w') : Beside own w w' :=
  ⟨h.tree ▸ .refl _, h.here⟩

theorem keeps_writeFile (p : Path) (bytes : List UInt8) :
    Keeps (Beside Tree.AnyFile) (ExceptT.lift (Host.writeFile p bytes)) :=
  keeps_change fun t here => (Tree.footprint_write t here p bytes).mono fun _ _ _ => trivial

/-- a generation takes nothing away -/
theorem beside_generate (rules : Rules) (settings : Settings) (outDir : Option Path)
    (target : Target) (ddl : String) :
    Keeps (Beside Tree.AnyFile) (generate rules settings outDir target ddl) :=
  Keeps.isEffect.generate (fun text => (keeps_say text).mono fun _ _ => Untouched.beside)
    (fun text => (keeps_copy text).mono fun _ _ => Untouched.beside)
    (fun _ _ => ⟨.refl _, rfl⟩)
    (fun _ base as => Keeps.isEffect.store (fun p => (keeps_isDirectory p).of_eq) keeps_makeDir
      keeps_writeFile base as) ddl

end DdlToJava.Machine

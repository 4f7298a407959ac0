import DdlToJava.Proofs.Run.Execution

/-!
# What a run ignores

A run ignores a change of the machine if it ends alike before and after the change, and leaves two
machines that differ by that change again.  Such runs are closed under going on with another one,
so it is told of the operations of the host only.

* `Ignores f x`           the run `x` ignores the change `f`;
* `IgnoresAt f w x`       it does so on the machine `w`;
* `ignores_generate`      generating ignores what is left of the input;
* `ignores_loadSettings`, `ignores_loadRules`, `ignores_readText`
                          loading and reading ignore the clipboard, too;
* `ignores_announceAll`, `ignores_chooseTarget`
                          talking ignores the files.
-/

namespace DdlToJava.Machine

open Files Host

variable {α β : Type} {f : Machine → Machine} {w : Machine}

/-- the run ends alike on the changed machine, and leaves the changed one of what it leaves -/
def IgnoresAt (f : Machine → Machine) (w : Machine) (x : ExceptT Failure (StateM Machine) α) :
    Prop :=
  execute x (f w) = ((execute x w).1, f (execute x w).2)

/-- the run ignores the change on every machine -/
def Ignores (f : Machine → Machine) (x : ExceptT Failure (StateM Machine) α) : Prop :=
  ∀ w, IgnoresAt f w x

/-- only what comes after a first run that ends well has to ignore the change -/
theorem IgnoresAt.bind {x : ExceptT Failure (StateM Machine) α}
    {g : α → ExceptT Failure (StateM Machine) β} (hx : IgnoresAt f w x)
    (hg : ∀ a w₁, execute x w = (.ok a, w₁) → IgnoresAt f w₁ (g a)) : IgnoresAt f w (x >>= g) := by
  unfold IgnoresAt at hx ⊢
  cases hw : execute x w with
  | mk r w₁ =>
    rw [hw] at hx
    cases r with
    | error e => rw [execute_bind_error hw, execute_bind_error hx]
    | ok a =>
      rw [execute_bind_ok hw, execute_bind_ok hx]
      exact hg a w₁ hw

theorem Ignores.isEffect (f : Machine → Machine) : IsEffect fun _ => Ignores f where
  pure _ := fun _ => rfl
  throw _ := fun _ => rfl
  bind hx hg := fun w => (hx w).bind fun a w₁ _ => hg a w₁

/-! ## the input -/

/-- the machine with other lines to read -/
def withInput (input : List String) (w : Machine) : Machine := { w with input := input }

theorem ignores_change {ε : Type} (input : List String)
    (f : Tree → Place → Except ε Unit × Tree) :
    Ignores (withInput input) (ExceptT.lift (change f)) := fun _ => rfl

theorem ignores_copy (input : List String) (text : String) :
    Ignores (withInput input) (ExceptT.lift (Host.copy text)) := by
  intro w
  unfold IgnoresAt
  cases h : w.clipboardFault with
  | none =>
    rw [execute_copy_ok h, execute_copy_ok (w := withInput input w) h]
    rfl
  | some reason => rw [execute_copy_error h, execute_copy_error (w := withInput input w) h]

theorem ignores_generate (input : List String) (rules : Rules) (settings : Settings)
    (outDir : Option Path) (target : Target) (ddl : String) :
    Ignores (withInput input) (generate rules settings outDir target ddl) := by
  have h := Ignores.isEffect (withInput input)
  exact h.generate (fun _ _ => rfl) (ignores_copy input) (fun _ _ => rfl)
    (fun _ base as => h.store (fun _ _ => rfl) (fun _ => ignores_change input _)
      (fun _ _ => ignores_change input _) base as) ddl

/-! ## the input and the clipboard -/

section
variable (input : List String) (fault : Option String)

/-- the machine with other lines to read and with a clipboard in another state -/
def withStreams (w : Machine) : Machine := { w with input := input, clipboardFault := fault }

theorem ignores_loadSettings : Ignores (withStreams input fault) loadSettings :=
  (Ignores.isEffect (withStreams input fault)).loadSettings (fun _ => rfl) (fun _ _ => rfl)
    fun _ _ => rfl

theorem ignores_readText (p : Path) : Ignores (withStreams input fault) (readText p) :=
  (Ignores.isEffect (withStreams input fault)).readText (fun _ _ => rfl) p

theorem ignores_loadRules (p : Path) : Ignores (withStreams input fault) (loadRules p) :=
  (Ignores.isEffect (withStreams input fault)).loadRules (fun _ _ => rfl) (fun _ _ => rfl)
    (fun _ _ => rfl) (fun _ _ _ => rfl) p

end

/-! ## the files -/

section
variable (tree : Tree)

/-- the machine with other files -/
def withTree (w : Machine) : Machine := { w with tree := tree }

theorem ignores_announce (n : Notice) : Ignores (withTree tree) (announce n) :=
  (Ignores.isEffect (withTree tree)).announce (fun _ _ => rfl) n

theorem ignores_announceAll (ns : List Notice) : Ignores (withTree tree) (announceAll ns) :=
  (Ignores.isEffect (withTree tree)).announceAll (fun _ _ => rfl) ns

theorem ignores_readLine : Ignores (withTree tree) (ExceptT.lift Host.readLine) := by
  intro w
  unfold IgnoresAt
  rw [execute_readLine, execute_readLine]
  rfl

theorem ignores_chooseTarget (a : Arguments) : Ignores (withTree tree) (chooseTarget a) :=
  (Ignores.isEffect (withTree tree)).chooseTarget (fun _ _ => rfl) (ignores_readLine tree)
    (fun _ => rfl) a

end

end DdlToJava.Machine

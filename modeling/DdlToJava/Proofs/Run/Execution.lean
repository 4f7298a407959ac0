import DdlToJava.Proofs.Console.Layout
import DdlToJava.Proofs.Run.Effect
import DdlToJava.Proofs.Run.Notice
import Mathlib.Tactic.Choose

/-!
# Runs on a machine

A run is carried out step by step: each step leaves a result and a machine, and a failure ends the
run (`execute_bind_ok`, `execute_bind_error`).  What the single operations do is said once.

* `saying`         what a text does that is put on the status console;
* `execute_announceAll`, `execute_announceAll_ok`
                   notices do nothing but put their lines behind what was said;
* `OnFiles x`      the run `x` sees and changes nothing but the file tree.

Runs of the last kind are closed under going on with another one, so the frame is proved once:
files are written alike whatever was said before (`OnFiles.saying`).
-/

namespace DdlToJava.Machine

open Files Host

variable {α β : Type} {w w' w'' : Machine}

/-! ## steps -/

section
variable {x : ExceptT Failure (StateM Machine) α} {f : α → ExceptT Failure (StateM Machine) β}

theorem execute_of_result {r : Except Failure α} (h : (execute x w).1 = r) :
    execute x w = (r, (execute x w).2) :=
  Prod.ext h rfl

theorem execute_bind (w : Machine) :
    execute (x >>= f) w =
      match execute x w with
      | (.ok a, w') => execute (f a) w'
      | (.error e, w') => (.error e, w') := by
  show (ExceptT.bindCont f (execute x w).1).run (execute x w).2 = _
  obtain ⟨r, w'⟩ := execute x w
  cases r with
  | error e => rfl
  | ok a => rfl

theorem execute_bind_ok {a : α} (h : execute x w = (.ok a, w')) :
    execute (x >>= f) w = execute (f a) w' := by
  rw [execute_bind, h]

theorem execute_bind_error {e : Failure} (h : execute x w = (.error e, w')) :
    execute (x >>= f) w = (.error e, w') := by
  rw [execute_bind, h]

/-- a run that ends well has ended well at every step -/
theorem execute_bind_eq_ok {b : β} :
    execute (x >>= f) w = (.ok b, w'') ↔
      ∃ a w', execute x w = (.ok a, w') ∧ execute (f a) w' = (.ok b, w'') := by
  rw [execute_bind]
  obtain ⟨r, w'⟩ := execute x w
  cases r with
  | error e =>
    constructor
    · intro h
      cases h
    · rintro ⟨a, w', h, -⟩
      cases h
  | ok a =>
    constructor
    · intro h
      exact ⟨a, w', rfl, h⟩
    · rintro ⟨a, w', h, hf⟩
      cases h
      exact hf

end

/-! ## single operations -/

theorem execute_isDirectory (p : Path) (w : Machine) :
    execute (ExceptT.lift (isDirectory p)) w =
      (.ok ((w.tree.stat w.here p).map fun e => e = .directory), w) := rfl

theorem execute_readFile (p : Path) (w : Machine) :
    execute (ExceptT.lift (readFile p)) w = (.ok (w.tree.read w.here p), w) := rfl

theorem execute_writeFile (p : Path) (bytes : List UInt8) (w : Machine) :
    execute (ExceptT.lift (writeFile p bytes)) w =
      (.ok (w.tree.write w.here p bytes).1,
        { w with tree := (w.tree.write w.here p bytes).2 }) := rfl

theorem execute_makeDir (p : Path) (w : Machine) :
    execute (ExceptT.lift (makeDir p)) w =
      (.ok (w.tree.makeDir w.here p).1, { w with tree := (w.tree.makeDir w.here p).2 }) := rfl

theorem execute_checkPath {p : Path} (hnul : p.hasNul = false) (w : Machine) :
    execute (checkPath p) w = (.ok (), w) := by
  unfold checkPath
  rw [hnul]
  rfl

theorem execute_readLine (w : Machine) :
    execute (ExceptT.lift readLine) w = (.ok w.input.head?, { w with input := w.input.tail }) := by
  obtain ⟨tree, here, environment, input, fault, explanation, layout, copied, printed, said⟩ := w
  cases input <;> rfl

theorem execute_copy_ok (h : w.clipboardFault = none) (text : String) :
    execute (ExceptT.lift (copy text)) w =
      (.ok (.ok ()), { w with copied := w.copied ++ [text] }) := by
  obtain ⟨tree, here, environment, input, fault, explanation, layout, copied, printed, said⟩ := w
  cases h
  rfl

theorem execute_copy_error {reason : String} (h : w.clipboardFault = some reason) (text : String) :
    execute (ExceptT.lift (copy text)) w = (.ok (.error reason), w) := by
  obtain ⟨tree, here, environment, input, fault, explanation, layout, copied, printed, said⟩ := w
  cases h
  rfl

/-! ## notices -/

/-- the machine with a text put on its status console -/
def saying (text : String) (w : Machine) : Machine :=
  { w with said := w.said ++ w.layout.text text }

theorem execute_say (text : String) (w : Machine) :
    execute (ExceptT.lift (say text)) w = (.ok (), w.saying text) := rfl

theorem saying_empty (w : Machine) : w.saying "" = w := by
  unfold saying
  rw [w.layout.text_empty, String.append_empty]

/-- what follows a notice is laid out by itself -/
theorem saying_line {n : Notice} {text : String} (h : n.line = .ok text) (more : String)
    (w : Machine) : (w.saying text).saying more = w.saying (text ++ more) := by
  obtain ⟨words, -, rfl⟩ := Notice.line_eq_ok h
  unfold saying
  dsimp only
  rw [w.layout.text_append_line, String.append_assoc]

theorem execute_announce_ok {n : Notice} {text : String} (h : n.line = .ok text) (w : Machine) :
    execute (announce n) w = (.ok (), w.saying text) := by
  unfold announce
  rw [h]
  rfl

/-- notices that print are said one behind the other -/
theorem execute_announceAll_ok {ns : List Notice} {text : String} (h : Notice.lines ns = .ok text)
    (w : Machine) : execute (announceAll ns) w = (.ok (), w.saying text) := by
  induction ns generalizing w text with
  | nil =>
    cases h
    rw [saying_empty]
    rfl
  | cons n ns ih =>
    obtain ⟨line, hline, h⟩ := bind_eq_ok.mp h
    obtain ⟨more, hmore, h⟩ := bind_eq_ok.mp h
    cases h
    unfold announceAll
    rw [execute_bind_ok (execute_announce_ok hline w), ih hmore, saying_line hline]

/-- notices do nothing but speak, also when one of them does not print -/
theorem execute_announceAll (ns : List Notice) (w : Machine) :
    (execute (announceAll ns) w).2 = w.saying (Notice.spoken ns) := by
  induction ns generalizing w with
  | nil => exact (saying_empty w).symm
  | cons n ns ih =>
    unfold announceAll Notice.spoken
    cases h : n.line with
    | ok text => rw [execute_bind_ok (execute_announce_ok h w), ih, saying_line h]
    | error fault =>
      have hfail : execute (announce n) w = (.error (.markup fault), w) := by
        unfold announce
        rw [h]
        rfl
      rw [execute_bind_error hfail, saying_empty]

theorem spoken_of_lines {ns : List Notice} {text : String} (h : Notice.lines ns = .ok text) :
    Notice.spoken ns = text := by
  induction ns generalizing text with
  | nil =>
    cases h
    rfl
  | cons n ns ih =>
    obtain ⟨line, hline, h⟩ := bind_eq_ok.mp h
    obtain ⟨more, hmore, h⟩ := bind_eq_ok.mp h
    cases h
    rw [Notice.spoken, hline, ih hmore]

/-- the first notice that does not print ends the run -/
theorem execute_announceAll_error {ns : List Notice} {fault : Console.Markup.Fault}
    (h : Notice.lines ns = .error fault) (w : Machine) :
    (execute (announceAll ns) w).1 = .error (.markup fault) := by
  induction ns generalizing w with
  | nil => cases h
  | cons n ns ih =>
    unfold announceAll
    cases hline : n.line with
    | error fault' =>
      rw [Notice.lines, hline] at h
      cases h
      have hfail : execute (announce n) w = (.error (.markup fault), w) := by
        unfold announce
        rw [hline]
        rfl
      rw [execute_bind_error hfail]
    | ok line =>
      rw [execute_bind_ok (execute_announce_ok hline w)]
      refine ih ?_ _
      rw [Notice.lines, hline] at h
      cases hmore : Notice.lines ns with
      | error fault' =>
        rw [hmore] at h
        exact h
      | ok more =>
        rw [hmore] at h
        cases h

/-! ## runs on files -/

/-- the run sees nothing but the file tree and the working directory, and changes nothing but the
file tree -/
def OnFiles (x : ExceptT Failure (StateM Machine) α) : Prop :=
  ∃ f : Tree → Place → Except Failure α × Tree, ∀ w,
    execute x w = ((f w.tree w.here).1, { w with tree := (f w.tree w.here).2 })

theorem OnFiles.isEffect : IsEffect fun _ => OnFiles where
  pure a := ⟨fun t _ => (.ok a, t), fun _ => rfl⟩
  throw e := ⟨fun t _ => (.error e, t), fun _ => rfl⟩
  bind := by
    rintro α β x f ⟨g, hx⟩ hf
    choose k hf using hf
    refine ⟨fun t here => match g t here with
      | (.ok a, t') => k a t' here
      | (.error e, t') => (.error e, t'), fun w => ?_⟩
    rw [execute_bind, hx]
    dsimp only
    obtain ⟨r, t'⟩ := g w.tree w.here
    cases r with
    | error e => rfl
    | ok a => exact hf a { w with tree := t' }

theorem onFiles_change {ε : Type} (f : Tree → Place → Except ε Unit × Tree) :
    OnFiles (ExceptT.lift (change f)) :=
  ⟨fun t here => (.ok (f t here).1, (f t here).2), fun _ => rfl⟩

theorem onFiles_isDirectory (p : Path) :
    OnFiles (ExceptT.lift (Host.isDirectory p) : ExceptT Failure (StateM Machine) _) :=
  ⟨fun t here => (.ok ((t.stat here p).map fun e => e = .directory), t), fun _ => rfl⟩

theorem onFiles_readText (p : Path) :
    OnFiles (readText p : ExceptT Failure (StateM Machine) _) :=
  OnFiles.isEffect.readText (fun p => ⟨fun t here => (.ok (t.read here p), t), fun _ => rfl⟩) p

theorem onFiles_writeText (p : Path) (text : String) :
    OnFiles (writeText p text : ExceptT Failure (StateM Machine) Unit) :=
  OnFiles.isEffect.writeText (fun _ _ => onFiles_change _) p text

theorem onFiles_ensureDirectory (fuel : Nat) (p : Path) :
    OnFiles (ensureDirectory fuel p : ExceptT Failure (StateM Machine) Unit) :=
  OnFiles.isEffect.ensureDirectory onFiles_isDirectory (fun _ => onFiles_change _) fuel p

theorem onFiles_writeAll (base : Path) (as : List Artifact) :
    OnFiles (writeAll base as : ExceptT Failure (StateM Machine) Unit) :=
  OnFiles.isEffect.writeAll (fun _ _ => onFiles_change _) base as

theorem onFiles_store (base : Path) (as : List Artifact) :
    OnFiles (store base as : ExceptT Failure (StateM Machine) (List Path)) :=
  OnFiles.isEffect.store onFiles_isDirectory (fun _ => onFiles_change _)
    (fun _ _ => onFiles_change _) base as

/-- what was said before does not matter for files -/
theorem OnFiles.saying {x : ExceptT Failure (StateM Machine) α} (hx : OnFiles x) (text : String)
    (w : Machine) :
    execute x (w.saying text) =
      ((execute x w).1, { w.saying text with tree := (execute x w).2.tree }) := by
  obtain ⟨f, hx⟩ := hx
  rw [hx, hx]
  rfl

/-- machines with the same files give the same result, and the same files again -/
theorem OnFiles.congr {x : ExceptT Failure (StateM Machine) α} (hx : OnFiles x)
    (htree : w'.tree = w.tree) (hhere : w'.here = w.here) :
    (execute x w').1 = (execute x w).1 ∧ (execute x w').2.tree = (execute x w).2.tree := by
  obtain ⟨f, hx⟩ := hx
  rw [hx, hx, htree, hhere]
  exact ⟨rfl, rfl⟩

/-- nothing but the tree changes -/
theorem OnFiles.frame {x : ExceptT Failure (StateM Machine) α} (hx : OnFiles x) (w : Machine) :
    (execute x w).2 = { w with tree := (execute x w).2.tree } := by
  obtain ⟨f, hx⟩ := hx
  rw [hx]

end DdlToJava.Machine

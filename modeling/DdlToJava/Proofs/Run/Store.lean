import DdlToJava.Proofs.Files.Footprint
import DdlToJava.Proofs.Run.Execution
import DdlToJava.Proofs.Text.Utf8

/-!
# Artifacts that are stored are there

* `execute_writeText`             one write is a write to the tree;
* `grown_writeAll`                where a path led before the writes, it leads afterwards;
* `contentAt?_writeAll_of_ne`     a file that no artifact goes to is kept;
* `contentAt?_writeAll_append`    the last artifact that goes to a place is there afterwards;
* `contentAt?_writeAll`           artifacts that go to different places are all there afterwards.

The places are compared after the run: a path may lead nowhere before the directory is made.
-/

namespace DdlToJava

open Files Host Machine

/-- the text of the file that a path leads to -/
def Files.Tree.textAt? (t : Tree) (here : Place) (p : Path) : Option String :=
  (t.contentAt? here p).bind fun bytes =>
    (Text.Utf8.decode bytes).toOption.map String.ofList

namespace Machine

variable {w w' : Machine} {p : Path} {base : Path} {as : List Artifact}

/-! ## one write -/

/-- how a run goes on behind a write -/
def written (p : Path) : Except WriteFault Unit → Except Failure Unit
  | .ok () => .ok ()
  | .error (.refused cause) => .error (.file cause p)
  | .error (.broken cause) => .error (.brokenWrite cause)

/-- one write is a write to the tree -/
theorem execute_writeText (hnul : p.hasNul = false) (text : String) (w : Machine) :
    execute (writeText p text) w =
      (written p (w.tree.write w.here p (Text.Utf8.encode text.toList)).1,
        { w with tree := (w.tree.write w.here p (Text.Utf8.encode text.toList)).2 }) := by
  unfold writeText
  rw [execute_bind_ok (execute_checkPath hnul w), execute_bind_ok (execute_writeFile p _ w)]
  cases (w.tree.write w.here p (Text.Utf8.encode text.toList)).1 with
  | ok u => rfl
  | error fault => cases fault <;> rfl

theorem execute_writeText_hasNul (hnul : p.hasNul = true) (text : String) (w : Machine) :
    execute (writeText p text) w = (.error .nulInPath, w) := by
  unfold writeText checkPath
  rw [hnul]
  rfl

theorem execute_writeText_eq_ok {text : String}
    (h : execute (writeText p text) w = (.ok (), w')) :
    p.hasNul = false ∧ ∃ t, w.tree.write w.here p (Text.Utf8.encode text.toList) = (.ok (), t) ∧
      w' = { w with tree := t } := by
  cases hnul : p.hasNul with
  | true =>
    rw [execute_writeText_hasNul hnul] at h
    cases h
  | false =>
    rw [execute_writeText hnul] at h
    cases hwrite : w.tree.write w.here p (Text.Utf8.encode text.toList) with
    | mk result t =>
      rw [hwrite] at h
      cases result with
      | ok u =>
        cases h
        exact ⟨rfl, t, rfl, rfl⟩
      | error fault => cases fault <;> cases h

/-! ## all writes -/

/-- the first write of several, and the others -/
theorem execute_writeAll_cons {a : Artifact}
    (h : execute (writeAll base (a :: as)) w = (.ok (), w')) :
    ∃ t, w.tree.write w.here (a.path base) (Text.Utf8.encode a.body.toList) = (.ok (), t) ∧
      execute (writeAll base as) { w with tree := t } = (.ok (), w') := by
  obtain ⟨u, w₁, hfirst, hrest⟩ := execute_bind_eq_ok.mp h
  obtain ⟨-, t, ht, rfl⟩ := execute_writeText_eq_ok hfirst
  exact ⟨t, ht, hrest⟩

/-- no artifact is written to a path with a NUL character -/
theorem hasNul_writeAll (h : execute (writeAll base as) w = (.ok (), w')) :
    ∀ a ∈ as, (a.path base).hasNul = false := by
  induction as generalizing w with
  | nil =>
    intro a ha
    cases ha
  | cons b as ih =>
    obtain ⟨u, w₁, hfirst, hrest⟩ := execute_bind_eq_ok.mp h
    intro a ha
    rcases List.mem_cons.mp ha with rfl | ha
    · exact (execute_writeText_eq_ok hfirst).1
    · exact ih hrest a ha

/-- the writes do not change where a path leads -/
theorem grown_writeAll (h : execute (writeAll base as) w = (.ok (), w')) :
    w.tree.Grown w'.tree := by
  induction as generalizing w with
  | nil =>
    cases h
    exact .refl _
  | cons a as ih =>
    obtain ⟨t, ht, hrest⟩ := execute_writeAll_cons h
    exact (Tree.grown_write ht).trans (ih (w := { w with tree := t }) hrest)

/-- a file that no artifact goes to is kept -/
theorem contentAt?_writeAll_of_ne (h : execute (writeAll base as) w = (.ok (), w'))
    {content : List UInt8} (hcontent : w.tree.contentAt? w.here p = some content)
    (hne : ∀ a ∈ as, w'.tree.resolve w.here p ≠ w'.tree.resolve w.here (a.path base)) :
    w'.tree.contentAt? w.here p = some content := by
  induction as generalizing w with
  | nil =>
    cases h
    exact hcontent
  | cons a as ih =>
    obtain ⟨t, ht, hrest⟩ := execute_writeAll_cons h
    refine ih (w := { w with tree := t }) hrest ?_ fun b hb => hne b (List.mem_cons_of_mem _ hb)
    refine Tree.contentAt?_write_of_ne ht hcontent fun heq => ?_
    -- both paths are settled by now, so they would lead to one place in the end
    obtain ⟨q, hq, -⟩ := Tree.contentAt?_eq_some.mp hcontent
    have hqt := (Tree.grown_write ht).resolve hq
    have ha := hqt
    rw [heq] at ha
    have hgrown : t.Grown w'.tree := grown_writeAll (w := { w with tree := t }) hrest
    refine hne a (List.mem_cons_self ..) ?_
    rw [hgrown.resolve hqt, hgrown.resolve ha]

/-- an artifact is there afterwards if none behind it goes to its place -/
theorem contentAt?_writeAll_append {a : Artifact} {after : List Artifact}
    (h : execute (writeAll base (as ++ a :: after)) w = (.ok (), w'))
    (hne : ∀ b ∈ after,
      w'.tree.resolve w.here (a.path base) ≠ w'.tree.resolve w.here (b.path base)) :
    w'.tree.contentAt? w.here (a.path base) = some (Text.Utf8.encode a.body.toList) := by
  induction as generalizing w with
  | nil =>
    obtain ⟨t, ht, hrest⟩ := execute_writeAll_cons h
    exact contentAt?_writeAll_of_ne (w := { w with tree := t }) hrest
      (Tree.contentAt?_write_self ht) hne
  | cons b as ih =>
    obtain ⟨t, ht, hrest⟩ := execute_writeAll_cons h
    exact ih (w := { w with tree := t }) hrest hne

/-- **artifacts that go to different places are all there afterwards** -/
theorem contentAt?_writeAll (h : execute (writeAll base as) w = (.ok (), w'))
    (hne : as.Pairwise fun a b =>
      w'.tree.resolve w.here (a.path base) ≠ w'.tree.resolve w.here (b.path base)) :
    ∀ a ∈ as,
      w'.tree.contentAt? w.here (a.path base) = some (Text.Utf8.encode a.body.toList) := by
  intro a ha
  obtain ⟨before, after, rfl⟩ := List.append_of_mem ha
  obtain ⟨-, hbehind, -⟩ := List.pairwise_append.mp hne
  exact contentAt?_writeAll_append h (List.pairwise_cons.mp hbehind).1

theorem textAt?_of_contentAt? {t : Tree} {here : Place} {text : String}
    (h : t.contentAt? here p = some (Text.Utf8.encode text.toList)) :
    t.textAt? here p = some text := by
  unfold Tree.textAt?
  rw [h, Option.bind_some, Text.Utf8.decode_encode]
  show some (String.ofList text.toList) = some text
  rw [String.ofList_toList]

/-! ## storing -/

/-- a run that stores artifacts and ends well has made the directory and then written them all -/
theorem execute_store_eq_ok {paths : List Path}
    (h : execute (store base as) w = (.ok paths, w')) :
    w'.here = w.here ∧ paths = as.map (·.path base) ∧
      ∃ w₁, w₁.here = w.here ∧ execute (writeAll base as) w₁ = (.ok (), w') := by
  have hhere : (execute (store base as) w).2.here = w.here := by
    rw [(onFiles_store base as).frame w]
  rw [h] at hhere
  unfold store at h
  obtain ⟨u, w₁, hdirectory, h⟩ := execute_bind_eq_ok.mp h
  obtain ⟨v, w₂, hwrites, h⟩ := execute_bind_eq_ok.mp h
  cases h
  have hmade : (execute (ensureDirectory base.names.length base) w).2.here = w.here := by
    rw [(onFiles_ensureDirectory base.names.length base).frame w]
  rw [hdirectory] at hmade
  exact ⟨hhere, rfl, w₁, hmade, hwrites⟩

/-- stored artifacts that go to different places are read back as they are -/
theorem textAt?_store {paths : List Path} (h : execute (store base as) w = (.ok paths, w'))
    (hne : as.Pairwise fun a b =>
      w'.tree.resolve w.here (a.path base) ≠ w'.tree.resolve w.here (b.path base)) :
    ∀ a ∈ as, w'.tree.textAt? w.here (a.path base) = some a.body := by
  obtain ⟨-, -, w₁, hhere, hwrites⟩ := execute_store_eq_ok h
  rw [← hhere] at hne ⊢
  intro a ha
  exact textAt?_of_contentAt? (contentAt?_writeAll hwrites hne a ha)

/-- the artifact that is stored last is read back in any case -/
theorem textAt?_store_last {a : Artifact} {paths : List Path}
    (h : execute (store base (as ++ [a])) w = (.ok paths, w')) :
    w'.tree.textAt? w.here (a.path base) = some a.body := by
  obtain ⟨-, -, w₁, hhere, hwrites⟩ := execute_store_eq_ok h
  rw [← hhere]
  exact textAt?_of_contentAt? (contentAt?_writeAll_append hwrites nofun)

end Machine

end DdlToJava

import DdlToJava.Proofs.Run.OwnFiles

/-!
# Storing the same artifacts again

A run that has stored its artifacts leaves their directory, and a file wherever one of them goes.
So the same run finds the directory, and every write finds a file in its place.  What a place holds
in the end is the last artifact that goes there, in the second run as in the first.

* `stat_ensureDirectory`, `execute_ensureDirectory_of_stat`
                         seeing to a directory leaves one, and where there is one it does nothing;
* `takes_writeAll`, `entryAt?_writeAll_of_ne`
                         the places that artifacts go to, and all others;
* `execute_writeAll_again`
                         the same writes on another tree;
* `execute_store_again`  storing twice is storing once.
-/

namespace DdlToJava

open Files Host Machine

section
variable {w w' : Machine} {p : Path}

/-! ## the directory -/

theorem execute_checkPath_eq_ok (h : execute (checkPath p) w = (.ok (), w')) :
    p.hasNul = false ∧ w' = w := by
  unfold checkPath at h
  cases hnul : p.hasNul with
  | true =>
    rw [hnul] at h
    cases h
  | false =>
    rw [hnul] at h
    cases h
    exact ⟨rfl, rfl⟩

/-- a directory that could not be made is accepted if there is one -/
theorem execute_acceptDirectory_of_stat (cause : Cause)
    (h : w.tree.stat w.here p = .ok .directory) :
    execute (acceptDirectory cause p) w = (.ok (), w) := by
  unfold acceptDirectory
  rw [execute_bind_ok (execute_isDirectory p w), h]
  rfl

theorem stat_of_execute_acceptDirectory {cause : Cause}
    (h : execute (acceptDirectory cause p) w = (.ok (), w')) :
    w'.tree.stat w'.here p = .ok .directory := by
  unfold acceptDirectory at h
  rw [execute_bind_ok (execute_isDirectory p w)] at h
  cases hstat : w.tree.stat w.here p with
  | error other =>
    rw [hstat] at h
    cases h
  | ok e =>
    rw [hstat] at h
    cases e with
    | directory =>
      cases h
      exact hstat
    | file content => cases h
    | link target => cases h

/-- make a directory, and go on with `missing` if there is nothing to make it in -/
def makeOr (p : Path) (missing : ExceptT Failure (StateM Machine) Unit) :
    ExceptT Failure (StateM Machine) Unit := do
  match ← ExceptT.lift (makeDir p) with
  | .ok () => pure ()
  | .error .missing => missing
  | .error cause => acceptDirectory cause p

theorem ensureDirectory_zero (p : Path) :
    ensureDirectory 0 p = checkPath p >>= fun _ => makeOr p (throw (.file .missing p)) := by
  unfold ensureDirectory
  rfl

theorem ensureDirectory_succ (fuel : Nat) (p : Path) :
    ensureDirectory (fuel + 1) p = checkPath p >>= fun _ => makeOr p
      (if p.parent = p then throw (.file .missing p)
        else ensureDirectory fuel p.parent >>= fun _ => makeOr p (throw (.file .missing p))) := by
  rw [ensureDirectory]
  rfl

/-- where there is a directory, none is made -/
theorem execute_makeOr_of_stat (h : w.tree.stat w.here p = .ok .directory)
    (missing : ExceptT Failure (StateM Machine) Unit) :
    execute (makeOr p missing) w = (.ok (), w) := by
  have hmake : execute (ExceptT.lift (makeDir p)) w = (.ok (.error .exists), w) := by
    rw [execute_makeDir, Tree.makeDir_of_stat h]
  unfold makeOr
  rw [execute_bind_ok hmake]
  exact execute_acceptDirectory_of_stat .exists h

/-- making a directory leaves one -/
theorem stat_makeOr {missing : ExceptT Failure (StateM Machine) Unit}
    (hmissing : ∀ w w', execute missing w = (.ok (), w') →
      w'.tree.stat w'.here p = .ok .directory)
    (h : execute (makeOr p missing) w = (.ok (), w')) :
    w'.tree.stat w'.here p = .ok .directory := by
  unfold makeOr at h
  obtain ⟨r, w₁, hmake, h⟩ := execute_bind_eq_ok.mp h
  rw [execute_makeDir] at hmake
  cases htree : w.tree.makeDir w.here p with
  | mk result t =>
    rw [htree] at hmake
    cases hmake
    cases result with
    | ok u =>
      cases h
      exact Tree.stat_makeDir htree
    | error cause =>
      cases cause with
      | missing => exact hmissing _ w' h
      | _ => exact stat_of_execute_acceptDirectory h

theorem stat_throw (e : Failure) (w w' : Machine)
    (h : execute (throw e) w = (.ok (), w')) : w'.tree.stat w'.here p = .ok .directory := by
  cases h

/-- seeing to a directory leaves one -/
theorem stat_ensureDirectory {fuel : Nat}
    (h : execute (ensureDirectory fuel p) w = (.ok (), w')) :
    p.hasNul = false ∧ w'.tree.stat w'.here p = .ok .directory := by
  cases fuel with
  | zero =>
    rw [ensureDirectory_zero] at h
    obtain ⟨u, w₁, hcheck, h⟩ := execute_bind_eq_ok.mp h
    exact ⟨(execute_checkPath_eq_ok hcheck).1, stat_makeOr (stat_throw _) h⟩
  | succ fuel =>
    rw [ensureDirectory_succ] at h
    obtain ⟨u, w₁, hcheck, h⟩ := execute_bind_eq_ok.mp h
    refine ⟨(execute_checkPath_eq_ok hcheck).1, stat_makeOr (fun w w' h => ?_) h⟩
    split at h
    · exact stat_throw _ w w' h
    · obtain ⟨v, w₂, -, h⟩ := execute_bind_eq_ok.mp h
      exact stat_makeOr (stat_throw _) h

/-- where there is a directory, nothing is to be done -/
theorem execute_ensureDirectory_of_stat (hnul : p.hasNul = false)
    (h : w.tree.stat w.here p = .ok .directory) (fuel : Nat) :
    execute (ensureDirectory fuel p) w = (.ok (), w) := by
  cases fuel with
  | zero =>
    rw [ensureDirectory_zero, execute_bind_ok (execute_checkPath hnul w)]
    exact execute_makeOr_of_stat h _
  | succ fuel =>
    rw [ensureDirectory_succ, execute_bind_ok (execute_checkPath hnul w)]
    exact execute_makeOr_of_stat h _

end

/-! ## the files -/

section
variable {w w' : Machine} {base : Path} {as : List Artifact} {s : Tree} {a : Artifact}
  {place : Place}

/-- an artifact can be written in a directory, goes to a place and fits there -/
structure Takes (s : Tree) (here : Place) (base : Path) (a : Artifact) (place : Place) : Prop where
  opens : s.Opens here (a.path base) place
  fits : s.fit place (Text.Utf8.encode a.body.toList) = (.ok (), Text.Utf8.encode a.body.toList)

theorem Takes.write (h : Takes s w.here base a place) :
    s.write w.here (a.path base) (Text.Utf8.encode a.body.toList) =
      (.ok (), s.put place (.file (Text.Utf8.encode a.body.toList))) :=
  Tree.write_eq_ok.mpr ⟨place, h.opens, h.fits, rfl⟩

/-- what could be written can be written after another write -/
theorem Takes.put {here q : Place} {p : Path} (h : Takes s here base a place)
    (hq : s.Opens here p q) (content : List UInt8) :
    Takes (s.put q (.file content)) here base a place :=
  ⟨h.opens.put hq content, h.fits⟩

/-- every artifact that was written can be written again where it went -/
theorem takes_writeAll (h : execute (writeAll base as) w = (.ok (), w')) :
    ∀ a ∈ as, ∃ place, Takes w'.tree w.here base a place := by
  induction as generalizing w with
  | nil => nofun
  | cons a as ih =>
    obtain ⟨t, ht, hrest⟩ := execute_writeAll_cons h
    obtain ⟨place, hopens, hfit, hput⟩ := Tree.write_eq_ok.mp ht
    have hgrown : t.Grown w'.tree := grown_writeAll (w := { w with tree := t }) hrest
    have hself : t.entryAt? place = some (.file (Text.Utf8.encode a.body.toList)) := by
      rw [← hput]
      exact Tree.entryAt?_put_self w.tree place _ hopens.ne_nil
    have hagain : t.Opens w.here (a.path base) place := by
      rw [← hput]
      exact hopens.put hopens _
    rw [List.forall_mem_cons]
    refine ⟨⟨place, hagain.of_file hgrown hself, ?_⟩, ih (w := { w with tree := t }) hrest⟩
    rw [((Tree.grown_write ht).trans hgrown).fit]
    exact hfit

/-- a place that no artifact goes to holds what it held -/
theorem entryAt?_writeAll_of_ne (h : execute (writeAll base as) w = (.ok (), w'))
    (hne : ∀ a ∈ as, w'.tree.resolve w.here (a.path base) ≠ .ok place) :
    w'.tree.entryAt? place = w.tree.entryAt? place := by
  induction as generalizing w with
  | nil =>
    cases h
    rfl
  | cons a as ih =>
    obtain ⟨t, ht, hrest⟩ := execute_writeAll_cons h
    rw [List.forall_mem_cons] at hne
    obtain ⟨q, hopens, -, rfl⟩ := Tree.write_eq_ok.mp ht
    have hend := (grown_writeAll (w := { w with tree := _ }) hrest).resolve
      ((hopens.grown _).resolve hopens.leads)
    rw [ih (w := { w with tree := _ }) hrest hne.2]
    exact Tree.entryAt?_put_of_ne _ _ fun hplace => hne.1 (hplace ▸ hend)

/-- **The same writes on another tree.**  They end well if that tree takes the artifacts, at the
places that they went to; and the two trees hold the same in the end if they did so beside these
places from the start. -/
theorem execute_writeAll_again (h : execute (writeAll base as) w = (.ok (), w'))
    (htakes : ∀ a ∈ as, ∃ place, w'.tree.resolve w.here (a.path base) = .ok place ∧
      Takes s w.here base a place)
    (hothers : ∀ place, (∀ a ∈ as, w'.tree.resolve w.here (a.path base) ≠ .ok place) →
      s.entryAt? place = w.tree.entryAt? place) :
    ∃ t, execute (writeAll base as) { w with tree := s } = (.ok (), { w with tree := t }) ∧
      ∀ place, t.entryAt? place = w'.tree.entryAt? place := by
  induction as generalizing w s with
  | nil =>
    cases h
    exact ⟨s, rfl, fun place => hothers place nofun⟩
  | cons a as ih =>
    have hnul := hasNul_writeAll h a (List.mem_cons_self ..)
    obtain ⟨t, ht, hrest⟩ := execute_writeAll_cons h
    rw [List.forall_mem_cons] at htakes
    obtain ⟨⟨q, hend, hq⟩, htakes⟩ := htakes
    obtain ⟨q', hopens, -, rfl⟩ := Tree.write_eq_ok.mp ht
    -- the first write goes to the place that its path leads to in the end
    have hend' := (grown_writeAll (w := { w with tree := _ }) hrest).resolve
      ((hopens.grown _).resolve hopens.leads)
    cases hend'.symm.trans hend
    have hfirst : execute (writeText (a.path base) a.body) { w with tree := s } =
        (.ok (), { w with tree := s.put q (.file (Text.Utf8.encode a.body.toList)) }) := by
      rw [execute_writeText hnul, hq.write]
      rfl
    have hne := hopens.ne_nil
    obtain ⟨t', hrun, hsame⟩ := ih (w := { w with tree := _ }) hrest
      (s := s.put q (.file (Text.Utf8.encode a.body.toList)))
      (fun b hb => by
        obtain ⟨r, hr, hsr⟩ := htakes b hb
        exact ⟨r, hr, hsr.put hq.opens _⟩)
      (fun place hplace => by
        by_cases heq : place = q
        · rw [heq, Tree.entryAt?_put_self _ _ _ hne]
          exact (Tree.entryAt?_put_self _ _ _ hne).symm
        · rw [Tree.entryAt?_put_of_ne _ _ heq, hothers place]
          · exact (Tree.entryAt?_put_of_ne _ _ heq).symm
          · rw [List.forall_mem_cons]
            refine ⟨fun hto => heq ?_, hplace⟩
            cases hend.symm.trans hto
            rfl)
    refine ⟨t', ?_, hsame⟩
    exact (execute_bind_ok hfirst).trans hrun

/-- **storing twice is storing once** -/
theorem execute_store_again {paths : List Path}
    (h : execute (store base as) w = (.ok paths, w')) :
    ∃ t, execute (store base as) w' = (.ok paths, { w' with tree := t }) ∧
      ∀ place, t.entryAt? place = w'.tree.entryAt? place := by
  unfold store at h ⊢
  obtain ⟨u, w₁, hdirectory, h⟩ := execute_bind_eq_ok.mp h
  obtain ⟨v, w₂, hwrites, h⟩ := execute_bind_eq_ok.mp h
  cases h
  obtain ⟨hnul, hstat⟩ := stat_ensureDirectory hdirectory
  have hframe : w' = { w₁ with tree := w'.tree } := by
    have := (onFiles_writeAll base as).frame w₁
    rw [hwrites] at this
    exact this
  have hstat' : w'.tree.stat w₁.here base = .ok .directory :=
    (grown_writeAll hwrites).stat hstat
  obtain ⟨t, hagain, hsame⟩ := execute_writeAll_again hwrites (s := w'.tree)
    (fun a ha => by
      obtain ⟨place, hplace⟩ := takes_writeAll hwrites a ha
      exact ⟨place, hplace.opens.leads, hplace⟩)
    (fun place hplace => entryAt?_writeAll_of_ne hwrites hplace)
  refine ⟨t, ?_, hsame⟩
  rw [← hframe] at hagain
  have hdirectory' : execute (ensureDirectory base.names.length base) w' = (.ok (), w') := by
    refine execute_ensureDirectory_of_stat hnul ?_ _
    rw [hframe]
    exact hstat'
  rw [execute_bind_ok hdirectory', execute_bind_ok hagain, hframe]
  rfl

end

end DdlToJava

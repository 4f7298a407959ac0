import DdlToJava.Files.Tree
import DdlToJava.Proofs.Outcome

/-!
# Where paths lead, and what operations do

A path is walked through directories and along links.  As long as all that stands there stays what
it is, a path leads where it led (`Grown.resolve`), and fails for what it failed unless something
was missing (`Grown.resolve_eq`).  A file never takes the place of a directory or of a link, so this
is so after every write.

* `stat_eq_ok`, `read_eq_ok`       what is told of a path, and what it reads;
* `Grown.isDirectory_eq`           what was not missing is told of as before;
* `write_cases`, `Opens.write_eq`  a write is refused and changes nothing, or it puts what fits
                                   where its path leads;
* `makeDir_eq_ok`                  a directory is made where nothing stands.
-/

namespace DdlToJava.Files.Tree

section
variable {t t' : Tree} {here place q r : Place} {e : Entry} {p p' : Path}
  {content : List UInt8}

/-! ## walking -/

/-- The directories, the files and the links stay what they are, nothing else becomes a link, and
the system refuses what it refused. -/
structure Grown (t t' : Tree) : Prop where
  directory : ∀ place, t.entryAt? place = some .directory → t'.entryAt? place = some .directory
  file : ∀ place content, t.entryAt? place = some (.file content) →
    ∃ content', t'.entryAt? place = some (.file content')
  link : ∀ place target,
    t'.entryAt? place = some (.link target) ↔ t.entryAt? place = some (.link target)
  refusals : t'.refusals = t.refusals
  limits : t'.limits = t.limits

namespace Grown

theorem refl (t : Tree) : Grown t t :=
  ⟨fun _ h => h, fun _ content h => ⟨content, h⟩, fun _ _ => Iff.rfl, rfl, rfl⟩

theorem trans {t'' : Tree} (h : Grown t t') (h' : Grown t' t'') : Grown t t'' where
  directory place hplace := h'.directory place (h.directory place hplace)
  file place content hplace := by
    obtain ⟨content', hplace'⟩ := h.file place content hplace
    exact h'.file place content' hplace'
  link place target := (h'.link place target).trans (h.link place target)
  refusals := h'.refusals.trans h.refusals
  limits := h'.limits.trans h.limits

variable (h : Grown t t')
include h

theorem refusal? (access : Access) (place : Place) :
    t'.refusal? access place = t.refusal? access place := by
  unfold Tree.refusal?
  rw [h.refusals]

theorem fit (place : Place) (content : List UInt8) :
    t'.fit place content = t.fit place content := by
  unfold Tree.fit
  rw [h.limits]

/-! Only what was missing on a way can have come. -/

omit h in
/-- steps that come to something come to the same, if each of them does -/
theorem bind_eq {α β : Type} {x x' : Except Cause α} {f f' : α → Except Cause β}
    (hx : x ≠ .error .missing → x' = x) (hf : ∀ a, f a ≠ .error .missing → f' a = f a)
    (hne : x.bind f ≠ .error .missing) : x'.bind f' = x.bind f := by
  have hfirst : x ≠ .error .missing := by
    rintro rfl
    exact hne rfl
  rw [hx hfirst]
  cases x with
  | error cause => rfl
  | ok a => exact hf a hne

theorem pass (hne : t.pass q ≠ .error .missing) : t'.pass q = t.pass q := by
  unfold Tree.pass at hne ⊢
  rw [h.refusal?]
  cases hentry : t.entryAt? q with
  | none =>
    rw [hentry] at hne
    exact absurd rfl hne
  | some e =>
    cases e with
    | directory => rw [h.directory q hentry]
    | file content =>
      obtain ⟨content', hentry'⟩ := h.file q content hentry
      rw [hentry']
    | link target => rw [(h.link q target).mpr hentry]

theorem step (n : String) (hne : t.step q n ≠ .error .missing) : t'.step q n = t.step q n :=
  bind_eq h.pass (fun _ _ => rfl) hne

theorem descend (names : List String) (hne : t.descend q names ≠ .error .missing) :
    t'.descend q names = t.descend q names := by
  induction names generalizing q with
  | nil =>
    unfold Tree.descend
    split
    · next target hlink => rw [(h.link q target).mp hlink]
    · next hnone =>
      split
      · next target hlink => exact absurd ((h.link q target).mpr hlink) (hnone target)
      · rfl
  | cons n ns ih => exact bind_eq h.pass (fun _ => ih) hne

theorem follow (hne : t.follow q ≠ .error .missing) : t'.follow q = t.follow q := by
  unfold Tree.follow at hne ⊢
  split
  · next target hlink =>
    rw [(h.link q target).mp hlink] at hne ⊢
    exact h.descend target hne
  · next hnone =>
    split
    · next target hlink => exact absurd ((h.link q target).mpr hlink) (hnone target)
    · rfl

theorem enter (n : String) (hne : t.enter q n ≠ .error .missing) :
    t'.enter q n = t.enter q n :=
  bind_eq (h.step n) (fun _ => h.follow) hne

theorem walk (names : List String) (hne : t.walk q names ≠ .error .missing) :
    t'.walk q names = t.walk q names := by
  induction names generalizing q with
  | nil => rfl
  | cons n ns ih => exact bind_eq (h.enter n) (fun _ => ih) hne

theorem resolve_eq (hne : t.resolve here p ≠ .error .missing) :
    t'.resolve here p = t.resolve here p := by
  unfold Tree.resolve at hne ⊢
  split
  · rfl
  · next hlimit =>
    rw [if_neg hlimit] at hne
    exact h.walk p.names hne

theorem locate_eq (hne : t.locate here p ≠ .error .missing) :
    t'.locate here p = t.locate here p := by
  unfold Tree.locate at hne ⊢
  split
  · rfl
  · next hlimit =>
    rw [if_neg hlimit] at hne
    cases hlast : p.names.getLast? with
    | none => rfl
    | some n =>
      rw [hlast] at hne
      exact bind_eq (h.walk p.names.dropLast) (fun _ => h.step n) hne

/-- **a path leads where it led** -/
theorem resolve (hresolve : t.resolve here p = .ok r) : t'.resolve here p = .ok r := by
  rw [← hresolve]
  exact h.resolve_eq (by rw [hresolve]; exact nofun)

theorem locate (hlocate : t.locate here p = .ok r) : t'.locate here p = .ok r := by
  rw [← hlocate]
  exact h.locate_eq (by rw [hlocate]; exact nofun)

end Grown

/-- an entry that is put where there is no directory and no link, a file in place of a file -/
theorem grown_put (hdir : t.entryAt? place ≠ some .directory)
    (hlink : ∀ target, t.entryAt? place ≠ some (.link target)) (he : ∀ target, e ≠ .link target)
    (hfile : t.entryAt? place ≠ none → ∃ content, e = .file content) :
    Grown t (t.put place e) := by
  have hne : place ≠ [] := by
    rintro rfl
    exact hdir rfl
  have hself := entryAt?_put_self t place e hne
  constructor
  case directory =>
    intro other hother
    have hother' : other ≠ place := by
      rintro rfl
      exact hdir hother
    rw [entryAt?_put_of_ne t e hother']
    exact hother
  case file =>
    intro other content hother
    by_cases heq : other = place
    · subst heq
      obtain ⟨content', rfl⟩ := hfile (by rw [hother]; exact nofun)
      exact ⟨content', hself⟩
    · rw [entryAt?_put_of_ne t e heq]
      exact ⟨content, hother⟩
  case link =>
    intro other target
    by_cases heq : other = place
    · rw [heq, hself]
      exact ⟨fun h => absurd (Option.some.inj h) (he target), fun h => absurd h (hlink target)⟩
    · rw [entryAt?_put_of_ne t e heq]
  case refusals => rfl
  case limits => rfl

/-! ## telling and reading -/

theorem stat_eq_ok :
    t.stat here p = .ok e ↔ ∃ place, t.resolve here p = .ok place ∧ t.entryAt? place = some e := by
  unfold stat
  cases hplace : t.resolve here p with
  | error cause => simp [bind, Except.bind]
  | ok place => cases hentry : t.entryAt? place <;> simp [bind, Except.bind, hentry]

/-- a directory is still told of -/
theorem Grown.stat (h : Grown t t') (hstat : t.stat here p = .ok .directory) :
    t'.stat here p = .ok .directory := by
  obtain ⟨place, hplace, hentry⟩ := stat_eq_ok.mp hstat
  exact stat_eq_ok.mpr ⟨place, h.resolve hplace, h.directory place hentry⟩

/-- a file reads what it holds, unless it may not be read -/
theorem read_of_resolve (hplace : t.resolve here p = .ok place)
    (hentry : t.entryAt? place = some (.file content)) :
    t.read here p = match t.refusal? .read place with
      | some cause => .error cause
      | none => .ok content := by
  unfold read
  rw [hplace]
  dsimp only [bind, Except.bind]
  rw [hentry]
  cases t.refusal? .read place <;> rfl

theorem read_eq_ok :
    t.read here p = .ok content ↔ ∃ place, t.resolve here p = .ok place ∧
      t.entryAt? place = some (.file content) ∧ t.refusal? .read place = none := by
  unfold read
  cases hplace : t.resolve here p with
  | error cause => simp [bind, Except.bind]
  | ok place =>
    cases hentry : t.entryAt? place with
    | none => simp [bind, Except.bind, hentry]
    | some e =>
      cases hrefusal : t.refusal? .read place with
      | some cause => simp [bind, Except.bind, hentry, hrefusal]
      | none => cases e <;> simp [bind, Except.bind, hentry, hrefusal]

/-- what cannot be read because it is missing is told to be missing, and only that -/
theorem read_eq_missing : t.read here p = .error .missing ↔ t.stat here p = .error .missing := by
  unfold read stat
  cases hplace : t.resolve here p with
  | error cause => simp [bind, Except.bind]
  | ok place =>
    have hpresent := t.refusal?_ne_missing .read place
    cases hentry : t.entryAt? place with
    | none => simp [bind, Except.bind, hentry]
    | some e =>
      cases hrefusal : t.refusal? .read place with
      | some cause =>
        have hcause : cause ≠ .missing := fun heq => hpresent (hrefusal.trans (congrArg some heq))
        simp [bind, Except.bind, hentry, hrefusal, hcause]
      | none => cases e <;> simp [bind, Except.bind, hentry, hrefusal]

/-- what was not missing is a directory if it was one, and fails for what it failed -/
theorem Grown.isDirectory_eq (h : Grown t t')
    (hmissing : t'.stat here p = .error .missing ↔ t.stat here p = .error .missing) :
    (t'.stat here p).map (fun e => decide (e = .directory)) =
      (t.stat here p).map fun e => decide (e = .directory) := by
  by_cases hnone : t.stat here p = .error .missing
  · rw [hmissing.mpr hnone, hnone]
  · have hresolve : t'.resolve here p = t.resolve here p := h.resolve_eq fun heq => hnone (by
      unfold Tree.stat
      rw [heq]
      rfl)
    unfold Tree.stat at hnone ⊢
    rw [hresolve]
    cases hplace : t.resolve here p with
    | error cause => rfl
    | ok place =>
      rw [hplace] at hnone
      cases hentry : t.entryAt? place with
      | none => simp [bind, Except.bind, hentry] at hnone
      | some e =>
        cases e with
        | directory => simp [bind, Except.bind, hentry, h.directory place hentry]
        | file content =>
          obtain ⟨content', hentry'⟩ := h.file place content hentry
          simp [bind, Except.bind, Except.map, hentry, hentry']
        | link target =>
          simp [bind, Except.bind, hentry, (h.link place target).mpr hentry]

/-! ## writing -/

/-- the path leads to a place where a file can be opened to be written -/
structure Opens (t : Tree) (here : Place) (p : Path) (place : Place) : Prop where
  leads : t.resolve here p = .ok place
  directory : t.entryAt? place ≠ some .directory
  link : ∀ target, t.entryAt? place ≠ some (.link target)
  allowed : t.refusal? .write place = none

theorem Opens.ne_nil (h : t.Opens here p place) : place ≠ [] := by
  rintro rfl
  exact h.directory rfl

theorem Opens.grown (h : t.Opens here p place) (content : List UInt8) :
    Grown t (t.put place (.file content)) :=
  grown_put h.directory h.link nofun fun _ => ⟨content, rfl⟩

/-- a file that can be opened can be opened after a write through any path -/
theorem Opens.put (h : t.Opens here p place) (h' : t.Opens here p' q) (content : List UInt8) :
    (t.put q (.file content)).Opens here p place := by
  have hself := entryAt?_put_self t q (.file content) h'.ne_nil
  refine ⟨(h'.grown content).resolve h.leads, ?_, ?_, h.allowed⟩
  · by_cases heq : place = q
    · rw [heq, hself]
      exact nofun
    · rw [entryAt?_put_of_ne t _ heq]
      exact h.directory
  · intro target
    by_cases heq : place = q
    · rw [heq, hself]
      exact nofun
    · rw [entryAt?_put_of_ne t _ heq]
      exact h.link target

/-- a file that can be opened can be opened as long as it is there -/
theorem Opens.of_file (h : t.Opens here p place) (hgrown : Grown t t')
    (hfile : t.entryAt? place = some (.file content)) : t'.Opens here p place := by
  obtain ⟨content', hfile'⟩ := hgrown.file place content hfile
  refine ⟨hgrown.resolve h.leads, ?_, ?_, ?_⟩
  · rw [hfile']
    exact nofun
  · rw [hfile']
    exact nofun
  · rw [hgrown.refusal?]
    exact h.allowed

/-- a write that comes to write puts what fits -/
theorem Opens.write_eq (h : t.Opens here p place) (content : List UInt8) :
    t.write here p content =
      ((t.fit place content).1, t.put place (.file (t.fit place content).2)) := by
  unfold write
  rw [h.leads]
  dsimp only
  rw [h.allowed]
  cases hentry : t.entryAt? place with
  | none => rfl
  | some e =>
    cases e with
    | directory => exact absurd hentry h.directory
    | file content => rfl
    | link target => exact absurd hentry (h.link target)

/-- a write is refused, or it comes to write -/
theorem write_cases (t : Tree) (here : Place) (p : Path) (content : List UInt8) :
    (∃ cause, t.write here p content = (.error (.refused cause), t)) ∨
      ∃ place, t.Opens here p place := by
  unfold write
  cases hplace : t.resolve here p with
  | error cause => exact .inl ⟨cause, rfl⟩
  | ok place =>
    dsimp only
    cases hrefusal : t.refusal? .write place with
    | some cause =>
      cases t.entryAt? place with
      | none => exact .inl ⟨cause, rfl⟩
      | some e =>
        cases e with
        | directory => exact .inl ⟨_, rfl⟩
        | file content => exact .inl ⟨cause, rfl⟩
        | link target => exact .inl ⟨_, rfl⟩
    | none =>
      cases hentry : t.entryAt? place with
      | none => exact .inr ⟨place, hplace, by rw [hentry]; exact nofun,
          by rw [hentry]; exact nofun, hrefusal⟩
      | some e =>
        cases e with
        | directory => exact .inl ⟨_, rfl⟩
        | file content => exact .inr ⟨place, hplace, by rw [hentry]; exact nofun,
            by rw [hentry]; exact nofun, hrefusal⟩
        | link target => exact .inl ⟨_, rfl⟩

/-- what fits is a beginning of the content, and all of it unless the write breaks off -/
theorem fit_cases (t : Tree) (place : Place) (content : List UInt8) :
    t.fit place content = (.ok (), content) ∨
      ∃ n cause, n < content.length ∧
        t.fit place content = (.error (.broken cause), content.take n) := by
  unfold fit
  split
  · exact .inl rfl
  · next n cause _ =>
    split
    · exact .inl rfl
    · next hlong => exact .inr ⟨n, cause, by omega, rfl⟩

/-- a write ends well if all of its content fits -/
theorem write_eq_ok :
    t.write here p content = (.ok (), t') ↔
      ∃ place, t.Opens here p place ∧ t.fit place content = (.ok (), content) ∧
        t.put place (.file content) = t' := by
  constructor
  · intro h
    rcases t.write_cases here p content with ⟨cause, heq⟩ | ⟨place, hopens⟩
    · rw [heq] at h
      cases h
    · rw [hopens.write_eq] at h
      rcases t.fit_cases place content with hfit | ⟨n, cause, -, hfit⟩
      · rw [hfit] at h
        cases h
        exact ⟨place, hopens, hfit, rfl⟩
      · rw [hfit] at h
        cases h
  · rintro ⟨place, hopens, hfit, rfl⟩
    rw [hopens.write_eq, hfit]

theorem grown_write (h : t.write here p content = (.ok (), t')) : Grown t t' := by
  obtain ⟨place, hopens, -, rfl⟩ := write_eq_ok.mp h
  exact hopens.grown content

/-! ## making directories -/

theorem makeDir_eq_ok : t.makeDir here p = (.ok (), t') ↔
    ∃ place, t.locate here p = .ok place ∧ t.entryAt? place = none ∧
      t.refusal? .make place = none ∧ t.put place .directory = t' := by
  unfold makeDir
  cases hplace : t.locate here p with
  | error cause => simp
  | ok place =>
    cases hentry : t.entryAt? place with
    | some e => simp [hentry]
    | none => cases hrefusal : t.refusal? .make place <;> simp [hentry, hrefusal]

/-- a directory that is not made changes nothing -/
theorem makeDir_eq_error {cause : Cause} (h : t.makeDir here p = (.error cause, t')) : t' = t := by
  unfold makeDir at h
  split at h
  · cases h
    rfl
  · split at h <;> cases h <;> rfl

theorem walk_append (t : Tree) (place : Place) (ms ns : List String) :
    t.walk place (ms ++ ns) = (t.walk place ms).bind fun place => t.walk place ns := by
  induction ms generalizing place with
  | nil => rfl
  | cons m ms ih =>
    rw [List.cons_append, walk_cons, walk_cons]
    cases t.enter place m with
    | error cause => rfl
    | ok next => exact ih next

/-- a path leads to where the link leads that may stand at its own place -/
theorem resolve_eq_locate (hnames : p.names ≠ []) :
    t.resolve here p = (t.locate here p).bind t.follow := by
  unfold resolve locate
  split
  · rfl
  · rw [List.getLast?_eq_some_getLast hnames]
    conv_lhs => rw [← List.dropLast_concat_getLast hnames, walk_append]
    dsimp only
    cases t.walk (start here p) p.names.dropLast with
    | error cause => rfl
    | ok dir =>
      show (t.enter dir (p.names.getLast hnames)).bind (fun place => .ok place) = _
      unfold enter
      show _ = (t.step dir (p.names.getLast hnames)).bind t.follow
      cases (t.step dir (p.names.getLast hnames)).bind t.follow <;> rfl

end

end DdlToJava.Files.Tree

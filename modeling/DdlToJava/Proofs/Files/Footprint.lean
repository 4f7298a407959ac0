import DdlToJava.Proofs.Files.Tree

/-!
# What changes between two trees

`Footprint own before after` says that nothing goes away on the way from one tree to another: the
tree has grown, and what has changed is a new directory where nothing stood, or a file that `own`
allows at its place with its content.

* `Footprint.refl`, `Footprint.trans`  footprints add up;
* `footprint_write`, `footprint_makeDir`
                                       one operation on the tree, also one that fails;
* `contentAt?_write_self`, `contentAt?_write_of_ne`
                                       what paths lead to after a write that ended well;
* `stat_makeDir`, `makeDir_of_stat`    a directory that was made is there, and is not made again;
* `Footprint.fileAt?`                  a file that has changed is one that may.
-/

namespace DdlToJava.Files.Tree

/-- the content of the file at a place -/
def fileAt? (t : Tree) (place : Place) : Option (List UInt8) :=
  match t.entryAt? place with
  | some (.file content) => some content
  | _ => none

theorem fileAt?_eq_some {t : Tree} {place : Place} {content : List UInt8} :
    t.fileAt? place = some content ↔ t.entryAt? place = some (.file content) := by
  unfold fileAt?
  split
  · next other h =>
    rw [h]
    constructor
    · intro heq
      cases heq
      rfl
    · intro heq
      cases heq
      rfl
  · next h =>
    constructor
    · intro heq
      cases heq
    · intro heq
      exact absurd heq (h content)

/-- the content of the file that a path leads to -/
def contentAt? (t : Tree) (here : Place) (p : Path) : Option (List UInt8) :=
  match t.resolve here p with
  | .error _ => none
  | .ok place => t.fileAt? place

theorem contentAt?_eq_some {t : Tree} {here : Place} {p : Path} {content : List UInt8} :
    t.contentAt? here p = some content ↔
      ∃ place, t.resolve here p = .ok place ∧ t.entryAt? place = some (.file content) := by
  unfold contentAt?
  cases t.resolve here p with
  | error cause => simp
  | ok place => simp [fileAt?_eq_some]

/-- The tree has grown, and what has changed is a new directory or a file that `own` allows. -/
structure Footprint (own : Place → List UInt8 → Prop) (before after : Tree) : Prop
    extends Grown before after where
  changed : ∀ place, after.entryAt? place ≠ before.entryAt? place →
    (before.entryAt? place = none ∧ after.entryAt? place = some .directory) ∨
      ∃ content, own place content ∧ after.entryAt? place = some (.file content)

/-- no file may change -/
def NoFile (_ : Place) (_ : List UInt8) : Prop := False

/-- every file may change -/
def AnyFile (_ : Place) (_ : List UInt8) : Prop := True

section
variable {own own' : Place → List UInt8 → Prop} {t t' t'' : Tree} {here place q : Place} {p : Path}
  {content : List UInt8}

theorem Footprint.refl (t : Tree) : Footprint own t t :=
  ⟨.refl t, fun _ h => absurd rfl h⟩

theorem Footprint.trans (h : Footprint own t t') (h' : Footprint own t' t'') :
    Footprint own t t'' := by
  refine ⟨h.toGrown.trans h'.toGrown, fun place hne => ?_⟩
  by_cases hlast : t''.entryAt? place = t'.entryAt? place
  · rw [hlast] at hne ⊢
    exact h.changed place hne
  · rcases h'.changed place hlast with ⟨hnone, hdir⟩ | hfile
    · -- nothing stood there in the middle, so nothing stood there before
      by_cases hfirst : t'.entryAt? place = t.entryAt? place
      · rw [hfirst] at hnone
        exact Or.inl ⟨hnone, hdir⟩
      · rcases h.changed place hfirst with ⟨-, hmid⟩ | ⟨content, -, hmid⟩
        · rw [hmid] at hnone
          cases hnone
        · rw [hmid] at hnone
          cases hnone
    · exact Or.inr hfile

theorem Footprint.mono (h : Footprint own t t')
    (hown : ∀ place content, own place content → own' place content) : Footprint own' t t' := by
  refine ⟨h.toGrown, fun place hne => ?_⟩
  rcases h.changed place hne with hdir | ⟨content, hcontent, hfile⟩
  · exact Or.inl hdir
  · exact Or.inr ⟨content, hown place content hcontent, hfile⟩

/-! ## operations -/

/-- a put changes one place -/
theorem eq_of_entryAt?_put_ne {e : Entry} (h : (t.put place e).entryAt? q ≠ t.entryAt? q) :
    q = place := by
  by_contra hne
  exact h (entryAt?_put_of_ne t e hne)

/-- A write changes the file that its path leads to: it holds the content if the write ends well,
and a beginning of it if the write breaks off. -/
theorem footprint_write (t : Tree) (here : Place) (p : Path) (content : List UInt8) :
    Footprint (fun place c => t.resolve here p = .ok place ∧ c <+: content ∧
      ((t.write here p content).1 = .ok () ∧ c = content ∨
        ∃ cause, (t.write here p content).1 = .error (.broken cause)))
      t (t.write here p content).2 := by
  rcases t.write_cases here p content with ⟨cause, heq⟩ | ⟨place, hopens⟩
  · rw [heq]
    exact .refl t
  · have hself := entryAt?_put_self t place (.file (t.fit place content).2) hopens.ne_nil
    rw [hopens.write_eq]
    refine ⟨hopens.grown _, fun other hne => ?_⟩
    rw [eq_of_entryAt?_put_ne hne]
    refine .inr ⟨_, ⟨hopens.leads, ?_⟩, hself⟩
    rcases t.fit_cases place content with hfit | ⟨n, cause, -, hfit⟩
    · rw [hfit]
      exact ⟨List.prefix_rfl, .inl ⟨rfl, rfl⟩⟩
    · rw [hfit]
      exact ⟨List.take_prefix n content, .inr ⟨cause, rfl⟩⟩

theorem footprint_put_directory (hplace : t.entryAt? place = none) :
    Footprint own t (t.put place .directory) := by
  have hfree : t.entryAt? place ≠ some .directory := by
    rw [hplace]
    exact nofun
  have hne : place ≠ [] := by
    rintro rfl
    exact hfree rfl
  constructor
  case toGrown =>
    refine grown_put hfree ?_ nofun fun h => absurd hplace h
    rw [hplace]
    exact nofun
  case changed =>
    intro other hother
    rw [eq_of_entryAt?_put_ne hother]
    exact .inl ⟨hplace, entryAt?_put_self t place .directory hne⟩

/-- a new directory changes no file -/
theorem footprint_makeDir (t : Tree) (here : Place) (p : Path) :
    Footprint own t (t.makeDir here p).2 := by
  cases hmake : t.makeDir here p with
  | mk result t' =>
    cases result with
    | error cause =>
      rw [makeDir_eq_error hmake]
      exact .refl t
    | ok u =>
      obtain ⟨place, -, hentry, -, rfl⟩ := makeDir_eq_ok.mp hmake
      exact footprint_put_directory hentry

/-! ## one operation after the other -/

/-- a file that was written holds what was written -/
theorem contentAt?_write_self (hwrite : t.write here p content = (.ok (), t')) :
    t'.contentAt? here p = some content := by
  obtain ⟨place, hopens, -, rfl⟩ := write_eq_ok.mp hwrite
  exact contentAt?_eq_some.mpr ⟨place, (hopens.grown content).resolve hopens.leads,
    entryAt?_put_self t place _ hopens.ne_nil⟩

/-- a write through a path that leads elsewhere keeps a file -/
theorem contentAt?_write_of_ne {other : List UInt8} {p' : Path}
    (hwrite : t.write here p content = (.ok (), t'))
    (hcontent : t.contentAt? here p' = some other)
    (hne : t'.resolve here p' ≠ t'.resolve here p) : t'.contentAt? here p' = some other := by
  obtain ⟨place, hopens, -, rfl⟩ := write_eq_ok.mp hwrite
  obtain ⟨q, hq, hentry⟩ := contentAt?_eq_some.mp hcontent
  have hgrown := hopens.grown content
  rw [hgrown.resolve hopens.leads, hgrown.resolve hq] at hne
  refine contentAt?_eq_some.mpr ⟨q, hgrown.resolve hq, ?_⟩
  rw [entryAt?_put_of_ne t _ fun h => hne (congrArg _ h)]
  exact hentry

/-- a path without a link at its own place leads there -/
theorem resolve_of_locate (h : t.locate here p = .ok place)
    (hlink : ∀ target, t.entryAt? place ≠ some (.link target)) : t.resolve here p = .ok place := by
  by_cases hnames : p.names = []
  · unfold locate at h
    unfold resolve
    split at h
    · cases h
    · next hlimit =>
      rw [hnames] at h ⊢
      rw [if_neg hlimit]
      exact h
  · rw [resolve_eq_locate hnames, h]
    show t.follow place = _
    unfold follow
    split
    · next target htarget => exact absurd htarget (hlink target)
    · rfl

/-- what a path leads to stands at its own place, or a link does -/
theorem exists_locate_of_resolve {e : Entry} (h : t.resolve here p = .ok place)
    (hentry : t.entryAt? place = some e) :
    ∃ own e', t.locate here p = .ok own ∧ t.entryAt? own = some e' := by
  by_cases hnames : p.names = []
  · unfold resolve at h
    unfold locate
    split at h
    · cases h
    · next hlimit =>
      rw [hnames] at h ⊢
      cases h
      rw [if_neg hlimit]
      exact ⟨_, e, rfl, hentry⟩
  · rw [resolve_eq_locate hnames] at h
    obtain ⟨own, hown, hfollow⟩ := bind_eq_ok.mp h
    unfold follow at hfollow
    split at hfollow
    · next target htarget => exact ⟨own, _, hown, htarget⟩
    · cases hfollow
      exact ⟨_, e, hown, hentry⟩

/-- a directory that was made is there -/
theorem stat_makeDir (hmake : t.makeDir here p = (.ok (), t')) :
    t'.stat here p = .ok .directory := by
  have hfootprint : Footprint NoFile t (t.makeDir here p).2 := footprint_makeDir t here p
  have hgrown := hfootprint.toGrown
  obtain ⟨place, hplace, hentry, -, hput⟩ := makeDir_eq_ok.mp hmake
  have hself := entryAt?_put_self t place .directory (by
    rintro rfl
    cases hentry)
  rw [hmake] at hgrown
  rw [hput] at hself
  refine stat_eq_ok.mpr ⟨place, resolve_of_locate (hgrown.locate hplace) ?_, hself⟩
  rw [hself]
  exact nofun

/-- what is there cannot be made -/
theorem makeDir_of_stat {e : Entry} (h : t.stat here p = .ok e) :
    t.makeDir here p = (.error .exists, t) := by
  obtain ⟨place, hplace, hentry⟩ := stat_eq_ok.mp h
  obtain ⟨own, e', hown, hthere⟩ := exists_locate_of_resolve hplace hentry
  unfold makeDir
  rw [hown]
  dsimp only
  rw [hthere]

/-! ## consequences -/

/-- a file that has changed is one that may -/
theorem Footprint.fileAt? (h : Footprint own t t') (hne : t'.fileAt? place ≠ t.fileAt? place) :
    ∃ content, own place content ∧ t'.fileAt? place = some content := by
  have hentry : t'.entryAt? place ≠ t.entryAt? place := by
    intro heq
    apply hne
    unfold Tree.fileAt?
    rw [heq]
  rcases h.changed place hentry with ⟨hnone, hdir⟩ | ⟨content, hown, hfile⟩
  · apply absurd _ hne
    unfold Tree.fileAt?
    rw [hnone, hdir]
  · exact ⟨content, hown, fileAt?_eq_some.mpr hfile⟩

end

end DdlToJava.Files.Tree

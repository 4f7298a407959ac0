import DdlToJava.Path

/-!
# The file tree

A tree says what stands at every place: a directory, a file with its bytes, a link to another
place, or nothing.  A place is the list of names from the top.  A path is walked from a working
directory name by name; every name but the last has to be a directory, and links are followed on
the way.  The four operations on paths are `stat`, `read`, `write` and `makeDir`.

The system may refuse an operation at a place, or let a file take so many bytes only: a write of
more breaks off, and what has been written by then stays.
-/

namespace DdlToJava.Files

/-- why an operation on a path fails -/
inductive Cause where
  | missing
  | exists
  | notDirectory
  | isDirectory
  | nameTooLong
  | denied
  | loop
  | other (code : Nat) (text : String)
  deriving DecidableEq, Repr

/-- the number of a cause -/
def Cause.code : Cause → Nat
  | .missing => 2
  | .exists => 17
  | .notDirectory => 20
  | .isDirectory => 21
  | .nameTooLong => 36
  | .denied => 13
  | .loop => 40
  | .other code _ => code

/-- the words for a cause -/
def Cause.text : Cause → String
  | .missing => "No such file or directory"
  | .exists => "File exists"
  | .notDirectory => "Not a directory"
  | .isDirectory => "Is a directory"
  | .nameTooLong => "File name too long"
  | .denied => "Permission denied"
  | .loop => "Too many levels of symbolic links"
  | .other _ text => text

/-- does the cause say that nothing is there?  No entry, a file on the way, a loop of links, or a
descriptor that is not open. -/
def Cause.isAbsence (cause : Cause) : Bool :=
  let code := cause.code
  code = 2 || code = 20 || code = 40 || code = 9

/-- why a write fails -/
inductive WriteFault where
  /-- the file was not opened, and nothing has happened to it -/
  | refused (cause : Cause)
  /-- the write broke off -/
  | broken (cause : Cause)
  deriving DecidableEq, Repr

/-- the names from the top down to a place -/
abbrev Place := List String

/-- what stands at a place -/
inductive Entry where
  | directory
  | file (content : List UInt8)
  /-- a symbolic link, or a second name of a file; its target is no link itself -/
  | link (target : Place)
  deriving DecidableEq, Repr

/-- what the system may refuse at a place -/
inductive Access where
  | search
  | read
  | write
  | make
  deriving DecidableEq, Repr

/-- why the system refuses what is there; it does not say that there is nothing -/
structure Refusal where
  cause : Cause
  present : cause ≠ .missing
  deriving DecidableEq, Repr

/-- the places below the top that hold something, and what the system makes of them -/
structure Tree where
  entries : List (Place × Entry) := []
  /-- what is refused, and why -/
  refusals : List ((Access × Place) × Refusal) := []
  /-- how many bytes a file can take, and why a write of more breaks off -/
  limits : List (Place × Nat × Cause) := []
  deriving DecidableEq, Repr

namespace Tree

/-! ## places -/

/-- what stands at a place; the top is a directory -/
def entryAt? (t : Tree) (place : Place) : Option Entry :=
  if place = [] then some .directory else t.entries.lookup place

/-- the tree with `e` at a place -/
def put (t : Tree) (place : Place) (e : Entry) : Tree :=
  { t with entries := (place, e) :: t.entries.filter fun x => x.1 != place }

/-- why an operation at a place is refused, if it is -/
def refusal? (t : Tree) (access : Access) (place : Place) : Option Cause :=
  (t.refusals.lookup (access, place)).map (·.cause)

theorem refusal?_ne_missing (t : Tree) (access : Access) (place : Place) :
    t.refusal? access place ≠ some .missing := by
  unfold refusal?
  cases t.refusals.lookup (access, place) with
  | none => exact nofun
  | some r => exact fun h => r.present (Option.some.inj h)

theorem entryAt?_put_self (t : Tree) (place : Place) (e : Entry) (h : place ≠ []) :
    (t.put place e).entryAt? place = some e := by
  simp [entryAt?, put, h]

theorem lookup_filter_ne (entries : List (Place × Entry)) {place other : Place}
    (h : other ≠ place) :
    (entries.filter fun x => x.1 != place).lookup other = entries.lookup other := by
  induction entries with
  | nil => rfl
  | cons x xs ih =>
    obtain ⟨p, e⟩ := x
    by_cases hp : p = place
    · subst hp
      have : (other == p) = false := by simp [h]
      simp [List.lookup_cons, this, ih]
    · simp [hp, List.lookup_cons, ih]

theorem entryAt?_put_of_ne (t : Tree) {place other : Place} (e : Entry) (h : other ≠ place) :
    (t.put place e).entryAt? other = t.entryAt? other := by
  have hb : (other == place) = false := by simp [h]
  simp [entryAt?, put, List.lookup_cons, hb, lookup_filter_ne _ h]

/-! ## walking -/

/-- how many bytes a name may have -/
def nameLimit : Nat := 255

/-- how many bytes a path may have -/
def pathLimit : Nat := 4095

/-- one can go on from a directory that may be searched -/
def pass (t : Tree) (place : Place) : Except Cause Unit :=
  match t.entryAt? place with
  | none => .error .missing
  | some (.file _) => .error .notDirectory
  | some (.link _) => .error .loop
  | some .directory =>
    match t.refusal? .search place with
    | some cause => .error cause
    | none => .ok ()

/-- the place that a name stands for in a directory -/
def step (t : Tree) (place : Place) (name : String) : Except Cause Place := do
  t.pass place
  if name = ".." then .ok place.dropLast
  else if name.utf8ByteSize > nameLimit then .error .nameTooLong
  else .ok (place ++ [name])

/-- the place that names lead to without a link -/
def descend (t : Tree) (place : Place) : List String → Except Cause Place
  | [] =>
    match t.entryAt? place with
    | some (.link _) => .error .loop
    | _ => .ok place
  | n :: ns => (t.pass place).bind fun _ => descend t (place ++ [n]) ns

/-- the place behind the link that may stand at a place -/
def follow (t : Tree) (place : Place) : Except Cause Place :=
  match t.entryAt? place with
  | some (.link target) => t.descend [] target
  | _ => .ok place

/-- the place that a name leads to from a place -/
def enter (t : Tree) (place : Place) (name : String) : Except Cause Place :=
  (t.step place name).bind t.follow

/-- the place that names lead to from a place -/
def walk (t : Tree) (place : Place) : List String → Except Cause Place
  | [] => .ok place
  | n :: ns => (t.enter place n).bind fun place => walk t place ns

theorem walk_nil (t : Tree) (place : Place) : t.walk place [] = .ok place := rfl

theorem walk_cons (t : Tree) (place : Place) (n : String) (ns : List String) :
    t.walk place (n :: ns) = (t.enter place n).bind fun place => t.walk place ns := rfl

/-- where a path starts -/
def start (here : Place) (p : Path) : Place := if p.root = .here then here else []

/-- the place that a path leads to from the working directory; there may be nothing at it -/
def resolve (t : Tree) (here : Place) (p : Path) : Except Cause Place :=
  if p.toString.utf8ByteSize > pathLimit then .error .nameTooLong
  else t.walk (start here p) p.names

/-- the place of a path itself, where a link may stand -/
def locate (t : Tree) (here : Place) (p : Path) : Except Cause Place :=
  if p.toString.utf8ByteSize > pathLimit then .error .nameTooLong
  else match p.names.getLast? with
    | none => .ok (start here p)
    | some n => (t.walk (start here p) p.names.dropLast).bind fun place => t.step place n

/-! ## operations -/

/-- what stands at a path -/
def stat (t : Tree) (here : Place) (p : Path) : Except Cause Entry := do
  let place ← t.resolve here p
  match t.entryAt? place with
  | none => .error .missing
  | some e => .ok e

/-- the bytes of a file, if it may be read -/
def read (t : Tree) (here : Place) (p : Path) : Except Cause (List UInt8) := do
  let place ← t.resolve here p
  match t.entryAt? place, t.refusal? .read place with
  | none, _ => .error .missing
  | some _, some cause => .error cause
  | some (.file content), none => .ok content
  | some _, none => .error .isDirectory

/-- how much of a content fits into the file at a place, and why the rest does not -/
def fit (t : Tree) (place : Place) (content : List UInt8) :
    Except WriteFault Unit × List UInt8 :=
  match t.limits.lookup place with
  | none => (.ok (), content)
  | some (n, cause) =>
    if content.length ≤ n then (.ok (), content) else (.error (.broken cause), content.take n)

/-- the tree with a file at a path, in place of the file that may be there; a write that breaks off
leaves the beginning of the content -/
def write (t : Tree) (here : Place) (p : Path) (content : List UInt8) :
    Except WriteFault Unit × Tree :=
  match t.resolve here p with
  | .error cause => (.error (.refused cause), t)
  | .ok place =>
    match t.entryAt? place, t.refusal? .write place with
    | some .directory, _ => (.error (.refused .isDirectory), t)
    | some (.link _), _ => (.error (.refused .loop), t)
    | _, some cause => (.error (.refused cause), t)
    | _, none => ((t.fit place content).1, t.put place (.file (t.fit place content).2))

/-- the tree with a new directory at a path -/
def makeDir (t : Tree) (here : Place) (p : Path) : Except Cause Unit × Tree :=
  match t.locate here p with
  | .error cause => (.error cause, t)
  | .ok place =>
    match t.entryAt? place, t.refusal? .make place with
    | some _, _ => (.error .exists, t)
    | none, some cause => (.error cause, t)
    | none, none => (.ok (), t.put place .directory)

end Tree

end DdlToJava.Files

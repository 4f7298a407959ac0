import DdlToJava.Text.Pieces

/-!
# Paths

A path is a root and the names that lead away from it.  Reading a path drops empty names and
single dots; a double dot stays, since what it leads to depends on the file tree.  Exactly two
leading slashes are a root of their own; one slash, or three and more, are the ordinary root.
-/

namespace DdlToJava

/-- where a path starts -/
inductive Path.Root where
  | here
  | slash
  | doubleSlash
  deriving DecidableEq, Repr

/-- a path without empty names and single dots -/
structure Path where
  root : Path.Root := .here
  names : List String := []
  deriving DecidableEq, Repr

namespace Path

/-- the text that a root puts in front of the names -/
def Root.text : Root → String
  | .here => ""
  | .slash => "/"
  | .doubleSlash => "//"

/-- the root at the front of a written path -/
def rootOf : List Char → Root
  | '/' :: '/' :: '/' :: _ => .slash
  | '/' :: '/' :: _ => .doubleSlash
  | '/' :: _ => .slash
  | _ => .here

/-- the path that a text writes -/
def ofString (s : String) : Path where
  root := rootOf s.toList
  names := ((Text.pieces '/' s.toList).filter fun p => p ≠ [] && p ≠ ['.']).map String.ofList

/-- the written form of a path; the path that leads nowhere is a dot -/
def toString (p : Path) : String :=
  match p.root, p.names with
  | .here, [] => "."
  | r, ns => r.text ++ String.intercalate "/" ns

/-- the path `q` taken from `p`; a `q` with a root of its own replaces `p` -/
def append (p q : Path) : Path :=
  if q.root = .here then { p with names := p.names ++ q.names } else q

/-- is there a NUL character in the path?  No file system takes such a path. -/
def hasNul (p : Path) : Bool := p.names.any fun n => n.toList.contains '\x00'

/-- the path without its last name -/
def parent (p : Path) : Path := { p with names := p.names.dropLast }

instance : Append Path := ⟨append⟩

theorem append_def (p q : Path) :
    p ++ q = if q.root = .here then { p with names := p.names ++ q.names } else q := rfl

theorem parent_names (p : Path) : p.parent.names = p.names.dropLast := rfl

end Path

end DdlToJava

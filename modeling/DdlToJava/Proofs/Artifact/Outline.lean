import DdlToJava.Artifact.Basic
import DdlToJava.Proofs.Text.Rows

/-!
# The outline of generated sources

What the generated sources declare, read off their rows: the fields of the entity, and of the
transfer objects the interfaces with their methods, the fields of the request class and the two
clauses that name the interfaces.  The readers know the indent, and nothing of the table.

* `between?`        what stands between the front and the back of a row;
* `member?`         a type and a name with a space between them; a type may have spaces too;
* `scan`            the interfaces, row by row;
* `entityFields`, `readDto`
                    the readers of the two artifacts.

A row with a marker can be any text, so `readDto` sets the row behind the head of an interface aside
if it is told that there is a marker.
-/

namespace DdlToJava.Outline

open Text

/-! ## rows -/

/-- what stands in a row between a front and a back -/
def between? (front back row : String) : Option String :=
  let inner := row.toList.drop front.toList.length
  if front.toList.isPrefixOf row.toList && back.toList.isSuffixOf inner then
    some (String.ofList (inner.take (inner.length - back.toList.length)))
  else none

/-- a type and a name, or a return type and the name of a method -/
structure Member where
  type : String
  name : String
  deriving DecidableEq, Repr

/-- a type and a name, cut at the last space -/
def member? (text : String) : Option Member :=
  match text.toList.reverse.dropWhile (· ≠ ' ') with
  | [] => none
  | _ :: type =>
    some ⟨String.ofList type.reverse,
      String.ofList (text.toList.reverse.takeWhile (· ≠ ' ')).reverse⟩

/-- the private field that a row declares -/
def field? (front row : String) : Option Member :=
  (between? (front ++ "private ") ";" row).bind member?

/-- the method without parameters that a row declares -/
def method? (front row : String) : Option Member := (between? front "();" row).bind member?

/-- the names of a list with commas -/
def listed (names : String) : List String :=
  (pieces ',' names.toList).map fun p => String.ofList (p.dropWhile (· = ' '))

/-- the names in the clause of a class, or no names if it has no clause -/
def clause? (front word back row : String) : Option (List String) :=
  (between? front back row).bind fun clause =>
    if clause = "" then some []
    else (between? (" " ++ word ++ " ") "" clause).map listed

/-! ## sources -/

/-- the row behind which the fields of an entity stand -/
def versionRow (indent : String) : String :=
  indent ++ "private static final long serialVersionUID = 1L;"

/-- the private fields of an entity other than its version -/
def entityFields (indent : String) (rows : List String) : List Member :=
  (rows.dropWhile (· ≠ versionRow indent)).tail.filterMap (field? indent)

/-- a declared interface -/
structure Interface where
  name : String
  methods : List Member
  deriving DecidableEq, Repr

/-- where the reader of the interfaces is -/
inductive Mode where
  | gap
  | head
  | marker
  | body
  deriving DecidableEq, Repr

/-- what rows hold: the methods of the interface that is open, the interfaces behind it, and the
rows behind all interfaces -/
structure Found where
  methods : List Member := []
  interfaces : List Interface := []
  rest : List String
  deriving DecidableEq, Repr

/-- the head of an interface, up to its name -/
def interfaceFront (indent : String) : String := Dto.nested indent 1 ++ "protected interface "

/-- the end of an interface -/
def interfaceEnd (indent : String) : String := Dto.nested indent 1 ++ "\x7d"

/-- read interfaces; each stands behind a blank row, and may have a marker behind its head -/
def scan (indent : String) (marked : Bool) : Mode → List String → Option Found
  | _, [] => none
  | .gap, row :: rows => if row = "" then scan indent marked .head rows else none
  | .head, row :: rows =>
    match between? (interfaceFront indent) " \x7b" row with
    | none => some { rest := row :: rows }
    | some name =>
      (scan indent marked (if marked then .marker else .body) rows).map fun found =>
        { found with methods := [], interfaces := ⟨name, found.methods⟩ :: found.interfaces }
  | .marker, _ :: rows => scan indent marked .body rows
  | .body, row :: rows =>
    if row = interfaceEnd indent then scan indent marked .gap rows
    else
      (scan indent marked .body rows).map fun found =>
        { found with methods := (method? (Dto.nested indent 2) row).toList ++ found.methods }

/-- the fields up to the end of a class, and the rows behind it -/
def readFields (front close : String) : List String → Option (List Member × List String)
  | [] => none
  | row :: rows =>
    if row = close then some ([], rows)
    else do
      let field ← field? front row
      let (fields, rest) ← readFields front close rows
      some (field :: fields, rest)

/-- the row that opens the response -/
def responseRow (indent : String) : String := Dto.nested indent 1 ++ "public enum Response \x7b;"

end Outline

/-- what the transfer objects declare -/
structure Outline where
  interfaces : List Outline.Interface
  /-- the interfaces of the request class -/
  implemented : List String
  /-- the fields of the request class -/
  fields : List Outline.Member
  /-- the interfaces of the response -/
  extended : List String
  deriving DecidableEq, Repr

namespace Outline

open Text

/-- read the transfer objects -/
def readDto (indent : String) (marked : Bool) (rows : List String) : Option Outline := do
  let found ← scan indent marked .gap (rows.drop 3)
  match found.rest with
  | _ :: _ :: base :: rows => do
    let implemented ← clause? (Dto.nested indent 2 ++ "public static class Base") "implements"
      " \x7b" base
    let (fields, rows) ← readFields (Dto.nested indent 3) (Dto.nested indent 2 ++ "\x7d") rows
    match rows.dropWhile (· ≠ responseRow indent) with
    | _ :: buscar :: _ => do
      let extended ← clause? (Dto.nested indent 2 ++ "public interface Buscar") "extends"
        " \x7b\x7d" buscar
      some ⟨found.interfaces, implemented, fields, extended⟩
    | _ => none
  | _ => none

/-! ## rows in front of a row -/

theorem ne_of_getLast? {a b : String} (k : Char) (ha : a.toList.getLast? = some k)
    (hb : b.toList.getLast? ≠ some k) : a ≠ b := by
  rintro rfl
  exact hb ha

/-- reading on to a row that has not come yet -/
theorem dropWhile_ne {row : String} (front : List String) (h : ∀ other ∈ front, other ≠ row)
    (rows : List String) : (front ++ row :: rows).dropWhile (· ≠ row) = row :: rows := by
  have hfront : ∀ other ∈ front, decide (other ≠ row) = true :=
    fun other hother => decide_eq_true (h other hother)
  rw [List.dropWhile_append_of_pos hfront, List.dropWhile_cons_of_neg (by simp)]

/-! ## what the readers of a row find -/

section
variable {front back row inner : String} {c : Char}

theorem between?_eq_some : between? front back row = some inner ↔ row = front ++ inner ++ back := by
  unfold between?
  rw [← @String.toList_inj row, String.toList_append, String.toList_append]
  constructor
  · intro h
    dsimp only at h
    split at h
    · next hends =>
      rw [Bool.and_eq_true, List.isPrefixOf_iff_prefix, List.isSuffixOf_iff_suffix] at hends
      obtain ⟨⟨tail, htail⟩, hback⟩ := hends
      rw [← htail, List.drop_left] at hback h
      obtain ⟨x, hx⟩ := hback
      cases h
      rw [← htail, ← hx, List.length_append, Nat.add_sub_cancel, List.take_left,
        String.toList_ofList, List.append_assoc]
    · cases h
  · intro h
    have hends : (front.toList.isPrefixOf row.toList &&
        back.toList.isSuffixOf (row.toList.drop front.toList.length)) = true := by
      rw [Bool.and_eq_true, List.isPrefixOf_iff_prefix, List.isSuffixOf_iff_suffix, h,
        List.append_assoc, List.drop_left]
      exact ⟨List.prefix_append _ _, List.suffix_append _ _⟩
    dsimp only
    rw [if_pos hends, h, List.append_assoc, List.drop_left, List.length_append, Nat.add_sub_cancel,
      List.take_left, String.ofList_toList]

theorem between?_append (front inner back : String) :
    between? front back (front ++ inner ++ back) = some inner :=
  between?_eq_some.mpr rfl

/-- the last character of a row is that of its back -/
theorem between?_eq_none (hback : back.toList.getLast? = some c)
    (hrow : row.toList.getLast? ≠ some c) : between? front back row = none := by
  refine Option.eq_none_iff_forall_ne_some.mpr fun inner h => hrow ?_
  rw [between?_eq_some.mp h, String.toList_append, List.getLast?_append, hback]
  rfl

/-- a name without a space, behind a type -/
theorem member?_append (type : String) {name : String} (hname : ' ' ∉ name.toList) :
    member? (type ++ " " ++ name) = some ⟨type, name⟩ := by
  have hrev : (type ++ " " ++ name).toList.reverse =
      name.toList.reverse ++ ' ' :: type.toList.reverse := by
    rw [String.toList_append, String.toList_append, List.reverse_append, List.reverse_append]
    rfl
  have hkept : ∀ d ∈ name.toList.reverse, decide (d ≠ ' ') = true := by
    intro d hd
    rw [decide_eq_true_eq]
    rintro rfl
    exact hname (List.mem_reverse.mp hd)
  unfold member?
  rw [hrev, List.dropWhile_append_of_pos hkept, List.takeWhile_append_of_pos hkept,
    List.dropWhile_cons_of_neg (by decide), List.takeWhile_cons_of_neg (by decide),
    List.append_nil]
  dsimp only
  rw [List.reverse_reverse, List.reverse_reverse, String.ofList_toList, String.ofList_toList]

theorem field?_row (front type : String) {name : String} (hname : ' ' ∉ name.toList) :
    field? front (front ++ "private " ++ type ++ " " ++ name ++ ";") = some ⟨type, name⟩ := by
  have hrow : front ++ "private " ++ type ++ " " ++ name ++ ";" =
      (front ++ "private ") ++ (type ++ " " ++ name) ++ ";" := by
    simp only [String.append_assoc]
  unfold field?
  rw [hrow, between?_append, Option.bind_some, member?_append type hname]

theorem method?_row (front type : String) {name : String} (hname : ' ' ∉ name.toList) :
    method? front (front ++ type ++ " get" ++ name ++ "();") = some ⟨type, "get" ++ name⟩ := by
  have hrow : front ++ type ++ " get" ++ name ++ "();" =
      front ++ (type ++ " " ++ ("get" ++ name)) ++ "();" := by
    rw [show " get" = " " ++ "get" by decide]
    simp only [String.append_assoc]
  have hget : ' ' ∉ ("get" ++ name).toList := by
    rw [String.toList_append, List.mem_append]
    exact not_or.mpr ⟨by decide, hname⟩
  unfold method?
  rw [hrow, between?_append, Option.bind_some, member?_append type hget]

theorem field?_eq_none (h : row.toList.getLast? ≠ some ';') : field? front row = none := by
  unfold field?
  rw [between?_eq_none (c := ';') (by decide) h]
  rfl

theorem method?_eq_none (h : row.toList.getLast? ≠ some ';') : method? front row = none := by
  unfold method?
  rw [between?_eq_none (c := ';') (by decide) h]
  rfl

/-! ## lists of names -/

theorem dropWhile_space {cs : List Char} (h : ' ' ∉ cs) : cs.dropWhile (· = ' ') = cs := by
  cases cs with
  | nil => rfl
  | cons d ds =>
    refine List.dropWhile_cons_of_neg ?_
    rw [decide_eq_true_eq]
    rintro rfl
    exact h (List.mem_cons_self ..)

/-- a space in front of the first piece does not matter -/
theorem map_dropWhile_pieces_space (cs : List Char) :
    (pieces ',' (' ' :: cs)).map (·.dropWhile (· = ' ')) =
      (pieces ',' cs).map (·.dropWhile (· = ' ')) := by
  obtain ⟨p, ps, hp⟩ := List.exists_cons_of_ne_nil (pieces_ne_nil ',' cs)
  rw [pieces_cons_of_ne cs (by decide), hp]
  rfl

/-- names with a comma and a space between them -/
theorem listed_intercalate {names : List String} (hne : names ≠ [])
    (h : ∀ n ∈ names, ',' ∉ n.toList ∧ ' ' ∉ n.toList) :
    listed (String.intercalate ", " names) = names := by
  have hpieces : (pieces ',' ((", ").toList.intercalate (names.map String.toList))).map
      (·.dropWhile (· = ' ')) = names.map String.toList := by
    induction names with
    | nil => exact absurd rfl hne
    | cons n ns ih =>
      obtain ⟨hcomma, hspace⟩ := h n (List.mem_cons_self ..)
      cases ns with
      | nil =>
        rw [List.map_cons, List.map_nil, List.intercalate_singleton, pieces_of_not_mem hcomma,
          List.map_cons, List.map_nil, dropWhile_space hspace]
      | cons m ms =>
        have hrest := ih (List.cons_ne_nil m ms) fun k hk => h k (List.mem_cons_of_mem _ hk)
        rw [List.map_cons, List.map_cons, List.intercalate_cons_cons, List.append_assoc]
        show (pieces ',' (n.toList ++ ',' :: ' ' :: (", ").toList.intercalate _)).map _ = _
        rw [pieces_append_sep hcomma, List.map_cons, map_dropWhile_pieces_space,
          dropWhile_space hspace]
        exact congrArg (n.toList :: ·) hrest
  have hnames := congrArg (List.map String.ofList) hpieces
  rw [List.map_map, List.map_map] at hnames
  unfold listed
  rw [String.toList_intercalate]
  exact hnames.trans (List.map_id'' (fun _ => String.ofList_toList) names)

end

end DdlToJava.Outline

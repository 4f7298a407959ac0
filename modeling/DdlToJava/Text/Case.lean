import DdlToJava.Text.Ranges
import DdlToJava.Text.CaseTable

/-!
# Capitals and small letters

`upper` and `lower` change the case of a whole text.  Some capitals take several characters (`ß`
becomes `SS`), `İ` becomes a small i with a dot above, and a capital sigma at the end of a word
becomes the final `ς`: a letter stands before it and none after it, where marks such as the
apostrophe are looked through.  `capitalize` touches the first character only.
-/

namespace DdlToJava.Text

/-! ## one character -/

/-- the partner of the letter `n` in a case table -/
def partner? (rows : List (Nat × Nat × Nat × Nat)) (n : Nat) : Option Nat :=
  (rows.find? fun (first, last, step, _) => first ≤ n && n ≤ last && (n - first) % step = 0).map
    fun (first, _, _, image) => image + (n - first)

/-- the partner of `c` in a case table, `c` itself if it has none -/
def partner (rows : List (Nat × Nat × Nat × Nat)) (c : Char) : Char :=
  match partner? rows c.toNat with
  | some n => Char.ofNat n
  | none => c

/-- the capital of a character -/
def upperChar (c : Char) : List Char :=
  if c.toNat < 128 then [c.toUpper]
  else match upperSpellings.lookup c.toNat with
    | some ns => ns.map Char.ofNat
    | none => [partner upperRows c]

/-- the small letter of a character that stands alone -/
def lowerChar (c : Char) : List Char :=
  if c.toNat < 128 then [c.toLower]
  else if c = 'İ' then ['i', '\u0307']
  else [partner lowerRows c]

/-! ## whole texts -/

/-- the text in capitals -/
def upper (cs : List Char) : List Char := cs.flatMap upperChar

theorem upper_nil : upper [] = [] := rfl

theorem upper_cons (c : Char) (cs : List Char) : upper (c :: cs) = upperChar c ++ upper cs := by
  simp [upper]

theorem upper_append (a b : List Char) : upper (a ++ b) = upper a ++ upper b := by
  simp [upper]

/-- a letter with a case, as the neighbour of a sigma -/
def isCased (c : Char) : Bool :=
  if c.toNat < 128 then c.isAlpha else inRanges casedRanges c

/-- a mark that a sigma looks through -/
def isTransparent (c : Char) : Bool :=
  if c.toNat < 128 then ['\x27', '.', ':', '^', '\x60'].contains c else inRanges transparentRanges c

/-- is the first character that is no transparent mark a cased letter? -/
def startsCased (cs : List Char) : Bool :=
  match cs.dropWhile isTransparent with
  | [] => false
  | c :: _ => isCased c

/-- the text in small letters; `after` says whether a cased letter stands before it -/
def lowerFrom (after : Bool) : List Char → List Char
  | [] => []
  | c :: cs =>
    (if c = 'Σ' then [if after && !startsCased cs then 'ς' else 'σ'] else lowerChar c) ++
      lowerFrom (if isTransparent c then after else isCased c) cs

/-- the text in small letters -/
def lower (cs : List Char) : List Char := lowerFrom false cs

theorem lowerFrom_nil (after : Bool) : lowerFrom after [] = [] := rfl

theorem lower_nil : lower [] = [] := rfl

/-- a capital first character; the others stay -/
def capitalize : List Char → List Char
  | [] => []
  | c :: cs => upperChar c ++ cs

theorem capitalize_nil : capitalize [] = [] := rfl

theorem capitalize_cons (c : Char) (cs : List Char) :
    capitalize (c :: cs) = upperChar c ++ cs := rfl

end DdlToJava.Text

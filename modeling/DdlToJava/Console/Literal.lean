import DdlToJava.Text.Lines
import DdlToJava.Text.Word

/-!
# Literals

A literal is a value written out: a number, a text or bytes in quotes, a constant, or a tuple, set
or dictionary of literals.  Only whether a text is a literal matters here, not what value it has, so
a literal is known by its `Part`.  The parts of a text are taken onto a stack; a closing bracket
takes everything back to its opening bracket off the stack and puts one part there instead.
-/

namespace DdlToJava.Console.Literal

open Text

/-- a piece of a literal, as much as has been read of it -/
inductive Part where
  /-- a number without a sign -/
  | number (imaginary : Bool)
  /-- a number with a sign -/
  | signed (imaginary : Bool)
  /-- a text or bytes between quotes -/
  | quoted (bytes : Bool)
  /-- any other literal; `hashable` says whether a set may hold it -/
  | whole (hashable : Bool)
  /-- a pair of brackets with nothing between them -/
  | unit
  /-- the word that makes an empty set of a `unit` -/
  | setWord
  | sign
  | comma
  | colon
  | openRound
  | closeRound
  | openCurly
  | closeCurly
  deriving DecidableEq, Repr

/-! ## numbers -/

/-- digits with single underscores between them, and what follows them -/
def digits? (p : Char → Bool) (cs : List Char) : Option (List Char × List Char) :=
  match _h : run? p cs with
  | none => none
  | some (ds, '_' :: more) => (digits? p more).map fun (es, rest) => (ds ++ es, rest)
  | some (ds, rest) => some (ds, rest)
termination_by cs.length
decreasing_by
  have := run?_length _h
  simp only [List.length_cons] at this
  omega

/-- the letters behind a zero that name a base, and the digits of that base -/
def bases : List (Char × String) :=
  [('x', "0123456789abcdef"), ('o', "01234567"), ('b', "01")]

/-- a number in another base -/
def based? : List Char → Option (List Char)
  | '0' :: letter :: cs => do
    let allowed ← bases.lookup letter.toLower
    let cs := match cs with
      | '_' :: more => more
      | _ => cs
    let (_, rest) ← digits? (fun c => allowed.toList.contains c.toLower) cs
    some rest
  | _ => none

/-- what follows an exponent, if there is one; `e` without digits is no exponent -/
def exponent? : List Char → Option (Bool × List Char)
  | e :: cs =>
    if e = 'e' ∨ e = 'E' then do
      let cs := match cs with
        | '+' :: more => more
        | '-' :: more => more
        | _ => cs
      let (_, rest) ← digits? Char.isDigit cs
      some (true, rest)
    else some (false, e :: cs)
  | [] => some (false, [])

/-- what follows a point and the digits behind it, if there is a point -/
def fraction? : List Char → Option (Bool × List Char)
  | '.' :: c :: cs =>
    if c.isDigit then (digits? Char.isDigit (c :: cs)).map fun (_, rest) => (true, rest)
    else some (true, c :: cs)
  | ['.'] => some (true, [])
  | cs => some (false, cs)

/-- may a word go on with this character? -/
def continuesWord (c : Char) : Bool := c.isAlphanum || c = '_' || 128 ≤ c.toNat

/-- a decimal number, from behind its whole part; a whole part with needless zeros needs more -/
def decimalTail? (needless : Bool) (cs : List Char) : Option (Part × List Char) := do
  let (pointed, cs) ← fraction? cs
  let (raised, cs) ← exponent? cs
  match cs with
  | 'j' :: rest => some (.number true, rest)
  | 'J' :: rest => some (.number true, rest)
  | _ => if needless && !pointed && !raised then none else some (.number false, cs)

/-- a number; no word may begin right behind it -/
def number? (cs : List Char) : Option (Part × List Char) := do
  let (part, rest) ←
    match based? cs with
    | some rest => some (.number false, rest)
    | none =>
      match cs with
      | '.' :: c :: _ => if c.isDigit then decimalTail? false cs else none
      | _ => do
        let (ds, rest) ← digits? Char.isDigit cs
        decimalTail? (ds.head? = some '0' && ds.any (· ≠ '0')) rest
  if rest.head?.any continuesWord then none else some (part, rest)

/-! ## texts and bytes -/

/-- what follows a text in single quotes `q`, and what is in it; a line end has to be escaped -/
def simpleBody? (q : Char) : List Char → Option (List Char × List Char)
  | [] => none
  | '\\' :: c :: cs => (simpleBody? q cs).map fun (v, rest) => ('\\' :: c :: v, rest)
  | c :: cs =>
    if c = q then some ([], cs)
    else if c = '\n' then none
    else (simpleBody? q cs).map fun (v, rest) => (c :: v, rest)

/-- what follows a text in threefold quotes `q`, and what is in it -/
def longBody? (q : Char) : List Char → Option (List Char × List Char)
  | [] => none
  | '\\' :: c :: cs => (longBody? q cs).map fun (v, rest) => ('\\' :: c :: v, rest)
  | c :: cs =>
    match c :: cs with
    | a :: b :: d :: rest =>
      if a = q ∧ b = q ∧ d = q then some ([], rest)
      else (longBody? q cs).map fun (v, rest) => (c :: v, rest)
    | _ => none

/-- a hexadecimal digit -/
def isHexDigit (c : Char) : Bool :=
  c.isDigit || ('a' ≤ c.toLower && c.toLower ≤ 'f')

/-- does a text begin with `n` hexadecimal digits? -/
def startsHex (n : Nat) (cs : List Char) : Bool :=
  n ≤ cs.length && (cs.take n).all isHexDigit

/-- does a text begin with eight hexadecimal digits of a code point? -/
def startsCodePoint (cs : List Char) : Bool :=
  startsHex 8 cs && (cs.take 2).all (· = '0') &&
    ((cs.drop 2).head? = some '0' || (cs.drop 2).take 2 = ['1', '0'])

/-- does a text begin with the name of a character in curly brackets? -/
def startsName : List Char → Bool
  | '\x7b' :: cs =>
    let name := cs.takeWhile (· ≠ '\x7d')
    name ≠ [] && name.length < cs.length && name.all fun c => c.isAlphanum || c = ' ' || c = '-'
  | _ => false

/-- is every escape in a text complete?  Bytes have no escapes for characters beyond them. -/
def escapesHold (bytes : Bool) : List Char → Bool
  | [] => true
  | '\\' :: c :: cs =>
    (if c = 'x' then startsHex 2 cs
      else if bytes then true
      else if c = 'u' then startsHex 4 cs
      else if c = 'U' then startsCodePoint cs
      else if c = 'N' then startsName cs
      else true) && escapesHold bytes cs
  | _ :: cs => escapesHold bytes cs

/-- the letters in front of a text in quotes: are escapes left alone, and is it bytes? -/
def quotePrefixes : List (String × Bool × Bool) :=
  [("", false, false), ("u", false, false), ("r", true, false), ("b", false, true),
    ("br", true, true), ("rb", true, true)]

/-- a text or bytes in quotes `q`, from behind the first quote -/
def quotedTail? (raw bytes : Bool) (q : Char) (cs : List Char) : Option (Part × List Char) := do
  let (body, rest) ←
    match cs with
    | a :: b :: more =>
      if a = q ∧ b = q then longBody? q more else simpleBody? q cs
    | _ => simpleBody? q cs
  if (raw || escapesHold bytes body) && (!bytes || body.all fun c => c.toNat < 128) then
    some (.quoted bytes, rest)
  else none

/-- a text or bytes in quotes, with the letters in front of it -/
def quoted? (cs : List Char) : Option (Part × List Char) := do
  let letters := cs.takeWhile Char.isAlpha
  let (raw, bytes) ← quotePrefixes.lookup (String.ofList (letters.map Char.toLower))
  match cs.drop letters.length with
  | q :: rest => if q = '"' ∨ q = '\x27' then quotedTail? raw bytes q rest else none
  | [] => none

/-! ## words and marks -/

/-- the words that are literals or begin one -/
def words : List (String × Part) :=
  [("True", .whole true), ("False", .whole true), ("None", .whole true), ("set", .setWord)]

/-- a word -/
def word? (cs : List Char) : Option (Part × List Char) := do
  let (name, rest) ← run? continuesWord cs
  let part ← words.lookup (String.ofList name)
  some (part, rest)

/-- the marks -/
def marks : List (Char × Part) :=
  [('(', .openRound), (')', .closeRound), ('\x7b', .openCurly), ('\x7d', .closeCurly),
    (',', .comma), (':', .colon), ('+', .sign), ('-', .sign)]

/-- the part at the front of a text, and what follows it -/
def part? (cs : List Char) : Option (Part × List Char) :=
  match cs with
  | [] => none
  | '.' :: '.' :: '.' :: rest => some (.whole true, rest)
  | c :: rest =>
    match marks.lookup c with
    | some p => some (p, rest)
    | none => ((quoted? cs).or (number? cs)).or (word? cs)

/-! ## the parts of a text -/

/-- how deep brackets may stand in each other -/
def depthLimit : Nat := 200

/-- the depth behind a part; nothing if it is too deep -/
def depthAfter? (depth : Nat) : Part → Option Nat
  | .openRound => if depth < depthLimit then some (depth + 1) else none
  | .openCurly => if depth < depthLimit then some (depth + 1) else none
  | .closeRound => some (depth - 1)
  | .closeCurly => some (depth - 1)
  | _ => some depth

/-- a blank between parts -/
def isBlank (c : Char) : Bool := c = ' ' || c = '\t' || c = '\x0c'

/-- what follows a comment: the end of its line -/
def skipComment (cs : List Char) : List Char := cs.dropWhile (· ≠ '\n')

theorem skipComment_length (cs : List Char) : (skipComment cs).length ≤ cs.length :=
  (List.dropWhile_sublist _).length_le

/-- does nothing but comments and line ends follow? `inComment` says whether a comment is open -/
def isIdle (inComment : Bool) : List Char → Bool
  | [] => true
  | c :: cs =>
    if c = '\n' then isIdle false cs
    else if inComment || c = '#' then isIdle true cs
    else isBlank c && isIdle false cs

/-- may a literal begin on this line?  It may not stand behind blanks. -/
def startsFlush (cs : List Char) : Bool :=
  !(cs.head?.any isBlank) || (cs.dropWhile isBlank).head?.any fun c => c = '\n' || c = '#'

/-- the parts of a text.  `depth` brackets are open and `started` says whether there is a part in
front.  Outside brackets the literal stands on one line, which a backslash carries on. -/
def parts? (depth : Nat) (started : Bool) (cs : List Char) : Option (List Part) :=
  match cs with
  | [] => some []
  | '\\' :: '\n' :: rest =>
    if started || startsFlush rest then parts? depth started rest else none
  | c :: rest =>
    if isBlank c then parts? depth started rest
    else if c = '#' then
      have := skipComment_length rest
      parts? depth started (skipComment rest)
    else if c = '\n' then
      if 0 < depth then parts? depth started rest
      else if started then (if isIdle false rest then some [] else none)
      else if startsFlush rest then parts? depth started rest
      else none
    else
      match part? (c :: rest) with
      | none => none
      | some (p, after) =>
        match depthAfter? depth p with
        | none => none
        | some depth =>
          if _h : after.length ≤ rest.length then (parts? depth true after).map (p :: ·) else none
termination_by cs.length
decreasing_by all_goals simp only [List.length_cons] at *; omega

/-! ## what parts make -/

/-- are these texts, or are these bytes, that follow each other? -/
def areQuoted : List Part → Bool
  | [] => false
  | .quoted b :: ps => ps.all fun p => p = .quoted b
  | _ => false

/-- the part that stands for the parts of one value -/
def value? : List Part → Option Part
  | [.number i] => some (.number i)
  | [.signed i] => some (.signed i)
  | [.whole h] => some (.whole h)
  | [.unit] => some .unit
  | [.setWord] => some .setWord
  | [.setWord, .unit] => some (.whole false)
  | [.sign, .number i] => some (.signed i)
  | [.number false, .sign, .number true] => some (.whole true)
  | [.signed false, .sign, .number true] => some (.whole true)
  | [.sign, .number false, .sign, .number true] => some (.whole true)
  | ps => if areQuoted ps then some (.whole true) else none

/-- is a value complete, and may a set hold it? -/
def hashable? : Part → Option Bool
  | .number _ => some true
  | .signed _ => some true
  | .unit => some true
  | .whole h => some h
  | _ => none

/-- the parts between commas -/
def splitAt (mark : Part) : List Part → List (List Part)
  | [] => [[]]
  | p :: ps =>
    if p = mark then [] :: splitAt mark ps
    else match splitAt mark ps with
      | [] => [[p]]
      | q :: qs => (p :: q) :: qs

/-- the items of a list; a comma may stand behind the last one -/
def items (ps : List Part) : List (List Part) :=
  let all := splitAt .comma ps
  if all.getLast? = some [] then all.dropLast else all

/-- is the value of these parts complete, and may a set hold it? -/
def item? (ps : List Part) : Option Bool := (value? ps).bind hashable?

/-- what stands between round brackets, as one part: nothing, one value, or a tuple -/
def round? (ps : List Part) : Option Part :=
  if ps = [] then some .unit
  else if ps.contains .comma then
    ((items ps).mapM item?).bind fun hs => if hs = [] then none else some (.whole (hs.all id))
  else (value? ps).map fun p => if p = .unit then .whole true else p

/-- an entry of a dictionary: a key that a set may hold, and a value -/
def isEntry (ps : List Part) : Bool :=
  match splitAt .colon ps with
  | [k, v] => item? k = some true && (item? v).isSome
  | _ => false

/-- what stands between curly brackets, as one part: a dictionary or a set -/
def curly? (ps : List Part) : Option Part :=
  if ps = [] then some (.whole false)
  else
    let good := if ps.contains .colon then isEntry else fun item => item? item = some true
    if items ps ≠ [] ∧ (items ps).all good then some (.whole false) else none

/-- what lies on the stack above the uppermost opening bracket, in the order of the text, and what
lies below it -/
def takeBack (opening : Part) (inside : List Part) : List Part → Option (List Part × List Part)
  | [] => none
  | p :: ps => if p = opening then some (inside, ps) else takeBack opening (p :: inside) ps

/-- take one part onto the stack -/
def shift? (stack : List Part) : Part → Option (List Part)
  | .closeRound => do
    let (inside, below) ← takeBack .openRound [] stack
    let p ← round? inside
    some (p :: below)
  | .closeCurly => do
    let (inside, below) ← takeBack .openCurly [] stack
    let p ← curly? inside
    some (p :: below)
  | p => some (p :: stack)

/-- do these parts make a literal?  A tuple needs no brackets here. -/
def isValue (ps : List Part) : Bool :=
  match (ps.foldlM shift? []).map List.reverse with
  | some [] => false
  | some ps => ((round? ps).bind hashable?).isSome
  | none => false

end Literal

/-- is a text a literal? -/
def isLiteral (cs : List Char) : Bool :=
  match Literal.parts? 0 false (Text.unifyLineEnds (cs.dropWhile fun c => c = ' ' || c = '\t')) with
  | some ps => Literal.isValue ps
  | none => false

end DdlToJava.Console

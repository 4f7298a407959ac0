import DdlToJava.Proofs.Ddl.PrintedText
import DdlToJava.Proofs.Ddl.Settled

/-!
# The name on a printed statement

A printed statement begins with its header, so the header is what the readers find first.  With a
schema it is read with its point; without one there is no point in the whole text, and the table is
read alone (`ofText_print`).
-/

namespace DdlToJava.Ddl

open Text Body Layout

/-! ## the text between the items -/

namespace Layout

/-- the text between two items -/
def between (indent : Nat) : Layout → List Char
  | leading => '\n' :: List.replicate indent ' ' ++ [',', ' ']
  | _ => ',' :: '\n' :: List.replicate indent ' '

/-- the text between the name of the table and the first item -/
def opening (indent : Nat) : Layout → List Char
  | trailing => [' ', '('] ++ '\n' :: List.replicate indent ' '
  | leading => ['\n', '('] ++ '\n' :: List.replicate indent ' '
  | exported => ('\n' :: List.replicate indent ' ') ++ ['(', '\t']

theorem isSpace_of_mem_indent {indent : Nat} :
    ∀ c ∈ '\n' :: List.replicate indent ' ', isSpace c = true := by
  intro c hc
  rcases List.mem_cons.mp hc with rfl | hc
  · rfl
  · rw [List.eq_of_mem_replicate hc]
    rfl

/-- a blank ends the name, and the first other character opens the body -/
theorem opening_spec (indent : Nat) (layout : Layout) (x : List Char) :
    (∃ b r, layout.opening indent ++ x = b :: r ∧ isSpace b = true) ∧
      (trimStart (layout.opening indent ++ x)).head? = some '(' := by
  cases layout with
  | trailing => exact ⟨⟨' ', _, rfl, rfl⟩, rfl⟩
  | leading => exact ⟨⟨'\n', _, rfl, rfl⟩, rfl⟩
  | exported =>
    refine ⟨⟨'\n', _, rfl, rfl⟩, ?_⟩
    show (trimStart ((('\n' :: List.replicate indent ' ') ++ ['(', '\t']) ++ x)).head? = _
    rw [List.append_assoc, trimStart_blanks_append isSpace_of_mem_indent]
    rfl

theorem endsWord_opening (indent : Nat) (layout : Layout) (x : List Char) :
    EndsWord (layout.opening indent ++ x) := by
  obtain ⟨⟨b, r, hopen, hb⟩, _⟩ := layout.opening_spec indent x
  rw [hopen]
  exact EndsWord.cons (isWord_of_isSpace hb) r

theorem intercalate_cons (sep x : List Char) (xs : List (List Char)) :
    sep.intercalate (x :: xs) = x ++ xs.flatMap (sep ++ ·) := by
  induction xs generalizing x with
  | nil =>
    rw [List.intercalate_singleton]
    exact (List.append_nil x).symm
  | cons y ys ih => rw [List.intercalate_cons_cons, ih, List.flatMap_cons, List.append_assoc,
      List.append_assoc]

theorem fed_commasBehind (indent : Nat) (x : List Char) (xs : List (List Char)) :
    fed ((commasBehind (x :: xs)).map (pad indent)) =
      ('\n' :: List.replicate indent ' ') ++
        (between indent .trailing).intercalate (x :: xs) := by
  induction xs generalizing x with
  | nil =>
    rw [List.intercalate_singleton]
    exact List.append_nil _
  | cons y ys ih =>
    show ('\n' :: (List.replicate indent ' ' ++ (x ++ [',']))) ++
      fed ((commasBehind (y :: ys)).map (pad indent)) = _
    rw [ih, List.intercalate_cons_cons]
    show '\n' :: ((List.replicate indent ' ' ++ (x ++ [','])) ++ _) = '\n' :: (_ ++ _)
    rw [List.append_assoc, List.append_assoc, List.append_assoc]
    rfl

theorem fed_commasInFront (indent : Nat) (x : List Char) (xs : List (List Char)) :
    fed ((commasInFront (x :: xs)).map (pad indent)) =
      ('\n' :: List.replicate indent ' ') ++
        (between indent .leading).intercalate (x :: xs) := by
  have hrest : fed ((xs.map (',' :: ' ' :: ·)).map (pad indent)) =
      xs.flatMap (between indent .leading ++ ·) := by
    unfold fed
    rw [List.map_map, List.flatMap_map]
    congr 1
    funext y
    show '\n' :: (List.replicate indent ' ' ++ ([',', ' '] ++ y)) = _
    rw [← List.append_assoc]
    rfl
  show ('\n' :: (List.replicate indent ' ' ++ x)) ++ fed ((xs.map _).map (pad indent)) = _
  rw [hrest, intercalate_cons, ← List.append_assoc]
  rfl

theorem fed_openFirst (indent : Nat) (x : List Char) (xs : List (List Char)) :
    fed ((openFirst (commasBehind (x :: xs))).map (pad indent)) =
      opening indent .exported ++ (between indent .exported).intercalate (x :: xs) := by
  have hbehind := fed_commasBehind indent x xs
  cases hls : commasBehind (x :: xs) with
  | nil => cases xs <;> cases hls
  | cons y ys =>
    rw [hls] at hbehind
    have hrest : y ++ fed (ys.map (pad indent)) =
        (between indent .trailing).intercalate (x :: xs) := by
      have hfront : ('\n' :: List.replicate indent ' ') ++ (y ++ fed (ys.map (pad indent))) =
          ('\n' :: List.replicate indent ' ') ++
            (between indent .trailing).intercalate (x :: xs) := by
        rw [← hbehind, ← List.append_assoc]
        rfl
      exact List.append_cancel_left hfront
    have hfirst : pad indent ('(' :: '\t' :: y) =
        (List.replicate indent ' ' ++ ['(', '\t']) ++ y := by
      rw [List.append_assoc]
      rfl
    show ('\n' :: pad indent ('(' :: '\t' :: y)) ++ fed (ys.map (pad indent)) = _
    rw [hfirst]
    show '\n' :: ((List.replicate indent ' ' ++ ['(', '\t']) ++ y ++ _) = '\n' :: (_ ++ _)
    rw [List.append_assoc, hrest]
    rfl

end Layout

/-! ## the header -/

namespace Declaration

/-- what stands behind the name of the table -/
def tail (indent : Nat) (layout : Layout) (d : Declaration) : List Char :=
  layout.opening indent ++ ((layout.between indent).intercalate (d.items []) ++ ['\n', ')'])

/-- the text of a printed statement, without the quotes -/
theorem joined_lines (indent : Nat) (layout : Layout) (d : Declaration) :
    joined (d.lines [] indent layout) =
      "CREATE TABLE ".toList ++ (d.fullName ++ d.tail indent layout) := by
  have hbody : layout.behindHeader ++ fed (d.body [] indent layout) =
      layout.opening indent ++ (layout.between indent).intercalate (d.items []) := by
    obtain ⟨x, xs, hx⟩ := d.exists_items
    cases layout with
    | trailing =>
      show [' ', '('] ++ fed ((commasBehind (d.items [])).map (pad indent)) = _
      rw [hx, fed_commasBehind]
      rfl
    | leading =>
      show ['\n', '('] ++ fed ((commasInFront (d.items [])).map (pad indent)) = _
      rw [hx, fed_commasInFront]
      rfl
    | exported =>
      show fed ((openFirst (commasBehind (d.items []))).map (pad indent)) = _
      rw [hx, fed_openFirst]
  have hfed : fed (d.body [] indent layout ++ [[')']]) =
      fed (d.body [] indent layout) ++ ['\n', ')'] :=
    List.flatMap_append
  unfold lines tail
  rw [← List.singleton_append, joined_append_fed (List.cons_ne_nil _ _), joined_singleton,
    d.header_nil, List.append_assoc, List.append_assoc, hfed,
    ← List.append_assoc layout.behindHeader, hbody, List.append_assoc]

theorem createTable?_append {x : List Char} (hx : ∀ c, x.head? = some c → isSpace c = false) :
    TableName.createTable? ("CREATE TABLE ".toList ++ x) = some x := by
  show blanks? (' ' :: x) = some x
  exact blanks?_eq_some.mpr ⟨⟨' ', x, rfl, rfl⟩, (trimStart_of_head hx).symm⟩

/-- behind `IF` and its blanks stands the parenthesis, so the name is not taken for the words
`IF NOT EXISTS` -/
theorem ifNotExists?_name (n : Name) {z : List Char} (hz : EndsWord z)
    (hopen : ∀ r, blanks? z = some r → r.head? = some '(') :
    TableName.ifNotExists? (n.chars ++ z) = none := by
  rw [TableName.ifNotExists?_eq]
  cases h : (keyword? "if".toList (n.chars ++ z)).bind blanks? with
  | none => rfl
  | some r =>
    obtain ⟨_, hr⟩ :=
      keyword?_blanks?_word (by decide) (fun _ hc => Name.isWord_of_mem_chars hc) hz h
    have hhead := hopen r hr
    cases r with
    | nil => cases hhead
    | cons c r =>
      cases hhead
      rfl

theorem dotted?_mem {cs : List Char} {n : TableName} (h : TableName.dotted? cs = some n) :
    '.' ∈ cs := by
  obtain ⟨⟨schema, r⟩, h1, h⟩ := Option.bind_eq_some_iff.mp h
  obtain ⟨r', h2, _⟩ := Option.bind_eq_some_iff.mp h
  obtain ⟨hcs, _⟩ := run?_eq_append h1
  rw [hcs, symbol?_eq_some.mp h2]
  exact List.mem_append_right _ (List.mem_cons_self ..)

theorem ifNotExists?_suffix {cs r : List Char} (h : TableName.ifNotExists? cs = some r) :
    r <:+ cs := by
  rw [TableName.ifNotExists?_eq] at h
  obtain ⟨r₁, h1, h⟩ := Option.bind_eq_some_iff.mp h
  obtain ⟨r₂, h2, h3⟩ := Option.bind_eq_some_iff.mp h
  exact (keyword?_blanks?_suffix h3).trans
    ((keyword?_blanks?_suffix h2).trans (keyword?_blanks?_suffix h1))

/-- without a point in the text no table is read with its schema -/
theorem findFirst?_dotted {cs : List Char} (h : '.' ∉ cs) :
    findFirst? (TableName.headerAt? TableName.dotted?) cs = none := by
  refine findFirst?_eq_none fun s hs => ?_
  rw [Option.eq_none_iff_forall_ne_some]
  intro n hn
  apply h
  obtain ⟨r, hr, ⟨r', hr', hd⟩ | hd⟩ := TableName.headerAt?_eq_some hn
  · exact ((ifNotExists?_suffix hr').trans ((TableName.createTable?_suffix hr).trans hs)).subset
      (dotted?_mem hd)
  · exact ((TableName.createTable?_suffix hr).trans hs).subset (dotted?_mem hd)

theorem not_mem_joined {d : Declaration} (h : d.schema = none) (indent : Nat) (layout : Layout) :
    '.' ∉ joined (d.lines [] indent layout) := by
  have hlines : ∀ l ∈ d.lines [] indent layout, '.' ∉ l := by
    intro l hl hc
    rcases mem_lines hl hc with (hp | hp) | ⟨_, hp⟩
    · revert hp
      decide
    · cases hp
    · exact hp h
  intro hc
  rcases mem_joined hc with hc | ⟨l, hl, hc⟩
  · cases hc
  · exact hlines l hl hc

/-- a table without a schema is read by its name, behind no `IF NOT EXISTS` -/
theorem headerAt?_plain {d : Declaration} (h : d.schema = none) (indent : Nat) (layout : Layout) :
    TableName.headerAt? TableName.plain? (joined (d.lines [] indent layout)) =
      some { name := d.table.text } := by
  have hname : d.fullName = d.table.chars := by
    unfold fullName
    rw [h]
    rfl
  have hend : EndsWord (d.tail indent layout) := layout.endsWord_opening indent _
  have hopen : ∀ r, blanks? (d.tail indent layout) = some r → r.head? = some '(' := by
    intro r hr
    obtain ⟨_, rfl⟩ := blanks?_eq_some.mp hr
    exact (layout.opening_spec indent _).2
  unfold TableName.headerAt?
  rw [d.joined_lines, hname, createTable?_append (d.table.isSpace_head _)]
  show ((TableName.ifNotExists? (d.table.chars ++ _)).bind _).or _ = _
  rw [ifNotExists?_name d.table hend hopen]
  unfold TableName.plain?
  rw [Name.word?_append hend]
  rfl

theorem headerAt?_dotted {d : Declaration} {s : Name} (h : d.schema = some s) (indent : Nat)
    (layout : Layout) :
    TableName.headerAt? TableName.dotted? (joined (d.lines [] indent layout)) =
      some ⟨s.text, d.table.text⟩ := by
  have hname : d.fullName ++ d.tail indent layout =
      s.chars ++ '.' :: (d.table.chars ++ d.tail indent layout) := by
    unfold fullName
    rw [h]
    show (s.chars ++ ['.']) ++ d.table.chars ++ _ = _
    rw [List.append_assoc, List.append_assoc]
    rfl
  have hend : EndsWord (d.tail indent layout) := layout.endsWord_opening indent _
  have hdot : EndsWord ('.' :: (d.table.chars ++ d.tail indent layout)) :=
    EndsWord.cons (by decide) _
  unfold TableName.headerAt?
  rw [d.joined_lines, hname, createTable?_append (s.isSpace_head _)]
  show ((TableName.ifNotExists? (s.chars ++ _)).bind _).or _ = _
  rw [ifNotExists?_name s hdot fun r hr => by cases hr]
  unfold TableName.dotted?
  rw [Name.word?_append hdot]
  show Option.or none ((word? (d.table.chars ++ _)).bind _) = _
  rw [Name.word?_append hend]
  rfl

/-- the name of a printed statement is the name that it was printed with -/
theorem ofText_print (layout : Layout) (indent : Nat) (d : Declaration) :
    TableName.ofText (unquoted (d.print layout indent)) =
      ⟨d.schema.elim defaultSchema Name.text, d.table.text⟩ := by
  rw [d.unquoted_print]
  unfold TableName.ofText
  cases hs : d.schema with
  | none =>
    rw [findFirst?_dotted (not_mem_joined hs indent layout),
      findFirst?_of_front (headerAt?_plain hs indent layout)]
    rfl
  | some s =>
    rw [findFirst?_of_front (headerAt?_dotted hs indent layout)]
    rfl

end Declaration

end DdlToJava.Ddl

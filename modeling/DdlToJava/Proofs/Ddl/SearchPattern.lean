import DdlToJava.Proofs.Ddl.Tidy
import DdlToJava.Proofs.Text.Pattern

/-!
# The patterns that are searched for

The header and the key clause of a statement as patterns.  At every place the readers give what the
groups hold in the first match of these patterns:

* `headerAt?_eq_groups`    the header with a schema and the one without;
* `keyListAt?_eq_groups`   the key clause.

All the runs are greedy: a keyword, a name and a parenthesis cannot begin inside the white space in
front of them.  What can be given up is the optional `IF NOT EXISTS`, and `headerAt?` does so too.
-/

namespace DdlToJava.Ddl

open Text Pattern

/-! ## keywords and white space -/

/-- a keyword and white space in front of `q` -/
def spacedWord (keyword : List Char) (q : Pattern) : Pattern :=
  seq (word keyword) (seq (run isSpace) q)

section
variable {q : Pattern} {k : Char}

theorem avoids_spacedWord (hk : k.isLower = true) (ks : List Char) (q : Pattern) :
    Avoids isSpace (spacedWord (k :: ks) q) := (avoids_word hk ks).seq _

theorem first?_spacedWord (h : Avoids isSpace q) (ks cs : List Char) :
    (spacedWord ks q).first? cs = ((keyword? ks cs).bind blanks?).bind q.first? := by
  rw [spacedWord, first?_word_seq, Option.bind_assoc]
  exact Option.bind_congr fun r _ => first?_run_greedy h.greedy r

end

/-! ## the header -/

namespace TableName

def guardPattern : Pattern :=
  chain [word "if".toList, run isSpace, word "not".toList, run isSpace, word "exists".toList,
    run isSpace]

/-- a header whose name is `name` -/
def headerPattern (name : Pattern) : Pattern :=
  spacedWord "create".toList (spacedWord "table".toList (seq (maybe guardPattern) name))

def dottedPattern : Pattern :=
  seq (group 1 (run isWord)) (seq (symbol '.') (group 2 (run isWord)))

def plainPattern : Pattern := group 1 (run isWord)

section
variable {q : Pattern}

theorem first?_guardPattern_seq (h : Avoids isSpace q) (cs : List Char) :
    (seq guardPattern q).first? cs = (ifNotExists? cs).bind q.first? := by
  have hexists : Avoids isSpace (spacedWord "exists".toList q) :=
    avoids_spacedWord (k := 'e') rfl _ _
  have hnot : Avoids isSpace (spacedWord "not".toList (spacedWord "exists".toList q)) :=
    avoids_spacedWord (k := 'n') rfl _ _
  rw [guardPattern, first?_chain_seq]
  show (spacedWord "if".toList
    (spacedWord "not".toList (spacedWord "exists".toList q))).first? cs = _
  rw [first?_spacedWord hnot, funext (first?_spacedWord hexists _), funext (first?_spacedWord h _),
    ifNotExists?_eq]
  simp only [Option.bind_assoc]

theorem first?_maybe_guardPattern (h : Avoids isSpace q) (cs : List Char) :
    (seq (maybe guardPattern) q).first? cs =
      ((ifNotExists? cs).bind q.first?).or (q.first? cs) := by
  rw [first?_maybe_seq, first?_guardPattern_seq h]

theorem first?_headerPattern (h : Avoids isSpace q) (cs : List Char) :
    (headerPattern q).first? cs =
      (createTable? cs).bind fun r => ((ifNotExists? r).bind q.first?).or (q.first? r) := by
  have hguard : Avoids isSpace guardPattern := (avoids_word (k := 'i') rfl _).seq _
  have hname : Avoids isSpace (seq (maybe guardPattern) q) := (hguard.seq q).maybe_seq h
  have htable : Avoids isSpace (spacedWord "table".toList (seq (maybe guardPattern) q)) :=
    avoids_spacedWord (k := 't') rfl _ _
  rw [headerPattern, first?_spacedWord htable, funext (first?_spacedWord hname _), createTable?_eq,
    funext (first?_maybe_guardPattern h)]
  simp only [Option.bind_assoc]

/-- a name read by `read` is what the groups of `q` hold -/
theorem headerAt?_eq_of_name {read : List Char → Option TableName} (h : Avoids isSpace q)
    (name : Groups → TableName) (hread : ∀ cs, read cs = (q.first? cs).map fun m => name m.1)
    (cs : List Char) : headerAt? read cs = ((headerPattern q).first? cs).map fun m => name m.1 := by
  rw [first?_headerPattern h, Option.map_bind]
  show (createTable? cs).bind _ = _
  refine Option.bind_congr fun r _ => ?_
  rw [Function.comp_apply, Option.map_or, Option.map_bind, hread, funext hread]
  rfl

end

/-- the text that a group has matched -/
def groupText (g : Groups) (number : Nat) : String := String.ofList ((g.lookup number).getD [])

theorem first?_group_run (n : Nat) (cs : List Char) :
    (group n (run isWord)).first? cs = (word? cs).map fun u => ([(n, u.1)], u.2) := by
  rw [← first?_seq_nothing, first?_group_greedy (Greedy.of_isSome fun _ => rfl),
    Option.map_eq_bind]
  rfl

theorem first?_dottedPattern (cs : List Char) : dottedPattern.first? cs =
    (word? cs).bind fun u => (symbol? '.' u.2).bind fun r => (word? r).map fun v =>
      ([(1, u.1), (2, v.1)], v.2) := by
  have hpoint : Avoids isWord (symbol '.') := avoids_symbol rfl
  rw [dottedPattern, first?_group_greedy (hpoint.seq _).greedy]
  refine Option.bind_congr fun u _ => ?_
  rw [first?_symbol_seq, Option.map_bind]
  refine Option.bind_congr fun r _ => ?_
  rw [Function.comp_apply, first?_group_run, Option.map_map]
  rfl

theorem dotted?_eq_groups (cs : List Char) : dotted? cs =
    (dottedPattern.first? cs).map fun m => ⟨groupText m.1 1, groupText m.1 2⟩ := by
  rw [first?_dottedPattern, Option.map_bind]
  show (word? cs).bind _ = _
  refine Option.bind_congr fun u _ => ?_
  rw [Function.comp_apply, Option.map_bind]
  show (symbol? '.' u.2).bind _ = _
  refine Option.bind_congr fun r _ => ?_
  rw [Function.comp_apply, Option.map_map, Option.map_eq_bind]
  rfl

theorem plain?_eq_groups (cs : List Char) : plain? cs =
    (plainPattern.first? cs).map fun m => { name := groupText m.1 1 } := by
  rw [plainPattern, first?_group_run, Option.map_map, Option.map_eq_bind]
  rfl

theorem avoids_plainPattern : Avoids isSpace plainPattern :=
  (avoids_run fun _ => isWord_of_isSpace).group 1

theorem avoids_dottedPattern : Avoids isSpace dottedPattern := avoids_plainPattern.seq _

/-- the two headers give what their patterns match -/
theorem headerAt?_eq_groups (cs : List Char) :
    headerAt? dotted? cs = ((headerPattern dottedPattern).first? cs).map (fun m =>
      ⟨groupText m.1 1, groupText m.1 2⟩) ∧
    headerAt? plain? cs = ((headerPattern plainPattern).first? cs).map fun m =>
      { name := groupText m.1 1 } :=
  ⟨headerAt?_eq_of_name avoids_dottedPattern (fun g => ⟨groupText g 1, groupText g 2⟩)
      dotted?_eq_groups cs,
    headerAt?_eq_of_name avoids_plainPattern (fun g => { name := groupText g 1 })
      plain?_eq_groups cs⟩

end TableName

/-! ## the key clause -/

def keyListPattern : Pattern :=
  spacedWord "primary".toList (seq (word "key".toList) (seq (many isSpace) (seq (symbol '(')
    (seq (group 1 (run (· ≠ ')'))) (symbol ')')))))

theorem first?_listPattern (cs : List Char) :
    (seq (group 1 (run (· ≠ ')'))) (symbol ')')).first? cs =
      (run? (· ≠ ')') cs).bind fun u => (symbol? ')' u.2).map fun r => ([(1, u.1)], r) := by
  have hclose : Avoids (· ≠ ')') (symbol ')') := avoids_symbol rfl
  rw [first?_group_greedy hclose.greedy]
  refine Option.bind_congr fun u _ => ?_
  rw [first?_symbol, Option.map_map]
  rfl

theorem listText?_eq_groups (cs : List Char) : listText? cs =
    ((seq (group 1 (run (· ≠ ')'))) (symbol ')')).first? cs).map fun m =>
      (m.1.lookup 1).getD [] := by
  rw [first?_listPattern, Option.map_bind]
  show (run? (· ≠ ')') cs).bind _ = _
  refine Option.bind_congr fun u _ => ?_
  rw [Function.comp_apply, Option.map_map, Option.map_eq_bind]
  rfl

/-- the clause gives what its pattern matches -/
theorem keyListAt?_eq_groups (cs : List Char) :
    keyListAt? cs = (keyListPattern.first? cs).map fun m => (m.1.lookup 1).getD [] := by
  have hopen : Avoids isSpace (symbol '(') := avoids_symbol rfl
  have hkey : Avoids isSpace (word "key".toList) := avoids_word (k := 'k') rfl _
  rw [keyListPattern, first?_spacedWord (hkey.seq _), keyListAt?_keywords, Option.map_bind]
  refine Option.bind_congr fun r _ => ?_
  rw [Function.comp_apply, first?_word_seq, Option.map_bind]
  refine Option.bind_congr fun t _ => ?_
  rw [Function.comp_apply, first?_many_greedy (hopen.seq _).greedy, first?_symbol_seq,
    Option.map_bind,
    funext listText?_eq_groups]
  rfl

end DdlToJava.Ddl

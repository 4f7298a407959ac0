import DdlToJava.Proofs.Text.Search

/-!
# Patterns

A `Pattern` says what may stand at the front of a text.  It may match in several ways, and `ways`
lists them in the order in which they are tried: a long run before a short one, the first of two
alternatives before the second.  The first way counts (`first?`).

In a sequence a later way of the first part is taken when the second part does not match behind the
earlier ones.  So a run is given up character by character, unless the second part is `Greedy`: it
matches nowhere in the run if it does not match behind it.  Most parts are, as they `Avoid` the
characters of the run at their front.  In front of such a part a pattern reads as the readers do:

* `first?_many_greedy`   white space is skipped (`trimStart`);
* `first?_run_greedy`    white space is wanted (`blanks?`);
* `first?_group_greedy`  a run is read whole (`run?`);
* `first?_word_seq`      a keyword is read letter by letter (`keyword?`).

`first?_many_giveBack` and `first?_many_maybe` are about parts that are not greedy: one that begins
with the same run, and one that may be missing.
-/

namespace DdlToJava.Text

/-- what the groups of a pattern have matched, by their numbers -/
abbrev Groups := List (Nat × List Char)

inductive Pattern where
  | nothing
  /-- a character of `p` -/
  | one (p : Char → Bool)
  /-- a run of characters of `p`, which may be empty -/
  | many (p : Char → Bool)
  | seq (a b : Pattern)
  /-- `a`, else `b` -/
  | either (a b : Pattern)
  /-- `a`, whose text is remembered under the number -/
  | group (number : Nat) (a : Pattern)

/-- what follows the runs of characters of `p` at the front, the longest run first -/
def runs (p : Char → Bool) : List Char → List (List Char)
  | [] => [[]]
  | c :: cs => if p c then runs p cs ++ [c :: cs] else [c :: cs]

namespace Pattern

/-- the ways in which a pattern matches at the front, the preferred ones first: what the groups have
matched, and the text that follows -/
def ways : Pattern → List Char → List (Groups × List Char)
  | nothing, cs => [([], cs)]
  | one _, [] => []
  | one p, c :: cs => if p c then [([], cs)] else []
  | many p, cs => (runs p cs).map fun r => ([], r)
  | seq a b, cs => (a.ways cs).flatMap fun u => (b.ways u.2).map fun v => (u.1 ++ v.1, v.2)
  | either a b, cs => a.ways cs ++ b.ways cs
  | group n a, cs =>
    (a.ways cs).map fun u => (u.1 ++ [(n, cs.take (cs.length - u.2.length))], u.2)

/-- the way that counts -/
def first? (a : Pattern) (cs : List Char) : Option (Groups × List Char) := (a.ways cs).head?

/-! ## patterns made of others -/

/-- a run that is not empty -/
def run (p : Char → Bool) : Pattern := seq (one p) (many p)

def maybe (a : Pattern) : Pattern := either a nothing

def symbol (k : Char) : Pattern := one (· = k)

/-- the patterns one after the other -/
def chain (as : List Pattern) : Pattern := as.foldr seq nothing

/-- a keyword in any case, which is given in small letters -/
def word (keyword : List Char) : Pattern :=
  chain (keyword.map fun k => one fun c => foldLetter c = k)

/-! ## the first way of a sequence -/

/-- a way of the second part of a sequence behind one of the first part -/
def behind (g : Groups) (u : Groups × List Char) : Groups × List Char := (g ++ u.1, u.2)

theorem map_behind_nil (o : Option (Groups × List Char)) : o.map (behind []) = o := by
  cases o with
  | none => rfl
  | some u => rfl

theorem first?_nothing (cs : List Char) : nothing.first? cs = some ([], cs) := rfl

theorem first?_seq (a b : Pattern) (cs : List Char) :
    (seq a b).first? cs = (a.ways cs).findSome? fun u => (b.first? u.2).map (behind u.1) := by
  show List.head? (List.flatMap _ _) = _
  rw [List.head?_flatMap]
  refine congrArg (fun f => List.findSome? f (a.ways cs)) (funext fun u => ?_)
  rw [List.head?_map]
  rfl

theorem first?_either (a b : Pattern) (cs : List Char) :
    (either a b).first? cs = (a.first? cs).or (b.first? cs) := List.head?_append

theorem first?_either_seq (a b q : Pattern) (cs : List Char) :
    (seq (either a b) q).first? cs = ((seq a q).first? cs).or ((seq b q).first? cs) := by
  rw [first?_seq, first?_seq, first?_seq]
  exact List.findSome?_append

theorem first?_nothing_seq (q : Pattern) (cs : List Char) :
    (seq nothing q).first? cs = q.first? cs := by
  rw [first?_seq, ways, List.findSome?_singleton, map_behind_nil]

theorem first?_seq_nothing (a : Pattern) (cs : List Char) :
    (seq a nothing).first? cs = a.first? cs := by
  have hways : (seq a nothing).ways cs = a.ways cs := by simp [ways, List.flatMap_singleton']
  rw [first?, hways, first?]

theorem first?_maybe_seq (a q : Pattern) (cs : List Char) :
    (seq (maybe a) q).first? cs = ((seq a q).first? cs).or (q.first? cs) := by
  rw [maybe, first?_either_seq, first?_nothing_seq]

theorem first?_seq_seq (a b q : Pattern) (cs : List Char) :
    (seq (seq a b) q).first? cs = (seq a (seq b q)).first? cs := by
  have hways : (seq (seq a b) q).ways cs = (seq a (seq b q)).ways cs := by
    simp only [ways, List.flatMap_assoc, List.flatMap_map, List.map_flatMap, List.map_map]
    refine congrArg (fun f => List.flatMap f (a.ways cs)) (funext fun u => ?_)
    refine congrArg (fun f => List.flatMap f (b.ways u.2)) (funext fun v => ?_)
    refine congrArg (fun f => List.map f (q.ways v.2)) (funext fun w => ?_)
    simp only [Function.comp_apply, List.append_assoc]
  rw [first?, hways, first?]

/-- a second part that is read in the same way everywhere -/
theorem first?_seq_congr {b q : Pattern} (h : ∀ cs, b.first? cs = q.first? cs) (a : Pattern)
    (cs : List Char) : (seq a b).first? cs = (seq a q).first? cs := by
  rw [first?_seq, first?_seq]
  refine congrArg (fun f => List.findSome? f (a.ways cs)) (funext fun u => ?_)
  rw [h]

theorem first?_chain_seq (as : List Pattern) (q : Pattern) (cs : List Char) :
    (seq (chain as) q).first? cs = (as.foldr seq q).first? cs := by
  induction as generalizing cs with
  | nil => exact first?_nothing_seq q cs
  | cons a as ih =>
    show (seq (seq a (chain as)) q).first? cs = (seq a (as.foldr seq q)).first? cs
    rw [first?_seq_seq]
    exact first?_seq_congr ih a cs

/-! ## characters and keywords -/

theorem first?_one_seq_cons (p : Char → Bool) (q : Pattern) (c : Char) (cs : List Char) :
    (seq (one p) q).first? (c :: cs) = if p c then q.first? cs else none := by
  rw [first?_seq, ways]
  cases p c with
  | false => rfl
  | true => exact (List.findSome?_singleton ..).trans (map_behind_nil _)

theorem first?_symbol_seq (k : Char) (q : Pattern) (cs : List Char) :
    (seq (symbol k) q).first? cs = (symbol? k cs).bind q.first? := by
  cases cs with
  | nil => rfl
  | cons c cs =>
    rw [symbol, first?_one_seq_cons, symbol?_cons]
    by_cases h : c = k <;> simp [h]

theorem first?_symbol (k : Char) (cs : List Char) :
    (symbol k).first? cs = (symbol? k cs).map fun r => ([], r) := by
  rw [← first?_seq_nothing, first?_symbol_seq, Option.map_eq_bind]
  rfl

theorem first?_word_seq (keyword : List Char) (q : Pattern) (cs : List Char) :
    (seq (word keyword) q).first? cs = (keyword? keyword cs).bind q.first? := by
  rw [word, first?_chain_seq]
  induction keyword generalizing cs with
  | nil => rw [keyword?_nil]; rfl
  | cons k ks ih =>
    cases cs with
    | nil => rfl
    | cons c cs =>
      show (seq (one _) _).first? (c :: cs) = _
      rw [first?_one_seq_cons, keyword?]
      by_cases h : foldLetter c = k <;> simp [h, ih]

/-! ## patterns that avoid characters -/

/-- a pattern that does not match in front of a character of `p` -/
def Avoids (p : Char → Bool) (a : Pattern) : Prop :=
  ∀ c cs, p c = true → a.first? (c :: cs) = none

section
variable {p r : Char → Bool} {a b q : Pattern}

theorem avoids_one (h : ∀ c, p c = true → r c = false) : Avoids p (one r) := by
  intro c cs hc
  rw [first?, ways, h c hc]
  rfl

theorem avoids_symbol {k : Char} (h : p k = false) : Avoids p (symbol k) := by
  apply avoids_one
  rintro c hc
  apply decide_eq_false
  rintro rfl
  rw [h] at hc
  cases hc

theorem Avoids.seq (h : Avoids p a) (q : Pattern) : Avoids p (seq a q) := by
  intro c cs hc
  rw [first?_seq, List.head?_eq_none_iff.mp (h c cs hc)]
  rfl

theorem Avoids.either (ha : Avoids p a) (hb : Avoids p b) : Avoids p (either a b) := by
  intro c cs hc
  rw [first?_either, ha c cs hc, hb c cs hc]
  rfl

theorem Avoids.group (h : Avoids p a) (n : Nat) : Avoids p (group n a) := by
  intro c cs hc
  rw [first?, ways, List.head?_eq_none_iff.mp (h c cs hc)]
  rfl

theorem Avoids.many_seq (h : Avoids p q) (hr : ∀ c, p c = true → r c = false) :
    Avoids p (Pattern.seq (many r) q) := by
  intro c cs hc
  have hruns : (many r).ways (c :: cs) = [([], c :: cs)] := by simp [ways, runs, hr c hc]
  rw [first?_seq, hruns, List.findSome?_singleton, map_behind_nil]
  exact h c cs hc

theorem Avoids.maybe_seq (h : Avoids p (Pattern.seq a q)) (hq : Avoids p q) :
    Avoids p (Pattern.seq (maybe a) q) := by
  intro c cs hc
  rw [first?_maybe_seq, h c cs hc, hq c cs hc]
  rfl

theorem avoids_run (h : ∀ c, p c = true → r c = false) : Avoids p (run r) := (avoids_one h).seq _

theorem avoids_word {k : Char} (hk : k.isLower = true) (ks : List Char) :
    Avoids isSpace (word (k :: ks)) := by
  apply Avoids.seq
  apply avoids_one
  intro c hc
  exact decide_eq_false (foldLetter_ne_of_isSpace hc hk)

end

/-! ## runs -/

section
variable {p : Char → Bool}

theorem head?_runs (p : Char → Bool) (cs : List Char) :
    (runs p cs).head? = some (cs.dropWhile p) := by
  induction cs with
  | nil => rfl
  | cons c cs ih =>
    rw [runs]
    cases h : p c with
    | false => simp [h]
    | true => simp [h, ih]

/-- what follows a run that is not the longest begins inside the longest -/
theorem mem_runs {cs r : List Char} (h : r ∈ runs p cs) :
    r = cs.dropWhile p ∨ ∃ c ds, p c = true ∧ r = c :: ds := by
  induction cs with
  | nil => exact .inl (List.mem_singleton.mp h)
  | cons c cs ih =>
    rw [runs] at h
    cases hc : p c with
    | false =>
      rw [hc] at h
      left
      rw [List.mem_singleton.mp h, List.dropWhile_cons_of_neg (by simp [hc])]
    | true =>
      rw [hc, if_pos rfl] at h
      rcases List.mem_append.mp h with h | h
      · rw [List.dropWhile_cons_of_pos hc]
        exact ih h
      · exact .inr ⟨c, cs, hc, List.mem_singleton.mp h⟩

theorem findSome?_runs {α : Type} {f : List Char → Option α} {cs : List Char}
    (h : f (cs.dropWhile p) = none → ∀ r ∈ runs p cs, f r = none) :
    (runs p cs).findSome? f = f (cs.dropWhile p) := by
  obtain ⟨l, hl⟩ := List.head?_eq_some_iff.mp (head?_runs p cs)
  cases hf : f (cs.dropWhile p) with
  | none => exact List.findSome?_eq_none_iff.mpr (h hf)
  | some a => rw [hl, List.findSome?_cons, hf]

/-- a pattern that matches nowhere in a run of `p` if it does not match behind it -/
def Greedy (p : Char → Bool) (q : Pattern) : Prop :=
  ∀ cs, q.first? (cs.dropWhile p) = none → ∀ r ∈ runs p cs, q.first? r = none

theorem Avoids.greedy {q : Pattern} (h : Avoids p q) : Greedy p q := by
  intro cs hcs r hr
  rcases mem_runs hr with rfl | ⟨c, ds, hc, rfl⟩
  · exact hcs
  · exact h c ds hc

/-- a pattern that always matches -/
theorem Greedy.of_isSome {q : Pattern} (h : ∀ cs, (q.first? cs).isSome = true) : Greedy p q := by
  intro cs hcs
  have := h (cs.dropWhile p)
  rw [hcs] at this
  cases this

theorem first?_many_seq (p : Char → Bool) (q : Pattern) (cs : List Char) :
    (seq (many p) q).first? cs = (runs p cs).findSome? q.first? := by
  rw [first?_seq, ways, List.findSome?_map]
  exact congrArg (fun f => List.findSome? f (runs p cs)) (funext fun r => map_behind_nil _)

theorem first?_many_greedy {q : Pattern} (h : Greedy p q) (cs : List Char) :
    (seq (many p) q).first? cs = q.first? (cs.dropWhile p) := by
  rw [first?_many_seq]
  exact findSome?_runs (h cs)

theorem first?_run_greedy {q : Pattern} (h : Greedy isSpace q) (cs : List Char) :
    (seq (run isSpace) q).first? cs = (blanks? cs).bind q.first? := by
  rw [run, first?_seq_seq]
  cases cs with
  | nil => rfl
  | cons c cs =>
    rw [first?_one_seq_cons, first?_many_greedy h, blanks?]
    cases isSpace c with
    | false => rfl
    | true => rfl

theorem ways_run_cons {c : Char} (hc : p c = true) (cs : List Char) :
    (run p).ways (c :: cs) = (runs p cs).map fun r => ([], r) := by
  simp [run, ways, hc]

theorem take_length_sub_dropWhile (p : Char → Bool) (cs : List Char) :
    cs.take (cs.length - (cs.dropWhile p).length) = cs.takeWhile p := by
  have hlength := congrArg List.length (List.takeWhile_append_dropWhile (p := p) (l := cs))
  rw [List.length_append] at hlength
  rw [← hlength, Nat.add_sub_cancel]
  exact (List.prefix_iff_eq_take.mp (List.takeWhile_prefix p)).symm

theorem first?_group_greedy {q : Pattern} (h : Greedy p q) (n : Nat) (cs : List Char) :
    (seq (group n (run p)) q).first? cs =
      (run? p cs).bind fun u => (q.first? u.2).map (behind [(n, u.1)]) := by
  cases cs with
  | nil => rfl
  | cons c cs =>
    rw [first?_seq, ways]
    cases hc : p c with
    | false =>
      rw [run?_cons_of_not hc]
      simp [run, ways, hc]
    | true =>
      have hcut := take_length_sub_dropWhile p (c :: cs)
      rw [List.takeWhile_cons_of_pos hc, List.dropWhile_cons_of_pos hc] at hcut
      rw [ways_run_cons hc, List.map_map, List.findSome?_map, findSome?_runs]
      · rw [run?, List.takeWhile_cons_of_pos hc, List.dropWhile_cons_of_pos hc]
        simp only [Function.comp_apply, List.nil_append, hcut, Option.bind_some]
      · intro hnone r hr
        have : q.first? (cs.dropWhile p) = none := Option.map_eq_none_iff.mp hnone
        exact Option.map_eq_none_iff.mpr (h cs this r hr)

/-- A part that begins with white space itself matches inside a run of it, at every place in the
same way.  It is tried there when it does not match behind the run. -/
theorem first?_many_giveBack {q : Pattern} {inside : List Char → Option (Groups × List Char)}
    (h : ∀ c cs, isSpace c = true → q.first? (c :: cs) = inside (trimStart cs)) (cs : List Char) :
    (seq (many isSpace) q).first? cs =
      match blanks? cs with
      | none => q.first? cs
      | some r => (q.first? r).or (inside r) := by
  rw [first?_many_seq]
  induction cs with
  | nil => exact List.findSome?_singleton
  | cons c cs ih =>
    rw [runs, blanks?]
    cases hc : isSpace c with
    | false => exact List.findSome?_singleton
    | true =>
      rw [if_pos rfl, if_pos rfl, List.findSome?_append, List.findSome?_singleton, h c cs hc, ih]
      -- the run may end here; otherwise `inside` has been tried behind the next place already
      cases cs with
      | nil => rfl
      | cons d ds =>
        rw [blanks?, trimStart_cons]
        cases isSpace d with
        | false => rfl
        | true => simp only [if_true, Option.or_assoc, Option.or_self]

/-- A part that may be missing, and that does not begin inside the run in front of it, is tried
behind the whole run only. -/
theorem first?_many_maybe {a q : Pattern} (h : Avoids p (seq a q)) (cs : List Char) :
    (seq (many p) (seq (maybe a) q)).first? cs =
      ((seq a q).first? (cs.dropWhile p)).or ((seq (many p) q).first? cs) := by
  rw [first?_many_seq, first?_many_seq]
  induction cs with
  | nil =>
    rw [runs, List.findSome?_singleton, List.findSome?_singleton, first?_maybe_seq]
    rfl
  | cons c cs ih =>
    rw [runs]
    cases hc : p c with
    | false =>
      rw [if_neg Bool.false_ne_true, List.findSome?_singleton, List.findSome?_singleton,
        first?_maybe_seq, List.dropWhile_cons_of_neg (by simp [hc])]
    | true =>
      rw [if_pos rfl, List.findSome?_append, List.findSome?_append, List.findSome?_singleton,
        List.findSome?_singleton, ih, first?_maybe_seq, h c cs hc, Option.none_or, Option.or_assoc,
        List.dropWhile_cons_of_pos hc]

end

end Pattern

end DdlToJava.Text

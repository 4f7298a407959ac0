import DdlToJava.Json.Parser
import DdlToJava.Proofs.Json.Printed

/-!
# Printed values, read back

A printed value goes onto the stack of the parser as one token.  By induction on the value: a
printed container puts its opening mark on the stack, then the tokens of what it holds with commas
between, and its closing mark takes them back.  The only conditions are those of the parser, that
no number is too long and that containers do not stand too deep in each other.

* `readOnto`            the parser, from the characters to the stack;
* `Goes`                what some characters put on the stack of `d` open containers;
* `goes_more`           printed things with commas between them;
* `readOnto_closeArray`, `readOnto_closeObject`
                        a closing mark;
* `Printable`           a value that the parser takes where `d` containers are open;
* `goes_value`          a printable value goes onto the stack as one token;
* `parse?_render`       it is read back.
-/

namespace DdlToJava.Json

open Token Json.Parser

/-! ## one token onto the stack -/

/-- the stack after the characters have been read onto it -/
def readOnto (stack : List Token) (cs : List Char) : Option (List Token) :=
  (tokens? cs).bind (shiftAll stack)

/-- no token begins with white space -/
theorem read?_blank {c : Char} (hc : isBlank c = true) (cs : List Char) :
    read? (c :: cs) = none := by
  simp only [isBlank, Bool.or_eq_true, decide_eq_true_eq] at hc
  rcases hc with ((rfl | rfl) | rfl) | rfl <;> rfl

theorem readOnto_of_read? {stack stack' : List Token} {cs rest : List Char} {t : Token}
    (h : read? cs = some (t, rest)) (hshift : shift stack t = some stack') :
    readOnto stack cs = readOnto stack' rest := by
  cases cs with
  | nil => cases h
  | cons c cs =>
    have hc : isBlank c = false := Bool.eq_false_iff.mpr fun hblank => by
      rw [read?_blank hblank] at h
      cases h
    unfold readOnto
    rw [tokens?_cons hc, h, Option.bind_some]
    cases tokens? rest with
    | none => rfl
    | some ts =>
      show (shift stack t).bind (fun stack => shiftAll stack ts) = shiftAll stack' ts
      rw [hshift, Option.bind_some]

/-! ## what characters put on the stack -/

/-- how many containers are open on a stack -/
def opened (stack : List Token) : Nat := stack.countP fun t => isOpenArray t || isOpenObject t

theorem opened_append (a b : List Token) : opened (a ++ b) = opened a + opened b :=
  List.countP_append

theorem opened_reverse (a : List Token) : opened a.reverse = opened a := List.countP_reverse

/-- some characters, and what may stand behind a value, leave these tokens on a stack of `d` open
containers -/
def Goes (d : Nat) (cs : List Char) (ts : List Token) : Prop :=
  ∀ stack rest, opened stack = d → EndsValue rest →
    readOnto stack (cs ++ rest) = readOnto (ts.reverse ++ stack) rest

theorem goes_of_read? {d : Nat} {cs : List Char} {v : Json}
    (h : ∀ rest, EndsValue rest → read? (cs ++ rest) = some (.value v, rest)) :
    Goes d cs [.value v] := fun _ rest _ hrest => readOnto_of_read? (h rest hrest) rfl

section
variable {α : Type} (print : α → List Char) (tokens : α → List Token) {d : Nat} {xs : List α}

theorem endsValue_comma (cs : List Char) : EndsValue (',' :: cs) := by
  rintro c ⟨⟩
  exact .inl rfl

theorem endsValue_more {rest : List Char} (hrest : EndsValue rest) :
    EndsValue (xs.flatMap (fun x => ',' :: print x) ++ rest) := by
  cases xs with
  | nil => exact hrest
  | cons x xs => exact endsValue_comma _

/-- printed things with a comma in front of each -/
theorem goes_more (htokens : ∀ x ∈ xs, opened (tokens x) = 0)
    (h : ∀ x ∈ xs, Goes d (print x) (tokens x)) :
    Goes d (xs.flatMap fun x => ',' :: print x) (xs.flatMap fun x => .comma :: tokens x) := by
  induction xs with
  | nil => exact fun stack rest _ _ => rfl
  | cons x xs ih =>
    intro stack rest hd hrest
    have hx := h x (List.mem_cons_self ..)
    have hxs := ih (fun y hy => htokens y (List.mem_cons_of_mem x hy))
      fun y hy => h y (List.mem_cons_of_mem x hy)
    have hcomma : opened (.comma :: stack) = d := hd
    have hstack : opened ((tokens x).reverse ++ .comma :: stack) = d := by
      rw [opened_append, opened_reverse, htokens x (List.mem_cons_self ..), hcomma, Nat.zero_add]
    rw [List.flatMap_cons, List.flatMap_cons, List.append_assoc, List.cons_append,
      readOnto_of_read? (t := .comma) rfl rfl, hx _ _ hcomma (endsValue_more print hrest),
      hxs _ _ hstack hrest]
    simp

/-- printed things with commas between them -/
theorem goes_list {x : α} (htokens : ∀ y ∈ x :: xs, opened (tokens y) = 0)
    (h : ∀ y ∈ x :: xs, Goes d (print y) (tokens y)) :
    Goes d (print x ++ xs.flatMap fun x => ',' :: print x)
      (tokens x ++ xs.flatMap fun x => .comma :: tokens x) := by
  intro stack rest hd hrest
  have hstack : opened ((tokens x).reverse ++ stack) = d := by
    rw [opened_append, opened_reverse, htokens x (List.mem_cons_self ..), hd, Nat.zero_add]
  rw [List.append_assoc, h x (List.mem_cons_self ..) _ _ hd (endsValue_more print hrest),
    goes_more print tokens (fun y hy => htokens y (List.mem_cons_of_mem x hy))
      (fun y hy => h y (List.mem_cons_of_mem x hy)) _ _ hstack hrest,
    List.reverse_append, List.append_assoc]

theorem opened_list {x : α} (htokens : ∀ y ∈ x :: xs, opened (tokens y) = 0) :
    opened (tokens x ++ xs.flatMap fun x => .comma :: tokens x) = 0 := by
  rw [opened_append, htokens x (List.mem_cons_self ..), Nat.zero_add]
  unfold opened
  rw [List.countP_flatMap, List.sum_eq_zero_iff_forall_eq_nat]
  intro n hn
  obtain ⟨y, hy, rfl⟩ := List.mem_map.mp hn
  exact htokens y (List.mem_cons_of_mem x hy)

end

/-! ## closing marks -/

/-- a container can be closed as long as there is room for it -/
theorem isShallow_of_lt {below : List Token} (h : opened below < depthLimit) (ts : List Token) :
    isShallow ts below = true := by
  unfold isShallow
  rw [Bool.or_eq_true, decide_eq_true_iff]
  exact .inr h

theorem takeBack_append {isOpen : Token → Bool} {a : List Token} (inside : List Token)
    (h : ∀ t ∈ a, isOpen t = false) {o : Token} (ho : isOpen o = true) (below : List Token) :
    takeBack isOpen inside (a ++ o :: below) = some (a.reverse ++ inside, below) := by
  induction a generalizing inside with
  | nil =>
    show (if isOpen o then _ else _) = _
    rw [if_pos ho]
    rfl
  | cons t a ih =>
    show (if isOpen t then _ else takeBack isOpen (t :: inside) (a ++ o :: below)) = _
    rw [if_neg (by simp [h t (List.mem_cons_self ..)]),
      ih (t :: inside) fun u hu => h u (List.mem_cons_of_mem t hu), List.reverse_cons,
      List.append_assoc]
    rfl

section
variable {ts below : List Token} (hopened : opened ts = 0)
include hopened

theorem not_open (t : Token) (ht : t ∈ ts) : isOpenArray t = false ∧ isOpenObject t = false := by
  have := List.countP_eq_zero.mp hopened t ht
  simpa using this

variable (hshallow : isShallow ts below = true) (rest : List Char)
include hshallow

theorem readOnto_closeArray {items : List Json} (hitems : items? ts = some items) :
    readOnto (ts.reverse ++ .openArray :: below) (']' :: rest) =
      readOnto (.value (.array items) :: below) rest := by
  refine readOnto_of_read? (t := .closeArray) rfl ?_
  have htake : takeBack isOpenArray [] (ts.reverse ++ .openArray :: below) = some (ts, below) := by
    rw [takeBack_append [] (fun t ht => (not_open hopened t (List.mem_reverse.mp ht)).1) rfl,
      List.reverse_reverse, List.append_nil]
  unfold shift
  simp only [htake, hitems, Option.bind_eq_bind, Option.bind_some, hshallow, if_true]

theorem readOnto_closeObject {fields : List (String × Json)} (hfields : fields? ts = some fields) :
    readOnto (ts.reverse ++ .openObject :: below) ('\x7d' :: rest) =
      readOnto (.value (.object fields) :: below) rest := by
  refine readOnto_of_read? (t := .closeObject) rfl ?_
  have htake : takeBack isOpenObject [] (ts.reverse ++ .openObject :: below) =
      some (ts, below) := by
    rw [takeBack_append [] (fun t ht => (not_open hopened t (List.mem_reverse.mp ht)).2) rfl,
      List.reverse_reverse, List.append_nil]
  unfold shift
  simp only [htake, hfields, Option.bind_eq_bind, Option.bind_some, hshallow, if_true]

end

/-! ## containers -/

/-- the tokens of a field -/
def fieldTokens (f : String × Json) : List Token :=
  [.value (.string f.1), .colon, .value f.2]

/-- the characters of a field -/
def printedField (f : String × Json) : List Char :=
  Printer.quoted f.1 ++ ':' :: Printer.value f.2

theorem items?_list (v : Json) (vs : List Json) :
    items? ([.value v] ++ vs.flatMap fun v => .comma :: [.value v]) = some (v :: vs) := by
  induction vs generalizing v with
  | nil => rfl
  | cons w vs ih =>
    show (items? ([.value w] ++ vs.flatMap fun v => .comma :: [.value v])).map (v :: ·) = _
    rw [ih w]
    rfl

theorem fields?_list (f : String × Json) (fs : List (String × Json)) :
    fields? (fieldTokens f ++ fs.flatMap fun f => .comma :: fieldTokens f) = some (f :: fs) := by
  induction fs generalizing f with
  | nil => rfl
  | cons g fs ih =>
    show (fields? (fieldTokens g ++ fs.flatMap fun f => .comma :: fieldTokens f)).map (f :: ·) = _
    rw [ih g]
    rfl

theorem moreItems_eq (vs : List Json) :
    Printer.moreItems vs = (vs.flatMap fun v => ',' :: Printer.value v) ++ [']'] := by
  induction vs with
  | nil => rfl
  | cons v vs ih =>
    rw [Printer.moreItems, ih, List.flatMap_cons]
    simp

theorem moreFields_eq (fs : List (String × Json)) :
    Printer.moreFields fs = (fs.flatMap fun f => ',' :: printedField f) ++ ['\x7d'] := by
  induction fs with
  | nil => rfl
  | cons f fs ih =>
    rw [Printer.moreFields, ih, List.flatMap_cons]
    simp [printedField]

/-- a value that is read back where `d` containers are open around it -/
inductive Printable : Nat → Json → Prop
  | null {d : Nat} : Printable d .null
  | bool {d : Nat} (b : Bool) : Printable d (.bool b)
  | int {d : Nat} {n : Int} : IsShort n → Printable d (.int n)
  | decimal {d : Nat} {x : Decimal} :
      (minus x.negative).length + (Nat.toDigits 10 x.digits).length ≤ wholeLimit →
      Printable d (.decimal x)
  | nan {d : Nat} : Printable d .nan
  | infinity {d : Nat} (negative : Bool) : Printable d (.infinity negative)
  | string {d : Nat} (s : String) : Printable d (.string s)
  | array {d : Nat} {items : List Json} : (items ≠ [] → d < depthLimit) →
      (∀ v ∈ items, Printable (d + 1) v) → Printable d (.array items)
  | object {d : Nat} {fields : List (String × Json)} : (fields ≠ [] → d < depthLimit) →
      (∀ f ∈ fields, Printable (d + 1) f.2) → Printable d (.object fields)

section
variable {d : Nat}

theorem goes_array {items : List Json} (hdepth : items ≠ [] → d < depthLimit)
    (h : ∀ v ∈ items, Goes (d + 1) (Printer.value v) [.value v]) :
    Goes d (Printer.value (.array items)) [.value (.array items)] := by
  intro stack rest hd hrest
  cases items with
  | nil =>
    show readOnto stack ('[' :: ']' :: rest) = _
    rw [readOnto_of_read? (t := .openArray) rfl rfl]
    show readOnto (([] : List Token).reverse ++ .openArray :: stack) (']' :: rest) = _
    exact readOnto_closeArray rfl rfl rest rfl
  | cons v vs =>
    have hopen : opened (.openArray :: stack) = d + 1 := by
      rw [← hd]
      exact List.countP_cons_of_pos rfl
    have hroom : opened stack < depthLimit := hd ▸ hdepth (List.cons_ne_nil _ _)
    have htokens : ∀ y ∈ v :: vs, opened [.value y] = 0 := fun _ _ => rfl
    have htext : Printer.value (.array (v :: vs)) ++ rest =
        '[' ::
          ((Printer.value v ++ vs.flatMap fun v => ',' :: Printer.value v) ++ ']' :: rest) := by
      rw [Printer.value, moreItems_eq]
      simp
    have hmark : EndsValue (']' :: rest) := by
      rintro c ⟨⟩
      exact .inr (.inl rfl)
    rw [htext, readOnto_of_read? (t := .openArray) rfl rfl,
      goes_list Printer.value (fun v => [.value v]) htokens h _ _ hopen hmark,
      readOnto_closeArray (opened_list _ htokens) (isShallow_of_lt hroom _) _ (items?_list v vs)]
    rfl

theorem goes_field {k : String} {v : Json} (h : Goes d (Printer.value v) [.value v]) :
    Goes d (printedField (k, v)) (fieldTokens (k, v)) := by
  intro stack rest hd hrest
  unfold printedField
  rw [List.append_assoc, readOnto_of_read? (read?_quoted k _) rfl, List.cons_append,
    readOnto_of_read? (t := .colon) rfl rfl]
  exact h (.colon :: .value (.string k) :: stack) rest hd hrest

theorem goes_object {fields : List (String × Json)} (hdepth : fields ≠ [] → d < depthLimit)
    (h : ∀ f ∈ fields, Goes (d + 1) (Printer.value f.2) [.value f.2]) :
    Goes d (Printer.value (.object fields)) [.value (.object fields)] := by
  intro stack rest hd hrest
  cases fields with
  | nil =>
    show readOnto stack ('\x7b' :: '\x7d' :: rest) = _
    rw [readOnto_of_read? (t := .openObject) rfl rfl]
    show readOnto (([] : List Token).reverse ++ .openObject :: stack) ('\x7d' :: rest) = _
    exact readOnto_closeObject rfl rfl rest rfl
  | cons f fs =>
    have hopen : opened (.openObject :: stack) = d + 1 := by
      rw [← hd]
      exact List.countP_cons_of_pos rfl
    have hroom : opened stack < depthLimit := hd ▸ hdepth (List.cons_ne_nil _ _)
    have htokens : ∀ g ∈ f :: fs, opened (fieldTokens g) = 0 := fun _ _ => rfl
    have htext : Printer.value (.object (f :: fs)) ++ rest =
        '\x7b' :: ((printedField f ++ fs.flatMap fun f => ',' :: printedField f) ++
          '\x7d' :: rest) := by
      rw [Printer.value, moreFields_eq]
      simp [printedField]
    have hmark : EndsValue ('\x7d' :: rest) := by
      rintro c ⟨⟩
      exact .inr (.inr rfl)
    rw [htext, readOnto_of_read? (t := .openObject) rfl rfl,
      goes_list printedField fieldTokens htokens (fun g hg => goes_field (h g hg)) _ _ hopen hmark,
      readOnto_closeObject (opened_list _ htokens) (isShallow_of_lt hroom _) _ (fields?_list f fs)]
    rfl

/-- a printable value goes onto the stack as one token -/
theorem goes_value {v : Json} (h : Printable d v) : Goes d (Printer.value v) [.value v] := by
  induction h with
  | null => exact goes_of_read? fun _ _ => rfl
  | bool b => cases b <;> exact goes_of_read? fun _ _ => rfl
  | int hshort => exact goes_of_read? fun _ hrest => read?_integer hshort hrest
  | decimal hshort => exact goes_of_read? fun _ hrest => read?_decimal hshort hrest
  | nan => exact goes_of_read? fun _ _ => rfl
  | infinity negative => cases negative <;> exact goes_of_read? fun _ _ => rfl
  | string s => exact goes_of_read? fun rest _ => read?_quoted s rest
  | array hdepth _ ih => exact goes_array hdepth ih
  | object hdepth _ ih => exact goes_object hdepth ih

end

/-- **a printed value is read back** -/
theorem parse?_render {v : Json} (h : Printable 0 v) : parse? v.render = some v := by
  have honto : readOnto [] (Printer.value v) = some [.value v] := by
    have hgoes := goes_value h [] [] rfl nofun
    rw [List.append_nil] at hgoes
    rw [hgoes]
    unfold readOnto
    rw [tokens?_nil]
    rfl
  unfold parse? render
  rw [String.toList_ofList]
  unfold readOnto at honto
  cases htokens : tokens? (Printer.value v) with
  | none => simp [htokens] at honto
  | some ts =>
    rw [htokens, Option.bind_some] at honto
    rw [Option.bind_some]
    unfold ofTokens?
    rw [honto]

end DdlToJava.Json

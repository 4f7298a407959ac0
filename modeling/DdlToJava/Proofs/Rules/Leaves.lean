import DdlToJava.Proofs.Rules.Edit

/-!
# Reading the rules leaf by leaf

What a reader makes of one entry is a relation between the value that stands in the text and the
value of the entry, and a list of faults.  With these two the outcome of reading an object is told
without the readers: an entry is in the rules as it stands under its keys, or as it is by default,
and the problems are those of the entries, one after the other.

* `Coerces`, `coerces_iff`     which value an entry gets from the text;
* `Kind.faults`, `read_problems`
                               what is wrong with an entry;
* `LeafByLeaf`                 the outcome of reading an object, told entry by entry;
* `ofText_leafByLeaf`          that is what comes out, and edits do not show.
-/

namespace DdlToJava

namespace Json

/-- is the value a text? -/
def isString : Json → Bool
  | .string _ => true
  | _ => false

end Json

namespace Rules

open Json Reading

/-! ## one entry -/

/-- which values an entry can have, and what it gets from them.  The rules for switches and for
integers are those of `leafBool` and `leafInt`. -/
inductive Coerces : (k : Kind) → Json → k.Value → Prop
  | group (fields : List (String × Json)) : Coerces .group (.object fields) ()
  | text (s : String) : Coerces .text (.string s) s
  | texts (ss : List String) : Coerces .texts (.array (ss.map .string)) ss
  | path (s : String) : Coerces .path (.string s) (Path.ofString s)
  | switch {u : Json} {b : Bool} : leafBool u = ok b → Coerces .switch u b
  | integer {u : Json} {n : Int} : leafInt u = ok n → Coerces .integer u n

/-- what is wrong with the value of an entry; every item of a list is looked at -/
def Kind.faults : Kind → Json → List Problem
  | .group, u => if u.isObject then [] else [⟨[], .notObject⟩]
  | .text, u => if u.isString then [] else [⟨[], .notString⟩]
  | .texts, .array items =>
    (items.zipIdx.filter fun x => !x.1.isString).map fun x => ⟨[.index x.2], .notString⟩
  | .texts, _ => [⟨[], .notList⟩]
  | .path, u => if u.isString then [] else [⟨[], .notPath⟩]
  | .switch, u => (leafBool u).problems
  | .integer, u => (leafInt u).problems

theorem leafString_problems (v : Json) :
    (leafString v).problems = if v.isString then [] else [⟨[], .notString⟩] := by
  cases v <;> rfl

theorem stringItems_cons (n : Nat) (v : Json) (vs : List Json) :
    stringItems n (v :: vs) =
      (((leafString v).under (.index n)).map List.cons).ap (stringItems (n + 1) vs) := rfl

theorem stringItems_problems (n : Nat) (items : List Json) :
    (stringItems n items).problems =
      ((items.zipIdx n).filter fun x => !x.1.isString).map
        fun x => ⟨[.index x.2], .notString⟩ := by
  induction items generalizing n with
  | nil => rfl
  | cons v vs ih =>
    rw [stringItems_cons, ap_problems, ih, List.zipIdx_cons, List.filter_cons]
    show ((leafString v).under (.index n)).problems ++ _ = _
    unfold under
    rw [leafString_problems]
    cases v.isString <;> rfl

theorem stringItems_strings (n : Nat) (ss : List String) :
    stringItems n (ss.map .string) = ok ss := by
  induction ss generalizing n with
  | nil => rfl
  | cons s ss ih =>
    rw [List.map_cons, stringItems_cons, ih]
    rfl

theorem strings_of_stringItems {n : Nat} {items : List Json}
    (h : (stringItems n items).problems = []) : ∃ ss : List String, items = ss.map .string := by
  induction items generalizing n with
  | nil => exact ⟨[], rfl⟩
  | cons v vs ih =>
    rw [stringItems_cons, ap_problems, List.append_eq_nil_iff] at h
    obtain ⟨ss, rfl⟩ := ih h.2
    have hv : (leafString v).problems = [] := (under_problems_nil _ _).mp h.1
    cases v with
    | string s => exact ⟨s :: ss, rfl⟩
    | _ => cases hv

/-- the reader of an entry finds what is wrong with it -/
theorem read_problems (k : Kind) (u : Json) : (k.read u).problems = k.faults u := by
  cases k with
  | group => cases u <;> rfl
  | text => exact leafString_problems u
  | texts =>
    cases u with
    | array items => exact stringItems_problems 0 items
    | _ => rfl
  | path => cases u <;> rfl
  | switch => rfl
  | integer => rfl

theorem eq_ok_of_problems {α : Type} {r : Reading α} (h : r.problems = []) : r = ok r.value := by
  obtain ⟨a, ps⟩ := r
  cases h
  rfl

/-- where nothing is wrong, the entry gets what is read -/
theorem coerces_read {k : Kind} {u : Json} (h : (k.read u).problems = []) :
    Coerces k u (k.read u).value := by
  cases k with
  | group =>
    cases u with
    | object fields => exact .group fields
    | _ => cases h
  | text =>
    cases u with
    | string s => exact .text s
    | _ => cases h
  | texts =>
    cases u with
    | array items =>
      obtain ⟨ss, rfl⟩ := strings_of_stringItems h
      have hread : Kind.texts.read (.array (ss.map .string)) = ok ss := stringItems_strings 0 ss
      rw [hread]
      exact .texts ss
    | _ => cases h
  | path =>
    cases u with
    | string s => exact .path s
    | _ => cases h
  | switch => exact .switch (eq_ok_of_problems h)
  | integer => exact .integer (eq_ok_of_problems h)

theorem read_of_coerces {k : Kind} {u : Json} {x : k.Value} (h : Coerces k u x) :
    k.read u = ok x := by
  cases h with
  | group fields => rfl
  | text s => rfl
  | texts ss => exact stringItems_strings 0 ss
  | path s => rfl
  | switch h => exact h
  | integer h => exact h

theorem coerces_iff (k : Kind) (u : Json) :
    (∃ x, Coerces k u x) ↔ (k.read u).problems = [] := by
  constructor
  · rintro ⟨x, hx⟩
    rw [read_of_coerces hx]
    rfl
  · exact fun h => ⟨_, coerces_read h⟩

theorem knownSwitch_problems (b : Option Bool) :
    (knownSwitch b).problems = [] ∨ ∃ f, (knownSwitch b).problems = [⟨[], f⟩] := by
  cases b with
  | none => exact .inr ⟨_, rfl⟩
  | some b => exact .inl rfl

theorem leafBool_problems (u : Json) :
    (leafBool u).problems = [] ∨ ∃ f, (leafBool u).problems = [⟨[], f⟩] := by
  unfold leafBool
  split
  · exact .inl rfl
  · exact knownSwitch_problems _
  · split
    · exact knownSwitch_problems _
    · exact .inr ⟨_, rfl⟩

theorem leafInt_problems (u : Json) :
    (leafInt u).problems = [] ∨ ∃ f, (leafInt u).problems = [⟨[], f⟩] := by
  unfold leafInt
  split
  case h_1 => exact .inl rfl
  case h_2 => exact .inl rfl
  case h_3 d =>
    -- a decimal is rounded first, and what it is rounded to can still be no whole number
    split
    · exact .inr ⟨_, rfl⟩
    · split
      · exact .inr ⟨_, rfl⟩
      · split
        · exact .inl rfl
        · exact .inr ⟨_, rfl⟩
  case h_4 => exact .inr ⟨_, rfl⟩
  case h_5 => exact .inr ⟨_, rfl⟩
  case h_6 s =>
    split
    · exact .inl rfl
    · exact .inr ⟨_, rfl⟩
    · exact .inr ⟨_, rfl⟩
  case h_7 => exact .inr ⟨_, rfl⟩

/-- an entry has one fault at most, and at its own place; the items of a list have theirs -/
theorem faults_single (k : Kind) (u : Json) (hu : ∀ items, k = .texts → u ≠ .array items) :
    k.faults u = [] ∨ ∃ f, k.faults u = [⟨[], f⟩] := by
  cases k with
  | group =>
    cases u with
    | object fs => exact .inl rfl
    | _ => exact .inr ⟨_, rfl⟩
  | text =>
    cases u with
    | string s => exact .inl rfl
    | _ => exact .inr ⟨_, rfl⟩
  | texts =>
    cases u with
    | array items => exact absurd rfl (hu items rfl)
    | _ => exact .inr ⟨_, rfl⟩
  | path =>
    cases u with
    | string s => exact .inl rfl
    | _ => exact .inr ⟨_, rfl⟩
  | switch => exact leafBool_problems u
  | integer => exact leafInt_problems u

/-! ## all entries -/

/-- the faults of an entry, below the keys under which it is found -/
def Entry.faults {σ : Type} (e : Entry σ) (v : Json) : List Problem :=
  match v.locate? e.keys with
  | none => []
  | some (keys, u) => (e.kind.faults u).map (.below keys)

theorem problems_faults {σ : Type} (e : Entry σ) (v : Json) : e.problems v = e.faults v := by
  unfold Entry.problems Entry.faults
  cases v.locate? e.keys with
  | none => rfl
  | some x => simp only [read_problems]

/-- the outcome of reading a value, entry by entry -/
structure LeafByLeaf (v : Json) (outcome : Except (List Problem) Rules) : Prop where
  /-- there are rules if every entry that stands in the text can have its value -/
  succeeds : (∃ rules, outcome = .ok rules) ↔
    ∀ e ∈ schema, ∀ keys u, v.locate? e.keys = some (keys, u) → ∃ x, Coerces e.kind u x
  /-- an entry that stands in the text has that value -/
  found : ∀ rules, outcome = .ok rules → ∀ e ∈ schema, ∀ keys u,
    v.locate? e.keys = some (keys, u) → Coerces e.kind u (e.get rules)
  /-- an entry that does not stand in the text is built in -/
  missing : ∀ rules, outcome = .ok rules → ∀ e ∈ schema, v.locate? e.keys = none →
    e.get rules = e.get {}
  /-- and there is nothing else in the rules -/
  complete : ∀ rules rules' : Rules, (∀ e ∈ schema, e.get rules = e.get rules') → rules = rules'
  /-- without rules, there are the faults of the entries, in the order of the schema -/
  fails : ∀ problems, outcome = .error problems → problems = schema.flatMap (·.faults v)
  /-- an entry has one fault at most, at its own place, and a list one for each bad item -/
  single : ∀ (k : Kind) (u : Json), (∀ items, k = .texts → u ≠ .array items) →
    k.faults u = [] ∨ ∃ f, k.faults u = [⟨[], f⟩]

theorem toExcept_eq_ok {α : Type} {r : Reading α} {a : α} :
    r.toExcept = .ok a ↔ r.problems = [] ∧ r.value = a := by
  unfold toExcept
  split
  · next h => simp only [Except.ok.injEq, h, true_and]
  · next h => simp only [reduceCtorEq, h, false_and]

theorem toExcept_eq_error {α : Type} {r : Reading α} {ps : List Problem}
    (h : r.toExcept = .error ps) : ps = r.problems := by
  unfold toExcept at h
  split at h
  · cases h
  · cases h
    rfl

/-- an entry has no problem if it is not there or can have its value -/
theorem problems_eq_nil_iff {σ : Type} (e : Entry σ) (v : Json) :
    e.problems v = [] ↔
      ∀ keys u, v.locate? e.keys = some (keys, u) → ∃ x, Coerces e.kind u x := by
  unfold Entry.problems
  cases v.locate? e.keys with
  | none => exact ⟨fun _ _ _ h => (Option.some_ne_none _ h.symm).elim, fun _ => rfl⟩
  | some x =>
    obtain ⟨keys, u⟩ := x
    dsimp only
    rw [List.map_eq_nil_iff, ← coerces_iff]
    constructor
    · rintro h _ _ ⟨⟩
      exact h
    · exact fun h => h keys u rfl

theorem ofJson_object (fs : List (String × Json)) :
    ofJson (.object fs) = (readSections fs).toExcept := rfl

theorem leafByLeaf_object (fs : List (String × Json)) :
    LeafByLeaf (.object fs) (ofJson (.object fs)) where
  succeeds := by
    have hiff : (∃ rules, ofJson (.object fs) = .ok rules) ↔ (readSections fs).problems = [] :=
      ⟨fun ⟨_, h⟩ => (toExcept_eq_ok.mp h).1, fun h => ⟨_, toExcept_eq_ok.mpr ⟨h, rfl⟩⟩⟩
    rw [hiff, reads_schema.problems, List.flatMap_eq_nil_iff]
    simp only [problems_eq_nil_iff]
  found rules h e he keys u hu := by
    rw [ofJson_object, toExcept_eq_ok, reads_schema.problems, List.flatMap_eq_nil_iff] at h
    obtain ⟨hproblems, rfl⟩ := h
    have hvalue : e.get (readSections fs).value = (e.kind.read u).value := by
      rw [reads_schema.values fs e he]
      unfold Entry.value
      rw [hu]
    rw [hvalue]
    have hpasses := (problems_eq_nil_iff e _).mp (hproblems e he) keys u hu
    exact coerces_read ((coerces_iff _ _).mp hpasses)
  missing rules h e he hnone := by
    rw [ofJson_object, toExcept_eq_ok] at h
    rw [← h.2, reads_schema.values fs e he]
    unfold Entry.value
    rw [hnone]
  complete _ _ h := ext_schema h
  fails problems h := by
    rw [ofJson_object] at h
    rw [toExcept_eq_error h, reads_schema.problems]
    simp only [problems_faults]
  single := faults_single

/-- **an object of rules is read leaf by leaf, and what the rules do not ask for does not show** -/
theorem ofText_leafByLeaf {text : String} {fs : List (String × Json)}
    (h : Json.parse? text = some (.object fs)) :
    LeafByLeaf (.object fs) (ofText text) ∧
      ∀ text' v', Json.parse? text' = some v' → Edit [] (.object fs) v' →
        ofText text' = ofText text := by
  have hof : ofText text = ofJson (.object fs) := by
    unfold ofText
    rw [h]
  rw [hof]
  refine ⟨leafByLeaf_object fs, fun text' v' h' hedit => ?_⟩
  unfold ofText
  rw [h']
  exact (ofJson_edit hedit).symm

theorem ofText_leafByLeaf_small :
    (∃ rules, ofText "\x7b\"output\": \x7b\"dtoSuffix\": \"D\"\x7d\x7d" = .ok rules ∧
      rules.output.dtoSuffix = "D" ∧ rules.output.indent = "    ") ∧
    ofText "\x7b\"x\": 1, \"output\": \x7b\"dto_suffix\": \"E\", \"dtoSuffix\": \"D\"\x7d\x7d" =
      ofText "\x7b\"output\": \x7b\"dtoSuffix\": \"D\"\x7d\x7d" := by
  have hparse : Json.parse? "\x7b\"output\": \x7b\"dtoSuffix\": \"D\"\x7d\x7d" =
      some (.object [("output", .object [("dtoSuffix", .string "D")])]) :=
    by with_unfolding_all rfl
  have hparse' : Json.parse?
      "\x7b\"x\": 1, \"output\": \x7b\"dto_suffix\": \"E\", \"dtoSuffix\": \"D\"\x7d\x7d" =
      some (.object [("x", .int 1),
        ("output", .object [("dto_suffix", .string "E"), ("dtoSuffix", .string "D")])]) :=
    by with_unfolding_all rfl
  obtain ⟨hleaf, hedit⟩ := ofText_leafByLeaf hparse
  have hsuffix : (⟨.text, [("output", "output"), ("dtoSuffix", "dto_suffix")],
      fun r => r.output.dtoSuffix⟩ : Entry Rules) ∈ schema := by
    repeat first | exact List.mem_cons_self | refine List.mem_cons_of_mem _ ?_
  have hindent : (⟨.text, [("output", "output"), ("indent", "indent")],
      fun r => r.output.indent⟩ : Entry Rules) ∈ schema := by
    repeat first | exact List.mem_cons_self | refine List.mem_cons_of_mem _ ?_
  have hproblems : ∀ e ∈ schema,
      e.problems (.object [("output", .object [("dtoSuffix", .string "D")])]) = [] := by
    decide
  constructor
  · obtain ⟨rules, hrules⟩ := hleaf.succeeds.mpr fun e he =>
      (problems_eq_nil_iff e _).mp (hproblems e he)
    have hfound := read_of_coerces (hleaf.found rules hrules _ hsuffix _ _ rfl)
    exact ⟨rules, hrules, (congrArg Reading.value hfound).symm,
      hleaf.missing rules hrules _ hindent rfl⟩
  · -- the twin comes in first, and then the field that is not known
    have htwin : Edit [.key "output"] (.object ([] ++ [("dtoSuffix", .string "D")]))
        (.object ([] ++ ("dto_suffix", .string "E") :: [("dtoSuffix", .string "D")])) :=
      .twin (s := ("dtoSuffix", "dto_suffix")) _ hsuffix rfl (by decide) (by decide)
    exact hedit _ _ hparse' (.trans (.field [] [] htwin) (.unknown [] _ (.int 1) (by decide)))

end Rules

end DdlToJava

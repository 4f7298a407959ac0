import DdlToJava.Proofs.Rules.Schema

/-!
# Edits that the rules do not see

An edit of a text of rules is given by what it does to the JSON value: fields change places, a
field comes in that no entry of the schema asks for, or one whose first spelling is there already.
All that may happen anywhere in the value, so the relation carries the place where it happens.

* `Json.find?_append`, `Json.find?_perm`
                        which field counts, after fields have come in or changed places;
* `behind?`, `known`    the schema followed along a place;
* `agree_behind`        at one place, no two keys of the schema share a spelling;
* `Edit`                the edits;
* `Edit.read_eq`, `Edit.seen_eq`
                        what an entry at the place of an edit, and one below it, sees of it;
* `ofJson_edit`         the outcome is the same.
-/

namespace DdlToJava

/-! ## the field that counts -/

namespace Json

theorem find?_append (fs gs : List (String × Json)) (key : String) :
    find? (fs ++ gs) key = (find? gs key).or (find? fs key) := by
  unfold find?
  rw [List.reverse_append, List.lookup_append]

theorem find?_cons (k key : String) (v : Json) (fs : List (String × Json)) :
    find? ((k, v) :: fs) key = (find? fs key).or (if key = k then some v else none) := by
  rw [← List.singleton_append, find?_append]
  congr 1
  by_cases h : key = k
  · subst h
    rw [if_pos rfl]
    exact List.lookup_cons_self
  · rw [if_neg h]
    show List.lookup key [(k, v)] = none
    rw [List.lookup_cons, beq_false_of_ne h]
    rfl

/-- a field between others counts for its own key only -/
theorem find?_insert_of_ne {k key : String} (h : key ≠ k) (v : Json)
    (fs gs : List (String × Json)) :
    find? (fs ++ (k, v) :: gs) key = find? (fs ++ gs) key := by
  rw [find?_append, find?_append, find?_cons, if_neg h, Option.or_none]

theorem find?_isSome_of_mem {key : String} {fs : List (String × Json)}
    (h : key ∈ fs.map (·.1)) : (find? fs key).isSome = true := by
  obtain ⟨⟨k, v⟩, hmem, rfl⟩ := List.mem_map.mp h
  obtain ⟨as, bs, rfl⟩ := List.append_of_mem hmem
  rw [find?_append, find?_cons, if_pos rfl]
  cases find? bs k <;> rfl

/-- fields with keys of their own may stand in any order -/
theorem find?_perm {fs gs : List (String × Json)} (h : fs.Perm gs)
    (hkeys : (fs.map (·.1)).Nodup) (key : String) : find? fs key = find? gs key := by
  induction h with
  | nil => rfl
  | cons f _ ih =>
    obtain ⟨k, v⟩ := f
    rw [find?_cons, find?_cons, ih (List.nodup_cons.mp hkeys).2]
  | swap f g fs =>
    obtain ⟨k, v⟩ := f
    obtain ⟨k', v'⟩ := g
    have hne : k' ≠ k := fun heq => (List.nodup_cons.mp hkeys).1 (by simp [heq])
    simp only [find?_cons, Option.or_assoc]
    congr 1
    by_cases h : key = k
    · rw [if_pos h, if_neg fun h' => hne (h'.symm.trans h)]
      rfl
    · rw [if_neg h, Option.or_none]
      rfl
  | trans h₁ _ ih₁ ih₂ => exact (ih₁ hkeys).trans (ih₂ ((h₁.map _).nodup_iff.mp hkeys))

/-- what counts for a key is what counts for its spellings -/
theorem spelled?_congr {fs gs : List (String × Json)} {s : Spelling}
    (h₁ : find? fs s.1 = find? gs s.1) (h₂ : find? fs s.2 = find? gs s.2) :
    spelled? fs s = spelled? gs s := by
  unfold spelled?
  rw [h₁, h₂]

/-- what counts for a key after one field has got another value: what counted before, or the two
values of that field -/
theorem spelled?_field (fs gs : List (String × Json)) (k : String) (v v' : Json) (s : Spelling) :
    spelled? (fs ++ (k, v) :: gs) s = spelled? (fs ++ (k, v') :: gs) s ∨
      (k = s.1 ∨ k = s.2) ∧ spelled? (fs ++ (k, v) :: gs) s = some (k, v) ∧
        spelled? (fs ++ (k, v') :: gs) s = some (k, v') := by
  have hfind : ∀ key, find? (fs ++ (k, v) :: gs) key = find? (fs ++ (k, v') :: gs) key ∨
      key = k ∧ find? (fs ++ (k, v) :: gs) key = some v ∧
        find? (fs ++ (k, v') :: gs) key = some v' := by
    intro key
    simp only [find?_append, find?_cons]
    cases find? gs key with
    | some w => exact .inl rfl
    | none =>
      by_cases h : key = k
      · rw [if_pos h, if_pos h]
        exact .inr ⟨h, rfl, rfl⟩
      · rw [if_neg h, if_neg h]
        exact .inl rfl
  unfold spelled?
  rcases hfind s.1 with h₁ | ⟨h₁, hv, hv'⟩
  · rw [h₁]
    cases find? (fs ++ (k, v') :: gs) s.1 with
    | some w => exact .inl rfl
    | none =>
      rcases hfind s.2 with h₂ | ⟨h₂, hv, hv'⟩
      · rw [h₂]
        exact .inl rfl
      · rw [hv, hv']
        exact .inr ⟨.inr h₂.symm, by rw [h₂]; rfl, by rw [h₂]; rfl⟩
  · rw [hv, hv', h₁]
    exact .inr ⟨.inl rfl, rfl, rfl⟩

end Json

namespace Rules

open Json Reading

/-! ## the schema at a place -/

/-- Is the step one of the two spellings of a key? -/
def spells (s : Spelling) : Step → Bool
  | .key k => k == s.1 || k == s.2
  | .index _ => false

@[simp] theorem spells_key (s : Spelling) (k : String) :
    spells s (.key k) = true ↔ k = s.1 ∨ k = s.2 := by
  simp [spells]

/-- what is left of a row of keys when the steps have been taken along it -/
def behind? : List Step → List Spelling → Option (List Spelling)
  | [], keys => some keys
  | st :: here, s :: keys => if spells s st then behind? here keys else none
  | _ :: _, [] => none

/-- Does the schema have an entry at this place or below it? -/
def known (here : List Step) : Bool := schema.any fun e => (behind? here e.keys).isSome

theorem behind?_concat (here : List Step) (st : Step) (keys : List Spelling) :
    behind? (here ++ [st]) keys = (behind? here keys).bind (behind? [st]) := by
  induction here generalizing keys with
  | nil => rfl
  | cons st' here ih =>
    cases keys with
    | nil => rfl
    | cons s keys =>
      simp only [List.cons_append, behind?]
      split
      · exact ih keys
      · rfl

theorem behind?_cons_eq_some {st : Step} {here : List Step} {s : Spelling}
    {keys rest : List Spelling} (h : behind? (st :: here) (s :: keys) = some rest) :
    spells s st = true ∧ behind? here keys = some rest := by
  unfold behind? at h
  split at h
  · exact ⟨by assumption, h⟩
  · cases h

theorem behind?_spells {here : List Step} {keys rest : List Spelling} {s : Spelling} {st : Step}
    (h : behind? here keys = some (s :: rest)) (hst : spells s st = true) :
    behind? (here ++ [st]) keys = some rest := by
  rw [behind?_concat, h, Option.bind_some]
  unfold behind?
  rw [if_pos hst]
  rfl

theorem known_spells {here : List Step} {e : Entry Rules} (he : e ∈ schema)
    {rest : List Spelling} {s : Spelling} (h : behind? here e.keys = some (s :: rest)) {st : Step}
    (hst : spells s st = true) : known (here ++ [st]) = true :=
  List.any_eq_true.mpr ⟨e, he, by rw [behind?_spells h hst]; rfl⟩

/-- Two rows of keys agree up to the first key that is spelled apart. -/
def agree : List Spelling → List Spelling → Bool
  | s :: ss, t :: ts =>
    if s = t then agree ss ts
    else !spells s (.key t.1) && !spells s (.key t.2)
  | _, _ => true

theorem agree_schema : ∀ e ∈ schema, ∀ e' ∈ schema, agree e.keys e'.keys = true := by
  decide

theorem agree_cons {s t : Spelling} {ss ts : List Spelling}
    (h : agree (s :: ss) (t :: ts) = true) {st : Step} (hs : spells s st = true)
    (ht : spells t st = true) : s = t ∧ agree ss ts = true := by
  unfold agree at h
  split at h
  · exact ⟨by assumption, h⟩
  · rw [Bool.and_eq_true, Bool.not_eq_true', Bool.not_eq_true'] at h
    cases st with
    | index n => cases hs
    | key k =>
      rcases (spells_key t k).mp ht with rfl | rfl
      · rw [h.1] at hs
        cases hs
      · rw [h.2] at hs
        cases hs

/-- at one place, a key of the schema is known by either spelling -/
theorem agree_behind {here : List Step} {keys keys' rest rest' : List Spelling} {s t : Spelling}
    (hagree : agree keys keys' = true) (h : behind? here keys = some (s :: rest))
    (h' : behind? here keys' = some (t :: rest')) {st : Step} (hs : spells s st = true)
    (ht : spells t st = true) : s = t := by
  induction here generalizing keys keys' with
  | nil =>
    cases h
    cases h'
    exact (agree_cons hagree hs ht).1
  | cons st' here ih =>
    cases keys with
    | nil => cases h
    | cons a keys =>
      cases keys' with
      | nil => cases h'
      | cons b keys' =>
        obtain ⟨ha, h⟩ := behind?_cons_eq_some h
        obtain ⟨hb, h'⟩ := behind?_cons_eq_some h'
        exact ih (agree_cons hagree ha hb).2 h h'

/-! ## edits -/

/-- what may happen, at a place, to a value, without the rules being others -/
inductive Edit : List Step → Json → Json → Prop
  | refl {here : List Step} (v : Json) : Edit here v v
  | trans {here : List Step} {u v w : Json} : Edit here u v → Edit here v w → Edit here u w
  /-- fields with keys of their own change places -/
  | reorder {here : List Step} {fs gs : List (String × Json)} :
      fs.Perm gs → (fs.map (·.1)).Nodup → Edit here (.object fs) (.object gs)
  /-- a field comes in that the schema does not know -/
  | unknown {here : List Step} {k : String} (fs gs : List (String × Json)) (v : Json) :
      known (here ++ [.key k]) = false →
      Edit here (.object (fs ++ gs)) (.object (fs ++ (k, v) :: gs))
  /-- a field comes in that has the second spelling of a key, beside one that has the first -/
  | twin {here : List Step} {e : Entry Rules} {s : Spelling} {rest : List Spelling}
      {fs gs : List (String × Json)} (v : Json) :
      e ∈ schema → behind? here e.keys = some (s :: rest) → s.1 ≠ s.2 →
      s.1 ∈ (fs ++ gs).map (·.1) → Edit here (.object (fs ++ gs)) (.object (fs ++ (s.2, v) :: gs))
  /-- an edit inside a field -/
  | field {here : List Step} {k : String} {v v' : Json} (fs gs : List (String × Json)) :
      Edit (here ++ [.key k]) v v' →
      Edit here (.object (fs ++ (k, v) :: gs)) (.object (fs ++ (k, v') :: gs))
  /-- an edit inside an item -/
  | item {here : List Step} {v v' : Json} (us ws : List Json) :
      Edit (here ++ [.index us.length]) v v' →
      Edit here (.array (us ++ v :: ws)) (.array (us ++ v' :: ws))

/-! ## what an entry sees of an edit -/

theorem read_object (k : Kind) (fs gs : List (String × Json)) :
    k.read (.object fs) = k.read (.object gs) := by
  cases k <;> rfl

theorem stringItems_congr {v v' : Json} (h : leafString v = leafString v') (us ws : List Json)
    (n : Nat) : stringItems n (us ++ v :: ws) = stringItems n (us ++ v' :: ws) := by
  induction us generalizing n with
  | nil =>
    simp only [List.nil_append, stringItems]
    rw [h]
  | cons u us ih =>
    simp only [List.cons_append, stringItems]
    rw [ih]

/-- an entry at the place of an edit reads the same -/
theorem Edit.read_eq {here : List Step} {v v' : Json} (h : Edit here v v') (k : Kind) :
    k.read v = k.read v' := by
  induction h generalizing k with
  | refl v => rfl
  | trans _ _ ih₁ ih₂ => exact (ih₁ k).trans (ih₂ k)
  | reorder => exact read_object k _ _
  | unknown => exact read_object k _ _
  | twin => exact read_object k _ _
  | field => exact read_object k _ _
  | item us ws _ ih =>
    cases k with
    | texts => exact stringItems_congr (ih .text) us ws 0
    | _ => rfl

/-- what a row of keys leads to, as an entry sees it -/
def seen (k : Kind) (keys : List Spelling) (v : Json) : Option (List String × Reading k.Value) :=
  (v.locate? keys).map fun x => (x.1, k.read x.2)

theorem seen_nil (k : Kind) (v : Json) : seen k [] v = some ([], k.read v) := by
  unfold seen
  rw [locate?_nil]
  rfl

theorem seen_object (k : Kind) (s : Spelling) (rest : List Spelling)
    (fs : List (String × Json)) :
    seen k (s :: rest) (.object fs) =
      (spelled? fs s).bind fun x => (seen k rest x.2).map fun y => (x.1 :: y.1, y.2) := by
  unfold seen
  rw [locate?_object]
  cases spelled? fs s with
  | none => rfl
  | some x =>
    rw [Option.bind_some, Option.bind_some, Option.map_map, Option.map_map]
    rfl

theorem seen_congr (k : Kind) {s : Spelling} (rest : List Spelling)
    {fs gs : List (String × Json)} (h : spelled? fs s = spelled? gs s) :
    seen k (s :: rest) (.object fs) = seen k (s :: rest) (.object gs) := by
  rw [seen_object, seen_object, h]

/-- a field that comes in counts for no other key -/
theorem spelled?_insert {s : Spelling} {k : String} (h : spells s (.key k) = false) (v : Json)
    (fs gs : List (String × Json)) : spelled? (fs ++ gs) s = spelled? (fs ++ (k, v) :: gs) s := by
  have hne : s.1 ≠ k ∧ s.2 ≠ k := by
    constructor <;>
    · rintro rfl
      simp [spells] at h
  exact spelled?_congr (find?_insert_of_ne hne.1 v fs gs).symm
    (find?_insert_of_ne hne.2 v fs gs).symm

/-- the first spelling of a key wins -/
theorem spelled?_twin {s : Spelling} (hs : s.1 ≠ s.2) {fs gs : List (String × Json)}
    (hmem : s.1 ∈ (fs ++ gs).map (·.1)) (v : Json) :
    spelled? (fs ++ gs) s = spelled? (fs ++ (s.2, v) :: gs) s := by
  obtain ⟨w, hw⟩ := Option.isSome_iff_exists.mp (find?_isSome_of_mem hmem)
  unfold spelled?
  rw [find?_insert_of_ne hs, hw]

/-- **an entry at the place of an edit or below it sees nothing of it** -/
theorem Edit.seen_eq {here : List Step} {v v' : Json} (h : Edit here v v') {e : Entry Rules}
    (he : e ∈ schema) {rest : List Spelling} (hrest : behind? here e.keys = some rest) :
    seen e.kind rest v = seen e.kind rest v' := by
  -- with no key left, the entry is at the place of the edit
  cases rest with
  | nil => rw [seen_nil, seen_nil, h.read_eq]
  | cons s rest =>
    induction h generalizing s rest with
    | refl v => rfl
    | trans _ _ ih₁ ih₂ => exact (ih₁ s rest hrest).trans (ih₂ s rest hrest)
    | reorder hperm hkeys =>
      exact seen_congr _ rest (spelled?_congr (find?_perm hperm hkeys _) (find?_perm hperm hkeys _))
    | @unknown here k fs gs v hk =>
      have hs : spells s (.key k) = false := Bool.eq_false_iff.mpr fun hs =>
        Bool.eq_false_iff.mp hk (known_spells he hrest hs)
      exact seen_congr _ rest (spelled?_insert hs v fs gs)
    | @twin here e' s' rest' fs gs v he' hrest' hs hmem =>
      refine seen_congr _ rest ?_
      by_cases hst : spells s (.key s'.2) = true
      · have hss : s = s' := agree_behind (agree_schema e he e' he') hrest hrest' hst
          ((spells_key s' s'.2).mpr (.inr rfl))
        subst hss
        exact spelled?_twin hs hmem v
      · exact spelled?_insert (Bool.eq_false_iff.mpr hst) v fs gs
    | @field here k v v' fs gs hedit ih =>
      rcases spelled?_field fs gs k v v' s with heq | ⟨hk, hv, hv'⟩
      · exact seen_congr _ rest heq
      · have hbelow := behind?_spells hrest ((spells_key s k).mpr hk)
        have hrec : seen e.kind rest v = seen e.kind rest v' := by
          cases rest with
          | nil => rw [seen_nil, seen_nil, hedit.read_eq]
          | cons t rest => exact ih t rest hbelow
        rw [seen_object, seen_object, hv, hv', Option.bind_some, Option.bind_some, hrec]
    | item => rfl

/-! ## the outcome -/

theorem problems_seen {σ : Type} (e : Entry σ) (v : Json) :
    e.problems v =
      match seen e.kind e.keys v with
      | none => []
      | some (keys, r) => r.problems.map (.below keys) := by
  unfold Entry.problems seen
  cases v.locate? e.keys <;> rfl

theorem value_seen {σ : Type} (base : σ) (e : Entry σ) (v : Json) :
    e.value base v =
      match seen e.kind e.keys v with
      | none => e.get base
      | some (_, r) => r.value := by
  unfold Entry.value seen
  cases v.locate? e.keys <;> rfl

theorem Edit.isObject_eq {here : List Step} {v v' : Json} (h : Edit here v v') :
    v.isObject = v'.isObject := by
  induction h with
  | trans _ _ ih₁ ih₂ => exact ih₁.trans ih₂
  | _ => rfl

/-- **an edit leaves the rules and the problems as they are** -/
theorem ofJson_edit {v v' : Json} (h : Edit [] v v') : ofJson v = ofJson v' := by
  unfold ofJson
  cases hv : v.isObject with
  | false =>
    rw [sectionOf_of_not_object _ _ hv, sectionOf_of_not_object _ _ (h.isObject_eq ▸ hv)]
  | true =>
    have hv' : v'.isObject = true := h.isObject_eq ▸ hv
    cases v with
    | object fs =>
      cases v' with
      | object gs =>
        have hseen : ∀ e ∈ schema,
            seen e.kind e.keys (.object fs) = seen e.kind e.keys (.object gs) :=
          fun e he => h.seen_eq he rfl
        have hproblems : (readSections fs).problems = (readSections gs).problems := by
          rw [reads_schema.problems, reads_schema.problems, List.flatMap_def, List.flatMap_def]
          refine congrArg List.flatten (List.map_congr_left fun e he => ?_)
          rw [problems_seen, problems_seen, hseen e he]
        have hvalue : (readSections fs).value = (readSections gs).value := by
          refine ext_schema fun e he => ?_
          rw [reads_schema.values fs e he, reads_schema.values gs e he, value_seen, value_seen,
            hseen e he]
        show (readSections fs).toExcept = (readSections gs).toExcept
        unfold toExcept
        rw [hproblems, hvalue]
      | _ => cases hv'
    | _ => cases hv

end Rules

end DdlToJava

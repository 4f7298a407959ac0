import DdlToJava.Proofs.Json.RoundTrip
import DdlToJava.Proofs.Json.Short
import DdlToJava.Proofs.Path
import DdlToJava.Proofs.Rules.Leaves
import DdlToJava.Rules.Writer

/-!
# Written rules, read back

The writer goes through the rules as the schema lists them: every entry is written under the first
spelling of its keys, and in one form.  An entry is read back from that form if it is settled: a
path has to be normal, and an integer must not be too long for the JSON reader.  Whatever was read
from a text is settled, however it stood there, so that rules come back from the text that they
are written as.

* `Kind.WrittenAs`, `Writes`, `writes_schema`
                        how an entry is written, and that every entry is;
* `Settled`, `settled_of_coerces`
                        a value that comes back, as every value does that was read;
* `StandIn`, `ofJson_of_standIn`
                        settled rules come back from every value in which they stand;
* `printable_toJson`    their JSON value comes back from its text;
* `ofText_toText`       rules that were read come back from their text.
-/

namespace DdlToJava

namespace Json

theorem inside_of_find? {fields : List (String × Json)} {key : String} {v : Json}
    (h : find? fields key = some v) : Inside v (.object fields) :=
  .field (f := (key, v)) (List.mem_reverse.mp (mem_of_lookup_eq_some h)) (.refl v)

theorem Inside.trans {u v w : Json} (h : Inside u v) (h' : Inside v w) : Inside u w := by
  induction h' with
  | refl => exact h
  | item hmem _ ih => exact .item hmem ih
  | field hmem _ ih => exact .field hmem ih

/-- what a row of keys leads to stands in the value -/
theorem inside_of_locate? {keys : List Spelling} {v u : Json} {found : List String}
    (h : v.locate? keys = some (found, u)) : Inside u v := by
  induction keys generalizing v found with
  | nil =>
    rw [locate?_nil] at h
    cases h
    exact .refl u
  | cons s keys ih =>
    cases v with
    | object fields =>
      rw [locate?_object] at h
      obtain ⟨⟨k, w⟩, hw, h⟩ := Option.bind_eq_some_iff.mp h
      obtain ⟨⟨more, u'⟩, hu, heq⟩ := Option.map_eq_some_iff.mp h
      cases heq
      have hinside : Inside w (.object fields) := by
        unfold spelled? at hw
        split at hw
        · next hfirst =>
          cases hw
          exact inside_of_find? hfirst
        · obtain ⟨v, hv, heq⟩ := Option.map_eq_some_iff.mp hw
          cases heq
          exact inside_of_find? hv
      exact (ih hu).trans hinside
    | _ => cases h

end Json

namespace Rules

open Json Reading Token

/-! ## how an entry is written -/

/-- the value of an entry is written as this JSON value -/
def Kind.WrittenAs : (k : Kind) → k.Value → Json → Prop
  | .group, _, u => u.isObject = true
  | .text, s, u => u = .string s
  | .texts, ss, u => u = jsonStrings ss
  | .path, p, u => u = .string p.toString
  | .switch, b, u => u = .bool b
  | .integer, n, u => u = .int n

section
variable {σ τ : Type}

/-- the entry stands in the value under the first spelling of its keys, and as it is written -/
def Entry.Stands (e : Entry σ) (r : σ) (v : Json) : Prop :=
  ∃ u, v.locate? e.keys = some (e.keys.map (·.1), u) ∧ e.kind.WrittenAs (e.get r) u

/-- A part is written with all its entries. -/
structure Writes (write : σ → Json) (es : List (Entry σ)) : Prop where
  object : ∀ r, (write r).isObject = true
  stands : ∀ r, ∀ e ∈ es, e.Stands r (write r)

/-- the entries of a section stand in what the section is a part of -/
theorem Writes.part {write : σ → Json} {es : List (Entry σ)} (h : Writes write es) {s : Spelling}
    {part : τ → σ} {t : τ} {fs : List (String × Json)}
    (hs : spelled? fs s = some (s.1, write (part t))) :
    ∀ e ∈ group s part es, e.Stands t (.object fs) := by
  intro e he
  rcases List.mem_cons.mp he with rfl | he
  · refine ⟨write (part t), ?_, h.object (part t)⟩
    show locate? [s] (.object fs) = _
    rw [locate?_object, hs, Option.bind_some, locate?_nil]
    rfl
  · obtain ⟨e, hmem, rfl⟩ := List.mem_map.mp he
    obtain ⟨u, hu, hwritten⟩ := h.stands (part t) e hmem
    refine ⟨u, ?_, hwritten⟩
    show locate? (s :: e.keys) (.object fs) = _
    rw [locate?_object, hs, Option.bind_some, hu]
    rfl

end

theorem writes_naming : Writes jsonNaming namingSchema where
  object _ := rfl
  stands r := by
    simp only [namingSchema, List.forall_mem_cons]
    exact ⟨⟨_, rfl, rfl⟩, ⟨_, rfl, rfl⟩, ⟨_, rfl, rfl⟩, List.forall_mem_nil _⟩

theorem writes_number : Writes jsonNumber numberSchema where
  object _ := rfl
  stands r := by
    simp only [numberSchema, List.forall_mem_cons]
    exact ⟨⟨_, rfl, rfl⟩, ⟨_, rfl, rfl⟩, ⟨_, rfl, rfl⟩, ⟨_, rfl, rfl⟩,
      ⟨_, rfl, rfl⟩, List.forall_mem_nil _⟩

theorem writes_string : Writes jsonString stringSchema where
  object _ := rfl
  stands r := by
    simp only [stringSchema, List.forall_mem_cons]
    exact ⟨⟨_, rfl, rfl⟩, ⟨_, rfl, rfl⟩, List.forall_mem_nil _⟩

theorem writes_date : Writes jsonDate dateSchema where
  object _ := rfl
  stands r := by
    simp only [dateSchema, List.forall_mem_cons]
    exact ⟨⟨_, rfl, rfl⟩, ⟨_, rfl, rfl⟩, List.forall_mem_nil _⟩

theorem writes_validation : Writes jsonValidation validationSchema where
  object _ := rfl
  stands r := by
    simp only [validationSchema, List.forall_mem_cons]
    exact ⟨⟨_, rfl, rfl⟩, ⟨_, rfl, rfl⟩, ⟨_, rfl, rfl⟩, ⟨_, rfl, rfl⟩, List.forall_mem_nil _⟩

theorem writes_output : Writes jsonOutput outputSchema where
  object _ := rfl
  stands r := by
    simp only [outputSchema, List.forall_mem_cons]
    exact ⟨⟨_, rfl, rfl⟩, ⟨_, rfl, rfl⟩, ⟨_, rfl, rfl⟩, ⟨_, rfl, rfl⟩, List.forall_mem_nil _⟩

theorem writes_types : Writes jsonTypes typesSchema where
  object _ := rfl
  stands r e he := by
    rcases List.mem_append.mp he with he | he
    · rcases List.mem_append.mp he with he | he
      · exact writes_number.part rfl e he
      · exact writes_string.part rfl e he
    · exact writes_date.part rfl e he

/-- **the rules are written with all their entries** -/
theorem writes_schema : Writes toJson schema where
  object _ := rfl
  stands r e he := by
    rcases List.mem_append.mp he with he | he
    · rcases List.mem_append.mp he with he | he
      · rcases List.mem_append.mp he with he | he
        · exact writes_naming.part rfl e he
        · exact writes_types.part rfl e he
      · exact writes_validation.part rfl e he
    · exact writes_output.part rfl e he

/-! ## values that come back -/

/-- a value of an entry that comes back from its written form -/
def Kind.Settled : (k : Kind) → k.Value → Prop
  | .path, p => p.IsNormal
  | .integer, n => IsShort n
  | _, _ => True

/-- rules that come back from their written form -/
def Settled (rules : Rules) : Prop := ∀ e ∈ schema, e.kind.Settled (e.get rules)

theorem coerces_of_writtenAs {k : Kind} {x : k.Value} {u : Json} (h : k.WrittenAs x u)
    (hx : k.Settled x) : Coerces k u x := by
  cases k with
  | group =>
    cases u with
    | object fields => exact .group fields
    | _ => cases h
  | text =>
    cases h
    exact .text x
  | texts =>
    cases h
    exact .texts x
  | path =>
    cases h
    have hcoerces := Coerces.path x.toString
    rwa [Path.ofString_toString hx] at hcoerces
  | switch =>
    cases h
    exact .switch rfl
  | integer =>
    cases h
    exact .integer rfl

/-- all entries of the rules stand in the value -/
def StandIn (rules : Rules) (v : Json) : Prop := ∀ e ∈ schema, e.Stands rules v

theorem standIn_toJson (rules : Rules) : rules.StandIn rules.toJson := writes_schema.stands rules

theorem StandIn.isObject {rules : Rules} {v : Json} (h : rules.StandIn v) : v.isObject = true := by
  obtain ⟨u, hu, -⟩ := h ⟨.group, [("naming", "naming")], fun _ => ()⟩ (List.mem_cons_self ..)
  cases v with
  | object fields => rfl
  | _ => cases hu

/-- **settled rules come back from every value in which they stand** -/
theorem ofJson_of_standIn {rules : Rules} (h : rules.Settled) {v : Json} (hv : rules.StandIn v) :
    ofJson v = .ok rules := by
  have hobject := hv.isObject
  cases v with
  | object fs =>
    have hleaf := leafByLeaf_object fs
    have hcoerces : ∀ e ∈ schema, ∀ keys u, locate? e.keys (.object fs) = some (keys, u) →
        Coerces e.kind u (e.get rules) := by
      intro e he keys u hu
      obtain ⟨u', hu', hwritten⟩ := hv e he
      cases hu.symm.trans hu'
      exact coerces_of_writtenAs hwritten (h e he)
    obtain ⟨read, hread⟩ := hleaf.succeeds.mpr fun e he keys u hu => ⟨_, hcoerces e he keys u hu⟩
    have hsame : read = rules := hleaf.complete _ _ fun e he => by
      obtain ⟨u, hu, -⟩ := hv e he
      have hok := read_of_coerces (hleaf.found read hread e he _ u hu)
      rw [read_of_coerces (hcoerces e he _ u hu)] at hok
      exact (congrArg Reading.value hok).symm
    rw [hread, hsame]
  | _ => cases hobject

/-! ## values that were read -/

theorem numeral_isShort {cs : List Char} {n : Int} (h : Numeral.read cs = .ok n) : IsShort n := by
  have hplain : ∀ {ds : List Char} {m : Int}, Numeral.plain? ds = some m → IsShort m := by
    intro ds m hm
    unfold Numeral.plain? at hm
    split at hm
    · next hnumber =>
      cases hm
      exact number?_isShort hnumber
    · cases hm
  unfold Numeral.read at h
  split at h
  · next hn =>
    cases h
    exact hplain hn
  · split at h
    · cases h
    · split at h
      · next hn =>
        cases h
        obtain ⟨ds, -, hds⟩ := Option.bind_eq_some_iff.mp hn
        exact hplain hds
      · cases h

theorem ok_inj {α : Type} {a b : α} (h : ok a = ok b) : a = b := congrArg Reading.value h

theorem fail_ne_ok {α : Type} {a b : α} {f : Fault} : fail a f ≠ ok b := fun h =>
  List.cons_ne_nil _ _ (congrArg Reading.problems h)

theorem leafInt_isShort {u : Json} {n : Int} (hu : ShortIntegers u) (h : leafInt u = ok n) :
    IsShort n := by
  unfold leafInt at h
  split at h
  · cases ok_inj h
    exact hu _ (.refl _)
  · next b =>
    cases ok_inj h
    cases b <;> exact isShort_of_natAbs_le (by decide)
  · split at h
    · exact absurd h fail_ne_ok
    · split at h
      · exact absurd h fail_ne_ok
      · split at h
        · next hword =>
          cases ok_inj h
          have hlimit : wordLimit = 2 ^ 63 := by decide
          rw [hlimit] at hword
          exact isShort_of_natAbs_le (by omega)
        · exact absurd h fail_ne_ok
  · exact absurd h fail_ne_ok
  · exact absurd h fail_ne_ok
  · split at h
    · next hn =>
      cases ok_inj h
      exact numeral_isShort hn
    · exact absurd h fail_ne_ok
    · exact absurd h fail_ne_ok
  · exact absurd h fail_ne_ok

/-- what is read from a value with short integers comes back -/
theorem settled_of_coerces {k : Kind} {u : Json} {x : k.Value} (h : Coerces k u x)
    (hu : ShortIntegers u) : k.Settled x := by
  cases h with
  | path s => exact Path.isNormal_ofString s
  | integer h => exact leafInt_isShort hu h
  | _ => trivial

theorem settled_default : Settled {} := by
  unfold Settled
  simp only [schema, typesSchema, namingSchema, numberSchema, stringSchema, dateSchema,
    validationSchema, outputSchema, group, Entry.inside, List.map_cons, List.map_nil,
    List.cons_append, List.nil_append, List.forall_mem_cons, Kind.Settled, true_and]
  exact ⟨isShort_of_natAbs_le (by decide), by decide, List.forall_mem_nil _⟩

/-- rules that were read come back -/
theorem settled_of_ofText {text : String} {rules : Rules} (h : ofText text = .ok rules) :
    rules.Settled := by
  unfold ofText at h
  split at h
  · next v hv =>
    cases v with
    | object fs =>
      have hleaf := leafByLeaf_object fs
      intro e he
      cases hu : locate? e.keys (.object fs) with
      | none =>
        rw [hleaf.missing rules h e he hu]
        exact settled_default e he
      | some found =>
        obtain ⟨keys, u⟩ := found
        have hshort : ShortIntegers u := (parse?_short hv).of_inside fun w hw =>
          hw.trans (inside_of_locate? hu)
        exact settled_of_coerces (hleaf.found rules h e he keys u hu) hshort
    | _ => cases h
  · cases h

/-! ## the text -/

theorem printable_jsonStrings {d : Nat} (hd : d < Parser.depthLimit) (ss : List String) :
    Printable d (jsonStrings ss) := by
  refine .array (fun _ => hd) fun v hv => ?_
  obtain ⟨s, -, rfl⟩ := List.mem_map.mp hv
  exact .string s

/-- the JSON value of settled rules is printed so that it can be read -/
theorem printable_toJson {rules : Rules} (h : rules.Settled) : Printable 0 rules.toJson := by
  have hthreshold : IsShort rules.types.number.largeThreshold := by
    refine h ⟨.integer, [("typeMapping", "type_mapping"), ("number", "number"),
      ("largeThreshold", "large_threshold")], fun r => r.types.number.largeThreshold⟩ ?_
    repeat first | exact List.mem_cons_self | refine List.mem_cons_of_mem _ ?_
  have hobject : ∀ {d : Nat} {fields : List (String × Json)}, d < Parser.depthLimit →
      (∀ f ∈ fields, Printable (d + 1) f.2) → Printable d (.object fields) :=
    fun hd hfields => .object (fun _ => hd) hfields
  have hstrings : ∀ ss, Printable 2 (jsonStrings ss) := printable_jsonStrings (by decide)
  have htokens : ∀ ss, Printable 3 (jsonStrings ss) := printable_jsonStrings (by decide)
  refine hobject (by decide) ?_
  simp only [List.forall_mem_cons]
  refine ⟨hobject (by decide) ?_, hobject (by decide) ?_, hobject (by decide) ?_,
    hobject (by decide) ?_, nofun⟩
  · simp only [List.forall_mem_cons]
    exact ⟨hstrings _, hstrings _, .bool _, nofun⟩
  · simp only [List.forall_mem_cons]
    refine ⟨hobject (by decide) ?_, hobject (by decide) ?_, hobject (by decide) ?_, nofun⟩
    · simp only [List.forall_mem_cons]
      exact ⟨htokens _, .string _, .int hthreshold, .string _, .string _, nofun⟩
    · simp only [List.forall_mem_cons]
      exact ⟨.string _, htokens _, nofun⟩
    · simp only [List.forall_mem_cons]
      exact ⟨.string _, htokens _, nofun⟩
  · simp only [List.forall_mem_cons]
    exact ⟨.bool _, .string _, .string _, .bool _, nofun⟩
  · simp only [List.forall_mem_cons]
    exact ⟨.string _, .string _, .string _, .string _, nofun⟩

/-- **rules that were read, and the built-in ones, come back from every text in which all their
entries stand**, and the text that they are written as is one -/
theorem ofText_toText {rules : Rules} (h : rules = {} ∨ ∃ text, ofText text = .ok rules) :
    ofText rules.toText = .ok rules ∧
      (∃ v, Json.parse? rules.toText = some v ∧ rules.StandIn v) ∧
      ∀ written v, Json.parse? written = some v → rules.StandIn v → ofText written = .ok rules := by
  have hsettled : rules.Settled := by
    rcases h with rfl | ⟨text, h⟩
    · exact settled_default
    · exact settled_of_ofText h
  have hwritten : ∀ written v, Json.parse? written = some v → rules.StandIn v →
      ofText written = .ok rules := by
    intro written v hv hstand
    unfold ofText
    rw [hv]
    exact ofJson_of_standIn hsettled hstand
  have hparse : Json.parse? rules.toText = some rules.toJson :=
    parse?_render (printable_toJson hsettled)
  exact ⟨hwritten _ _ hparse (standIn_toJson rules), ⟨_, hparse, standIn_toJson rules⟩, hwritten⟩

theorem ofText_toText_lax :
    ∃ rules : Rules,
      ofText ("\x7b\"output\": \x7b\"directory\": \"//a/./b\"\x7d, \"type_mapping\": " ++
        "\x7b\"number\": \x7b\"large_threshold\": \"+007\"\x7d\x7d\x7d") = .ok rules ∧
      rules.output.directory = ⟨.doubleSlash, ["a", "b"]⟩ ∧
      rules.types.number.largeThreshold = 7 ∧ ofText rules.toText = .ok rules := by
  have hparse : Json.parse?
      ("\x7b\"output\": \x7b\"directory\": \"//a/./b\"\x7d, \"type_mapping\": " ++
        "\x7b\"number\": \x7b\"large_threshold\": \"+007\"\x7d\x7d\x7d") =
      some (.object [("output", .object [("directory", .string "//a/./b")]),
        ("type_mapping", .object [("number", .object [("large_threshold", .string "+007")])])]) :=
    by with_unfolding_all rfl
  have hread : ofText
      ("\x7b\"output\": \x7b\"directory\": \"//a/./b\"\x7d, \"type_mapping\": " ++
        "\x7b\"number\": \x7b\"large_threshold\": \"+007\"\x7d\x7d\x7d") =
      .ok { types := { number := { largeThreshold := 7 } },
            output := { directory := ⟨.doubleSlash, ["a", "b"]⟩ } } := by
    unfold ofText
    rw [hparse]
    decide +kernel
  exact ⟨_, hread, rfl, rfl, (ofText_toText (.inr ⟨_, hread⟩)).1⟩

end Rules

end DdlToJava

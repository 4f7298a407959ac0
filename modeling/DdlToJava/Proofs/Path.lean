import DdlToJava.Path
import DdlToJava.Proofs.Text.Joined

/-!
# Written paths

A path that was read has neither an empty name nor a single dot, and no slash in a name.  Such a
path is written in one way, and that way is read as the same path: the written form of a path that
was read is a fixed point of reading.

* `Path.IsNormal`         no name is empty, a dot, or has a slash in it;
* `isNormal_ofString`     reading a path makes it normal;
* `rootOf_text_append`    the root is seen in front of the names;
* `ofString_toString`     a normal path is read as it was written.
-/

namespace DdlToJava

namespace Path

open Text

/-- may the text be a name of a path that was read? -/
def IsName (n : String) : Prop := n ≠ "" ∧ n ≠ "." ∧ '/' ∉ n.toList

/-- a path as reading leaves it -/
def IsNormal (p : Path) : Prop := ∀ n ∈ p.names, IsName n

instance (p : Path) : Decidable p.IsNormal :=
  inferInstanceAs (Decidable (∀ n ∈ p.names, n ≠ "" ∧ n ≠ "." ∧ '/' ∉ n.toList))

theorem isNormal_ofString (s : String) : (ofString s).IsNormal := by
  intro n hn
  obtain ⟨p, hp, rfl⟩ := List.mem_map.mp hn
  rw [List.mem_filter] at hp
  obtain ⟨hpiece, hkept⟩ := hp
  simp only [ne_eq, decide_not, Bool.and_eq_true, Bool.not_eq_true', decide_eq_false_iff_not]
    at hkept
  refine ⟨fun h => hkept.1 ?_, fun h => hkept.2 ?_, ?_⟩
  · rw [← String.toList_ofList (l := p), h]
    rfl
  · rw [← String.toList_ofList (l := p), h]
    rfl
  · rw [String.toList_ofList]
    exact not_mem_of_mem_pieces hpiece

/-! ## the names -/

/-- the names with slashes between them -/
def body (names : List String) : List Char := ['/'].intercalate (names.map String.toList)

theorem toList_toString {p : Path} (h : p.root ≠ .here ∨ p.names ≠ []) :
    p.toString.toList = p.root.text.toList ++ body p.names := by
  obtain ⟨r, ns⟩ := p
  have hbody : (String.intercalate "/" ns).toList = body ns := by
    rw [String.toList_intercalate]
    rfl
  have hstring : Path.toString ⟨r, ns⟩ = r.text ++ String.intercalate "/" ns := by
    cases ns with
    | nil =>
      cases r with
      | here => exact absurd h (by simp)
      | _ => rfl
    | cons n ns => cases r <;> rfl
  rw [hstring, String.toList_append, hbody]

/-- no slash stands in front of the names -/
theorem head?_body {ns : List String} (h : ∀ n ∈ ns, IsName n) : (body ns).head? ≠ some '/' := by
  cases ns with
  | nil => exact Option.some_ne_none _ ∘ Eq.symm
  | cons n ns =>
    obtain ⟨hne, -, hslash⟩ := h n (List.mem_cons_self ..)
    have hcons : n.toList ≠ [] := fun hnil => hne (String.toList_eq_nil_iff.mp hnil)
    obtain ⟨c, cs, hn⟩ := List.exists_cons_of_ne_nil hcons
    have hhead : (body (n :: ns)).head? = some c := by
      unfold body
      rw [List.map_cons, hn]
      cases ns.map String.toList with
      | nil => rw [List.intercalate_singleton, List.head?_cons]
      | cons m ms => rw [List.intercalate_cons_cons, List.append_assoc, List.cons_append,
          List.head?_cons]
    rw [hhead]
    rintro ⟨⟩
    exact hslash (hn ▸ List.mem_cons_self ..)

/-- the pieces of the names are the names -/
theorem filter_pieces_body {ns : List String} (h : ∀ n ∈ ns, IsName n) :
    ((pieces '/' (body ns)).filter fun p => p ≠ [] && p ≠ ['.']).map String.ofList = ns := by
  by_cases hnil : ns = []
  · rw [hnil]
    rfl
  · have hnames : ∀ p ∈ ns.map String.toList, p ≠ [] ∧ p ≠ ['.'] ∧ '/' ∉ p := by
      intro p hp
      obtain ⟨n, hn, rfl⟩ := List.mem_map.mp hp
      obtain ⟨hne, hdot, hslash⟩ := h n hn
      exact ⟨fun h => hne (String.toList_inj.mp h), fun h => hdot (String.toList_inj.mp h), hslash⟩
    have hkept : ∀ p ∈ ns.map String.toList, (p ≠ [] && p ≠ ['.']) = true := fun p hp => by
      simp [(hnames p hp).1, (hnames p hp).2.1]
    unfold body
    rw [pieces_intercalate (by rwa [ne_eq, List.map_eq_nil_iff]) fun p hp => (hnames p hp).2.2,
      List.filter_eq_self.mpr hkept, List.map_map]
    simp

/-! ## the root -/

/-- the root is seen in front of what does not begin with a slash -/
theorem rootOf_text_append (r : Root) {cs : List Char} (h : cs.head? ≠ some '/') :
    rootOf (r.text.toList ++ cs) = r := by
  cases cs with
  | nil => cases r <;> rfl
  | cons c cs =>
    have hc : c ≠ '/' := fun hc => h (by rw [hc]; rfl)
    cases r with
    | here =>
      show rootOf (c :: cs) = .here
      exact rootOf.eq_4 _ (by simp [hc]) (by simp [hc]) (by simp [hc])
    | slash => exact rootOf.eq_3 _ (by simp [hc]) (by simp [hc])
    | doubleSlash => exact rootOf.eq_2 _ (by simp [hc])

/-- the slashes of a root add empty pieces only -/
theorem filter_pieces_text_append (r : Root) (cs : List Char) :
    (pieces '/' (r.text.toList ++ cs)).filter (fun p => p ≠ [] && p ≠ ['.']) =
      (pieces '/' cs).filter fun p => p ≠ [] && p ≠ ['.'] := by
  cases r with
  | here => rfl
  | slash =>
    show (pieces '/' ('/' :: cs)).filter _ = _
    rw [pieces_cons_self]
    rfl
  | doubleSlash =>
    show (pieces '/' ('/' :: '/' :: cs)).filter _ = _
    rw [pieces_cons_self, pieces_cons_self]
    rfl

/-- **a normal path is read as it was written** -/
theorem ofString_toString {p : Path} (h : p.IsNormal) : ofString p.toString = p := by
  by_cases hdot : p.root = .here ∧ p.names = []
  · obtain ⟨r, ns⟩ := p
    obtain ⟨rfl, rfl⟩ := hdot
    rfl
  · have htext := toList_toString (p := p) (by
      rw [not_and_or] at hdot
      exact hdot)
    unfold ofString
    rw [htext, rootOf_text_append _ (head?_body h), filter_pieces_text_append,
      filter_pieces_body h]

end Path

end DdlToJava

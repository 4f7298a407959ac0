import DdlToJava.Proofs.Console.Verbatim
import DdlToJava.Proofs.Run.Delivery

/-!
# What is said of written files

A written path is a part of a message with markup, and nothing in it is escaped.  So the report on
the files is the true one exactly if every path prints as it is, and the console keeps each line on
one row; the files are written in any case, before a word is said of them.

* `line_wrote`         the line of a path is what its characters print, behind a literal text;
* `text_lines_wrote_iff`
                       a console shows the lines of several paths as their report exactly if all
                       print as they are and every line has a row;
* `file_report_iff`    a generation of files with its report.
-/

namespace DdlToJava

open Files Host Machine Console Markup

/-! ## one line -/

section
variable {opened opened' : List Opened} {body cs : List Char}

theorem printParts_tag (htag : tagAt? ('[' :: (body ++ ']' :: cs)) = some (body, cs))
    (happly : applyTag opened body = .ok opened') :
    printParts opened (parts (pieces 0 ('[' :: (body ++ ']' :: cs)))) =
      printParts opened' (parts (pieces 0 cs)) := by
  rw [parts_tag htag, printParts, printParts, happly, Emoji.replace_nil]
  show (printParts opened' (parts (pieces 0 cs)) >>= fun printed => .ok ([] ++ printed)) = _
  cases printParts opened' (parts (pieces 0 cs)) <;> rfl

/-- a character in front of a message that begins no call of an emoji -/
theorem printParts_consRun_cons {c : Char} {ps : List Part} (hc : Emoji.call? [c] = none)
    (hrun : ∀ more, ps.head? = some (.run more) → Emoji.call? (c :: more) = none) :
    printParts opened (consRun [c] ps) = (printParts opened ps).map (c :: ·) := by
  unfold consRun
  split
  · next more ps =>
    rw [printParts, printParts, List.singleton_append, Emoji.replace_cons (hrun more rfl)]
    cases printParts opened ps <;> rfl
  · rw [printParts, Emoji.replace_cons hc, Emoji.replace_nil]
    cases printParts opened ps <;> rfl

/-- text without marks prints as it is -/
theorem printParts_append {text : List Char} (h : ∀ c ∈ text, isMark c = false) (cs : List Char) :
    printParts opened (parts (pieces 0 (text ++ cs))) =
      (printParts opened (parts (pieces 0 cs))).map (text ++ ·) := by
  induction text with
  | nil => cases hcs : printParts opened (parts (pieces 0 cs)) <;> simp [hcs, Except.map]
  | cons c text ih =>
    have hc := h c (List.mem_cons_self ..)
    have hcolon : c ≠ ':' := by
      rintro rfl
      cases hc
    have hliteral : c ≠ '[' ∧ c ≠ '\\' := by
      constructor <;>
      · rintro rfl
        cases hc
    rw [List.cons_append, parts_literal_cons hliteral,
      printParts_consRun_cons (Emoji.call?_of_ne hcolon _)
        fun more _ => Emoji.call?_of_ne hcolon more,
      ih fun d hd => h d (List.mem_cons_of_mem _ hd)]
    cases printParts opened (parts (pieces 0 cs)) <;> rfl

end

theorem toList_wrote (p : Path) :
    (Notice.wrote p).message.toList = '[' :: ("bold green".toList ++ ']' :: ("Wrote".toList ++
      ':' :: '[' :: (('/' :: "bold green".toList) ++ ']' :: ([' '] ++ p.toString.toList)))) := by
  unfold Notice.message Notice.styled
  simp only [String.toList_append, List.append_assoc]
  rfl

/-- the tags in front of a path open and close a style, so only the path itself counts -/
theorem printParts_wrote (cs : List Char) :
    printParts [] (parts (pieces 0 ('[' :: ("bold green".toList ++ ']' :: ("Wrote".toList ++
      ':' :: '[' :: (('/' :: "bold green".toList) ++ ']' :: ([' '] ++ cs))))))) =
      (printParts [] (parts (pieces 0 cs))).map ("Wrote: ".toList ++ ·) := by
  have hs := isStyle_boldGreen
  obtain ⟨name, hname⟩ := nameOf_ok (hs.not_mem (by decide))
  have hclosing := (hs.tags ([' '] ++ cs)).2
  rw [printParts_tag (hs.tags _).1 (applyTag_open hs hname), printParts_append (by decide +kernel),
    parts_literal_cons (by decide), printParts_consRun_cons rfl, printParts_tag hclosing
    (applyTag_close hs hname), printParts_append (by decide +kernel)]
  · cases printParts [] (parts (pieces 0 cs)) <;> rfl
  · intro more hmore
    rw [parts_tag hclosing] at hmore
    cases hmore

theorem any_lacksPart_wrote (cs : List Char) :
    (parts (pieces 0 ('[' :: ("bold green".toList ++ ']' :: ("Wrote".toList ++
      ':' :: '[' :: (('/' :: "bold green".toList) ++ ']' :: ([' '] ++ cs))))))).any lacksPart =
      (parts (pieces 0 cs)).any lacksPart := by
  have hs := isStyle_boldGreen
  rw [any_lacksPart_tag (hs.tags _).1 (hs.not_mem (by decide)),
    any_lacksPart_literal (by decide +kernel), parts_literal_cons (by decide), any_consRun,
    any_lacksPart_tag (hs.tags _).2 hs.not_mem_slash, any_lacksPart_literal (by decide)]

/-- the line of a path is what the path prints, behind the word for it -/
theorem line_wrote (p : Path) :
    (Notice.wrote p).line =
      (printParts [] (parts (pieces 0 p.toString.toList))).bind fun out =>
        if (parts (pieces 0 p.toString.toList)).any lacksPart then .error .missingPart
        else .ok (String.ofList (settled ("Wrote: ".toList ++ out)) ++ "\n") := by
  unfold Notice.line Markup.print
  dsimp only
  rw [toList_wrote, printParts_wrote, any_lacksPart_wrote]
  cases printParts [] (parts (pieces 0 p.toString.toList)) with
  | error fault => rfl
  | ok out =>
    show Except.map _ (if _ then _ else _) = if _ then _ else _
    split <;> rfl

/-- the line that reports a path -/
def wroteLine (p : Path) : String := "Wrote: " ++ p.toString ++ "\n"

/-- the lines that report paths -/
def report (paths : List Path) : String := String.join (paths.map wroteLine)

theorem toList_wroteLine (p : Path) :
    (wroteLine p).toList = "Wrote: ".toList ++ p.toString.toList ++ ['\n'] := by
  unfold wroteLine
  rw [String.toList_append, String.toList_append]
  rfl

theorem line_wrote_of_verbatim {p : Path} (h : Verbatim p.toString.toList) :
    (Notice.wrote p).line = .ok (wroteLine p) := by
  have hsettled : settled ("Wrote: ".toList ++ p.toString.toList) =
      "Wrote: ".toList ++ p.toString.toList := by
    refine settled_of_noControl fun c hc => ?_
    rcases List.mem_append.mp hc with hc | hc
    · have hword : ∀ c ∈ "Wrote: ".toList, c ≠ '\t' ∧ isDropped c = false := by decide +kernel
      exact hword c hc
    · exact h.noControl c hc
  obtain ⟨hprinted, hcomplete⟩ := h.printParts []
  rw [line_wrote, hprinted, hcomplete]
  show Except.ok (String.ofList (settled ("Wrote: ".toList ++ p.toString.toList)) ++ "\n") = _
  rw [hsettled, String.ofList_append, String.ofList_toList, String.ofList_toList]
  rfl

section
variable {p : Path} {text : String} (h : (Notice.wrote p).line = .ok text)
include h

/-- the printed characters behind a line -/
theorem line_wrote_eq_ok : ∃ out,
    printParts [] (parts (pieces 0 p.toString.toList)) = .ok out ∧
      text.toList = settled ("Wrote: ".toList ++ out) ++ ['\n'] := by
  rw [line_wrote] at h
  cases hout : printParts [] (parts (pieces 0 p.toString.toList)) with
  | error fault =>
    rw [hout] at h
    cases h
  | ok out =>
    rw [hout] at h
    change (if _ then _ else _) = _ at h
    split at h
    · cases h
    · cases h
      refine ⟨out, rfl, ?_⟩
      rw [String.toList_append, String.toList_ofList]
      rfl

theorem noControl_line_wrote : ∀ c ∈ text.toList, c ≠ '\t' ∧ isDropped c = false := by
  obtain ⟨out, -, htext⟩ := line_wrote_eq_ok h
  rw [htext]
  intro c hc
  rcases List.mem_append.mp hc with hc | hc
  · exact noControl_settled _ c hc
  · rw [List.mem_singleton.mp hc]
    decide

/-- a line has the marks that its path prints, next to those of the true line -/
theorem countP_line_wrote : ∃ out,
    printParts [] (parts (pieces 0 p.toString.toList)) = .ok out ∧
      text.toList.countP isMark + p.toString.toList.countP isMark =
        (wroteLine p).toList.countP isMark + out.countP isMark := by
  obtain ⟨out, hout, htext⟩ := line_wrote_eq_ok h
  refine ⟨out, hout, ?_⟩
  rw [htext, toList_wroteLine, List.countP_append, countP_settled, List.countP_append,
    List.countP_append, List.countP_append]
  omega

theorem countP_line_wrote_le :
    text.toList.countP isMark ≤ (wroteLine p).toList.countP isMark := by
  obtain ⟨out, hout, hcount⟩ := countP_line_wrote h
  have := countP_printed_le hout
  omega

/-- a line with all the marks of the true one is the true one, but for control characters -/
theorem verbatim_of_line_wrote
    (hcount : (wroteLine p).toList.countP isMark ≤ text.toList.countP isMark)
    (hcontrol : ∀ c ∈ p.toString.toList, c ≠ '\t' ∧ isDropped c = false) :
    Verbatim p.toString.toList := by
  obtain ⟨out, hout, hsum⟩ := countP_line_wrote h
  have := countP_printed_le hout
  exact Verbatim.of_countP hout (by omega) hcontrol

end

/-! ## all lines -/

theorem report_cons (p : Path) (paths : List Path) :
    report (p :: paths) = wroteLine p ++ report paths := by
  unfold report
  rw [List.map_cons, String.join_cons]

theorem lines_wrote_of_verbatim {paths : List Path}
    (h : ∀ p ∈ paths, Verbatim p.toString.toList) :
    Notice.lines (paths.map .wrote) = .ok (report paths) := by
  induction paths with
  | nil => rfl
  | cons p paths ih =>
    rw [List.map_cons, Notice.lines, line_wrote_of_verbatim (h p (List.mem_cons_self ..)),
      ih fun q hq => h q (List.mem_cons_of_mem _ hq)]
    show Except.ok (wroteLine p ++ report paths) = .ok (report (p :: paths))
    exact congrArg Except.ok (report_cons p paths).symm

/-- lines that have all the marks of the report, and no more control characters than it may have -/
theorem verbatim_of_lines_wrote {paths : List Path} {text : String}
    (h : Notice.lines (paths.map .wrote) = .ok text) :
    text.toList.countP isMark ≤ (report paths).toList.countP isMark ∧
    (∀ c ∈ text.toList, c ≠ '\t' ∧ isDropped c = false) ∧
    ((report paths).toList.countP isMark ≤ text.toList.countP isMark →
      (∀ p ∈ paths, ∀ c ∈ p.toString.toList, c ≠ '\t' ∧ isDropped c = false) →
      ∀ p ∈ paths, Verbatim p.toString.toList) := by
  induction paths generalizing text with
  | nil =>
    cases h
    exact ⟨Nat.le_refl _, by simp, by simp⟩
  | cons p paths ih =>
    obtain ⟨line, hline, h⟩ := bind_eq_ok.mp h
    obtain ⟨more, hmore, h⟩ := bind_eq_ok.mp h
    cases h
    obtain ⟨hle, hnone, hverbatim⟩ := ih hmore
    have hfirst := countP_line_wrote_le hline
    rw [report_cons]
    simp only [String.toList_append, List.countP_append]
    refine ⟨by omega, ?_, fun hcount hcontrol => ?_⟩
    · intro c hc
      rcases List.mem_append.mp hc with hc | hc
      · exact noControl_line_wrote hline c hc
      · exact hnone c hc
    · rw [List.forall_mem_cons] at hcontrol ⊢
      exact ⟨verbatim_of_line_wrote hline (by omega) hcontrol.1,
        hverbatim (by omega) hcontrol.2⟩

theorem mem_report {paths : List Path} {p : Path} (hp : p ∈ paths) {c : Char}
    (hc : c ∈ p.toString.toList) : c ∈ (report paths).toList := by
  unfold report
  rw [String.toList_join]
  refine List.mem_flatMap.mpr ⟨wroteLine p, List.mem_map_of_mem hp, ?_⟩
  rw [toList_wroteLine]
  exact List.mem_append_left _ (List.mem_append_right _ hc)

/-- **the lines of written paths are the report exactly if every path prints as it is**, and the
console keeps every line on its row -/
theorem text_lines_wrote_iff (l : Layout) (paths : List Path) :
    (∃ text, Notice.lines (paths.map .wrote) = .ok text ∧ l.text text = report paths) ↔
      (∀ p ∈ paths, Verbatim p.toString.toList) ∧
        ∀ line ∈ Text.pieces '\n' (report paths).toList, l.Keeps line := by
  constructor
  · rintro ⟨text, hlines, htext⟩
    obtain ⟨-, hnone, hverbatim⟩ := verbatim_of_lines_wrote hlines
    have hcount : (report paths).toList.countP isMark ≤ text.toList.countP isMark := by
      rw [← htext]
      exact l.countP_text_le rfl rfl text
    have hcontrol : ∀ p ∈ paths, ∀ c ∈ p.toString.toList, c ≠ '\t' ∧ isDropped c = false := by
      intro p hp c hc
      have hmem := mem_report hp hc
      rw [← htext] at hmem
      rcases l.mem_text hmem with rfl | rfl | hmem
      · decide
      · decide
      · exact hnone c hmem
    have hall := hverbatim hcount hcontrol
    refine ⟨hall, (l.text_eq_iff (report paths)).mp ?_⟩
    rw [lines_wrote_of_verbatim hall] at hlines
    cases hlines
    exact htext
  · rintro ⟨hall, hkeeps⟩
    exact ⟨_, lines_wrote_of_verbatim hall, (l.text_eq_iff _).mpr hkeeps⟩

/-! ## the run -/

/-- **The report on the files is the true one exactly if every path prints as it is**, and the
console keeps the lines of the report on their rows.  The files are all written by then; a path
whose tags cannot be printed ends the run all the same. -/
theorem file_report_iff {rules : Rules} {settings : Settings} {outDir : Option Path}
    {ddl : String} {w w' : Machine} {t : Table} {paths : List Path}
    (ht : Table.ofDdl rules ddl = .ok t)
    (hstore : execute (store (baseDirectory rules settings outDir) (Artifact.ofTable rules t)) w =
      (.ok paths, w')) :
    paths = (Artifact.ofTable rules t).map (·.path (baseDirectory rules settings outDir)) ∧
    ∃ notes, Notice.lines (tableNotices t) = .ok notes ∧
      generated rules settings outDir ddl w .file =
        (reported (Artifact.ofTable rules t) (Notice.lines (paths.map .wrote)),
          { (w.saying notes).saying (Notice.spoken (paths.map .wrote)) with tree := w'.tree }) ∧
      ((generated rules settings outDir ddl w .file).1 = .ok (Artifact.ofTable rules t) ∧
          (generated rules settings outDir ddl w .file).2.said =
            (w.saying notes).said ++ report paths ↔
        (∀ p ∈ paths, Verbatim p.toString.toList) ∧
          ∀ line ∈ Text.pieces '\n' (report paths).toList, w.layout.Keeps line) := by
  obtain ⟨-, hpaths, -⟩ := execute_store_eq_ok hstore
  obtain ⟨notes, hnotes⟩ := lines_tableNotices_ok ht
  have hrun : generated rules settings outDir ddl w .file = _ :=
    execute_file_stored settings outDir w ht hnotes hstore
  refine ⟨hpaths, notes, hnotes, hrun, ?_⟩
  rw [hrun, ← text_lines_wrote_iff]
  constructor
  · rintro ⟨hresult, hsaid⟩
    dsimp only at hresult hsaid
    cases hlines : Notice.lines (paths.map .wrote) with
    | error fault =>
      rw [hlines] at hresult
      cases hresult
    | ok text =>
      rw [spoken_of_lines hlines] at hsaid
      exact ⟨text, rfl, (String.append_right_inj _).mp hsaid⟩
  · rintro ⟨text, hlines, htext⟩
    rw [hlines, spoken_of_lines hlines]
    exact ⟨rfl, congrArg ((w.saying notes).said ++ ·) htext⟩

/-- a machine with a console of some width -/
def consoleMachine (width : Nat) : Machine where
  layout := .ofWidth width

/-- the files in a directory `out` are reported on a console of twenty cells, but not on one of
nineteen; those in a directory `o[b]` are not -/
theorem file_report_iff_directories :
    (∃ notes, (generated {} {} none smallDdl (consoleMachine 20) .file).2.said =
      ((consoleMachine 20).saying notes).said ++ "Wrote: out/T.java\nWrote: out/TDTO.java\n") ∧
    (∃ notes, Notice.lines (tableNotices smallTable) = .ok notes ∧
      ¬ ((generated {} {} none smallDdl (consoleMachine 19) .file).1 =
          .ok (Artifact.ofTable {} smallTable) ∧
        (generated {} {} none smallDdl (consoleMachine 19) .file).2.said =
          ((consoleMachine 19).saying notes).said ++
            "Wrote: out/T.java\nWrote: out/TDTO.java\n")) ∧
    ∃ notes, Notice.lines (tableNotices smallTable) = .ok notes ∧
      ¬ ((generated {} {} (some { names := ["o[b]"] }) smallDdl {} .file).1 =
          .ok (Artifact.ofTable {} smallTable) ∧
        (generated {} {} (some { names := ["o[b]"] }) smallDdl {} .file).2.said =
          (({} : Machine).saying notes).said ++
            "Wrote: o[b]/T.java\nWrote: o[b]/TDTO.java\n") := by
  have ht : Table.ofDdl {} smallDdl = .ok smallTable := by decide +kernel
  have hpaths (width : Nat) : (execute (store (baseDirectory {} {} none)
      (Artifact.ofTable {} smallTable)) (consoleMachine width)).1 =
      .ok [{ names := ["out", "T.java"] }, { names := ["out", "TDTO.java"] }] := by
    have htree : (consoleMachine width).tree = ({} : Machine).tree := rfl
    have hsame := (onFiles_store (baseDirectory {} {} none) (Artifact.ofTable {} smallTable)).congr
      htree rfl
    exact hsame.1.trans (by decide +kernel)
  have hwords : report [{ names := ["out", "T.java"] }, { names := ["out", "TDTO.java"] }] =
      "Wrote: out/T.java\nWrote: out/TDTO.java\n" := by decide +kernel
  have hlines : Text.pieces '\n' "Wrote: out/T.java\nWrote: out/TDTO.java\n".toList =
      ["Wrote: out/T.java".toList, "Wrote: out/TDTO.java".toList, []] := by decide +kernel
  refine ⟨?_, ?_, ?_⟩
  · obtain ⟨-, notes, -, -, hreport⟩ := file_report_iff ht (execute_of_result (hpaths 20))
    rw [hwords, hlines] at hreport
    refine ⟨notes, (hreport.mpr ⟨?_, ?_⟩).2⟩
    · exact List.forall_mem_cons.mpr ⟨.of_plain (by decide +kernel),
        List.forall_mem_singleton.mpr (.of_plain (by decide +kernel))⟩
    · have hfits : ∀ line ∈ ["Wrote: out/T.java".toList, "Wrote: out/TDTO.java".toList, []],
          cells line ≤ 20 ∧ line.length ≤ 20 := by decide +kernel
      exact fun line hline => Layout.keeps_ofWidth (hfits line hline).1 (hfits line hline).2
  · obtain ⟨-, notes, hnotes, -, hreport⟩ := file_report_iff ht (execute_of_result (hpaths 19))
    rw [hwords, hlines] at hreport
    refine ⟨notes, hnotes, fun hsaid => ?_⟩
    have hfits := Layout.cells_le_of_keeps
      ((hreport.mp hsaid).2 "Wrote: out/TDTO.java".toList (by decide +kernel))
    exact absurd hfits (by decide +kernel)
  · have hstore : execute (store (baseDirectory {} {} (some { names := ["o[b]"] }))
          (Artifact.ofTable {} smallTable)) {} =
        (.ok [{ names := ["o[b]", "T.java"] }, { names := ["o[b]", "TDTO.java"] }], _) :=
      execute_of_result (by decide +kernel)
    have hwords : report [{ names := ["o[b]", "T.java"] }, { names := ["o[b]", "TDTO.java"] }] =
        "Wrote: o[b]/T.java\nWrote: o[b]/TDTO.java\n" := by decide +kernel
    obtain ⟨-, notes, hnotes, -, hreport⟩ := file_report_iff ht hstore
    rw [hwords] at hreport
    refine ⟨notes, hnotes, fun hsaid => ?_⟩
    have hverbatim := (hreport.mp hsaid).1 _ (List.mem_cons_self ..)
    exact absurd (hverbatim.noTag "[b]/T.java".toList ⟨['o'], by decide +kernel⟩)
      (by decide +kernel)

end DdlToJava

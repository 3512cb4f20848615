import ConfigTables.Proofs.Datum.RoundTrip
import ConfigTables.Proofs.Run.Repetition
import ConfigTables.Proofs.Sheet.Inheritance

/-!
# Written files lose nothing

What is written to a file as JSON can be read back, and two values are written as one text just if
they are the same value (`Artifact.lossless_of_write`). This is so for every datum without
floating-point numbers in which no object has a key twice, and a run writes no other data: its
documents have the typed values of cells under the distinct names of columns
(`Datum.inherited_regular`), and its report has texts and integers (`Batch.regular_report`).
-/

namespace ConfigTables

/-! ### Documents -/

namespace Datum

theorem inherited_regular : Inherited Regular where
  null := .null
  bool := .bool
  int n _ _ := .int n
  text := .text
  list _ := .list
  items _ h := by
    cases h with
    | list hitems => exact hitems
  object _ := .object

theorem regular_data (tab : Tab) : ∀ row ∈ tab.data, row.Regular := by
  refine List.forall_mem_map.2 fun row _ ↦ .list (List.forall_mem_map.2 fun cell _ ↦ ?_)
  rcases cell with _ | s
  · exact .null
  · exact .text s

end Datum

/-! ### Reports -/

theorem Finding.regular_entry (finding : Finding) (outputs : List Path) :
    (finding.entry outputs).toDatum.Regular := by
  have htexts (texts : List String) : (Datum.list (texts.map .text)).Regular :=
    .list (List.forall_mem_map.2 fun s _ ↦ .text s)
  rcases finding with ⟨workbook, fault⟩ | ⟨workbook, result⟩
  all_goals
    refine .object (by simp) ?_
    simp only [List.forall_mem_cons]
    exact ⟨.text _, .text _, .text _, .text _, .text _, .int _, .int _, htexts _, htexts _,
      List.forall_mem_nil _⟩

theorem Report.regular_toDatum {report : Report}
    (h : ∀ entry ∈ report.entries, entry.toDatum.Regular) : report.toDatum.Regular := by
  refine .object (by simp) ?_
  simp only [List.forall_mem_cons]
  exact ⟨.int _, .int _, .int _, .int _, .list (List.forall_mem_map.2 h), List.forall_mem_nil _⟩

namespace Batch

variable {reader : WorkbookReader} {delimiter : Delimiter} {tree : FileTree} {input : Path}
  {output : Option Path} {report : Report} {state : BatchState}

/-- What a run reports are the entries of findings. -/
theorem exists_entries_of_convertAll
    (h : convertAll reader delimiter input output { tree } = .ok report state) :
    ∃ found : List Finding,
      report.entries = found.map fun finding ↦ finding.entry (finding.outputs output) := by
  rcases output with _ | output
  · obtain ⟨paths, -, hadd, rfl⟩ := convertAll_eq_ok_iff.1 h
    obtain ⟨found, -, hprogress⟩ := (progress_start none tree).addWorkbooks
      (fun before between hprogress path _ ↦ by rw [hprogress.tree_eq]) hadd
    exact ⟨_, hprogress.entries⟩
  · obtain ⟨-, found, -, -, hprogress, rfl⟩ := progress_of_export h
    exact ⟨_, hprogress.entries⟩

/-- **Reports**: the report of a run has texts and numbers, and no object in it has a key twice. -/
theorem regular_report (h : convertAll reader delimiter input output { tree } = .ok report state) :
    report.toDatum.Regular := by
  obtain ⟨found, hentries⟩ := exists_entries_of_convertAll h
  refine Report.regular_toDatum ?_
  rw [hentries]
  exact List.forall_mem_map.2 fun finding _ ↦ finding.regular_entry _

end Batch

/-! ### Files -/

namespace Artifact

/-- After a datum is written, the file has its JSON text and a line break. -/
theorem read_of_write {d : Datum} {target path : Path} {before after : FileTree}
    (h : write target (.ofDatum d) before = .ok path after) :
    after.read target = .ok (d.json ++ "\n").toUTF8 := by
  obtain ⟨-, -, directory, hwritten⟩ := written_of_write_ofDatum h
  exact FileTree.read_of_fileAt? hwritten.located hwritten.written

/-- Two data have one JSON text in UTF-8 just if they are the same value. -/
theorem toUTF8_json_eq_iff {d e : Datum} (hd : d.Regular) (he : e.Regular) :
    (e.json ++ "\n").toUTF8 = (d.json ++ "\n").toUTF8 ↔ d.SameValue e := by
  rw [← hd.json_eq_iff he, String.toUTF8_eq_toByteArray, String.toUTF8_eq_toByteArray,
    String.toByteArray_inj, String.append_left_inj, eq_comm]

/-- **Lossless writing**: where a datum without floating-point numbers in which no object has a key
twice is written, the text in the file is read as JSON to the value of the datum, and another such
datum is written as the same text just if it is the same value. The documents of tabs and the
reports of runs are such data. -/
theorem lossless_of_write :
    (∀ (d : Datum) (target path : Path) (before after : FileTree), d.Regular →
      write target (.ofDatum d) before = .ok path after →
      ∃ text : String, after.read target = .ok text.toUTF8 ∧
        (∃ back, Datum.ofJson? text = some back ∧ back.Regular ∧ d.SameValue back) ∧
        ∀ (e : Datum) (target' path' : Path) (before' after' : FileTree), e.Regular →
          write target' (.ofDatum e) before' = .ok path' after' →
          (after'.read target' = .ok text.toUTF8 ↔ d.SameValue e)) ∧
      (∀ (delimiter : Delimiter) (tab : Tab) (result : TabResult) (sheet : Sheet)
          (audience : Audience) (document : Document),
        TabResult.ofTab delimiter tab.name tab.data = .ok result →
        result.outcome = .config sheet →
        Document.ofSheet? sheet result.rows audience = .ok (some document) →
        document.toDatum.Regular) ∧
      ∀ (reader : WorkbookReader) (delimiter : Delimiter) (input : Path) (output : Option Path)
          (tree : FileTree) (report : Report) (state : BatchState),
        Batch.convertAll reader delimiter input output { tree } = .ok report state →
        report.toDatum.Regular := by
  refine ⟨fun d target path before after hd hwrite ↦ ?_,
    fun delimiter tab result sheet audience document hresult hsheet hdocument ↦
      Document.inherits_toDatum Datum.inherited_regular (Datum.regular_data tab) hresult hsheet
        hdocument,
    fun reader delimiter input output tree report state hrun ↦ Batch.regular_report hrun⟩
  refine ⟨d.json ++ "\n", read_of_write hwrite,
    ⟨d.sorted, hd.ofJson?_json, hd.regular_sorted, hd.sameValue_sorted⟩, ?_⟩
  intro e target' path' before' after' he hwrite'
  rw [read_of_write hwrite', Except.ok.injEq, toUTF8_json_eq_iff hd he]

open Batch in
/-- An object and the object with its entries in another order are written as one text, and the text
is read as the value of both. The sample sheet has a document, and the sample export a report. -/
theorem lossless_of_write_sampleBook :
    let target := Export.target sampleOutput .server "items"
    let d := Datum.object [("size", .list [.int (-3), .null]), ("a \"b\"", .text "é\n")]
    let e := Datum.object [("a \"b\"", .text "é\n"), ("size", .list [.int (-3), .null])]
    (∃ text : String, (sampleServer (d.json ++ "\n")).read target = .ok text.toUTF8 ∧
        (∃ back, Datum.ofJson? text = some back ∧ back.Regular ∧ d.SameValue back) ∧
        (sampleServer (e.json ++ "\n")).read target = .ok text.toUTF8) ∧
      sampleDocument.toDatum.Regular ∧
      ∃ report state, convertAll (sampleReader (.unreadable "truncated")) .comma sampleInput
          (some sampleOutput) { tree := sampleBook } = .ok report state ∧
        report.toDatum.Regular := by
  intro target d e
  obtain ⟨hlossless, hdocument, hreport⟩ := lossless_of_write
  have hsize : (Datum.list [.int (-3), .null]).Regular :=
    .list (List.forall_mem_cons.2 ⟨.int _, List.forall_mem_singleton.2 .null⟩)
  have hd : d.Regular := .object (by decide)
    (List.forall_mem_cons.2 ⟨hsize, List.forall_mem_singleton.2 (.text _)⟩)
  have he : e.Regular := .object (by decide)
    (List.forall_mem_cons.2 ⟨.text _, List.forall_mem_singleton.2 hsize⟩)
  have hsame : d.SameValue e := .of_perm (by decide) (.swap _ _ [])
  have hwrite (content : Datum) (h : content.HasText) : write target (.ofDatum content) sampleBook =
      .ok target (sampleServer (content.json ++ "\n")) := by
    rw [write_eq_writeText (text_ofDatum h)]
    exact (writeText_sampleBook _).1
  obtain ⟨text, hread, hback, hcanonical⟩ :=
    hlossless d target target _ _ hd (hwrite d (by decide))
  refine ⟨⟨text, hread, hback, (hcanonical e target target _ _ he (hwrite e (by decide))).2 hsame⟩,
    ?_, ?_⟩
  · exact hdocument .comma sampleTab.squared { outcome := .config sampleSheet, rows := sampleRows }
      sampleSheet .server _ rfl rfl (ofSheet?_sampleSheet .server)
  · obtain ⟨report, state, hrun, -⟩ := convertAll_sampleBook (.unreadable "truncated")
    exact ⟨report, state, hrun, hreport _ _ _ _ _ _ _ hrun⟩

end Artifact

end ConfigTables

import ConfigTables.Proofs.Run.Validation

/-!
# Runs with an output directory

What settled findings write has safe file names, and no two of them have the same one
(`Finding.pairwise_settleAll`). So the documents of a run go to different places
(`Finding.nodup_documents`), and none of these, nor of the temporary files, is that of a workbook,
whatever the output directory is (`Export.load_of_exports`): the run reads all workbooks as at the
start.

A run that returns a report has therefore published just the documents of the tabs, each at the path
that its entry lists, and changed no other file (`Batch.export_report`).
-/

namespace ConfigTables

/-! ### The documents of settled findings -/

namespace Finding

/-- A finding that has a file name after others is as it was, and the name is a safe one that none
of the others claims. -/
theorem spec_of_settle {before : List Finding} {finding : Finding} {name : String}
    (h : (settle before finding).fileName? = some name) :
    settle before finding = finding ∧ Batch.isUnsafeName name = false ∧
      before.find? (claims name) = none := by
  rcases finding with ⟨workbook, fault⟩ | ⟨workbook, result⟩
  · cases h
  · rcases hrefusal : refusal? before (tab workbook result) with _ | fault
    · have hkept : settle before (tab workbook result) = tab workbook result := by
        rw [settle, hrefusal]
      rw [hkept] at h
      rw [refusal?, h, Option.bind_some] at hrefusal
      split_ifs at hrefusal with hbad
      exact ⟨hkept, by simpa using hbad, Option.map_eq_none_iff.1 hrefusal⟩
    · -- A refused finding has no file name.
      rw [settle, hrefusal] at h
      cases h

/-- No two settled findings have the same file name. -/
theorem pairwise_settleAll (before findings : List Finding) :
    (settleAll before findings).Pairwise fun earlier later ↦
      ∀ name, earlier.fileName? = some name → later.fileName? ≠ some name := by
  induction findings generalizing before with
  | nil => exact .nil
  | cons finding findings ih =>
    refine .cons (fun later hlater name hname hname' ↦ ?_) (ih _)
    obtain ⟨hkept, hsafe, -⟩ := spec_of_settle hname
    obtain ⟨other, -, more, rfl⟩ := mem_settleAll hlater
    obtain ⟨-, -, hnone⟩ := spec_of_settle hname'
    -- The later finding has been settled with this one before it, which claims its own name.
    have hclaims := List.find?_eq_none.1 hnone finding (by simp)
    rw [hkept] at hname
    exact hclaims (claims_iff.2 ⟨hname, hsafe⟩)

/-- A document of a finding is that of a converted sheet for an audience. -/
theorem spec_of_mem_documents {finding : Finding} {document : Audience × Document}
    (h : document ∈ finding.documents) : ∃ workbook result sheet,
      finding = .tab workbook result ∧ result.outcome = .config sheet ∧
      result.status = .converted ∧
      Document.ofSheet? sheet result.rows document.1 = .ok (some document.2) := by
  rcases finding with ⟨workbook, fault⟩ | ⟨workbook, result⟩
  · cases h
  · rw [documents, TabResult.documents] at h
    rcases houtcome : result.outcome with sheet | ⟨name, rejection⟩
    · rw [houtcome] at h
      dsimp only at h
      split_ifs at h with hstatus
      · obtain ⟨audience, -, hmem⟩ := List.mem_flatMap.1 h
        rw [Document.forAudience] at hmem
        split at hmem
        · next found hfound =>
          rw [List.mem_singleton] at hmem
          subst hmem
          exact ⟨workbook, result, sheet, rfl, houtcome, hstatus, hfound⟩
        · cases hmem
      · cases h
    · rw [houtcome] at h
      cases h

theorem fileName?_of_mem_documents {finding : Finding} {document : Audience × Document}
    (h : document ∈ finding.documents) : finding.fileName? = some document.2.fileName := by
  obtain ⟨workbook, result, sheet, rfl, houtcome, -, hdocument⟩ := spec_of_mem_documents h
  rw [Document.fileName_of_ofSheet? hdocument]
  simp [fileName?, TabResult.sheet?, houtcome]

theorem nodup_key_documents (finding : Finding) :
    (finding.documents.map Export.key).Nodup := by
  rcases finding with ⟨workbook, fault⟩ | ⟨workbook, result⟩
  · exact .nil
  · rw [documents, TabResult.documents]
    split
    · exact .nil
    · next sheet _ =>
      split_ifs
      · have hone (audience : Audience) : (Document.forAudience sheet result.rows audience).map
            Export.key = [] ∨ ∃ name, (Document.forAudience sheet result.rows audience).map
            Export.key = [(audience, name)] := by
          rw [Document.forAudience]
          split
          · exact .inr ⟨_, rfl⟩
          · exact .inl rfl
        rw [Audience.all, List.flatMap_cons, List.flatMap_cons, List.flatMap_nil, List.append_nil,
          List.map_append]
        rcases hone .server with hserver | ⟨name, hserver⟩ <;>
          rcases hone .client with hclient | ⟨name', hclient⟩ <;> simp [hserver, hclient]
      · exact .nil

/-- What settled findings write has plain file names. -/
theorem plain_of_mem_documents {before findings : List Finding} {document : Audience × Document}
    (h : document ∈ (settleAll before findings).flatMap documents) : Export.Plain document := by
  obtain ⟨settled, hsettled, hdocument⟩ := List.mem_flatMap.1 h
  obtain ⟨finding, -, more, rfl⟩ := mem_settleAll hsettled
  obtain ⟨-, hsafe, -⟩ := spec_of_settle (fileName?_of_mem_documents hdocument)
  intro hslash
  rw [isUnsafeName_iff.2 (.inl hslash)] at hsafe
  cases hsafe

/-- No two documents that settled findings write have the same audience and file name. -/
theorem nodup_documents (before findings : List Finding) :
    (((settleAll before findings).flatMap documents).map Export.key).Nodup := by
  rw [List.map_flatMap, List.nodup_flatMap]
  refine ⟨fun settled _ ↦ nodup_key_documents settled, ?_⟩
  refine (pairwise_settleAll before findings).imp fun hnames key hmem hmem' ↦ ?_
  obtain ⟨document, hdocument, rfl⟩ := List.mem_map.1 hmem
  obtain ⟨other, hother, hkey⟩ := List.mem_map.1 hmem'
  have hname : other.2.fileName = document.2.fileName := congrArg Prod.snd hkey
  refine hnames _ (fileName?_of_mem_documents hdocument) ?_
  rw [fileName?_of_mem_documents hother, hname]

end Finding

/-! ### Workbooks and written files -/

namespace Export

/-- No document and no temporary file is called what a workbook is called. -/
theorem isName_document (fileName : String) :
    Workbook.isName (fileName ++ ".json") = false ∧
      Workbook.isName (fileName ++ ".json.tmp") = false := by
  have hdocument := Workbook.isName_append "json".toList (by decide) (by decide) fileName
  have htemporary := Workbook.isName_append "tmp".toList (by decide) (by decide)
    (fileName ++ ".json")
  rw [String.append_assoc] at htemporary
  exact ⟨hdocument, htemporary⟩

/-- No document is where a workbook is. -/
theorem place_ne_of_isName {base location : Location} {document : Audience × Document}
    {name : String} (hname : Workbook.isName name = true) :
    place base document ≠ location ++ [name] ∧
      temporaryPlace base document ≠ location ++ [name] := by
  obtain ⟨hdocument, htemporary⟩ := isName_document document.2.fileName
  constructor <;> intro heq <;> have hlast := congrArg List.getLast? heq
  · simp only [place, List.getLast?_append, List.getLast?_cons, List.getLast?_nil,
      Option.some_or, Option.getD_none, Option.getD_some, Option.some.injEq] at hlast
    rw [hlast, hname] at hdocument
    cases hdocument
  · simp only [temporaryPlace, List.getLast?_append, List.getLast?_cons, List.getLast?_nil,
      Option.some_or, Option.getD_none, Option.getD_some, Option.some.injEq] at hlast
    rw [hlast, hname] at htemporary
    cases htemporary

/-- A run that has written documents has not touched what is called as a workbook is. -/
theorem Exports.fileAt?_of_isName {output : Path} {documents : List (Audience × Document)}
    {tree after : FileTree} (h : Exports output documents tree after) {name : String}
    (hname : Workbook.isName name = true) (location : Location) :
    after.fileAt? (location ++ [name]) = tree.fileAt? (location ++ [name]) := by
  have hapart : ∀ document ∈ documents,
      after.locate (path output document) ≠ .ok (location ++ [name]) := by
    intro document hdocument hlocate
    obtain ⟨base, hplaced, -⟩ := h.published document hdocument
    exact (place_ne_of_isName hname).1 (Except.ok.inj (hplaced.located.symm.trans hlocate))
  rcases h.frame _ hapart with hsame | ⟨-, document, hdocument, hlocate⟩
  · exact hsame
  · obtain ⟨base, hplaced, -⟩ := h.published document hdocument
    have heq := hplaced.temporary_located.symm.trans hlocate
    exact absurd (Except.ok.inj heq) (place_ne_of_isName hname).2

/-- A run that has written documents reads the workbooks as before. -/
theorem load_of_exports (reader : WorkbookReader) {output input : Path}
    {documents : List (Audience × Document)} {tree after : FileTree} {location : Location}
    (h : Exports output documents tree after) (hinput : Workbook.Listable tree input location)
    {name : String} (hname : name ∈ Workbook.names tree location) :
    Workbook.load reader after (input.entry name) =
      Workbook.load reader tree (input.entry name) := by
  obtain ⟨hbook, hthere⟩ := Workbook.of_mem_names hname
  refine Workbook.load_eq_of_keeps reader h.keeps hinput hbook ?_
  obtain ⟨entry, hentry⟩ := Option.isSome_iff_exists.1 hthere
  rcases entry with bytes | _
  · rw [hentry, ← FileTree.fileAt?_eq_some_iff, h.fileAt?_of_isName hbook,
      FileTree.fileAt?_eq_some_iff, hentry]
  · rw [hentry, h.keeps.directory _ hentry]

end Export

/-! ### What a run lists and writes -/

theorem Finding.outputs_entry (finding : Finding) (output : Option Path) :
    (finding.entry (finding.outputs output)).outputs = (finding.outputs output).map Path.text := by
  rcases finding with ⟨workbook, fault⟩ | ⟨workbook, result⟩
  · cases output <;> rfl
  · rfl

namespace Batch

variable {reader : WorkbookReader} {delimiter : Delimiter} {tree : FileTree} {input output : Path}
  {before : List Finding} {state : BatchState}

/-- What a run has listed are the paths of what it has written. -/
theorem Progress.listed (h : Progress (some output) tree before state) :
    state.entries.flatMap (·.outputs) =
      ((Finding.settleAll [] before).flatMap Finding.documents).map
        fun document ↦ (Export.path output document).text := by
  rw [h.entries, List.flatMap_map, List.map_flatMap]
  refine List.flatMap_congr fun settled _ ↦ ?_
  rw [Finding.outputs_entry, Finding.outputs, Export.paths, Option.elim_some, List.map_map]
  rfl

/-- All that a run has written is in its place. -/
theorem Progress.exports (h : Progress (some output) tree before state) :
    Export.Exports output ((Finding.settleAll [] before).flatMap Finding.documents) tree
      state.tree :=
  Export.exports_of_writes h.writes (fun _ ↦ Finding.plain_of_mem_documents)
    (Finding.nodup_documents [] before)

/-- No path is listed twice. -/
theorem Progress.nodup_listed (h : Progress (some output) tree before state) :
    (state.entries.flatMap (·.outputs)).Nodup := by
  rw [h.listed]
  have hkeys := Finding.nodup_documents [] before
  refine (List.Nodup.of_map Export.key hkeys).map_on fun document hdocument other hother htext ↦ ?_
  have hkey := Export.key_eq_of_text (Finding.plain_of_mem_documents hdocument)
    (Finding.plain_of_mem_documents hother) htext
  exact List.inj_on_of_nodup_map hkeys hdocument hother hkey

/-- A path that is listed in the entry of a finding is that of one of its documents. The finding is
a converted sheet, the path leads right below the directory of an audience, wherever the output
directory is, and there is a file that holds the document for that audience. -/
inductive Published (output : Path) (after : FileTree) : Finding → ReportEntry → String → Prop where
  | document {workbook : String} {result : TabResult} {sheet : Sheet} {entry : ReportEntry}
      {audience : Audience} {document : Document} {base : Location}
      (hstatus : entry.status = .converted)
      (hname : entry.fileName = .text sheet.markers.fileName)
      (hsheet : result.outcome = .config sheet)
      (hdocument : Document.ofSheet? sheet result.rows audience = .ok (some document))
      (hslash : '/' ∉ sheet.markers.fileName.toList)
      (hbase : after.walk output = .ok base)
      (hplace : after.locate (Export.file output audience sheet.markers.fileName) =
        .ok (base ++ [Export.directory audience, sheet.markers.fileName ++ ".json"]))
      (hcontent : after.read (Export.file output audience sheet.markers.fileName) =
        .ok (document.toDatum.json ++ "\n").toUTF8) :
      Published output after (.tab workbook result) entry
        (Export.file output audience sheet.markers.fileName).text

/-- A document of a finding that is in its place is published. -/
theorem published_of_exports {documents : List (Audience × Document)} {after : FileTree}
    (h : Export.Exports output documents tree after) {finding : Finding}
    {document : Audience × Document} (hmem : document ∈ documents) (hplain : Export.Plain document)
    (hdocument : document ∈ finding.documents) (outputs : List Path) :
    Published output after finding (finding.entry outputs) (Export.path output document).text := by
  obtain ⟨base, hplaced, hcontent⟩ := h.published document hmem
  have hlocated := hplaced.located
  have hread := FileTree.read_of_fileAt? hlocated hcontent
  obtain ⟨workbook, result, sheet, rfl, hsheet, hstatus, hofSheet⟩ :=
    Finding.spec_of_mem_documents hdocument
  have hfileName := Document.fileName_of_ofSheet? hofSheet
  rw [Export.path_eq hplain, hfileName] at hlocated hread ⊢
  rw [Export.Plain, hfileName] at hplain
  rw [Export.place, hfileName] at hlocated
  have hname : (result.report workbook outputs).fileName = .text sheet.markers.fileName := by
    simp [TabResult.report, TabResult.sheet?, hsheet]
  exact .document hstatus hname hsheet hofSheet hplain hplaced.base_located hlocated hread

/-- What is listed for a finding of a run is published. -/
theorem Progress.published (h : Progress (some output) tree before state) {i : Nat}
    {finding : Finding} {entry : ReportEntry} (hfinding : before[i]? = some finding)
    (hentry : state.entries[i]? = some entry) {listed : String} (hlisted : listed ∈ entry.outputs) :
    Published output state.tree finding entry listed := by
  have hsettled := Finding.getElem?_settleAll [] before i
  rw [hfinding, Option.map_some, List.nil_append] at hsettled
  rw [h.entries, List.getElem?_map, hsettled, Option.map_some] at hentry
  cases hentry
  rw [Finding.outputs_entry] at hlisted
  obtain ⟨path, hpath, rfl⟩ := List.mem_map.1 hlisted
  obtain ⟨document, hdocument, rfl⟩ := List.mem_map.1 hpath
  have hmem : document ∈ (Finding.settleAll [] before).flatMap Finding.documents :=
    List.mem_flatMap.2 ⟨_, List.mem_of_getElem? hsettled, hdocument⟩
  -- A finding with a document has kept its file name, so it is as it was found.
  have hname := Finding.fileName?_of_mem_documents hdocument
  obtain ⟨hkept, -, -⟩ := Finding.spec_of_settle hname
  rw [hkept] at hdocument ⊢
  exact published_of_exports h.exports hmem (Finding.plain_of_mem_documents hmem) hdocument _

/-- A file that is not listed is as it was, unless it is a temporary file and gone. -/
theorem Progress.frame (h : Progress (some output) tree before state) {location : Location}
    (hother : ∀ audience fileName,
      (Export.file output audience fileName).text ∈ state.entries.flatMap (·.outputs) →
      state.tree.locate (Export.file output audience fileName) ≠ .ok location) :
    state.tree.fileAt? location = tree.fileAt? location ∨
      state.tree.fileAt? location = none ∧ ∃ audience fileName,
        (Export.file output audience fileName).text ∈ state.entries.flatMap (·.outputs) ∧
        state.tree.locate (Artifact.temporary (Export.file output audience fileName)) =
          .ok location := by
  have hfile : ∀ document ∈ (Finding.settleAll [] before).flatMap Finding.documents,
      Export.path output document = Export.file output document.1 document.2.fileName ∧
      (Export.path output document).text ∈ state.entries.flatMap (·.outputs) := by
    intro document hdocument
    refine ⟨Export.path_eq (Finding.plain_of_mem_documents hdocument) output, ?_⟩
    rw [h.listed]
    exact List.mem_map_of_mem hdocument
  refine (h.exports.frame location fun document hdocument ↦ ?_).imp_right ?_
  · obtain ⟨heq, hlisted⟩ := hfile document hdocument
    rw [heq] at hlisted ⊢
    exact hother _ _ hlisted
  · rintro ⟨hgone, document, hdocument, htemporary⟩
    obtain ⟨heq, hlisted⟩ := hfile document hdocument
    rw [heq] at hlisted htemporary
    exact ⟨hgone, _, _, hlisted, htemporary⟩

/-- **Export**: what a run that returns a report has done to the files. Each entry of the report is
that of a finding in the workbooks as they were at the start. What it lists are documents of this
finding, each in a file of the entry's own name right below the directory of its audience. No path
is listed twice, and a file that is not listed is as it was, unless it is a temporary file and
gone. -/
theorem export_report {report : Report}
    (h : convertAll reader delimiter input (some output) { tree } = .ok report state) :
    ∃ (location : Location) (found : List (List Finding)),
      Workbook.Listable tree input location ∧
      List.Forall₂ (fun name ↦ Finds reader delimiter tree (input.entry name))
        (Workbook.names tree location) found ∧
      report.entries.length = found.flatten.length ∧
      (∀ (i : Nat) (finding : Finding) (entry : ReportEntry),
        found.flatten[i]? = some finding → report.entries[i]? = some entry →
        ∀ listed ∈ entry.outputs, Published output state.tree finding entry listed) ∧
      (report.entries.flatMap (·.outputs)).Nodup ∧
      ∀ location, (∀ audience fileName,
          (Export.file output audience fileName).text ∈ report.entries.flatMap (·.outputs) →
          state.tree.locate (Export.file output audience fileName) ≠ .ok location) →
        state.tree.fileAt? location = tree.fileAt? location ∨
          state.tree.fileAt? location = none ∧ ∃ audience fileName,
            (Export.file output audience fileName).text ∈ report.entries.flatMap (·.outputs) ∧
            state.tree.locate (Artifact.temporary (Export.file output audience fileName)) =
              .ok location := by
  obtain ⟨paths, hfind, hadd, rfl⟩ := convertAll_eq_ok_iff.1 h
  obtain ⟨location, hinput, rfl⟩ := Workbook.find?_eq_ok_iff.1 hfind
  -- No document is ever where a workbook is, so the run reads each workbook as at the start.
  have hread : ∀ before between, Progress (some output) tree before between →
      ∀ path ∈ (Workbook.names tree location).map input.entry,
        Workbook.load reader between.tree path = Workbook.load reader tree path := by
    intro before between hprogress path hpath
    obtain ⟨name, hname, rfl⟩ := List.mem_map.1 hpath
    exact Export.load_of_exports reader hprogress.exports hinput hname
  obtain ⟨found, hfound, hprogress⟩ :=
    (progress_start (some output) tree).addWorkbooks hread hadd
  rw [List.nil_append] at hprogress
  refine ⟨location, found, hinput, List.forall₂_map_left_iff.1 hfound, ?_, ?_,
    hprogress.nodup_listed, fun location ↦ hprogress.frame⟩
  · rw [hprogress.entries, List.length_map, Finding.length_settleAll]
  · intro i finding entry hfinding hentry listed hlisted
    exact hprogress.published hfinding hentry hlisted

/-! ### A small export -/

/-- A directory with one workbook. -/
def sampleBook : FileTree :=
  { entries := [(["in"], .directory), (["in", "a.xlsx"], .file ⟨#[]⟩)] }

/-- The path of an output directory that is not there. -/
def sampleOutput : Path := { parts := ["out"] }

/-- The sheet in the sample tab. -/
def sampleSheet : Sheet :=
  { name := "Items"
    markers := { fileName := "items", className := "Items" }
    columns :=
      [{ index := 0
         label := "Number"
         output := some
          { name := "id", scope := .ofList [.server, .client], type := .scalar .int } },
        { index := 1, label := "", output := none }]
    dataRows := [[.text "1", .null], [.text "2", .null]] }

/-- The typed rows of the sheet. -/
def sampleRows : List Row := [[("id", .int 1)], [("id", .int 2)]]

/-- The document of the sheet, the same for both audiences. -/
def sampleDocument : Document :=
  { fileName := "items"
    className := "Items"
    sheetName := "Items"
    columns := [{ name := "id", type := .scalar .int, label := "Number" }]
    rows := sampleRows }

theorem find?_sampleBook :
    Workbook.find? sampleBook sampleInput = .ok (some [sampleInput.entry "a.xlsx"]) := by
  have hnames : Workbook.names sampleBook ["in"] = ["a.xlsx"] :=
    List.perm_singleton.1 ((Workbook.names_perm sampleBook ["in"]).trans (by decide))
  refine Workbook.find?_eq_ok_iff.2 ⟨["in"], ⟨rfl, rfl, by decide⟩, ?_⟩
  rw [hnames]
  rfl

theorem tabResults_sampleBook (failure : ReadFailure) :
    tabResults (sampleReader failure) .comma sampleBook (sampleInput.entry "a.xlsx") =
      .ok [{ outcome := .config sampleSheet, rows := sampleRows }] :=
  rfl

theorem ofSheet?_sampleSheet (audience : Audience) :
    Document.ofSheet? sampleSheet sampleRows audience = .ok (some sampleDocument) := by
  cases audience <;> rfl

theorem hasText_sampleDocument : sampleDocument.toDatum.HasText := by
  decide

/-- The sample directory after an export for the server. -/
def sampleServer (content : String) : FileTree :=
  { entries :=
      [(["out", "svr", "items.json"], .file content.toUTF8), (["out", "svr"], .directory),
        (["out"], .directory), (["in"], .directory), (["in", "a.xlsx"], .file ⟨#[]⟩)] }

/-- The sample directory after an export for the server and the client. -/
def sampleExport (content : String) : FileTree :=
  { entries :=
      (["out", "client", "items.json"], .file content.toUTF8) :: (["out", "client"], .directory) ::
        (sampleServer content).entries }

theorem writeText_sampleBook (content : String) :
    Artifact.writeText (Export.target sampleOutput .server "items") content sampleBook =
        .ok (Export.target sampleOutput .server "items") (sampleServer content) ∧
      Artifact.writeText (Export.target sampleOutput .client "items") content
          (sampleServer content) =
        .ok (Export.target sampleOutput .client "items") (sampleExport content) :=
  ⟨rfl, rfl⟩

theorem writeResult_sampleBook :
    writeResult (some sampleOutput) { outcome := .config sampleSheet, rows := sampleRows }
        sampleBook =
      .ok [Export.target sampleOutput .server "items", Export.target sampleOutput .client "items"]
        (sampleExport (sampleDocument.toDatum.json ++ "\n")) := by
  obtain ⟨hserver, hclient⟩ := writeText_sampleBook (sampleDocument.toDatum.json ++ "\n")
  rw [← Artifact.write_eq_writeText (Artifact.text_ofDatum hasText_sampleDocument)]
    at hserver hclient
  have hserver := Export.writeFor_eq_ok (ofSheet?_sampleSheet .server) hserver
  have hclient := Export.writeFor_eq_ok (ofSheet?_sampleSheet .client) hclient
  change Export.writeSheet sampleOutput sampleSheet sampleRows sampleBook = _
  rw [Export.writeSheet, EStateM.bind_of_ok hserver, EStateM.bind_of_ok hclient]
  rfl

theorem convertAll_sampleBook (failure : ReadFailure) : ∃ report state,
    convertAll (sampleReader failure) .comma sampleInput (some sampleOutput)
        { tree := sampleBook } = .ok report state ∧
      report.entries.flatMap (·.outputs) = ["out/svr/items.json", "out/client/items.json"] := by
  have hbalanced : TabResult.Balanced { outcome := .config sampleSheet, rows := sampleRows } :=
    fun _ ↦ Nat.le_refl 2
  obtain ⟨state, hadd, hlisted⟩ : ∃ state, addResult (some sampleOutput) "a.xlsx"
      { outcome := .config sampleSheet, rows := sampleRows } { tree := sampleBook } =
        .ok () state ∧ state.entries.flatMap (·.outputs) =
          ["out/svr/items.json", "out/client/items.json"] :=
    ⟨_, (addResult_eq_ok_iff hbalanced).2 ⟨_, _, writeResult_sampleBook, rfl⟩, rfl⟩
  refine ⟨_, state, convertAll_eq_ok_iff.2 ⟨_, find?_sampleBook, ?_, rfl⟩, hlisted⟩
  have hbook : addWorkbook (sampleReader failure) .comma (some sampleOutput)
      (sampleInput.entry "a.xlsx") { tree := sampleBook } = .ok () state := by
    rw [addWorkbook_eq, tabResults_sampleBook]
    exact EStateM.bind_of_ok hadd
  exact EStateM.bind_of_ok hbook

/-- The sample export lists the two documents of the sheet, and they are published. -/
theorem export_report_sampleBook : ∃ report state,
    convertAll (sampleReader (.unreadable "truncated")) .comma sampleInput (some sampleOutput)
        { tree := sampleBook } = .ok report state ∧
      report.entries.flatMap (·.outputs) = ["out/svr/items.json", "out/client/items.json"] ∧
      ∀ listed ∈ ["out/svr/items.json", "out/client/items.json"],
        ∃ finding entry, Published sampleOutput state.tree finding entry listed := by
  obtain ⟨report, state, hrun, hlisted⟩ := convertAll_sampleBook (.unreadable "truncated")
  obtain ⟨location, found, -, -, hlength, hpublished, -, -⟩ := export_report hrun
  refine ⟨report, state, hrun, hlisted, fun listed hmem ↦ ?_⟩
  rw [← hlisted] at hmem
  obtain ⟨entry, hentry, hmem⟩ := List.mem_flatMap.1 hmem
  obtain ⟨i, hentry⟩ := List.mem_iff_getElem?.1 hentry
  obtain ⟨hi, -⟩ := List.getElem?_eq_some_iff.1 hentry
  have hfinding := List.getElem?_eq_getElem (hlength ▸ hi : i < found.flatten.length)
  exact ⟨_, entry, hpublished i _ entry hfinding hentry listed hmem⟩

end Batch

end ConfigTables

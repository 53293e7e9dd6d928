import EntitySchema.Proofs.Files.Directory
import EntitySchema.Proofs.Generation
import EntitySchema.Proofs.Model.Document

/-!
# Writing beside the model file

A generation that is given no output path writes to where the name of the schema leads from the directory
of the model file. A name without a separator leads to a file of this directory, which is the model file
itself if that is called so; every other model file stays as it was.
-/

namespace EntitySchema.Generation

open FileTree (move)

variable {g : Generation} {files : FileTree} {cache : RowTypeCache} {path : String}

theorem toList_defaultFileName (g : Generation) :
    g.defaultFileName.toList =
      g.config.schema.toList ++ ("_schema." ++ g.outputFormat.extension).toList := by
  rw [defaultFileName, String.append_assoc, String.toList_append]

theorem notMem_ending (format : OutputFormat) : '/' ∉ ("_schema." ++ format.extension).toList := by
  cases format <;> decide

theorem isAbsolute_defaultFileName (h : Path.isAbsolute g.config.schema = false) :
    Path.isAbsolute g.defaultFileName = false := by
  rw [Bool.eq_false_iff] at h ⊢
  intro habsolute
  obtain ⟨cs, hcs⟩ := Path.isAbsolute_iff.1 habsolute
  rw [toList_defaultFileName] at hcs
  cases hschema : g.config.schema.toList with
  | nil =>
      rw [hschema, List.nil_append] at hcs
      exact notMem_ending g.outputFormat (hcs ▸ List.mem_cons_self)
  | cons c rest =>
      rw [hschema] at hcs
      exact h (Path.isAbsolute_iff.2 ⟨rest, by rw [hschema, (List.cons.inj hcs).1]⟩)

theorem steps_defaultFileName (h : '/' ∉ g.config.schema.toList) :
    Path.steps g.defaultFileName = [g.defaultFileName] := by
  have hslash : '/' ∉ g.defaultFileName.toList := by
    rw [toList_defaultFileName, List.mem_append, not_or]
    exact ⟨h, notMem_ending g.outputFormat⟩
  rw [← Path.stepsOf_toList, Path.stepsOf_of_notMem hslash, String.ofList_toList]

theorem isName_defaultFileName (g : Generation) : Path.isName g.defaultFileName = true := by
  have hlong : 2 < g.defaultFileName.toList.length := by
    rw [toList_defaultFileName, List.length_append]
    cases g.outputFormat <;> simp [OutputFormat.extension]
  have hne : ∀ step : String, step.toList.length ≤ 2 → g.defaultFileName ≠ step := by
    rintro step hstep rfl
    omega
  have hblank : FileTree.isBlankStep g.defaultFileName = false := by
    simp [FileTree.isBlankStep, hne "" (by decide), hne "." (by decide)]
  exact Path.isName_iff.2 ⟨hblank, hne ".." (by decide)⟩

theorem exists_fileLocation?_of_described {schema : Schema}
    (h : g.described files cache = .ok schema) :
    ∃ directory name, files.fileLocation? g.modelPath = some (directory ++ [name]) := by
  cases hlocation : files.fileLocation? g.modelPath with
  | none =>
      have htext : files.readText? g.modelPath = none := by
        rw [FileTree.readText?, FileTree.read?, hlocation]
        rfl
      rw [described, Model.load, htext] at h
      cases h
  | some location =>
      obtain ⟨-, -, name, directory, -, -, -, rfl⟩ := FileTree.fileLocation?_eq_some_iff.1 hlocation
      exact ⟨directory, name, rfl⟩

/-- Where the written file is, with the model file in `directory` under `name`, and what became of that
one. A name of a schema from the root says nothing about the directory. -/
structure Outcome.Beside (outcome : Outcome) (g : Generation) (before : FileTree) (path : String)
    (directory : Location) (name : String) : Prop where
  model : before.fileLocation? g.modelPath = some (directory ++ [name])
  leads : Path.isAbsolute g.config.schema = false → outcome.files.fileLocation? path =
    some ((Path.steps (g.config.schema ++ "_schema." ++ g.outputFormat.extension)).foldl move
      directory)
  child : '/' ∉ g.config.schema.toList → outcome.files.fileLocation? path =
    some (directory ++ [g.config.schema ++ "_schema." ++ g.outputFormat.extension])
  overwrites_iff : '/' ∉ g.config.schema.toList →
    (outcome.files.fileLocation? path = before.fileLocation? g.modelPath ↔
      name = g.config.schema ++ "_schema." ++ g.outputFormat.extension)
  unchanged : outcome.files.fileLocation? path ≠ before.fileLocation? g.modelPath →
    outcome.files.read? g.modelPath = before.read? g.modelPath

/-- Without an output path the written file is where the name of the schema leads from the directory of
the model file, and the model file is another file, left as it was, unless it lies there itself. -/
theorem beside_of_run (houtput : g.outputPath? = none)
    (hrun : (g.run files cache).result = .ok path) :
    ∃ directory name, (g.run files cache).Beside g files path directory name := by
  obtain ⟨hpath, schema, hdescribed, hsaved⟩ := exists_saved_of_run hrun
  obtain ⟨directory, name, hmodel⟩ := exists_fileLocation?_of_described hdescribed
  rw [outputPath, houtput, Option.getD_none] at hpath
  have hleads : Path.isAbsolute g.config.schema = false →
      (g.run files cache).files.fileLocation? path =
        some ((Path.steps g.defaultFileName).foldl move directory) := by
    intro hschema
    rw [hsaved.leads, hpath,
      FileTree.target_join_parent hmodel (isAbsolute_defaultFileName hschema)]
  have hchild : '/' ∉ g.config.schema.toList →
      (g.run files cache).files.fileLocation? path = some (directory ++ [g.defaultFileName]) := by
    intro hslash
    rw [hleads (Path.isAbsolute_eq_false_of_notMem hslash), steps_defaultFileName hslash,
      List.foldl_cons, List.foldl_nil, FileTree.move_of_isName (isName_defaultFileName g)]
  refine ⟨directory, name, hmodel, hleads, hchild, ?_, ?_⟩
  · intro hslash
    rw [hchild hslash, hmodel, Option.some.injEq, List.append_cancel_left_eq, List.singleton_inj]
    exact eq_comm
  · intro hne
    exact hsaved.read?_of_ne hmodel (hmodel ▸ hne)

/-- A model without entities in a file of the directory `in`. -/
def modelFile (name : String) : FileTree where
  entries := [(["in"], .directory), (["in", name], .file (Model.documentText []).toUTF8)]
  workingDirectory := []

theorem described_of_emptyModel (hinput : g.inputFormat = .model)
    (hread : files.read? g.modelPath = some (Model.documentText []).toUTF8) :
    g.described files cache = .ok (Schema.assemble g.config [] []) := by
  rw [described, hinput, Model.load_of_documents _ (Model.documents_documentText []) hread]
  rfl

def ascending : Generation where
  modelPath := "in//model.json"
  config := { schema := "../out/v1" }

theorem beside_of_run_ascending :
    ascending.outputPath? = none ∧
      (ascending.run (modelFile "model.json") ∅).result = .ok "in/../out/v1_schema.sql" ∧
      ∃ directory name, (ascending.run (modelFile "model.json") ∅).Beside ascending
        (modelFile "model.json") "in/../out/v1_schema.sql" directory name := by
  have hrun : (ascending.run (modelFile "model.json") ∅).result = .ok "in/../out/v1_schema.sql" :=
    (run_of_ok (described_of_emptyModel rfl rfl) rfl).1
  exact ⟨rfl, hrun, beside_of_run rfl hrun⟩

def overwriting : Generation where
  modelPath := "in/shop_schema.json"
  outputFormat := .json
  config := { schema := "shop" }

def nested : Generation where
  modelPath := "in/model.json"
  config := { schema := "a/b" }

/-- A model file may have the very name that is written, and the name of a schema may lead into another
directory. -/
theorem not_apart_overwriting :
    overwriting.outputPath? = none ∧
      (overwriting.run (modelFile "shop_schema.json") ∅).result = .ok "in/shop_schema.json" ∧
      ¬(overwriting.run (modelFile "shop_schema.json") ∅).files.read? "in/shop_schema.json" =
        (modelFile "shop_schema.json").read? "in/shop_schema.json" ∧
      nested.outputPath? = none ∧
      (nested.run (modelFile "model.json") ∅).result = .ok "in/a/b_schema.sql" ∧
      ¬∃ directory name other,
        (modelFile "model.json").fileLocation? nested.modelPath = some (directory ++ [name]) ∧
          (nested.run (modelFile "model.json") ∅).files.fileLocation? "in/a/b_schema.sql" =
            some (directory ++ [other]) := by
  have hover : (overwriting.run (modelFile "shop_schema.json") ∅).result = .ok "in/shop_schema.json" :=
    (run_of_ok (described_of_emptyModel rfl rfl) rfl).1
  have hnest : (nested.run (modelFile "model.json") ∅).result = .ok "in/a/b_schema.sql" :=
    (run_of_ok (described_of_emptyModel rfl rfl) rfl).1
  refine ⟨rfl, hover, ?_, rfl, hnest, ?_⟩
  · obtain ⟨-, schema, hdescribed, hsaved⟩ := exists_saved_of_run hover
    obtain rfl : Schema.assemble overwriting.config [] [] = schema :=
      Except.ok.inj ((described_of_emptyModel rfl rfl).symm.trans hdescribed)
    have hread : (modelFile "shop_schema.json").read? "in/shop_schema.json" =
        some (Model.documentText []).toUTF8 := rfl
    rw [hsaved.read, hread, Option.some.injEq]
    intro hbytes
    have htext : (Schema.assemble overwriting.config [] []).jsonText = Model.documentText [] :=
      String.toByteArray_inj.1 hbytes
    exact absurd htext (by decide +kernel)
  · obtain ⟨-, schema, hdescribed, hsaved⟩ := exists_saved_of_run hnest
    rintro ⟨directory, name, other, hmodel, hwritten⟩
    rw [hsaved.leads] at hwritten
    have hshort : ["in", "model.json"] = directory ++ [name] := Option.some.inj hmodel
    have hlong : ["in", "a", "b_schema.sql"] = directory ++ [other] := Option.some.inj hwritten
    have htwo := congrArg List.length hshort
    have hthree := congrArg List.length hlong
    simp only [List.length_append, List.length_cons, List.length_nil] at htwo hthree
    omega

end EntitySchema.Generation

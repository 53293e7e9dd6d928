import EntitySchema.Generation
import EntitySchema.Proofs.Files.Saving

/-!
# The files after a generation

A generation has made the whole text before it touches a file. What goes wrong until then leaves the
files alone, and otherwise the text is saved at the path of the output or this path is unusable.
-/

namespace EntitySchema

/-- The text is the script of the schema or its JSON text, as the format asks for. -/
def OutputFormat.Renders (format : OutputFormat) (schema : Schema) (text : String) : Prop :=
  format = .sql ∧ text = Sql.script schema ∨ format = .json ∧ text = schema.jsonText

theorem OutputFormat.renders_render (format : OutputFormat) (schema : Schema) :
    format.Renders schema (format.render schema) := by
  cases format with
  | sql => exact .inl ⟨rfl, rfl⟩
  | json => exact .inr ⟨rfl, rfl⟩

namespace Generation

variable {g : Generation} {files : FileTree} {cache : RowTypeCache} {error : Error} {schema : Schema}

/-- The schema of the model in the files. -/
def described (g : Generation) (files : FileTree) (cache : RowTypeCache) : Except Error Schema :=
  (Model.load files g.inputFormat g.config.delimiter g.modelPath).bind fun model =>
    (Schema.ofModel g.config model cache).1

/-- The result of a generation and the files it leaves agree with what the files were. -/
structure Outcome.Accounts (outcome : Outcome) (g : Generation) (before : FileTree)
    (cache : RowTypeCache) : Prop where
  refused : ∀ error, g.described before cache = .error error →
    outcome.result = .error error ∧ outcome.files = before
  chosen : ∀ path, outcome.result = .ok path →
    g.outputPath? = some path ∨ g.outputPath? = none ∧
      path = Path.join ((Path.parent? g.modelPath).getD ".")
        (g.config.schema ++ "_schema." ++ g.outputFormat.extension)
  written : ∀ path, outcome.result = .ok path →
    ∃ schema text, g.described before cache = .ok schema ∧ g.outputFormat.Renders schema text ∧
      before.Saved path text.toUTF8 outcome.files
  unwritten : ∀ schema error, g.described before cache = .ok schema →
    outcome.result = .error error →
      error = .unwritableOutput g.outputPath ∧ ¬ before.Writable g.outputPath ∧
        ∀ location, outcome.files.content? location = before.content? location

theorem fst_compile (g : Generation) (files : FileTree) (cache : RowTypeCache) :
    (g.compile cache (files.readText? g.modelPath)).1 =
      (g.described files cache).map g.outputFormat.render := by
  rw [compile, described, Model.load]
  cases Model.ofText? g.inputFormat g.config.delimiter g.modelPath
      (files.readText? g.modelPath) with
  | error error => rfl
  | ok model =>
      simp only [Except.bind]
      rcases Schema.ofModel g.config model cache with ⟨error | schema, last⟩ <;> rfl

theorem run_of_error (h : g.described files cache = .error error) :
    (g.run files cache).result = .error error ∧ (g.run files cache).files = files := by
  have hcompile := fst_compile g files cache
  rw [h] at hcompile
  obtain ⟨last, heq⟩ : ∃ last, g.compile cache (files.readText? g.modelPath) = (.error error, last) :=
    ⟨_, Prod.ext hcompile rfl⟩
  rw [run, heq]
  exact ⟨rfl, rfl⟩

theorem run_of_ok {after : FileTree} {saved : Bool} (h : g.described files cache = .ok schema)
    (hsave : files.save g.outputPath (g.outputFormat.render schema).toUTF8 = (after, saved)) :
    (g.run files cache).result =
        (if saved then .ok g.outputPath else .error (.unwritableOutput g.outputPath)) ∧
      (g.run files cache).files = after := by
  have hcompile := fst_compile g files cache
  rw [h] at hcompile
  obtain ⟨last, heq⟩ : ∃ last, g.compile cache (files.readText? g.modelPath) =
      (.ok (g.outputFormat.render schema), last) := ⟨_, Prod.ext hcompile rfl⟩
  rw [run, heq]
  dsimp only
  rw [hsave]
  cases saved <;> exact ⟨rfl, rfl⟩

/-- A result that is a path tells what was written there. -/
theorem exists_saved_of_run {path : String} (h : (g.run files cache).result = .ok path) :
    path = g.outputPath ∧ ∃ schema, g.described files cache = .ok schema ∧
      files.Saved path (g.outputFormat.render schema).toUTF8 (g.run files cache).files := by
  cases hdescribed : g.described files cache with
  | error error => cases (run_of_error hdescribed).1.symm.trans h
  | ok schema =>
      rcases hsave : files.save g.outputPath (g.outputFormat.render schema).toUTF8 with
        ⟨after, _ | _⟩
      · cases (run_of_ok hdescribed hsave).1.symm.trans h
      · obtain ⟨hresult, hfiles⟩ := run_of_ok hdescribed hsave
        obtain rfl : g.outputPath = path := Except.ok.inj (hresult.symm.trans h)
        exact ⟨rfl, schema, rfl, hfiles ▸ FileTree.saved_of_save hsave⟩

theorem outputPath_eq (g : Generation) :
    g.outputPath? = some g.outputPath ∨ g.outputPath? = none ∧
      g.outputPath = Path.join ((Path.parent? g.modelPath).getD ".")
        (g.config.schema ++ "_schema." ++ g.outputFormat.extension) := by
  rw [outputPath, defaultFileName]
  cases g.outputPath? with
  | none => exact .inr ⟨rfl, rfl⟩
  | some path => exact .inl rfl

namespace Outcome

variable {outcome : Outcome}

theorem accounts_of_error (hdescribed : g.described files cache = .error error)
    (hresult : outcome.result = .error error) (hfiles : outcome.files = files) :
    outcome.Accounts g files cache := by
  constructor
  case refused =>
    intro error' herror
    cases hdescribed.symm.trans herror
    exact ⟨hresult, hfiles⟩
  case chosen =>
    intro path hpath
    cases hresult.symm.trans hpath
  case written =>
    intro path hpath
    cases hresult.symm.trans hpath
  case unwritten =>
    intro schema error' hschema
    cases hdescribed.symm.trans hschema

theorem accounts_of_saved (hdescribed : g.described files cache = .ok schema)
    (hresult : outcome.result = .ok g.outputPath)
    (hsaved : files.Saved g.outputPath (g.outputFormat.render schema).toUTF8 outcome.files) :
    outcome.Accounts g files cache := by
  constructor
  case refused =>
    intro error herror
    cases hdescribed.symm.trans herror
  case chosen =>
    intro path hpath
    exact Except.ok.inj (hresult.symm.trans hpath) ▸ outputPath_eq g
  case written =>
    intro path hpath
    obtain rfl : g.outputPath = path := Except.ok.inj (hresult.symm.trans hpath)
    exact ⟨schema, _, hdescribed, g.outputFormat.renders_render schema, hsaved⟩
  case unwritten =>
    intro schema' error hschema herror
    cases hresult.symm.trans herror

theorem accounts_of_not_writable (hdescribed : g.described files cache = .ok schema)
    (hresult : outcome.result = .error (.unwritableOutput g.outputPath))
    (hwritable : ¬files.Writable g.outputPath)
    (hcontent : ∀ location, outcome.files.content? location = files.content? location) :
    outcome.Accounts g files cache := by
  constructor
  case refused =>
    intro error herror
    cases hdescribed.symm.trans herror
  case chosen =>
    intro path hpath
    cases hresult.symm.trans hpath
  case written =>
    intro path hpath
    cases hresult.symm.trans hpath
  case unwritten =>
    intro schema' error hschema herror
    exact ⟨Except.error.inj (herror.symm.trans hresult), hwritable, hcontent⟩

end Outcome

/-- Every generation accounts for the files: what refuses the model leaves them alone, and a schema that
is written stands at its path and nowhere else. -/
theorem accounts_run (g : Generation) (files : FileTree) (cache : RowTypeCache) :
    (g.run files cache).Accounts g files cache := by
  cases hdescribed : g.described files cache with
  | error error =>
      obtain ⟨hresult, hfiles⟩ := run_of_error hdescribed
      exact Outcome.accounts_of_error hdescribed hresult hfiles
  | ok schema =>
      rcases hsave : files.save g.outputPath (g.outputFormat.render schema).toUTF8 with
        ⟨after, _ | _⟩
      · obtain ⟨hresult, hfiles⟩ := run_of_ok hdescribed hsave
        have hcontent := FileTree.content?_of_save hsave
        refine Outcome.accounts_of_not_writable hdescribed hresult ?_ (hfiles ▸ hcontent)
        intro hwritable
        obtain ⟨written, htrue⟩ := FileTree.exists_save hwritable
          (g.outputFormat.render schema).toUTF8
        cases hsave.symm.trans htrue
      · obtain ⟨hresult, hfiles⟩ := run_of_ok hdescribed hsave
        have hsaved := FileTree.saved_of_save hsave
        exact Outcome.accounts_of_saved hdescribed hresult (hfiles ▸ hsaved)

end Generation

end EntitySchema

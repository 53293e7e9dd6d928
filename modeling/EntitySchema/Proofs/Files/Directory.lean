import EntitySchema.Proofs.Files.Saving

/-!
# Files in one directory

A path that is joined to the directory of a file leads on from the place of that file. Saving a file leaves
every other one where its path leads, with the content it had.
-/

namespace EntitySchema

namespace Path

variable {path directory : String}

theorem isAbsolute_iff : isAbsolute path = true ↔ ∃ cs, path.toList = '/' :: cs := by
  rw [isAbsolute, List.isPrefixOf_iff_prefix]
  constructor
  · rintro ⟨cs, hcs⟩
    exact ⟨cs, hcs.symm⟩
  · rintro ⟨cs, hcs⟩
    exact ⟨cs, hcs.symm⟩

theorem isAbsolute_eq_false_of_notMem (h : '/' ∉ path.toList) : isAbsolute path = false := by
  rw [Bool.eq_false_iff]
  intro habsolute
  obtain ⟨cs, hcs⟩ := isAbsolute_iff.1 habsolute
  exact h (hcs ▸ List.mem_cons_self)

/-- A path of one step does not begin at the root. -/
theorem isAbsolute_eq_false_of_steps {name : String} (hsteps : steps path = [name]) :
    isAbsolute path = false := by
  rw [Bool.eq_false_iff]
  intro habsolute
  obtain ⟨cs, hcs⟩ := isAbsolute_iff.1 habsolute
  have htwo := stepsOf_append [] cs
  rw [List.nil_append, ← hcs, stepsOf_toList, hsteps] at htwo
  have hrest : 0 < (stepsOf cs).length :=
    List.length_pos_of_ne_nil (mt List.map_eq_nil_iff.1 (Text.splitAt_ne_nil _ cs))
  have hlength := congrArg List.length htwo
  rw [List.length_append, List.length_singleton] at hlength
  have hfirst : (stepsOf []).length = 1 := rfl
  omega

theorem isAbsolute_of_prefix (hne : directory ≠ "") (hbegins : directory.toList <+: path.toList) :
    isAbsolute path = isAbsolute directory := by
  obtain ⟨rest, hrest⟩ := hbegins
  rw [isAbsolute, isAbsolute, ← hrest]
  cases hdirectory : directory.toList with
  | nil => exact absurd (String.toList_eq_nil_iff.1 hdirectory) hne
  | cons c cs => rfl

/-- What a joined path says is what the directory says and then what the path says. -/
theorem exists_toList_join (hrelative : isAbsolute path = false) (hne : directory ≠ "") :
    ∃ front, significant (stepsOf front) = significant (steps directory) ∧
      (join directory path).toList = front ++ '/' :: path.toList ∧
      directory.toList <+: (join directory path).toList := by
  have hjoin : ¬(isAbsolute path || decide (directory = "")) = true := by
    simp [hrelative, hne]
  rw [join, if_neg hjoin]
  split
  next hslash =>
    obtain ⟨front, hfront⟩ := List.isSuffixOf_iff_suffix.1 hslash
    refine ⟨front, ?_, ?_, ?_⟩
    · rw [← stepsOf_toList, ← hfront, significant_stepsOf_append_slash]
    · rw [String.toList_append, ← hfront, List.append_assoc]
      rfl
    · rw [String.toList_append]
      exact List.prefix_append ..
  next hslash =>
    have hjoined : (directory ++ "/" ++ path).toList = directory.toList ++ '/' :: path.toList := by
      rw [String.toList_append, String.toList_append, List.append_assoc]
      rfl
    exact ⟨directory.toList, rfl, hjoined, hjoined ▸ List.prefix_append ..⟩

theorem significant_steps_join (hrelative : isAbsolute path = false) (hne : directory ≠ "") :
    significant (steps (join directory path)) =
      significant (steps directory) ++ significant (steps path) := by
  obtain ⟨front, hfront, hjoin, -⟩ := exists_toList_join hrelative hne
  rw [← stepsOf_toList, hjoin, stepsOf_append, significant_append, hfront, stepsOf_toList]

theorem isAbsolute_join (hrelative : isAbsolute path = false) (hne : directory ≠ "") :
    isAbsolute (join directory path) = isAbsolute directory := by
  obtain ⟨-, -, -, hbegins⟩ := exists_toList_join hrelative hne
  exact isAbsolute_of_prefix hne hbegins

end Path

namespace FileTree

open EntitySchema.Path (isName significant)

variable {before after tree : FileTree} {here there location : Location} {path file name : String}
  {steps : List String}

theorem foldl_move_significant (here : Location) (steps : List String) :
    (significant steps).foldl move here = steps.foldl move here := by
  induction steps generalizing here with
  | nil => rfl
  | cons step steps ih =>
      cases hblank : isBlankStep step with
      | true =>
          rw [significant, List.filter_cons_of_neg (by simp [hblank]), ← significant, ih,
            List.foldl_cons, move, if_pos hblank]
      | false =>
          rw [significant, List.filter_cons_of_pos (by simp [hblank]), ← significant,
            List.foldl_cons, List.foldl_cons, ih]

/-- A path within the directory of a file leads on from where the file is. -/
theorem target_join_parent (hfile : tree.fileLocation? path = some (there ++ [name]))
    (hrelative : Path.isAbsolute file = false) :
    tree.target (Path.join ((Path.parent? path).getD ".") file) =
      (Path.steps file).foldl move there := by
  obtain ⟨-, front, last, place, hsteps, hname, hplace, hlocation⟩ := fileLocation?_eq_some_iff.1 hfile
  obtain ⟨rfl, -⟩ := List.append_inj' hlocation rfl
  obtain ⟨directory, hparent, ⟨rfl, rfl⟩ | ⟨hne, -, habsolute, hsignificant⟩⟩ :=
    Path.exists_parent?_of_isName hsteps hname
  · have hstart : tree.start path = place := Option.some.inj hplace
    have hpath := Path.isAbsolute_eq_false_of_steps hsteps
    rw [hparent, Option.getD_some, Path.join, if_pos (by simp), target, ← hstart, start, start, hpath,
      hrelative]
  · rw [hparent, Option.getD_some, target, ← foldl_move_significant,
      Path.significant_steps_join hrelative hne, hsignificant, List.foldl_append,
      foldl_move_significant, foldl_move_significant, start, Path.isAbsolute_join hrelative hne,
      habsolute, ← start, eq_foldl_of_enter? hplace]

theorem enter?_of_kept (hkept : ∀ location, before.entryAt? location = some .directory →
    after.entryAt? location = some .directory) (h : before.enter? here steps = some there) :
    after.enter? here steps = some there := by
  induction steps generalizing here with
  | nil => exact h
  | cons step steps ih =>
      obtain ⟨hdirectory, hrest⟩ := enter?_cons_eq_some_iff.1 h
      exact enter?_cons_eq_some_iff.2 ⟨fun hname => hkept _ (hdirectory hname), ih hrest⟩

namespace Saved

variable {content : ByteArray} {other : String}

theorem fileLocation? (h : Saved before path content after)
    (hother : before.fileLocation? other = some location) :
    after.fileLocation? other = some location := by
  obtain ⟨hvalid, front, name, there, hsteps, hname, hthere, hlocation⟩ :=
    fileLocation?_eq_some_iff.1 hother
  have hstart : after.start other = before.start other := by
    rw [FileTree.start, h.workingDirectory, ← FileTree.start]
  exact fileLocation?_eq_some_iff.2
    ⟨hvalid, front, name, there, hsteps, hname, hstart ▸ enter?_of_kept h.kept hthere, hlocation⟩

/-- A file that the path does not lead to is read as before. -/
theorem read?_of_ne (h : Saved before path content after)
    (hother : before.fileLocation? other = some location)
    (hne : after.fileLocation? path ≠ some location) : after.read? other = before.read? other := by
  rw [h.leads] at hne
  have hlocation : location ≠ before.target path := fun heq => hne (heq ▸ rfl)
  rw [read?, read?, h.fileLocation? hother, hother, Option.bind_some, Option.bind_some,
    h.others location hlocation]

end Saved

end FileTree

end EntitySchema

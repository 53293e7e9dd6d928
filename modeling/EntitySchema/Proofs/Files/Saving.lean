import Mathlib.Data.List.Basic
import EntitySchema.Proofs.Files.Path

/-!
# Saving a file

To save a file is to change this file alone, and to make no more than the missing directories on the
way to it. It is done wherever no file stands on the way and no directory at the end.
-/

namespace EntitySchema.FileTree

open EntitySchema.Path (isName isName_iff significant)

variable {before between tree after : FileTree} {here there location : Location}
  {step name path : String} {steps front : List String} {places : List Location}

/-- Where a step leads, whether or not a directory is there. -/
def move (here : Location) (step : String) : Location :=
  if isBlankStep step then here else if step = ".." then here.dropLast else here ++ [step]

/-- Where a path leads, whatever is there. -/
def target (tree : FileTree) (path : String) : Location :=
  (Path.steps path).foldl move (tree.start path)

/-- The locations that have to be directories for a file at the end of a path. -/
def directoriesTo (tree : FileTree) (path : String) : List Location :=
  (Path.steps path).dropLast.scanl move (tree.start path)

theorem move_of_isName (h : isName step = true) : move here step = here ++ [step] := by
  obtain ⟨hblank, hup⟩ := isName_iff.1 h
  simp only [move, hblank, Bool.false_eq_true, if_false, if_neg hup]

theorem isName_of_ne (hblank : ¬isBlankStep step = true) (hup : ¬step = "..") :
    isName step = true :=
  isName_iff.2 ⟨Bool.not_eq_true _ ▸ hblank, hup⟩

theorem enter?_cons_eq_some_iff :
    tree.enter? here (step :: steps) = some there ↔
      (isName step = true → tree.entryAt? (move here step) = some .directory) ∧
        tree.enter? (move here step) steps = some there := by
  rw [enter?, move]
  split
  next hblank => simp [isName, hblank]
  next hblank =>
    split
    next hup => simp [isName, hup]
    next hup =>
      have hname := isName_of_ne hblank hup
      split
      next hdirectory => simp only [hdirectory, implies_true, true_and]
      next hother =>
        constructor
        · intro hnone
          cases hnone
        · rintro ⟨hdirectory, -⟩
          exact absurd (hdirectory hname) hother

theorem eq_foldl_of_enter? (h : tree.enter? here steps = some there) :
    there = steps.foldl move here := by
  induction steps generalizing here with
  | nil => exact (Option.some.inj h).symm
  | cons step steps ih => exact ih (enter?_cons_eq_some_iff.1 h).2

theorem ne_nil_of_entryAt? (h : tree.entryAt? location = none) : location ≠ [] := by
  rintro rfl
  cases h

theorem entryAt?_put_self (h : location ≠ []) (tree : FileTree) (entry : FileEntry) :
    (tree.put location entry).entryAt? location = some entry := by
  rw [entryAt?_put h, if_pos rfl]

/-- The tree after some of the missing directories among the places have been made. -/
structure Grows (before : FileTree) (places : List Location) (after : FileTree) : Prop where
  workingDirectory : after.workingDirectory = before.workingDirectory
  entry : ∀ location, after.entryAt? location = before.entryAt? location ∨
    location ∈ places ∧ before.entryAt? location = none ∧
      after.entryAt? location = some .directory

namespace Grows

theorem refl (tree : FileTree) (places : List Location) : Grows tree places tree :=
  ⟨rfl, fun _ => .inl rfl⟩

theorem put (hnone : before.entryAt? location = none) (hmem : location ∈ places) :
    Grows before places (before.put location .directory) := by
  refine ⟨rfl, fun other => ?_⟩
  rw [entryAt?_put (ne_nil_of_entryAt? hnone)]
  by_cases h : location = other
  · subst h
    exact .inr ⟨hmem, hnone, if_pos rfl⟩
  · exact .inl (if_neg h)

theorem directory (h : Grows before places after)
    (hlocation : before.entryAt? location = some .directory) :
    after.entryAt? location = some .directory := by
  rcases h.entry location with heq | ⟨-, -, hnew⟩
  · rw [heq, hlocation]
  · exact hnew

theorem content? (h : Grows before places after) (location : Location) :
    after.content? location = before.content? location := by
  unfold FileTree.content?
  rcases h.entry location with heq | ⟨-, hnone, hnew⟩
  · rw [heq]
  · rw [hnone, hnew]

theorem start (h : Grows before places after) (path : String) :
    after.start path = before.start path := by
  rw [FileTree.start, h.workingDirectory, ← FileTree.start]

theorem target (h : Grows before places after) (path : String) :
    after.target path = before.target path := by
  rw [FileTree.target, h.start, ← FileTree.target]

theorem trans (h : Grows before places between) (h' : Grows between places after) :
    Grows before places after := by
  refine ⟨h'.workingDirectory.trans h.workingDirectory, fun location => ?_⟩
  rcases h'.entry location with heq | ⟨hmem, hnone, hnew⟩
  · rw [heq]
    exact h.entry location
  · rcases h.entry location with heq | ⟨-, -, hdirectory⟩
    · exact .inr ⟨hmem, heq ▸ hnone, hnew⟩
    · cases hnone.symm.trans hdirectory

theorem mono {more : List Location} (h : Grows before places after) (hsubset : places ⊆ more) :
    Grows before more after :=
  ⟨h.workingDirectory, fun location => (h.entry location).imp_right fun hnew =>
    ⟨hsubset hnew.1, hnew.2⟩⟩

end Grows

/-- One step either makes sure of a directory and goes on from there, or ends at a file or because it is
not possible. -/
theorem createDirectories_cons (tree : FileTree) (here : Location) (step : String)
    (steps : List String) :
    (∃ between, Grows tree [move here step] between ∧
      (isName step = true → between.entryAt? (move here step) = some .directory) ∧
      tree.createDirectories here (step :: steps) =
        between.createDirectories (move here step) steps) ∨
    (Path.isPossible step = false ∨
      ∃ content, tree.entryAt? (move here step) = some (.file content)) ∧
      tree.createDirectories here (step :: steps) = (tree, none) := by
  rw [createDirectories, move]
  split
  next hblank => exact .inl ⟨tree, Grows.refl tree _, by simp [isName, hblank], rfl⟩
  next hblank =>
    split
    next hup => exact .inl ⟨tree, Grows.refl tree _, by simp [isName, hup], rfl⟩
    next hup =>
      split
      next hpossible => exact .inr ⟨.inl (by simpa using hpossible), rfl⟩
      next hpossible =>
        split
        next hdirectory => exact .inl ⟨tree, Grows.refl tree _, fun _ => hdirectory, rfl⟩
        next content hfile => exact .inr ⟨.inr ⟨content, hfile⟩, rfl⟩
        next hnone =>
          exact .inl ⟨_, Grows.put hnone List.mem_cons_self,
            fun _ => entryAt?_put_self (ne_nil_of_entryAt? hnone) _ _, rfl⟩

theorem mem_scanl (here : Location) (steps : List String) : here ∈ steps.scanl move here := by
  cases steps <;> simp

theorem grows_createDirectories (tree : FileTree) (here : Location) (steps : List String) :
    Grows tree (steps.scanl move here) (tree.createDirectories here steps).1 := by
  induction steps generalizing tree here with
  | nil => exact Grows.refl tree _
  | cons step steps ih =>
      rw [List.scanl_cons]
      obtain ⟨between, hgrows, -, heq⟩ | ⟨-, heq⟩ := createDirectories_cons tree here step steps
      · rw [heq]
        have hmem : [move here step] ⊆ steps.scanl move (move here step) :=
          List.cons_subset.2 ⟨mem_scanl _ steps, List.nil_subset _⟩
        exact ((hgrows.mono hmem).trans (ih between _)).mono (List.subset_cons_self _ _)
      · rw [heq]
        exact Grows.refl tree _

theorem enter?_of_createDirectories
    (h : tree.createDirectories here steps = (after, some there)) :
    after.enter? here steps = some there := by
  induction steps generalizing tree here with
  | nil =>
      cases h
      rfl
  | cons step steps ih =>
      obtain ⟨between, -, hdirectory, heq⟩ | ⟨-, heq⟩ :=
        createDirectories_cons tree here step steps
      · rw [heq] at h
        have hgrows := grows_createDirectories between (move here step) steps
        rw [h] at hgrows
        exact enter?_cons_eq_some_iff.2
          ⟨fun hname => hgrows.directory (hdirectory hname), ih h⟩
      · cases heq.symm.trans h

theorem exists_createDirectories (hpossible : ∀ step ∈ steps, Path.isPossible step = true)
    (h : ∀ location ∈ steps.scanl move here, tree.content? location = none) :
    ∃ after there, tree.createDirectories here steps = (after, some there) := by
  induction steps generalizing tree here with
  | nil => exact ⟨tree, here, rfl⟩
  | cons step steps ih =>
      rw [List.scanl_cons, List.forall_mem_cons] at h
      rw [List.forall_mem_cons] at hpossible
      obtain ⟨between, hgrows, -, heq⟩ | ⟨himpossible | ⟨content, hfile⟩, -⟩ :=
        createDirectories_cons tree here step steps
      · -- A directory that is made is no file, so the way stays clear for the other steps.
        rw [heq]
        exact ih hpossible.2 fun location hlocation =>
          (hgrows.content? location).trans (h.2 location hlocation)
      · cases himpossible.symm.trans hpossible.1
      · have hnone := h.2 _ (mem_scanl _ steps)
        rw [content?, hfile] at hnone
        cases hnone

theorem createDirectories_significant :
    tree.createDirectories here (significant steps) = tree.createDirectories here steps := by
  induction steps generalizing tree here with
  | nil => rfl
  | cons step steps ih =>
      cases hblank : isBlankStep step with
      | true =>
          rw [significant, List.filter_cons_of_neg (by simp [hblank]), ← significant, ih,
            createDirectories, if_pos hblank]
      | false =>
          rw [significant, List.filter_cons_of_pos (by simp [hblank]), ← significant,
            createDirectories, createDirectories]
          simp only [ih]

/-- To make the directory of a file is to make the directories that its path leads through. -/
theorem createParent_eq (hvalid : Path.isValid path = true)
    (hsteps : Path.steps path = front ++ [name]) (hname : isName name = true) :
    tree.createParent path =
      ((tree.createDirectories (tree.start path) front).1,
        (tree.createDirectories (tree.start path) front).2.isSome) := by
  obtain ⟨directory, hparent, ⟨rfl, rfl⟩ | ⟨hne, hbegins, habsolute, hsignificant⟩⟩ :=
    Path.exists_parent?_of_isName hsteps hname
  · rw [createParent, hparent]
    rfl
  · -- Blank steps are lost where the path is cut, so the two agree only in what their steps say.
    have hcreate : tree.createDirectories (tree.start directory) (Path.steps directory) =
        tree.createDirectories (tree.start path) front := by
      rw [← createDirectories_significant, hsignificant, createDirectories_significant, start,
        habsolute, ← start]
    rw [createParent, hparent]
    split
    · next h => cases h
    · next h => exact absurd (Option.some.inj h) hne
    · next h =>
        obtain rfl := Option.some.inj h
        rw [Path.isFollowable_of_prefix (Path.isValid_iff.1 hvalid).1 hne hbegins, hcreate]
        rcases tree.createDirectories (tree.start path) front with ⟨after, none | there⟩ <;> rfl

theorem grows_of_createParent {made : Bool} (h : tree.createParent path = (after, made))
    (hvalid : Path.isValid path = true) (hsteps : Path.steps path = front ++ [name])
    (hname : isName name = true) : Grows tree (tree.directoriesTo path) after := by
  rw [createParent_eq hvalid hsteps hname] at h
  rw [directoriesTo, hsteps, List.dropLast_concat, ← (Prod.mk.inj h).1]
  exact grows_createDirectories tree _ front

theorem fileLocation?_eq_some_iff :
    tree.fileLocation? path = some location ↔
      Path.isValid path = true ∧ ∃ front name there, Path.steps path = front ++ [name] ∧
        isName name = true ∧ tree.enter? (tree.start path) front = some there ∧
        there ++ [name] = location := by
  rw [fileLocation?]
  constructor
  · intro h
    split at h
    · cases h
    next hvalid =>
      refine ⟨by simpa using hvalid, ?_⟩
      split at h
      · cases h
      next name steps hreverse =>
        split at h
        · cases h
        next hname =>
          obtain ⟨there, hthere, hlocation⟩ := Option.map_eq_some_iff.1 h
          refine ⟨steps.reverse, name, there, ?_, ?_, hthere, hlocation⟩
          · rw [← List.reverse_reverse (Path.steps path), hreverse, List.reverse_cons]
          · simpa [isName] using hname
  · rintro ⟨hvalid, front, name, there, hsteps, hname, hthere, rfl⟩
    have hparts : (isBlankStep name || decide (name = "..")) = false := by
      simpa [isName] using hname
    rw [hvalid, hsteps, List.reverse_append]
    simp [hparts, hthere]

theorem eq_target_of_fileLocation? (h : tree.fileLocation? path = some location) :
    location = tree.target path := by
  obtain ⟨-, front, name, there, hsteps, hname, hthere, rfl⟩ := fileLocation?_eq_some_iff.1 h
  rw [target, hsteps, List.foldl_append, ← eq_foldl_of_enter? hthere]
  exact (move_of_isName hname).symm

theorem ne_nil_of_fileLocation? (h : tree.fileLocation? path = some location) : location ≠ [] := by
  obtain ⟨-, front, name, there, -, -, -, rfl⟩ := fileLocation?_eq_some_iff.1 h
  exact List.append_ne_nil_of_right_ne_nil _ (List.cons_ne_nil _ _)

theorem enter?_put {entry : FileEntry} (hne : location ≠ [])
    (hentry : tree.entryAt? location ≠ some .directory)
    (h : tree.enter? here steps = some there) :
    (tree.put location entry).enter? here steps = some there := by
  induction steps generalizing here with
  | nil => exact h
  | cons step steps ih =>
      obtain ⟨hdirectory, hrest⟩ := enter?_cons_eq_some_iff.1 h
      refine enter?_cons_eq_some_iff.2 ⟨fun hname => ?_, ih hrest⟩
      have hother : location ≠ move here step := fun heq => hentry (heq ▸ hdirectory hname)
      rw [entryAt?_put hne, if_neg hother]
      exact hdirectory hname

theorem fileLocation?_put (entry : FileEntry) (h : tree.fileLocation? path = some location)
    (hentry : tree.entryAt? location ≠ some .directory) :
    (tree.put location entry).fileLocation? path = some location := by
  have hne := ne_nil_of_fileLocation? h
  obtain ⟨hvalid, front, name, there, hsteps, hname, hthere, hlocation⟩ :=
    fileLocation?_eq_some_iff.1 h
  exact fileLocation?_eq_some_iff.2
    ⟨hvalid, front, name, there, hsteps, hname, enter?_put hne hentry hthere, hlocation⟩

theorem write?_eq_some_iff {content : ByteArray} :
    tree.write? path content = some after ↔
      ∃ location, tree.fileLocation? path = some location ∧
        tree.entryAt? location ≠ some .directory ∧ tree.put location (.file content) = after := by
  rw [write?]
  cases hlocation : tree.fileLocation? path with
  | none => simp
  | some location =>
      cases hentry : tree.entryAt? location with
      | none => simp [hentry]
      | some entry => cases entry <;> simp [hentry]

theorem save_eq_true_iff {content : ByteArray} :
    tree.save path content = (after, true) ↔
      ∃ between, tree.createParent path = (between, true) ∧
        between.write? path content = some after := by
  rw [save]
  rcases tree.createParent path with ⟨between, _ | _⟩
  · simp
  · cases hwrite : between.write? path content <;> simp [hwrite]

/-- The tree after a file was saved: the path leads to it, every other file is as it was, and the
directories that were not there before were missing on the way to the file. -/
structure Saved (before : FileTree) (path : String) (content : ByteArray) (after : FileTree) :
    Prop where
  leads : after.fileLocation? path = some (before.target path)
  read : after.read? path = some content
  others : ∀ location, location ≠ before.target path →
    after.content? location = before.content? location
  kept : ∀ location, before.entryAt? location = some .directory →
    after.entryAt? location = some .directory
  created : ∀ location, after.entryAt? location = some .directory →
    before.entryAt? location = some .directory ∨
      before.entryAt? location = none ∧ location ∈ before.directoriesTo path
  workingDirectory : after.workingDirectory = before.workingDirectory

/-- A file can be saved at the path: it ends in a name and does not pass its own end, no file stands on
the way, and no directory at the end. -/
structure Writable (tree : FileTree) (path : String) : Prop where
  valid : Path.isValid path = true
  named : ∀ name ∈ (Path.steps path).getLast?, isName name = true
  passable : ∀ location ∈ tree.directoriesTo path, tree.content? location = none
  proper : tree.target path ∉ tree.directoriesTo path
  free : tree.entryAt? (tree.target path) ≠ some .directory

theorem saved_of_save {content : ByteArray} (h : tree.save path content = (after, true)) :
    Saved tree path content after := by
  obtain ⟨between, hparent, hwrite⟩ := save_eq_true_iff.1 h
  obtain ⟨location, hlocation, hentry, rfl⟩ := write?_eq_some_iff.1 hwrite
  have hgrows : Grows tree (tree.directoriesTo path) between := by
    obtain ⟨hvalid, front, name, -, hsteps, hname, -⟩ := fileLocation?_eq_some_iff.1 hlocation
    exact grows_of_createParent hparent hvalid hsteps hname
  have htarget : location = tree.target path :=
    (eq_target_of_fileLocation? hlocation).trans (hgrows.target path)
  have hne := ne_nil_of_fileLocation? hlocation
  have hleads := fileLocation?_put (.file content) hlocation hentry
  constructor
  case leads => exact htarget ▸ hleads
  case read => rw [read?, hleads, Option.bind_some, content?, entryAt?_put_self hne]
  case others =>
    intro other hother
    rw [content?, entryAt?_put hne, if_neg (htarget ▸ hother.symm), ← content?]
    exact hgrows.content? other
  case kept =>
    intro other hdirectory
    have hbetween := hgrows.directory hdirectory
    have hother : location ≠ other := fun heq => hentry (heq ▸ hbetween)
    rw [entryAt?_put hne, if_neg hother]
    exact hbetween
  case created =>
    intro other hdirectory
    rw [entryAt?_put hne] at hdirectory
    split at hdirectory
    · cases hdirectory
    · rcases hgrows.entry other with heq | ⟨hmem, hnone, -⟩
      · exact .inl (heq ▸ hdirectory)
      · exact .inr ⟨hnone, hmem⟩
  case workingDirectory => exact hgrows.workingDirectory

theorem grows_createParent (tree : FileTree) (path : String) :
    ∃ places, Grows tree places (tree.createParent path).1 := by
  unfold createParent
  split
  · exact ⟨[], Grows.refl tree _⟩
  · exact ⟨[], Grows.refl tree _⟩
  next directory _ _ =>
    split
    · exact ⟨[], Grows.refl tree _⟩
    · have hgrows := grows_createDirectories tree (tree.start directory) (Path.steps directory)
      split
      next heq => exact ⟨_, congrArg Prod.fst heq ▸ hgrows⟩
      next heq => exact ⟨_, congrArg Prod.fst heq ▸ hgrows⟩

theorem content?_of_save {content : ByteArray} (h : tree.save path content = (after, false))
    (location : Location) : after.content? location = tree.content? location := by
  obtain ⟨places, hgrows⟩ := grows_createParent tree path
  have hafter : after = (tree.createParent path).1 := by
    rw [save] at h
    split at h
    next between hparent =>
      rw [hparent]
      exact (Prod.mk.inj h).1.symm
    next between hparent =>
      rw [hparent]
      split at h
      · cases (Prod.mk.inj h).2
      · exact (Prod.mk.inj h).1.symm
  -- Directories may have been made before the attempt failed.
  rw [hafter]
  exact hgrows.content? location

theorem exists_save (h : tree.Writable path) (content : ByteArray) :
    ∃ after, tree.save path content = (after, true) := by
  have hne : Path.steps path ≠ [] :=
    fun hnil => Text.splitAt_ne_nil _ _ (List.map_eq_nil_iff.1 hnil)
  have hsteps := (List.dropLast_append_getLast hne).symm
  have hname := h.named _ (List.getLast?_eq_some_getLast hne)
  have hpossible : ∀ step ∈ (Path.steps path).dropLast, Path.isPossible step = true :=
    fun step hstep => (Path.isValid_iff.1 h.valid).2 step (List.dropLast_subset _ hstep)
  obtain ⟨between, there, hcreate⟩ := exists_createDirectories hpossible h.passable
  have hparent : tree.createParent path = (between, true) := by
    rw [createParent_eq h.valid hsteps hname, hcreate]
    rfl
  have hgrows := grows_of_createParent hparent h.valid hsteps hname
  have hthere : between.enter? (between.start path) (Path.steps path).dropLast = some there := by
    rw [hgrows.start path]
    exact enter?_of_createDirectories hcreate
  have hlocation := fileLocation?_eq_some_iff.2
    ⟨h.valid, _, _, there, hsteps, hname, hthere, rfl⟩
  have htarget := (eq_target_of_fileLocation? hlocation).trans (hgrows.target path)
  refine ⟨_, save_eq_true_iff.2 ⟨_, hparent, write?_eq_some_iff.2 ⟨_, hlocation, ?_, rfl⟩⟩⟩
  rw [htarget]
  rcases hgrows.entry (tree.target path) with heq | ⟨hmem, -⟩
  · exact heq ▸ h.free
  · exact absurd hmem h.proper

/-- Making the directories of this path makes one at its end. -/
example : (FileTree.save ⟨[], []⟩ "a/../a" ByteArray.empty).2 = false := by decide

end EntitySchema.FileTree

import EntitySchema.Proofs.Mapping.Columns
import EntitySchema.Proofs.Mapping.Grammar
import EntitySchema.Proofs.Mapping.Standing
import EntitySchema.Proofs.Model.Document

/-!
# Order of the sources

The sources of an entity come in the order in which their nodes are met, which is that of the keys. Where
all of them are declared in one node of the file, they come as they are declared only if the keys happen to
increase there.
-/

namespace EntitySchema

namespace Mapping

variable {delimiter name owner key : String} {mapping node child : Json} {parent? : Option String}
  {model : Model} {entity : Entity}

theorem infoOf_sorted (node : Json) :
    infoOf node.sorted = Json.sortedMembers ((info? node).getD []) := by
  cases node with
  | object members =>
      rw [Json.sorted, infoOf, Json.asObject?, Option.bind_some, member?_infoKey_sortedMembers]
      cases info? (.object members) <;> rfl
  | _ => rfl

theorem getD_info?_eq (h : node.hasDistinctKeys = true) : (info? node).getD [] = infoOf node := by
  cases node with
  | object members =>
      rw [info?, infoOf, Json.asObject?, Option.bind_some, Option.bind_some,
        Json.lastMember?_eq_member? (Json.hasDistinctKeys_object_iff.1 h).1]
  | _ => rfl

theorem nodup_infoOf (h : node.hasDistinctKeys = true) : ((infoOf node).map Prod.fst).Nodup := by
  rw [← getD_info?_eq h]
  cases hinfo : info? node with
  | none => exact .nil
  | some info =>
      obtain ⟨item, hitem, hentries⟩ := Option.bind_eq_some_iff.1 hinfo
      obtain ⟨members, hmembers, hlast⟩ := Option.bind_eq_some_iff.1 hitem
      obtain rfl := Json.eq_object_of_asObject? hmembers
      obtain rfl := Json.eq_object_of_asObject? hentries
      have hdistinct := (Json.hasDistinctKeys_object_iff.1 h).2 _ (Json.mem_of_lastMember? hlast)
      exact (Json.hasDistinctKeys_object_iff.1 hdistinct).1

theorem member?_infoOf_sorted (h : node.hasDistinctKeys = true) (key : String) :
    Json.member? (infoOf node.sorted) key = (Json.member? (infoOf node) key).map Json.sorted := by
  rw [infoOf_sorted, getD_info?_eq h, Json.member?_sortedMembers_of_nodup (nodup_infoOf h)]

theorem text?_infoOf_sorted (h : node.hasDistinctKeys = true) (key : String) :
    text? (infoOf node.sorted) key = text? (infoOf node) key := by
  rw [text?, text?, member?_infoOf_sorted h]
  cases Json.member? (infoOf node) key with
  | none => rfl
  | some item => exact Json.asString?_sorted item

theorem flag_infoOf_sorted (h : node.hasDistinctKeys = true) (key : String) :
    flag (infoOf node.sorted) key = flag (infoOf node) key := by
  rw [flag, flag, member?_infoOf_sorted h]
  cases Json.member? (infoOf node) key with
  | none => rfl
  | some item => exact congrArg (Option.getD · false) (Json.asBool?_sorted item)

theorem isObject_sorted_iff (h : node.hasDistinctKeys = true) :
    IsObject node.sorted ↔ IsObject node := by
  unfold IsObject typeOf
  rw [text?_infoOf_sorted h]

/-- The key of a node and the column that it is, if it is a source of the entity of that name. -/
def Scalar.source? (delimiter name : String) (node : Scalar) : Option (String × String) :=
  if (node.target delimiter).1 = name ∧ node.isSource = true then
    some (node.key, (node.target delimiter).2)
  else none

/-- The sources of the entity of that name among nodes, in their order. -/
def sourcesAmong (delimiter name : String) (nodes : List Node) : List (String × String) :=
  (nodes.filterMap Node.scalar?).filterMap (Scalar.source? delimiter name)

/-- The sources of the entity of that name, in the order in which the file declares them. -/
def declaredSources (delimiter : String) (mapping : Json) (name : String) : List (String × String) :=
  sourcesAmong delimiter name (listed mapping)

/-- Those of the sources of the entity of that name that are declared directly in a node. -/
def sourcesIn (delimiter name owner : String) (node : Json) : List (String × String) :=
  (scalarsOf owner node).filterMap (Scalar.source? delimiter name)

theorem source?_sorted (h : child.hasDistinctKeys = true) (owner key : String) :
    Scalar.source? delimiter name { parent := owner, key, info := infoOf child.sorted } =
      Scalar.source? delimiter name { parent := owner, key, info := infoOf child } := by
  unfold Scalar.source? Scalar.target Scalar.isSource
  simp only [text?_infoOf_sorted h, flag_infoOf_sorted h]

theorem sourcesAmong_flatMap {α : Type} (items : List α) (f : α → List Node) :
    sourcesAmong delimiter name (items.flatMap f) =
      items.flatMap fun item => sourcesAmong delimiter name (f item) := by
  unfold sourcesAmong
  rw [List.filterMap_flatMap, List.filterMap_flatMap]

theorem perm_sourcesAmong_nodesIn : ∀ (node : Json), node.hasDistinctKeys = true →
    ∀ owner, (sourcesAmong delimiter name (nodesIn owner node.sorted)).Perm
      (sourcesAmong delimiter name (nodesIn owner node)) := by
  apply Json.induction_on_members
  intro node ih hdistinct owner
  cases node with
  | object members =>
      obtain ⟨hnodup, hmembers⟩ := Json.hasDistinctKeys_object_iff.1 hdistinct
      rw [Json.sorted, nodesIn, nodesIn, memberNodes_eq_flatMap, memberNodes_eq_flatMap,
        sourcesAmong_flatMap, sourcesAmong_flatMap]
      apply Json.perm_flatMap_sortedMembers hnodup
      rintro ⟨key, child⟩ hmem
      have hchild : child.hasDistinctKeys = true := hmembers _ hmem
      unfold nodesOf
      simp only [isObject_sorted_iff hchild]
      split
      · exact .refl _
      · split
        · exact ih members rfl (key, child) hmem hchild key
        · exact .of_eq (congrArg Option.toList (source?_sorted hchild owner key))
  | _ => exact .refl _

theorem perm_declaredSources (hdistinct : mapping.hasDistinctKeys = true) :
    (sourcesAmong delimiter name (nodes mapping)).Perm (declaredSources delimiter mapping name) := by
  rw [nodes_eq_listed]
  unfold declaredSources listed
  rw [sourcesAmong_flatMap, sourcesAmong_flatMap]
  cases mapping with
  | object roots =>
      obtain ⟨hnodup, hroots⟩ := Json.hasDistinctKeys_object_iff.1 hdistinct
      apply Json.perm_flatMap_sortedMembers hnodup
      intro root hmem
      exact perm_sourcesAmong_nodesIn root.2 (hroots root hmem) root.1
  | _ => exact .refl _

theorem sourcesIn_object (members : List (String × Json)) :
    sourcesIn delimiter name owner (.object members) =
      members.flatMap fun member =>
        ((scalar? owner member).bind (Scalar.source? delimiter name)).toList := by
  rw [sourcesIn, scalarsOf, Json.asObject?, Option.getD_some, List.filterMap_filterMap,
    List.filterMap_eq_flatMap_toList]

theorem perm_sourcesIn (hdistinct : node.hasDistinctKeys = true) :
    (sourcesIn delimiter name owner node.sorted).Perm (sourcesIn delimiter name owner node) := by
  cases node with
  | object members =>
      obtain ⟨hnodup, hmembers⟩ := Json.hasDistinctKeys_object_iff.1 hdistinct
      rw [Json.sorted, sourcesIn_object, sourcesIn_object]
      apply Json.perm_flatMap_sortedMembers hnodup
      rintro ⟨key, child⟩ hmem
      have hchild : child.hasDistinctKeys = true := hmembers _ hmem
      unfold scalar?
      simp only [isObject_sorted_iff hchild]
      split
      · exact .refl _
      · exact .of_eq (congrArg Option.toList (source?_sorted hchild owner key))
  | _ => exact .refl _

theorem Scalar.key_of_source? {scalar : Scalar} {source : String × String}
    (h : scalar.source? delimiter name = some source) : source.1 = scalar.key := by
  unfold Scalar.source? at h
  split at h
  · cases h
    rfl
  · cases h

theorem key_of_scalar? {member : String × Json} {scalar : Scalar}
    (h : scalar? owner member = some scalar) : scalar.key = member.1 := by
  unfold scalar? at h
  split at h
  · cases h
  · cases h
    rfl

theorem pairwise_sourcesIn_sorted (delimiter name owner : String) (node : Json) :
    (sourcesIn delimiter name owner node.sorted).Pairwise (·.1 < ·.1) := by
  cases node with
  | object members =>
      rw [Json.sorted, sourcesIn, scalarsOf, Json.asObject?, Option.getD_some,
        List.filterMap_filterMap, List.pairwise_filterMap]
      apply (Json.pairwise_sortedMembers members).imp
      intro first second hlt source hsource other hother
      obtain ⟨scalar, hscalar, hsource⟩ := Option.bind_eq_some_iff.1 hsource
      obtain ⟨next, hnext, hother⟩ := Option.bind_eq_some_iff.1 hother
      rwa [Scalar.key_of_source? hsource, Scalar.key_of_source? hother, key_of_scalar? hscalar,
        key_of_scalar? hnext]
  | _ => exact .nil

theorem Stands.hasDistinctKeys (h : Stands mapping parent? name node)
    (hdistinct : mapping.hasDistinctKeys = true) : node.hasDistinctKeys = true := by
  induction h with
  | top hwhole hmem =>
      subst hwhole
      exact (Json.hasDistinctKeys_object_iff.1 hdistinct).2 _ hmem
  | inside _ hmem _ _ ih => exact (Json.hasDistinctKeys_object_iff.1 ih).2 _ hmem

theorem Stands.sorted (h : Stands mapping parent? name node)
    (hdistinct : mapping.hasDistinctKeys = true) :
    Stands mapping.sorted parent? name node.sorted := by
  induction h with
  | top hwhole hmem =>
      subst hwhole
      obtain ⟨hnodup, -⟩ := Json.hasDistinctKeys_object_iff.1 hdistinct
      exact .top rfl (Json.mem_sortedMembers_of_mem hnodup hmem)
  | inside hparent hmem hkey hobject ih =>
      obtain ⟨hnodup, hmembers⟩ :=
        Json.hasDistinctKeys_object_iff.1 (hparent.hasDistinctKeys hdistinct)
      have hsorted := (isObject_sorted_iff (hmembers _ hmem)).2 hobject
      exact ih.inside (Json.mem_sortedMembers_of_mem hnodup hmem) hkey hsorted

theorem sourcesAmong_nodes_eq (hdistinct : mapping.hasDistinctKeys = true)
    (hstands : Stands mapping parent? owner node)
    (hall : declaredSources delimiter mapping name = sourcesIn delimiter name owner node) :
    sourcesAmong delimiter name (nodes mapping) = sourcesIn delimiter name owner node.sorted := by
  have hlength : (sourcesAmong delimiter name (nodes mapping)).length =
      (sourcesIn delimiter name owner node.sorted).length := by
    rw [(perm_declaredSources hdistinct).length_eq, hall,
      (perm_sourcesIn (hstands.hasDistinctKeys hdistinct)).length_eq]
  -- The node has its sources in the order in which they are met, and there are no others.
  have hsublist : (sourcesIn delimiter name owner node.sorted).Sublist
      (sourcesAmong delimiter name (nodes mapping)) := by
    rw [nodes_eq_listed]
    exact (hstands.sorted hdistinct).scalarsOf_sublist.filterMap _
  exact (hsublist.eq_of_length hlength.symm).symm

/-- The columns of declared sources, each where it is declared first. -/
def columnsOf (sources : List (String × String)) : List String :=
  (sources.map Prod.snd).eraseDups

/-- Declared sources by increasing key. -/
def byKey (sources : List (String × String)) : List (String × String) :=
  sources.mergeSort fun a b => decide (a.1 ≤ b.1)

theorem pairwise_byKey (sources : List (String × String)) :
    (byKey sources).Pairwise fun a b => a.1 ≤ b.1 := by
  have hpairwise : (byKey sources).Pairwise fun a b => decide (a.1 ≤ b.1) = true := by
    apply List.pairwise_mergeSort
    · intro a b c hab hbc
      exact decide_eq_true (String.le_trans (of_decide_eq_true hab) (of_decide_eq_true hbc))
    · intro a b
      simpa using String.le_total a.1 b.1
  exact hpairwise.imp of_decide_eq_true

theorem eq_byKey {sources sorted : List (String × String)} (hperm : sorted.Perm sources)
    (hsorted : sorted.Pairwise (·.1 < ·.1)) : sorted = byKey sources := by
  have hnodup : (sorted.map Prod.fst).Nodup := by
    refine List.pairwise_map.2 (hsorted.imp ?_)
    intro a b hlt heq
    exact String.lt_irrefl _ (heq ▸ hlt)
  have hboth : sorted.Perm (byKey sources) := hperm.trans (List.mergeSort_perm _ _).symm
  refine hboth.eq_of_pairwise ?_ (hsorted.imp Std.le_of_lt) (pairwise_byKey sources)
  intro a b ha hb hab hba
  exact List.inj_on_of_nodup_map hnodup ha (hboth.mem_iff.2 hb) (String.le_antisymm hab hba)

/-- The first column is declared under a smaller key than the second under any. -/
def Before (sources : List (String × String)) (a b : String) : Prop :=
  ∃ key, (key, a) ∈ sources ∧ ∀ other, (other, b) ∈ sources → key < other

theorem Before.asymm {sources : List (String × String)} {a b : String} (hab : Before sources a b) :
    ¬Before sources b a := by
  rintro ⟨second, hb, hfirst⟩
  obtain ⟨first, ha, hsecond⟩ := hab
  exact String.lt_irrefl _ (String.lt_trans (hsecond second hb) (hfirst first ha))

theorem Before.concat {sources : List (String × String)} {a b column : String}
    (hab : Before sources a b) (hlast : ∀ source ∈ sources, source.1 < key) :
    Before (sources ++ [(key, column)]) a b := by
  obtain ⟨first, ha, hb⟩ := hab
  refine ⟨first, List.mem_append_left _ ha, fun other hother => ?_⟩
  rcases List.mem_append.1 hother with hother | hother
  · exact hb other hother
  · cases List.mem_singleton.1 hother
    exact hlast _ ha

theorem before_concat_self {sources : List (String × String)} {a column : String}
    (ha : a ∈ sources.map Prod.snd) (hnew : column ∉ sources.map Prod.snd)
    (hlast : ∀ source ∈ sources, source.1 < key) :
    Before (sources ++ [(key, column)]) a column := by
  obtain ⟨⟨first, _⟩, hsource, rfl⟩ := List.mem_map.1 ha
  refine ⟨first, List.mem_append_left _ hsource, fun other hother => ?_⟩
  rcases List.mem_append.1 hother with hother | hother
  · exact absurd (List.mem_map_of_mem hother) hnew
  · cases List.mem_singleton.1 hother
    exact hlast _ hsource

theorem pairwise_before_columnsOf {sources : List (String × String)}
    (hsorted : sources.Pairwise (·.1 < ·.1)) :
    (columnsOf sources).Pairwise (Before sources) := by
  -- The last source is taken away, as it is the one that may repeat a column.
  induction sources using List.reverseRecOn with
  | nil => exact .nil
  | append_singleton sources last ih =>
      obtain ⟨key, column⟩ := last
      obtain ⟨hsources, -, hafter⟩ := List.pairwise_append.1 hsorted
      have hlast : ∀ source ∈ sources, source.1 < key := by
        intro source hsource
        exact hafter source hsource _ (List.mem_singleton_self _)
      have hrest : (columnsOf sources).Pairwise (Before (sources ++ [(key, column)])) :=
        (ih hsources).imp (Before.concat · hlast)
      rw [columnsOf, List.map_append, List.map_singleton, eraseDups_concat]
      split
      · exact hrest
      next hnew =>
        refine List.pairwise_append.2 ⟨hrest, List.pairwise_singleton _ _, fun a ha b hb => ?_⟩
        obtain rfl := List.mem_singleton.1 hb
        exact before_concat_self (List.mem_eraseDups.1 ha) hnew hlast

theorem before_congr {sources others : List (String × String)} (hperm : sources.Perm others)
    (a b : String) : Before sources a b ↔ Before others a b := by
  simp only [Before, hperm.mem_iff]

theorem mem_columnsOf_congr {sources others : List (String × String)} (hperm : sources.Perm others)
    (column : String) : column ∈ columnsOf sources ↔ column ∈ columnsOf others := by
  rw [columnsOf, columnsOf, List.mem_eraseDups, List.mem_eraseDups, (hperm.map _).mem_iff]

/-- Columns that come by increasing key come in one order only. -/
theorem columnsOf_eq_iff {declared sorted : List (String × String)} (hperm : sorted.Perm declared)
    (hsorted : sorted.Pairwise (·.1 < ·.1)) :
    columnsOf sorted = columnsOf declared ↔
      (columnsOf declared).Pairwise (Before declared) := by
  have hbefore : (columnsOf sorted).Pairwise (Before declared) :=
    (pairwise_before_columnsOf hsorted).imp (before_congr hperm _ _).1
  have hnodup : ∀ {columns : List String}, columns.Pairwise (Before declared) → columns.Nodup := by
    intro columns hcolumns
    refine hcolumns.imp ?_
    rintro a _ hself rfl
    exact hself.asymm hself
  constructor
  · intro heq
    exact heq ▸ hbefore
  · intro hdeclared
    have hboth : (columnsOf sorted).Perm (columnsOf declared) :=
      (List.perm_ext_iff_of_nodup (hnodup hbefore) (hnodup hdeclared)).2
        (mem_columnsOf_congr hperm)
    refine hboth.eq_of_pairwise ?_ hbefore hdeclared
    intro a b _ _ hab hba
    exact absurd hba hab.asymm

theorem externalIdSources_eq (h : toModel delimiter mapping = .ok model)
    (hget : model.get? name = some entity) :
    entity.externalIdSources = columnsOf (sourcesAmong delimiter name (nodes mapping)) := by
  rw [(gathers_of_toModel h hget).sources, columnsOf, sourcesAmong, scalarsFor, scalars,
    List.filter_filter]
  congr 1
  induction (nodes mapping).filterMap Node.scalar? with
  | nil => rfl
  | cons scalar scalars ih =>
      rw [List.filter_cons, List.filterMap_cons, Scalar.source?]
      by_cases htable : (scalar.target delimiter).1 = name
      · by_cases hsource : scalar.isSource = true
        · simp [htable, hsource, ih]
        · simp [htable, hsource, ih]
      · simp [htable, ih]

theorem toModel_of_load {files : FileTree} {path text : String}
    (hload : Model.load files .mapping delimiter path = .ok model)
    (hread : files.readText? path = some text) (hmapping : Json.ofText? text = some mapping) :
    toModel delimiter mapping = .ok model := by
  rw [Model.load, hread, ofText?_mapping hmapping] at hload
  cases hresult : toModel delimiter mapping with
  | error fault =>
      rw [hresult] at hload
      cases hload
  | ok found =>
      rw [hresult] at hload
      cases hload
      rfl

open ExternalId (Derivation)

/-- The sources of an entity come by the keys of the nodes that declare them, in its external id too. So
they come as declared if the keys of the columns increase, and otherwise they do not. -/
structure KeyOrdered (declared : List (String × String)) (entity : Entity) : Prop where
  sources : entity.externalIdSources = columnsOf (byKey declared)
  asDeclared_iff : entity.externalIdSources = columnsOf declared ↔
    (columnsOf declared).Pairwise (Before declared)
  derived : ∀ namer, Derivation.ofEntity namer entity =
    .ok (Derivation.ofSources? ((columnsOf (byKey declared)).map (namer.name .column · false)))
  hashed : ∀ namer identifiers,
    Derivation.ofEntity namer entity = .ok (some (.contentHash identifiers)) →
      ∀ row, (Derivation.contentHash identifiers).value row =
        some (Sha256.hexDigest (String.join ((columnsOf (byKey declared)).map fun column =>
          (row (namer.name .column column false)).getD "")))

theorem keyOrdered_of_load {files : FileTree} {path text : String}
    (hload : Model.load files .mapping delimiter path = .ok model)
    (hread : files.readText? path = some text) (hmapping : Json.ofText? text = some mapping)
    (hdistinct : mapping.hasDistinctKeys = true) (hmem : entity ∈ model.toList)
    (hstands : Stands mapping parent? owner node)
    (hall : declaredSources delimiter mapping entity.name =
      sourcesIn delimiter entity.name owner node) :
    KeyOrdered (declaredSources delimiter mapping entity.name) entity := by
  have hmodel := toModel_of_load hload hread hmapping
  have hwellFormed := (wellFormed_of_toModel hmodel).1
  have hsources := externalIdSources_eq hmodel (hwellFormed.keyed.mem_toList_iff.1 hmem)
  rw [sourcesAmong_nodes_eq hdistinct hstands hall] at hsources
  have hperm : (sourcesIn delimiter entity.name owner node.sorted).Perm
      (declaredSources delimiter mapping entity.name) :=
    hall ▸ perm_sourcesIn (hstands.hasDistinctKeys hdistinct)
  have hsorted := pairwise_sourcesIn_sorted delimiter entity.name owner node
  have hbyKey := hsources
  rw [eq_byKey hperm hsorted] at hbyKey
  have hderived : ∀ namer, Derivation.ofEntity namer entity =
      .ok (Derivation.ofSources? ((columnsOf (byKey (declaredSources delimiter mapping entity.name))).map
        (namer.name .column · false))) := by
    intro namer
    rw [← hbyKey]
    exact Derivation.ofEntity_eq_ok_iff.2 ⟨(hwellFormed.entities entity hmem).declared, rfl⟩
  constructor
  case sources => exact hbyKey
  case asDeclared_iff =>
    rw [hsources]
    exact columnsOf_eq_iff hperm hsorted
  case derived => exact hderived
  case hashed =>
    intro namer identifiers hidentifiers row
    have hsame := Except.ok.inj ((hderived namer).symm.trans hidentifiers)
    have hjoined : identifiers = _ := Derivation.sources_of_ofSources? hsame
    rw [hjoined, Derivation.value, Derivation.valueBy, Derivation.content, List.map_map]
    rfl

/-- A line of an order, which declares its article before its position. -/
def lineNode : Json := Mapping.node [("type", .string "object")] [
  ("sku", Mapping.node [("type", .string "string"), ("external_id", .bool true)] []),
  ("position", Mapping.node [("type", .string "Integer"), ("external_id", .bool true)] [])]

def line : Json := .object [("line", lineNode)]

def lineFile : FileTree := ⟨[(["map.json"], .file line.print.toUTF8)], []⟩

theorem readText?_lineFile : lineFile.readText? "map.json" = some line.print := by
  have hlocation : lineFile.fileLocation? "map.json" = some ["map.json"] := by rfl
  have hread : lineFile.read? "map.json" = some line.print.toUTF8 := by
    rw [FileTree.read?, hlocation]
    rfl
  rw [FileTree.readText?, hread, Option.bind_some, Model.fromUTF8?_toUTF8]

theorem ofText?_line : Json.ofText? line.print = some line := by
  have hplain : line.Plain 4 := by
    simp [line, lineNode, Mapping.node, Json.Plain, Json.PlainMembers]
  exact Json.ofText?_of_writes hplain (by decide) (Json.writes_print hplain)

theorem load_lineFile : ∃ model, Model.load lineFile .mapping " -> " "map.json" = .ok model ∧
    ∃ entity ∈ model.toList, entity.name = "line" ∧
      entity.externalIdSources = ["position", "sku"] := by
  have hrun : (toModel " -> " line).map (fun model =>
      model.toList.map fun entity => (entity.name, entity.externalIdSources)) =
        .ok [("line", ["position", "sku"])] := by decide +kernel
  rw [Model.load, readText?_lineFile, ofText?_mapping ofText?_line]
  cases hmodel : toModel " -> " line with
  | error fault =>
      rw [hmodel] at hrun
      cases hrun
  | ok model =>
      rw [hmodel] at hrun
      obtain ⟨entity, hentities, heq⟩ := List.map_eq_singleton_iff.1 (Except.ok.inj hrun)
      obtain ⟨hname, hsources⟩ := Prod.mk.inj heq
      exact ⟨model, rfl, entity, hentities ▸ List.mem_singleton_self _, hname, hsources⟩

theorem declaredSources_line : declaredSources " -> " line "line" =
    [("sku", "sku"), ("position", "position")] := by decide +kernel

theorem sourcesIn_line : sourcesIn " -> " "line" "line" lineNode =
    [("sku", "sku"), ("position", "position")] := by decide +kernel

theorem keyOrdered_line : ∃ model, Model.load lineFile .mapping " -> " "map.json" = .ok model ∧
    ∃ entity ∈ model.toList, entity.name = "line" ∧
      KeyOrdered (declaredSources " -> " line "line") entity := by
  obtain ⟨model, hload, entity, hmem, hname, -⟩ := load_lineFile
  refine ⟨model, hload, entity, hmem, hname, hname ▸ ?_⟩
  exact keyOrdered_of_load hload readText?_lineFile ofText?_line (by decide +kernel) hmem
    (.top rfl (List.mem_singleton_self _))
    (by rw [hname]; exact declaredSources_line.trans sourcesIn_line.symm)

/-- All sources of the line are declared in its one node, but the position comes first. -/
theorem not_asDeclared_line : ∃ model entity,
    Model.load lineFile .mapping " -> " "map.json" = .ok model ∧
      lineFile.readText? "map.json" = some line.print ∧
      Json.ofText? line.print = some line ∧ line.hasDistinctKeys = true ∧
      entity ∈ model.toList ∧ Stands line none "line" lineNode ∧
      declaredSources " -> " line entity.name = sourcesIn " -> " entity.name "line" lineNode ∧
      columnsOf (declaredSources " -> " line entity.name) = ["sku", "position"] ∧
      entity.externalIdSources = ["position", "sku"] := by
  obtain ⟨model, hload, entity, hmem, hname, hsources⟩ := load_lineFile
  refine ⟨model, entity, hload, readText?_lineFile, ofText?_line, by decide +kernel, hmem,
    .top rfl (List.mem_singleton_self _), ?_, ?_, hsources⟩
  · rw [hname]
    exact declaredSources_line.trans sourcesIn_line.symm
  · rw [hname, declaredSources_line]
    decide +kernel

end Mapping

end EntitySchema

import OpenApiJava.Proofs.Inlining
import OpenApiJava.Proofs.LoadFaults
import OpenApiJava.Proofs.RootEntries
import OpenApiJava.Proofs.SchemaGrammar

/-!
# Keys that are not read

Reading a specification looks at few keys of its mapping at the top. Main statement: whatever stands
under any other key, the document is the same, and so is the fault if there is none. Schemas at the
top are among the keys that are looked at, and only without them are the parts of a document lifted
out of the sections.
-/

namespace OpenApiJava

namespace Document

/-- The keys at the top that are looked at. -/
def readNames (hasSchemas : Bool) : List String :=
  ["schemas", "info", "components", "paths", "servers"] ++
    if hasSchemas then ["title", "version"] else []

/-- The title and the version are those of the info, and the schemas those of the components. -/
def LiftedFrom (entries : Entries) (document : Document) : Prop :=
  ∃ info components, sectionEntries entries .info = .ok info ∧
    sectionEntries entries .components = .ok components ∧
    checkText (info.find? "title") = .valid document.title ∧
    checkText (some (versionTree (info.find? "version"))) = .valid document.version ∧
    checkNamed Schema.check (Schema.entriesFound (components.find? "schemas")) =
      .valid document.schemas

variable {entries changed : Entries} {document : Document}

/-! ## Checking -/

/-- The fields that are lifted depend on what is looked at. -/
theorem map_checkFields_lift_congr
    (same : ∀ name ∈ readNames (entries.has "schemas"), changed.find? name = entries.find? name) :
    (lift changed).map checkFields = (lift entries).map checkFields := by
  have schemas : changed.find? "schemas" = entries.find? "schemas" := same _ (by simp [readNames])
  have paths : changed.find? "paths" = entries.find? "paths" := same _ (by simp [readNames])
  have servers : changed.find? "servers" = entries.find? "servers" := same _ (by simp [readNames])
  have sameHas : changed.has "schemas" = entries.has "schemas" := by
    rw [Entries.has, schemas, Entries.has]
  cases hasSchemas : entries.has "schemas" with
  | true =>
      rw [hasSchemas] at same
      have title : changed.find? "title" = entries.find? "title" := same _ (by simp [readNames])
      have version : changed.find? "version" = entries.find? "version" :=
        same _ (by simp [readNames])
      have sameFields : checkFields changed = checkFields entries := by
        simp only [checkFields, Entries.optionalText, Entries.named, checkServers, title, version,
          schemas, paths, servers]
      simp only [lift, sameHas, hasSchemas, if_true, Except.map, sameFields]
  | false =>
      have info : changed.find? "info" = entries.find? "info" := same _ (by simp [readNames])
      have components : changed.find? "components" = entries.find? "components" :=
        same _ (by simp [readNames])
      simp only [lift, sameHas, hasSchemas, Bool.false_eq_true, if_false, sectionEntries,
        Section.name, info, components, paths, servers]

theorem ofTree_congr
    (same : ∀ name ∈ readNames (entries.has "schemas"), changed.find? name = entries.find? name) :
    ofTree (.mapping changed) = ofTree (.mapping entries) := by
  have schemas : changed.find? "schemas" = entries.find? "schemas" := same _ (by simp [readNames])
  have info : changed.find? "info" = entries.find? "info" := same _ (by simp [readNames])
  have printable : hasPrintableVersion changed = hasPrintableVersion entries := by
    simp only [hasPrintableVersion, Entries.has, sectionEntries, Section.name, schemas, info]
  rw [ofTree, ofTree, check_mapping, check_mapping, printable, map_checkFields_lift_congr same]

theorem checkText_getD_null (found : Option Tree) :
    checkText (some (found.getD .null)) = checkText found := by
  cases found <;> rfl

theorem checkNamed_of_named {α : Type} {check : Tree → Checked α} {name : String}
    {named : List (String × α)} (valid : entries.named name check = .valid named) :
    checkNamed check (Schema.entriesFound (entries.find? name)) = .valid named := by
  unfold Entries.named at valid
  split at valid
  · rename_i absent
    rw [absent]
    exact valid
  · rename_i members found
    rw [found]
    exact Checked.under_eq_valid.mp valid
  · cases valid

/-- Named values that are absent, null or empty count as none. -/
theorem checkNamed_of_named_orElse {α : Type} {check : Tree → Checked α} {name : String}
    {found : Option Tree} {named : List (String × α)}
    (isOrElse : entries.find? name = some (orElse found (.mapping [])))
    (valid : entries.named name check = .valid named) :
    checkNamed check (Schema.entriesFound found) = .valid named := by
  have checked := checkNamed_of_named valid
  rw [isOrElse] at checked
  cases found with
  | none => exact checked
  | some tree =>
      cases truthy : tree.isTruthy with
      | true => simpa only [orElse, truthy, if_true] using checked
      | false =>
          simp only [orElse, truthy, Bool.false_eq_true, if_false] at checked
          cases tree with
          | mapping members =>
              -- A mapping that counts as absent is empty, and so is what is read.
              have empty : members = [] := by simpa [Tree.isTruthy] using truthy
              subst empty
              exact checked
          | _ => exact checked

theorem liftedFrom_of_ofTree (noSchemas : entries.has "schemas" = false)
    (described : ofTree (.mapping entries) = .ok document) :
    document.LiftedFrom entries := by
  obtain ⟨_, fields, same, lifted, valid⟩ := exists_lift_of_check (check_of_ofTree described)
  cases same
  rw [lift, noSchemas] at lifted
  obtain ⟨info, isInfo, lifted⟩ := exists_ok_of_bind lifted
  obtain ⟨components, isComponents, lifted⟩ := exists_ok_of_bind lifted
  cases lifted
  simp only [checkFields, Checked.seq_eq_valid, Checked.map_eq_valid] at valid
  obtain ⟨_, servers, ⟨_, paths, ⟨_, schemas, ⟨_, version, ⟨title, titleValid, rfl⟩, versionValid,
    rfl⟩, schemasValid, rfl⟩, _, rfl⟩, _, rfl⟩ := valid
  refine ⟨info, components, isInfo, isComponents, ?_, ?_, ?_⟩
  · rw [← checkText_getD_null]
    exact Checked.under_eq_valid.mp titleValid
  · exact Checked.under_eq_valid.mp versionValid
  · exact checkNamed_of_named_orElse rfl schemasValid

end Document

/-! ## Replacing -/

/-- One change to the same value under a name has one outcome. -/
theorem Entries.find?_of_revise_congr {ε : Type} {change : Tree → Except ε Tree} {name : String}
    {entries after changed others : Entries} (revised : entries.revise name change = .ok after)
    (revisedAlso : changed.revise name change = .ok others)
    (same : changed.find? name = entries.find? name) :
    others.find? name = after.find? name := by
  have related : Revised (fun _ value result => change value = .ok result) [name] entries after :=
    .of_revise (fun _ _ => id) revised
  have relatedAlso :
      Revised (fun _ value result => change value = .ok result) [name] changed others :=
    .of_revise (fun _ _ => id) revisedAlso
  have first := related.find?_rel (List.mem_singleton_self name)
  have second := relatedAlso.find?_rel (List.mem_singleton_self name)
  rw [same] at second
  generalize entries.find? name = found, after.find? name = result,
    others.find? name = other at first second
  cases first with
  | none =>
      cases second
      rfl
  | some changes =>
      cases second with
      | some changesAlso => rw [Except.ok.inj (changes.symm.trans changesAlso)]

namespace Reference

variable {entries changed : Entries}

theorem target_eq (components : changed.find? "components" = entries.find? "components")
    {registry reference : String} (isRegistry : "#/components/".toList <+: registry.toList)
    (starts : registry.toList <+: reference.toList) :
    target (.mapping changed) reference = target (.mapping entries) reference := by
  obtain ⟨rest, isKeys⟩ := exists_keys_of_isPrefix isRegistry starts
  simp only [target, resolve, isKeys, follow, components]

theorem replaced_eq (components : changed.find? "components" = entries.find? "components")
    {registry : String} (isRegistry : "#/components/".toList <+: registry.toList) :
    replaced (.mapping changed) registry = replaced (.mapping entries) registry := by
  funext entry
  unfold replaced
  cases refers : into? registry entry with
  | none => rfl
  | some reference =>
      have starts := (into?_eq_some_iff.mp refers).2
      simp only [target_eq components isRegistry starts]

theorem replaceInPaths_eq (components : changed.find? "components" = entries.find? "components") :
    replaceInPaths (.mapping changed) = replaceInPaths (.mapping entries) := by
  have parameter := replaced_eq components isPrefix_parameterRegistry
  have body := replaced_eq components isPrefix_requestBodyRegistry
  have parameters :
      replaceParameters (.mapping changed) = replaceParameters (.mapping entries) := by
    funext tree
    cases tree <;> simp only [replaceParameters, parameter]
  have operation :
      replaceInOperation (.mapping changed) = replaceInOperation (.mapping entries) := by
    funext tree
    cases tree <;> simp only [replaceInOperation, parameters, body]
  have item : replaceInPathItem (.mapping changed) = replaceInPathItem (.mapping entries) := by
    funext tree
    cases tree <;> simp only [replaceInPathItem, operation]
  funext tree
  cases tree <;> simp only [replaceInPaths, item]

/-- Entries with the same components and the same paths come to the same fault, or to entries with
the same paths again. All other entries stay. -/
theorem replaceAll_alike (components : changed.find? "components" = entries.find? "components")
    (paths : changed.find? "paths" = entries.find? "paths") :
    (∃ fault, replaceAll entries = .error fault ∧ replaceAll changed = .error fault) ∨
      ∃ after others, replaceAll entries = .ok after ∧ replaceAll changed = .ok others ∧
        (∀ name, name ≠ "paths" → after.find? name = entries.find? name) ∧
        ∀ name, changed.find? name = entries.find? name →
          others.find? name = after.find? name := by
  have sameFault : faultOf? (replaceAll changed) = faultOf? (replaceAll entries) := by
    rw [replaceAll, replaceAll, replaceInPaths_eq components, Entries.faultOf?_revise,
      Entries.faultOf?_revise, paths]
  cases replaced : replaceAll entries with
  | error fault =>
      cases replacedAlso : replaceAll changed with
      | error other =>
          rw [replaced, replacedAlso] at sameFault
          cases sameFault
          exact .inl ⟨fault, rfl, rfl⟩
      | ok others =>
          rw [replaced, replacedAlso] at sameFault
          cases sameFault
  | ok after =>
      cases replacedAlso : replaceAll changed with
      | error other =>
          rw [replaced, replacedAlso] at sameFault
          cases sameFault
      | ok others =>
          unfold replaceAll at replaced replacedAlso
          rw [replaceInPaths_eq components] at replacedAlso
          refine .inr ⟨after, others, rfl, rfl,
            fun name notPaths => Entries.find?_of_revise notPaths replaced, fun name same => ?_⟩
          by_cases isPaths : name = "paths"
          · subst isPaths
            exact Entries.find?_of_revise_congr replaced replacedAlso same
          · rw [Entries.find?_of_revise isPaths replaced,
              Entries.find?_of_revise isPaths replacedAlso, same]

end Reference

/-! ## Reading -/

namespace Specification

/-- The mapping at the top has the key. -/
def has : Specification → String → Bool
  | plain entries, name => entries.has name
  | shared graph, name => (graph.get? graph.root name).isSome

/-- The mapping at the top does not stand in anything that is looked at in it. -/
def StandsApart : Specification → Prop
  | plain _ => True
  | shared graph =>
      ∀ name ∈ Document.readNames (shared graph |>.has "schemas"), ∀ value top,
        graph.root = .collection top → graph.get? graph.root name = some value →
        ¬ graph.Holds value top

/-- A change to one key of the mapping at the top. A graph may have collections that nothing holds
yet, so that any value can come under the key. -/
inductive KeyChanges (key : Tree) : Specification → Specification → Prop
  | plain {entries changed : Entries} :
      OpenApiJava.KeyChanges key entries changed → KeyChanges key (.plain entries) (.plain changed)
  | shared {graph : Graph} {top : Nat} {entries changed : List (Tree × Graph.Value)} :
      graph.root = .collection top → graph.collections[top]? = some (.mapping entries) →
      OpenApiJava.KeyChanges key entries changed →
      KeyChanges key (.shared graph) (.shared (graph.put top (.mapping changed)))

/-- Both come to the same fault, or to entries with the same values under what is looked at. -/
theorem replaced_of_keyChanges {key : Tree} {specification changed : Specification}
    (changes : specification.KeyChanges key changed)
    (unread : ∀ name ∈ Document.readNames (specification.has "schemas"), key ≠ .text name)
    (apart : specification.StandsApart) :
    (∃ fault, specification.replaced = .error fault ∧ changed.replaced = .error fault) ∨
      ∃ entries others : Entries, specification.replaced = .ok (.mapping entries) ∧
        changed.replaced = .ok (.mapping others) ∧
        entries.has "schemas" = specification.has "schemas" ∧
        ∀ name ∈ Document.readNames (specification.has "schemas"),
          others.find? name = entries.find? name := by
  cases changes with
  | @plain entries changed changes =>
      have same : ∀ name ∈ Document.readNames (Entries.has entries "schemas"),
          Entries.find? name changed = Entries.find? name entries :=
        fun name isRead => changes.findNamed?_eq (unread name isRead)
      have components := same "components" (by simp [Document.readNames])
      have paths := same "paths" (by simp [Document.readNames])
      obtain ⟨fault, failed, failedAlso⟩ | ⟨after, others, replaced, replacedAlso, stays, alike⟩ :=
        Reference.replaceAll_alike components paths
      · exact .inl ⟨fault, congrArg (Except.map Tree.mapping) failed,
          congrArg (Except.map Tree.mapping) failedAlso⟩
      · refine .inr ⟨after, others, congrArg (Except.map Tree.mapping) replaced,
          congrArg (Except.map Tree.mapping) replacedAlso, ?_,
          fun name isRead => alike name (same name isRead)⟩
        rw [Entries.has, stays "schemas" (by decide)]
        rfl
  | @shared graph top entries changed isRoot isTop changes =>
      have found := Graph.get?_root_eq isRoot isTop
      have same : ∀ name ∈ Document.readNames (has (.shared graph) "schemas"),
          findNamed? name changed = findNamed? name entries :=
        fun name isRead => changes.findNamed?_eq (unread name isRead)
      have apart : ∀ name ∈ Document.readNames (has (.shared graph) "schemas"), ∀ value,
          findNamed? name entries = some value → ¬ graph.Holds value top :=
        fun name isRead value isValue =>
          apart name isRead value top isRoot ((found name).trans isValue)
      obtain ⟨fault, failed, failedAlso⟩ | ⟨after, others, replaced, replacedAlso, stays, alike⟩ :=
        Graph.replaceAll_put isRoot isTop same apart (by simp [Document.readNames])
          (by simp [Document.readNames])
      · exact .inl ⟨fault, congrArg (Except.map Graph.tree) failed,
          congrArg (Except.map Graph.tree) failedAlso⟩
      · refine .inr ⟨after, others, replaced, replacedAlso, ?_, alike⟩
        rw [Entries.has, stays, has, found]

end Specification

namespace Document

/-- What stands under a key that is not looked at changes neither the document nor the fault. -/
theorem ofSpecification_of_keyChanges {key : Tree} {specification changed : Specification}
    (changes : specification.KeyChanges key changed)
    (unread : ∀ name ∈ readNames (specification.has "schemas"), key ≠ .text name)
    (apart : specification.StandsApart) :
    ofSpecification changed = ofSpecification specification ∧
      (specification.has "schemas" = false →
        ∀ document, ofSpecification specification = .ok document →
          ∃ entries, specification.replaced = .ok (.mapping entries) ∧
            document.LiftedFrom entries) := by
  rw [ofSpecification_eq, ofSpecification_eq]
  obtain ⟨fault, failed, failedAlso⟩ | ⟨entries, others, replaced, replacedAlso, sameHas, same⟩ :=
    Specification.replaced_of_keyChanges changes unread apart
  · rw [failed, failedAlso]
    exact ⟨rfl, fun _ document described => nomatch described⟩
  · rw [replaced, replacedAlso]
    rw [← sameHas] at same ⊢
    exact ⟨ofTree_congr same, fun noSchemas document described =>
      ⟨entries, rfl, liftedFrom_of_ofTree noSchemas described⟩⟩

end Document

/-- Entries of a mapping at the top that stands under a key of its own. -/
def knottedEntries : List (Tree × Graph.Value) :=
  [(.text "info", .collection 1), (.text "x-self", .collection 0)]

def knottedPets : Graph :=
  { collections := #[.mapping knottedEntries, .mapping [(.text "title", .leaf (.text "Pets"))]]
    root := .collection 0 }

def untiedEntries : List (Tree × Graph.Value) :=
  [(.text "info", .collection 1), (.text "x-self", .leaf (.text "none"))]

theorem eq_of_holds_knottedPets {value : Graph.Value} {number : Nat}
    (holds : knottedPets.Holds value number) (isTop : number = 0) :
    value = .collection 0 := by
  induction holds with
  | here => rw [isTop]
  | @inside outer number collection value found isInner _ inductionHypothesis =>
      obtain rfl := inductionHypothesis isTop
      match outer with
      | 0 => rfl
      | 1 =>
          cases found
          simp [knottedPets, Graph.Collection.values] at isInner
      | _ + 2 => cases found

theorem standsApart_knottedPets : (Specification.shared knottedPets).StandsApart := by
  intro name isRead value top isRoot found holds
  cases isRoot
  obtain rfl := eq_of_holds_knottedPets holds rfl
  have isKey : (.text name, .collection 0) ∈ knottedEntries := mem_of_findNamed? found
  simp only [knottedEntries, List.mem_cons, Prod.mk.injEq, Tree.text.injEq,
    Graph.Value.collection.injEq, Nat.zero_ne_one, and_false, and_true, List.not_mem_nil, or_false,
    false_or] at isKey
  subst isKey
  have isRead : "x-self" ∈ Document.readNames false := isRead
  exact absurd isRead (by decide)

theorem knottedPets_of_keyChanges :
    (Specification.shared knottedPets).KeyChanges (.text "x-self")
        (.shared (knottedPets.put 0 (.mapping untiedEntries))) ∧
      (Specification.shared knottedPets).StandsApart ∧
      Document.ofSpecification (.shared (knottedPets.put 0 (.mapping untiedEntries))) =
        Document.ofSpecification (.shared knottedPets) := by
  have entriesChange : KeyChanges (.text "x-self") knottedEntries untiedEntries :=
    .put (Graph.Value.leaf (.text "none"))
  have changes : (Specification.shared knottedPets).KeyChanges (.text "x-self")
      (.shared (knottedPets.put 0 (.mapping untiedEntries))) :=
    .shared rfl rfl entriesChange
  have noSchemas : (Specification.shared knottedPets).has "schemas" = false := rfl
  have unread : ∀ name ∈ Document.readNames ((Specification.shared knottedPets).has "schemas"),
      Tree.text "x-self" ≠ .text name := by
    rw [noSchemas]
    simp [Document.readNames]
  exact ⟨changes, standsApart_knottedPets,
    (Document.ofSpecification_of_keyChanges changes unread standsApart_knottedPets).1⟩

/-- A specification with schemas at the top and in the components. -/
def catsOverPets : Entries :=
  [(.text "schemas", .mapping [(.text "Cat", .mapping [(.text "type", .text "object")])]),
    (.text "info", .mapping [(.text "title", .text "Pets"), (.text "version", .text "1")]),
    (.text "components", .mapping [
      (.text "schemas", .mapping [(.text "Pet", .mapping [(.text "type", .text "object")])])])]

def loopedEntries : List (Tree × Graph.Value) :=
  [(.text "name", .leaf (.text "limit")), (.text "components", .collection 1),
    (.text "paths", .collection 3)]

/-- The mapping at the top is one of its own parameters. -/
def loopedPets : Graph :=
  { collections := #[
      .mapping loopedEntries,
      .mapping [(.text "parameters", .collection 2)],
      .mapping [(.text "Limit", .collection 0)],
      .mapping [(.text "/pets", .collection 4)],
      .mapping [(.text "get", .collection 5)],
      .mapping [(.text "parameters", .collection 6)],
      .list [.collection 7],
      .mapping [(.text "$ref", .leaf (.text "#/components/parameters/Limit"))]]
    root := .collection 0 }

/-- Schemas at the top count, and a title beside them. A key of no meaning at the top counts if the
mapping at the top stands where something is looked at. -/
theorem keys_at_top_matter :
    Document.ofSpecification (.plain (withoutKey (.text "schemas") catsOverPets)) ≠
        Document.ofSpecification (.plain catsOverPets) ∧
      Document.ofSpecification (.plain (putEntry catsOverPets (.text "title") (.text "Cats"))) ≠
        Document.ofSpecification (.plain catsOverPets) ∧
      Document.ofSpecification
          (.shared (loopedPets.put 0 (.mapping (withoutKey (.text "name") loopedEntries)))) ≠
        Document.ofSpecification (.shared loopedPets) := by
  refine ⟨fun same => ?_, fun same => ?_, fun same => ?_⟩
  · have titles := congrArg (fun result => result.toOption.map Document.title) same
    cases titles
  · have titles := congrArg (fun result => result.toOption.map Document.title) same
    cases titles
  · have described := congrArg (fun result => result.toOption.isSome) same
    cases described

end OpenApiJava

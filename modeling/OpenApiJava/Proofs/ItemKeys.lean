import OpenApiJava.Proofs.MethodKeys
import OpenApiJava.Proofs.UnreadKeys

/-!
# Keys of path items

Of a path item, only what stands under the keys of the four methods becomes calls. Main statement:
from trees that differ in nothing but the other keys of path items, and in the order of all their
keys, come documents with the same calls and the same relative URLs.
-/

namespace OpenApiJava

variable {α : Type}

/-- The keys of a path item, each of which it has once, stand in another order, or a text that is no
key of a method gets a value. -/
inductive ItemKeysChange (entries : List (Tree × α)) : List (Tree × α) → Prop
  | reorder {changed : List (Tree × α)} :
      (entries.map Prod.fst).Nodup → entries.Perm changed → ItemKeysChange entries changed
  | put {name : String} (value : α) :
      PathItem.isMethodKey name = false →
      ItemKeysChange entries (putEntry entries (.text name) value)

def HaveTextKeys (entries : List (Tree × α)) : Prop :=
  ∀ entry ∈ entries, ∃ name, entry.1 = .text name

/-- The entries have the same values under the keys of methods, and again nothing but texts as
keys. -/
structure SameMethods (entries changed : List (Tree × α)) : Prop where
  same : ∀ method : HttpMethod, findNamed? method.key changed = findNamed? method.key entries
  keys : HaveTextKeys entries → HaveTextKeys changed

/-! ## Entries of a path item -/

theorem haveTextKeys_putEntry {entries : List (Tree × α)} (textKeys : HaveTextKeys entries)
    (name : String) (value : α) :
    HaveTextKeys (putEntry entries (.text name) value) := by
  induction entries with
  | nil => exact List.forall_mem_singleton.mpr ⟨name, rfl⟩
  | cons entry rest inductionHypothesis =>
      obtain ⟨isText, restText⟩ := List.forall_mem_cons.mp textKeys
      rw [putEntry]
      split
      · exact List.forall_mem_cons.mpr ⟨isText, restText⟩
      · exact List.forall_mem_cons.mpr ⟨isText, inductionHypothesis restText⟩

theorem PathItem.isMethodKey_key (method : HttpMethod) : isMethodKey method.key = true := by
  cases method <;> decide

theorem ItemKeysChange.sameMethods {entries changed : List (Tree × α)}
    (changes : ItemKeysChange entries changed) :
    SameMethods entries changed := by
  cases changes with
  | reorder distinct reordered =>
      refine ⟨fun method => findNamed?_eq_of_perm distinct reordered method.key, ?_⟩
      exact fun textKeys entry member => textKeys entry (reordered.mem_iff.mpr member)
  | @put name value notMethod =>
      refine ⟨fun method => ?_, fun textKeys => haveTextKeys_putEntry textKeys name value⟩
      have different : Tree.text name ≠ .text method.key := by
        intro same
        rw [Tree.text.inj same, PathItem.isMethodKey_key] at notMethod
        cases notMethod
      exact findNamed?_putEntry different entries value

theorem sameMethods_refl (entries : List (Tree × α)) : SameMethods entries entries :=
  ⟨fun _ => rfl, id⟩

/-! ## Checks of path items -/

namespace PathItem

/-- The same operations, whatever the other entries are. -/
def SameOperations (item other : PathItem) : Prop :=
  ∀ method, other.operation? method = item.operation? method

theorem exists_checkExtras_iff {entries : Entries} :
    (∃ extras, checkExtras entries = .valid extras) ↔ HaveTextKeys entries := by
  induction entries with
  | nil => exact iff_of_true ⟨[], rfl⟩ (List.forall_mem_nil _)
  | cons entry rest inductionHypothesis =>
      obtain ⟨key, value⟩ := entry
      rw [HaveTextKeys, List.forall_mem_cons, ← HaveTextKeys, ← inductionHypothesis]
      cases key with
      | text name =>
          rw [checkExtras]
          split
          · simp
          · simp
      | _ => simp [checkExtras, Checked.fault, Checked.under]

theorem check_of_sameMethods {entries changed : Entries} {item : PathItem}
    (same : SameMethods entries changed) (valid : check (.mapping entries) = .valid item) :
    ∃ other, check (.mapping changed) = .valid other ∧ item.SameOperations other := by
  obtain ⟨operations, extrasValid⟩ := checks_of_valid valid
  have textKeys : HaveTextKeys entries := exists_checkExtras_iff.mp ⟨_, extrasValid⟩
  obtain ⟨extras, extrasAlso⟩ := exists_checkExtras_iff.mpr (same.keys textKeys)
  have operationsAlso : ∀ method, checkMethod changed method = .valid (item.operation? method) := by
    intro method
    rw [← operations method]
    simp only [checkMethod, Entries.optional, Entries.find?, same.same method]
  refine ⟨{ item with extras := extras }, ?_, fun method => by cases method <;> rfl⟩
  simp only [check, operationsAlso, extrasAlso]
  rfl

theorem operations_eq {item other : PathItem} (same : item.SameOperations other) :
    other.operations = item.operations := by
  simp only [operations, same _]

end PathItem

theorem Endpoint.ofPathItem_eq {item other : PathItem} (same : item.SameOperations other)
    (path : String) :
    ofPathItem path other = ofPathItem path item := by
  rw [ofPathItem, ofPathItem, PathItem.operations_eq same]

theorem UrlConstant.ofPath_eq {item other : PathItem} (same : item.SameOperations other)
    (path : String) :
    ofPath path other = ofPath path item := by
  rw [ofPath, ofPath, summary?, summary?, PathItem.operations_eq same]

/-! ## Checks of named values -/

section Named

variable {β : Type} {relation : α → β → Prop}

/-- The same names in the same order, with related values. -/
def AlikeNamed (relation : α → β → Prop) : List (String × α) → List (String × β) → Prop :=
  List.Forall₂ fun entry other => other.1 = entry.1 ∧ relation entry.2 other.2

theorem AlikeNamed.lookup_rel {named : List (String × α)} {others : List (String × β)}
    (alike : AlikeNamed relation named others) (name : String) :
    Option.Rel relation (named.lookup name) (others.lookup name) := by
  induction alike with
  | nil => exact .none
  | @cons entry other rest othersRest related _ inductionHypothesis =>
      obtain ⟨key, value⟩ := entry
      obtain ⟨sameKey, result⟩ := other
      obtain rfl : sameKey = key := related.1
      rw [List.lookup_cons, List.lookup_cons]
      cases name == sameKey with
      | true => exact .some related.2
      | false => exact inductionHypothesis

theorem AlikeNamed.filter {named : List (String × α)} {others : List (String × β)}
    (alike : AlikeNamed relation named others) (kept : String → Bool) :
    AlikeNamed relation (named.filter fun entry => kept entry.1)
      (others.filter fun entry => kept entry.1) := by
  induction alike with
  | nil => exact .nil
  | @cons entry other rest othersRest related _ inductionHypothesis =>
      rw [List.filter_cons, List.filter_cons, related.1]
      split
      · exact .cons related inductionHypothesis
      · exact inductionHypothesis

theorem AlikeNamed.consNamed {named : List (String × α)} {others : List (String × β)}
    (alike : AlikeNamed relation named others) (name : String) {value : α} {result : β}
    (related : relation value result) :
    AlikeNamed relation (consNamed name value named) (consNamed name result others) := by
  unfold OpenApiJava.consNamed
  have lookup := alike.lookup_rel name
  generalize named.lookup name = found, others.lookup name = foundAlso at lookup
  cases lookup with
  | none => exact .cons ⟨rfl, related⟩ alike
  | some laterRelated => exact .cons ⟨rfl, laterRelated⟩ (alike.filter (· != name))

/-- The second tree is valid if the first one is, and their values are related. -/
def ValidAlike (check : Tree → Checked α) (relation : α → α → Prop) (tree other : Tree) : Prop :=
  ∀ value, check tree = .valid value → ∃ result, check other = .valid result ∧ relation value result

theorem checkNamed_alike {check : Tree → Checked α} {relation : α → α → Prop}
    {members others : Entries} {named : List (String × α)}
    (alike : List.Forall₂
      (fun member other => other.1 = member.1 ∧ ValidAlike check relation member.2 other.2)
      members others)
    (valid : checkNamed check members = .valid named) :
    ∃ namedAlso, checkNamed check others = .valid namedAlso ∧
      AlikeNamed relation named namedAlso := by
  induction alike generalizing named with
  | nil =>
      cases valid
      exact ⟨[], rfl, .nil⟩
  | @cons member other rest othersRest related _ inductionHypothesis =>
      obtain ⟨key, tree⟩ := member
      obtain ⟨_, treeAlso⟩ := other
      obtain ⟨rfl, treesAlike⟩ := related
      obtain ⟨name, value, restNamed, isName, isValue, restValid, rfl⟩ :=
        checkNamed_cons_eq_valid_iff.mp valid
      obtain ⟨result, isResult, valueRelated⟩ := treesAlike value isValue
      obtain ⟨restAlso, restAlsoValid, restAlike⟩ := inductionHypothesis restValid
      refine ⟨consNamed name result restAlso, ?_, restAlike.consNamed name valueRelated⟩
      exact checkNamed_cons_eq_valid_iff.mpr
        ⟨name, result, restAlso, isName, isResult, restAlsoValid, rfl⟩

end Named

theorem Endpoint.ofPaths_eq {paths others : List (String × PathItem)}
    (alike : AlikeNamed PathItem.SameOperations paths others) :
    ofPaths others = ofPaths paths := by
  unfold ofPaths
  induction alike with
  | nil => rfl
  | cons related _ inductionHypothesis =>
      rw [List.flatMap_cons, List.flatMap_cons, inductionHypothesis, related.1,
        ofPathItem_eq related.2]

theorem UrlConstant.ofPaths_eq {paths others : List (String × PathItem)}
    (alike : AlikeNamed PathItem.SameOperations paths others) :
    ofPaths others = ofPaths paths := by
  unfold ofPaths
  induction alike with
  | nil => rfl
  | cons related _ inductionHypothesis =>
      rw [List.map_cons, List.map_cons, inductionHypothesis, related.1, ofPath_eq related.2]

/-! ## Checks of documents -/

/-- Two mappings with the same methods, or two trees that are no mappings. -/
inductive Tree.SameItem : Tree → Tree → Prop
  | mapping {entries changed : Entries} :
      SameMethods entries changed → SameItem (.mapping entries) (.mapping changed)
  | other {item other : Tree} :
      (∀ entries, item ≠ .mapping entries) → (∀ entries, other ≠ .mapping entries) →
      SameItem item other

/-- Path items under the same keys in the same order, with the same methods. -/
def Entries.SameItems : Entries → Entries → Prop :=
  List.Forall₂ fun member other => other.1 = member.1 ∧ Tree.SameItem member.2 other.2

/-- The same under all that is looked at, but for the paths; and these have the same path items. -/
structure Entries.SameButItems (entries changed : Entries) (members others : Entries) : Prop where
  same : ∀ name ∈ Document.readNames (entries.has "schemas"), name ≠ "paths" →
    changed.find? name = entries.find? name
  paths : entries.find? "paths" = some (.mapping members)
  pathsAlso : changed.find? "paths" = some (.mapping others)
  items : members.SameItems others

theorem Tree.sameItem_refl (item : Tree) : item.SameItem item := by
  cases item with
  | mapping entries => exact .mapping (sameMethods_refl entries)
  | _ => exact .other nofun nofun

theorem Entries.sameItems_refl (members : Entries) : members.SameItems members :=
  List.forall₂_same.mpr fun member _ => ⟨rfl, Tree.sameItem_refl member.2⟩

theorem Tree.SameItem.validAlike {item other : Tree} (same : item.SameItem other) :
    ValidAlike PathItem.check PathItem.SameOperations item other := by
  intro value valid
  cases same with
  | mapping methods => exact PathItem.check_of_sameMethods methods valid
  | other notMapping _ =>
      cases item with
      | mapping entries => exact absurd rfl (notMapping entries)
      | _ => cases valid

namespace Document

/-- The same calls and the same relative URLs. -/
structure SameCalls (document other : Document) : Prop where
  endpoints : other.endpoints = document.endpoints
  urls : UrlConstant.ofPaths other.paths = UrlConstant.ofPaths document.paths

theorem SameCalls.trans {first second third : Document} (front : first.SameCalls second)
    (back : second.SameCalls third) :
    first.SameCalls third :=
  ⟨back.endpoints.trans front.endpoints, back.urls.trans front.urls⟩


variable {entries changed members others fields fieldsAlso : Entries} {document : Document}

theorem checkFields_of_sameItems
    (same : ∀ name ∈ ["title", "version", "schemas", "servers"],
      fieldsAlso.find? name = fields.find? name)
    (paths : fields.find? "paths" = some (.mapping members))
    (pathsAlso : fieldsAlso.find? "paths" = some (.mapping others))
    (items : members.SameItems others) (valid : checkFields fields = .valid document) :
    ∃ other, checkFields fieldsAlso = .valid other ∧ document.SameCalls other := by
  simp only [List.forall_mem_cons, List.not_mem_nil, false_implies, implies_true, and_true] at same
  obtain ⟨title, version, schemas, servers⟩ := same
  simp only [checkFields, Checked.seq_eq_valid, Checked.map_eq_valid] at valid ⊢
  obtain ⟨_, isServers, ⟨_, isPaths, ⟨_, isSchemas, ⟨_, isVersion, ⟨isTitle, titleValid, rfl⟩,
    versionValid, rfl⟩, schemasValid, rfl⟩, pathsValid, rfl⟩, serversValid, rfl⟩ := valid
  simp only [Entries.named, paths, Checked.under_eq_valid] at pathsValid
  have itemsAlike := items.imp fun _ _ related => And.imp_right Tree.SameItem.validAlike related
  obtain ⟨pathsAlike, pathsAlikeValid, alike⟩ := checkNamed_alike itemsAlike pathsValid
  have titleAlso : fieldsAlso.optionalText "title" = .valid isTitle := by
    rw [← titleValid, Entries.optionalText, Entries.optionalText, title]
  have versionAlso : fieldsAlso.optionalText "version" = .valid isVersion := by
    rw [← versionValid, Entries.optionalText, Entries.optionalText, version]
  have schemasAlso : fieldsAlso.named "schemas" Schema.check = .valid isSchemas := by
    rw [← schemasValid, Entries.named, Entries.named, schemas]
  have pathsAreAlso : fieldsAlso.named "paths" PathItem.check = .valid pathsAlike := by
    simp only [Entries.named, pathsAlso, Checked.under_eq_valid, pathsAlikeValid]
  have serversAlso : checkServers fieldsAlso = .valid isServers := by
    rw [← serversValid, checkServers, checkServers, servers]
  exact ⟨_, ⟨_, isServers, ⟨_, pathsAlike, ⟨_, isSchemas, ⟨_, isVersion, ⟨isTitle, titleAlso, rfl⟩,
    versionAlso, rfl⟩, schemasAlso, rfl⟩, pathsAreAlso, rfl⟩, serversAlso, rfl⟩,
    ⟨Endpoint.ofPaths_eq alike, UrlConstant.ofPaths_eq alike⟩⟩

/-- Paths that are lifted are a mapping, an empty one too. -/
theorem orElse_mapping (members : Entries) :
    orElse (some (.mapping members)) (.mapping []) = .mapping members := by
  cases members <;> rfl

theorem lift_of_sameButItems (same : Entries.SameButItems entries changed members others)
    (lifted : lift entries = .ok fields) :
    ∃ fieldsAlso, lift changed = .ok fieldsAlso ∧
      (∀ name ∈ ["title", "version", "schemas", "servers"],
        fieldsAlso.find? name = fields.find? name) ∧
      fields.find? "paths" = some (.mapping members) ∧
      fieldsAlso.find? "paths" = some (.mapping others) := by
  obtain ⟨same, paths, pathsAlso, _⟩ := same
  have schemas : changed.find? "schemas" = entries.find? "schemas" :=
    same _ (by simp [readNames]) (by decide)
  have servers : changed.find? "servers" = entries.find? "servers" :=
    same _ (by simp [readNames]) (by decide)
  have sameHas : changed.has "schemas" = entries.has "schemas" := by
    rw [Entries.has, schemas, Entries.has]
  unfold lift at lifted ⊢
  rw [sameHas]
  cases hasSchemas : entries.has "schemas" with
  | true =>
      rw [hasSchemas] at same
      rw [hasSchemas, if_pos rfl] at lifted
      obtain rfl := Except.ok.inj lifted
      refine ⟨changed, rfl, ?_, paths, pathsAlso⟩
      intro name isField
      refine same name ?_ ?_
      · revert name
        decide
      · revert name
        decide
  | false =>
      have sections : ∀ part, sectionEntries changed part = sectionEntries entries part := by
        intro part
        have found : changed.find? part.name = entries.find? part.name := by
          cases part with
          | info => exact same "info" (by simp [readNames]) (by decide)
          | components => exact same "components" (by simp [readNames]) (by decide)
        rw [sectionEntries, sectionEntries, found]
      rw [hasSchemas, if_neg (by decide)] at lifted
      obtain ⟨infoEntries, isInfo, lifted⟩ := exists_ok_of_bind lifted
      obtain ⟨componentEntries, isComponents, lifted⟩ := exists_ok_of_bind lifted
      obtain rfl := Except.ok.inj lifted
      rw [if_neg (by decide), sections, isInfo, sections, isComponents]
      refine ⟨_, rfl, ?_, ?_, ?_⟩
      · rw [servers]
        intro name isField
        revert name
        simp [Entries.find?, findNamed?]
      · rw [paths, orElse_mapping]
        rfl
      · rw [pathsAlso, orElse_mapping]
        rfl

theorem check_of_sameButItems (same : Entries.SameButItems entries changed members others)
    (accepted : check (.mapping entries) = .ok (.valid document)) :
    ∃ other, check (.mapping changed) = .ok (.valid other) ∧ document.SameCalls other := by
  have printable : hasPrintableVersion changed = hasPrintableVersion entries := by
    simp only [hasPrintableVersion, Entries.has, sectionEntries, Section.name,
      same.same "schemas" (by simp [readNames]) (by decide),
      same.same "info" (by simp [readNames]) (by decide)]
  rw [check_mapping] at accepted
  rw [check_mapping, printable]
  cases isPrintable : hasPrintableVersion entries with
  | false =>
      rw [isPrintable] at accepted
      cases accepted
  | true =>
      rw [isPrintable, if_pos rfl] at accepted
      cases lifted : lift entries with
      | error part =>
          rw [lifted] at accepted
          cases accepted
      | ok fields =>
          rw [lifted] at accepted
          have valid := Except.ok.inj accepted
          obtain ⟨fieldsAlso, liftedAlso, sameFields, paths, pathsAlso⟩ :=
            lift_of_sameButItems same lifted
          obtain ⟨other, validAlso, sameCalls⟩ :=
            checkFields_of_sameItems sameFields paths pathsAlso same.items valid
          refine ⟨other, ?_, sameCalls⟩
          rw [liftedAlso, if_pos rfl, Except.map, validAlso]

end Document

end OpenApiJava

import OpenApiJava.Proofs.SchemaFields

/-!
# The grammar of schemas

Which trees describe a schema, and what is said of those that do not. Main statement: the check
accepts exactly the trees of the grammar, keeps the properties in the order of their entries, and
reports exactly the places of a tree whose values are of the wrong kind.
-/

namespace OpenApiJava

/-! ## Kinds of values -/

namespace Tree

/-- A text, or bytes that encode one. -/
def IsText (tree : Tree) : Prop :=
  ∃ text, tree.asText? = some text

def IsTextOrNull (tree : Tree) : Prop :=
  tree = .null ∨ tree.IsText

/-- A text or null, or a list of types. What counts of a list is the first type other than the text
`null`; there may be none. -/
inductive NamesType : Tree → Prop
  | plain {tree : Tree} : tree.IsTextOrNull → NamesType tree
  | nulls {types : List Tree} : (∀ type ∈ types, type = .text "null") → NamesType (.list types)
  | first {front rest : List Tree} {type : Tree} :
      (∀ other ∈ front, other = .text "null") → type ≠ .text "null" → type.IsTextOrNull →
      NamesType (.list (front ++ type :: rest))

end Tree

/-- A kind of place in a schema. -/
inductive Place where
  | schema
  | type
  | text
  | properties
  | name
deriving DecidableEq, Repr

namespace Place

/-- The value is of the kind that belongs at the place. -/
def Fits : Place → Tree → Prop
  | schema, tree => ∃ entries, tree = .mapping entries
  | type, tree => tree.NamesType
  | text, tree => tree.IsTextOrNull
  | properties, tree => tree.isTruthy = true → ∃ members, tree = .mapping members
  | name, tree => tree.IsText

/-- What is wrong with a tree that is no text. -/
def textFault : Tree → IssueKind
  | .binary _ => .notEncoded
  | _ => .notText

/-- What is wrong with a value that does not fit. -/
def fault : Place → Tree → IssueKind
  | schema, _ => .notRecord
  | type, tree => textFault ((Schema.typeOf (some tree)).getD .null)
  | text, tree => textFault tree
  | properties, _ => .notMapping
  | name, tree => textFault tree

end Place

namespace Schema

/-- The fields that hold a text. -/
def textFields (entries : Entries) : List String :=
  ["format", entries.spelling "$ref" "reference", "description"]

/-! ## Grammar -/

/-- A mapping whose fields are of their kinds. Items are described by a schema unless they are null
or a list; every property has a name and is described by a schema. -/
inductive Accepts : Tree → Prop
  | mapping {entries : Entries}
      (type : ∀ tree, entries.find? "type" = some tree → tree.NamesType)
      (texts : ∀ field ∈ textFields entries, ∀ tree, entries.find? field = some tree →
        tree.IsTextOrNull)
      (items : ∀ tree, entries.find? "items" = some tree → tree ≠ .null →
        (∀ items, tree ≠ .list items) → Accepts tree)
      (isMapping : ∀ tree, entries.find? "properties" = some tree → tree.isTruthy = true →
        ∃ members, tree = .mapping members)
      (names : ∀ members, entries.find? "properties" = some (.mapping members) →
        ∀ member ∈ members, member.1.IsText)
      (properties : ∀ members, entries.find? "properties" = some (.mapping members) →
        ∀ member ∈ members, Accepts member.2) :
      Accepts (.mapping entries)

/-- The location leads from a schema to a value at a place in it. The name of a property is found
behind the step to the property. -/
inductive At : Tree → List Step → Place → Tree → Prop
  | here (tree : Tree) : At tree [] .schema tree
  | type {entries : Entries} {value : Tree} :
      entries.find? "type" = some value → At (.mapping entries) [.key "type"] .type value
  | text {entries : Entries} {field : String} {value : Tree} :
      field ∈ textFields entries → entries.find? field = some value →
      At (.mapping entries) [.key field] .text value
  | items {entries : Entries} {next value : Tree} {location : List Step} {place : Place} :
      entries.find? "items" = some next → next ≠ .null → (∀ items, next ≠ .list items) →
      At next location place value → At (.mapping entries) (.key "items" :: location) place value
  | properties {entries : Entries} {value : Tree} :
      entries.find? "properties" = some value →
      At (.mapping entries) [.key "properties"] .properties value
  | name {entries members : Entries} {member : Tree × Tree} :
      entries.find? "properties" = some (.mapping members) → member ∈ members →
      At (.mapping entries) [.key "properties", Step.ofKey member.1, .key "[key]"] .name member.1
  | property {entries members : Entries} {member : Tree × Tree} {value : Tree}
      {location : List Step} {place : Place} :
      entries.find? "properties" = some (.mapping members) → member ∈ members →
      At member.2 location place value →
      At (.mapping entries) (.key "properties" :: Step.ofKey member.1 :: location) place value

/-- The issue names a place of the tree whose value does not fit, and what is wrong with it. -/
def Offends (tree : Tree) (issue : Issue) : Prop :=
  ∃ place value, At tree issue.location place value ∧ ¬ place.Fits value ∧
    issue.kind = place.fault value

end Schema

/-! ## Reports -/

/-- The issue of a part as an issue of the whole. -/
def Issue.under (step : Step) (issue : Issue) : Issue :=
  { issue with location := step :: issue.location }

namespace Checked

variable {α β : Type} {First Second : Issue → Prop}

/-- The check is valid if nothing offends, and otherwise reports exactly what offends. -/
def Reports : Checked α → (Issue → Prop) → Prop
  | valid _, Offends => ∀ issue, ¬ Offends issue
  | invalid issues, Offends => issues ≠ [] ∧ ∀ issue, issue ∈ issues ↔ Offends issue

theorem Reports.congr {checked : Checked α} (reports : checked.Reports First)
    (same : ∀ issue, First issue ↔ Second issue) :
    checked.Reports Second := by
  have equal : First = Second := funext fun issue => propext (same issue)
  rwa [← equal]

theorem reports_fault (kind : IssueKind) :
    (fault kind : Checked α).Reports fun issue => issue = ⟨kind, []⟩ :=
  ⟨List.cons_ne_nil _ _, fun _ => List.mem_singleton⟩

theorem Reports.map {checked : Checked α} {function : α → β} (reports : checked.Reports First) :
    (function <$> checked).Reports First := by
  cases checked <;> exact reports

theorem Reports.seq {function : Checked (α → β)} {argument : Checked α}
    (first : function.Reports First) (second : argument.Reports Second) :
    (function <*> argument).Reports fun issue => First issue ∨ Second issue := by
  cases function with
  | valid apply =>
      have none : ∀ issue, ¬ First issue := first
      cases argument with
      | valid value => exact fun issue offends => offends.elim (none issue) (second issue)
      | invalid issues =>
          exact ⟨second.1, fun issue => (second.2 issue).trans (or_iff_right (none issue)).symm⟩
  | invalid issues =>
      cases argument with
      | valid value =>
          have none : ∀ issue, ¬ Second issue := second
          exact ⟨first.1, fun issue => (first.2 issue).trans (or_iff_left (none issue)).symm⟩
      | invalid more =>
          refine ⟨fun empty => first.1 (List.append_eq_nil_iff.mp empty).1, fun issue => ?_⟩
          rw [List.mem_append, first.2 issue, second.2 issue]

theorem Reports.under {checked : Checked α} (reports : checked.Reports First) (step : Step) :
    (checked.under step).Reports fun issue => ∃ inner, First inner ∧ issue = inner.under step := by
  cases checked with
  | valid value =>
      rintro issue ⟨inner, offends, _⟩
      exact reports inner offends
  | invalid issues =>
      refine ⟨fun empty => reports.1 (List.map_eq_nil_iff.mp empty), fun issue => ?_⟩
      simp only [List.mem_map, reports.2]
      exact exists_congr fun inner => and_congr_right fun _ => eq_comm

end Checked

theorem reports_checkPlainText (tree : Tree) :
    (checkPlainText tree).Reports fun issue =>
      ¬ tree.IsText ∧ issue = ⟨Place.textFault tree, []⟩ := by
  unfold checkPlainText
  cases isText : tree.asText? with
  | some text =>
      rintro issue ⟨notText, _⟩
      exact notText ⟨text, isText⟩
  | none =>
      have notText : ¬ tree.IsText := by
        rintro ⟨text, spelled⟩
        cases isText.symm.trans spelled
      cases tree <;>
        exact (Checked.reports_fault _).congr fun issue => (and_iff_right notText).symm

theorem reports_checkText (found : Option Tree) :
    (checkText found).Reports fun issue =>
      ∃ tree, found = some tree ∧ ¬ tree.IsTextOrNull ∧ issue = ⟨Place.textFault tree, []⟩ := by
  unfold checkText
  split
  · rintro issue ⟨_, isFound, _⟩
    cases isFound
  · rintro issue ⟨tree, isFound, notText, _⟩
    exact notText (.inl (Option.some.inj isFound).symm)
  · rename_i tree notNull
    refine (reports_checkPlainText tree).map.congr fun issue => ?_
    constructor
    · rintro ⟨notText, same⟩
      exact ⟨tree, rfl, fun fits => fits.elim notNull notText, same⟩
    · rintro ⟨_, isFound, notText, same⟩
      cases isFound
      exact ⟨fun isText => notText (.inr isText), same⟩

namespace Schema

/-- The issue says of a field that its value does not fit. -/
def FieldOffends (entries : Entries) (field : String) (place : Place) (issue : Issue) : Prop :=
  ∃ value, entries.find? field = some value ∧ ¬ place.Fits value ∧
    issue = ⟨place.fault value, [.key field]⟩

/-- The issue is one of the schema of the items. -/
def ItemsOffend (entries : Entries) (issue : Issue) : Prop :=
  ∃ next inner, entries.find? "items" = some next ∧ next ≠ .null ∧
    (∀ items, next ≠ .list items) ∧ Offends next inner ∧ issue = inner.under (.key "items")

/-- The issue says of a member that its key is no name, or is one of its schema. -/
def MemberOffends (member : Tree × Tree) (issue : Issue) : Prop :=
  (¬ member.1.IsText ∧
      issue = ⟨Place.textFault member.1, [Step.ofKey member.1, .key "[key]"]⟩) ∨
    ∃ inner, Offends member.2 inner ∧ issue = inner.under (Step.ofKey member.1)

/-- The issue is one of a property. -/
def MembersOffend (entries : Entries) (issue : Issue) : Prop :=
  ∃ members member inner, entries.find? "properties" = some (.mapping members) ∧
    member ∈ members ∧ MemberOffends member inner ∧ issue = inner.under (.key "properties")

theorem reports_optionalText (entries : Entries) (field : String) :
    (entries.optionalText field).Reports (FieldOffends entries field .text) := by
  refine ((reports_checkText (entries.find? field)).under (.key field)).congr fun issue => ?_
  constructor
  · rintro ⟨_, ⟨value, isFound, notText, rfl⟩, rfl⟩
    exact ⟨value, isFound, notText, rfl⟩
  · rintro ⟨value, isFound, notText, rfl⟩
    exact ⟨_, ⟨value, isFound, notText, rfl⟩, rfl⟩

theorem typeOf_of_not_list {tree : Tree} (notList : ∀ items, tree ≠ .list items) :
    typeOf (some tree) = some tree := by
  cases tree with
  | list items => exact absurd rfl (notList items)
  | _ => rfl

theorem typeOf_list_eq_none_iff {types : List Tree} :
    typeOf (some (.list types)) = none ↔ ∀ type ∈ types, type = .text "null" := by
  simp only [typeOf, List.find?_eq_none]
  refine forall₂_congr fun type _ => ?_
  cases type <;> simp

theorem typeOf_list_eq_some_iff {types : List Tree} {type : Tree} :
    typeOf (some (.list types)) = some type ↔ type ≠ .text "null" ∧
      ∃ front rest, types = front ++ type :: rest ∧ ∀ other ∈ front, other = .text "null" := by
  simp only [typeOf, List.find?_eq_some_iff_append]
  refine and_congr ?_ (exists₂_congr fun front rest => and_congr_right fun _ =>
    forall₂_congr fun other _ => ?_)
  · cases type <;> simp
  · cases other <;> simp

/-- A field names a type exactly if what counts of it, if anything, is a text or null. -/
theorem namesType_iff {tree : Tree} :
    tree.NamesType ↔ ∀ type, typeOf (some tree) = some type → type.IsTextOrNull := by
  constructor
  · intro names type isType
    cases names with
    | plain isText =>
        have notList : ∀ items, tree ≠ .list items := by
          rintro items rfl
          obtain isNull | ⟨text, spelled⟩ := isText
          · cases isNull
          · cases spelled
        cases (typeOf_of_not_list notList).symm.trans isType
        exact isText
    | nulls allNull => cases (typeOf_list_eq_none_iff.mpr allNull).symm.trans isType
    | @first front rest first frontNull notNull isText =>
        have isFirst : typeOf (some (.list (front ++ first :: rest))) = some first :=
          typeOf_list_eq_some_iff.mpr ⟨notNull, front, rest, rfl, frontNull⟩
        cases isFirst.symm.trans isType
        exact isText
  · intro isText
    cases tree with
    | list types =>
        cases counted : typeOf (some (.list types)) with
        | none => exact .nulls (typeOf_list_eq_none_iff.mp counted)
        | some type =>
            obtain ⟨notNull, front, rest, rfl, frontNull⟩ := typeOf_list_eq_some_iff.mp counted
            exact .first frontNull notNull (isText type counted)
    | _ => exact .plain (isText _ rfl)

theorem reports_type (entries : Entries) :
    ((checkText (typeOf (entries.find? "type"))).under (.key "type")).Reports
      (FieldOffends entries "type" .type) := by
  refine ((reports_checkText (typeOf (entries.find? "type"))).under (.key "type")).congr
    fun issue => ?_
  constructor
  · rintro ⟨_, ⟨type, isType, notText, rfl⟩, rfl⟩
    cases found : entries.find? "type" with
    | none =>
        rw [found] at isType
        cases isType
    | some value =>
        rw [found] at isType
        refine ⟨value, found, fun fits => notText (namesType_iff.mp fits type isType), ?_⟩
        rw [Place.fault, isType]
        rfl
  · rintro ⟨value, isFound, notType, rfl⟩
    rw [isFound]
    have isWrong : ∃ type, typeOf (some value) = some type ∧ ¬ type.IsTextOrNull := by
      simpa only [Place.Fits, namesType_iff, not_forall, exists_prop] using notType
    obtain ⟨type, isType, notText⟩ := isWrong
    refine ⟨_, ⟨type, isType, notText, rfl⟩, ?_⟩
    rw [Place.fault, isType]
    rfl

theorem reports_checkItemsFound {entries : Entries}
    (reports : ∀ items, entries.find? "items" = some items →
      (check items).Reports (Offends items)) :
    (checkItemsFound (entries.find? "items")).Reports (ItemsOffend entries) := by
  unfold checkItemsFound
  split
  · rename_i isAbsent
    rintro issue ⟨next, _, isFound, _⟩
    cases isAbsent.symm.trans isFound
  · rename_i isNull
    rintro issue ⟨next, _, isFound, notNull, _⟩
    cases isNull.symm.trans isFound
    exact notNull rfl
  · rename_i items isList
    rintro issue ⟨next, _, isFound, _, notList, _⟩
    cases isList.symm.trans isFound
    exact notList items rfl
  · rename_i items notNull notList isItems
    refine ((reports items isItems).map.under (.key "items")).congr fun issue => ?_
    constructor
    · rintro ⟨inner, offends, rfl⟩
      exact ⟨items, inner, isItems, notNull, notList, offends, rfl⟩
    · rintro ⟨next, inner, isFound, _, _, offends, rfl⟩
      cases isItems.symm.trans isFound
      exact ⟨inner, offends, rfl⟩

theorem reports_checkKey (key : Tree) :
    (checkKey key).Reports fun issue =>
      ¬ key.IsText ∧ issue = ⟨Place.textFault key, [Step.ofKey key, .key "[key]"]⟩ := by
  refine (((reports_checkPlainText key).under (.key "[key]")).under (Step.ofKey key)).congr
    fun issue => ?_
  constructor
  · rintro ⟨_, ⟨_, ⟨notText, rfl⟩, rfl⟩, rfl⟩
    exact ⟨notText, rfl⟩
  · rintro ⟨notText, rfl⟩
    exact ⟨_, ⟨_, ⟨notText, rfl⟩, rfl⟩, rfl⟩

theorem reports_checkNamed {members : Entries}
    (reports : ∀ member ∈ members, (check member.2).Reports (Offends member.2)) :
    (checkNamed check members).Reports fun issue =>
      ∃ member ∈ members, MemberOffends member issue := by
  induction members with
  | nil =>
      rintro issue ⟨_, isMember, _⟩
      cases isMember
  | cons member rest inductionHypothesis =>
      obtain ⟨key, value⟩ := member
      obtain ⟨valueReports, restReports⟩ := List.forall_mem_cons.mp reports
      have ofKey := reports_checkKey key
      have ofValue := valueReports.under (Step.ofKey key)
      have ofRest := inductionHypothesis restReports
      refine ((ofKey.map.seq ofValue).seq ofRest).congr fun issue => ?_
      rw [List.exists_mem_cons_iff]
      rfl

theorem reports_checkPropertiesFound {entries : Entries}
    (reports : ∀ members, entries.find? "properties" = some (.mapping members) →
      ∀ member ∈ members, (check member.2).Reports (Offends member.2)) :
    (checkPropertiesFound (entries.find? "properties")).Reports fun issue =>
      FieldOffends entries "properties" .properties issue ∨ MembersOffend entries issue := by
  unfold checkPropertiesFound
  split
  · rename_i isAbsent
    rintro issue (⟨_, isFound, _⟩ | ⟨_, _, _, isFound, _⟩)
    · cases isAbsent.symm.trans isFound
    · cases isAbsent.symm.trans isFound
  · rename_i members isMapping
    refine ((reports_checkNamed (reports members isMapping)).under (.key "properties")).congr
      fun issue => ?_
    constructor
    · rintro ⟨inner, ⟨member, isMember, offends⟩, rfl⟩
      exact .inr ⟨members, member, inner, isMapping, isMember, offends, rfl⟩
    · rintro (⟨value, isFound, misfit, _⟩ | ⟨_, member, inner, isFound, isMember, offends, rfl⟩)
      · cases isMapping.symm.trans isFound
        exact absurd (fun _ => ⟨members, rfl⟩) misfit
      · cases isMapping.symm.trans isFound
        exact ⟨inner, ⟨member, isMember, offends⟩, rfl⟩
  · rename_i tree notMapping isOther
    have noMembers : ∀ issue, ¬ MembersOffend entries issue := by
      rintro issue ⟨members, _, _, isFound, _⟩
      exact notMapping members (Option.some.inj (isOther.symm.trans isFound))
    split
    · rename_i isTruthy
      have misfit : ¬ Place.properties.Fits tree := by
        intro fits
        obtain ⟨members, same⟩ := fits isTruthy
        exact notMapping members same
      refine ((Checked.reports_fault .notMapping).under (.key "properties")).congr fun issue => ?_
      constructor
      · rintro ⟨_, rfl, rfl⟩
        exact .inl ⟨tree, isOther, misfit, rfl⟩
      · rintro (⟨value, _, _, rfl⟩ | offends)
        · exact ⟨_, rfl, rfl⟩
        · exact absurd offends (noMembers issue)
    · rename_i isFalsy
      rintro issue (⟨value, isFound, misfit, _⟩ | offends)
      · cases isOther.symm.trans isFound
        exact misfit fun isTruthy => absurd isTruthy isFalsy
      · exact noMembers issue offends

/-- An issue of a mapping is one of its fields, of its items or of its properties. -/
theorem offends_mapping_iff {entries : Entries} {issue : Issue} :
    Offends (.mapping entries) issue ↔
      FieldOffends entries "type" .type issue ∨
        (∃ field ∈ textFields entries, FieldOffends entries field .text issue) ∨
        ItemsOffend entries issue ∨ FieldOffends entries "properties" .properties issue ∨
        MembersOffend entries issue := by
  obtain ⟨kind, location⟩ := issue
  constructor
  · rintro ⟨place, value, isAt, misfit, rfl⟩
    cases isAt with
    | here => exact absurd ⟨entries, rfl⟩ misfit
    | type found => exact .inl ⟨value, found, misfit, rfl⟩
    | text isField found => exact .inr (.inl ⟨_, isField, value, found, misfit, rfl⟩)
    | items found notNull notList isAt =>
        exact .inr (.inr (.inl ⟨_, ⟨_, _⟩, found, notNull, notList,
          ⟨place, value, isAt, misfit, rfl⟩, rfl⟩))
    | properties found => exact .inr (.inr (.inr (.inl ⟨value, found, misfit, rfl⟩)))
    | name found isMember =>
        exact .inr (.inr (.inr (.inr ⟨_, _, ⟨_, _⟩, found, isMember, .inl ⟨misfit, rfl⟩, rfl⟩)))
    | property found isMember isAt =>
        exact .inr (.inr (.inr (.inr ⟨_, _, ⟨_, _⟩, found, isMember,
          .inr ⟨⟨_, _⟩, ⟨place, value, isAt, misfit, rfl⟩, rfl⟩, rfl⟩)))
  · rintro (⟨value, found, misfit, same⟩ | ⟨field, isField, value, found, misfit, same⟩ |
      ⟨next, inner, found, notNull, notList, ⟨place, value, isAt, misfit, isKind⟩, same⟩ |
      ⟨value, found, misfit, same⟩ | ⟨members, member, inner, found, isMember, offends, same⟩)
    · cases same
      exact ⟨.type, value, .type found, misfit, rfl⟩
    · cases same
      exact ⟨.text, value, .text isField found, misfit, rfl⟩
    · cases same
      exact ⟨place, value, .items found notNull notList isAt, misfit, isKind⟩
    · cases same
      exact ⟨.properties, value, .properties found, misfit, rfl⟩
    · cases same
      obtain ⟨notText, rfl⟩ | ⟨inner, ⟨place, value, isAt, misfit, isKind⟩, rfl⟩ := offends
      · exact ⟨.name, member.1, .name found isMember, notText, rfl⟩
      · exact ⟨place, value, .property found isMember isAt, misfit, isKind⟩

/-- The check of a schema reports exactly what offends. -/
theorem reports_check (tree : Tree) : (check tree).Reports (Offends tree) := by
  induction tree using induction_on_tree with
  | mapping entries itemsReport propertiesReport =>
      have type := reports_type entries
      have format := reports_optionalText entries "format"
      have reference := reports_optionalText entries (entries.spelling "$ref" "reference")
      have items := reports_checkItemsFound itemsReport
      have properties := reports_checkPropertiesFound propertiesReport
      have description := reports_optionalText entries "description"
      rw [check_fields]
      refine (((((type.map.seq format).seq reference).seq items).seq properties).seq
        description).congr fun issue => ?_
      rw [offends_mapping_iff]
      simp only [textFields, List.exists_mem_cons_iff, List.not_mem_nil, false_and, exists_false,
        or_false]
      tauto
  | other tree notMapping =>
      rw [check_of_not_mapping notMapping]
      refine (Checked.reports_fault .notRecord).congr fun issue => ?_
      constructor
      · rintro rfl
        refine ⟨.schema, tree, .here tree, ?_, rfl⟩
        rintro ⟨entries, same⟩
        exact notMapping entries same
      · rintro ⟨place, value, isAt, misfit, isKind⟩
        obtain ⟨kind, location⟩ := issue
        cases isAt with
        | here =>
            cases isKind
            rfl
        | _ => exact absurd rfl (notMapping _)

/-! ## Acceptance -/

theorem fits_of_not_offends {entries : Entries} {field : String} {place : Place} {value : Tree}
    (none : ∀ issue, ¬ FieldOffends entries field place issue)
    (found : entries.find? field = some value) :
    place.Fits value := by
  by_contra misfit
  exact none _ ⟨value, found, misfit, rfl⟩

/-- The trees of the grammar are those in which nothing offends. -/
theorem accepts_iff_not_offends (tree : Tree) : Accepts tree ↔ ∀ issue, ¬ Offends tree issue := by
  induction tree using induction_on_tree with
  | mapping entries itemsAccepted propertiesAccepted =>
      simp only [offends_mapping_iff, not_or, forall_and]
      constructor
      · rintro (⟨type, texts, items, isMapping, names, properties⟩)
        refine ⟨?_, ?_, ?_, ?_, ?_⟩
        · rintro issue ⟨value, found, misfit, _⟩
          exact misfit (type value found)
        · rintro issue ⟨field, isField, value, found, misfit, _⟩
          exact misfit (texts field isField value found)
        · rintro issue ⟨next, inner, found, notNull, notList, offends, _⟩
          exact (itemsAccepted next found).mp (items next found notNull notList) inner offends
        · rintro issue ⟨value, found, misfit, _⟩
          exact misfit (isMapping value found)
        · rintro issue ⟨members, member, _, found, isMember, ⟨notText, _⟩ | ⟨inner, offends, _⟩, _⟩
          · exact notText (names members found member isMember)
          · have accepted := properties members found member isMember
            exact (propertiesAccepted members found member isMember).mp accepted inner offends
      · rintro ⟨type, texts, items, isMapping, members⟩
        refine .mapping ?_ ?_ ?_ ?_ ?_ ?_
        · exact fun tree found => fits_of_not_offends type found
        · intro field isField tree found
          have none : ∀ issue, ¬ FieldOffends entries field .text issue := fun issue offends =>
            texts issue ⟨field, isField, offends⟩
          exact fits_of_not_offends none found
        · intro tree found notNull notList
          refine (itemsAccepted tree found).mpr fun inner offends => ?_
          exact items _ ⟨tree, inner, found, notNull, notList, offends, rfl⟩
        · exact fun tree found => fits_of_not_offends isMapping found
        · intro list found member isMember
          by_contra notText
          exact members _ ⟨list, member, _, found, isMember, .inl ⟨notText, rfl⟩, rfl⟩
        · intro list found member isMember
          refine (propertiesAccepted list found member isMember).mpr fun inner offends => ?_
          exact members _ ⟨list, member, _, found, isMember, .inr ⟨inner, offends, rfl⟩, rfl⟩
  | other tree notMapping =>
      constructor
      · rintro ⟨⟩
        exact absurd rfl (notMapping _)
      · intro none
        have misfit : ¬ Place.schema.Fits tree := by
          rintro ⟨entries, same⟩
          exact notMapping entries same
        exact absurd ⟨.schema, tree, .here tree, misfit, rfl⟩ (none ⟨.notRecord, []⟩)

theorem exists_check_eq_valid_iff {tree : Tree} :
    (∃ schema, check tree = .valid schema) ↔ Accepts tree := by
  rw [accepts_iff_not_offends]
  have reports := reports_check tree
  cases checked : check tree with
  | valid schema =>
      rw [checked] at reports
      exact ⟨fun _ => reports, fun _ => ⟨schema, rfl⟩⟩
  | invalid issues =>
      rw [checked] at reports
      constructor
      · rintro ⟨_, isValid⟩
        cases isValid
      · intro none
        obtain ⟨issue, isIssue⟩ := List.exists_mem_of_ne_nil issues reports.1
        exact absurd ((reports.2 issue).mp isIssue) (none issue)

/-- The entries of what is found, if it is a mapping. -/
def entriesFound : Option Tree → Entries
  | some (.mapping members) => members
  | _ => []

/-- The entries of the properties of a schema; there are none if they are absent, null or empty. -/
def propertyEntries (tree : Tree) : Entries :=
  entriesFound (tree.get? "properties")

theorem checkNamed_entriesFound {found : Option Tree} {properties : List (String × Schema)}
    (valid : checkPropertiesFound found = .valid properties) :
    checkNamed check (entriesFound found) = .valid properties := by
  unfold checkPropertiesFound at valid
  split at valid
  · exact valid
  · exact Checked.under_eq_valid.mp valid
  · rename_i tree notMapping
    have noEntries : entriesFound (some tree) = [] := by
      cases tree with
      | mapping members => exact absurd rfl (notMapping members)
      | _ => rfl
    rw [noEntries]
    split at valid
    · cases valid
    · exact valid

theorem checkNamed_propertyEntries {tree : Tree} {schema : Schema}
    (valid : check tree = .valid schema) :
    checkNamed check (propertyEntries tree) = .valid schema.properties := by
  cases tree with
  | mapping entries =>
      simp only [check_fields, Checked.seq_eq_valid, Checked.map_eq_valid] at valid
      obtain ⟨_, _, ⟨_, properties, ⟨_, _, ⟨_, _, ⟨_, _, ⟨_, _, rfl⟩, _, rfl⟩, _, rfl⟩, _, rfl⟩,
        propertiesValid, rfl⟩, _, rfl⟩ := valid
      exact checkNamed_entriesFound propertiesValid
  | _ => cases valid

/-- Exactly the trees of the grammar describe a schema. Its properties stand in the order of their
entries, with the last value of each name. Of any other tree, exactly those places are reported
whose values do not fit. -/
theorem check_follows_grammar (tree : Tree) :
    ((∃ schema, check tree = .valid schema) ↔ Accepts tree) ∧
      (∀ schema, check tree = .valid schema →
        schema.properties.map Prod.fst =
            distinct ((propertyEntries tree).filterMap fun member => member.1.asText?) ∧
          ∀ property ∈ schema.properties, ∃ front member back,
            propertyEntries tree = front ++ member :: back ∧
              member.1.asText? = some property.1 ∧ check member.2 = .valid property.2 ∧
              ∀ later ∈ back, later.1.asText? ≠ some property.1) ∧
      ∀ issues, check tree = .invalid issues →
        issues ≠ [] ∧ ∀ issue, issue ∈ issues ↔ ∃ place value,
          At tree issue.location place value ∧ ¬ place.Fits value ∧
            issue.kind = place.fault value := by
  refine ⟨exists_check_eq_valid_iff, fun schema valid => ?_, fun issues invalid => ?_⟩
  · have named := checkNamed_propertyEntries valid
    exact ⟨map_fst_checkNamed named, fun property => last_of_mem_checkNamed named⟩
  · have reports := reports_check tree
    rw [invalid] at reports
    exact reports

end Schema

/-- A schema with a list of types and two properties. -/
def toyTree : Tree :=
  .mapping [
    (.text "type", .list [.text "null", .text "object"]),
    (.text "properties", .mapping [
      (.text "parts", .mapping [(.text "items", .mapping [(.text "$ref", .text "Part")])]),
      (.text "age", .mapping [(.text "type", .text "integer"), (.text "items", .list [])])])]

def toy : Schema :=
  { type := some "object", format := none, reference := none, items := none
    properties := [
      ("parts", {
        type := none, format := none, reference := none
        items := some {
          type := none, format := none, reference := some "Part", items := none, properties := []
          description := none }
        properties := [], description := none }),
      ("age", {
        type := some "integer", format := none, reference := none, items := none
        properties := [], description := none })]
    description := none }

/-- A tree with a number as a type, a number as the name of a property, and a text as its items. -/
def oddToyTree : Tree :=
  .mapping [
    (.text "type", .list [.text "null", .integer 5]),
    (.text "properties", .mapping [
      (.integer 1, .mapping [(.text "items", .text "Part")]),
      (.text "age", .mapping [])])]

def oddToyIssues : List Issue :=
  [⟨.notText, [.key "type"]⟩,
    ⟨.notText, [.key "properties", .index 1, .key "[key]"]⟩,
    ⟨.notRecord, [.key "properties", .index 1, .key "items"]⟩]

theorem toys_follow_grammar :
    (Schema.check toyTree = .valid toy ∧ Schema.Accepts toyTree ∧
        toy.properties.map Prod.fst = distinct ["parts", "age"]) ∧
      Schema.check oddToyTree = .invalid oddToyIssues ∧ oddToyIssues ≠ [] ∧
        ∀ issue, issue ∈ oddToyIssues ↔ ∃ place value,
          Schema.At oddToyTree issue.location place value ∧ ¬ place.Fits value ∧
            issue.kind = place.fault value := by
  have accepted : Schema.check toyTree = .valid toy := rfl
  have refused : Schema.check oddToyTree = .invalid oddToyIssues := rfl
  obtain ⟨accepts, ordered, _⟩ := Schema.check_follows_grammar toyTree
  obtain ⟨_, _, reported⟩ := Schema.check_follows_grammar oddToyTree
  exact ⟨⟨accepted, accepts.mp ⟨toy, accepted⟩, (ordered toy accepted).1⟩, refused,
    reported oddToyIssues refused⟩

theorem not_forall_format_isText :
    ¬ ∀ (entries : Entries) (value : Tree),
      (∃ schema, Schema.check (.mapping entries) = .valid schema) →
      entries.find? "format" = some value → value = .null ∨ ∃ text, value = .text text := by
  intro textOnly
  have accepted : Schema.check (.mapping [(.text "format", .binary [105, 110, 116, 54, 52])]) =
      .valid { type := none, format := some "int64", reference := none, items := none
               properties := [], description := none } := by
    rfl
  obtain isNull | ⟨text, isText⟩ := textOnly _ _ ⟨_, accepted⟩ rfl
  · cases isNull
  · cases isText

end OpenApiJava

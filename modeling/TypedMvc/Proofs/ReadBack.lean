import Mathlib.Data.List.Forall2
import TypedMvc.Data.Json
import TypedMvc.Model.Codec
import TypedMvc.Settings.Config

/-!
# Reading back what was written

Every record is read back from its value as it was (`ofValue?_toValue_all`). The order in which an
object has its fields is no part of that: values that differ only in it (`SameFields`) are read
alike (`IsOrderFree`), and putting the fields in the order of their names is such a difference
(`sameFields_sortFields`).

Both facts are shown for the ways of reading from which the readers are put together. A field that
is written only now and then has to be read with a default, and it is this default that it had when
it was left out (`withDefault_unlessEmpty`, `withDefault_toList`).
-/

namespace TypedMvc.Data

/-! ## The order of fields -/

/-- Two values that differ at most in the order in which objects have their fields. -/
inductive Value.SameFields : Value → Value → Prop where
  /-- A value with itself. -/
  | same (value : Value) : SameFields value value
  /-- Two arrays with such items. -/
  | array {items items' : List Value} (alike : List.Forall₂ SameFields items items') :
    SameFields (.array items) (.array items')
  /-- Two objects with such a field by each name, or none. -/
  | object {fields fields' : List (String × Value)}
    (alike : ∀ name, Option.Rel SameFields (fields.lookup name) (fields'.lookup name)) :
    SameFields (.object fields) (.object fields')

namespace Value

/-- A field that is put in its place is found by its name before all others. -/
theorem lookup_insertField (field : String × Value) (fields : List (String × Value))
    (name : String) :
    (insertField field fields).lookup name = (field :: fields).lookup name := by
  induction fields with
  | nil => rfl
  | cons other rest ih =>
    unfold insertField
    split
    · rfl
    · -- The names differ, since the other one is less.
      rename_i greater
      have differ : field.1 ≠ other.1 := fun equal => greater (equal ▸ String.le_refl other.1)
      rw [List.lookup_cons, ih, List.lookup_cons, List.lookup_cons, List.lookup_cons]
      by_cases isField : name == field.1
      · have isOther : (name == other.1) = false := by
          rw [eq_of_beq isField]
          exact beq_false_of_ne differ
        simp only [isField, isOther]
      · simp only [isField]

/-- The field with a name is the same field after the fields are put in order, with its own value
put in order. -/
theorem lookup_sortedFields (fields : List (String × Value)) (name : String) :
    (sortedFields fields).lookup name = (fields.lookup name).map sortFields := by
  induction fields with
  | nil => rfl
  | cons field rest ih =>
    unfold sortedFields
    rw [lookup_insertField, List.lookup_cons, List.lookup_cons, ih]
    cases name == field.1 <;> rfl

mutual
/-- A value in order differs from the value in the order of fields only. -/
theorem sameFields_sortFields : (value : Value) → SameFields value value.sortFields
  | .null => .same _
  | .boolean _ => .same _
  | .number _ => .same _
  | .decimal _ => .same _
  | .text _ => .same _
  | .array items => .array (forall₂_sortFieldsAll items)
  | .object fields => .object fun name =>
    (lookup_sortedFields fields name).symm ▸ rel_map_sortFields fields name

/-- Values in order differ from the values in the order of fields only. -/
theorem forall₂_sortFieldsAll : (items : List Value) →
    List.Forall₂ SameFields items (sortFieldsAll items)
  | [] => .nil
  | value :: rest => .cons (sameFields_sortFields value) (forall₂_sortFieldsAll rest)

/-- A field's value in order differs from its value in the order of fields only. -/
theorem rel_map_sortFields : (fields : List (String × Value)) → (name : String) →
    Option.Rel SameFields (fields.lookup name) ((fields.lookup name).map sortFields)
  | [], _ => .none
  | (other, value) :: rest, name => by
    rw [List.lookup_cons]
    cases name == other with
    | true => exact .some (sameFields_sortFields value)
    | false => exact rel_map_sortFields rest name
end

end Value

/-! ## Reading in any order -/

/-- A way of reading for which the order of the fields of objects makes no difference. -/
def IsOrderFree {α : Type} (read : Value → Option α) : Prop :=
  ∀ ⦃value other : Value⦄, value.SameFields other → read other = read value

/-- Two records with such a value for every field, or none. -/
def Record.Alike (record other : Record) : Prop :=
  ∀ position name,
    Option.Rel Value.SameFields (record.find? position name) (other.find? position name)

section Reading

variable {α : Type} {read : Value → Option α} {record other : Record}

theorem isOrderFree_asText? : IsOrderFree Value.asText? := by
  intro value other alike
  cases alike <;> rfl

theorem isOrderFree_asBoolean? : IsOrderFree Value.asBoolean? := by
  intro value other alike
  cases alike <;> rfl

/-- A list is read in any order of fields if its items are. -/
theorem IsOrderFree.asList? (free : IsOrderFree read) : IsOrderFree (Value.asList? read) := by
  intro value other alike
  cases alike with
  | same value => rfl
  | object alike => rfl
  | @array items items' alike =>
    show items'.mapM read = items.mapM read
    induction alike with
    | nil => rfl
    | cons first rest ih =>
      have head := free first
      rw [List.mapM_cons, List.mapM_cons, head, ih]

theorem isOrderFree_asTexts? : IsOrderFree Value.asTexts? := isOrderFree_asText?.asList?

/-- What may be null is read in any order of fields if it is when it is not null. -/
theorem IsOrderFree.asNullable? (free : IsOrderFree read) :
    IsOrderFree (Value.asNullable? read) := by
  intro value other alike
  have same := free alike
  cases alike with
  | same value => rfl
  | array alike => exact congrArg (Option.map some) same
  | object alike => exact congrArg (Option.map some) same

/-- Values that differ in the order of fields only give records with such values. -/
theorem Value.SameFields.alike {value other : Value} (alike : value.SameFields other)
    (size : Nat) :
    Option.Rel Record.Alike (Record.ofValue? size value) (Record.ofValue? size other) := by
  have same : ∀ record : Record, record.Alike record := by
    intro record position name
    cases record.find? position name with
    | none => exact .none
    | some value => exact .some (.same value)
  cases alike with
  | same value =>
    cases Record.ofValue? size value with
    | none => exact .none
    | some record => exact .some (same record)
  | object alike => exact .some fun _ name => alike name
  | @array items items' alike =>
    -- The fields are told by their positions, and the items at one position are alike.
    have length := alike.length_eq
    show Option.Rel Record.Alike
      (if items.length ≤ size then some (.positional items) else none)
      (if items'.length ≤ size then some (.positional items') else none)
    rw [length]
    split
    · refine .some fun position _ => ?_
      show Option.Rel _ (items[position]?) (items'[position]?)
      by_cases inside : position < items.length
      · have inside' : position < items'.length := length ▸ inside
        rw [List.getElem?_eq_getElem inside, List.getElem?_eq_getElem inside']
        exact .some (alike.get inside inside')
      · rw [List.getElem?_eq_none (by omega), List.getElem?_eq_none (by omega)]
        exact .none
    · exact .none

/-- A field that has to be there is the same in records that are alike. -/
theorem Record.Alike.required_eq (alike : record.Alike other) (free : IsOrderFree read)
    (position : Nat) (name : String) :
    other.required position name read = record.required position name read := by
  have found := alike position name
  unfold Record.required
  generalize record.find? position name = value, other.find? position name = value' at found ⊢
  cases found with
  | none => rfl
  | some same => exact free same

/-- A field that has a default is the same in records that are alike. -/
theorem Record.Alike.withDefault_eq (alike : record.Alike other) (free : IsOrderFree read)
    (position : Nat) (name : String) (default : α) :
    other.withDefault position name read default =
      record.withDefault position name read default := by
  have found := alike position name
  unfold Record.withDefault
  generalize record.find? position name = value, other.find? position name = value' at found ⊢
  cases found with
  | none => rfl
  | some same => exact free same

/-- A record is read in any order of fields if what is read from it is the same for records that
are alike. -/
theorem isOrderFree_record {size : Nat} {body : Record → Option α}
    (same : ∀ record other : Record, record.Alike other → body other = body record) :
    IsOrderFree fun value => (Record.ofValue? size value).bind body := by
  intro value other alike
  have records := alike.alike size
  show (Record.ofValue? size other).bind body = (Record.ofValue? size value).bind body
  generalize Record.ofValue? size value = record, Record.ofValue? size other = record'
    at records ⊢
  cases records with
  | none => rfl
  | some found => exact same _ _ found

/-! ## What was written -/

/-- A way of reading that gives back what was written. -/
def ReadsBack {α : Type} (write : α → Value) (read : Value → Option α) : Prop :=
  ∀ a, read (write a) = some a

variable {write : α → Value} {fields : List (String × Value)} {position : Nat} {name : String}

/-- A list is read back if its items are. -/
theorem ReadsBack.asList? (back : ReadsBack write read) :
    ReadsBack (fun items => .array (items.map write)) (Value.asList? read) := by
  intro items
  show (items.map write).mapM read = some items
  induction items with
  | nil => rfl
  | cons first rest ih =>
    rw [List.map_cons, List.mapM_cons, back first, ih]
    rfl

/-- A text is read back. -/
theorem readsBack_text : ReadsBack Value.text Value.asText? := fun _ => rfl

/-- A truth value is read back. -/
theorem readsBack_boolean : ReadsBack Value.boolean Value.asBoolean? := fun _ => rfl

/-- A text is not written as null. -/
theorem text_ne_null (s : String) : Value.text s ≠ .null := Value.noConfusion

theorem readsBack_ofTexts : ReadsBack Value.ofTexts Value.asTexts? :=
  readsBack_text.asList?

/-- What may be null is read back if what is not null is read back and is not written as null. -/
theorem ReadsBack.asNullable? (back : ReadsBack write read) (notNull : ∀ a, write a ≠ .null) :
    ReadsBack (Value.ofNullable write) (Value.asNullable? read) := by
  intro written
  cases written with
  | none => rfl
  | some a =>
    have found := congrArg (Option.map some) (back a)
    have differs := notNull a
    show Value.asNullable? read (write a) = some (some a)
    unfold Value.asNullable?
    split
    · contradiction
    · exact found

/-- A field that has to be there is read back. -/
theorem required_of_lookup (back : ReadsBack write read) {a : α}
    (found : fields.lookup name = some (write a)) :
    (Record.named fields).required position name read = some a := by
  show (fields.lookup name).bind read = some a
  rw [found]
  exact back a

/-- A field with a default is read from where it is by its name. -/
theorem withDefault_named (default : α) :
    (Record.named fields).withDefault position name read default =
      (fields.lookup name).elim (some default) read := by
  have found : (Record.named fields).find? position name = fields.lookup name := rfl
  unfold Record.withDefault
  rw [found]
  cases fields.lookup name <;> rfl

/-- A field with a default that is always written is read back. -/
theorem withDefault_of_lookup (back : ReadsBack write read) {a : α} (default : α)
    (found : fields.lookup name = some (write a)) :
    (Record.named fields).withDefault position name read default = some a := by
  rw [withDefault_named, found]
  exact back a

/-- A list that is left out when it is empty is read back if it is empty when it is not there. -/
theorem withDefault_unlessEmpty (back : ReadsBack write read) {items : List α}
    (found : fields.lookup name = (Model.unlessEmpty name items write).lookup name) :
    (Record.named fields).withDefault position name (Value.asList? read) [] = some items := by
  cases items with
  | nil =>
    rw [withDefault_named, found]
    rfl
  | cons first rest =>
    refine withDefault_of_lookup back.asList? [] ?_
    rw [found]
    exact List.lookup_cons_self

/-- What is left out when there is nothing is read back if there is nothing when it is not there. -/
theorem withDefault_toList (back : ReadsBack write read) (notNull : ∀ a, write a ≠ .null)
    {written : Option α}
    (found : fields.lookup name = (written.map fun a => (name, write a)).toList.lookup name) :
    (Record.named fields).withDefault position name (Value.asNullable? read) none =
      some written := by
  cases written with
  | none =>
    rw [withDefault_named, found]
    rfl
  | some a =>
    refine withDefault_of_lookup (back.asNullable? notNull) none (a := some a) ?_
    rw [found]
    exact List.lookup_cons_self

/-- A list that may be left out is under no other name. -/
theorem lookup_unlessEmpty_of_ne {other : String} (differ : other ≠ name) (items : List α) :
    (Model.unlessEmpty name items write).lookup other = none := by
  unfold Model.unlessEmpty
  split
  · rfl
  · rw [List.lookup_cons, beq_false_of_ne differ]
    rfl

/-- What may be left out is under no other name. -/
theorem lookup_toList_of_ne {other : String} (differ : other ≠ name) (written : Option α) :
    (written.map fun a => (name, write a)).toList.lookup other = none := by
  cases written with
  | none => rfl
  | some a =>
    show List.lookup other [(name, write a)] = none
    rw [List.lookup_cons, beq_false_of_ne differ]
    rfl

end Reading

end TypedMvc.Data

namespace TypedMvc.Model

open Data

namespace Parameter

theorem ofValue?_toValue : ReadsBack toValue ofValue? := fun _ => rfl

theorem isOrderFree_ofValue? : IsOrderFree ofValue? :=
  isOrderFree_record fun _ _ alike => by
    simp only [alike.required_eq isOrderFree_asText?]

end Parameter

namespace Action

/-- What an action's value has by the names that are read. -/
theorem exists_fields (action : Action) :
    ∃ fields, action.toValue = .object fields ∧
      fields.lookup "name" = some (.text action.name) ∧
      fields.lookup "controller" = some (.text action.controller) ∧
      fields.lookup "parameters" =
        (unlessEmpty "parameters" action.parameters Parameter.toValue).lookup "parameters" ∧
      fields.lookup "return_type" =
        (action.returnType.map fun type => ("return_type", Value.text type)).toList.lookup
          "return_type" := by
  -- The names that are always written come first, the others are in parts of their own.
  refine ⟨_, rfl, rfl, rfl, ?_, ?_⟩
  · rw [List.lookup_append, lookup_toList_of_ne (by decide), Option.or_none]
    rfl
  · rw [List.lookup_append, List.lookup_append, lookup_unlessEmpty_of_ne (by decide)]
    rfl

theorem ofValue?_toValue : ReadsBack toValue ofValue? := by
  intro action
  obtain ⟨fields, written, name, controller, parameters, returnType⟩ := action.exists_fields
  unfold ofValue?
  rw [written]
  show ((Record.named fields).required 0 "name" Value.asText?).bind _ = some action
  rw [required_of_lookup readsBack_text name, Option.bind_some]
  dsimp only [Option.bind_eq_bind]
  rw [required_of_lookup readsBack_text controller, Option.bind_some,
    withDefault_unlessEmpty Parameter.ofValue?_toValue parameters, Option.bind_some,
    withDefault_toList readsBack_text text_ne_null returnType, Option.bind_some]
  rfl

theorem isOrderFree_ofValue? : IsOrderFree ofValue? :=
  isOrderFree_record fun _ _ alike => by
    simp only [alike.required_eq isOrderFree_asText?,
      alike.withDefault_eq Parameter.isOrderFree_ofValue?.asList?,
      alike.withDefault_eq isOrderFree_asText?.asNullable?]

end Action

namespace View

theorem ofValue?_toValue : ReadsBack toValue ofValue? := fun _ => rfl

theorem isOrderFree_ofValue? : IsOrderFree ofValue? :=
  isOrderFree_record fun _ _ alike => by
    simp only [alike.required_eq isOrderFree_asText?]

end View

namespace StaticFile

theorem ofValue?_toValue : ReadsBack toValue ofValue? := fun _ => rfl

theorem isOrderFree_ofValue? : IsOrderFree ofValue? :=
  isOrderFree_record fun _ _ alike => by
    simp only [alike.required_eq isOrderFree_asText?]

end StaticFile

namespace Controller

theorem ofValue?_toValue : ReadsBack toValue ofValue? := by
  intro controller
  obtain ⟨fields, written, named, sourceFiles⟩ : ∃ fields, controller.toValue = .object fields ∧
      (fields.lookup "name" = some (.text controller.name) ∧
        fields.lookup "type_name" = some (.text controller.typeName) ∧
        fields.lookup "namespace" = some (.ofNullable .text controller.namespaceName) ∧
        fields.lookup "qualified_reference" = some (.text controller.qualifiedReference) ∧
        fields.lookup "actions" = some (.array (controller.actions.map Action.toValue)) ∧
        fields.lookup "is_partial" = some (.boolean controller.isPartial)) ∧
      fields.lookup "source_files" =
        (unlessEmpty "source_files" controller.sourceFiles .text).lookup "source_files" :=
    ⟨_, rfl, ⟨rfl, rfl, rfl, rfl, rfl, rfl⟩, rfl⟩
  obtain ⟨name, typeName, namespaceName, qualifiedReference, actions, isPartial⟩ := named
  have namespaceBack := readsBack_text.asNullable? text_ne_null
  have actionsBack := Action.ofValue?_toValue.asList?
  have sourcesBack : (Record.named fields).withDefault 6 "source_files" Value.asTexts? [] =
      some controller.sourceFiles := withDefault_unlessEmpty readsBack_text sourceFiles
  unfold ofValue?
  rw [written]
  show ((Record.named fields).required 0 "name" Value.asText?).bind _ = some controller
  rw [required_of_lookup readsBack_text name, Option.bind_some]
  dsimp only [Option.bind_eq_bind]
  rw [required_of_lookup readsBack_text typeName, Option.bind_some,
    withDefault_of_lookup namespaceBack none namespaceName, Option.bind_some,
    required_of_lookup readsBack_text qualifiedReference, Option.bind_some,
    required_of_lookup actionsBack actions, Option.bind_some,
    withDefault_of_lookup readsBack_boolean false isPartial, Option.bind_some,
    sourcesBack, Option.bind_some]
  rfl

theorem isOrderFree_ofValue? : IsOrderFree ofValue? :=
  isOrderFree_record fun _ _ alike => by
    simp only [alike.required_eq isOrderFree_asText?,
      alike.required_eq Action.isOrderFree_ofValue?.asList?,
      alike.withDefault_eq isOrderFree_asText?.asNullable?,
      alike.withDefault_eq isOrderFree_asBoolean?, alike.withDefault_eq isOrderFree_asTexts?]

end Controller

end TypedMvc.Model

namespace TypedMvc.Settings

open Data

namespace Generation

theorem ofValue?_toValue : ReadsBack toValue ofValue? := fun _ => rfl

theorem isOrderFree_ofValue? : IsOrderFree ofValue? :=
  isOrderFree_record fun _ _ alike => by
    simp only [alike.withDefault_eq isOrderFree_asText?]

end Generation

namespace Analysis

theorem ofValue?_toValue : ReadsBack toValue ofValue? := by
  intro settings
  have exclude := readsBack_ofTexts settings.exclude
  show (Value.asTexts? (.ofTexts settings.exclude)).bind _ = some settings
  rw [exclude]
  rfl

theorem isOrderFree_ofValue? : IsOrderFree ofValue? :=
  isOrderFree_record fun _ _ alike => by
    simp only [alike.withDefault_eq isOrderFree_asTexts?]

end Analysis

namespace Locators

theorem ofValue?_toValue : ReadsBack toValue ofValue? := by
  intro settings
  have viewExtensions := readsBack_ofTexts settings.viewExtensions
  have staticExclude := readsBack_ofTexts settings.staticExclude
  show (Value.asTexts? (.ofTexts settings.viewExtensions)).bind _ = some settings
  rw [viewExtensions]
  show (Value.asTexts? (.ofTexts settings.staticExclude)).bind _ = some settings
  rw [staticExclude]
  rfl

theorem isOrderFree_ofValue? : IsOrderFree ofValue? :=
  isOrderFree_record fun _ _ alike => by
    simp only [alike.withDefault_eq isOrderFree_asText?, alike.withDefault_eq isOrderFree_asTexts?]

end Locators

namespace Config

theorem ofValue?_toValue : ReadsBack toValue ofValue? := by
  intro config
  obtain ⟨fields, written, generation, analysis, locators⟩ :
      ∃ fields, config.toValue = .object fields ∧
        fields.lookup "generation" = some config.generation.toValue ∧
        fields.lookup "analysis" = some config.analysis.toValue ∧
        fields.lookup "locators" = some config.locators.toValue :=
    ⟨_, rfl, rfl, rfl, rfl⟩
  unfold ofValue?
  rw [written]
  show ((Record.named fields).withDefault 0 "generation" Generation.ofValue? {}).bind _ =
    some config
  rw [withDefault_of_lookup Generation.ofValue?_toValue {} generation, Option.bind_some]
  dsimp only [Option.bind_eq_bind]
  rw [withDefault_of_lookup Analysis.ofValue?_toValue {} analysis, Option.bind_some,
    withDefault_of_lookup Locators.ofValue?_toValue {} locators, Option.bind_some]
  rfl

theorem isOrderFree_ofValue? : IsOrderFree ofValue? :=
  isOrderFree_record fun _ _ alike => by
    simp only [alike.withDefault_eq Generation.isOrderFree_ofValue?,
      alike.withDefault_eq Analysis.isOrderFree_ofValue?,
      alike.withDefault_eq Locators.isOrderFree_ofValue?]

end Config

end TypedMvc.Settings

namespace TypedMvc

open Data Model Settings

/-- Whatever is read back, is read back in the order of names too. -/
theorem Data.ReadsBack.sortFields {α : Type} {write : α → Value} {read : Value → Option α}
    (back : ReadsBack write read) (free : IsOrderFree read) (a : α) :
    read (write a) = some a ∧ read (write a).sortFields = some a := by
  have inOrder := free (write a).sameFields_sortFields
  rw [back a] at inOrder
  exact ⟨back a, inOrder⟩

/-- Controllers, actions, views, static files, settings for names and whole configurations are read
back from their values as they were, in the order of fields in which they are written and in the
order of the fields' names. -/
theorem ofValue?_toValue_all :
    (∀ controller : Controller, Controller.ofValue? controller.toValue = some controller ∧
      Controller.ofValue? controller.toValue.sortFields = some controller) ∧
    (∀ action : Action, Action.ofValue? action.toValue = some action ∧
      Action.ofValue? action.toValue.sortFields = some action) ∧
    (∀ view : View, View.ofValue? view.toValue = some view ∧
      View.ofValue? view.toValue.sortFields = some view) ∧
    (∀ file : StaticFile, StaticFile.ofValue? file.toValue = some file ∧
      StaticFile.ofValue? file.toValue.sortFields = some file) ∧
    (∀ settings : Generation, Generation.ofValue? settings.toValue = some settings ∧
      Generation.ofValue? settings.toValue.sortFields = some settings) ∧
    (∀ config : Config, Config.ofValue? config.toValue = some config ∧
      Config.ofValue? config.toValue.sortFields = some config) := by
  refine ⟨?_, ?_, ?_, ?_, ?_, ?_⟩
  · exact Controller.ofValue?_toValue.sortFields Controller.isOrderFree_ofValue?
  · exact Action.ofValue?_toValue.sortFields Action.isOrderFree_ofValue?
  · exact View.ofValue?_toValue.sortFields View.isOrderFree_ofValue?
  · exact StaticFile.ofValue?_toValue.sortFields StaticFile.isOrderFree_ofValue?
  · exact Generation.ofValue?_toValue.sortFields Generation.isOrderFree_ofValue?
  · exact Config.ofValue?_toValue.sortFields Config.isOrderFree_ofValue?

end TypedMvc

/-!
# Structured data

A value of the kind that data formats write down: a tree of texts, numbers and truth values, in
arrays by position and in objects by name. Records are read from it field by field. A record may
be given as an object, where fields it does not know are passed over, or as an array of its
fields in order.
-/

namespace TypedMvc.Data

/-- A structured value. -/
inductive Value where
  /-- No value. -/
  | null
  /-- A truth value. -/
  | boolean (value : Bool)
  /-- A whole number. -/
  | number (value : Int)
  /-- A number with a fraction or an exponent, as it is written. -/
  | decimal (text : String)
  /-- A text. -/
  | text (value : String)
  /-- Values by position. -/
  | array (items : List Value)
  /-- Values by name. -/
  | object (fields : List (String × Value))
  deriving Repr, Inhabited

namespace Value

/-- The field of an object with a name, the first if there are several. -/
def field? (name : String) : Value → Option Value
  | .object fields => fields.lookup name
  | _ => none

/-- A text. -/
def asText? : Value → Option String
  | .text s => some s
  | _ => none

/-- A truth value. -/
def asBoolean? : Value → Option Bool
  | .boolean b => some b
  | _ => none

/-- A list of values that are all read in the same way. -/
def asList? {α : Type} (read : Value → Option α) : Value → Option (List α)
  | .array items => items.mapM read
  | _ => none

/-- A value that may be null. -/
def asNullable? {α : Type} (read : Value → Option α) : Value → Option (Option α)
  | .null => some none
  | value => (read value).map some

/-- The value that stands for something optional. -/
def ofNullable {α : Type} (write : α → Value) : Option α → Value
  | none => .null
  | some a => write a

/-- A list of texts. -/
def ofTexts (texts : List String) : Value := .array (texts.map .text)

/-- A list of texts. -/
def asTexts? : Value → Option (List String) := asList? asText?

end Value

/-- A value from which the fields of a record are read. -/
inductive Record where
  /-- Fields by name. -/
  | named (fields : List (String × Value))
  /-- Fields by position. -/
  | positional (items : List Value)

/-- The record with a number of fields that a value gives. -/
def Record.ofValue? (size : Nat) : Value → Option Record
  | .object fields => some (.named fields)
  | .array items => if items.length ≤ size then some (.positional items) else none
  | _ => none

/-- The value of a field, given its position and its name. -/
def Record.find? (record : Record) (position : Nat) (name : String) : Option Value :=
  match record with
  | .named fields => fields.lookup name
  | .positional items => items[position]?

/-- Reads a field that has to be there. -/
def Record.required {α : Type} (record : Record) (position : Nat) (name : String)
    (read : Value → Option α) : Option α :=
  (record.find? position name).bind read

/-- Reads a field that has a default. -/
def Record.withDefault {α : Type} (record : Record) (position : Nat) (name : String)
    (read : Value → Option α) (default : α) : Option α :=
  match record.find? position name with
  | some value => read value
  | none => some default

end TypedMvc.Data

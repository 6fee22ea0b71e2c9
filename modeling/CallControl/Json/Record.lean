import CallControl.Json.Value

/-! # Records in JSON documents

A record has named fields in a fixed order. It is written as an object, whose
unknown members are accepted unread while a known field may appear only once, or as
an array of the fields in order, whose last fields may be missing. The readers of
single fields accept one type each and convert nothing.
-/

namespace CallControl.Json

/-- The documents of the members with a key. -/
def membersNamed (name : String) (members : List Member) : List Document :=
  members.filterMap fun member => if member.1 = some name then some member.2 else none

/-- The document of the field with a name: nothing when it is missing, a failure
when it is there twice. -/
def uniqueMember? (members : List Member) (name : String) : Option (Option Document) :=
  match membersNamed name members with
  | [] => some none
  | [document] => some (some document)
  | _ => none

/-- The items of an array as the fields of a record with so many fields; there must
not be more items than fields. -/
def positionalFields? : Nat → List Document → Option (List (Option Document))
  | 0, [] => some []
  | 0, _ :: _ => none
  | count + 1, [] => (positionalFields? count []).map (none :: ·)
  | count + 1, item :: rest => (positionalFields? count rest).map (some item :: ·)

/-- The documents of a record's fields, in the order of their names. -/
def fields? (names : List String) : Document → Option (List (Option Document))
  | .scalar _ => none
  | .array items => positionalFields? names.length items
  | .object members =>
      if members.all fun member => member.1.isSome then names.mapM (uniqueMember? members)
      else none

/-- The truth value of a document. -/
def bool? : Document → Option Bool
  | .scalar (.bool value) => some value
  | _ => none

/-- The text of a document that is a string. -/
def string? : Document → Option String
  | .scalar (.string text) => text
  | _ => none

/-- The text of a document that is a string or null. -/
def nullableString? : Document → Option (Option String)
  | .scalar .null => some none
  | .scalar (.string text) => text.map some
  | _ => none

/-- The natural number of a document, below 2 ^ 64. -/
def natural? : Document → Option Nat
  | .scalar (.number literal) => literal.natural?
  | _ => none

/-- A field that may be missing, with the value it then has. -/
def orDefault {Value : Type} (default : Value) (read? : Document → Option Value) :
    Option Document → Option Value
  | none => some default
  | some document => read? document

/-- A field that must be there. -/
def required {Value : Type} (read? : Document → Option Value) : Option Document → Option Value
  | none => none
  | some document => read? document

end CallControl.Json

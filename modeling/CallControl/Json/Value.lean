import CallControl.Json.Document
import CallControl.Json.Number

/-! # JSON values

A value is what a reader keeps of a document: numbers interpreted, strings with a
text, the members of an object sorted by key with the last of equal keys. Keeping a
document costs one level of depth for each container around a value
(`Document.value?`); a root document may nest 127 containers
(`Json.parse?`), and a value inside a record at the root 126.
-/

namespace CallControl

open CallControl.Json

/-- A JSON value. The members of an object are in increasing order of their keys. -/
inductive Json where
  | null
  | bool (value : Bool)
  | number (value : Number)
  | string (text : String)
  | array (items : List Json)
  | object (members : List (String × Json))
  deriving Repr

namespace Json

/-- The member list with a member put where its key belongs, unless the key is
there already. -/
def insertMember (key : String) (value : Json) :
    List (String × Json) → List (String × Json)
  | [] => [(key, value)]
  | (otherKey, otherValue) :: rest =>
      if key < otherKey then (key, value) :: (otherKey, otherValue) :: rest
      else if key = otherKey then (otherKey, otherValue) :: rest
      else (otherKey, otherValue) :: insertMember key value rest

/-- The value of a scalar: its number must be one that is kept, and its string must
have a text. -/
def ofScalar? : Scalar → Option Json
  | .null => some .null
  | .bool value => some (.bool value)
  | .number literal => literal.value?.map .number
  | .string text => text.map .string

mutual

/-- What a reader keeps of a document that may nest `depth` containers. -/
def ofDocument? (depth : Nat) : Document → Option Json
  | .scalar value => ofScalar? value
  | .array items =>
      match depth with
      | 0 => none
      | inner + 1 => (ofItems? inner items).map .array
  | .object members =>
      match depth with
      | 0 => none
      | inner + 1 => (ofMembers? inner members).map .object

/-- The values of the items of an array. -/
def ofItems? (depth : Nat) : List Document → Option (List Json)
  | [] => some []
  | item :: rest =>
      (ofDocument? depth item).bind fun value =>
        (ofItems? depth rest).map (value :: ·)

/-- The members of an object: every key has a text, and of equal keys the last one
counts. -/
def ofMembers? (depth : Nat) : List (Option String × Document) → Option (List (String × Json))
  | [] => some []
  | (key, item) :: rest =>
      key.bind fun text =>
        (ofDocument? depth item).bind fun value =>
          (ofMembers? depth rest).map (insertMember text value)

end

/-- How many containers a value at the root may nest. -/
def rootDepth : Nat := 127

/-- How many containers a value in a field of a record at the root may nest. -/
def fieldDepth : Nat := 126

/-- The value of a text. -/
def parse? (text : String) : Option Json :=
  (Document.parse? text).bind (ofDocument? rootDepth)

/-- The member of an object with a key. -/
def member? (value : Json) (key : String) : Option Json :=
  match value with
  | .object members => members.lookup key
  | _ => none

/-- The text of a string value. -/
def text? : Json → Option String
  | .string text => some text
  | _ => none

/-- The text of an object's member that is a string. -/
def memberText? (value : Json) (key : String) : Option String :=
  (value.member? key).bind text?

/-- A value that is an object. -/
def isObject : Json → Bool
  | .object _ => true
  | _ => false

end Json

end CallControl

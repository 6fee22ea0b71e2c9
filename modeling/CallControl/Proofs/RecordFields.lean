import Mathlib.Data.List.Forall2
import Mathlib.Data.List.Perm.Basic
import CallControl.Json.Record

/-! # The fields of a record

What is found under the names of a record's fields. An object has a field if exactly one of
its members has the field's name (`HoldsOnce`), whatever stands around it and in whatever
order; the members of an object may only have names that are texts.
-/

namespace CallControl.Json

/-- Among some members there is one field of a name, with this value. -/
def HoldsOnce (members : List Member) (name : String) (value : Document) : Prop :=
  members.filter (fun member => member.1 == some name) = [(some name, value)]

/-- Each member has a name. -/
def AllNamed (members : List Member) : Prop :=
  ∀ member ∈ members, member.1.isSome = true

private theorem membersNamed_eq (name : String) (members : List Member) :
    membersNamed name members =
      (members.filter fun member => member.1 == some name).map Prod.snd := by
  induction members with
  | nil => rfl
  | cons member rest ih =>
      by_cases named : member.1 = some name
      · simp only [membersNamed, List.filterMap_cons, List.filter_cons, named, beq_self_eq_true,
          ↓reduceIte, List.map_cons]
        exact congrArg (member.2 :: ·) ih
      · have other : (member.1 == some name) = false := beq_false_of_ne named
        simp only [membersNamed, List.filterMap_cons, List.filter_cons, named, other,
          Bool.false_eq_true, ↓reduceIte]
        exact ih

/-- A name is held once when a single member has it. -/
theorem holdsOnce_iff {members : List Member} {name : String} {value : Document} :
    HoldsOnce members name value ↔ membersNamed name members = [value] := by
  rw [membersNamed_eq, HoldsOnce]
  constructor
  · intro single
    rw [single]
    rfl
  · intro same
    obtain ⟨⟨key, held⟩, single, rfl⟩ := List.map_eq_singleton_iff.mp same
    have member : (key, held) ∈ members.filter fun member => member.1 == some name :=
      single ▸ List.mem_singleton_self _
    have named : key = some name := beq_iff_eq.mp (List.mem_filter.mp member).2
    rw [single, named]

/-- The value of a name is found when the name is held once. -/
theorem uniqueMember?_eq_some_iff {members : List Member} {name : String} {value : Document} :
    uniqueMember? members name = some (some value) ↔ HoldsOnce members name value := by
  rw [holdsOnce_iff, uniqueMember?]
  split
  next none => simp [none]
  next document single => simp [single]
  next other single =>
    refine iff_of_false nofun fun same => single value same

/-- The order of members does not matter. -/
theorem uniqueMember?_of_perm {first second : List Member} (reordered : first.Perm second)
    (name : String) : uniqueMember? first name = uniqueMember? second name := by
  have same : (membersNamed name first).Perm (membersNamed name second) :=
    reordered.filterMap _
  unfold uniqueMember?
  generalize membersNamed name first = left, membersNamed name second = right at same
  match left, right with
  | [], _ => rw [List.nil_perm.mp same]
  | [_], _ => rw [List.singleton_perm.mp same]
  | _ :: _ :: _, [] => exact absurd same.length_eq (by simp)
  | _ :: _ :: _, [_] => exact absurd same.length_eq (by simp)
  | _ :: _ :: _, _ :: _ :: _ => rfl

/-- A list is read when each of its elements is. -/
theorem mapM_eq_some_iff {Input Output : Type} {read? : Input → Option Output}
    {inputs : List Input} {outputs : List Output} :
    inputs.mapM read? = some outputs ↔
      List.Forall₂ (fun input output => read? input = some output) inputs outputs := by
  induction inputs generalizing outputs with
  | nil =>
      rw [List.mapM_nil, List.forall₂_nil_left_iff]
      exact ⟨fun same => (Option.some.inj same).symm, fun same => congrArg some same.symm⟩
  | cons input rest ih =>
      rw [List.mapM_cons, List.forall₂_cons_left_iff]
      simp only [Option.bind_eq_bind, Option.bind_eq_some_iff, Option.pure_def,
        Option.some.injEq, ih]
      constructor
      · rintro ⟨output, first, others, reads, rfl⟩
        exact ⟨output, others, first, reads, rfl⟩
      · rintro ⟨output, others, first, reads, rfl⟩
        exact ⟨output, first, others, reads, rfl⟩

private theorem mapM_congr {Input Output : Type} {first second : Input → Option Output}
    {inputs : List Input} (same : ∀ input ∈ inputs, first input = second input) :
    inputs.mapM first = inputs.mapM second := by
  induction inputs with
  | nil => rfl
  | cons input rest ih =>
      rw [List.mapM_cons, List.mapM_cons, same input List.mem_cons_self,
        ih fun other mem => same other (List.mem_cons_of_mem input mem)]

/-- Values that are written as they are read are all read back. -/
theorem mapM_map_of_reads {Value : Type} {read? : Document → Option Value}
    {write : Value → Document} (reads : ∀ value, read? (write value) = some value)
    (values : List Value) :
    (values.map write).mapM read? = some values := by
  rw [mapM_eq_some_iff, List.forall₂_map_left_iff, List.forall₂_same]
  exact fun value _ => reads value

/-- The fields of a record that is written as an object. -/
theorem fields?_object_eq_some_iff {names : List String} {members : List Member}
    {fields : List (Option Document)} :
    fields? names (.object members) = some fields ↔
      AllNamed members ∧
        List.Forall₂ (fun name field => uniqueMember? members name = some field) names fields := by
  rw [← mapM_eq_some_iff, fields?, AllNamed, ← List.all_eq_true]
  split
  next named => exact (and_iff_right named).symm
  next unnamed => exact iff_of_false nofun fun both => unnamed both.1

/-- The order of the members does not matter to the fields of an object. -/
theorem fields?_object_of_perm {first second : List Member} (reordered : first.Perm second)
    (names : List String) : fields? names (.object first) = fields? names (.object second) := by
  have named : (first.all fun member => member.1.isSome) =
      (second.all fun member => member.1.isSome) := reordered.all_eq
  have found : uniqueMember? first = uniqueMember? second :=
    funext (uniqueMember?_of_perm reordered)
  simp only [fields?, named, found]

/-! ## The place of a field -/

/-- A place for the first field of a record, by its name or as the first item. -/
inductive FirstFieldPlace (name : String) : (Document → Document) → Prop
  | member (first rest : List Member) :
      FirstFieldPlace name fun value => .object (first ++ (some name, value) :: rest)
  | item (rest : List Document) : FirstFieldPlace name fun value => .array (value :: rest)

/-- What is read as the first field of a record stands in a place for it. -/
theorem FirstFieldPlace.exists_of_fields? {name : String} {others : List String}
    {document value : Document} {rest : List (Option Document)}
    (reads : fields? (name :: others) document = some (some value :: rest)) :
    ∃ place, FirstFieldPlace name place ∧ document = place value := by
  cases document with
  | scalar => cases reads
  | array items =>
      cases items with
      | nil =>
          obtain ⟨_, -, same⟩ := Option.map_eq_some_iff.mp reads
          cases same
      | cons item items =>
          obtain ⟨_, -, same⟩ := Option.map_eq_some_iff.mp reads
          cases same
          exact ⟨_, .item items, rfl⟩
  | object members =>
      obtain ⟨-, found⟩ := fields?_object_eq_some_iff.mp reads
      obtain ⟨single, -⟩ := List.forall₂_cons.mp found
      have mem : (some name, value) ∈ members := List.mem_of_mem_filter
        ((uniqueMember?_eq_some_iff.mp single).symm ▸ List.mem_singleton_self _)
      obtain ⟨first, last, rfl⟩ := List.append_of_mem mem
      exact ⟨_, .member first last, rfl⟩

private theorem uniqueMember?_around (name : String) (first rest : List Member) :
    (∀ value, uniqueMember? (first ++ (some name, value) :: rest) name = none) ∨
      ∀ value, uniqueMember? (first ++ (some name, value) :: rest) name = some (some value) := by
  have around (value : Document) : membersNamed name (first ++ (some name, value) :: rest) =
      membersNamed name first ++ value :: membersNamed name rest := by
    simp [membersNamed]
  simp only [uniqueMember?, around]
  cases membersNamed name first with
  | nil =>
      cases membersNamed name rest with
      | nil => exact .inr fun _ => rfl
      | cons other others => exact .inl fun _ => rfl
  | cons other others =>
      cases others with
      | nil => exact .inl fun _ => rfl
      | cons => exact .inl fun _ => rfl

private theorem uniqueMember?_beside {name other : String} (different : name ≠ other)
    (first rest : List Member) (value : Document) :
    uniqueMember? (first ++ (some name, value) :: rest) other =
      uniqueMember? (first ++ rest) other := by
  have beside : membersNamed other (first ++ (some name, value) :: rest) =
      membersNamed other (first ++ rest) := by
    simp [membersNamed, different]
  rw [uniqueMember?, uniqueMember?, beside]

/-- What stands in the place of the first field is found as it, whatever it is, or the record
is refused, whatever it is. -/
theorem FirstFieldPlace.fields? {name : String} {place : Document → Document}
    (first : FirstFieldPlace name place) (others : List String) (apart : name ∉ others) :
    (∀ value, Json.fields? (name :: others) (place value) = none) ∨
      ∃ rest, ∀ value, Json.fields? (name :: others) (place value) = some (some value :: rest) := by
  cases first with
  | item rest =>
      change (∀ value, (positionalFields? others.length rest).map (some value :: ·) = none) ∨
        ∃ fields, ∀ value, (positionalFields? others.length rest).map (some value :: ·) =
          some (some value :: fields)
      cases positionalFields? others.length rest with
      | none => exact .inl fun _ => rfl
      | some fields => exact .inr ⟨fields, fun _ => rfl⟩
  | member first rest =>
      -- neither the names nor the other fields depend on what stands in the place
      have beside (value : Document) : others.mapM
          (uniqueMember? (first ++ (some name, value) :: rest)) =
            others.mapM (uniqueMember? (first ++ rest)) :=
        mapM_congr fun other mem =>
          uniqueMember?_beside (fun same : name = other => apart (same ▸ mem)) first rest value
      have named (value : Document) :
          ((first ++ (some name, value) :: rest).all fun member => member.1.isSome) =
            (first ++ rest).all fun member => member.1.isSome := by
        simp
      simp only [Json.fields?, named, List.mapM_cons, beside]
      split
      next =>
        cases others.mapM (uniqueMember? (first ++ rest)) with
        | none => exact .inl fun value => by simp
        | some fields =>
            obtain never | always := uniqueMember?_around name first rest
            · exact .inl fun value => by simp [never]
            · exact .inr ⟨fields, fun value => by simp [always]⟩
      next => exact .inl fun _ => rfl

/-! ## Objects with some of the fields -/

/-- The members for the fields that are there. -/
def presentMembers (record : List (String × Option Document)) : List Member :=
  record.filterMap fun field => field.2.map fun document => (some field.1, document)

/-- A record without fields has no members. -/
theorem presentMembers_nil : presentMembers [] = [] := rfl

/-- A field that is present is a member, and one that is absent is not. -/
theorem presentMembers_cons (field : String × Option Document)
    (rest : List (String × Option Document)) :
    presentMembers (field :: rest) =
      (field.2.map fun document => (some field.1, document)).toList ++ presentMembers rest := by
  obtain ⟨name, value⟩ := field
  cases value <;> rfl

private theorem membersNamed_append (name : String) (first second : List Member) :
    membersNamed name (first ++ second) = membersNamed name first ++ membersNamed name second :=
  List.filterMap_append

private theorem membersNamed_single (name other : String) (value : Option Document) :
    membersNamed name (value.map fun document => (some other, document)).toList =
      if other = name then value.toList else [] := by
  cases value with
  | none => simp [membersNamed]
  | some document => by_cases same : other = name <;> simp [membersNamed, same]

private theorem membersNamed_presentMembers_of_not_mem {name : String}
    {record : List (String × Option Document)} (unknown : name ∉ record.map Prod.fst) :
    membersNamed name (presentMembers record) = [] := by
  induction record with
  | nil => rfl
  | cons field rest ih =>
      obtain ⟨different, unknown⟩ := not_or.mp (List.mem_cons.not.mp unknown)
      rw [presentMembers_cons, membersNamed_append, membersNamed_single, if_neg (Ne.symm different),
        ih unknown, List.append_nil]

private theorem membersNamed_presentMembers {record : List (String × Option Document)}
    (distinct : (record.map Prod.fst).Nodup) {field : String × Option Document}
    (mem : field ∈ record) : membersNamed field.1 (presentMembers record) = field.2.toList := by
  induction record with
  | nil => nomatch mem
  | cons first rest ih =>
      obtain ⟨apart, distinct⟩ := List.nodup_cons.mp distinct
      rw [presentMembers_cons, membersNamed_append, membersNamed_single]
      rcases List.mem_cons.mp mem with rfl | later
      · rw [if_pos rfl, membersNamed_presentMembers_of_not_mem apart, List.append_nil]
      · have different : first.1 ≠ field.1 := fun same =>
          apart (same ▸ List.mem_map_of_mem later)
        rw [if_neg different, ih distinct later, List.nil_append]

/-- Each field is found that is there, and no other one. -/
theorem fields?_presentMembers (record : List (String × Option Document))
    (distinct : (record.map Prod.fst).Nodup) :
    fields? (record.map Prod.fst) (.object (presentMembers record)) =
      some (record.map Prod.snd) := by
  refine fields?_object_eq_some_iff.mpr ⟨fun member mem => ?_, ?_⟩
  · obtain ⟨field, -, present⟩ := List.mem_filterMap.mp mem
    obtain ⟨document, -, rfl⟩ := Option.map_eq_some_iff.mp present
    rfl
  · rw [List.forall₂_map_left_iff, List.forall₂_map_right_iff, List.forall₂_same]
    intro field mem
    rw [uniqueMember?, membersNamed_presentMembers distinct mem]
    cases field.2 <;> rfl

/-! ## Single fields -/

/-- The document of a text. -/
def textDocument (text : String) : Document := .scalar (.string (some text))

/-- The document of a text is read as that text. -/
theorem string?_textDocument (text : String) : string? (textDocument text) = some text := rfl

/-- The document of a text is read as that text where there may be none. -/
theorem nullableString?_textDocument (text : String) :
    nullableString? (textDocument text) = some (some text) := rfl

/-- Only the document of a truth value is read as that value. -/
theorem bool?_eq_some_iff {document : Document} {value : Bool} :
    bool? document = some value ↔ document = .scalar (.bool value) := by
  constructor
  · intro reads
    unfold bool? at reads
    split at reads <;> cases reads
    rfl
  · rintro rfl
    rfl

/-- A field that is written as it is read has its value, or the default if it is missing. -/
theorem orDefault_map {Value Read : Type} {read? : Document → Option Read}
    {write : Value → Document} {meant : Value → Read}
    (reads : ∀ value, read? (write value) = some (meant value)) (default : Read)
    (field : Option Value) :
    orDefault default read? (field.map write) = some ((field.map meant).getD default) := by
  cases field with
  | none => rfl
  | some value => exact reads value

/-- A required field is read when it is there and its document is read. -/
theorem required_eq_some_iff {Value : Type} {read? : Document → Option Value}
    {field : Option Document} {value : Value} :
    required read? field = some value ↔ ∃ document, field = some document ∧
      read? document = some value := by
  cases field with
  | none => simp [required]
  | some document => simp [required]

end CallControl.Json

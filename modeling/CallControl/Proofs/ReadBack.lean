import CallControl.Proofs.RecordFields
import CallControl.Proofs.Written

/-! # Reading what was written

A value without fractions is read back as it was written, if its integers fit 64 bits,
signed or unsigned, and if it nests no deeper than the reader goes (`exists_spells_write`).
A record that was written as an object is read field by field, wherever its fields stand and
whatever stands between them (`Carries.exists_fields?`).
-/

namespace CallControl.Json

/-! ## Values -/

mutual

/-- A value and everything in it has a property. -/
def every (holds : Json → Bool) : Json → Bool
  | .array items => holds (.array items) && everyItem holds items
  | .object members => holds (.object members) && everyMember holds members
  | value => holds value

/-- Some items and everything in them have a property. -/
def everyItem (holds : Json → Bool) : List Json → Bool
  | [] => true
  | item :: rest => every holds item && everyItem holds rest

/-- The values of some members and everything in them have a property. -/
def everyMember (holds : Json → Bool) : List (String × Json) → Bool
  | [] => true
  | (_, value) :: rest => every holds value && everyMember holds rest

end

private theorem every_array {holds : Json → Bool} {items : List Json} :
    every holds (.array items) = true ↔
      holds (.array items) = true ∧ everyItem holds items = true := by
  rw [every, Bool.and_eq_true]

private theorem every_object {holds : Json → Bool} {members : List (String × Json)} :
    every holds (.object members) = true ↔
      holds (.object members) = true ∧ everyMember holds members = true := by
  rw [every, Bool.and_eq_true]

/-- The keys of an object increase from member to member. -/
def keysIncrease : Json → Bool
  | .object members => decide ((members.map Prod.fst).Pairwise (· < ·))
  | _ => true

/-- A number is an integer of 64 bits, signed or unsigned. -/
def numberFits : Json → Bool
  | .number (.integer value) => decide (-Int.pow 2 63 ≤ value ∧ value < Int.pow 2 64)
  | .number (.float _) => false
  | _ => true

mutual

/-- How many containers are open at the innermost place of a value. -/
def nesting : Json → Nat
  | .array items => nestingOfItems items + 1
  | .object members => nestingOfMembers members + 1
  | _ => 0

/-- The deepest nesting among some items. -/
def nestingOfItems : List Json → Nat
  | [] => 0
  | item :: rest => max (nesting item) (nestingOfItems rest)

/-- The deepest nesting among the values of some members. -/
def nestingOfMembers : List (String × Json) → Nat
  | [] => 0
  | (_, value) :: rest => max (nesting value) (nestingOfMembers rest)

end

/-- A member whose key is below all others comes first. -/
theorem insertMember_of_lt {key : String} {value : Json} {members : List (String × Json)}
    (below : ∀ other ∈ members.map Prod.fst, key < other) :
    insertMember key value members = (key, value) :: members := by
  cases members with
  | nil => rfl
  | cons member rest =>
      have first : key < member.1 := below member.1 List.mem_cons_self
      exact if_pos first

/-- A document is kept as a value by every reader that goes deep enough. -/
def Keeps (document : Document) (value : Json) : Prop :=
  ∀ depth, value.nesting ≤ depth → ofDocument? depth document = some value

mutual

/-- A value as written spells a document that is kept as that value. -/
theorem exists_spells_write :
    ∀ value : Json, value.every keysIncrease = true → value.every numberFits = true →
      ∃ document, Spells (write value) document ∧ Keeps document value
  | .null, _, _ => ⟨_, .null, fun _ _ => rfl⟩
  | .bool value, _, _ => ⟨_, .writeBool value, fun _ _ => rfl⟩
  | .string text, _, _ => ⟨_, .writeText text, fun _ _ => rfl⟩
  | .number (.integer value), _, fits => by
      obtain ⟨lower, upper⟩ := of_decide_eq_true fits
      refine ⟨_, .signedDecimal value, fun _ _ => ?_⟩
      simp only [ofDocument?, ofScalar?, value?_integerLiteral lower upper, Option.map_some]
  | .number (.float value), _, fits => nomatch fits
  | .array items, increase, fits => by
      obtain ⟨documents, spells, kept⟩ := exists_spells_writeItems items
        (every_array.mp increase).2 (every_array.mp fits).2
      -- Each container takes one from the depth that is left, and counts one to the nesting.
      refine ⟨.array documents, .writeArray spells, fun depth enough => ?_⟩
      cases depth with
      | zero => exact (Nat.not_succ_le_zero _ enough).elim
      | succ inner =>
          simp only [ofDocument?, kept inner (Nat.le_of_succ_le_succ enough), Option.map_some]
  | .object members, increase, fits => by
      obtain ⟨ordered, increase⟩ := every_object.mp increase
      obtain ⟨documents, spells, kept⟩ := exists_spells_writeMembers members
        (of_decide_eq_true ordered) increase (every_object.mp fits).2
      refine ⟨.object documents, .writeObject spells, fun depth enough => ?_⟩
      cases depth with
      | zero => exact (Nat.not_succ_le_zero _ enough).elim
      | succ inner =>
          simp only [ofDocument?, kept inner (Nat.le_of_succ_le_succ enough), Option.map_some]

private theorem exists_spells_writeItems :
    ∀ items : List Json, everyItem keysIncrease items = true → everyItem numberFits items = true →
      ∃ documents, List.Forall₂ Spells (writeItems items) documents ∧
        ∀ depth, nestingOfItems items ≤ depth → ofItems? depth documents = some items
  | [], _, _ => ⟨[], .nil, fun _ _ => rfl⟩
  | item :: rest, increase, fits => by
      obtain ⟨increases, increase⟩ := Bool.and_eq_true_iff.mp increase
      obtain ⟨firstFits, fits⟩ := Bool.and_eq_true_iff.mp fits
      obtain ⟨document, spelled, first⟩ := exists_spells_write item increases firstFits
      obtain ⟨documents, spells, others⟩ := exists_spells_writeItems rest increase fits
      refine ⟨document :: documents, .cons spelled spells, fun depth enough => ?_⟩
      obtain ⟨enoughFirst, enoughRest⟩ := Nat.max_le.mp enough
      simp only [ofItems?, first depth enoughFirst, others depth enoughRest, Option.bind_some,
        Option.map_some]

private theorem exists_spells_writeMembers :
    ∀ members : List (String × Json), (members.map Prod.fst).Pairwise (· < ·) →
      everyMember keysIncrease members = true → everyMember numberFits members = true →
      ∃ documents, List.Forall₂ SpellsMember (writeMembers members) documents ∧
        ∀ depth, nestingOfMembers members ≤ depth → ofMembers? depth documents = some members
  | [], _, _, _ => ⟨[], .nil, fun _ _ => rfl⟩
  | (key, value) :: rest, ordered, increase, fits => by
      obtain ⟨below, ordered⟩ := List.pairwise_cons.mp ordered
      obtain ⟨increases, increase⟩ := Bool.and_eq_true_iff.mp increase
      obtain ⟨firstFits, fits⟩ := Bool.and_eq_true_iff.mp fits
      obtain ⟨document, spelled, first⟩ := exists_spells_write value increases firstFits
      obtain ⟨documents, spells, others⟩ := exists_spells_writeMembers rest ordered increase fits
      refine ⟨(some key, document) :: documents, .cons ⟨rfl, spelled⟩ spells,
        fun depth enough => ?_⟩
      obtain ⟨enoughFirst, enoughRest⟩ := Nat.max_le.mp enough
      simp only [ofMembers?, first depth enoughFirst, others depth enoughRest, Option.bind_some,
        Option.map_some, insertMember_of_lt below]

end

/-! ## Records -/

/-- Some fields as written hold the fields of a record once each, in any order, and beside
them others that say anything. -/
structure Carries (record fields : List (String × List Char)) : Prop where
  once : (fields.filter fun field => (record.map Prod.fst).contains field.1).Perm record
  others : ∀ field ∈ fields, field.1 ∉ record.map Prod.fst → ∃ document, Spells field.2 document

private theorem exists_spellsMembers {fields : List (String × List Char)}
    (spelled : ∀ field ∈ fields, ∃ document, Spells field.2 document) :
    ∃ members, List.Forall₂ SpellsMember fields members := by
  induction fields with
  | nil => exact ⟨[], .nil⟩
  | cons field rest ih =>
      obtain ⟨document, spells⟩ := spelled field List.mem_cons_self
      obtain ⟨members, others⟩ := ih fun other member =>
        spelled other (List.mem_cons_of_mem field member)
      exact ⟨(some field.1, document) :: members, .cons ⟨rfl, spells⟩ others⟩

/-- The members with a key are spelled by the fields with that name. -/
theorem spells_membersNamed {fields : List (String × List Char)} {members : List Member}
    (spells : List.Forall₂ SpellsMember fields members) (name : String) :
    List.Forall₂ Spells ((fields.filter fun field => field.1 == name).map Prod.snd)
      (membersNamed name members) := by
  induction spells with
  | nil => exact .nil
  | @cons field member fields members spelled _ ih =>
      obtain ⟨named, spelled⟩ := spelled
      by_cases same : field.1 = name
      · simp only [membersNamed, List.filter_cons, List.filterMap_cons, named, same,
          beq_self_eq_true, ↓reduceIte, List.map_cons]
        exact .cons spelled ih
      · have other : (field.1 == name) = false := beq_false_of_ne same
        have unnamed : some field.1 ≠ some name := fun equal => same (Option.some.inj equal)
        simp only [membersNamed, List.filter_cons, List.filterMap_cons, named, other, unnamed,
          Bool.false_eq_true, ↓reduceIte]
        exact ih

/-- Among fields of different names each is the only one of its name. -/
theorem filter_name_of_nodup {record : List (String × List Char)}
    (distinct : (record.map Prod.fst).Nodup) {field : String × List Char}
    (member : field ∈ record) : (record.filter fun other => other.1 == field.1) = [field] := by
  induction record with
  | nil => nomatch member
  | cons first rest ih =>
      obtain ⟨apart, distinct⟩ := List.nodup_cons.mp distinct
      rcases List.mem_cons.mp member with rfl | later
      · have none : (rest.filter fun other => other.1 == field.1) = [] := by
          refine List.filter_eq_nil_iff.mpr fun other inside same => apart ?_
          rw [← beq_iff_eq.mp same]
          exact List.mem_map_of_mem inside
        rw [List.filter_cons, if_pos (beq_self_eq_true _), none]
      · have different : ¬ (first.1 == field.1) = true := fun same => apart <| by
          rw [beq_iff_eq.mp same]
          exact List.mem_map_of_mem later
        rw [List.filter_cons, if_neg different, ih distinct later]

/-- Every key of an object that was written is a text. -/
theorem allNamed_of_spellsMembers {fields : List (String × List Char)} {members : List Member}
    (spells : List.Forall₂ SpellsMember fields members) : AllNamed members := by
  induction spells with
  | nil => exact nofun
  | cons spelled _ ih =>
      refine List.forall_mem_cons.mpr ⟨?_, ih⟩
      rw [spelled.1, Option.isSome_some]

namespace Carries

variable {record fields : List (String × List Char)}

/-- A record carries its own fields, in whatever order. -/
theorem of_perm (reordered : fields.Perm record) : Carries record fields where
  once := by
    have known : ∀ field ∈ fields, (record.map Prod.fst).contains field.1 = true :=
      fun field member =>
        List.contains_iff_mem.mpr (List.mem_map_of_mem (reordered.mem_iff.mp member))
    rwa [List.filter_eq_self.mpr known]
  others := fun field member unknown =>
    (unknown (List.mem_map_of_mem (reordered.mem_iff.mp member))).elim

/-- A field of no name of the record may stand anywhere. -/
theorem insert {before after : List (String × List Char)}
    (carries : Carries record (before ++ after)) {field : String × List Char}
    (unknown : field.1 ∉ record.map Prod.fst) {document : Document}
    (spells : Spells field.2 document) : Carries record (before ++ field :: after) where
  once := by
    have skipped : ¬ (record.map Prod.fst).contains field.1 = true :=
      fun known => unknown (List.contains_iff_mem.mp known)
    have once := carries.once
    rw [List.filter_append] at once
    rwa [List.filter_append, List.filter_cons, if_neg skipped]
  others := by
    intro other member unknown
    rcases List.mem_append.mp member with early | late
    · exact carries.others other (List.mem_append_left _ early) unknown
    · rcases List.mem_cons.mp late with rfl | late
      · exact ⟨document, spells⟩
      · exact carries.others other (List.mem_append_right _ late) unknown

/-- Only one field has the name of a record's field. -/
theorem filter_name (carries : Carries record fields) (distinct : (record.map Prod.fst).Nodup)
    {field : String × List Char} (member : field ∈ record) :
    (fields.filter fun other => other.1 == field.1) = [field] := by
  have known (other : String × List Char) :
      (other.1 == field.1 && (record.map Prod.fst).contains other.1) =
        (other.1 == field.1) := by
    by_cases same : other.1 = field.1
    · have present : (record.map Prod.fst).contains field.1 = true :=
        List.contains_iff_mem.mpr (List.mem_map_of_mem member)
      rw [same, present, Bool.and_true]
    · rw [beq_false_of_ne same, Bool.false_and]
  have both := carries.once.filter fun other => other.1 == field.1
  rw [List.filter_filter, filter_name_of_nodup distinct member] at both
  simp only [known] at both
  exact List.perm_singleton.mp both

/-- Every field spells something, if those of the record do. -/
theorem spelled (carries : Carries record fields)
    (known : ∀ field ∈ record, ∃ document, Spells field.2 document) :
    ∀ field ∈ fields, ∃ document, Spells field.2 document := by
  intro field member
  by_cases named : field.1 ∈ record.map Prod.fst
  · have kept : field ∈ fields.filter fun field => (record.map Prod.fst).contains field.1 :=
      List.mem_filter.mpr ⟨member, List.contains_iff_mem.mpr named⟩
    exact known field (carries.once.mem_iff.mp kept)
  · exact carries.others field member named

/-- The object that the fields make is read as the record. -/
theorem exists_fields? (carries : Carries record fields)
    (distinct : (record.map Prod.fst).Nodup) {documents : List Document}
    (known : List.Forall₂ (fun field document => Spells field.2 document) record documents) :
    ∃ members, Spells (writeObject fields) (.object members) ∧
      fields? (record.map Prod.fst) (.object members) = some (documents.map some) := by
  have each : ∀ field ∈ record, ∃ document, Spells field.2 document := by
    intro field member
    obtain ⟨place, found⟩ := List.mem_iff_get.mp member
    obtain ⟨lengths, spells⟩ := List.forall₂_iff_get.mp known
    rw [← found]
    exact ⟨_, spells place place.2 (lengths ▸ place.2)⟩
  obtain ⟨members, spells⟩ := exists_spellsMembers (carries.spelled each)
  refine ⟨members, .writeObject spells, fields?_object_eq_some_iff.mpr
    ⟨allNamed_of_spellsMembers spells, ?_⟩⟩
  have unique : List.Forall₂ (fun field document => membersNamed field.1 members = [document])
      record documents := by
    obtain ⟨lengths, known⟩ := List.forall₂_iff_zip.mp known
    refine List.forall₂_iff_zip.mpr ⟨lengths, fun {field document} pair => ?_⟩
    have named := spells_membersNamed spells field.1
    rw [carries.filter_name distinct (List.of_mem_zip pair).1, List.map_singleton] at named
    obtain ⟨other, none, also, empty, alone⟩ := List.forall₂_cons_left_iff.mp named
    rw [alone, List.forall₂_nil_left_iff.mp empty, (known pair).unique also]
  rw [List.forall₂_map_left_iff, List.forall₂_map_right_iff]
  exact unique.imp fun _ _ alone => uniqueMember?_eq_some_iff.mpr (holdsOnce_iff.mpr alone)

end Carries

end CallControl.Json

/-! # Tasks held back

Tasks that are held back until their deadlines lie in a heap, which gives out a greatest
one. They compare the other way round than their deadlines, so that the earliest deadline
is the greatest (`compareHeld`). Of several tasks with the earliest deadline the heap may
give out any: which one is a choice from outside (`popGreatest?`).
-/

namespace CallControl

variable {Task : Type}

/-- How two tasks held back compare: the one with the earlier deadline is the greater. -/
def compareHeld (held other : Nat × Task) : Ordering := (compare held.1 other.1).swap

/-- A task is not greater than another one exactly if its deadline is not the earlier one. -/
theorem compareHeld_ne_gt_iff (held other : Nat × Task) :
    compareHeld held other ≠ .gt ↔ other.1 ≤ held.1 := by
  unfold compareHeld
  rw [← Nat.compare_swap, Ordering.swap_swap]
  exact Nat.compare_ne_gt

/-- Each element of a list, in order, with the others. -/
def singledOut {Element : Type} : List Element → List (Element × List Element)
  | [] => []
  | first :: rest =>
      (first, rest) :: (singledOut rest).map fun chosen => (chosen.1, first :: chosen.2)

/-- An element with the others makes up the list. -/
private theorem perm_of_mem_singledOut {Element : Type} {list others : List Element}
    {chosen : Element}
    (member : (chosen, others) ∈ singledOut list) : list.Perm (chosen :: others) := by
  induction list generalizing others with
  | nil => cases member
  | cons first rest ih =>
      rcases List.mem_cons.mp member with here | later
      · cases here
        exact List.Perm.refl _
      · obtain ⟨⟨other, left⟩, inside, same⟩ := List.mem_map.mp later
        cases same
        exact ((ih inside).cons first).trans (List.Perm.swap ..)

private theorem exists_mem_singledOut {Element : Type} {list : List Element} {chosen : Element}
    (member : chosen ∈ list) : ∃ others, (chosen, others) ∈ singledOut list := by
  induction list with
  | nil => cases member
  | cons first rest ih =>
      rcases List.mem_cons.mp member with rfl | later
      · exact ⟨rest, List.mem_cons_self⟩
      · obtain ⟨others, inside⟩ := ih later
        exact ⟨first :: others, List.mem_cons_of_mem _ (List.mem_map.mpr ⟨_, inside, rfl⟩)⟩

/-- The tasks of a heap than which none is greater, in the order in which they were put
in, each with the tasks that stay. -/
def greatestHeld (heap : List (Nat × Task)) : List ((Nat × Task) × List (Nat × Task)) :=
  (singledOut heap).filter fun chosen =>
    chosen.2.all fun other => compareHeld other chosen.1 != .gt

private theorem mem_greatestHeld {heap later : List (Nat × Task)} {held : Nat × Task} :
    (held, later) ∈ greatestHeld heap ↔
      (held, later) ∈ singledOut heap ∧ ∀ other ∈ later, held.1 ≤ other.1 := by
  simp only [greatestHeld, List.mem_filter, List.all_eq_true, bne_iff_ne, compareHeld_ne_gt_iff]

/-- A greatest task of a heap and the tasks that stay; a number says which one of several,
where none is the one that was put in first. -/
def popGreatest? (choice : Nat) (heap : List (Nat × Task)) :
    Option ((Nat × Task) × List (Nat × Task)) :=
  (greatestHeld heap)[choice % (greatestHeld heap).length]?

/-- What a heap gives out is of all that it holds what has the earliest deadline. -/
theorem popGreatest?_spec {choice : Nat} {heap later : List (Nat × Task)} {held : Nat × Task}
    (popped : popGreatest? choice heap = some (held, later)) :
    heap.Perm (held :: later) ∧ ∀ other ∈ later, held.1 ≤ other.1 := by
  obtain ⟨inside, earliest⟩ := mem_greatestHeld.mp (List.mem_of_getElem? popped)
  exact ⟨perm_of_mem_singledOut inside, earliest⟩

/-- Every greatest task may be given out. -/
theorem exists_popGreatest? {heap : List (Nat × Task)} {held : Nat × Task} (member : held ∈ heap)
    (earliest : ∀ other ∈ heap, held.1 ≤ other.1) :
    ∃ choice later, popGreatest? choice heap = some (held, later) := by
  obtain ⟨others, inside⟩ := exists_mem_singledOut member
  have kept : (held, others) ∈ greatestHeld heap :=
    mem_greatestHeld.mpr ⟨inside, fun other stays =>
      earliest other ((perm_of_mem_singledOut inside).mem_iff.mpr (List.mem_cons_of_mem _ stays))⟩
  obtain ⟨choice, bound, found⟩ := List.getElem_of_mem kept
  refine ⟨choice, others, ?_⟩
  unfold popGreatest?
  rw [Nat.mod_eq_of_lt bound, List.getElem?_eq_getElem bound, found]

/-- Some task of a heap that is not empty has the earliest deadline. -/
private theorem exists_earliest {heap : List (Nat × Task)} (filled : heap ≠ []) :
    ∃ held ∈ heap, ∀ other ∈ heap, held.1 ≤ other.1 := by
  induction heap with
  | nil => exact (filled rfl).elim
  | cons first rest ih =>
      cases rest with
      | nil => exact ⟨first, List.mem_cons_self, fun other member => by simp_all⟩
      | cons second rest =>
          obtain ⟨held, inside, earliest⟩ := ih (List.cons_ne_nil _ _)
          rcases Nat.le_total first.1 held.1 with before | behind
          · refine ⟨first, List.mem_cons_self, List.forall_mem_cons.mpr ⟨Nat.le_refl _, ?_⟩⟩
            exact fun other member => Nat.le_trans before (earliest other member)
          · exact ⟨held, List.mem_cons_of_mem _ inside,
              List.forall_mem_cons.mpr ⟨behind, earliest⟩⟩

/-- Only an empty heap gives nothing out. -/
theorem popGreatest?_eq_none_iff {choice : Nat} {heap : List (Nat × Task)} :
    popGreatest? choice heap = none ↔ heap = [] := by
  refine ⟨fun nothing => ?_, fun empty => empty ▸ rfl⟩
  cases heap with
  | nil => rfl
  | cons first rest =>
      obtain ⟨held, member, earliest⟩ := exists_earliest (List.cons_ne_nil first rest)
      obtain ⟨other, later, popped⟩ := exists_popGreatest? member earliest
      have present : 0 < (greatestHeld (first :: rest)).length :=
        List.length_pos_of_mem (List.mem_of_getElem? popped)
      have beyond := List.getElem?_eq_none_iff.mp nothing
      exact (Nat.not_le_of_lt (Nat.mod_lt choice present) beyond).elim

/-- Whichever greatest task a heap gives out, its deadline is the same. -/
theorem deadline_popGreatest? {choice other : Nat} {heap later rest : List (Nat × Task)}
    {held first : Nat × Task} (popped : popGreatest? choice heap = some (held, later))
    (instead : popGreatest? other heap = some (first, rest)) : held.1 = first.1 := by
  have least {choice other : Nat} {later rest : List (Nat × Task)} {held first : Nat × Task}
      (popped : popGreatest? choice heap = some (held, later))
      (instead : popGreatest? other heap = some (first, rest)) : held.1 ≤ first.1 := by
    obtain ⟨all, earliest⟩ := popGreatest?_spec popped
    have member : first ∈ held :: later :=
      all.mem_iff.mp ((popGreatest?_spec instead).1.mem_iff.mpr List.mem_cons_self)
    rcases List.mem_cons.mp member with rfl | behind
    · exact Nat.le_refl _
    · exact earliest first behind
  exact Nat.le_antisymm (least popped instead) (least instead popped)

end CallControl

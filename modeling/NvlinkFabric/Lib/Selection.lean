import Mathlib.Data.List.MinMax
import Mathlib.Data.List.Sort

/-!
# Selection by a comparator

A stable sort puts an element to the front that the comparator places behind no
other, the earliest one where several are equal to it.  A comparator that decides
a linear order of keys selects the first maximum of the key, which is the only one
where the keys are distinct.
-/

universe u v

namespace Selection

variable {α : Type u} {κ : Type v} [LinearOrder κ]

/-- The element that a stable sort by the comparator puts to the front. -/
def front (before : α → α → Bool) (elements : List α) : Option α :=
  (elements.insertionSort fun left right => !before right left).head?

/-- The comparator places larger keys first. -/
def Ranks (key : α → κ) (before : α → α → Bool) : Prop :=
  ∀ left right, before left right = true ↔ key right < key left

variable {key : α → κ} {before : α → α → Bool}

theorem Ranks.eq_false (ranks : Ranks key before) {left right : α} :
    before left right = false ↔ key left ≤ key right := by
  rw [← not_lt, ← ranks, Bool.not_eq_true]

theorem front_cons (element : α) (elements : List α) :
    front before (element :: elements) =
      some (match front before elements with
        | none => element
        | some best => if before best element then best else element) := by
  simp only [front, List.insertionSort_cons]
  cases elements.insertionSort fun left right => !before right left with
  | nil => rfl
  | cons best rest =>
      cases later : before best element <;> simp [List.orderedInsert, later]

theorem front_eq_none {elements : List α} : front before elements = none ↔
    elements = [] := by
  cases elements with
  | nil => simp [front]
  | cons element elements => simp [front_cons]

/-- The comparator orders the elements weakly, as a stable sort requires of it: what it
puts before something is not put behind it, and what it leaves unordered is
interchangeable. -/
structure WeakOrder (before : α → α → Bool) (elements : List α) : Prop where
  asymm : ∀ left ∈ elements, ∀ right ∈ elements,
    before left right = true → before right left = false
  trans : ∀ left ∈ elements, ∀ middle ∈ elements, ∀ right ∈ elements,
    before left middle = false → before middle right = false → before left right = false

theorem WeakOrder.of_cons {element : α} {elements : List α}
    (order : WeakOrder before (element :: elements)) : WeakOrder before elements where
  asymm left leftMember right rightMember :=
    order.asymm left (.tail _ leftMember) right (.tail _ rightMember)
  trans left leftMember middle middleMember right rightMember :=
    order.trans left (.tail _ leftMember) middle (.tail _ middleMember) right
      (.tail _ rightMember)

theorem WeakOrder.irrefl {elements : List α}
    (order : WeakOrder before elements) {element : α} (member : element ∈ elements) :
    before element element = false := by
  cases itself : before element element with
  | false => rfl
  | true =>
      rw [order.asymm element member element member itself] at itself
      simp at itself

/-- A comparator that decides a key of the elements orders them weakly. -/
theorem weakOrder_of_key (key : α → κ) {elements : List α}
    (ranks : ∀ left ∈ elements, ∀ right ∈ elements,
      before left right = true ↔ key right < key left) : WeakOrder before elements where
  asymm left leftMember right rightMember larger := by
    rw [← Bool.not_eq_true, ranks right rightMember left leftMember]
    exact ((ranks left leftMember right rightMember).mp larger).not_gt
  trans left leftMember middle middleMember right rightMember first second := by
    rw [← Bool.not_eq_true, ranks left leftMember middle middleMember, not_lt] at first
    rw [← Bool.not_eq_true, ranks middle middleMember right rightMember, not_lt] at second
    rw [← Bool.not_eq_true, ranks left leftMember right rightMember, not_lt]
    exact first.trans second

/-- Sorting by a comparator of images is sorting the images. -/
theorem front_map {β : Type v} (image : β → α) (elements : List β) :
    front before (elements.map image) =
      (front (fun left right => before (image left) (image right))
        elements).map image := by
  induction elements with
  | nil => rfl
  | cons element elements ih =>
      rw [List.map_cons, front_cons, front_cons, ih, Option.map_some]
      cases front (fun left right => before (image left) (image right)) elements with
      | none => rfl
      | some best => exact congrArg some (apply_ite image _ _ _).symm

theorem front_mem {elements : List α} {best : α}
    (selected : front before elements = some best) : best ∈ elements := by
  have sorted := List.mem_of_mem_head? (Option.mem_def.mpr selected)
  rwa [List.mem_insertionSort] at sorted

/-- The selected element is put before every earlier one, and no later one before it. -/
theorem front_split {elements : List α} (order : WeakOrder before elements) {best : α}
    (selected : front before elements = some best) :
    ∃ earlier later, elements = earlier ++ best :: later ∧
      (∀ other ∈ earlier, before best other = true) ∧
      ∀ other ∈ later, before other best = false := by
  induction elements generalizing best with
  | nil => simp [front] at selected
  | cons element elements ih =>
      rw [front_cons, Option.some.injEq] at selected
      split at selected
      next empty =>
        obtain rfl := front_eq_none.mp empty
        exact ⟨[], [], by rw [selected]; rfl, by simp, by simp⟩
      next candidate front =>
        obtain ⟨earlier, later, rfl, ahead, behind⟩ := ih order.of_cons front
        have competes : candidate ∈ earlier ++ candidate :: later := front_mem front
        split at selected
        next larger =>
          subst selected
          refine ⟨element :: earlier, later, rfl, ?_, behind⟩
          rintro other (_ | ⟨_, member⟩)
          · exact larger
          · exact ahead other member
        next unbeaten =>
          subst selected
          refine ⟨[], _, rfl, by simp, fun other member => ?_⟩
          have within : other ∈ element :: (earlier ++ candidate :: later) :=
            .tail _ member
          refine order.trans other within candidate (.tail _ competes)
            element (.head _) ?_
            (Bool.eq_false_iff.mpr unbeaten)
          -- nothing is put before what was selected among the later ones
          rcases List.mem_append.mp member with first | (_ | ⟨_, last⟩)
          · exact order.asymm candidate (.tail _ competes) other within
              (ahead other first)
          · exact order.irrefl (.tail _ competes)
          · exact behind other last

/-- No element is put before the selected one. -/
theorem front_best {elements : List α} (order : WeakOrder before elements)
    {best other : α} (selected : front before elements = some best)
    (member : other ∈ elements) :
    before other best = false := by
  obtain ⟨earlier, later, rfl, ahead, behind⟩ := front_split order selected
  have competes : best ∈ earlier ++ best :: later := by simp
  rcases List.mem_append.mp member with first | (_ | ⟨_, last⟩)
  · exact order.asymm best competes other member (ahead other first)
  · exact order.irrefl competes
  · exact behind other last

/-- A stable sort finds the first maximum of the key. -/
theorem front_eq_argmax (ranks : Ranks key before) (elements : List α) :
    front before elements = elements.argmax key := by
  induction elements with
  | nil => rfl
  | cons element elements ih =>
      rw [front_cons, ih, List.argmax_cons]
      cases elements.argmax key with
      | none => rfl
      | some best =>
          by_cases larger : key element < key best
          · simp [larger, (ranks best element).mpr larger]
          · simp [larger, ranks.eq_false.mpr (not_lt.mp larger)]

theorem front_max (ranks : Ranks key before) {elements : List α} {best other : α}
    (selected : front before elements = some best) (member : other ∈ elements) :
    key other ≤ key best :=
  List.le_of_mem_argmax member ((front_eq_argmax ranks elements).symm.trans selected)

/-- The first of the elements with the largest key. -/
def firstMax (key : α → κ) (elements : List α) : Option α := elements.argmax key

theorem firstMax_eq_none {elements : List α} : firstMax key elements = none ↔
    elements = [] :=
  List.argmax_eq_none

/-- A first maximum is larger than every earlier element and at least every later one. -/
theorem firstMax_split {elements : List α} {best : α}
    (found : firstMax key elements = some best) :
    ∃ earlier later, elements = earlier ++ best :: later ∧
      (∀ other ∈ earlier, key other < key best) ∧
        ∀ other ∈ later, key other ≤ key best := by
  induction elements with
  | nil => simp [firstMax] at found
  | cons element elements ih =>
      rw [firstMax, List.argmax_cons] at found
      cases rest : elements.argmax key with
      | none =>
          obtain rfl := List.argmax_eq_none.mp rest
          obtain rfl : element = best := by simpa [rest] using found
          exact ⟨[], [], rfl, by simp, by simp⟩
      | some candidate =>
          simp only [rest] at found
          split at found
          next larger =>
            obtain rfl := Option.some.inj found
            obtain ⟨earlier, later, rfl, smaller, atMost⟩ := ih rest
            refine ⟨element :: earlier, later, rfl, ?_, atMost⟩
            rintro other (_ | ⟨_, member⟩)
            · exact larger
            · exact smaller other member
          next unbeaten =>
            obtain rfl := Option.some.inj found
            refine ⟨[], elements, rfl, by simp, fun other member => ?_⟩
            exact (List.le_of_mem_argmax member rest).trans (not_lt.mp unbeaten)

/-- With distinct keys the selection does not depend on the order of the elements. -/
theorem front_perm (ranks : Ranks key before) {left right : List α}
    (perm : left.Perm right)
    (distinct : ∀ first ∈ left, ∀ second ∈ left, key first = key second →
      first = second) :
    front before left = front before right := by
  cases leftBest : front before left with
  | none =>
      obtain rfl := front_eq_none.mp leftBest
      exact (front_eq_none.mpr perm.nil_eq.symm).symm
  | some best =>
      cases rightBest : front before right with
      | none =>
          obtain rfl := front_eq_none.mp rightBest
          obtain rfl := perm.eq_nil
          simp [front] at leftBest
      | some other =>
          have bestMember := front_mem leftBest
          have otherMember := perm.mem_iff.mpr (front_mem rightBest)
          have same : key best = key other :=
            le_antisymm (front_max ranks rightBest (perm.mem_iff.mp bestMember))
              (front_max ranks leftBest otherMember)
          rw [distinct best bestMember other otherMember same]

/-- Every element outside the set has one of the set that is selected rather than it: an
earlier one that it does not beat, or a later one that beats it. -/
def Outranked (before : α → α → Bool) (good : α → Prop) (elements : List α) : Prop :=
  ∀ earlier element later, elements = earlier ++ element :: later → ¬good element →
    (∃ other ∈ earlier, good other ∧ before element other = false) ∨
      ∃ other ∈ later, good other ∧ before other element = true

/-- Only membership of the elements themselves matters. -/
theorem outranked_congr {first second : α → Prop} {elements : List α}
    (same : ∀ element ∈ elements, first element ↔ second element) :
    Outranked before first elements ↔ Outranked before second elements := by
  refine forall_congr' fun earlier => forall_congr' fun element =>
    forall_congr' fun later =>
    imp_congr_right fun split => ?_
  subst split
  have ahead : ∀ other ∈ earlier, first other ↔ second other :=
    fun other member => same other (by simp [member])
  have behind : ∀ other ∈ later, first other ↔ second other :=
    fun other member => same other (by simp [member])
  rw [same element (by simp)]
  refine imp_congr_right fun _ => or_congr ?_ ?_
  · exact exists_congr fun other =>
      and_congr_right fun member => by rw [ahead other member]
  · exact exists_congr fun other =>
      and_congr_right fun member => by rw [behind other member]

/-- The selected element is in the set exactly if those outside it are outranked. -/
theorem front_good_iff {elements : List α} (order : WeakOrder before elements)
    (good : α → Prop) :
    (∀ best, front before elements = some best → good best) ↔
      Outranked before good elements := by
  constructor
  · intro always earlier element later split bad
    obtain ⟨best, selected⟩ : ∃ best, front before elements = some best := by
      refine Option.ne_none_iff_exists'.mp ?_
      rw [Ne, front_eq_none, split]
      simp
    have chosen := always best selected
    obtain ⟨ahead, behind, whole, beaten, unbeating⟩ := front_split order selected
    rw [split, List.append_eq_append_iff] at whole
    -- The two places in the list coincide or one lies strictly behind the other.
    rcases whole with ⟨middle, rfl, rest⟩ | ⟨middle, rfl, rest⟩
    · cases middle with
      | nil =>
          rw [List.nil_append, List.cons.injEq] at rest
          exact absurd (rest.1 ▸ chosen) bad
      | cons first middle =>
          rw [List.cons_append, List.cons.injEq] at rest
          refine .inr ⟨best, rest.2 ▸ by simp, chosen, ?_⟩
          exact beaten element (rest.1 ▸ by simp)
    · cases middle with
      | nil =>
          rw [List.nil_append, List.cons.injEq] at rest
          exact absurd (rest.1 ▸ chosen) bad
      | cons first middle =>
          rw [List.cons_append, List.cons.injEq] at rest
          refine .inl ⟨best, rest.1 ▸ by simp, chosen, ?_⟩
          exact unbeating element (rest.2 ▸ by simp)
  · intro outranked best selected
    by_contra bad
    obtain ⟨earlier, later, split, beaten, unbeating⟩ := front_split order selected
    rcases outranked earlier best later split bad with
      ⟨other, member, -, unbeaten⟩ | ⟨other, member, -, larger⟩
    · rw [beaten other member] at unbeaten
      simp at unbeaten
    · rw [unbeating other member] at larger
      simp at larger

end Selection

import Mathlib.Data.List.Nodup
import Mathlib.Data.List.Induction

/-!
# Finite maps with an unspecified iteration order

A finite map is an association list whose keys are distinct.  The order of the
entries records one possible iteration order of a hash container; nothing below
depends on it, and callers that expose an order sort the values first.

All facts about an operation are stated through membership of its entries.
Lookup is reduced to membership by `find?_eq_some`, so an invariant that ranges
over the entries of a map never needs to reason about a search.
-/

universe u v w

/-- An association list with pairwise distinct keys. -/
structure FiniteMap (κ : Type u) (ν : Type v) where
  entries : List (κ × ν)
  nodup : (entries.map Prod.fst).Nodup
  deriving DecidableEq

namespace FiniteMap

variable {κ : Type u} {ν : Type v}

/-- The map without entries. -/
def empty : FiniteMap κ ν := ⟨[], by simp⟩

/-- Number of entries. -/
def size (map : FiniteMap κ ν) : Nat := map.entries.length

/-- Stored values, in iteration order. -/
def values (map : FiniteMap κ ν) : List ν := map.entries.map Prod.snd

@[simp] theorem entries_empty : (empty : FiniteMap κ ν).entries = [] := rfl

@[simp] theorem size_empty : (empty : FiniteMap κ ν).size = 0 := rfl

theorem mem_values {map : FiniteMap κ ν} {value : ν} :
    value ∈ map.values ↔ ∃ key, (key, value) ∈ map.entries := by
  simp [values]

/-- A key determines its value. -/
theorem value_unique {map : FiniteMap κ ν} {key : κ} {left right : ν}
    (leftMem : (key, left) ∈ map.entries) (rightMem : (key, right) ∈ map.entries) :
    left = right := by
  have equal := List.inj_on_of_nodup_map map.nodup leftMem rightMem rfl
  exact congrArg Prod.snd equal

/-- Values that name their key name distinct ones. -/
theorem nodup_keys_values {map : FiniteMap κ ν} {keyOf : ν → κ} {values : List ν}
    (keyed : ∀ {key value}, (key, value) ∈ map.entries → keyOf value = key)
    (perm : values.Perm map.values) : (values.map keyOf).Nodup := by
  have keys : map.values.map keyOf = map.entries.map Prod.fst := by
    rw [FiniteMap.values, List.map_map]
    exact List.map_congr_left fun _ member => keyed member
  rw [(perm.map keyOf).nodup_iff, keys]
  exact map.nodup

/-- Distinct occupied keys are no more than the entries. -/
theorem length_le_size {map : FiniteMap κ ν} {keys : List κ} (distinct : keys.Nodup)
    (occupied : ∀ key ∈ keys, ∃ value, (key, value) ∈ map.entries) :
    keys.length ≤ map.size := by
  have within : keys ⊆ map.entries.map Prod.fst := by
    intro key member
    obtain ⟨value, stored⟩ := occupied key member
    exact List.mem_map.mpr ⟨_, stored, rfl⟩
  simpa [size] using List.Nodup.length_le_of_subset distinct within

/-- The entries are at most as many as the keys they may use. -/
theorem size_le_of_keys {map : FiniteMap κ ν} {keys : List κ}
    (within : ∀ {key value}, (key, value) ∈ map.entries → key ∈ keys) :
    map.size ≤ keys.length := by
  have subset : map.entries.map Prod.fst ⊆ keys := by
    intro key member
    obtain ⟨entry, entryMem, rfl⟩ := List.mem_map.mp member
    exact within entryMem
  simpa [size] using List.Nodup.length_le_of_subset map.nodup subset

/-- Keep the entries a predicate accepts. -/
def filter (map : FiniteMap κ ν) (keep : κ × ν → Bool) : FiniteMap κ ν where
  entries := map.entries.filter keep
  nodup := map.nodup.sublist (List.filter_sublist.map _)

@[simp] theorem mem_filter {map : FiniteMap κ ν} {keep : κ × ν → Bool} {entry : κ × ν} :
    entry ∈ (map.filter keep).entries ↔ entry ∈ map.entries ∧ keep entry = true :=
  List.mem_filter

theorem size_filter_le (map : FiniteMap κ ν) (keep : κ × ν → Bool) :
    (map.filter keep).size ≤ map.size :=
  List.length_filter_le _ _

/-- Update every value in place. -/
def mapValues {ω : Type w} (map : FiniteMap κ ν) (image : ν → ω) : FiniteMap κ ω where
  entries := map.entries.map fun entry => (entry.1, image entry.2)
  nodup := by
    rw [List.map_map]
    exact map.nodup

@[simp] theorem mem_mapValues {ω : Type w} {map : FiniteMap κ ν} {image : ν → ω}
    {key : κ} {result : ω} :
    (key, result) ∈ (map.mapValues image).entries ↔
      ∃ value, (key, value) ∈ map.entries ∧ image value = result := by
  simp [mapValues]

@[simp] theorem mapValues_empty {ω : Type w} (image : ν → ω) :
    (empty : FiniteMap κ ν).mapValues image = empty := rfl

@[simp] theorem size_mapValues {ω : Type w} (map : FiniteMap κ ν) (image : ν → ω) :
    (map.mapValues image).size = map.size := by
  simp [size, mapValues]

/-- Updating every value to itself. -/
theorem mapValues_eq_self {map : FiniteMap κ ν} {image : ν → ν}
    (same : ∀ {key value}, (key, value) ∈ map.entries → image value = value) :
    map.mapValues image = map := by
  have entries : map.entries.map (fun entry => (entry.1, image entry.2)) =
      map.entries := by
    rw [List.map_congr_left fun entry member => congrArg (Prod.mk entry.1) (same member)]
    exact List.map_id _
  cases map with
  | mk stored nodup =>
      rw [mapValues, FiniteMap.mk.injEq]
      exact entries

variable [DecidableEq κ]

/-- The value stored under a key. -/
def find? (map : FiniteMap κ ν) (key : κ) : Option ν :=
  map.entries.lookup key

/-- Lookup finds exactly the entries. -/
@[simp] theorem find?_eq_some {map : FiniteMap κ ν} {key : κ} {value : ν} :
    map.find? key = some value ↔ (key, value) ∈ map.entries := by
  constructor
  · intro found
    obtain ⟨before, after, split, -⟩ := List.lookup_eq_some_iff.mp found
    simp [split]
  · intro member
    cases found : map.find? key with
    | none =>
        have absent := List.lookup_eq_none_iff.mp found
        simpa using absent _ member
    | some other =>
        obtain ⟨before, after, split, -⟩ := List.lookup_eq_some_iff.mp found
        have otherMem : (key, other) ∈ map.entries := by simp [split]
        rw [value_unique otherMem member]

theorem find?_eq_none {map : FiniteMap κ ν} {key : κ} :
    map.find? key = none ↔ ∀ value, (key, value) ∉ map.entries := by
  rw [Option.eq_none_iff_forall_ne_some]
  simp only [ne_eq, find?_eq_some]

@[simp] theorem find?_empty (key : κ) : (empty : FiniteMap κ ν).find? key = none := rfl

/-- A search by key through the values, in any order, is a lookup. -/
theorem find?_values {map : FiniteMap κ ν} {keyOf : ν → κ} {values : List ν}
    (keyed : ∀ {key value}, (key, value) ∈ map.entries → keyOf value = key)
    (perm : values.Perm map.values) (key : κ) :
    values.find? (fun value => keyOf value = key) = map.find? key := by
  apply Option.ext
  intro value
  rw [find?_eq_some]
  constructor
  · intro found
    have same : keyOf value = key := by simpa using List.find?_some found
    obtain ⟨stored, member⟩ := mem_values.mp
      (perm.mem_iff.mp (List.mem_of_find?_eq_some found))
    rwa [← same, keyed member]
  · intro member
    cases found : values.find? (fun value => keyOf value = key) with
    | none =>
        have listed := perm.mem_iff.mpr (mem_values.mpr ⟨key, member⟩)
        simpa [keyed member] using List.find?_eq_none.mp found value listed
    | some other =>
        have same : keyOf other = key := by simpa using List.find?_some found
        obtain ⟨stored, otherMem⟩ := mem_values.mp
          (perm.mem_iff.mp (List.mem_of_find?_eq_some found))
        rw [← keyed otherMem, same] at otherMem
        rw [value_unique otherMem member]

/-- Insert under a fresh key; an occupied key keeps its value. -/
def emplace (map : FiniteMap κ ν) (key : κ) (value : ν) : FiniteMap κ ν :=
  if occupied : (map.find? key).isSome then map
  else
    ⟨map.entries ++ [(key, value)], by
      have absent : ∀ other, (key, other) ∉ map.entries := by
        simpa [Option.isSome_iff_ne_none, find?_eq_none] using occupied
      rw [List.map_append]
      refine List.nodup_append.mpr ⟨map.nodup, by simp, ?_⟩
      rintro first firstMem second secondMem rfl
      obtain ⟨⟨_, other⟩, member, rfl⟩ := List.mem_map.mp firstMem
      obtain rfl : _ = key := by simpa using secondMem
      exact absent other member⟩

theorem emplace_of_find?_eq_none {map : FiniteMap κ ν} {key : κ} {value : ν}
    (fresh : map.find? key = none) :
    (map.emplace key value).entries = map.entries ++ [(key, value)] := by
  simp [emplace, fresh]

theorem emplace_of_find?_eq_some {map : FiniteMap κ ν} {key : κ} {value current : ν}
    (found : map.find? key = some current) : map.emplace key value = map := by
  simp only [emplace, found, Option.isSome_some, dite_true]

theorem mem_emplace {map : FiniteMap κ ν} {key : κ} {value : ν} {entry : κ × ν}
    (member : entry ∈ (map.emplace key value).entries) :
    entry ∈ map.entries ∨ entry = (key, value) := by
  cases found : map.find? key with
  | none =>
      rw [emplace_of_find?_eq_none found] at member
      simpa using member
  | some current =>
      rw [emplace_of_find?_eq_some found] at member
      exact .inl member

theorem subset_emplace (map : FiniteMap κ ν) (key : κ) (value : ν) :
    map.entries ⊆ (map.emplace key value).entries := by
  intro entry member
  cases found : map.find? key with
  | none => simp [emplace_of_find?_eq_none found, member]
  | some current => rwa [emplace_of_find?_eq_some found]

theorem size_emplace_le (map : FiniteMap κ ν) (key : κ) (value : ν) :
    (map.emplace key value).size ≤ map.size + 1 := by
  cases found : map.find? key with
  | none => simp [size, emplace_of_find?_eq_none found]
  | some current => simp [emplace_of_find?_eq_some found]

/-- Overwrite the value under an occupied key; other entries keep their place. -/
def assign (map : FiniteMap κ ν) (key : κ) (value : ν) : FiniteMap κ ν where
  entries := map.entries.map fun entry => if entry.1 = key then (key, value) else entry
  nodup := by
    have keys : (map.entries.map fun entry =>
        if entry.1 = key then (key, value) else entry).map Prod.fst =
          map.entries.map Prod.fst := by
      rw [List.map_map]
      refine List.map_congr_left fun entry _ => ?_
      by_cases same : entry.1 = key <;> simp [same]
    rw [keys]
    exact map.nodup

theorem mem_assign {map : FiniteMap κ ν} {key : κ} {value : ν} {entry : κ × ν}
    (member : entry ∈ (map.assign key value).entries) :
    (entry ∈ map.entries ∧ entry.1 ≠ key) ∨ entry = (key, value) := by
  obtain ⟨source, sourceMem, image⟩ := List.mem_map.mp member
  by_cases same : source.1 = key
  · right
    simpa [same] using image.symm
  · left
    obtain rfl : source = entry := by simpa [same] using image
    exact ⟨sourceMem, same⟩

/-- Every occupied key stays occupied. -/
theorem exists_mem_assign {map : FiniteMap κ ν} {key other : κ} {value current : ν}
    (member : (other, current) ∈ map.entries) :
    ∃ stored, (other, stored) ∈ (map.assign key value).entries := by
  by_cases same : other = key
  · exact ⟨value, List.mem_map.mpr ⟨_, member, by simp [same]⟩⟩
  · exact ⟨current, List.mem_map.mpr ⟨_, member, by simp [same]⟩⟩

theorem assign_mem {map : FiniteMap κ ν} {key : κ} {value current : ν}
    (member : (key, current) ∈ map.entries) :
    (key, value) ∈ (map.assign key value).entries :=
  List.mem_map.mpr ⟨_, member, by simp⟩

theorem mem_assign_of_ne {map : FiniteMap κ ν} {key : κ} {value : ν} {entry : κ × ν}
    (member : entry ∈ map.entries) (different : entry.1 ≠ key) :
    entry ∈ (map.assign key value).entries :=
  List.mem_map.mpr ⟨_, member, by simp [different]⟩

theorem find?_assign_self {map : FiniteMap κ ν} {key : κ} {value current : ν}
    (found : map.find? key = some current) :
    (map.assign key value).find? key = some value :=
  find?_eq_some.mpr (assign_mem (find?_eq_some.mp found))

theorem find?_assign_of_ne {map : FiniteMap κ ν} {key other : κ} {value : ν}
    (different : other ≠ key) : (map.assign key value).find? other = map.find? other := by
  apply Option.ext
  intro stored
  rw [find?_eq_some, find?_eq_some]
  constructor
  · intro member
    rcases mem_assign member with ⟨kept, -⟩ | same
    · exact kept
    · exact absurd (congrArg Prod.fst same) different
  · intro member
    exact mem_assign_of_ne member different

@[simp] theorem size_assign (map : FiniteMap κ ν) (key : κ) (value : ν) :
    (map.assign key value).size = map.size := by
  simp [size, assign]

/-- Remove the entry under a key. -/
def erase (map : FiniteMap κ ν) (key : κ) : FiniteMap κ ν :=
  map.filter fun entry => entry.1 ≠ key

@[simp] theorem mem_erase {map : FiniteMap κ ν} {key : κ} {entry : κ × ν} :
    entry ∈ (map.erase key).entries ↔ entry ∈ map.entries ∧ entry.1 ≠ key := by
  simp [erase]

theorem size_erase_le (map : FiniteMap κ ν) (key : κ) :
    (map.erase key).size ≤ map.size :=
  size_filter_le _ _

theorem find?_filter (map : FiniteMap κ ν) (keep : κ × ν → Bool) (key : κ) :
    (map.filter keep).find? key = (map.find? key).filter fun value =>
      keep (key, value) := by
  apply Option.ext
  intro value
  simp only [find?_eq_some, mem_filter, Option.filter_eq_some_iff]

@[simp] theorem find?_mapValues {ω : Type w} (map : FiniteMap κ ν) (image : ν → ω)
    (key : κ) : (map.mapValues image).find? key = (map.find? key).map image := by
  apply Option.ext
  intro value
  simp only [find?_eq_some, mem_mapValues, Option.map_eq_some_iff]

/-- In a map that lists records under their keys, a lookup is a search. -/
theorem find?_of_entries_eq {ρ : Type*} {map : FiniteMap κ ν} {keyOf : ρ → κ}
    {valueOf : ρ → ν} {records : List ρ}
    (listed : map.entries = records.map fun record => (keyOf record, valueOf record))
    (key : κ) : map.find? key = (records.find? (keyOf · = key)).map valueOf := by
  rw [find?, listed]
  clear listed
  induction records with
  | nil => rfl
  | cons record records ih =>
      rw [List.map_cons, List.lookup_cons, List.find?_cons, ih]
      by_cases same : keyOf record = key
      · simp [same]
      · simp [same, beq_false_of_ne (Ne.symm same)]

/-- Write a value whether or not the key is occupied, as `operator[]` does. -/
def set (map : FiniteMap κ ν) (key : κ) (value : ν) : FiniteMap κ ν :=
  if (map.find? key).isSome then map.assign key value else map.emplace key value

theorem set_of_find?_eq_none {map : FiniteMap κ ν} {key : κ} {value : ν}
    (fresh : map.find? key = none) : map.set key value = map.emplace key value := by
  simp [set, fresh]

theorem set_of_find?_eq_some {map : FiniteMap κ ν} {key : κ} {value current : ν}
    (found : map.find? key = some current) :
    map.set key value = map.assign key value := by
  simp only [set, found, Option.isSome_some, if_true]

@[simp] theorem find?_set_self (map : FiniteMap κ ν) (key : κ) (value : ν) :
    (map.set key value).find? key = some value := by
  rw [find?_eq_some]
  cases found : map.find? key with
  | none => simp [set, found, emplace_of_find?_eq_none found]
  | some current => simpa [set, found] using assign_mem (find?_eq_some.mp found)

theorem find?_set_of_ne (map : FiniteMap κ ν) {key other : κ} (value : ν)
    (different : other ≠ key) : (map.set key value).find? other = map.find? other := by
  apply Option.ext
  intro current
  rw [find?_eq_some, find?_eq_some]
  cases found : map.find? key with
  | none => simp [set, found, emplace_of_find?_eq_none found, different]
  | some stored =>
      simp only [set, found, Option.isSome_some, if_true]
      constructor
      · intro member
        rcases mem_assign member with ⟨old, -⟩ | equal
        · exact old
        · exact absurd (congrArg Prod.fst equal) different
      · intro member
        exact mem_assign_of_ne member different

theorem find?_set (map : FiniteMap κ ν) (key other : κ) (value : ν) :
    (map.set key value).find? other =
      if other = key then some value else map.find? other := by
  by_cases same : other = key
  · rw [if_pos same, same, find?_set_self]
  · rw [if_neg same, find?_set_of_ne map value same]

/-- Emplacing keeps the value of an occupied key. -/
theorem find?_emplace (map : FiniteMap κ ν) (key other : κ) (value : ν) :
    (map.emplace key value).find? other =
      (map.find? other).or (if other = key then some value else none) := by
  cases found : map.find? key with
  | none =>
      rw [← set_of_find?_eq_none found, find?_set]
      by_cases same : other = key
      · simp [same, found]
      · simp [same]
  | some current =>
      rw [emplace_of_find?_eq_some found]
      by_cases same : other = key
      · simp [same, found]
      · simp [same]

/-! ## Records listed with repetitions -/

section Firsts

variable {ρ : Type w} {keyOf : ρ → κ}

/-- The first record of each key. -/
def firsts (keyOf : ρ → κ) (records : List ρ) : List ρ :=
  records.foldl
    (fun kept record => if keyOf record ∈ kept.map keyOf then kept
      else kept ++ [record]) []

theorem firsts_concat (records : List ρ) (record : ρ) :
    firsts keyOf (records ++ [record]) =
      if keyOf record ∈ (firsts keyOf records).map keyOf then firsts keyOf records
      else firsts keyOf records ++ [record] := by
  simp [firsts]

theorem mem_of_mem_firsts {records : List ρ} {record : ρ}
    (member : record ∈ firsts keyOf records) : record ∈ records := by
  induction records using List.reverseRecOn with
  | nil => exact member
  | append_singleton records last ih =>
      rw [firsts_concat] at member
      split at member
      · exact List.mem_append_left _ (ih member)
      · rcases List.mem_append.mp member with old | new
        · exact List.mem_append_left _ (ih old)
        · exact List.mem_append_right _ new

/-- Searching the first records is searching all of them. -/
theorem find?_firsts (records : List ρ) (key : κ) :
    (firsts keyOf records).find? (keyOf · = key) = records.find? (keyOf · = key) := by
  induction records using List.reverseRecOn with
  | nil => rfl
  | append_singleton records last ih =>
      rw [firsts_concat, List.find?_append]
      split
      next repeated =>
        rw [ih]
        by_cases same : keyOf last = key
        · obtain ⟨first, member, equal⟩ := List.mem_map.mp repeated
          have found : (records.find? (keyOf · = key)).isSome = true := by
            rw [List.find?_isSome]
            exact ⟨first, mem_of_mem_firsts member, by simp [equal, same]⟩
          rw [Option.or_of_isSome found]
        · simp [same]
      · rw [List.find?_append, ih]

theorem mem_firsts_of_find? {records : List ρ} {key : κ} {first : ρ}
    (found : records.find? (keyOf · = key) = some first) :
    first ∈ firsts keyOf records := by
  rw [← find?_firsts] at found
  exact List.mem_of_find?_eq_some found

/-- A key that occurred adds nothing. -/
theorem firsts_concat_of_some {records : List ρ} {record first : ρ}
    (found : records.find? (keyOf · = keyOf record) = some first) :
    firsts keyOf (records ++ [record]) = firsts keyOf records := by
  have same : keyOf first = keyOf record := by simpa using List.find?_some found
  rw [firsts_concat, if_pos (List.mem_map.mpr ⟨first, mem_firsts_of_find? found, same⟩)]

/-- A new key adds its record. -/
theorem firsts_concat_of_none {records : List ρ} {record : ρ}
    (absent : records.find? (keyOf · = keyOf record) = none) :
    keyOf record ∉ (firsts keyOf records).map keyOf ∧
      firsts keyOf (records ++ [record]) = firsts keyOf records ++ [record] := by
  have fresh : keyOf record ∉ (firsts keyOf records).map keyOf := by
    intro listed
    obtain ⟨other, member, same⟩ := List.mem_map.mp listed
    simpa [same] using List.find?_eq_none.mp absent other (mem_of_mem_firsts member)
  exact ⟨fresh, by rw [firsts_concat, if_neg fresh]⟩

/-- A first record is the one a search for its key finds. -/
theorem find?_of_mem_firsts {records : List ρ} {first : ρ}
    (member : first ∈ firsts keyOf records) :
    records.find? (keyOf · = keyOf first) = some first := by
  induction records using List.reverseRecOn with
  | nil => simp [firsts] at member
  | append_singleton records last ih =>
      rw [firsts_concat] at member
      rw [List.find?_append]
      split at member
      · rw [ih member]
        rfl
      next fresh =>
        rcases List.mem_append.mp member with old | new
        · rw [ih old]
          rfl
        · obtain rfl := List.mem_singleton.mp new
          have absent : records.find? (keyOf · = keyOf first) = none := by
            rw [← find?_firsts, List.find?_eq_none]
            intro other otherMem
            have different : keyOf other ≠ keyOf first :=
              fun same => fresh (List.mem_map.mpr ⟨other, otherMem, same⟩)
            simpa using different
          rw [absent]
          simp

end Firsts

/-! ## Counting values -/

theorem countP_assign {entries : List (κ × ν)}
    (nodup : (entries.map Prod.fst).Nodup) (key : κ) (value current : ν) (test : ν → Bool)
    (member : (key, current) ∈ entries) :
    (entries.map fun entry => if entry.1 = key then (key, value) else entry).countP
        (test ·.2) + (test current).toNat =
      entries.countP (test ·.2) + (test value).toNat := by
  induction entries with
  | nil => simp at member
  | cons entry entries ih =>
      obtain ⟨absent, distinct⟩ := List.nodup_cons.mp nodup
      rw [List.map_cons, List.countP_cons, List.countP_cons]
      by_cases same : entry.1 = key
      · have unchanged : (entries.map fun entry =>
            if entry.1 = key then (key, value) else entry) = entries := by
          rw [List.map_congr_left (g := id) fun other otherMem => ?_, List.map_id]
          have different : other.1 ≠ key := by
            intro equal
            exact absent (List.mem_map.mpr ⟨other, otherMem, equal.trans same.symm⟩)
          exact if_neg different
        have found : entry.2 = current := by
          rcases List.mem_cons.mp member with equal | other
          · rw [← equal]
          · exact absurd (List.mem_map.mpr ⟨_, other, same.symm⟩) absent
        rw [unchanged, if_pos same, found]
        cases test current <;> cases test value <;> simp
      · have inside : (key, current) ∈ entries := by
          rcases List.mem_cons.mp member with equal | inside
          · exact absurd (congrArg Prod.fst equal).symm same
          · exact inside
        have rest := ih distinct inside
        rw [if_neg same]
        omega

/-- Writing one key changes a count by what the new value adds and the old one took. -/
theorem countP_values_set (map : FiniteMap κ ν) (key : κ) (value : ν) (test : ν → Bool) :
    (map.set key value).values.countP test + ((map.find? key).any test).toNat =
      map.values.countP test + (test value).toNat := by
  simp only [values, List.countP_map]
  cases found : map.find? key with
  | none =>
      rw [set_of_find?_eq_none found, emplace_of_find?_eq_none found, List.countP_append]
      cases holds : test value <;> simp [holds]
  | some current =>
      rw [set_of_find?_eq_some found]
      exact countP_assign map.nodup key value current test (find?_eq_some.mp found)

end FiniteMap

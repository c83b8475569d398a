import Mathlib.Data.List.Sort

/-!
# Simple paths of a multigraph

Nodes are joined by edges that carry their own destination, so parallel edges
give distinct paths.  `search` lists the simple paths of bounded length to a
target in the order a depth-first search meets them; `mem_search` says that it
lists all of them and `pairwise_search` that, when the edges of each node are
listed by increasing label, the label sequences increase lexicographically.

`fill` collects results up to a bound, the way a search stops once its output is
full: what is collected from several sources is a prefix of their concatenation.
-/

universe u v w

namespace SimplePaths

variable {ν : Type u} {ε : Type v}

section Fill

variable {α : Type w} {bound : Nat}

/-- Append as many of the new elements as the bound leaves room for. -/
def fill (bound : Nat) (out new : List α) : List α := out ++ new.take (bound - out.length)

@[simp] theorem fill_nil (out : List α) : fill bound out [] = out := by
  simp [fill]

theorem fill_of_full {out : List α} (full : bound ≤ out.length) (new : List α) :
    fill bound out new = out := by
  have none : bound - out.length = 0 := by omega
  simp [fill, none]

theorem fill_singleton {out : List α} (room : out.length < bound) (value : α) :
    fill bound out [value] = out ++ [value] := by
  have some : 1 ≤ bound - out.length := by omega
  rw [fill, List.take_of_length_le (by simpa using some)]

/-- Collecting in two rounds is collecting once. -/
theorem fill_append (out first second : List α) :
    fill bound out (first ++ second) = fill bound (fill bound out first) second := by
  simp only [fill, List.take_append, List.length_append, List.length_take,
    List.append_assoc]
  by_cases all : first.length ≤ bound - out.length
  · rw [min_eq_right all, Nat.sub_sub]
  · have none : bound - out.length - first.length = 0 := by omega
    have full : bound - (out.length + min (bound - out.length) first.length) =
        0 := by omega
    rw [none, full]

/-- A loop whose every round collects what one source yields collects what all of
them yield. -/
theorem foldl_fill {β : Type v} {round : List α → β → List α} {yields : β → List α}
    (collects : ∀ out source, round out source = fill bound out (yields source))
    (sources : List β) (out : List α) :
    sources.foldl round out = fill bound out (sources.flatMap yields) := by
  induction sources generalizing out with
  | nil => simp
  | cons source sources ih =>
      rw [List.foldl_cons, ih, collects, List.flatMap_cons, fill_append]

end Fill

/-- Each edge leaves the node that the one before it reached. -/
def Walk (leaves : ν → ε → Prop) (dest : ε → ν) : ν → List ε → Prop
  | _, [] => True
  | current, edge :: edges => leaves current edge ∧ Walk leaves dest (dest edge) edges

/-- A walk of one to `depth` edges that ends in `target` and enters no node twice,
nor any node of `visited`. -/
structure Simple (leaves : ν → ε → Prop) (dest : ε → ν) (target : ν) (depth : Nat)
    (current : ν) (visited : List ν) (edges : List ε) : Prop where
  walk : Walk leaves dest current edges
  ends : edges.getLast?.map dest = some target
  short : edges.length ≤ depth
  nodup : (edges.map dest).Nodup
  unvisited : ∀ edge ∈ edges, dest edge ∉ visited

variable {adjacent : ν → List ε} {leaves : ν → ε → Prop} {dest : ε → ν} {target : ν}

theorem simple_singleton {depth : Nat} {current : ν} {visited : List ν} {edge : ε}
    (reaches : dest edge = target) :
    Simple leaves dest target (depth + 1) current visited [edge] ↔
      leaves current edge ∧ dest edge ∉ visited := by
  constructor
  · intro simple
    exact ⟨simple.walk.1, simple.unvisited edge List.mem_cons_self⟩
  · intro ⟨leaving, fresh⟩
    exact ⟨⟨leaving, trivial⟩, by simp [reaches], by simp, by simp, by simpa using fresh⟩

/-- A longer path is an edge to a new node and a path from there that avoids it. -/
theorem simple_cons {depth : Nat} {current : ν} {visited : List ν} {edge second : ε}
    {edges : List ε} :
    Simple leaves dest target (depth + 1) current visited (edge :: second :: edges) ↔
      (leaves current edge ∧ dest edge ∉ visited) ∧
        Simple leaves dest target depth (dest edge) (dest edge :: visited)
          (second :: edges) := by
  constructor
  · intro simple
    obtain ⟨absent, distinct⟩ := List.nodup_cons.mp simple.nodup
    refine ⟨⟨simple.walk.1, simple.unvisited edge List.mem_cons_self⟩,
      simple.walk.2, ?_, ?_, distinct, ?_⟩
    · simpa using simple.ends
    · simpa using simple.short
    · intro later member visited
      rcases List.mem_cons.mp visited with same | before
      · exact absent (List.mem_map.mpr ⟨later, member, same⟩)
      · exact simple.unvisited later (List.mem_cons_of_mem _ member) before
  · intro ⟨⟨leaving, fresh⟩, rest⟩
    refine ⟨⟨leaving, rest.walk⟩, ?_, ?_, ?_, ?_⟩
    · simpa using rest.ends
    · simpa using rest.short
    · rw [List.map_cons, List.nodup_cons]
      refine ⟨?_, rest.nodup⟩
      intro entered
      obtain ⟨later, member, same⟩ := List.mem_map.mp entered
      exact rest.unvisited later member (same ▸ List.mem_cons_self)
    · intro later member
      rcases List.mem_cons.mp member with rfl | inside
      · exact fresh
      · exact fun before => rest.unvisited later inside (List.mem_cons_of_mem _ before)

/-- A path that goes on after an edge did not reach the target by it. -/
theorem dest_ne_target {depth : Nat} {current : ν} {visited : List ν} {edge second : ε}
    {edges : List ε}
    (simple : Simple leaves dest target depth current visited (edge :: second :: edges)) :
    dest edge ≠ target := by
  intro early
  have final := simple.ends
  rw [List.getLast?_cons_cons, List.getLast?_eq_some_getLast (by simp), Option.map_some,
    Option.some.injEq] at final
  apply (List.nodup_cons.mp simple.nodup).1
  exact List.mem_map.mpr ⟨_, List.getLast_mem _, final.trans early.symm⟩

variable [DecidableEq ν]

/-- Paths that start with one edge; `onward` lists those from its destination. -/
def branch (dest : ε → ν) (target : ν) (visited : List ν) (onward : ν → List (List ε))
    (edge : ε) : List (List ε) :=
  if dest edge ∈ visited then []
  else if dest edge = target then [[edge]]
  else (onward (dest edge)).map (edge :: ·)

/-- Simple paths to `target` in the order of a depth-first search. -/
def search (adjacent : ν → List ε) (dest : ε → ν) (target : ν) :
    Nat → ν → List ν → List (List ε)
  | 0, _, _ => []
  | depth + 1, current, visited =>
      (adjacent current).flatMap (branch dest target visited fun node =>
        search adjacent dest target depth node (node :: visited))

theorem mem_branch {visited : List ν} {onward : ν → List (List ε)} {edge : ε}
    {edges : List ε} :
    edges ∈ branch dest target visited onward edge ↔ dest edge ∉ visited ∧
      (dest edge = target ∧ edges = [edge] ∨
        dest edge ≠ target ∧ ∃ rest ∈ onward (dest edge), edge :: rest = edges) := by
  rw [branch]
  split
  next entered => simp [entered]
  next fresh =>
    split
    next reaches =>
      subst reaches
      simp [fresh]
    next goesOn => simp [fresh, goesOn]

theorem head_of_mem_branch {visited : List ν} {onward : ν → List (List ε)} {edge : ε}
    {edges : List ε} (member : edges ∈ branch dest target visited onward edge) :
    ∃ rest, edges = edge :: rest := by
  obtain ⟨-, ⟨-, rfl⟩ | ⟨-, rest, -, rfl⟩⟩ := mem_branch.mp member
  · exact ⟨[], rfl⟩
  · exact ⟨rest, rfl⟩

/-- The search lists the simple paths of bounded length and nothing else. -/
theorem mem_search (adjacency : ∀ node edge, edge ∈ adjacent node ↔ leaves node edge)
    {depth : Nat} {current : ν} {visited : List ν} {edges : List ε} :
    edges ∈ search adjacent dest target depth current visited ↔
      Simple leaves dest target depth current visited edges := by
  induction depth generalizing current visited edges with
  | zero =>
      constructor
      · intro member
        simp [search] at member
      · intro simple
        have none := List.length_eq_zero_iff.mp (Nat.le_zero.mp simple.short)
        have ends := simple.ends
        simp [none] at ends
  | succ depth ih =>
      rw [search, List.mem_flatMap]
      constructor
      · rintro ⟨edge, leaving, member⟩
        rw [adjacency] at leaving
        obtain ⟨fresh, ⟨reaches, rfl⟩ | ⟨-, rest, inner, rfl⟩⟩ := mem_branch.mp member
        · exact (simple_singleton reaches).mpr ⟨leaving, fresh⟩
        · have simple := ih.mp inner
          cases rest with
          | nil => simpa using simple.ends
          | cons second rest => exact simple_cons.mpr ⟨⟨leaving, fresh⟩, simple⟩
      · intro simple
        cases edges with
        | nil => simpa using simple.ends
        | cons edge rest =>
            cases rest with
            | nil =>
                have reaches : dest edge = target := by simpa using simple.ends
                obtain ⟨leaving, fresh⟩ := (simple_singleton reaches).mp simple
                exact ⟨edge, (adjacency _ _).mpr leaving,
                  mem_branch.mpr ⟨fresh, .inl ⟨reaches, rfl⟩⟩⟩
            | cons second rest =>
                have goesOn := dest_ne_target simple
                obtain ⟨⟨leaving, fresh⟩, inner⟩ := simple_cons.mp simple
                exact ⟨edge, (adjacency _ _).mpr leaving,
                  mem_branch.mpr ⟨fresh, .inr ⟨goesOn, _, ih.mpr inner, rfl⟩⟩⟩

/-- Edges listed by increasing label make the label sequences increase. -/
theorem pairwise_search {β : Type w} {before : β → β → Prop} {label : ε → β}
    (ordered : ∀ node, (adjacent node).Pairwise fun left right =>
      before (label left) (label right))
    (depth : Nat) (current : ν) (visited : List ν) :
    (search adjacent dest target depth current visited).Pairwise fun left right =>
      List.Lex before (left.map label) (right.map label) := by
  induction depth generalizing current visited with
  | zero => exact List.Pairwise.nil
  | succ depth ih =>
      rw [search, List.pairwise_flatMap]
      constructor
      · intro edge _
        rw [branch]
        split
        · exact List.Pairwise.nil
        split
        · exact List.pairwise_singleton _ _
        · rw [List.pairwise_map]
          exact (ih _ _).imp fun less => List.Lex.cons less
      · apply (ordered current).imp
        intro left right less first firstMem second secondMem
        obtain ⟨firstRest, rfl⟩ := head_of_mem_branch firstMem
        obtain ⟨secondRest, rfl⟩ := head_of_mem_branch secondMem
        exact List.Lex.rel less

end SimplePaths

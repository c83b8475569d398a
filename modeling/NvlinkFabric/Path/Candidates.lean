import NvlinkFabric.Path.Exact
import NvlinkFabric.Path.Quality

/-!
# What every candidate has

The search tries the edges of the source before it looks at the depth, so a depth
bound of zero admits the paths of one hop.  Whatever the bound, a candidate has at
least one link, is direct if it has exactly one, and each of its devices is an end
of one of its links.
-/

namespace NvlinkFabric

open SimplePaths

variable {limits bounds : Limits} {state : Registry.State} {topo : TopologySnapshot}
variable {source target : DeviceId} {path : Path}

/-- A depth bound of zero is a bound of one. -/
theorem enumeratePathsImpl_depth_zero (shallow : limits.maxPathDepth = 0) :
    enumeratePathsImpl topo source target limits =
      enumeratePathsImpl topo source target { limits with maxPathDepth := 1 } := by
  have searched : dfs topo source target limits 1 source [.device source] [source] [] =
      dfs topo source target { limits with maxPathDepth := 1 } 2 source [.device source]
        [source] [] := by
    rw [dfs, dfs]
    congr 2
    funext out edge
    simp [dfsEdge, shallow]
  rw [enumeratePathsImpl, enumeratePathsImpl, shallow, searched]

/-- A candidate runs over the edges of a simple path. -/
theorem edges_of_candidate
    (member : path ∈ enumeratePathsImpl topo source target limits) :
    ∃ edges, path = pathOver topo source target edges ∧
      Simple (fun node edge => edge ∈ buildAdjacency topo node) Edge.dest target
        (max 1 limits.maxPathDepth) source [source] edges := by
  have valid : ¬(source.isNil || target.isNil || decide (source = target)) = true := by
    intro invalid
    rw [enumeratePathsImpl, if_pos invalid] at member
    simp at member
  simp only [Id.isNil, Bool.or_eq_true, beq_iff_eq, decide_eq_true_eq, not_or] at valid
  obtain ⟨⟨sourceKnown, targetKnown⟩, distinct⟩ := valid
  have taken (bounds : Limits) (deep : 1 ≤ bounds.maxPathDepth)
      (member : path ∈ enumeratePathsImpl topo source target bounds) :
      ∃ edges, path = pathOver topo source target edges ∧
        Simple (fun node edge => edge ∈ buildAdjacency topo node) Edge.dest target
          bounds.maxPathDepth source [source] edges := by
    rw [enumeratePathsImpl_eq_take deep sourceKnown targetKnown distinct] at member
    obtain ⟨edges, within, rfl⟩ := List.mem_map.mp member
    exact ⟨edges, rfl, (mem_search fun _ _ => Iff.rfl).mp (List.mem_of_mem_take within)⟩
  rcases Nat.eq_zero_or_pos limits.maxPathDepth with shallow | deep
  · rw [enumeratePathsImpl_depth_zero shallow] at member
    rw [shallow, max_eq_left (Nat.zero_le 1)]
    exact taken _ (Nat.le_refl 1) member
  · rw [max_eq_right deep]
    exact taken limits deep member

theorem walk_edge {leaves : DeviceId → Edge → Prop} {current : DeviceId}
    {edges : List Edge} (walk : Walk leaves Edge.dest current edges) {edge : Edge}
    (member : edge ∈ edges) :
    ∃ node, leaves node edge := by
  induction edges generalizing current with
  | nil => simp at member
  | cons first edges ih =>
      rcases List.mem_cons.mp member with rfl | later
      · exact ⟨current, walk.1⟩
      · exact ih walk.2 later

theorem candidate_source (member : path ∈ enumeratePathsImpl topo source target limits) :
    path.source = source := by
  obtain ⟨edges, rfl, -⟩ := edges_of_candidate member
  rfl

theorem candidate_target (member : path ∈ enumeratePathsImpl topo source target limits) :
    path.target = target := by
  obtain ⟨edges, rfl, -⟩ := edges_of_candidate member
  rfl

/-- A candidate has a link, and is direct if it has one only. -/
theorem candidate_hops (member : path ∈ enumeratePathsImpl topo source target limits) :
    path.links ≠ [] ∧ path.hopCount = path.links.length ∧
      (path.direct = true ↔ path.hopCount = 1) := by
  obtain ⟨edges, rfl, simple⟩ := edges_of_candidate member
  refine ⟨?_, ?_, decide_eq_true_iff⟩
  · intro none
    have empty : edges = [] := by simpa using none
    have ends := simple.ends
    simp [empty] at ends
  · have hops : (pathOver topo source target edges).hopCount =
        (.device source :: hopElements edges).length / 2 := rfl
    rw [hops, pathOver_links, List.length_cons, length_hopElements, List.length_map]
    omega

theorem candidate_hopCount_pos
    (member : path ∈ enumeratePathsImpl topo source target limits) :
    0 < path.hopCount := by
  obtain ⟨nonempty, hops, -⟩ := candidate_hops member
  rw [hops]
  exact List.length_pos_iff.mpr nonempty

/-- The snapshot holds the links of its candidates. -/
theorem candidate_link (member : path ∈ enumeratePathsImpl topo source target limits)
    {id : LinkId} (on : id ∈ path.links) : ∃ link, topo.findLink id = some link := by
  obtain ⟨edges, rfl, simple⟩ := edges_of_candidate member
  rw [pathOver_links] at on
  obtain ⟨edge, used, rfl⟩ := List.mem_map.mp on
  obtain ⟨node, leaving⟩ := walk_edge simple.walk used
  simp only [buildAdjacency, List.mem_insertionSort, List.mem_flatMap, mem_linkEdges]
    at leaving
  obtain ⟨link, stored, same, -⟩ := leaving
  refine Option.isSome_iff_exists.mp ?_
  rw [TopologySnapshot.findLink, List.find?_isSome]
  exact ⟨link, stored, by simp [same]⟩

/-- In a coherent state every device of a candidate is an end of one of its links. -/
theorem candidate_device (tables : Registry.Tables bounds state.devices state.links)
    (member : path ∈ enumeratePathsImpl (Registry.buildSnapshot state) source
      target limits)
    {id : DeviceId} (on : id ∈ path.devices) :
    ∃ key ∈ path.links, ∃ link, state.links.find? key = some link ∧
      (link.source = id ∨ link.target = id) := by
  obtain ⟨edges, rfl, simple⟩ := edges_of_candidate member
  simp only [mem_adjacency tables] at simple
  rw [pathOver_devices, List.mem_cons, List.mem_map] at on
  rw [pathOver_links]
  rcases on with rfl | ⟨edge, used, rfl⟩
  · cases edges with
    | nil =>
        have ends := simple.ends
        simp at ends
    | cons edge edges =>
        obtain ⟨link, stored, joined⟩ := simple.walk.1
        exact ⟨edge.link, by simp, link, stored,
          joined.imp (·.1) (·.2.1)⟩
  · obtain ⟨node, link, stored, joined⟩ := walk_edge simple.walk used
    exact ⟨edge.link, List.mem_map_of_mem used, link, stored,
      joined.elim (fun forward => .inr forward.2) (fun backward => .inl backward.2.2)⟩

theorem candidate_endpoints
    (member : path ∈ enumeratePathsImpl topo source target limits) :
    source ∈ path.devices ∧ target ∈ path.devices := by
  obtain ⟨edges, rfl, simple⟩ := edges_of_candidate member
  rw [pathOver_devices]
  refine ⟨List.mem_cons_self, List.mem_cons_of_mem _ ?_⟩
  obtain ⟨last, final, rfl⟩ := Option.map_eq_some_iff.mp simple.ends
  exact List.mem_map_of_mem (List.mem_of_getLast? final)

/-- In a coherent state the snapshot holds both ends of a candidate. -/
theorem candidate_ends_found (tables : Registry.Tables bounds state.devices state.links)
    (member : path ∈ enumeratePathsImpl (Registry.buildSnapshot state) source
      target limits) :
    (Registry.buildSnapshot state).findDevice source ≠ none ∧
      (Registry.buildSnapshot state).findDevice target ≠ none := by
  have found (id : DeviceId) (on : id ∈ path.devices) :
      (Registry.buildSnapshot state).findDevice id ≠ none := by
    obtain ⟨key, -, link, stored, joined⟩ := candidate_device tables member on
    obtain ⟨-, sourceStored, targetStored⟩ :=
      tables.link_ends (FiniteMap.find?_eq_some.mp stored)
    rw [findDevice_buildSnapshot tables]
    rcases joined with rfl | rfl
    · exact Registry.find?_ne_none_of_present sourceStored
    · exact Registry.find?_ne_none_of_present targetStored
  obtain ⟨starts, ends⟩ := candidate_endpoints member
  exact ⟨found source starts, found target ends⟩

end NvlinkFabric

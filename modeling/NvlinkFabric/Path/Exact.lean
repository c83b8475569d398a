import NvlinkFabric.Path.Enumerate
import NvlinkFabric.Lib.SimplePaths

/-!
# What the enumeration returns

Over the links of a coherent state the adjacency lists of the search are sorted
by link identity and hold each link at most once.  The search therefore lists
the simple paths by increasing link sequence, and its output is the part of that
list that the bound on candidates leaves room for.
-/

namespace NvlinkFabric

open SimplePaths

variable {limits : Limits} {state : Registry.State} {topo : TopologySnapshot}
variable {source target : DeviceId}

/-- The edge runs over a stored link from `current`: along the link, or against it
if it is not directed. -/
def Leaves (state : Registry.State) (current : DeviceId) (edge : Edge) : Prop :=
  ∃ link, state.links.find? edge.link = some link ∧
    (link.source = current ∧ link.target = edge.dest ∨
      link.directed = false ∧ link.target = current ∧ link.source = edge.dest)

theorem mem_linkEdges {current : DeviceId} {link : LinkRecord} {edge : Edge} :
    edge ∈ linkEdges current link ↔ edge.link = link.id ∧
      (link.source = current ∧ link.target = edge.dest ∨
        link.directed = false ∧ link.target = current ∧ link.source = edge.dest) := by
  cases edge with
  | mk id dest =>
      by_cases starts : link.source = current <;> by_cases ends :
        link.target = current <;>
        cases directed : link.directed <;>
        simp [linkEdges, starts, ends, directed, eq_comm, and_comm]

/-- The adjacency of the snapshot is that of the stored links. -/
theorem mem_adjacency (tables : Registry.Tables limits state.devices state.links)
    (current : DeviceId) (edge : Edge) :
    edge ∈ buildAdjacency (Registry.buildSnapshot state) current ↔
      Leaves state current edge := by
  simp only [buildAdjacency, List.mem_insertionSort, List.mem_flatMap, mem_linkEdges,
    Registry.buildSnapshot, FiniteMap.mem_values, Leaves, FiniteMap.find?_eq_some]
  constructor
  · rintro ⟨link, ⟨key, stored⟩, same, joined⟩
    rw [same, (tables.link_key stored).1]
    exact ⟨link, stored, joined⟩
  · rintro ⟨link, stored, joined⟩
    exact ⟨link, ⟨_, stored⟩, (tables.link_key stored).1.symm, joined⟩

instance : Std.Total Edge.Le where
  total left right := by
    simp only [Edge.Le, Id.lt_iff, Id.le_iff, Id.eq_iff]
    omega

instance : IsTrans Edge Edge.Le where
  trans first second third := by
    simp only [Edge.Le, Id.lt_iff, Id.le_iff, Id.eq_iff]
    omega

/-- A link whose ends differ gives a device at most one edge. -/
theorem sublist_linkEdges {current : DeviceId} {links : List LinkRecord}
    (ends : ∀ link ∈ links, link.source ≠ link.target) :
    ((links.flatMap (linkEdges current)).map (·.link)).Sublist (links.map (·.id)) := by
  induction links with
  | nil => simp
  | cons link links ih =>
      have rest := ih fun other member => ends other (List.mem_cons_of_mem _ member)
      have distinct := ends link List.mem_cons_self
      rw [List.flatMap_cons, List.map_append, List.map_cons, ← List.singleton_append]
      apply List.Sublist.append _ rest
      by_cases starts : link.source = current
      · have elsewhere : link.target ≠ current := fun same =>
          distinct (starts.trans same.symm)
        simp [linkEdges, starts, elsewhere]
      · by_cases back : !link.directed && link.target = current
        · simp [linkEdges, starts, back]
        · simp [linkEdges, starts, back]

/-- The edges of a device are tried by increasing link identity. -/
theorem adjacency_increasing (tables : Registry.Tables limits state.devices state.links)
    (current : DeviceId) :
    (buildAdjacency (Registry.buildSnapshot state) current).Pairwise fun left right =>
      left.link < right.link := by
  have perm : (Registry.buildSnapshot state).links.Perm state.links.values :=
    List.perm_insertionSort _ _
  have ends : ∀ link ∈ (Registry.buildSnapshot state).links,
      link.source ≠ link.target := by
    intro link member
    obtain ⟨key, stored⟩ := FiniteMap.mem_values.mp (perm.mem_iff.mp member)
    exact (tables.link_ends stored).1
  have identities : ((Registry.buildSnapshot state).links.map (·.id)).Nodup :=
    FiniteMap.nodup_keys_values (fun member => (tables.link_key member).1) perm
  have sorted :
      (buildAdjacency (Registry.buildSnapshot state) current).Pairwise Edge.Le :=
    List.pairwise_insertionSort Edge.Le _
  have distinct : ((buildAdjacency (Registry.buildSnapshot state) current).map
      (·.link)).Nodup := by
    rw [buildAdjacency, ((List.perm_insertionSort Edge.Le _).map _).nodup_iff]
    exact identities.sublist (sublist_linkEdges ends)
  apply (sorted.and (List.pairwise_map.mp distinct)).imp
  rintro left right ⟨less | ⟨same, -⟩, different⟩
  · exact less
  · exact absurd same different

/-- The elements that edges add to a path. -/
def hopElements (edges : List Edge) : List PathElement :=
  edges.flatMap fun edge => [.link edge.link, .device edge.dest]

@[simp] theorem hopElements_cons (edge : Edge) (edges : List Edge) :
    hopElements (edge :: edges) =
      .link edge.link :: .device edge.dest :: hopElements edges :=
  rfl

@[simp] theorem length_hopElements (edges : List Edge) :
    (hopElements edges).length = 2 * edges.length := by
  induction edges with
  | nil => rfl
  | cons edge edges ih =>
      rw [hopElements_cons, List.length_cons, List.length_cons, ih, List.length_cons]
      omega

/-- The search adds the paths that continue its elements within the depth left to
it, as far as the output has room. -/
theorem dfs_eq_fill {budget depth : Nat} {elements : List PathElement}
    (within : elements.length / 2 + (depth + 1) = limits.maxPathDepth)
    (enough : depth < budget) (current : DeviceId) (visited : List DeviceId)
    (out : List Path) :
    dfs topo source target limits budget current elements visited out =
      fill limits.maxCandidatePaths out
        ((search (buildAdjacency topo) Edge.dest target (depth + 1) current visited).map
          fun edges => foundPath topo source target (elements ++ hopElements edges)) := by
  induction budget generalizing depth elements current visited out with
  | zero => omega
  | succ budget ih =>
      rw [dfs]
      split
      next full => rw [fill_of_full full]
      rw [search, List.map_flatMap]
      apply foldl_fill
      intro out edge
      rw [dfsEdge, branch]
      split
      · simp
      split
      next full => rw [fill_of_full full]
      next room =>
        simp only
        split
        next reaches =>
          rw [List.map_singleton, fill_singleton (Nat.lt_of_not_le room)]
          rfl
        next goesOn =>
          have deeper :
              (elements ++ [PathElement.link edge.link, .device edge.dest]).length / 2
              = elements.length / 2 + 1 := by
            simp
          cases depth with
          | zero =>
              rw [if_neg (by omega)]
              simp [search]
          | succ depth =>
              have left : (elements ++
                  [PathElement.link edge.link, .device edge.dest]).length /
                    2 + (depth + 1) =
                    limits.maxPathDepth := by omega
              rw [if_pos (by omega), ih left (by omega), List.map_map]
              simp [Function.comp_def]

/-- The path over a sequence of edges. -/
def pathOver (topo : TopologySnapshot) (source target : DeviceId)
    (edges : List Edge) : Path :=
  markSwitch topo (foundPath topo source target (.device source :: hopElements edges))

theorem enumeratePathsImpl_eq_take (deep : 1 ≤ limits.maxPathDepth)
    (sourceKnown : source.value ≠ 0) (targetKnown : target.value ≠ 0)
    (distinct : source ≠ target) :
    enumeratePathsImpl topo source target limits =
      ((search (buildAdjacency topo) Edge.dest target limits.maxPathDepth source
        [source]).take limits.maxCandidatePaths).map (pathOver topo source target) := by
  obtain ⟨depth, depthEq⟩ : ∃ depth, limits.maxPathDepth = depth + 1 :=
    ⟨limits.maxPathDepth - 1, by omega⟩
  have within : [PathElement.device source].length / 2 + (depth + 1) =
      limits.maxPathDepth := by
    simp [depthEq]
  have invalid : (source.isNil || target.isNil || decide (source = target)) = false := by
    simp [Id.isNil, sourceKnown, targetKnown, distinct]
  rw [enumeratePathsImpl, invalid, if_neg Bool.false_ne_true,
    dfs_eq_fill within (by omega), ← depthEq]
  simp only [fill, List.length_nil, Nat.sub_zero, List.nil_append, ← List.map_take,
    List.map_map]
  rfl

/-! ## The shape of a path -/

/-- Devices and links alternate from `current` to `target`, and each link joins the
devices next to it in the direction it is used. -/
inductive Alternates (state : Registry.State) (target : DeviceId) :
    DeviceId → List PathElement → Prop where
  | arrive : Alternates state target target [.device target]
  | hop {current : DeviceId} {edge : Edge} {rest : List PathElement}
      (leaves : Leaves state current edge)
      (onward : Alternates state target edge.dest rest) :
      Alternates state target current (.device current :: .link edge.link :: rest)

/-- What every enumerated path satisfies. -/
structure Shape (state : Registry.State) (source target : DeviceId) (path : Path) :
    Prop where
  source_eq : path.source = source
  target_eq : path.target = target
  alternates : Alternates state target source path.elements
  nodup_devices : path.devices.Nodup
  hopCount_eq : path.hopCount = path.links.length
  direct_iff : path.direct = true ↔ path.hopCount = 1

/-- The edges form a simple path from `source` to `target` over stored links. -/
abbrev SimplePath (state : Registry.State) (source target : DeviceId) (depth : Nat)
    (edges : List Edge) : Prop :=
  Simple (Leaves state) Edge.dest target depth source [source] edges

theorem alternates_of_walk {current : DeviceId} {edges : List Edge}
    (walk : Walk (Leaves state) Edge.dest current edges)
    (ends : ((current :: edges.map Edge.dest).getLast?) = some target) :
    Alternates state target current (.device current :: hopElements edges) := by
  induction edges generalizing current with
  | nil =>
      obtain rfl : current = target := by simpa using ends
      exact .arrive
  | cons edge edges ih =>
      rw [List.map_cons, List.getLast?_cons_cons] at ends
      exact .hop walk.1 (ih walk.2 ends)

@[simp] theorem pathOver_elements (edges : List Edge) :
    (pathOver topo source target edges).elements =
      .device source :: hopElements edges := rfl

@[simp] theorem pathOver_links (edges : List Edge) :
    (pathOver topo source target edges).links = edges.map (·.link) := by
  rw [Path.links, pathOver_elements, List.filterMap_cons]
  induction edges with
  | nil => rfl
  | cons edge edges ih => simpa [hopElements_cons] using ih

@[simp] theorem pathOver_devices (edges : List Edge) :
    (pathOver topo source target edges).devices = source :: edges.map Edge.dest := by
  rw [Path.devices, pathOver_elements, List.filterMap_cons]
  simp only [List.cons.injEq, true_and]
  induction edges with
  | nil => rfl
  | cons edge edges ih => simpa [hopElements_cons] using ih

theorem shape_pathOver {depth : Nat} {edges : List Edge}
    (simple : SimplePath state source target depth edges) :
    Shape state source target (pathOver topo source target edges) where
  source_eq := rfl
  target_eq := rfl
  alternates := by
    apply alternates_of_walk simple.walk
    have ends := simple.ends
    cases edges with
    | nil => simp at ends
    | cons edge edges =>
        rw [List.getLast?_cons_of_ne_nil (by simp), List.getLast?_map]
        exact ends
  nodup_devices := by
    rw [pathOver_devices, List.nodup_cons]
    refine ⟨?_, simple.nodup⟩
    intro entered
    obtain ⟨edge, member, same⟩ := List.mem_map.mp entered
    exact simple.unvisited edge member (same ▸ List.mem_singleton_self _)
  hopCount_eq := by
    have hops : (pathOver topo source target edges).hopCount =
        (.device source :: hopElements edges).length / 2 := rfl
    rw [hops, pathOver_links, List.length_cons, length_hopElements, List.length_map]
    omega
  direct_iff := decide_eq_true_iff

namespace Registry

theorem value_ne_zero_of_present (tables : Tables limits state.devices state.links)
    {id : DeviceId} (present : state.devices.find? id ≠ none) : id.value ≠ 0 := by
  obtain ⟨device, stored⟩ := present_of_find?_ne_none present
  exact (tables.device_key stored).2

/-- Between present devices the enumeration of the snapshot is returned. -/
theorem enumeratePaths_of_present (tables : Tables limits state.devices state.links)
    (sourcePresent : state.devices.find? source ≠ none)
    (targetPresent : state.devices.find? target ≠ none) :
    enumeratePaths limits source target state =
      .ok (enumeratePathsImpl (buildSnapshot state) source target limits) := by
  have sourceKnown := value_ne_zero_of_present tables sourcePresent
  have targetKnown := value_ne_zero_of_present tables targetPresent
  simp [enumeratePaths, consistentView, findDevice_buildSnapshot tables, Id.isNil,
    sourceKnown, targetKnown, sourcePresent, targetPresent]

instance : Std.Irrefl fun left right : LinkId => left < right where
  irrefl id less := by
    rw [Id.lt_iff] at less
    omega

/-- Paths over different edge sequences differ in the links they list. -/
theorem nodup_pathOver {all : List (List Edge)}
    (increasing : all.Pairwise fun left right => left.map (·.link) < right.map (·.link)) :
    (all.map (pathOver topo source target)).Nodup := by
  rw [List.Nodup, List.pairwise_map]
  apply increasing.imp
  intro left right less same
  have links := congrArg Path.links same
  rw [pathOver_links, pathOver_links] at links
  rw [links] at less
  exact List.lt_irrefl _ less

/-- Enumeration returns the first of the simple paths between two devices, ordered by
their link sequences, each as a path of alternating devices and links. -/
theorem enumeratePaths_exact (reachable : Reachable limits state)
    (deep : 1 ≤ limits.maxPathDepth) (sourcePresent : state.devices.find? source ≠ none)
    (targetPresent : state.devices.find? target ≠ none) (distinct : source ≠ target) :
    ∃ all : List (List Edge),
      (∀ edges, edges ∈ all ↔
        SimplePath state source target limits.maxPathDepth edges) ∧
      (all.Pairwise fun left right => left.map (·.link) < right.map (·.link)) ∧
      ∃ paths, enumeratePaths limits source target state = .ok paths ∧
        paths.map Path.elements = (all.take limits.maxCandidatePaths).map
          (fun edges => .device source :: hopElements edges) ∧
        (∀ path ∈ paths, Shape state source target path) ∧ paths.Nodup := by
  have tables := (consistent_of_reachable reachable).tables
  have complete : ∀ edges, edges ∈ search (buildAdjacency (buildSnapshot state)) Edge.dest
      target limits.maxPathDepth source [source] ↔
        SimplePath state source target limits.maxPathDepth edges :=
    fun edges => mem_search (mem_adjacency tables)
  have increasing : (search (buildAdjacency (buildSnapshot state)) Edge.dest target
      limits.maxPathDepth source [source]).Pairwise fun left right =>
        left.map (·.link) < right.map (·.link) :=
    pairwise_search (adjacency_increasing tables) _ _ _
  have taken : enumeratePathsImpl (buildSnapshot state) source target limits = _ :=
    enumeratePathsImpl_eq_take deep (value_ne_zero_of_present tables sourcePresent)
      (value_ne_zero_of_present tables targetPresent) distinct
  refine ⟨_, complete, increasing, _, enumeratePaths_of_present tables sourcePresent
    targetPresent, ?_, ?_, ?_⟩
  · rw [taken, List.map_map]
    rfl
  · intro path member
    rw [taken] at member
    obtain ⟨edges, within, rfl⟩ := List.mem_map.mp member
    exact shape_pathOver ((complete edges).mp (List.mem_of_mem_take within))
  · rw [taken]
    exact nodup_pathOver (increasing.sublist (List.take_sublist _ _))

/-- Three devices, the first two joined directly and through the third. -/
def triangleCalls : List Call :=
  [⟨.upsertDevice { id := ⟨1⟩, generation := ⟨1⟩ }, {}⟩,
    ⟨.upsertDevice { id := ⟨2⟩, generation := ⟨1⟩ }, {}⟩,
    ⟨.upsertDevice { id := ⟨3⟩, generation := ⟨1⟩ }, {}⟩,
    ⟨.upsertLink { id := ⟨7⟩, source := ⟨1⟩, target := ⟨2⟩, generation := ⟨1⟩ }, {}⟩,
    ⟨.upsertLink { id := ⟨8⟩, source := ⟨3⟩, target := ⟨1⟩, generation := ⟨1⟩ }, {}⟩,
    ⟨.upsertLink
      { id := ⟨9⟩, source := ⟨3⟩, target := ⟨2⟩, directed := true,
        generation := ⟨1⟩ }, {}⟩]

/-- Between two corners of the triangle there are enumerated paths. -/
theorem enumeratePaths_triangle :
    ∃ all : List (List Edge),
      (∀ edges, edges ∈ all ↔
        SimplePath (run {} State.initial triangleCalls) ⟨1⟩ ⟨2⟩ 16 edges) ∧
      (all.Pairwise fun left right => left.map (·.link) < right.map (·.link)) ∧
      ∃ paths,
        enumeratePaths {} ⟨1⟩ ⟨2⟩ (run {} State.initial triangleCalls) = .ok paths ∧
        paths.map Path.elements = (all.take 256).map
          (fun edges => .device ⟨1⟩ :: hopElements edges) ∧
        (∀ path ∈ paths, Shape (run {} State.initial triangleCalls) ⟨1⟩ ⟨2⟩ path) ∧
        paths.Nodup :=
  enumeratePaths_exact ⟨triangleCalls, rfl⟩ (by decide) (by decide)
    (by decide) (by decide)

end Registry

end NvlinkFabric

import NvlinkFabric.Registry.Invariant

/-!
# Snapshots and path enumeration

Path analysis runs on an immutable snapshot whose devices and links are sorted
by identity.  The depth-first search of the source mutates one element stack and
one visited set and undoes each change after the recursive call; passing the
extended values down has the same effect.  Its recursion stops at
`max_path_depth`, so a budget one larger than that bound is never exhausted
(`dfs_budget`).
-/

namespace NvlinkFabric

/-- `TopologySnapshot`, without its own identity and creation time. -/
structure TopologySnapshot where
  generation : TopologyGeneration
  devices : List DeviceRecord
  links : List LinkRecord

/-- `ConsistentView`: a snapshot with the measurement history of the same state. -/
structure ConsistentView where
  topology : TopologySnapshot
  measurements : List MeasurementRecord

namespace Registry

def buildSnapshot (state : State) : TopologySnapshot where
  generation := state.topologyGen
  devices := state.devices.values.insertionSort fun left right => left.id ≤ right.id
  links := state.links.values.insertionSort fun left right => left.id ≤ right.id

@[simp] theorem buildSnapshot_generation (state : State) :
    (buildSnapshot state).generation = state.topologyGen := rfl

def consistentView (state : State) : ConsistentView where
  topology := buildSnapshot state
  measurements := state.measurementHistory

end Registry

namespace TopologySnapshot

def findLink (topo : TopologySnapshot) (id : LinkId) : Option LinkRecord :=
  topo.links.find? fun link => link.id = id

def findDevice (topo : TopologySnapshot) (id : DeviceId) : Option DeviceRecord :=
  topo.devices.find? fun device => device.id = id

end TopologySnapshot

section Lookup

variable {limits : Limits} {state : Registry.State}

/-- Looking a device up in the snapshot is looking it up in the table. -/
theorem findDevice_buildSnapshot
    (tables : Registry.Tables limits state.devices state.links) (id : DeviceId) :
    (Registry.buildSnapshot state).findDevice id = state.devices.find? id :=
  FiniteMap.find?_values (fun member => (tables.device_key member).1)
    (List.perm_insertionSort _ _) id

/-- Looking a link up in the snapshot is looking it up in the table. -/
theorem findLink_buildSnapshot
    (tables : Registry.Tables limits state.devices state.links) (id : LinkId) :
    (Registry.buildSnapshot state).findLink id = state.links.find? id :=
  FiniteMap.find?_values (fun member => (tables.link_key member).1)
    (List.perm_insertionSort _ _) id

end Lookup

/-- `PathElement`. -/
inductive PathElement where
  | device (id : DeviceId)
  | link (id : LinkId)
  deriving DecidableEq

/-- `Path`: a walk that alternates devices and links. -/
structure Path where
  id : PathId
  source : DeviceId
  target : DeviceId
  direct : Bool
  switchTraversal : Bool
  elements : List PathElement
  hopCount : Nat
  nvlinkSegments : Nat
  deriving DecidableEq

namespace Path

/-- Link identities along the path. -/
def links (path : Path) : List LinkId :=
  path.elements.filterMap fun
    | .link id => some id
    | .device _ => none

/-- Device identities along the path. -/
def devices (path : Path) : List DeviceId :=
  path.elements.filterMap fun
    | .device id => some id
    | .link _ => none

end Path

/-- `Edge`: one way to leave a device. -/
structure Edge where
  link : LinkId
  dest : DeviceId
  deriving DecidableEq

/-- The order in which the search tries the edges of one device. -/
def Edge.Le (left right : Edge) : Prop :=
  left.link < right.link ∨ left.link = right.link ∧ left.dest ≤ right.dest

instance (left right : Edge) : Decidable (left.Le right) :=
  inferInstanceAs (Decidable (left.link < right.link ∨ _))

/-- Edges one link contributes to a device. -/
def linkEdges (current : DeviceId) (link : LinkRecord) : List Edge :=
  (if link.source = current then [⟨link.id, link.target⟩] else []) ++
    if !link.directed && link.target = current then [⟨link.id, link.source⟩] else []

/-- `build_adjacency`, read at one device. -/
def buildAdjacency (topo : TopologySnapshot) (current : DeviceId) : List Edge :=
  (topo.links.flatMap (linkEdges current)).insertionSort Edge.Le

/-- One FNV-1a round per byte of the value, lowest byte first. -/
def fnvMix (hash value : UInt64) : UInt64 :=
  ((List.range 8).foldl
    (fun (acc : UInt64 × UInt64) _ =>
      ((acc.1 ^^^ (acc.2 &&& 0xff)) * 1099511628211, acc.2 >>> 8))
    (hash, value)).1

/-- `path_id`: FNV-1a over the endpoints and the link identities. -/
def pathId (source target : DeviceId) (elements : List PathElement) : UInt64 :=
  elements.foldl
    (fun hash element =>
      match element with
      | .link id => fnvMix hash id.value
      | .device _ => hash)
    (fnvMix (fnvMix 1469598103934665603 source.value) target.value)

/-- NVLink segments counted while a found path is recorded. -/
def countNvlink (topo : TopologySnapshot) (elements : List PathElement) : Nat :=
  elements.countP fun
    | .link id => (topo.findLink id).any (·.technology = .nvlink)
    | .device _ => false

/-- The path recorded when the search reaches its target. -/
def foundPath (topo : TopologySnapshot) (source target : DeviceId)
    (elements : List PathElement) : Path where
  id := ⟨pathId source target elements⟩
  source := source
  target := target
  direct := elements.length / 2 = 1
  switchTraversal := false
  elements := elements
  hopCount := elements.length / 2
  nvlinkSegments := countNvlink topo elements

/-- One edge of the search loop; `descend` is the recursive call.  A full output
makes every later iteration return it unchanged, which is the early return. -/
def dfsEdge (topo : TopologySnapshot) (source target : DeviceId) (limits : Limits)
    (descend : DeviceId → List PathElement → List DeviceId → List Path → List Path)
    (elements : List PathElement) (visited : List DeviceId) (out : List Path)
    (edge : Edge) : List Path :=
  if edge.dest ∈ visited then out
  else if out.length ≥ limits.maxCandidatePaths then out
  else
    let extended := elements ++ [.link edge.link, .device edge.dest]
    if edge.dest = target then out ++ [foundPath topo source target extended]
    else if extended.length / 2 < limits.maxPathDepth then
      descend edge.dest extended (edge.dest :: visited) out
    else out

/-- `dfs`. -/
def dfs (topo : TopologySnapshot) (source target : DeviceId) (limits : Limits) :
    Nat → DeviceId → List PathElement → List DeviceId → List Path → List Path
  | 0, _, _, _, out => out
  | budget + 1, current, elements, visited, out =>
      if out.length ≥ limits.maxCandidatePaths then out
      else
        (buildAdjacency topo current).foldl
          (dfsEdge topo source target limits (dfs topo source target limits budget)
            elements visited) out

/-- Set once the whole path is known. -/
def markSwitch (topo : TopologySnapshot) (path : Path) : Path :=
  { path with
    switchTraversal := path.devices.any fun id =>
      (topo.findDevice id).any (·.kind = .switch) }

/-- `enumerate_paths_impl`. -/
def enumeratePathsImpl (topo : TopologySnapshot) (source target : DeviceId)
    (limits : Limits) : List Path :=
  if source.isNil || target.isNil || source = target then []
  else
    (dfs topo source target limits (limits.maxPathDepth + 1) source [.device source]
      [source] []).map (markSwitch topo)

/-- `TopologyRegistry::enumerate_paths`. -/
def Registry.enumeratePaths (limits : Limits) (source target : DeviceId)
    (state : Registry.State) : Result (List Path) :=
  let view := Registry.consistentView state
  if source.isNil || target.isNil then err .invalidArgument "endpoint id required"
  else if view.topology.findDevice source = none then
    err .notFound "source device unknown"
  else if view.topology.findDevice target = none then
    err .notFound "target device unknown"
  else .ok (enumeratePathsImpl view.topology source target limits)

/-- A budget that covers the remaining depth gives the same result as any other:
the search never stops for lack of budget. -/
theorem dfs_budget (topo : TopologySnapshot) (source target : DeviceId)
    (limits : Limits) {first second : Nat} {elements : List PathElement}
    (firstEnough : limits.maxPathDepth ≤ first + elements.length / 2)
    (secondEnough : limits.maxPathDepth ≤ second + elements.length / 2)
    (current : DeviceId) (visited : List DeviceId) (out : List Path) :
    dfs topo source target limits (first + 1) current elements visited out =
      dfs topo source target limits (second + 1) current elements visited out := by
  induction first generalizing second elements current visited out with
  | zero =>
      simp only [dfs]
      split
      · rfl
      next room =>
        congr 1
        funext acc edge
        have deep : ¬elements.length / 2 + 1 < limits.maxPathDepth := by omega
        simp [dfsEdge, deep]
  | succ first ih =>
      rw [dfs, dfs]
      split
      · rfl
      next room =>
        congr 1
        funext acc edge
        simp only [dfsEdge, List.length_append, List.length_cons, List.length_nil]
        split
        · rfl
        split
        · rfl
        split
        · rfl
        split
        next shallow =>
          obtain ⟨budget, rfl⟩ : ∃ budget, second = budget + 1 :=
            ⟨second - 1, by omega⟩
          apply ih
          · simp only [List.length_append, List.length_cons, List.length_nil]
            omega
          · simp only [List.length_append, List.length_cons, List.length_nil]
            omega
        · rfl

end NvlinkFabric

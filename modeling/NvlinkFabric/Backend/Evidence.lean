import NvlinkFabric.Backend.Fixture
import NvlinkFabric.Path.Submissions

/-!
# Evidence from backends

No backend of the library fabricates genuine evidence for a link: the synthetic one
marks everything as SYNTHETIC, and the one for NVIDIA hardware reports devices only.  So
a registry that is fed by them rates no path that it enumerates as REAL, whatever the
drivers answer.
-/

namespace NvlinkFabric

open Registry

/-- The backends of the library. -/
inductive Shipped : Backend → Prop where
  | nop : Shipped nopBackend
  | synthetic (spec : SyntheticTopologySpec) : Shipped (syntheticBackend spec)
  | nvidia (cuda : Cuda) (nvml : Nvml) : Shipped (nvidiaBackend cuda nvml)

/-- The backend discovers a link with this evidence, at some time. -/
def Backend.Discovers (backend : Backend) (evidence : Evidence) : Prop :=
  ∃ devices process links next,
    backend.discoverLinks devices process = .ok (links, next) ∧
    ∃ link ∈ links, link.evidence = evidence

/-- Whatever NVML answers, no link is reported. -/
theorem nvidia_discovers_nothing (cuda : Cuda) (nvml : Nvml) (evidence : Evidence) :
    ¬(nvidiaBackend cuda nvml).Discovers evidence := by
  rintro ⟨devices, process, links, next, discovered, link, member, -⟩
  have none : Nvidia.discoverLinks nvml process = .ok ([], process) := by
    unfold Nvidia.discoverLinks
    split
    · split <;> rfl
    · rfl
  obtain ⟨rfl, -⟩ := Prod.mk.inj (Except.ok.inj (none.symm.trans discovered))
  cases member

/-- Links that a backend discovers are SYNTHETIC. -/
theorem Shipped.synthetic_of_discovers {backend : Backend} (shipped : Shipped backend)
    {evidence : Evidence} (discovers : backend.Discovers evidence) :
    evidence.evidenceClass = .synthetic := by
  cases shipped with
  | nvidia cuda nvml =>
      exact absurd discovers (nvidia_discovers_nothing cuda nvml evidence)
  | nop =>
      obtain ⟨devices, process, links, next, discovered, link, member, -⟩ := discovers
      obtain ⟨rfl, -⟩ := Prod.mk.inj (Except.ok.inj discovered)
      cases member
  | synthetic spec =>
      obtain ⟨devices, process, links, next, discovered, link, member, rfl⟩ := discovers
      obtain ⟨rfl, -⟩ := Prod.mk.inj (Except.ok.inj discovered)
      have stamped : ∀ specs process,
          ∀ link ∈ (discoverEach Synthetic.discoverLink specs process).1,
            link.evidence.evidenceClass = .synthetic := by
        intro specs
        induction specs with
        | nil => simp [discoverEach]
        | cons spec specs ih =>
            intro process link member
            rcases List.mem_cons.mp member with rfl | later
            · rfl
            · exact ih _ link later
      exact stamped spec.links process link member

/-- The evidence that the call brings along for links comes from one of the backends. -/
def FedBy (backends : Backend → Prop) (call : Call) : Prop :=
  ∀ id evidence, evidenceField.brings call.operation id = some evidence →
    ∃ backend, backends backend ∧ backend.Discovers evidence

/-- Registering what a fixture declares feeds the registry from a backend. -/
theorem fedBy_fixture (spec : SyntheticTopologySpec)
    (process : ProcessState) {call : Call} (registers : call.operation ∈
      registrations (spec.discoveredDevices process) (spec.discoveredLinks process)) :
    FedBy Shipped call := by
  intro id evidence brought
  rcases List.mem_append.mp registers with device | link
  · obtain ⟨record, -, same⟩ := List.mem_map.mp device
    rw [← same] at brought
    cases brought
  · obtain ⟨record, discovered, same⟩ := List.mem_map.mp link
    rw [← same, LinkField.brings, read_evidenceField] at brought
    split at brought
    · exact ⟨_, .synthetic spec, [], _, _, _, rfl, record, discovered,
        Option.some.inj brought⟩
    · cases brought

/-- However a registry is fed from the backends of the library, and whatever the drivers
answer to them, it rates no path that it enumerates as REAL. -/
theorem backends_never_real {limits : Limits} {calls : List Call}
    (fed : ∀ call ∈ calls, FedBy Shipped call)
    {source target : DeviceId} {paths : List Path} {path : Path} {quality : PathQuality}
    (listed : enumeratePaths limits source target (run limits .initial calls) = .ok paths)
    (member : path ∈ paths)
    (rated : computePathQuality path (run limits .initial calls) = .ok quality) :
    quality.evidence.evidenceClass ≠ .real := by
  refine unreal_rating (fun call made id evidence brought => ?_) listed member rated
  obtain ⟨backend, shipped, discovers⟩ := fed call made id evidence brought
  exact .inl (shipped.synthetic_of_discovers discovers)

/-- The path between the devices of a fixture. -/
def pairPath : Path :=
  pathOver (buildSnapshot (run {} .initial pairCalls)) ⟨7⟩ ⟨1⟩ [⟨⟨1⟩, ⟨1⟩⟩]

theorem pairPath_not_real :
    (computeQuality (buildSnapshot (run {} .initial pairCalls)) []
      pairPath).evidence.evidenceClass ≠
      .real := by
  have fed (call : Call) (made : call ∈ pairCalls) : FedBy Shipped call := by
    obtain ⟨operation, registers, rfl⟩ := List.mem_map.mp made
    exact fedBy_fixture pairFixture {} registers
  have listed : enumeratePaths {} ⟨7⟩ ⟨1⟩ (run {} .initial pairCalls) =
      .ok [pairPath] := rfl
  exact backends_never_real fed listed List.mem_cons_self rfl

end NvlinkFabric

import NvlinkFabric.Route.UsableRoutes

/-!
# Executable routes over unrated links

With `require_supported_links` on, every link of an eligible path is in a supported
state.  With it off an executable decision relies on the rating alone.
-/

namespace NvlinkFabric.Registry

variable {limits : Limits} {state : State} {source target : DeviceId}

/-- A usable rating stands for supported links exactly where the path is rated by its
links, and executable decisions select supported links exactly if the competitors that
are not are outranked by others. -/
theorem rated_routes_iff (reachable : Reachable limits state) (policy : RoutePolicy) :
    (∀ (topo : TopologySnapshot) (measurements : List MeasurementRecord) (bounds : Limits)
        (first last : DeviceId) (path : Path),
      path ∈ enumeratePathsImpl topo first last bounds →
      (((computeQuality topo measurements path).outcome.Usable → AllSupported topo path) ↔
        Rated topo measurements path)) ∧
    ∀ ranking : Ranking, Lawful ranking limits policy state source target →
      ((∀ (ambient : Ambient) (decision : RouteDecision),
        decideRouteBy ranking limits ambient source target policy state = .ok decision →
        decision.executable = true →
        ∃ best, winner ranking limits policy state source target = some best ∧
          decision.selected = some best.path.id ∧
          AllSupported (buildSnapshot state) best.path) ↔
        Outranked ranking limits policy state source target
          (fun eval => Rated (buildSnapshot state) state.measurementHistory
            eval.path)) := by
  constructor
  · intro topo measurements bounds first last path member
    exact supported_of_usable_iff member measurements
  · intro ranking lawful
    rw [executable_iff_outranked reachable lawful]
    refine outranked_congr fun eval member => ?_
    obtain ⟨enumerated, -, quality⟩ := of_mem_competitors member
    rw [quality]
    exact supported_of_usable_iff enumerated state.measurementHistory

/-- Two devices joined by an incompatible link of known bandwidth. -/
def incompatibleCalls : List Call :=
  [⟨.upsertDevice { id := ⟨1⟩, generation := ⟨1⟩ }, {}⟩,
    ⟨.upsertDevice { id := ⟨2⟩, generation := ⟨1⟩ }, {}⟩,
    ⟨.upsertLink
      { id := ⟨7⟩, source := ⟨1⟩, target := ⟨2⟩, generation := ⟨1⟩,
        state := .incompatible,
        capability := { nominalBandwidthBps := 100 } }, {}⟩]

theorem incompatible_stored :
    ((buildSnapshot (run {} State.initial incompatibleCalls)).findLink
      ⟨7⟩).map (·.state) =
      some .incompatible := by
  decide +kernel

/-- No path over the incompatible link is supported. -/
theorem incompatible_unsupported {path : Path} (on : ⟨7⟩ ∈ path.links) :
    ¬AllSupported (buildSnapshot (run {} State.initial incompatibleCalls)) path := by
  intro stands
  obtain ⟨link, found, supported⟩ := stands ⟨7⟩ on
  have stored := incompatible_stored
  rw [found, Option.map_some, Option.some.injEq] at stored
  simp [stored] at supported

/-- Nothing blocks the path over the incompatible link, and it is healthy. -/
theorem incompatible_usable :
    ¬∀ (topo : TopologySnapshot) (measurements : List MeasurementRecord) (limits : Limits)
        (source target : DeviceId) (path : Path),
      path ∈ enumeratePathsImpl topo source target limits →
      (computeQuality topo measurements path).outcome.Usable →
      AllSupported topo path := by
  intro stands
  obtain ⟨path, enumerated, usable, on⟩ :
      ∃ path ∈ enumeratePathsImpl (buildSnapshot (run {} State.initial incompatibleCalls))
          ⟨1⟩ ⟨2⟩ {},
        (computeQuality (buildSnapshot (run {} State.initial incompatibleCalls)) []
          path).outcome.Usable ∧ ⟨7⟩ ∈ path.links := by
    decide +kernel
  exact incompatible_unsupported on (stands _ [] {} ⟨1⟩ ⟨2⟩ path enumerated usable)

/-- Directness alone, and no requirement of supported links. -/
def lenientPolicy : RoutePolicy where
  hard := { requireSupportedLinks := false }
  ranking := [⟨.directness, 3⟩]

/-- A policy that does not require supported links routes over it. -/
theorem rated_routes_incompatible :
    ∃ decision, decideRouteBy Double.ranking {} {} ⟨1⟩ ⟨2⟩ lenientPolicy
        (run {} State.initial incompatibleCalls) = .ok decision ∧
      decision.executable = true ∧
      ¬Outranked Double.ranking {} lenientPolicy (run {} State.initial incompatibleCalls)
        ⟨1⟩ ⟨2⟩
        (fun eval => Rated (buildSnapshot (run {} State.initial incompatibleCalls))
          (run {} State.initial incompatibleCalls).measurementHistory eval.path) := by
  obtain ⟨decision, decided⟩ := decideRouteBy_total Double.ranking {} {} ⟨1⟩ ⟨2⟩
    lenientPolicy (run {} State.initial incompatibleCalls)
  have granted : (decideRouteBy Double.ranking {} {} ⟨1⟩ ⟨2⟩ lenientPolicy
      (run {} State.initial incompatibleCalls)).toOption.map (·.executable) =
        some true := by
    decide +kernel
  have links : (winner Double.ranking {} lenientPolicy
      (run {} State.initial incompatibleCalls) ⟨1⟩ ⟨2⟩).map (·.path.links) =
        some [⟨7⟩] := by
    decide +kernel
  have lawful : Lawful Double.ranking {} lenientPolicy
      (run {} State.initial incompatibleCalls) ⟨1⟩ ⟨2⟩ :=
    Double.ranking_weakOrder (by decide +kernel)
  rw [decided] at granted
  have executable : decision.executable = true := by simpa [Except.toOption] using granted
  refine ⟨decision, decided, executable, ?_⟩
  intro outranked
  obtain ⟨best, front, -, supported⟩ := ((rated_routes_iff ⟨incompatibleCalls, rfl⟩
    lenientPolicy).2 Double.ranking lawful).mpr outranked {} decision decided executable
  rw [front, Option.map_some, Option.some.injEq] at links
  exact incompatible_unsupported (by simp [links]) supported

end NvlinkFabric.Registry

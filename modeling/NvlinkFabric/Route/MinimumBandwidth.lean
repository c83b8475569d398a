import NvlinkFabric.Route.UsableRoutes

/-!
# Minimum nominal bandwidth

The nominal bandwidth of a path is folded over its links with zero both for "no value
yet" and for "unknown": a link of unknown bandwidth leaves the fold as it was.  A path
that passes the minimum is therefore wide enough on every link of known bandwidth, and
on the others only where the minimum is zero.
-/

namespace NvlinkFabric

variable {topo : TopologySnapshot} {path : Path}

/-- The fold of one link: a known bandwidth narrows what is known. -/
theorem LinkScan.nominal_visit (scan : LinkScan) (link : LinkRecord) :
    (scan.visit link).nominal.toNat =
      if link.capability.nominalBandwidthBps = 0 then scan.nominal.toNat
      else if scan.nominal = 0 then link.capability.nominalBandwidthBps.toNat
      else min scan.nominal.toNat link.capability.nominalBandwidthBps.toNat := by
  by_cases unknown : link.capability.nominalBandwidthBps = 0
  · simp [LinkScan.visit, unknown]
  · have known : link.capability.nominalBandwidthBps > 0 :=
      UInt64.pos_iff_ne_zero.mpr unknown
    by_cases first : scan.nominal = 0
    · simp [LinkScan.visit, unknown, known, first]
    · simp only [LinkScan.visit, unknown, known, first, if_true, if_false]
      exact apply_ite UInt64.toNat _ _ _

/-- A bandwidth is known and lies within a bound. -/
def LinkScan.Within (bound : Nat) (scan : LinkScan) : Prop :=
  scan.nominal ≠ 0 ∧ scan.nominal.toNat ≤ bound

theorem LinkScan.Within.visit {bound : Nat} {scan : LinkScan} (within : scan.Within bound)
    (link : LinkRecord) : (scan.visit link).Within bound := by
  have folded := LinkScan.nominal_visit scan link
  simp only [LinkScan.Within, ne_eq, ← UInt64.toNat_inj,
    UInt64.toNat_zero] at within folded ⊢
  split at folded
  · omega
  · split at folded
    · omega
    · omega

/-- A link of known bandwidth bounds the fold. -/
theorem LinkScan.within_visit (scan : LinkScan) {link : LinkRecord}
    (known : link.capability.nominalBandwidthBps ≠ 0) :
    (scan.visit link).Within link.capability.nominalBandwidthBps.toNat := by
  have folded := LinkScan.nominal_visit scan link
  rw [if_neg known] at folded
  simp only [LinkScan.Within, ne_eq, ← UInt64.toNat_inj, UInt64.toNat_zero]
    at known folded ⊢
  split at folded
  · omega
  · omega

theorem LinkScan.Within.element {bound : Nat} {scan : LinkScan}
    (within : scan.Within bound) (element : PathElement) :
    (LinkScan.element topo scan element).Within bound := by
  cases element with
  | device id => exact within
  | link id =>
      cases found : topo.findLink id with
      | none =>
          simp only [LinkScan.element, found]
          exact within
      | some link => simpa only [LinkScan.element, found] using within.visit link

theorem LinkScan.Within.foldl {bound : Nat} {scan : LinkScan} (within : scan.Within bound)
    (elements : List PathElement) :
    (elements.foldl (LinkScan.element topo) scan).Within bound := by
  induction elements generalizing scan with
  | nil => exact within
  | cons element elements ih => exact ih (within.element element)

/-- Each link of known bandwidth bounds the nominal bandwidth of the path. -/
theorem scanLinks_within {id : LinkId} (on : id ∈ path.links) {link : LinkRecord}
    (found : topo.findLink id = some link)
    (known : link.capability.nominalBandwidthBps ≠ 0) :
    (scanLinks topo path).Within link.capability.nominalBandwidthBps.toNat := by
  obtain ⟨earlier, later, split⟩ := List.append_of_mem (Path.mem_links.mp on)
  rw [scanLinks, split, List.foldl_append, List.foldl_cons]
  apply LinkScan.Within.foldl
  simpa only [LinkScan.element, found] using LinkScan.within_visit _ known

theorem nominalBandwidth_eq (measurements : List MeasurementRecord) (path : Path) :
    (computeQuality topo measurements path).nominalBandwidthBps = 0 ∨
      (computeQuality topo measurements path).nominalBandwidthBps =
        (scanLinks topo path).nominal := by
  simp only [computeQuality]
  split
  · exact .inr rfl
  · exact .inl rfl

/-- A path that reaches a minimum reaches it on each link of known bandwidth. -/
theorem le_bandwidth_of_le_nominal {measurements : List MeasurementRecord}
    {minimum : UInt64}
    (reached : minimum ≤ (computeQuality topo measurements path).nominalBandwidthBps)
    {id : LinkId} (on : id ∈ path.links) {link : LinkRecord}
    (found : topo.findLink id = some link)
    (known : link.capability.nominalBandwidthBps ≠ 0) :
    minimum ≤ link.capability.nominalBandwidthBps := by
  have within := (scanLinks_within on found known).2
  rw [UInt64.le_iff_toNat_le] at reached ⊢
  rcases nominalBandwidth_eq measurements path with none | folded
  · rw [none, UInt64.toNat_zero] at reached
    omega
  · rw [folded] at reached
    omega

/-- Every link of the path is stored with at least the minimum. -/
def Registry.WideEnough (state : Registry.State) (minimum : UInt64)
    (path : Path) : Prop :=
  ∀ id ∈ path.links, ∃ link, (Registry.buildSnapshot state).findLink id = some link ∧
    minimum ≤ link.capability.nominalBandwidthBps

/-- Every link of the path is stored with a known bandwidth. -/
def Registry.Described (state : Registry.State) (path : Path) : Prop :=
  ∀ id ∈ path.links, ∃ link, (Registry.buildSnapshot state).findLink id = some link ∧
    link.capability.nominalBandwidthBps ≠ 0

namespace Registry

variable {limits : Limits} {state : State} {source target : DeviceId}
  {policy : RoutePolicy}

/-- A candidate that passes the minimum is wide enough exactly if its links are described,
unless the minimum is zero. -/
theorem wideEnough_iff {minimum : UInt64}
    (required : policy.hard.minNominalBandwidthBps = some minimum)
    (enumerated : path ∈ enumeratePathsImpl (buildSnapshot state) source target limits)
    (accepted : rejectedIn policy state path = false) :
    WideEnough state minimum path ↔ minimum = 0 ∨ Described state path := by
  constructor
  · intro wide
    by_cases zero : minimum = 0
    · exact .inl zero
    · refine .inr fun id on => ?_
      obtain ⟨link, found, reached⟩ := wide id on
      refine ⟨link, found, ?_⟩
      intro unknown
      rw [unknown, UInt64.le_iff_toNat_le, UInt64.toNat_zero, Nat.le_zero] at reached
      exact zero (UInt64.toNat_inj.mp reached)
  · rintro (rfl | described) id on
    · obtain ⟨link, found⟩ := candidate_link enumerated on
      exact ⟨link, found, UInt64.zero_le⟩
    · obtain ⟨link, found, known⟩ := described id on
      rw [rejectedIn, violatesSome, List.any_eq_false] at accepted
      have kept := accepted .nominalBandwidth (by decide)
      have reached : minimum ≤ (qualityIn state path).nominalBandwidthBps := by
        simpa [Constraint.violated, required] using kept
      exact ⟨link, found, le_bandwidth_of_le_nominal reached on found known⟩

/-- A path selected under a minimum bandwidth is wide enough on every link exactly if the
minimum is zero or the competitors with a link of unknown bandwidth are outranked by fully
described ones. -/
theorem minimumBandwidth_iff (ranking : Ranking) (reachable : Reachable limits state)
    (lawful : Lawful ranking limits policy state source target) (minimum : UInt64)
    (required : policy.hard.minNominalBandwidthBps = some minimum) :
    (∀ (ambient : Ambient) (decision : RouteDecision) (id : PathId),
      decideRouteBy ranking limits ambient source target policy state = .ok decision →
      decision.selected = some id →
      ∃ best, winner ranking limits policy state source target = some best ∧
        best.path.id = id ∧ WideEnough state minimum best.path) ↔
      minimum = 0 ∨
        Outranked ranking limits policy state source target
          (fun eval => Described state eval.path) := by
  have same : ∀ eval ∈ competitors limits policy state source target,
      WideEnough state minimum eval.path ↔ minimum = 0 ∨ Described state eval.path := by
    intro eval member
    obtain ⟨enumerated, accepted, -⟩ := of_mem_competitors member
    exact wideEnough_iff required enumerated accepted
  rw [selected_iff_outranked reachable lawful, outranked_congr same]
  by_cases zero : minimum = 0
  · simp [zero, Outranked, Selection.Outranked]
  · simp [zero]

/-- Two hops, the first over a link of unknown bandwidth. -/
def halfDescribedCalls : List Call :=
  [⟨.upsertDevice { id := ⟨1⟩, generation := ⟨1⟩ }, {}⟩,
    ⟨.upsertDevice { id := ⟨2⟩, generation := ⟨1⟩ }, {}⟩,
    ⟨.upsertDevice { id := ⟨3⟩, generation := ⟨1⟩ }, {}⟩,
    ⟨.upsertLink
      { id := ⟨8⟩, source := ⟨1⟩, target := ⟨3⟩, generation := ⟨1⟩, state := .up }, {}⟩,
    ⟨.upsertLink
      { id := ⟨9⟩, source := ⟨3⟩, target := ⟨2⟩, generation := ⟨1⟩, state := .up,
        capability := { nominalBandwidthBps := 100 } }, {}⟩]

/-- The default policy with a minimum of one bit per second. -/
def minimumPolicy : RoutePolicy :=
  { RoutePolicy.defaultPolicy with hard := { minNominalBandwidthBps := some 1 } }

/-- The path is selected although its first link has an unknown bandwidth. -/
theorem halfDescribed_selected :
    ∃ decision best, decideRouteBy Double.ranking {} {} ⟨1⟩ ⟨2⟩ minimumPolicy
        (run {} State.initial halfDescribedCalls) = .ok decision ∧
      decision.selected = some best.path.id ∧
      winner Double.ranking {} minimumPolicy (run {} State.initial halfDescribedCalls)
        ⟨1⟩ ⟨2⟩ = some best ∧
      ¬WideEnough (run {} State.initial halfDescribedCalls) 1 best.path := by
  have links : (winner Double.ranking {} minimumPolicy
      (run {} State.initial halfDescribedCalls) ⟨1⟩ ⟨2⟩).map (·.path.links) =
        some [⟨8⟩, ⟨9⟩] := by
    decide +kernel
  have unknown :
      ((buildSnapshot (run {} State.initial halfDescribedCalls)).findLink ⟨8⟩).map
      (·.capability.nominalBandwidthBps) = some 0 := by
    decide +kernel
  obtain ⟨best, front, links⟩ := Option.map_eq_some_iff.mp links
  obtain ⟨decision, decided⟩ :=
    decideRouteBy_total Double.ranking {} {} ⟨1⟩ ⟨2⟩ minimumPolicy
    (run {} State.initial halfDescribedCalls)
  obtain ⟨selected, -, -⟩ :=
    decideRouteBy_of_winner ⟨halfDescribedCalls, rfl⟩ front decided
  refine ⟨decision, best, decided, selected, front, ?_⟩
  intro wide
  obtain ⟨link, found, reached⟩ := wide ⟨8⟩ (by simp [links])
  rw [found, Option.map_some, Option.some.injEq] at unknown
  rw [unknown] at reached
  exact absurd reached (by decide)

/-- A positive minimum is met by a path over a link of unknown bandwidth. -/
theorem minimumBandwidth_unknown :
    ¬∀ (limits : Limits) (ambient : Ambient) (state : State) (source target : DeviceId)
        (policy : RoutePolicy) (minimum : UInt64) (decision : RouteDecision)
        (id : PathId),
      Reachable limits state → policy.hard.minNominalBandwidthBps = some minimum →
      decideRouteBy Double.ranking limits ambient source target policy state =
        .ok decision →
      decision.selected = some id →
      ∃ best, winner Double.ranking limits policy state source target = some best ∧
        best.path.id = id ∧ WideEnough state minimum best.path := by
  intro honoured
  obtain ⟨decision, best, decided, selected, front, narrow⟩ := halfDescribed_selected
  obtain ⟨other, same, -, wide⟩ := honoured {} {} _ ⟨1⟩ ⟨2⟩ minimumPolicy 1 decision _
    ⟨halfDescribedCalls, rfl⟩ rfl decided selected
  obtain rfl := Option.some.inj (front.symm.trans same)
  exact narrow wide

/-- Nothing outranks the path over the link of unknown bandwidth. -/
theorem minimumBandwidth_halfDescribed :
    (1 : UInt64) ≠ 0 ∧
      ¬Outranked Double.ranking {} minimumPolicy (run {} State.initial halfDescribedCalls)
        ⟨1⟩ ⟨2⟩
        (fun eval => Described (run {} State.initial halfDescribedCalls) eval.path) := by
  refine ⟨by decide, ?_⟩
  intro outranked
  have lawful : Lawful Double.ranking {} minimumPolicy
      (run {} State.initial halfDescribedCalls) ⟨1⟩ ⟨2⟩ :=
    Double.ranking_weakOrder (by decide +kernel)
  obtain ⟨decision, best, decided, selected, front, narrow⟩ := halfDescribed_selected
  obtain ⟨other, same, -, wide⟩ := (minimumBandwidth_iff Double.ranking
    ⟨halfDescribedCalls, rfl⟩ lawful 1 rfl).mpr (.inr outranked) {} decision _
      decided selected
  obtain rfl := Option.some.inj (front.symm.trans same)
  exact narrow wide

end Registry

end NvlinkFabric

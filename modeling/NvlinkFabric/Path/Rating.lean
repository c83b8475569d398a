import NvlinkFabric.Path.Candidates
import NvlinkFabric.Path.Governance

/-!
# How a candidate is rated

Each flag of the link loop is the disjunction of one test over the links of the path,
so the cascade can be read as a condition on the links.  Every state outside the
supported ones raises a blocking flag except UNKNOWN, whose flag the cascade looks at
last, and INCOMPATIBLE, which raises none.
-/

namespace NvlinkFabric

/-- Outcomes of `compute_quality` that are mapped to an allowed route. -/
def PathQualityOutcome.Usable (outcome : PathQualityOutcome) : Prop :=
  outcome = .healthy ∨ outcome = .degraded ∨ outcome = .contended

instance (outcome : PathQualityOutcome) : Decidable outcome.Usable :=
  inferInstanceAs (Decidable (_ ∨ _))

variable {limits : Limits} {topo : TopologySnapshot}
  {source target : DeviceId} {path : Path}

/-- Some link of the path passes the test. -/
def someLink (topo : TopologySnapshot) (path : Path) (test : LinkRecord → Bool) : Bool :=
  path.links.any fun id => (topo.findLink id).any test

theorem someLink_iff {test : LinkRecord → Bool} :
    someLink topo path test = true ↔
      ∃ id ∈ path.links, ∃ link, topo.findLink id = some link ∧ test link = true := by
  simp only [someLink, List.any_eq_true, Option.any_eq_true]

/-- Where no link is missing, a flag of the link loop is a test of the links. -/
theorem any_elementTest
    (present : ∀ id ∈ path.links, ∃ link, topo.findLink id = some link)
    (test : LinkRecord → Bool) (missing : Bool) :
    path.elements.any (elementTest topo test missing) = someLink topo path test := by
  rw [Bool.eq_iff_iff, List.any_eq_true, someLink_iff]
  constructor
  · rintro ⟨element, member, raised⟩
    cases element with
    | device id => simp [elementTest] at raised
    | link id =>
        have on := Path.mem_links.mpr member
        obtain ⟨link, found⟩ := present id on
        exact ⟨id, on, link, found, by simpa [elementTest, found] using raised⟩
  · rintro ⟨id, on, link, found, raised⟩
    exact ⟨.link id, Path.mem_links.mp on, by simpa [elementTest, found] using raised⟩

/-- The flags that the cascade reads, over the links of a candidate. -/
structure Flags (scan : LinkScan) (topo : TopologySnapshot) (path : Path) : Prop where
  down : scan.anyDown = someLink topo path (·.state.isDown)
  unsupported : scan.anyUnsupported = someLink topo path (·.state = .unsupported)
  reval : scan.anyReval = someLink topo path (·.state.needsRevalidation)
  degraded : scan.anyDegraded = someLink topo path (·.isDegraded)
  unknown : scan.anyUnknown = someLink topo path (·.state = .unknown)
  capability : scan.hasCapability = someLink topo path (·.hasCapability)

theorem candidate_flags (member : path ∈ enumeratePathsImpl topo source target limits) :
    Flags (scanLinks topo path) topo path := by
  have tested (test : LinkRecord → Bool) (missing : Bool) :=
    any_elementTest (fun _ => candidate_link member) test missing
  -- Only the first flag is raised by a missing link.
  have kept (flag : Bool) : flag = (flag || false) := (Bool.or_false flag).symm
  constructor
  · rw [scanLinks_anyDown, tested]
  · rw [← tested _ false]
    exact foldl_flag (·.anyUnsupported) _ false (fun _ _ => rfl) (fun _ => kept _) _ _
  · rw [scanLinks_anyReval, tested]
  · rw [← tested _ false]
    exact foldl_flag (·.anyDegraded) _ false (fun _ _ => rfl) (fun _ => kept _) _ _
  · rw [← tested _ false]
    exact foldl_flag (·.anyUnknown) _ false (fun _ _ => rfl) (fun _ => kept _) _ _
  · rw [← tested _ false]
    exact foldl_flag (·.hasCapability) _ false LinkScan.hasCapability_visit
      (fun _ => kept _)
      _ _

/-- States that block a path. -/
def LinkOperationalState.isBlocking (state : LinkOperationalState) : Bool :=
  state.isDown || state = .unsupported || state.needsRevalidation

/-- States that neither support a path nor block it: UNKNOWN, INCOMPATIBLE and values
without a declared constant. -/
def LinkOperationalState.isUnrated : LinkOperationalState → Bool
  | .unknown | .incompatible | .undeclared _ _ => true
  | _ => false

theorem someLink_or (first second : LinkRecord → Bool) :
    someLink topo path (fun link => first link || second link) =
      (someLink topo path first || someLink topo path second) := by
  rw [Bool.eq_iff_iff, Bool.or_eq_true]
  simp only [someLink_iff, Bool.or_eq_true]
  constructor
  · rintro ⟨id, on, link, found, holds | holds⟩
    · exact .inl ⟨id, on, link, found, holds⟩
    · exact .inr ⟨id, on, link, found, holds⟩
  · rintro (⟨id, on, link, found, holds⟩ | ⟨id, on, link, found, holds⟩)
    · exact ⟨id, on, link, found, .inl holds⟩
    · exact ⟨id, on, link, found, .inr holds⟩

/-- The tests of the cascade that follow the blocking ones. -/
def Carries (topo : TopologySnapshot) (path : Path) (contended : Bool) : Prop :=
  contended = true ∨ someLink topo path (·.isDegraded) = true ∨
    someLink topo path (·.state = .unknown) = false ∧
      someLink topo path (·.hasCapability) = true

theorem usable_iff_flags {scan : LinkScan} {hopCount : Nat} (hops : 0 < hopCount)
    (contended : Bool) :
    (qualityOutcome scan hopCount contended).Usable ↔
      (scan.anyDown || scan.anyUnsupported || scan.anyReval) = false ∧
        (contended = true ∨ scan.anyDegraded = true ∨
          scan.anyUnknown = false ∧ scan.hasCapability = true) := by
  have some : hopCount ≠ 0 := by omega
  simp only [qualityOutcome, PathQualityOutcome.Usable, some, decide_false, Bool.or_false]
  split_ifs <;> grind

/-- A candidate is usable if no link blocks it and one of the later tests is met. -/
theorem usable_iff (member : path ∈ enumeratePathsImpl topo source target limits)
    (measurements : List MeasurementRecord) :
    (computeQuality topo measurements path).outcome.Usable ↔
      someLink topo path (·.state.isBlocking) = false ∧
        Carries topo path ((bestMeasurement measurements path).any (·.contended)) := by
  have flags := candidate_flags member
  have blocking : someLink topo path (·.state.isBlocking) =
      ((scanLinks topo path).anyDown || (scanLinks topo path).anyUnsupported ||
        (scanLinks topo path).anyReval) := by
    rw [flags.down, flags.unsupported, flags.reval, ← someLink_or, ← someLink_or]
    rfl
  simp only [computeQuality, usable_iff_flags (candidate_hopCount_pos member), blocking,
    Carries, flags.degraded, flags.unknown, flags.capability]

/-- Every link of the path exists in one of the supported states. -/
def AllSupported (topo : TopologySnapshot) (path : Path) : Prop :=
  ∀ id ∈ path.links, ∃ link, topo.findLink id = some link ∧
    (link.state = .up ∨ link.state = .present ∨ link.state = .supported ∨
      link.state = .degraded)

/-- The states of the links speak for themselves: none is unrated, or one of them blocks
the path, or nothing masks an unknown state or a missing capability. -/
def Rated (topo : TopologySnapshot) (measurements : List MeasurementRecord)
    (path : Path) :
    Prop :=
  someLink topo path (·.state.isUnrated) = false ∨
    someLink topo path (·.state.isBlocking) = true ∨
    (bestMeasurement measurements path).any (·.contended) = false ∧
      someLink topo path (·.isDegraded) = false ∧
      (someLink topo path (·.state = .unknown) = true ∨
        someLink topo path (·.hasCapability) = false)

theorem someLink_eq_false {test : LinkRecord → Bool} :
    someLink topo path test = false ↔
      ∀ id ∈ path.links, ∀ link, topo.findLink id = some link → test link = false := by
  rw [← Bool.not_eq_true, someLink_iff]
  simp

theorem allSupported_iff
    (present : ∀ id ∈ path.links, ∃ link, topo.findLink id = some link) :
    AllSupported topo path ↔ someLink topo path (·.state.isUnrated) = false ∧
      someLink topo path (·.state.isBlocking) = false := by
  have sorts (state : LinkOperationalState) :
      (state = .up ∨ state = .present ∨ state = .supported ∨ state = .degraded) ↔
        state.isUnrated = false ∧ state.isBlocking = false := by
    cases state <;> simp [LinkOperationalState.isUnrated, LinkOperationalState.isBlocking,
      LinkOperationalState.isDown, LinkOperationalState.needsRevalidation]
  simp only [AllSupported, someLink_eq_false, sorts]
  constructor
  · intro supported
    constructor
    · intro id on link found
      obtain ⟨stored, same, holds⟩ := supported id on
      obtain rfl := Option.some.inj (same.symm.trans found)
      exact holds.1
    · intro id on link found
      obtain ⟨stored, same, holds⟩ := supported id on
      obtain rfl := Option.some.inj (same.symm.trans found)
      exact holds.2
  · rintro ⟨rated, unblocked⟩ id on
    obtain ⟨link, found⟩ := present id on
    exact ⟨link, found, rated id on link found, unblocked id on link found⟩

/-- A usable rating stands for supported links exactly where the path is rated by them. -/
theorem supported_of_usable_iff
    (member : path ∈ enumeratePathsImpl topo source target limits)
    (measurements : List MeasurementRecord) :
    ((computeQuality topo measurements path).outcome.Usable → AllSupported topo path) ↔
      Rated topo measurements path := by
  rw [usable_iff member, allSupported_iff fun _ => candidate_link member, Rated]
  cases unrated : someLink topo path (·.state.isUnrated) with
  | false => exact iff_of_true (fun usable => ⟨rfl, usable.1⟩) (.inl rfl)
  | true =>
      cases blocked : someLink topo path (·.state.isBlocking) with
      | true => simp
      | false =>
          -- What remains is that the path is not carried.
          simp only [Carries, true_and, Bool.true_eq_false, false_and,
            imp_false, false_or, Bool.false_eq_true, not_or, not_and_or, Bool.not_eq_true,
            Bool.not_eq_false]

end NvlinkFabric

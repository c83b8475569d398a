import NvlinkFabric.Route.Doubles
import NvlinkFabric.Path.Rating

/-!
# Usable candidates and the selected one

`decide_route` ranks every candidate that passes the hard constraints and maps the
outcome of the best one only.  A usable candidate is therefore granted as long as no
unusable one is ranked before all of the usable ones.
-/

namespace NvlinkFabric

theorem permits_iff {outcome : PathQualityOutcome} :
    (selectedOutcome outcome).permits = true ↔ outcome.Usable := by
  cases outcome <;> decide

namespace Registry

variable {limits : Limits} {ambient : Ambient} {state : State} {source target : DeviceId}
variable {policy : RoutePolicy} {path : Path} {decision : RouteDecision}

/-- The candidates that are ranked. -/
def competitors (limits : Limits) (policy : RoutePolicy) (state : State)
    (source target : DeviceId) : List Eval :=
  eligible (candidates limits policy (consistentView state) source target)

theorem mem_eligible {paths : List Path} {eval : Eval} :
    eval ∈ eligible (candidatesOf policy state paths) ↔
      ∃ path ∈ paths, rejectedIn policy state path = false ∧
        eval = { path := path, quality := qualityIn state path } := by
  simp only [eligible, candidatesOf, List.mem_filterMap, List.mem_map]
  constructor
  · rintro ⟨candidate, ⟨path, member, rfl⟩, kept⟩
    simp only at kept
    split at kept
    next accepted =>
      exact ⟨path, member, rejectedIn_eq_false_iff.mpr accepted,
        (Option.some.inj kept).symm⟩
    · simp at kept
  · rintro ⟨path, member, accepted, rfl⟩
    refine ⟨_, ⟨path, member, rfl⟩, ?_⟩
    simp [rejectedIn_eq_false_iff.mp accepted]

/-- A competitor is an accepted candidate with the quality of its path. -/
theorem of_mem_competitors {eval : Eval}
    (member : eval ∈ competitors limits policy state source target) :
    eval.path ∈ enumeratePathsImpl (buildSnapshot state) source target limits ∧
      rejectedIn policy state eval.path = false ∧
      eval.quality = qualityIn state eval.path := by
  rw [competitors, candidates_eq, mem_eligible] at member
  obtain ⟨path, enumerated, accepted, rfl⟩ := member
  exact ⟨enumerated, accepted, rfl⟩

/-- An accepted candidate competes. -/
theorem mem_competitors_of_accepted
    (enumerated : path ∈ enumeratePathsImpl (buildSnapshot state) source target limits)
    (accepted : rejectedIn policy state path = false) :
    { path := path, quality := qualityIn state path } ∈
      competitors limits policy state source target :=
  mem_eligible.mpr ⟨path, enumerated, accepted, rfl⟩

/-- An accepted candidate leaves something to select. -/
theorem selectBest_of_accepted
    (enumerated : path ∈ enumeratePathsImpl (buildSnapshot state) source target limits)
    (accepted : rejectedIn policy state path = false) :
    ∃ best, selectBest limits policy (consistentView state) source target =
      some best := by
  exact exists_selectBest enumerated (rejectedIn_eq_false_iff.mp accepted)

section Winner

variable {ranking : Ranking}

/-- The competitor that a stable sort by the comparator puts to the front. -/
def winner (ranking : Ranking) (limits : Limits) (policy : RoutePolicy) (state : State)
    (source target : DeviceId) : Option Eval :=
  Selection.front (ranking policy (competitors limits policy state source target))
    (competitors limits policy state source target)

theorem winner_of_accepted (ranking : Ranking)
    (enumerated : path ∈ enumeratePathsImpl (buildSnapshot state) source target limits)
    (accepted : rejectedIn policy state path = false) :
    ∃ best, winner ranking limits policy state source target = some best := by
  refine Option.ne_none_iff_exists'.mp ?_
  rw [winner, Ne, Selection.front_eq_none]
  exact List.ne_nil_of_mem (mem_competitors_of_accepted enumerated accepted)

/-- A decision takes the winner and its outcome. -/
theorem decideRouteBy_of_winner (reachable : Reachable limits state) {best : Eval}
    (front : winner ranking limits policy state source target = some best)
    (decided : decideRouteBy ranking limits ambient source target policy state =
      .ok decision) :
    decision.selected = some best.path.id ∧
      decision.outcome = selectedOutcome best.quality.outcome ∧
      decision.executable = decision.outcome.permits := by
  have tables := (consistent_of_reachable reachable).tables
  obtain ⟨enumerated, -, -⟩ := of_mem_competitors (Selection.front_mem front)
  obtain ⟨sourceFound, targetFound⟩ := candidate_ends_found tables enumerated
  refine decideRouteFrom_of_chosen sourceFound targetFound ?_ front decided
  rw [candidates, Ne, List.map_eq_nil_iff]
  exact List.ne_nil_of_mem enumerated

theorem winner_of_selected {id : PathId}
    (decided : decideRouteBy ranking limits ambient source target policy state =
      .ok decision) (selected : decision.selected = some id) :
    ∃ best, winner ranking limits policy state source target = some best ∧
      best.path.id = id :=
  chosen_of_selected decided selected

theorem winner_of_executable
    (decided : decideRouteBy ranking limits ambient source target policy state =
      .ok decision) (executable : decision.executable = true) :
    ∃ best, winner ranking limits policy state source target = some best ∧
      decision.selected = some best.path.id ∧ best.quality.outcome.Usable := by
  obtain ⟨best, front, selected, permitted⟩ :=
    (justifiedFrom_of_executable decided executable).best_selected
  exact ⟨best, front, selected, permits_iff.mp permitted⟩

theorem decideRouteBy_total (ranking : Ranking) (limits : Limits) (ambient : Ambient)
    (source target : DeviceId) (policy : RoutePolicy) (state : State) :
    ∃ decision, decideRouteBy ranking limits ambient source target policy state =
      .ok decision :=
  decideRouteFrom_total _ limits ambient source target policy state state.observations

/-- The comparator orders the competitors as the stable sort requires. -/
def Lawful (ranking : Ranking) (limits : Limits) (policy : RoutePolicy) (state : State)
    (source target : DeviceId) : Prop :=
  Selection.WeakOrder (ranking policy (competitors limits policy state source target))
    (competitors limits policy state source target)

/-- Every competitor without the property is outranked by one with it. -/
def Outranked (ranking : Ranking) (limits : Limits) (policy : RoutePolicy) (state : State)
    (source target : DeviceId) (good : Eval → Prop) : Prop :=
  Selection.Outranked
    (ranking policy (competitors limits policy state source target)) good
    (competitors limits policy state source target)

/-- The winner has a property exactly if the competitors without it are outranked. -/
theorem winner_good_iff (lawful : Lawful ranking limits policy state source target)
    (good : Eval → Prop) :
    (∀ best, winner ranking limits policy state source target = some best → good best) ↔
      Outranked ranking limits policy state source target good :=
  Selection.front_good_iff lawful good

/-- Only the competitors matter. -/
theorem outranked_congr {first second : Eval → Prop}
    (same : ∀ eval ∈ competitors limits policy state source target,
      first eval ↔ second eval) :
    Outranked ranking limits policy state source target first ↔
      Outranked ranking limits policy state source target second :=
  Selection.outranked_congr same

/-- Whatever `decide_route` selects has a property exactly if the competitors without it
are outranked by competitors with it. -/
theorem selected_iff_outranked (reachable : Reachable limits state)
    (lawful : Lawful ranking limits policy state source target) (good : Path → Prop) :
    (∀ (ambient : Ambient) (decision : RouteDecision) (id : PathId),
      decideRouteBy ranking limits ambient source target policy state = .ok decision →
      decision.selected = some id →
      ∃ best, winner ranking limits policy state source target = some best ∧
        best.path.id = id ∧ good best.path) ↔
      Outranked ranking limits policy state source target (fun eval =>
        good eval.path) := by
  rw [← winner_good_iff lawful]
  constructor
  · intro always best front
    obtain ⟨decision, decided⟩ :=
      decideRouteBy_total ranking limits {} source target policy
      state
    obtain ⟨selected, -, -⟩ := decideRouteBy_of_winner reachable front decided
    obtain ⟨other, same, -, holds⟩ := always {} decision best.path.id decided selected
    obtain rfl := Option.some.inj (front.symm.trans same)
    exact holds
  · intro always ambient decision id decided selected
    obtain ⟨best, front, same⟩ := winner_of_selected decided selected
    exact ⟨best, front, same, always best front⟩

/-- Whatever an executable decision selects has a property exactly if the usable
competitors without it are outranked by the others. -/
theorem executable_iff_outranked (reachable : Reachable limits state)
    (lawful : Lawful ranking limits policy state source target) (good : Path → Prop) :
    (∀ (ambient : Ambient) (decision : RouteDecision),
      decideRouteBy ranking limits ambient source target policy state = .ok decision →
      decision.executable = true →
      ∃ best, winner ranking limits policy state source target = some best ∧
        decision.selected = some best.path.id ∧ good best.path) ↔
      Outranked ranking limits policy state source target
        (fun eval => eval.quality.outcome.Usable → good eval.path) := by
  rw [← winner_good_iff lawful]
  constructor
  · intro always best front usable
    obtain ⟨decision, decided⟩ :=
      decideRouteBy_total ranking limits {} source target policy
      state
    obtain ⟨-, outcome, executable⟩ := decideRouteBy_of_winner reachable front decided
    rw [outcome, permits_iff.mpr usable] at executable
    obtain ⟨other, same, -, holds⟩ := always {} decision decided executable
    obtain rfl := Option.some.inj (front.symm.trans same)
    exact holds
  · intro always ambient decision decided executable
    obtain ⟨best, front, selected, usable⟩ := winner_of_executable decided executable
    exact ⟨best, front, selected, always best front usable⟩

end Winner

/-- Once a candidate passes the hard constraints, the decision takes the outcome of a
competitor that none is put before.  It is executable exactly if the unusable competitors
are outranked by usable ones. -/
theorem decideRoute_usable (ranking : Ranking) (reachable : Reachable limits state)
    (lawful : Lawful ranking limits policy state source target)
    (enumerated : path ∈ enumeratePathsImpl (buildSnapshot state) source target limits)
    (accepted : rejectedIn policy state path = false) (ambient : Ambient) :
    ∃ decision, decideRouteBy ranking limits ambient source target policy state =
        .ok decision ∧
      (∃ best ∈ competitors limits policy state source target,
        (∀ other ∈ competitors limits policy state source target,
          ranking policy (competitors limits policy state source target) other best =
            false) ∧
        decision.selected = some best.path.id ∧
        decision.outcome = selectedOutcome best.quality.outcome) ∧
      (decision.executable = true ↔
        Outranked ranking limits policy state source target
          (fun eval => eval.quality.outcome.Usable)) := by
  obtain ⟨decision, decided⟩ := decideRouteBy_total ranking limits ambient source target
    policy state
  obtain ⟨best, front⟩ := winner_of_accepted ranking enumerated accepted
  obtain ⟨selected, outcome, executable⟩ :=
    decideRouteBy_of_winner reachable front decided
  refine ⟨decision, decided, ⟨best, Selection.front_mem front, ?_, selected, outcome⟩, ?_⟩
  · intro other member
    exact Selection.front_best lawful front member
  · rw [← winner_good_iff lawful, executable, outcome, permits_iff, front]
    simp

/-- Two devices joined by a link of unknown capability, and by way of a third one by links
that carry traffic. -/
def shortcutCalls : List Call :=
  [⟨.upsertDevice { id := ⟨1⟩, generation := ⟨1⟩ }, {}⟩,
    ⟨.upsertDevice { id := ⟨2⟩, generation := ⟨1⟩ }, {}⟩,
    ⟨.upsertDevice { id := ⟨3⟩, generation := ⟨1⟩ }, {}⟩,
    ⟨.upsertLink
      { id := ⟨7⟩, source := ⟨1⟩, target := ⟨2⟩, generation := ⟨1⟩, state := .up }, {}⟩,
    ⟨.upsertLink
      { id := ⟨8⟩, source := ⟨1⟩, target := ⟨3⟩, generation := ⟨1⟩, state := .up,
        capability := { nominalBandwidthBps := 100 } }, {}⟩,
    ⟨.upsertLink
      { id := ⟨9⟩, source := ⟨3⟩, target := ⟨2⟩, generation := ⟨1⟩, state := .up,
        capability := { nominalBandwidthBps := 100 } }, {}⟩]

theorem shortcut_candidate :
    ∃ path ∈ enumeratePathsImpl (buildSnapshot (run {} State.initial shortcutCalls))
        ⟨1⟩ ⟨2⟩ {},
      rejectedIn .defaultPolicy (run {} State.initial shortcutCalls) path = false ∧
        (qualityIn (run {} State.initial shortcutCalls) path).outcome.Usable := by
  decide +kernel

/-- The default policy prefers the direct link of unknown capability. -/
theorem shortcut_refused :
    (decideRouteBy Double.ranking {} {} ⟨1⟩ ⟨2⟩ .defaultPolicy
      (run {} State.initial shortcutCalls)).toOption.map (·.executable) = some false := by
  decide +kernel

/-- A usable candidate that passes the hard constraints does not suffice. -/
theorem decideRoute_shortcut :
    ¬∀ (limits : Limits) (ambient : Ambient) (state : State) (source target : DeviceId)
        (policy : RoutePolicy) (path : Path), Reachable limits state →
      path ∈ enumeratePathsImpl (buildSnapshot state) source target limits →
      rejectedIn policy state path = false → (qualityIn state path).outcome.Usable →
      ∃ decision, decideRouteBy Double.ranking limits ambient source target policy state =
          .ok decision ∧
        decision.executable = true := by
  intro granted
  obtain ⟨path, enumerated, accepted, usable⟩ := shortcut_candidate
  obtain ⟨decision, decided, executable⟩ := granted {} {} _ ⟨1⟩ ⟨2⟩ .defaultPolicy path
    ⟨shortcutCalls, rfl⟩ enumerated accepted usable
  have refused := shortcut_refused
  rw [decided] at refused
  simp [Except.toOption, executable] at refused

/-- The unusable shortcut is not outranked. -/
theorem decideRoute_usable_shortcut :
    ∃ decision, decideRouteBy Double.ranking {} {} ⟨1⟩ ⟨2⟩ .defaultPolicy
        (run {} State.initial shortcutCalls) = .ok decision ∧
      decision.executable = false ∧
      ¬Outranked Double.ranking {} .defaultPolicy
        (run {} State.initial shortcutCalls) ⟨1⟩ ⟨2⟩
        (fun eval => eval.quality.outcome.Usable) := by
  obtain ⟨path, enumerated, accepted, -⟩ := shortcut_candidate
  have lawful : Lawful Double.ranking {} .defaultPolicy
      (run {} State.initial shortcutCalls)
      ⟨1⟩ ⟨2⟩ := Double.ranking_weakOrder (by decide +kernel)
  obtain ⟨decision, decided, -, granted⟩ :=
    decideRoute_usable Double.ranking ⟨shortcutCalls, rfl⟩ lawful enumerated accepted {}
  have refused := shortcut_refused
  rw [decided] at refused
  have unexecutable : decision.executable =
      false := by simpa [Except.toOption] using refused
  refine ⟨decision, decided, unexecutable, ?_⟩
  rw [← granted, unexecutable]
  exact Bool.false_ne_true

end Registry

end NvlinkFabric

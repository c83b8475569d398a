import NvlinkFabric.Route.Direct
import NvlinkFabric.Registry.MeasurementHistory

/-!
# Measurements that are used

Quality and decisions read the history through the latest usable measurement of
the endpoints.  A publication whose authority lapsed is never usable again; one
whose endpoint was removed and inserted anew stays usable.
-/

namespace NvlinkFabric

/-- Measurements that cannot be used make no difference to the selection. -/
theorem bestMeasurement_filterMap {path : Path} {α : Type}
    {value : α → Option MeasurementRecord} {excluded : α → Bool} {positions : List α}
    (unusable : ∀ position ∈ positions, excluded position = true →
      ∀ measurement, value position = some measurement → ¬Usable measurement) :
    bestMeasurement (positions.filterMap value) path =
      bestMeasurement ((positions.filter (!excluded ·)).filterMap value) path := by
  rw [bestMeasurement, bestMeasurement]
  generalize (none : Option MeasurementRecord) = best
  induction positions generalizing best with
  | nil => rfl
  | cons position positions ih =>
      have rest := ih fun other member => unusable other (List.mem_cons_of_mem _ member)
      have here := unusable position List.mem_cons_self
      cases found : value position with
      | none =>
          rw [List.filterMap_cons_none found, List.filter_cons]
          split
          · rw [List.filterMap_cons_none found]
            exact rest best
          · exact rest best
      | some measurement =>
          rw [List.filterMap_cons_some found, List.foldl_cons, List.filter_cons]
          cases dropped : excluded position with
          | true =>
              rcases considerMeasurement_cases path best measurement with
                same | ⟨usable, -⟩
              · rw [same]
                exact rest best
              · exact absurd usable (here dropped measurement found)
          | false =>
              rw [Bool.not_false, if_pos rfl, List.filterMap_cons_some found,
                List.foldl_cons]
              exact rest _

theorem computeQuality_congr {topo : TopologySnapshot} {path : Path}
    {left right : List MeasurementRecord}
    (same : bestMeasurement left path = bestMeasurement right path) :
    computeQuality topo left path = computeQuality topo right path := by
  simp only [computeQuality, same]

namespace Registry

open Transition

variable {limits : Limits} {calls : List Call} {state : State}

/-- Histories that give every path the same measurement give the same decisions. -/
theorem decideRouteWith_history {history : List MeasurementRecord}
    (same : ∀ path, bestMeasurement state.measurementHistory path =
      bestMeasurement history path)
    (ambient : Ambient) (source target : DeviceId) (policy : RoutePolicy)
    (observed : List Observation) :
    decideRouteWith limits ambient source target policy state observed =
      decideRouteWith limits ambient source target policy
        { state with measurementHistory := history } observed := by
  have listed : candidates limits policy (consistentView state) source target =
      candidates limits policy (consistentView { state with
                                                 measurementHistory := history })
        source target := by
    apply List.map_congr_left
    intro path _
    have quality : computeQuality (buildSnapshot state) state.measurementHistory path =
        computeQuality (buildSnapshot state) history path :=
          computeQuality_congr (same path)
    simp only [consistentView, quality]
    rfl
  simp only [decideRouteWith, decideRouteFrom, listed]
  rfl

/-- The history of a run without the publications at some positions. -/
def historyWithout (limits : Limits) (calls : List Call) (excluded : Nat → Bool) :
    List MeasurementRecord :=
  ((keptPositions limits calls).filter (!excluded ·)).filterMap (entryAt limits calls)

/-- After the run, no excluded publication is what a path takes its measurement from, and
quality and decisions are as if it had not been made. -/
structure NotUsed (limits : Limits) (calls : List Call)
    (excluded : Nat → Bool) : Prop where
  selected : ∀ path measurement,
    bestMeasurement (run limits .initial calls).measurementHistory path =
      some measurement →
      ∀ index ∈ keptPositions limits calls,
        entryAt limits calls index = some measurement → excluded index = false
  quality : ∀ path, computePathQuality path (run limits .initial calls) =
    computePathQuality path { run limits .initial calls with
      measurementHistory := historyWithout limits calls excluded }
  decision : ∀ ambient source target policy observed,
    decideRouteWith limits ambient source target policy
      (run limits .initial calls) observed =
      decideRouteWith limits ambient source target policy { run limits .initial calls with
        measurementHistory := historyWithout limits calls excluded } observed

/-- Publications that are no longer usable are not used. -/
theorem notUsed_of_unusable {excluded : Nat → Bool}
    (unusable : ∀ index ∈ keptPositions limits calls, excluded index = true →
      ∀ measurement, entryAt limits calls index = some measurement →
        ¬Usable measurement) :
    NotUsed limits calls excluded := by
  have same : ∀ path,
      bestMeasurement (run limits .initial calls).measurementHistory path =
      bestMeasurement (historyWithout limits calls excluded) path := by
    intro path
    rw [measurementHistory_eq_positions]
    exact bestMeasurement_filterMap unusable
  constructor
  · intro path measurement chosen index kept entry
    by_contra excludedIndex
    rw [Bool.not_eq_false] at excludedIndex
    exact unusable index kept excludedIndex measurement entry
      (bestMeasurement_mem chosen).2
  · intro path
    have quality : computeQuality (buildSnapshot (run limits .initial calls))
        (run limits .initial calls).measurementHistory path = _ :=
      computeQuality_congr (same path)
    simp only [computePathQuality, consistentView, quality]
    rfl
  · exact decideRouteWith_history same

/-- A mark or a successful restore followed the position. -/
def lapsedAfter (limits : Limits) (calls : List Call) (index : Nat) : Bool :=
  (calls.drop (index + 1)).any marks ||
    restoresIn limits (run limits .initial (calls.take (index + 1)))
      (calls.drop (index + 1))

/-- The history is the end of what was published since the last restore, each entry as it
was published and stale if a mark followed; what a mark or a restore followed is not used
again. -/
theorem measurementHistory_exact (limits : Limits) (calls : List Call) :
    (run limits .initial calls).measurementHistory =
        ((List.range calls.length).filterMap (entryAt limits calls)).rtake
          limits.maxMeasurementHistory ∧
      (∀ index measurement, entryAt limits calls index = some measurement →
        measurement.stale = (calls.drop (index + 1)).any marks ∧
          measurement.revalidationRequired = (calls.drop (index + 1)).any marks) ∧
      (∀ limit, recentMeasurements limit (run limits .initial calls) =
        (run limits .initial calls).measurementHistory.rtake
          (min limit (run limits .initial calls).measurementHistory.length)) ∧
      NotUsed limits calls (lapsedAfter limits calls) := by
  refine ⟨measurementHistory_eq limits calls, ?_, fun limit => ?_, notUsed_of_unusable ?_⟩
  · intro index measurement entry
    obtain ⟨-, published, -, rfl⟩ := entryAt_eq_some_iff.mp entry
    exact ⟨rfl, rfl⟩
  · rw [recentMeasurements_eq_rtake, List.rtake, List.rtake]
    congr 1
    omega
  · intro index kept lapsed measurement entry usable
    obtain ⟨notRestored, published, -, rfl⟩ := entryAt_eq_some_iff.mp entry
    rw [lapsedAfter, notRestored, Bool.or_false] at lapsed
    exact Bool.false_ne_true (usable.2.symm.trans lapsed)

/-- The device a call removes. -/
def removes (limits : Limits) (state : State) (call : Call) : Option DeviceId :=
  match call.operation with
  | .removeDevice device => if accepted limits call state then some device else none
  | _ => none

/-- The device a call inserts. -/
def inserts (limits : Limits) (state : State) (call : Call) : Option DeviceId :=
  match call.operation with
  | .upsertDevice device =>
      if accepted limits call state && (state.devices.find? device.id).isNone then
        some device.id
      else none
  | _ => none

/-- What a call of the run does, given the state it starts from. -/
def atPosition {α : Type} (effect : State → Call → Option α) (limits : Limits)
    (calls : List Call) (index : Nat) : Option α :=
  calls[index]?.bind (effect (run limits .initial (calls.take index)))

/-- An endpoint of the publication at the position was removed and inserted again after
it. -/
def outlived (limits : Limits) (calls : List Call) (index : Nat) : Bool :=
  (calls[index]?.bind publishes).any fun measurement =>
    (List.range calls.length).any fun removal =>
      (List.range calls.length).any fun insertion =>
        decide (index < removal ∧ removal < insertion) &&
          [measurement.source, measurement.target].any fun device =>
            atPosition (removes limits) limits calls removal = some device &&
              atPosition (inserts limits) limits calls insertion = some device

/-- The call inserts no device of which the history holds a usable measurement from
before its last removal. -/
def InsertsClean (limits : Limits) (before : List Call) (call : Call) : Prop :=
  ∀ device, inserts limits (run limits .initial before) call = some device →
    ∀ index ∈ keptPositions limits before, ∀ measurement,
      entryAt limits before index = some measurement → Usable measurement →
        (device = measurement.source ∨ device = measurement.target) →
          ∀ removal, index < removal →
            atPosition (removes limits) limits before removal ≠ some device

theorem atPosition_take {α : Type} (effect : State → Call → Option α) {count index : Nat}
    (earlier : index < count) :
    atPosition effect limits (calls.take count) index =
      atPosition effect limits calls index := by
  rw [atPosition, atPosition, List.getElem?_take_of_lt earlier, List.take_take,
    min_eq_left (Nat.le_of_lt earlier)]

/-- The steps that `outlived` looks for. -/
theorem exists_of_outlived {index : Nat} {measurement : MeasurementRecord}
    (entry : entryAt limits calls index = some measurement)
    (replaced : outlived limits calls index = true) :
    ∃ removal insertion device, index < removal ∧ removal < insertion ∧
      insertion < calls.length ∧
      (device = measurement.source ∨ device = measurement.target) ∧
      atPosition (removes limits) limits calls removal = some device ∧
      atPosition (inserts limits) limits calls insertion = some device := by
  obtain ⟨-, published, found, rfl⟩ := entryAt_eq_some_iff.mp entry
  rw [outlived, found, Option.any_some, List.any_eq_true] at replaced
  obtain ⟨removal, -, replaced⟩ := replaced
  obtain ⟨insertion, within, replaced⟩ := List.any_eq_true.mp replaced
  rw [Bool.and_eq_true, decide_eq_true_eq, List.any_eq_true] at replaced
  obtain ⟨⟨after, later⟩, device, named, effects⟩ := replaced
  simp only [Bool.and_eq_true, decide_eq_true_eq] at effects
  have ends : device = published.source ∨
      device = published.target := by simpa using named
  exact ⟨removal, insertion, device, after, later, List.mem_range.mp within,
    ends, effects⟩

/-- As long as every insertion is clean, no measurement outlives its endpoints. -/
theorem notUsed_outlived (clean : AtEach (InsertsClean limits) calls)
    {reached : List Call} (reachedBy : reached <+: calls) :
    NotUsed limits reached (outlived limits reached) := by
  apply notUsed_of_unusable
  intro index kept replaced measurement entry usable
  obtain ⟨removal, insertion, device, after, later, within, named, removed, inserted⟩ :=
    exists_of_outlived entry replaced
  -- The condition is that of the insertion, read at the calls before it.
  obtain ⟨call, found, insertedHere⟩ := Option.bind_eq_some_iff.mp inserted
  have step : reached.take insertion ++ [call] <+: calls := by
    have whole : reached.take (insertion + 1) = reached.take insertion ++ [call] := by
      rw [List.take_add_one, found]
      rfl
    rw [← whole]
    exact (List.take_prefix _ _).trans reachedBy
  have before : index < (reached.take insertion).length := by
    rw [List.length_take]
    omega
  apply clean _ _ step device insertedHere index
    (mem_keptPositions_of_initialPart (List.take_prefix _ _) before kept) measurement
    (entryAt_of_initialPart (List.take_prefix _ _) before usable.2 entry)
      usable named removal
    after
  rw [atPosition_take _ later]
  exact removed

/-- A link is measured, and one of its devices removed and inserted again, with a link. -/
def replacedEndpoint : List Call :=
  Worker.publication ⟨1⟩ ++ [⟨.publishMeasurement (Worker.measurement ⟨1⟩), {}⟩,
    ⟨.removeDevice Worker.sourceId, {}⟩, ⟨.upsertDevice (Worker.sourceDevice ⟨2⟩), {}⟩,
    ⟨.upsertLink (Worker.link ⟨2⟩ {}), {}⟩]

/-- The path over the link of the new device. -/
def replacedPath : Path :=
  directPath (buildSnapshot (run {} .initial replacedEndpoint)) Worker.sourceId
    Worker.targetId
    (Worker.link ⟨2⟩ {}).id

/-- The new device is credited with the bandwidth of its predecessor. -/
theorem measurement_outlives_endpoint :
    ¬∀ calls, NotUsed {} calls (outlived {} calls) := by
  intro holds
  have unused := (holds replacedEndpoint).selected replacedPath (Worker.measurement ⟨1⟩)
    (by decide +kernel) 3 (by decide +kernel) (by decide +kernel)
  have replaced : outlived {} replacedEndpoint 3 = true := by decide +kernel
  exact Bool.false_ne_true (unused.symm.trans replaced)

/-- A device is removed and inserted again before it is measured. -/
def measuredAfterwards : List Call :=
  [⟨.upsertDevice (Worker.sourceDevice ⟨1⟩), {}⟩,
    ⟨.upsertDevice (Worker.targetDevice ⟨1⟩), {}⟩, ⟨.removeDevice Worker.sourceId, {}⟩,
    ⟨.upsertDevice (Worker.sourceDevice ⟨2⟩), {}⟩,
    ⟨.publishMeasurement (Worker.measurement ⟨2⟩), {}⟩]

/-- A measurement of the new device is no relic. -/
theorem notUsed_measuredAfterwards :
    NotUsed {} measuredAfterwards (outlived {} measuredAfterwards) := by
  have unmeasured : ∀ count < 5,
      keptPositions {} (measuredAfterwards.take count) = [] := by
    decide
  apply notUsed_outlived _ (List.prefix_refl _)
  intro before call step device _ index kept
  have size := step.length_le
  rw [List.length_append] at size
  have same := List.prefix_iff_eq_take.mp ((List.prefix_append _ _).trans step)
  rw [same, unmeasured before.length size] at kept
  exact absurd kept List.not_mem_nil

end Registry

end NvlinkFabric

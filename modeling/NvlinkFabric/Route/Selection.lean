import NvlinkFabric.Route.Constraints
import NvlinkFabric.Lib.Selection
import Mathlib.Data.Prod.Lex
import Mathlib.Order.WithBot

/-!
# Which candidate is selected

The comparator of the ranking sort decides a lexicographic key, so the candidate
sorted to the front is the first one with the largest key.  The key ends with the
identity of the path: candidates with distinct identities are totally ordered and
the selection does not depend on the order in which they were found.
-/

namespace NvlinkFabric

/-- Higher measured bandwidth first, unmeasured last. -/
def bandwidthKey : Option ℚ → WithBot ℚ
  | none => ⊥
  | some bandwidth => bandwidth

/-- Lower measured latency first, unmeasured last. -/
def latencyKey : Option ℚ → (WithTop ℚ)ᵒᵈ
  | none => .toDual ⊤
  | some latency => .toDual latency

/-- What the ranking maximizes among equal scores: direct, fewer hops, nominal bandwidth,
measured bandwidth, lower latency, smaller identity. -/
def Eval.tieKey (eval : Eval) :
    Bool ×ₗ ℕᵒᵈ ×ₗ ℕ ×ₗ WithBot ℚ ×ₗ (WithTop ℚ)ᵒᵈ ×ₗ ℕᵒᵈ :=
  toLex (eval.path.direct, toLex (.toDual eval.path.hopCount,
    toLex (eval.quality.nominalBandwidthBps.toNat,
      toLex (bandwidthKey eval.quality.measuredBandwidthBps,
        toLex (latencyKey eval.quality.measuredLatencySeconds,
          .toDual eval.path.id.value.toNat)))))

/-- What the ranking maximizes: the score before everything else. -/
def Eval.key (eval : Eval) :
    ℚ ×ₗ Bool ×ₗ ℕᵒᵈ ×ₗ ℕ ×ₗ WithBot ℚ ×ₗ (WithTop ℚ)ᵒᵈ ×ₗ ℕᵒᵈ :=
  toLex (eval.score, eval.tieKey)

theorem optBwHigher_iff (left right : Option ℚ) :
    optBwHigher left right = true ↔ bandwidthKey right < bandwidthKey left := by
  cases left <;> cases right <;> simp [optBwHigher, bandwidthKey]

theorem optLatLower_iff (left right : Option ℚ) :
    optLatLower left right = true ↔ latencyKey right < latencyKey left := by
  cases left <;> cases right <;>
    simp [optLatLower, latencyKey, OrderDual.toDual_lt_toDual, -OrderDual.toDual_top]

/-- One component of a lexicographic comparison, read as the comparator tests it. -/
theorem lex_lt_iff {α β : Type} [LinearOrder α] [LT β] {left right : α} {low high : β} :
    toLex (right, low) < toLex (left, high) ↔
      if left = right then low < high else right < left := by
  rw [Prod.Lex.toLex_lt_toLex]
  split
  next same => simp [same]
  next different => simp [Ne.symm different]

/-- Two components that are compared by a comparator in both directions. -/
theorem lex_lt_iff_of_comparator {α β : Type} [LinearOrder α] [LT β] {left right : α}
    {low high : β} {larger smaller : Bool} (larger_iff : larger = true ↔ right < left)
    (smaller_iff : smaller = true ↔ left < right) :
    toLex (right, low) < toLex (left, high) ↔
      if larger then True else if smaller then False else low < high := by
  rw [lex_lt_iff]
  rcases lt_trichotomy left right with below | same | above
  · simp [below.ne, below.not_gt, smaller_iff.mpr below, larger_iff]
  · subst same
    simp [larger_iff, smaller_iff]
  · simp [above.ne', above, larger_iff.mpr above]

/-- A comparison and its specification that branch on the same test. -/
theorem branch_iff {test : Prop} [Decidable test] {first second : Bool}
    {whenTrue whenFalse : Prop} (holds : test → (first = true ↔ whenTrue))
    (fails : ¬test → (second = true ↔ whenFalse)) :
    (if test then first else second) = true ↔ if test then whenTrue else whenFalse := by
  by_cases passed : test
  · rw [if_pos passed, if_pos passed, holds passed]
  · rw [if_neg passed, if_neg passed, fails passed]

/-- The comparator decides the key among equal scores. -/
theorem Eval.tieRanks : Selection.Ranks Eval.tieKey Eval.tieBefore := by
  intro left right
  simp only [Eval.tieKey, lex_lt_iff, OrderDual.toDual_inj, OrderDual.toDual_lt_toDual,
    lex_lt_iff_of_comparator (optBwHigher_iff left.quality.measuredBandwidthBps _)
      (optBwHigher_iff right.quality.measuredBandwidthBps _),
    lex_lt_iff_of_comparator (optLatLower_iff left.quality.measuredLatencySeconds _)
      (optLatLower_iff right.quality.measuredLatencySeconds _)]
  simp only [Eval.tieBefore, ne_eq, ite_not, UInt64.toNat_inj]
  -- Both sides test the same components in the same order.
  refine branch_iff (fun _ => ?_) fun different => ?_
  · refine branch_iff (fun _ => ?_) fun _ => decide_eq_true_iff
    refine branch_iff (fun _ => ?_) fun _ => ?_
    · refine branch_iff (fun _ => iff_of_true rfl trivial) fun _ => ?_
      refine branch_iff (fun _ => iff_of_false Bool.false_ne_true id) fun _ => ?_
      refine branch_iff (fun _ => iff_of_true rfl trivial) fun _ => ?_
      refine branch_iff (fun _ => iff_of_false Bool.false_ne_true id) fun _ => ?_
      rw [decide_eq_true_iff, Id.lt_iff]
    · rw [decide_eq_true_iff, gt_iff_lt, UInt64.lt_iff_toNat_lt]
  · generalize left.path.direct = first at different ⊢
    generalize right.path.direct = second at different ⊢
    revert first second
    decide

/-- The comparator decides the key. -/
theorem Eval.ranks : Selection.Ranks Eval.key Eval.before := by
  intro left right
  simp only [Eval.key, lex_lt_iff, Eval.before, ne_eq, ite_not]
  exact branch_iff (fun _ => Eval.tieRanks left right) fun _ => decide_eq_true_iff

theorem Eval.id_eq_of_key_eq {left right : Eval} (same : left.key = right.key) :
    left.path.id = right.path.id := by
  simp only [Eval.key, Eval.tieKey, EmbeddingLike.apply_eq_iff_eq, Prod.mk.injEq] at same
  exact Id.eq_iff.mpr same.2.2.2.2.2.2

/-- A larger key has no smaller score. -/
theorem Eval.score_le_of_key_le {left right : Eval} (atMost : left.key ≤ right.key) :
    left.score ≤ right.score := by
  rw [Eval.key, Eval.key, Prod.Lex.toLex_le_toLex] at atMost
  rcases atMost with below | ⟨same, -⟩
  · exact below.le
  · exact same.le

/-- The candidates with the scores they are ranked by. -/
def scored (policy : RoutePolicy) (evals : List Eval) : List Eval :=
  let context := factorContext evals
  evals.map fun eval => { eval with score := scorePath policy eval.quality context }

/-- The comparator on the exact scores of the eligible candidates. -/
def exactRanking : Ranking := fun policy evals left right =>
  Eval.before { left with score := scorePath policy left.quality (factorContext evals) }
    { right with score := scorePath policy right.quality (factorContext evals) }

/-- `decide_route` with exact scores is the decision by the exact comparator. -/
theorem Registry.decideRoute_eq (limits : Limits) (ambient : Ambient)
    (source target : DeviceId) (policy : RoutePolicy) (state : State) :
    decideRoute limits ambient source target policy state =
      decideRouteBy exactRanking limits ambient source target policy state := by
  rw [decideRoute, decideRouteWith, decideRouteBy]
  refine decideRouteFrom_congr fun evals => ?_
  have ranked : (rank policy evals).head? = Selection.front Eval.before
      (evals.map fun eval =>
        { eval with score := scorePath policy eval.quality (factorContext evals) }) := rfl
  rw [ranked, Selection.front_map, Option.map_map]
  rfl

theorem mem_scored {policy : RoutePolicy} {evals : List Eval} {eval : Eval}
    (member : eval ∈ evals) :
    { eval with score := scorePath policy eval.quality (factorContext evals) } ∈
      scored policy evals :=
  List.mem_map.mpr ⟨eval, member, rfl⟩

theorem score_of_mem_scored {policy : RoutePolicy} {evals : List Eval} {eval : Eval}
    (member : eval ∈ scored policy evals) :
    eval.score = scorePath policy eval.quality (factorContext evals) := by
  obtain ⟨unscored, -, rfl⟩ := List.mem_map.mp member
  rfl

theorem factorContext_perm {left right : List Eval} (perm : left.Perm right) :
    factorContext left = factorContext right := by
  refine perm.foldl_eq' ?_ _
  intro first _ second _ context
  rw [FactorContext.mk.injEq]
  constructor
  · exact max_right_comm _ _ _
  · cases first.quality.measuredBandwidthBps with
    | none => rfl
    | some _ =>
        cases second.quality.measuredBandwidthBps with
        | none => rfl
        | some _ => exact max_right_comm _ _ _

theorem scored_perm (policy : RoutePolicy) {left right : List Eval}
    (perm : left.Perm right) :
    (scored policy left).Perm (scored policy right) := by
  simp only [scored, factorContext_perm perm]
  exact perm.map _

/-- Candidates with distinct identities have distinct keys. -/
theorem scored_injective (policy : RoutePolicy) {evals : List Eval}
    (distinct : (evals.map (·.path.id)).Nodup) {left right : Eval}
    (leftMember : left ∈ scored policy evals) (rightMember : right ∈ scored policy evals)
    (same : left.key = right.key) : left = right := by
  have ids : ((scored policy evals).map (·.path.id)).Nodup := by
    rw [scored, List.map_map]
    exact distinct
  exact List.inj_on_of_nodup_map ids leftMember rightMember (Eval.id_eq_of_key_eq same)

/-- Between candidates with distinct identities the comparator is a strict total order.
The candidate it sorts to the front is the only maximum of the key, whatever the order
of the candidates. -/
theorem rank_optimal (policy : RoutePolicy) (evals : List Eval) (nonempty : evals ≠ [])
    (distinct : (evals.map (·.path.id)).Nodup) :
    IsStrictTotalOrder { eval // eval ∈ scored policy evals }
        (fun left right => left.1.before right.1 = true) ∧
      (∃ best, (rank policy evals).head? = some best ∧ best ∈ scored policy evals ∧
        ∀ other ∈ scored policy evals, other ≠ best → other.key < best.key) ∧
      ∀ permuted : List Eval, permuted.Perm evals →
        (rank policy permuted).head? = (rank policy evals).head? := by
  refine ⟨?_, ?_, ?_⟩
  · exact
      { irrefl := fun eval => by simp [Eval.ranks _ _]
        trans := fun first second third => by
          simp only [Eval.ranks _ _]
          exact fun larger smaller => smaller.trans larger
        trichotomous := fun left right unbeaten unbeating => by
          rw [Bool.not_eq_true, Eval.ranks.eq_false] at unbeaten unbeating
          exact Subtype.ext (scored_injective policy distinct left.2 right.2
            (le_antisymm unbeaten unbeating)) }
  · obtain ⟨best, selected⟩ : ∃ best,
        Selection.front Eval.before (scored policy evals) = some best := by
      refine Option.ne_none_iff_exists'.mp ?_
      simpa [Selection.front_eq_none, scored] using nonempty
    have member := Selection.front_mem selected
    refine ⟨best, selected, member, ?_⟩
    intro other otherMember different
    refine lt_of_le_of_ne (Selection.front_max Eval.ranks selected otherMember) ?_
    intro same
    exact different (scored_injective policy distinct otherMember member same)
  · intro permuted perm
    refine (Selection.front_perm Eval.ranks (scored_perm policy perm.symm) ?_).symm
    intro left leftMember right rightMember same
    exact scored_injective policy distinct leftMember rightMember same

/-- The two ways between two corners of the triangle are ranked. -/
theorem rank_triangle :
    ∃ evals best,
      evals = eligible (candidates {} { hard := { requireSupportedLinks := false } }
        (Registry.consistentView (Registry.run {} Registry.State.initial
          Registry.triangleCalls)) ⟨1⟩ ⟨2⟩) ∧
      (rank .defaultPolicy evals).head? = some best ∧ best ∈ scored .defaultPolicy evals ∧
      ∀ other ∈ scored .defaultPolicy evals, other ≠ best → other.key < best.key := by
  obtain ⟨-, ⟨best, selected⟩, -⟩ := rank_optimal .defaultPolicy
    (eligible (candidates {} { hard := { requireSupportedLinks := false } }
      (Registry.consistentView (Registry.run {} Registry.State.initial
        Registry.triangleCalls)) ⟨1⟩ ⟨2⟩))
    (List.ne_nil_of_length_pos (by decide +kernel)) (by decide +kernel)
  exact ⟨_, best, rfl, selected⟩

end NvlinkFabric

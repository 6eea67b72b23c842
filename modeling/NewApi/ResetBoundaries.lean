import NewApi.SubscriptionSchedule

/-!
Resets of one subscription along a run: plan-driven resets, administrator resets that advance
the schedule, and settlements in between, at times that never decrease. A reset leaves the
subscription waiting for the first boundary after it, and nothing but that boundary makes a
plan-driven reset due again, as long as the administrator does not reset it in its last period.
-/

namespace NewApi.ResetBoundaries

open Runs SubscriptionReset SubscriptionSchedule CivilTime Table

structure Timeline where
  db : Database
  now : Nat

inductive Call where
  | wait (seconds : Nat)
  | planReset
  | adminReset
  -- Whatever billing writes to amount_used.
  | settle (used : Int)

section Machine

variable (zone : Zone) (plan : SubscriptionPlan) (id : Int) (state : Timeline)

def planReset : Except StoreError (Bool × Database) :=
  match state.db.subscriptions.find? id with
  | none => .error .recordNotFound
  | some sub => do
    let (reset, _, db) ←
      maybeResetUserSubscriptionWithPlan (zoneCalendar zone) state.db sub plan state.now
    .ok (reset, db)

def adminReset : Except StoreError Database :=
  match state.db.subscriptions.find? id with
  | none => .error .recordNotFound
  | some sub => resetUserSubscription (zoneCalendar zone) state.db sub plan state.now true

def settle (db : Database) (used : Int) : Database :=
  match db.subscriptions.updateWhere id (fun _ => true) (fun row =>
      { row with amountUsed := used }) with
  | none => db
  | some subscriptions => { db with subscriptions }

def step : Call → Timeline
  | .wait seconds => { state with now := state.now + seconds }
  | .planReset =>
    match planReset zone plan id state with
    | .error _ => state
    | .ok (_, db) => { state with db }
  | .adminReset =>
    match adminReset zone plan id state with
    | .error _ => state
    | .ok db => { state with db }
  | .settle used => { state with db := settle id state.db used }

/-- The call resets the usage, and the schedule goes on from the base. -/
inductive Resets (state : Timeline) : Call → Int → Prop
  | plan {sub : UserSubscription} {db : Database}
      (found : state.db.subscriptions.find? id = some sub)
      (done : planReset zone plan id state = .ok (true, db)) :
      Resets state .planReset (resetBase sub)
  | admin {db : Database} (done : adminReset zone plan id state = .ok db) :
      Resets state .adminReset state.now

/-- The schedule is steady from the base of a reset to the end of the subscription, and an
administrator resets only while a boundary is left before that end. -/
def Allowed : Call → Prop
  | .planReset => ∀ sub, state.db.subscriptions.find? id = some sub →
      Steady zone plan (resetBase sub) (max (resetBase sub) sub.endTime)
  | .adminReset => ∀ sub, state.db.subscriptions.find? id = some sub →
      Steady zone plan state.now (max state.now sub.endTime) ∧
        ∀ boundary, nextBoundary (zoneCalendar zone) state.now plan = some boundary →
          boundary ≤ sub.endTime
  | _ => True

end Machine

/-- The first boundary after an instant on the schedule that goes on from a base. -/
def FirstAfter (zone : Zone) (plan : SubscriptionPlan) (base instant boundary : Int) : Prop :=
  ∃ last, Relation.ReflTransGen
      (fun left right => nextBoundary (zoneCalendar zone) left plan = some right) base last ∧
    last ≤ instant ∧ instant < boundary ∧
    nextBoundary (zoneCalendar zone) last plan = some boundary

variable {zone : Zone}
  {last base second instant first endTime boundary next lastReset stop used later : Int}
  {calendar : Calendar}

section FirstAfter

variable {plan : SubscriptionPlan}

theorem le_of_boundaries (forward : Forward (zoneCalendar zone) plan) (chain : Relation.ReflTransGen
      (fun left right => nextBoundary (zoneCalendar zone) left plan = some right) base last) :
    base ≤ last := by
  induction chain with
  | refl => exact Int.le_refl _
  | tail _ next ih => exact Int.le_trans ih (Int.le_of_lt (forward _ _ next))

theorem FirstAfter.unique (forward : Forward (zoneCalendar zone) plan)
    (one : FirstAfter zone plan base instant first)
    (two : FirstAfter zone plan base instant second) : first = second := by
  rcases one with ⟨left, reached, early, late, next⟩
  rcases two with ⟨right, reached', early', late', next'⟩
  have deterministic : Relator.RightUnique
      (fun left right => nextBoundary (zoneCalendar zone) left plan = some right) := by
    intro _ _ _ one two
    exact Option.some.inj (one.symm.trans two)
  have same : left = right := by
    rcases reached.total_of_right_unique deterministic reached' with rest | rest
    · rcases rest.cases_head with same | ⟨middle, step, rest⟩
      · exact same
      · have beyond := le_of_boundaries forward rest
        rw [deterministic step next] at beyond
        omega
    · rcases rest.cases_head with same | ⟨middle, step, rest⟩
      · exact same.symm
      · have beyond := le_of_boundaries forward rest
        rw [deterministic step next'] at beyond
        omega
  rw [same] at next
  exact deterministic next next'

end FirstAfter

variable {plan : SubscriptionPlan}

theorem nextBoundary_none (absent : nextBoundary calendar base plan = none) (other : Int) :
    nextBoundary calendar other plan = none := by
  unfold nextBoundary at absent ⊢
  cases period : normalizeResetPeriod plan.quotaResetPeriod with
  | never => rfl
  | custom =>
    simp only [period] at absent ⊢
    split at absent
    · rename_i worthless
      rw [if_pos worthless]
    · cases absent
  | _ =>
    simp only [period] at absent
    cases absent

theorem calcNextResetTime_none (absent : nextBoundary calendar base plan = none) :
    calcNextResetTime calendar base plan endTime = 0 := by
  rw [calcNextResetTime, absent]

theorem calcNextResetTime_some (next : nextBoundary calendar base plan = some boundary)
    (before : boundary ≤ endTime) : calcNextResetTime calendar base plan endTime = boundary := by
  rw [calcNextResetTime, next]
  simp only
  rw [if_neg (by omega)]

/-! Waiting for the boundary after a base. -/

section Waiting

variable (zone : Zone) (plan : SubscriptionPlan) (base : Int)

def Idle (row : UserSubscription) : Prop :=
  (∃ boundary, nextBoundary (zoneCalendar zone) base plan = some boundary ∧
    boundary ≤ row.nextResetTime ∧ 0 < row.nextResetTime) ∨
  (row.nextResetTime ≤ 0 ∧
    calcNextResetTime (zoneCalendar zone) (resetBase row) plan row.endTime ≤ 0)

def Pending (ending now : Int) : Prop :=
  now < ending ∧
    ∀ boundary, nextBoundary (zoneCalendar zone) base plan = some boundary → now < boundary

def Waiting (id ending : Int) (state : Timeline) : Prop :=
  base ≤ state.now ∧ ∃ row, state.db.subscriptions.find? id = some row ∧ row.endTime = ending ∧
    (Pending zone plan base ending state.now → Idle zone plan base row)

end Waiting

section Folded

-- The text of a period stays folded when two schedules are compared.
attribute [local irreducible] normalizeResetPeriod

variable {now start ending : Int} {db : Database} {state : Timeline}

section Steps

variable {after : Database} {sub : UserSubscription}
variable {reset advanced : Bool} {written : UserSubscription}

theorem repairSchedule_row (stored : db.subscriptions.find? sub.id = some sub)
    (done : repairSchedule db sub now lastReset next = .ok (reset, written, after)) :
    after.subscriptions.find? sub.id =
      some { sub with lastResetTime := lastReset, nextResetTime := next } := by
  unfold repairSchedule at done
  split at done
  · rename_i same
    rcases same with ⟨rfl, rfl⟩
    cases done
    exact stored
  · split at done
    · cases done
    rename_i updated
    cases done
    simp only [find?_updateWhere updated (fun _ => rfl), stored, Option.map_some, if_true]

theorem advanceBase_idle {fuel : Nat} (idle : calcNextResetTime calendar base plan endTime ≤ 0) :
    advanceBase calendar plan endTime now (fuel + 1) base advanced =
      some (advanced, base, calcNextResetTime calendar base plan endTime) := by
  simp only [advanceBase]
  rw [if_neg (by omega)]

theorem maybeReset_row
    (stored : db.subscriptions.find? sub.id = some sub)
    (done : maybeResetUserSubscriptionWithPlan (zoneCalendar zone) db sub plan now =
      .ok (reset, written, after)) :
    now < sub.endTime ∧ ∃ row, after.subscriptions.find? sub.id = some row ∧
      row.endTime = sub.endTime ∧
      (Pending zone plan base sub.endTime now → Idle zone plan base sub →
        reset = false ∧ Idle zone plan base row) := by
  unfold maybeResetUserSubscriptionWithPlan at done
  split at done
  · cases done
  refine ⟨by omega, ?_⟩
  split at done
  · cases done
    exact ⟨sub, stored, rfl, fun _ idle => ⟨rfl, idle⟩⟩
  · -- Before the boundary only a subscription without one gets here, and it has none now.
    have over_ (pending : Pending zone plan base sub.endTime now)
        (idle : Idle zone plan base sub) :
        calcNextResetTime (zoneCalendar zone) (resetBase sub) plan sub.endTime ≤ 0 := by
      rcases idle with ⟨boundary, next, later, positive⟩ | ⟨-, idle⟩
      · have early := pending.2 boundary next
        omega
      · exact idle
    split at done
    · cases done
    · rename_i last next looped
      refine ⟨_, repairSchedule_row stored done, rfl, ?_⟩
      intro pending idle
      have none_ := over_ pending idle
      rw [manyRounds, advanceBase_idle none_] at looped
      cases looped
      refine ⟨(repairSchedule_effect done).1, .inr ⟨none_, ?_⟩⟩
      by_cases never : normalizeResetPeriod plan.quotaResetPeriod = .never
      · rw [calcNextResetTime_none (nextBoundary_never never _ _)]
      · simp only [repairedLastReset, if_neg never]
        rw [if_neg (by omega)]
        exact none_
    · rename_i last next looped
      rcases applyDueReset_row done with ⟨row, found, same, -⟩
      refine ⟨row, found, same, ?_⟩
      intro pending idle
      rw [manyRounds, advanceBase_idle (over_ pending idle)] at looped
      cases looped

theorem resetUserSubscription_row (stored : db.subscriptions.find? sub.id = some sub)
    (done : resetUserSubscription calendar db sub plan now true = .ok after) :
    after.subscriptions.find? sub.id =
      some { sub with
        amountUsed := 0
        lastResetTime := (advancedTimes calendar sub plan now).last
        nextResetTime := (advancedTimes calendar sub plan now).next } := by
  unfold resetUserSubscription at done
  split at done
  · cases done
  simp only at done
  split at done
  · rename_i same
    rcases same with ⟨unused, impossible | ⟨last, next⟩⟩
    · cases impossible
    · cases done
      rw [stored, ← unused, ← last, ← next]
  · split at done
    · cases done
    rename_i updated
    cases done
    simp only [find?_updateWhere updated (fun _ => rfl), stored, Option.map_some,
      if_true]
    rfl

theorem advancedTimes_idle (steady : Steady zone plan start stop) {now : Nat} (after : start ≤ base)
    (order : base ≤ now) (before : now ≤ stop)
    (left : ∀ boundary, nextBoundary (zoneCalendar zone) now plan = some boundary →
      boundary ≤ sub.endTime) :
    Idle zone plan base { sub with
      amountUsed := 0
      lastResetTime := (advancedTimes (zoneCalendar zone) sub plan now).last
      nextResetTime := (advancedTimes (zoneCalendar zone) sub plan now).next } := by
  cases own : nextBoundary (zoneCalendar zone) base plan with
  | none =>
    have absent := nextBoundary_none own
    right
    constructor
    · simp only [advancedTimes, calcNextResetTime_none (absent now), Int.le_refl]
    · rw [calcNextResetTime_none (absent _)]
  | some boundary =>
    cases next : nextBoundary (zoneCalendar zone) now plan with
    | none =>
      rw [nextBoundary_none next base] at own
      cases own
    | some later =>
      have ahead := steady_boundaries steady (Int.le_trans after order) (Int.le_refl _) before
        next next
      have ordered := steady_boundaries steady after order before own next
      have written := calcNextResetTime_some next (left later next)
      refine .inl ⟨boundary, own, ?_, ?_⟩
      · simp only [advancedTimes, written]
        exact ordered.2
      · simp only [advancedTimes, written]
        omega

theorem planReset_done {id : Int} (found : state.db.subscriptions.find? id = some sub)
    (done : planReset zone plan id state = .ok (reset, db)) :
    ∃ written, maybeResetUserSubscriptionWithPlan (zoneCalendar zone) state.db sub plan state.now =
      .ok (reset, written, db) := by
  simp only [planReset, found] at done
  rcases bind_ok done with ⟨⟨flag, written, after⟩, called, returned⟩
  cases returned
  exact ⟨written, called⟩

theorem planReset_unreset {id : Int} (done : planReset zone plan id state = .ok (false, db)) :
    db.amountUsed id = state.db.amountUsed id := by
  cases found : state.db.subscriptions.find? id with
  | none =>
    simp only [planReset, found] at done
    cases done
  | some sub =>
    rcases planReset_done found done with ⟨written, called⟩
    have effect := (maybeReset_effect called).1.amountUsed id
    simpa using effect

theorem Waiting.planReset {id : Int} (waiting : Waiting zone plan base id ending state)
    (done : planReset zone plan id state = .ok (reset, db)) :
    Waiting zone plan base id ending { state with db } ∧ state.now < ending ∧
      (Pending zone plan base ending state.now → reset = false) := by
  rcases waiting with ⟨order, sub, found, rfl, idle⟩
  rcases planReset_done found done with ⟨written, called⟩
  have same := find?_key found
  subst same
  rcases maybeReset_row found called with ⟨open_, row, stored, ending, kept⟩
  refine ⟨⟨order, row, stored, ending, ?_⟩, open_, ?_⟩
  · intro pending
    exact (kept pending (idle pending)).2
  · intro pending
    exact (kept pending (idle pending)).1

theorem adminReset_done {id : Int} (found : state.db.subscriptions.find? id = some sub)
    (done : adminReset zone plan id state = .ok db) :
    db.subscriptions.find? id =
      some { sub with
        amountUsed := 0
        lastResetTime := (advancedTimes (zoneCalendar zone) sub plan state.now).last
        nextResetTime := (advancedTimes (zoneCalendar zone) sub plan state.now).next } := by
  simp only [adminReset, found] at done
  have same := find?_key found
  subst same
  exact resetUserSubscription_row found done

theorem settle_row {id : Int} (found : db.subscriptions.find? id = some sub) :
    (settle id db used).subscriptions.find? id = some { sub with amountUsed := used } := by
  have same := find?_key found
  subst same
  rw [settle, updateWhere_of_find? _ found rfl]
  exact find?_save_self found

end Steps

section Steady

variable {id : Int}
variable (steady : Steady zone plan start (max start ending)) (after : start ≤ base)

theorem Pending.earlier (pending : Pending zone plan base ending later) (order : now ≤ later) :
    Pending zone plan base ending now := by
  constructor
  · exact Int.lt_of_le_of_lt order pending.1
  · intro boundary next
    exact Int.lt_of_le_of_lt order (pending.2 boundary next)

include steady after in
theorem step_waiting (state : Timeline) (call : Call) (allowed : Allowed zone plan id state call)
    (waiting : Waiting zone plan base id ending state) :
    Waiting zone plan base id ending (step zone plan id state call) := by
  have waiting' := waiting
  rcases waiting with ⟨order, row, found, same, idle⟩
  cases call with
  | wait seconds =>
    refine ⟨Int.le_trans order (by simp only [step]; omega), row, found, same, ?_⟩
    intro pending
    exact idle (pending.earlier (by simp only [step]; omega))
  | settle used => exact ⟨order, _, settle_row found, same, idle⟩
  | planReset =>
    simp only [step]
    cases done : planReset zone plan id state with
    | error cause => exact waiting'
    | ok result => exact (waiting'.planReset done).1
  | adminReset =>
    simp only [step]
    cases done : adminReset zone plan id state with
    | error cause => exact waiting'
    | ok db =>
      refine ⟨order, _, adminReset_done found done, same, ?_⟩
      intro pending
      have open_ : (state.now : Int) < ending := pending.1
      exact advancedTimes_idle steady after order (by omega) (allowed row found).2

end Steady

section Resets

variable {id : Int}

theorem planReset_waits {sub : UserSubscription}
    (found : state.db.subscriptions.find? id = some sub)
    (steady : Steady zone plan (resetBase sub) (max (resetBase sub) sub.endTime))
    (done : planReset zone plan id state = .ok (true, db)) :
    ∃ base, resetBase sub ≤ base ∧
      (∀ boundary, nextBoundary (zoneCalendar zone) base plan = some boundary →
        FirstAfter zone plan (resetBase sub) state.now boundary) ∧
      Waiting zone plan base id sub.endTime { state with db } := by
  rcases planReset_done found done with ⟨written, called⟩
  rcases maybeReset_applied called with ⟨open_, fuel, base, next, looped, applied⟩
  rcases applyDueReset_row applied with ⟨row, stored, same, last, following⟩
  rw [find?_key found] at stored
  rcases advanceBase_result looped with ⟨boundary, idle, ⟨impossible, -⟩ |
    ⟨-, early, positive, reached⟩⟩
  · cases impossible
  · have ahead := steady_ahead steady
    have within_ := advanceBase_within
      (fun base next after before => ahead base next after (by omega)) (Int.le_refl _) (by omega)
      looped
    refine ⟨base, within_.1, ?_, early, ?_⟩
    · intro following own
      refine ⟨base, ?_, early, ?_, own⟩
      · refine Relation.ReflTransGen.mono ?_ _ _ reached.to_reflTransGen
        rintro left right ⟨⟨round, later⟩, -⟩
        rcases calcNextResetTime_cases (zoneCalendar zone) plan sub.endTime left with none_ | some_
        · omega
        · rw [some_, round]
      · have later := ahead base following within_.1 (by omega) own
        by_cases past : following ≤ sub.endTime
        · rw [calcNextResetTime_some own past] at boundary
          omega
        · omega
    · refine ⟨row, stored, same, ?_⟩
      intro _
      have here : resetBase row = base := by
        rw [resetBase, last, if_neg (by omega)]
      by_cases left : 0 < next
      · rcases calcNextResetTime_cases (zoneCalendar zone) plan sub.endTime base with none_ | own
        · omega
        · rw [← boundary] at own
          exact .inl ⟨next, own, by omega, by omega⟩
      · refine .inr ⟨by omega, ?_⟩
        rw [here, same, ← boundary]
        omega

theorem Resets.waits {call : Call} (resets : Resets zone plan id state call start)
    (allowed : Allowed zone plan id state call) :
    ∃ base ending, Steady zone plan start (max start ending) ∧ start ≤ base ∧
      (∀ boundary, nextBoundary (zoneCalendar zone) base plan = some boundary →
        FirstAfter zone plan start state.now boundary) ∧
      Waiting zone plan base id ending (step zone plan id state call) := by
  cases resets with
  | @plan sub db found done =>
    have steady := allowed sub found
    rcases planReset_waits found steady done with ⟨base, after, first, waiting⟩
    refine ⟨base, sub.endTime, steady, after, first, ?_⟩
    simpa only [step, done] using waiting
  | @admin db done =>
    cases found : state.db.subscriptions.find? id with
    | none =>
      simp only [adminReset, found] at done
      cases done
    | some sub =>
      rcases allowed sub found with ⟨steady, left⟩
      refine ⟨state.now, sub.endTime, steady, Int.le_refl _, ?_, ?_⟩
      · intro boundary own
        have ahead := steady_ahead steady state.now boundary (Int.le_refl _) (by omega) own
        exact ⟨state.now, .refl, Int.le_refl _, ahead, own⟩
      · simp only [step, done]
        refine ⟨Int.le_refl _, _, adminReset_done found done, rfl, ?_⟩
        intro _
        exact advancedTimes_idle steady (Int.le_refl _) (Int.le_refl _) (by omega) left

end Resets

/-- Between a reset and the first boundary after it, no plan-driven reset erases usage. -/
theorem one_reset_per_boundary (zone : Zone) (plan : SubscriptionPlan) (id : Int)
    (initial : Timeline) (calls later : List Call) (reset : Call) (start : Int)
    (allowed : AllSteps (step zone plan id) (Allowed zone plan id) initial
      (calls ++ reset :: later))
    (resets : Resets zone plan id (run (step zone plan id) initial calls) reset start)
    (before : ∀ boundary,
      FirstAfter zone plan start (run (step zone plan id) initial calls).now boundary →
        (run (step zone plan id) initial (calls ++ reset :: later)).now < boundary) :
    (∀ db, planReset zone plan id (run (step zone plan id) initial (calls ++ reset :: later)) ≠
      .ok (true, db)) ∧
      (step zone plan id (run (step zone plan id) initial (calls ++ reset :: later))
        .planReset).db.amountUsed id =
      (run (step zone plan id) initial (calls ++ reset :: later)).db.amountUsed id := by
  have steps := allowed.of_append_right
  rcases resets.waits steps.1 with ⟨base, ending, steady, after, first, waiting⟩
  have kept := run_invariant (step_waiting steady after) _ later steps.2 waiting
  rw [run_append, run] at before ⊢
  have unreset {flag : Bool} {db : Database} (done : planReset zone plan id
      (run (step zone plan id) (step zone plan id (run (step zone plan id) initial calls) reset)
        later) = .ok (flag, db)) : flag = false := by
    rcases kept.planReset done with ⟨-, open_, quiet⟩
    exact quiet ⟨open_, fun boundary own => before boundary (first boundary own)⟩
  constructor
  · intro db done
    cases unreset done
  · rw [step]
    split
    · rfl
    rename_i flag db done
    cases unreset done
    exact planReset_unreset done

end Folded

theorem nightZone_forward : Forward (zoneCalendar nightZone) (periodPlan "daily" 0) := by
  intro base next boundary
  have steady : Steady nightZone (periodPlan "daily" 0) base base := nightZone_orderly _ _
  exact steady_ahead steady base next (Int.le_refl _) (Int.le_refl _) boundary

def nightTimeline (now : Nat) : Timeline := ⟨nightStore, now⟩

theorem one_reset_per_boundary_night :
    Resets nightZone (periodPlan "daily" 0) 3 (nightTimeline 1774800000) .planReset 1774600000 ∧
      FirstAfter nightZone (periodPlan "daily" 0) 1774600000 1774800000 1774821600 ∧
      (run (step nightZone (periodPlan "daily" 0) 3) (nightTimeline 1774800000)
        [.planReset, .settle 70, .wait 20000, .planReset]).db.amountUsed 3 = some 70 := by
  have reset : Resets nightZone (periodPlan "daily" 0) 3 (nightTimeline 1774800000) .planReset
      1774600000 := by
    have flag : (planReset nightZone (periodPlan "daily" 0) 3
        (nightTimeline 1774800000)).toOption.map Prod.fst = some true := by
      decide +kernel
    cases done : planReset nightZone (periodPlan "daily" 0) 3 (nightTimeline 1774800000) with
    | error cause =>
      rw [done] at flag
      cases flag
    | ok result =>
      rcases result with ⟨reset, db⟩
      rw [done] at flag
      cases flag
      have found : (nightTimeline 1774800000).db.subscriptions.find? 3 =
          some nightSubscription := rfl
      exact .plan found done
  have first : FirstAfter nightZone (periodPlan "daily" 0) 1774600000 1774800000 1774821600 := by
    refine ⟨1774738800, ?_, by decide, by decide, by decide +kernel⟩
    exact .head (b := 1774652400) (by decide +kernel) (.single (by decide +kernel))
  refine ⟨reset, first, ?_⟩
  have kept := (one_reset_per_boundary nightZone (periodPlan "daily" 0) 3
    (nightTimeline 1774800000) [] [.settle 70, .wait 20000] .planReset 1774600000
    ⟨fun _ _ => nightZone_orderly _ _, trivial, trivial, trivial⟩ reset ?_).2
  · exact kept.trans (by decide +kernel)
  · intro boundary other
    rw [other.unique nightZone_forward first]
    decide +kernel

/-- In the last period an administrator reset stores no boundary, and the next plan-driven reset
starts over from the beginning of the subscription. -/
theorem last_period_usage_erased :
    (∃ db, adminReset nightZone (periodPlan "daily" 0) 3 (nightTimeline 1775599300) = .ok db) ∧
      FirstAfter nightZone (periodPlan "daily" 0) 1775599300 1775599300 1775685600 ∧
      (run (step nightZone (periodPlan "daily" 0) 3) (nightTimeline 1775599300)
        [.adminReset, .settle 70, .wait 100]).now = 1775599400 ∧
      (run (step nightZone (periodPlan "daily" 0) 3) (nightTimeline 1775599300)
        [.adminReset, .settle 70, .wait 100]).db.amountUsed 3 = some 70 ∧
      (run (step nightZone (periodPlan "daily" 0) 3) (nightTimeline 1775599300)
        [.adminReset, .settle 70, .wait 100, .planReset]).db.amountUsed 3 = some 0 := by
  refine ⟨⟨_, rfl⟩, ⟨1775599300, .refl, by decide, by decide, by decide +kernel⟩, ?_⟩
  decide +kernel

end NewApi.ResetBoundaries

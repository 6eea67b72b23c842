import NewApi.CivilTime
import NewApi.Runs
import NewApi.SubscriptionReset
import Mathlib.Data.Fintype.Pigeonhole
import Mathlib.Data.Int.Interval
import Mathlib.Logic.Relation

/-!
The schedule of quota resets in a time zone. The catch-up loop of
`maybeResetUserSubscriptionWithPlanTx` goes from boundary to boundary; it ends and leaves the
subscription on its schedule exactly when no boundary up to now comes back to itself. A
daily, weekly or monthly boundary is the midnight of a later day, as long as the zone skips
and repeats no midnight on the way; a custom boundary lies the period after its base, as long
as the period fits `time.Duration`. Then every round moves forward.
-/

namespace NewApi.SubscriptionSchedule

open Runs SubscriptionReset CivilTime

def zoneCalendar (zone : Zone) : Calendar where
  year := zone.year
  month := zone.month
  day := zone.day
  weekday := zone.weekday
  midnight := fun year month day => zone.midnight (dayNumber year month day)
  addDate := zone.addDate

/-- The day whose midnight is the boundary after a day, for the periods of the calendar. -/
def boundaryDay (period : ResetPeriod) (day : Int) : Int :=
  match period with
  | .weekly => day + (8 - if (day + 4) % 7 = 0 then 7 else (day + 4) % 7)
  | .monthly => firstDay (monthOf day + 1)
  | _ => day + 1

theorem boundaryDay_bounds (period : ResetPeriod) (day : Int) :
    day < boundaryDay period day ∧ boundaryDay period day ≤ day + 31 := by
  cases period with
  | monthly =>
    have inside := monthOf_spec day
    have length := firstDay_succ (monthOf day)
    simp only [boundaryDay]
    omega
  | weekly =>
    simp only [boundaryDay]
    split <;> omega
  | _ =>
    simp only [boundaryDay]
    omega

variable {period : ResetPeriod} {left right stop start next second first now endTime base : Int}
  {plan : SubscriptionPlan} {calendar : Calendar} {advanced reset : Bool} {fuel : Nat}

theorem boundaryDay_mono (order : left ≤ right) :
    boundaryDay period left ≤ boundaryDay period right := by
  cases period with
  | monthly =>
    simp only [boundaryDay]
    rcases Int.lt_or_eq_of_le (monthOf_mono order) with before | same
    · exact Int.le_of_lt (firstDay_lt (by omega))
    · rw [same]
  | weekly =>
    simp only [boundaryDay]
    split <;> split <;> omega
  | _ =>
    simp only [boundaryDay]
    omega

/-- The schedule moves forward between two instants: the zone skips or repeats no midnight
from the first day of the month of the one to a month after the other, or the custom period
fits `time.Duration`. -/
def Steady (zone : Zone) (plan : SubscriptionPlan) (start stop : Int) : Prop :=
  match normalizeResetPeriod plan.quotaResetPeriod with
  | .never => True
  | .custom => plan.quotaResetCustomSeconds * 1000000000 ≤ maxInt64
  | .daily | .weekly | .monthly =>
    zone.Orderly (firstDay (monthOf (zone.dayOf start)))
      (max (zone.dayOf start) (zone.dayOf stop) + 31)

section Boundaries

variable {zone : Zone}
variable {instant : Int}

theorem days_between (orderly : zone.Orderly (firstDay (monthOf (zone.dayOf start)))
      (max (zone.dayOf start) (zone.dayOf stop) + 31)) (after : start ≤ instant)
    (before : instant ≤ stop) :
    zone.dayOf start ≤ zone.dayOf instant ∧ zone.dayOf instant ≤ zone.dayOf stop := by
  have first := (monthOf_spec (zone.dayOf start)).1
  have low := orderly.dayOf_mono first (by omega) after
  have past : ¬ zone.midnight (max (zone.dayOf start) (zone.dayOf stop) + 31) ≤ stop := by
    rw [orderly.le_dayOf (by omega) (by omega)]
    omega
  have bounded : ¬ max (zone.dayOf start) (zone.dayOf stop) + 31 ≤ zone.dayOf instant := by
    rw [← orderly.le_dayOf (by omega) (by omega)]
    omega
  exact ⟨low, orderly.dayOf_mono (by omega) (by omega) before⟩

theorem nextBoundary_calendar
    (same : normalizeResetPeriod plan.quotaResetPeriod = period)
    (dated : period = .daily ∨ period = .weekly ∨ period = .monthly)
    (orderly : zone.Orderly (firstDay (monthOf (zone.dayOf start)))
      (max (zone.dayOf start) (zone.dayOf stop) + 31)) (after : start ≤ instant)
    (before : instant ≤ stop) :
    nextBoundary (zoneCalendar zone) instant plan =
      some (zone.midnight (boundaryDay period (zone.dayOf instant))) := by
  have first := (monthOf_spec (zone.dayOf start)).1
  rcases days_between orderly after before with ⟨low, high⟩
  have today : dayNumber (zone.year instant) (zone.month instant) (zone.day instant) =
      zone.dayOf instant := by
    have exactly := Zone.dayNumber_civil zone instant 0
    rwa [Int.add_zero, Int.add_zero] at exactly
  simp only [nextBoundary, same, zoneCalendar, today]
  rcases dated with rfl | rfl | rfl
  · simp only [boundaryDay]
    rw [orderly.addDate_midnight (by omega) (by omega)]
  · simp only [boundaryDay, Zone.weekday]
    rw [orderly.addDate_midnight (by omega) (by omega)]
    rfl
  · have earlier : firstDay (monthOf (zone.dayOf start)) ≤
        firstDay (monthOf (zone.dayOf instant)) := by
      rcases Int.lt_or_eq_of_le (monthOf_mono low) with before | same
      · exact Int.le_of_lt (firstDay_lt before)
      · rw [same]
    have inside := (monthOf_spec (zone.dayOf instant)).1
    simp only [boundaryDay, Zone.dayNumber_first]
    rw [orderly.addDate_month earlier (by omega)]

theorem nextBoundary_custom (same : normalizeResetPeriod plan.quotaResetPeriod = .custom)
    (fits : plan.quotaResetCustomSeconds * 1000000000 ≤ maxInt64)
    (boundary : nextBoundary (zoneCalendar zone) instant plan = some next) :
    0 < plan.quotaResetCustomSeconds ∧ next = instant + plan.quotaResetCustomSeconds := by
  simp only [nextBoundary, same] at boundary
  split at boundary
  · cases boundary
  have exactly : int64 (plan.quotaResetCustomSeconds * 1000000000) =
      plan.quotaResetCustomSeconds * 1000000000 :=
    int64_of_mem (by omega) fits
  rw [exactly, Int.mul_ediv_cancel _ (by omega)] at boundary
  cases boundary
  exact ⟨by omega, rfl⟩

theorem nextBoundary_never (same : normalizeResetPeriod plan.quotaResetPeriod = .never)
    (calendar : Calendar) (instant : Int) : nextBoundary calendar instant plan = none := by
  simp only [nextBoundary, same]

theorem steady_boundaries (steady : Steady zone plan start stop) (after : start ≤ left)
    (order : left ≤ right) (before : right ≤ stop)
    (one : nextBoundary (zoneCalendar zone) left plan = some first)
    (two : nextBoundary (zoneCalendar zone) right plan = some second) :
    left < first ∧ first ≤ second := by
  have calendar {period : ResetPeriod}
      (same : normalizeResetPeriod plan.quotaResetPeriod = period)
      (dated : period = .daily ∨ period = .weekly ∨ period = .monthly)
      (orderly : zone.Orderly (firstDay (monthOf (zone.dayOf start)))
        (max (zone.dayOf start) (zone.dayOf stop) + 31)) : left < first ∧ first ≤ second := by
    have start_ := (monthOf_spec (zone.dayOf start)).1
    rcases days_between orderly after (Int.le_trans order before) with ⟨low, high⟩
    rcases days_between orderly (Int.le_trans after order) before with ⟨-, top⟩
    have days := orderly.dayOf_mono (by omega) (by omega) order
    rw [nextBoundary_calendar same dated orderly after (Int.le_trans order before)] at one
    rw [nextBoundary_calendar same dated orderly (Int.le_trans after order) before] at two
    cases one
    cases two
    have near := boundaryDay_bounds period (zone.dayOf left)
    have far := boundaryDay_bounds period (zone.dayOf right)
    constructor
    · apply Int.not_le.mp
      rw [orderly.le_dayOf (by omega) (by omega)]
      omega
    · rw [orderly.le_dayOf (by omega) (by omega), orderly.dayOf_midnight (by omega) (by omega)]
      exact boundaryDay_mono days
  unfold Steady at steady
  split at steady
  · rename_i never
    rw [nextBoundary_never never] at one
    cases one
  · rename_i custom
    rcases nextBoundary_custom custom steady one with ⟨positive, shape⟩
    rcases nextBoundary_custom custom steady two with ⟨-, other⟩
    omega
  · rename_i daily
    exact calendar daily (.inl rfl) steady
  · rename_i weekly
    exact calendar weekly (.inr (.inl rfl)) steady
  · rename_i monthly
    exact calendar monthly (.inr (.inr rfl)) steady

end Boundaries

/-! The catch-up loop. -/

def Round (calendar : Calendar) (plan : SubscriptionPlan) (endTime base next : Int) : Prop :=
  calcNextResetTime calendar base plan endTime = next ∧ 0 < next

/-- A round that the loop makes at `now`. -/
def DueRound (calendar : Calendar) (plan : SubscriptionPlan) (endTime now base next : Int) :
    Prop :=
  Round calendar plan endTime base next ∧ next ≤ now

section Loop

theorem calcNextResetTime_cases (calendar : Calendar) (plan : SubscriptionPlan)
    (endTime base : Int) : calcNextResetTime calendar base plan endTime = 0 ∨
      nextBoundary calendar base plan = some (calcNextResetTime calendar base plan endTime) := by
  unfold calcNextResetTime
  cases nextBoundary calendar base plan with
  | none => exact .inl rfl
  | some next =>
    by_cases ended : 0 < endTime ∧ endTime < next
    · exact .inl (if_pos ended)
    · exact .inr (congrArg some (if_neg ended).symm)

theorem advanceBase_more {result : Bool × Int × Int}
    (finished : advanceBase calendar plan endTime now fuel base advanced = some result)
    (more : Nat) : advanceBase calendar plan endTime now (fuel + more) base advanced =
      some result := by
  induction fuel generalizing base advanced with
  | zero => cases finished
  | succ fuel ih =>
    rw [Nat.succ_add]
    simp only [advanceBase] at finished ⊢
    split at finished
    · rename_i due
      rw [if_pos due]
      exact ih finished
    · rename_i over_
      rw [if_neg over_]
      exact finished

variable {reached : Bool} {last : Int}

theorem advanceBase_result (finished : advanceBase calendar plan endTime now fuel base advanced =
      some (reached, last, next)) :
    next = calcNextResetTime calendar last plan endTime ∧ ¬ (0 < next ∧ next ≤ now) ∧
      ((reached = advanced ∧ last = base) ∨
        (reached = true ∧ last ≤ now ∧ 0 < last ∧
          Relation.TransGen (DueRound calendar plan endTime now) base last)) := by
  induction fuel generalizing base advanced with
  | zero => cases finished
  | succ fuel ih =>
    simp only [advanceBase] at finished
    split at finished
    · rename_i due
      have first : DueRound calendar plan endTime now base
          (calcNextResetTime calendar base plan endTime) := ⟨⟨rfl, due.1⟩, due.2⟩
      rcases ih finished with ⟨boundary, idle, ⟨same, here⟩ | ⟨same, early, positive, rest⟩⟩
      · rw [here]
        rw [here] at boundary
        exact ⟨boundary, idle, .inr ⟨same, due.2, due.1, .single first⟩⟩
      · exact ⟨boundary, idle, .inr ⟨same, early, positive, .head first rest⟩⟩
    · rename_i idle
      cases finished
      exact ⟨rfl, idle, .inl ⟨rfl, rfl⟩⟩

/-- Every boundary between the first base and `now` lies ahead of its base. -/
def Ahead (calendar : Calendar) (plan : SubscriptionPlan) (start stop : Int) : Prop :=
  ∀ base next, start ≤ base → base ≤ stop → nextBoundary calendar base plan = some next →
    base < next

theorem Ahead.calc (ahead : Ahead calendar plan start stop) (after : start ≤ base)
    (before : base ≤ stop) (positive : 0 < calcNextResetTime calendar base plan endTime) :
    base < calcNextResetTime calendar base plan endTime := by
  rcases calcNextResetTime_cases calendar plan endTime base with none_ | boundary
  · omega
  · exact ahead base _ after before boundary

theorem advanceBase_within (ahead : Ahead calendar plan start (max start now))
    (after : start ≤ base) (before : base ≤ max start now)
    (finished : advanceBase calendar plan endTime now fuel base advanced =
      some (reached, last, next)) : start ≤ last ∧ last ≤ max start now := by
  induction fuel generalizing base advanced with
  | zero => cases finished
  | succ fuel ih =>
    simp only [advanceBase] at finished
    split at finished
    · rename_i due
      have later := ahead.calc after before due.1
      exact ih (by omega) (by omega) finished
    · cases finished
      exact ⟨after, before⟩

end Loop

section CatchUp

-- The text of a period stays folded when two schedules are compared.
attribute [local irreducible] normalizeResetPeriod

variable {zone : Zone} {written sub : UserSubscription} {after db : Database}

theorem steady_ahead (steady : Steady zone plan start stop) :
    Ahead (zoneCalendar zone) plan start stop := by
  intro base next after before boundary
  exact (steady_boundaries steady after (Int.le_refl base) before boundary boundary).1

theorem applyDueReset_row
    (done : applyDueReset db sub now base next = .ok (reset, written, after)) :
    ∃ row, after.subscriptions.find? sub.id = some row ∧ row.endTime = sub.endTime ∧
      row.lastResetTime = base ∧ row.nextResetTime = next := by
  unfold applyDueReset at done
  split at done
  · cases done
  rename_i updated
  cases done
  rcases Table.updateWhere_eq_some updated with ⟨row, found, guard, -⟩
  simp only [sameSchedule, Bool.and_eq_true, decide_eq_true_eq] at guard
  refine ⟨{ row with amountUsed := 0, lastResetTime := base, nextResetTime := next }, ?_,
    guard.1.2.2.2.2.1, rfl, rfl⟩
  simp only [Table.find?_updateWhere updated (fun _ => rfl), found, Option.map_some, if_true]

theorem maybeReset_applied (done : maybeResetUserSubscriptionWithPlan calendar db sub plan now =
      .ok (true, written, after)) :
    now < sub.endTime ∧ ∃ fuel base next,
      advanceBase calendar plan sub.endTime now fuel (resetBase sub) false =
        some (true, base, next) ∧
      applyDueReset db sub now base next = .ok (true, written, after) := by
  unfold maybeResetUserSubscriptionWithPlan at done
  split at done
  · cases done
  split at done
  · cases done
  refine ⟨by omega, ?_⟩
  split at done
  · cases done
  · cases (repairSchedule_effect done).1
  rename_i base next looped
  exact ⟨_, base, next, looped, done⟩

/-- No boundary that the schedule reaches from the base up to `now` comes back to itself, and
none is followed by one before 1970. -/
def Progresses (calendar : Calendar) (plan : SubscriptionPlan) (endTime now base : Int) : Prop :=
  ∀ boundary, Relation.TransGen (DueRound calendar plan endTime now) base boundary →
    ¬ Relation.TransGen (DueRound calendar plan endTime now) boundary boundary ∧
      0 ≤ calcNextResetTime calendar boundary plan endTime

/-- The loop ends, and where it advanced, at a boundary of the schedule not after `now` whose next
one is none or ahead. -/
def Lands (calendar : Calendar) (plan : SubscriptionPlan) (endTime now base : Int) : Prop :=
  ∃ reached last next,
    (∀ more, advanceBase calendar plan endTime now (manyRounds now base + more) base false =
      some (reached, last, next)) ∧
    (reached = true → last ≤ now ∧ Relation.TransGen (Round calendar plan endTime) base last ∧
      (next = 0 ∨ now < next))

theorem advanceBase_due (due : DueRound calendar plan endTime now base next) (fuel : Nat)
    (advanced : Bool) :
    advanceBase calendar plan endTime now (fuel + 1) base advanced =
      advanceBase calendar plan endTime now fuel next true := by
  obtain ⟨⟨rfl, positive⟩, early⟩ := due
  exact if_pos ⟨positive, early⟩

theorem advanceBase_cycle {boundary : Int}
    (cycle : Relation.TransGen (DueRound calendar plan endTime now) boundary boundary)
    (reached : Relation.TransGen (DueRound calendar plan endTime now) base boundary) (fuel : Nat)
    (advanced : Bool) : advanceBase calendar plan endTime now fuel base advanced = none := by
  induction fuel generalizing base advanced with
  | zero => rfl
  | succ fuel ih =>
    obtain ⟨next, first, rest⟩ := Relation.TransGen.head'_iff.1 reached
    rw [advanceBase_due first]
    rcases Relation.reflTransGen_iff_eq_or_transGen.1 rest with rfl | rest
    · exact ih cycle true
    · exact ih rest true

theorem advanceBase_stops {boundary : Int}
    (reached : Relation.TransGen (DueRound calendar plan endTime now) base boundary)
    (past : ¬ (0 < calcNextResetTime calendar boundary plan endTime ∧
      calcNextResetTime calendar boundary plan endTime ≤ now)) (advanced : Bool) :
    ∃ fuel, advanceBase calendar plan endTime now fuel base advanced =
      some (true, boundary, calcNextResetTime calendar boundary plan endTime) := by
  induction reached using Relation.TransGen.head_induction_on generalizing advanced with
  | single due => exact ⟨2, by rw [advanceBase_due due]; exact if_neg past⟩
  | head due _ ih =>
    obtain ⟨fuel, finished⟩ := ih true
    exact ⟨fuel + 1, by rw [advanceBase_due due, finished]⟩

theorem due_of_none (going : advanceBase calendar plan endTime now fuel base advanced = none)
    {rounds : Nat} (inside : rounds < fuel) : DueRound calendar plan endTime now
      ((calcNextResetTime calendar · plan endTime)^[rounds] base)
      ((calcNextResetTime calendar · plan endTime)^[rounds + 1] base) := by
  induction rounds generalizing base advanced fuel with
  | zero =>
    obtain ⟨fuel, rfl⟩ := Nat.exists_eq_add_of_lt inside
    by_contra past
    rw [Nat.zero_add, advanceBase, if_neg fun due => past ⟨⟨rfl, due.1⟩, due.2⟩] at going
    cases going
  | succ rounds ih =>
    obtain ⟨fuel, rfl⟩ := Nat.exists_eq_add_of_lt inside
    rw [advanceBase] at going
    split at going
    · exact ih going (by omega)
    · cases going

/-- A loop that makes more rounds than there are boundaries up to `now` has one of them twice. -/
theorem advanceBase_revisits (many : now.toNat < fuel)
    (going : advanceBase calendar plan endTime now fuel base false = none) :
    ∃ boundary, Relation.TransGen (DueRound calendar plan endTime now) base boundary ∧
      Relation.TransGen (DueRound calendar plan endTime now) boundary boundary := by
  let reached (rounds : Nat) : Int := (calcNextResetTime calendar · plan endTime)^[rounds] base
  have due {rounds : Nat} (inside : rounds < fuel) :
      DueRound calendar plan endTime now (reached rounds) (reached (rounds + 1)) :=
    due_of_none going inside
  have chain (first steps : Nat) (inside : first + steps < fuel) :
      Relation.TransGen (DueRound calendar plan endTime now) (reached first)
        (reached (first + steps + 1)) := by
    induction steps with
    | zero => exact .single (due inside)
    | succ steps ih => exact (ih (by omega)).tail (due inside)
  obtain ⟨left, right, different, same⟩ := Fintype.exists_ne_map_eq_of_card_lt
    (fun rounds : Fin (now.toNat + 1) => (⟨reached (rounds + 1), (due (by omega)).1.2,
      (due (by omega)).2⟩ : Set.Ioc 0 now)) (by simp)
  have same : reached (left + 1) = reached (right + 1) := congrArg Subtype.val same
  have again {left right : Nat} (order : left < right) (inside : right < fuel)
      (same : reached (left + 1) = reached (right + 1)) :
      ∃ boundary, Relation.TransGen (DueRound calendar plan endTime now) base boundary ∧
        Relation.TransGen (DueRound calendar plan endTime now) boundary boundary := by
    have start := chain 0 left (by omega)
    have round := chain (left + 1) (right - left - 1) (by omega)
    rw [show left + 1 + (right - left - 1) + 1 = right + 1 by omega, ← same] at round
    rw [Nat.zero_add] at start
    exact ⟨_, start, round⟩
  rcases Nat.lt_or_gt_of_ne (Fin.val_ne_of_ne different) with order | order
  · exact again order (by omega) same
  · exact again order (by omega) same.symm

theorem lands_iff (calendar : Calendar) (plan : SubscriptionPlan) (endTime now base : Int) :
    Lands calendar plan endTime now base ↔ Progresses calendar plan endTime now base := by
  constructor
  · rintro ⟨reached, last, next, finished, landed⟩ boundary path
    constructor
    · intro cycle
      have stuck := advanceBase_cycle cycle path (manyRounds now base + 0) false
      rw [finished 0] at stuck
      cases stuck
    · by_contra negative
      obtain ⟨rounds, stopped⟩ := advanceBase_stops path (by omega) false
      have both := finished rounds
      rw [Nat.add_comm, advanceBase_more stopped] at both
      cases both
      obtain ⟨early, -, following⟩ := landed rfl
      obtain ⟨_, -, due⟩ := Relation.TransGen.tail'_iff.1 path
      have positive := due.1.2
      omega
  · intro progress
    cases finished : advanceBase calendar plan endTime now (manyRounds now base) base false with
    | none =>
      obtain ⟨boundary, path, cycle⟩ :=
        advanceBase_revisits (by unfold manyRounds; omega) finished
      exact absurd cycle (progress boundary path).1
    | some result =>
      obtain ⟨reached, last, next⟩ := result
      refine ⟨reached, last, next, advanceBase_more finished, ?_⟩
      rintro rfl
      obtain ⟨boundary, idle, ⟨impossible, -⟩ | ⟨-, early, positive, path⟩⟩ :=
        advanceBase_result finished
      · cases impossible
      · have later := (progress last path).2
        exact ⟨early, Relation.TransGen.mono (fun _ _ due => due.1) _ _ path, by omega⟩

/-- Where every round moves forward, none comes back. -/
theorem steady_progresses (steady : Steady zone plan base (max base now)) :
    Progresses (zoneCalendar zone) plan endTime now base := by
  have forward {boundary : Int}
      (path : Relation.TransGen (DueRound (zoneCalendar zone) plan endTime now) base boundary) :
      base < boundary ∧ boundary ≤ now := by
    induction path with
    | single due =>
      obtain ⟨⟨rfl, positive⟩, early⟩ := due
      exact ⟨(steady_ahead steady).calc le_rfl (le_max_left ..) positive, early⟩
    | tail _ due ih =>
      obtain ⟨⟨rfl, positive⟩, early⟩ := due
      have later := (steady_ahead steady).calc ih.1.le (ih.2.trans (le_max_right ..)) positive
      exact ⟨ih.1.trans later, early⟩
  intro boundary path
  obtain ⟨after, early⟩ := forward path
  have ahead {next : Int} (due : Relation.TransGen (DueRound (zoneCalendar zone) plan endTime now)
      boundary next) : boundary < next := by
    induction due with
    | single due =>
      obtain ⟨⟨rfl, positive⟩, -⟩ := due
      exact (steady_ahead steady).calc after.le (early.trans (le_max_right ..)) positive
    | tail rest due ih =>
      obtain ⟨⟨rfl, positive⟩, -⟩ := due
      obtain ⟨later, within⟩ := forward (path.trans rest)
      exact ih.trans ((steady_ahead steady).calc later.le (within.trans (le_max_right ..)) positive)
  refine ⟨fun cycle => lt_irrefl _ (ahead cycle), ?_⟩
  obtain ⟨_, -, due⟩ := Relation.TransGen.tail'_iff.1 path
  rcases calcNextResetTime_cases (zoneCalendar zone) plan endTime boundary with none | following
  · exact none.ge
  · have later := steady_ahead steady boundary _ after.le (early.trans (le_max_right ..)) following
    exact (due.1.2.trans later).le

end CatchUp

def periodPlan (period : String) (seconds : Int) : SubscriptionPlan :=
  { id := 4, quotaResetPeriod := period, quotaResetCustomSeconds := seconds }

/-- UTC+1, and UTC+2 from 2026-03-29 01:00 UTC. -/
def nightZone : Zone := ⟨fun instant => if instant < 1774746000 then 3600 else 7200⟩

theorem nightZone_orderly (first last : Int) : nightZone.Orderly first last := by
  constructor
  · intro day _ _
    simp only [Zone.clock, Zone.midnight, Zone.date, nightZone]
    all_goals omega
  · intro day _ _ instant
    simp only [Zone.clock, Zone.midnight, Zone.date, nightZone]
    all_goals omega

def nightSubscription : UserSubscription :=
  { id := 3, userId := 1, planId := 4, startTime := 1774600000, endTime := 1775600000,
    amountUsed := 50 }

def nightStore : Database where
  subscriptions := .ofRows [nightSubscription]

theorem advanceBase_stuck (still : calcNextResetTime calendar base plan endTime = base)
    (positive : 0 < base) (due : base ≤ now) (fuel : Nat) (advanced : Bool) :
    advanceBase calendar plan endTime now fuel base advanced = none := by
  induction fuel generalizing advanced with
  | zero => rfl
  | succ fuel ih =>
    rw [advanceBase]
    simp only [still, positive, due, and_self, if_true]
    exact ih true

/-- UTC-3, and UTC-2 from 2018-11-04 03:00 UTC, when it is midnight. -/
def midnightZone : Zone := ⟨fun instant => if instant < 1541300400 then -10800 else -7200⟩

end NewApi.SubscriptionSchedule

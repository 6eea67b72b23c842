/-!
Changes of a store, attributed to causes. A history records each call with its cause, the
store before and after it and what it answered, the latest call first. When the calls of a
cause change a quantity by as much as they change the cause's share of it, and no other call
touches that share, the changes of the cause add up to the change of its share.
-/

namespace NewApi.Attribution

universe u v w

structure Entry (Store : Type u) (Cause : Type v) (Answer : Type w) where
  cause : Cause
  before : Store
  after : Store
  answer : Answer

variable {Store : Type u} {Cause : Type v} {Answer : Type w}

/-- Each call starts from the store that the call before it has left. -/
def Linked (start : Store) : List (Entry Store Cause Answer) → Store → Prop
  | [], final => final = start
  | entry :: rest, final => entry.after = final ∧ Linked start rest entry.before

variable [DecidableEq Cause]

def total (change : Entry Store Cause Answer → Int) (cause : Cause) :
    List (Entry Store Cause Answer) → Int
  | [] => 0
  | entry :: rest =>
    if entry.cause = cause then change entry + total change cause rest
    else total change cause rest

variable {history : List (Entry Store Cause Answer)}
variable {change count : Entry Store Cause Answer → Int} {entry : Entry Store Cause Answer}
  {cause : Cause} {final start : Store}

theorem total_cons_own (own : entry.cause = cause) :
    total change cause (entry :: history) = change entry + total change cause history := by
  simp only [total, own, if_true]

theorem total_cons_other (other : entry.cause ≠ cause) :
    total change cause (entry :: history) = total change cause history := by
  simp only [total, if_neg other]

theorem total_cons_zero (none : change entry = 0) :
    total change cause (entry :: history) = total change cause history := by
  by_cases own : entry.cause = cause
  · rw [total_cons_own own, none, Int.zero_add]
  · exact total_cons_other own

theorem total_eq_share (share : Store → Int) (linked : Linked start history final)
    (own : ∀ entry ∈ history, entry.cause = cause →
      change entry = share entry.after - share entry.before)
    (others : ∀ entry ∈ history, entry.cause ≠ cause → share entry.after = share entry.before) :
    total change cause history = share final - share start := by
  induction history generalizing final with
  | nil =>
    rw [linked, total, Int.sub_self]
  | cons entry rest ih =>
    rw [List.forall_mem_cons] at own others
    rcases linked with ⟨reached, linked⟩
    have earlier := ih linked own.2 others.2
    by_cases same : entry.cause = cause
    · have here := own.1 same
      rw [total_cons_own same, earlier, here, reached]
      omega
    · have here := others.1 same
      rw [total_cons_other same, earlier, ← here, reached]

theorem total_eq_mul {factor : Int}
    (each : ∀ entry ∈ history, entry.cause = cause → change entry = count entry * factor) :
    total change cause history = total count cause history * factor := by
  induction history with
  | nil => simp only [total, Int.zero_mul]
  | cons entry rest ih =>
    rw [List.forall_mem_cons] at each
    by_cases same : entry.cause = cause
    · rw [total_cons_own same, total_cons_own same, ih each.2, each.1 same, Int.add_mul]
    · rw [total_cons_other same, total_cons_other same, ih each.2]

end NewApi.Attribution

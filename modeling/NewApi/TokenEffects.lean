import NewApi.BillingOperation

/-!
What the billing and Midjourney transactions do to a token: they move its counters, keep its
credential, expiry and flags, and never write a status except to enable an exhausted token
again. A transaction that raises remain_quota ends with that attempt, so a token that it
leaves exhausted could not be enabled.
-/

namespace NewApi.TokenEffects

open BillingOperations Option

/-- The columns that no transaction writes. -/
def frame (row : Token) : Token :=
  { row with status := .enabled, accessedTime := 0, remainQuota := 0, usedQuota := 0 }

/-- The condition of `RestoreExhaustedTokenIfFunded`, apart from the status. -/
def Restorable (time : Int) (row : Token) : Prop :=
  0 < row.remainQuota ∧ row.keyPrefix ≠ "invalid" ∧
    (row.expiredTime = -1 ∨ time < row.expiredTime) ∧ row.deleted = false

instance (time : Int) (row : Token) : Decidable (Restorable time row) :=
  inferInstanceAs (Decidable (_ ∧ _))

structure Billed (time : Int) (row after : Token) : Prop where
  frame : frame after = frame row
  status : after.status = row.status ∨ (row.status = .exhausted ∧ after.status = .enabled)
  funded : row.remainQuota < after.remainQuota → after.status = .exhausted →
    ¬ Restorable time after

theorem frame_columns {left right : Token} (same : frame left = frame right) :
    left.userId = right.userId ∧ left.keyHash = right.keyHash ∧ left.keyPrefix = right.keyPrefix ∧
      left.expiredTime = right.expiredTime ∧ left.unlimitedQuota = right.unlimitedQuota ∧
      left.deleted = right.deleted := by
  simp only [frame, Token.mk.injEq] at same
  exact ⟨same.2.1, same.2.2.1, same.2.2.2.1, same.2.2.2.2.2.2.1, same.2.2.2.2.2.2.2.2.1,
    same.2.2.2.2.2.2.2.2.2.2⟩

def Bills (time : Int) (db after : Database) : Prop :=
  Table.Related (Billed time) db.tokens after.tokens

theorem billed_refl (time : Int) (row : Token) : Billed time row row :=
  ⟨rfl, .inl rfl, fun more => absurd more (Int.lt_irrefl _)⟩

variable {after db left right : Database} {time delta : Int} {change : Token → Token}
  {tokens : Table Token.id}

theorem Bills.of_tokens (same : after.tokens = db.tokens) : Bills time db after := by
  rw [Bills, same]
  exact .refl (billed_refl time) db.tokens

theorem Bills.congr (bills : Bills time db after) (before : left.tokens = db.tokens)
    (same : right.tokens = after.tokens) : Bills time left right := by
  rw [Bills, before, same]
  exact bills

variable {guard : Token → Bool}

theorem Bills.of_update {id : Int} (updated : db.tokens.updateWhere id guard change = some tokens)
    (sameId : ∀ row, (change row).id = row.id)
    (each : ∀ row, guard row = true → Billed time row (change row)) :
    Bills time db { db with tokens } := by
  rcases Table.updateWhere_eq_some updated with ⟨row, found, passed, -⟩
  intro target
  rw [Table.find?_updateWhere updated sameId]
  by_cases here : target = id
  · subst here
    simp only [found, map_some, if_true]
    exact .some (each row passed)
  · cases db.tokens.find? target with
    | none => exact .none
    | some other =>
      simp only [map_some, if_neg here]
      exact .some (billed_refl time other)

theorem chargeToken_billed {remainCharged : Bool} (spends : ¬ (delta < 0 ∧ remainCharged = true))
    (row : Token) : Billed time row (chargeToken time delta remainCharged row) := by
  refine ⟨rfl, .inl rfl, fun more => ?_⟩
  simp only [chargeToken] at more
  split at more
  · rename_i charged
    exact absurd ⟨by omega, charged⟩ spends
  · omega

theorem restore_eq (db : Database) (id time : Int) :
    restoreExhaustedTokenIfFunded db id time = { db with
      tokens := (db.tokens.updateWhere id
        (fun row => decide (row.status = .exhausted ∧ 0 < row.remainQuota ∧
          row.keyPrefix ≠ "invalid" ∧ (row.expiredTime = -1 ∨ time < row.expiredTime) ∧
          row.deleted = false))
        (fun row => { row with status := .enabled })).getD db.tokens } := by
  unfold restoreExhaustedTokenIfFunded
  split
  · rename_i refused
    rw [refused, getD_none]
  · rename_i updated
    rw [updated, getD_some]

theorem find?_restore (db : Database) (id time target : Int) :
    (restoreExhaustedTokenIfFunded db id time).tokens.find? target =
      (db.tokens.find? target).map fun row =>
        if target = id ∧ row.status = .exhausted ∧ Restorable time row then
          { row with status := .enabled }
        else row := by
  rw [restore_eq, Table.find?_getD_updateWhere _ _ _ (by exact fun _ => rfl)]
  congr 1
  funext row
  by_cases hit : target = id ∧ row.status = .exhausted ∧ Restorable time row
  · rw [if_pos hit, if_pos ⟨hit.1, decide_eq_true hit.2⟩]
  · rw [if_neg hit, if_neg]
    rintro ⟨same, passed⟩
    exact hit ⟨same, of_decide_eq_true passed⟩

theorem Bills.of_release {id : Int}
    (updated : db.tokens.updateWhere id guard change = some tokens)
    (sameId : ∀ row, (change row).id = row.id)
    (kept : ∀ row, frame (change row) = frame row ∧ (change row).status = row.status) :
    Bills time db (restoreExhaustedTokenIfFunded { db with tokens } id time) := by
  intro target
  rw [find?_restore, Table.find?_updateWhere updated sameId]
  cases db.tokens.find? target with
  | none => exact .none
  | some row =>
    by_cases here : target = id
    · subst here
      simp only [map_some, if_true, true_and]
      rcases kept row with ⟨frame_, status⟩
      split
      · rename_i restored
        refine .some ⟨frame_, .inr ⟨status ▸ restored.1, rfl⟩, ?_⟩
        intro _ exhausted
        cases exhausted
      · rename_i refused
        refine .some ⟨frame_, .inl status, ?_⟩
        intro _ exhausted restorable
        exact refused ⟨exhausted, restorable⟩
    · simp only [map_some, here, false_and, if_false]
      exact .some (billed_refl time row)

end NewApi.TokenEffects

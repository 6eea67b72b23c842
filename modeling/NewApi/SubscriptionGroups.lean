import NewApi.Payments

/-!
The user group that a subscription grants (model/subscription.go): creation stores the group
held before, and expiry, invalidation and deletion decide by comparing the current group with
the stored ones. Along runs in which a user's upgrades do not overlap, the group held before the
first one is restored once no subscription is active.
-/

namespace NewApi.SubscriptionGroups

open Runs SubscriptionReset Wallet Payments
open Table hiding rows
open List hiding after

def setUserGroup (db : Database) (userId : Int) (group : String) : Database :=
  match db.users.updateWhere userId live (fun row => { row with group }) with
  | none => db
  | some users => { db with users }

/-- An active subscription that has upgraded its user. -/
def upgradedAt (now userId : Int) (row : UserSubscription) : Bool :=
  row.userId = userId ∧ row.status = .active ∧ now < row.endTime ∧ row.upgradeGroup ≠ ""

/-- The group to go back to: an explicit one, or the one before if the upgrade still holds. -/
def revertTarget (sub : UserSubscription) (currentGroup : String) : String :=
  if trimSpace sub.downgradeGroup ≠ "" then trimSpace sub.downgradeGroup
  else if currentGroup ≠ trimSpace sub.upgradeGroup then ""
  else trimSpace sub.prevUserGroup

def revertTo (db : Database) (userId : Int) (target : String) : Database :=
  if target = "" ∨ target = userGroup db userId then db else setUserGroup db userId target

def downgradeUserGroupForSubscription (db : Database) (sub : UserSubscription) (now : Int) :
    Except StoreError Database :=
  if trimSpace sub.downgradeGroup = "" ∧ trimSpace sub.upgradeGroup = "" then .ok db
  else if sub.userId ≤ 0 then .error (.message "invalid userId")
  else if db.subscriptions.rows.any fun row => row.id ≠ sub.id && upgradedAt now sub.userId row
  then .ok db
  else .ok (revertTo db sub.userId (revertTarget sub (userGroup db sub.userId)))

def cancelled (sub : UserSubscription) (now : Int) : UserSubscription :=
  { sub with status := .cancelled, endTime := now }

def adminInvalidateUserSubscription (db : Database) (id now : Int) : Except StoreError Database :=
  if id ≤ 0 then .error (.message "invalid userSubscriptionId")
  else match db.subscriptions.find? id with
    | none => .error .recordNotFound
    | some sub =>
      downgradeUserGroupForSubscription
        { db with subscriptions := db.subscriptions.save (cancelled sub now) }
        (cancelled sub now) now

def adminDeleteUserSubscription (db : Database) (id now : Int) : Except StoreError Database :=
  if id ≤ 0 then .error (.message "invalid userSubscriptionId")
  else match db.subscriptions.find? id with
    | none => .error .recordNotFound
    | some sub => do
      let db ← downgradeUserGroupForSubscription db sub now
      .ok { db with subscriptions := db.subscriptions.remove fun row => row.id = id }

def isDue (now : Int) (row : UserSubscription) : Bool :=
  row.status = .active ∧ 0 < row.endTime ∧ row.endTime ≤ now

def expireRow (userId now : Int) (row : UserSubscription) : UserSubscription :=
  if row.userId = userId ∧ isDue now row then { row with status := .expired } else row

theorem expireRow_id (userId now : Int) (row : UserSubscription) :
    (expireRow userId now row).id = row.id := by
  unfold expireRow
  split <;> rfl

def expireRows (userId now : Int) (table : Table UserSubscription.id) :
    Table UserSubscription.id where
  rows := table.rows.map (expireRow userId now)
  unique := by
    rw [map_map, show UserSubscription.id ∘ expireRow userId now = UserSubscription.id from
      funext (expireRow_id userId now)]
    exact table.unique

/-- `ORDER BY end_time DESC, id DESC LIMIT 1`. -/
def lastEnding : List UserSubscription → Option UserSubscription
  | [] => none
  | row :: rest =>
    match lastEnding rest with
    | none => some row
    | some last => if endsBefore row last then some last else some row

/-- The most recently expired subscription that defines a group transition. -/
def lastExpired (db : Database) (userId : Int) : Option UserSubscription :=
  lastEnding (db.subscriptions.rows.filter fun row => row.userId = userId ∧
    row.status = .expired ∧ (row.downgradeGroup ≠ "" ∨ row.upgradeGroup ≠ ""))

/-- The rest of a user's transaction, on the store with the due subscriptions marked. -/
def revertExpired (now : Int) (db : Database) (userId : Int) : Database :=
  if db.subscriptions.rows.any (upgradedAt now userId) then db
  else
    match lastExpired db userId with
    | none => db
    | some last =>
      if trimSpace last.downgradeGroup = "" ∧ trimSpace last.upgradeGroup = "" then db
      else revertTo db userId (revertTarget last (userGroup db userId))

def expireUser (now : Int) (db : Database) (userId : Int) : Database :=
  revertExpired now { db with subscriptions := expireRows userId now db.subscriptions } userId

/-- The users of the first due subscriptions; their transactions touch rows of their own. -/
def expireDueSubscriptions (now limit : Int) (db : Database) : Database :=
  let limit := if limit ≤ 0 then 200 else limit
  let subs := ((db.subscriptions.rows.filter (isDue now)).insertionSort endsBefore).take
    limit.toNat
  ((subs.map (·.userId)).filter (0 < ·)).dedup.foldl (expireUser now) db

inductive Call where
  | create (context : Context) (userId : Int) (plan : SubscriptionPlan) (source : String)
  | expire (now limit : Int)
  | invalidate (id now : Int)
  | delete (id now : Int)

def committed (db : Database) : Except StoreError Database → Database
  | .ok after => after
  | .error _ => db

def step (db : Database) : Call → Database
  | .create context userId plan source =>
    committed db ((createUserSubscriptionFromPlan context db userId plan source).map (·.2))
  | .expire now limit => expireDueSubscriptions now limit db
  | .invalidate id now => committed db (adminInvalidateUserSubscription db id now)
  | .delete id now => committed db (adminDeleteUserSubscription db id now)

/-- The subscriptions in the store that lift the user to another group. -/
def Lifts (user : Int) (db : Database) (sub : UserSubscription) : Prop :=
  sub ∈ db.subscriptions.rows ∧ sub.userId = user ∧ sub.upgradeGroup ≠ ""

def Present (user : Int) (db : Database) : Prop :=
  ∃ row, db.users.find? user = some row ∧ row.deleted = false

/-- The plan had no downgrade group, and texts are stored trimmed. -/
def Plain (sub : UserSubscription) : Prop :=
  sub.downgradeGroup = "" ∧ trimSpace sub.upgradeGroup = sub.upgradeGroup

/-- The group before the upgrade was `home`, unless the upgrade left it unchanged. -/
def Remembers (home : String) (sub : UserSubscription) : Prop :=
  sub.prevUserGroup = home ∨ sub.upgradeGroup = home ∧ sub.prevUserGroup = ""

def Named (home : String) : Prop := home ≠ "" ∧ trimSpace home = home

/-- Upgrades that follow one another: each one remembers the group before the first, and only
the last of them can be active. -/
structure Upgrades (home group : String) (lifts : UserSubscription → Prop) : Prop where
  group : group = home ∨ ∃ sub, lifts sub ∧ sub.status = .active ∧ group = sub.upgradeGroup
  before : ∀ sub, lifts sub → Remembers home sub
  single : ∀ first second, lifts first → first.status = .active → lifts second →
    second.status = .active → first = second
  order : ∀ sub old, lifts sub → sub.status = .active → lifts old → old.status = .expired →
    endsBefore old sub

structure Tidy (user : Int) (home : String) (db : Database) : Prop where
  live : Present user db
  plain : ∀ sub ∈ db.subscriptions.rows, sub.userId = user → Plain sub
  upgrades : Upgrades home (userGroup db user) (Lifts user db)

variable {user userId other now : Int} {home group target source : String}
  {db store after : Database} {left lifts : UserSubscription → Prop}
  {sub last row active : UserSubscription} {rows : List UserSubscription} {plan : SubscriptionPlan}
  {context : Context}

theorem Upgrades.ends {next : String} (before : Upgrades home group lifts)
    (kept : ∀ sub, left sub → sub.status = .active → lifts sub)
    (came : ∀ sub, left sub → ∃ old, lifts old ∧ old.prevUserGroup = sub.prevUserGroup ∧
      old.upgradeGroup = sub.upgradeGroup)
    (order : ∀ sub old, left sub → sub.status = .active → left old → old.status = .expired →
      endsBefore old sub)
    (back : next = home ∨ next = group ∧ ∀ sub, lifts sub → sub.status = .active →
      group = sub.upgradeGroup → left sub) :
    Upgrades home next left where
  group := by
    rcases back with home | ⟨rfl, stays⟩
    · exact .inl home
    · rcases before.group with same | ⟨sub, listed, active, same⟩
      · exact .inl same
      · exact .inr ⟨sub, stays sub listed active same, active, same⟩
  before := by
    intro sub listed
    obtain ⟨old, former, previous, upgrade⟩ := came sub listed
    rw [Remembers, ← previous, ← upgrade]
    exact before.before old former
  single first second one active other running :=
    before.single first second (kept first one active) active (kept second other running) running
  order := order

theorem Tidy.of_same (tidy : Tidy user home db)
    (users : after.users.find? user = db.users.find? user)
    (rows : ∀ sub, sub.userId = user → (sub ∈ after.subscriptions.rows ↔
      sub ∈ db.subscriptions.rows)) : Tidy user home after where
  live := by rw [Present, users]; exact tidy.live
  plain sub listed own := tidy.plain sub ((rows sub own).mp listed) own
  upgrades := by
    have same : Lifts user after = Lifts user db := by
      funext sub
      exact propext ⟨fun ⟨listed, own, lifts⟩ => ⟨(rows sub own).mp listed, own, lifts⟩,
        fun ⟨listed, own, lifts⟩ => ⟨(rows sub own).mpr listed, own, lifts⟩⟩
    have groups : userGroup after user = userGroup db user := by rw [userGroup, users, userGroup]
    rw [same, groups]
    exact tidy.upgrades

theorem setUserGroup_other (different : user ≠ other) :
    (setUserGroup db other target).users.find? user = db.users.find? user := by
  unfold setUserGroup
  split
  · rfl
  rename_i updated
  rw [find?_updateWhere updated (fun _ => rfl)]
  simp [different]

theorem revertTo_subscriptions (db : Database) (userId : Int) :
    (revertTo db userId target).subscriptions = db.subscriptions := by
  unfold revertTo
  split
  · rfl
  · unfold setUserGroup
    split <;> rfl

theorem revertTo_other (different : user ≠ other) :
    (revertTo db other target).users.find? user = db.users.find? user := by
  unfold revertTo
  split
  · rfl
  · exact setUserGroup_other different

theorem userGroup_setUserGroup (live : Present user db) :
    Present user (setUserGroup db user target) ∧
      userGroup (setUserGroup db user target) user = target := by
  obtain ⟨row, found, present⟩ := live
  obtain rfl : row.id = user := find?_key found
  have passed : Wallet.live row = true := by simp [Wallet.live, present]
  have stored : (setUserGroup db row.id target).users.find? row.id =
      some { row with group := target } := by
    unfold setUserGroup
    rw [updateWhere_of_find? (fun row => { row with group := target }) found passed]
    exact find?_save_self found
  exact ⟨⟨_, stored, present⟩, by simp [userGroup, stored, present]⟩

theorem revertTo_lifts (live : Present user db) (named : Named home) (plain : Plain sub)
    (before : Remembers home sub) :
    Present user (revertTo db user (revertTarget sub (userGroup db user))) ∧
    (userGroup (revertTo db user (revertTarget sub (userGroup db user))) user = home ∨
      userGroup (revertTo db user (revertTarget sub (userGroup db user))) user =
          userGroup db user ∧ userGroup db user ≠ sub.upgradeGroup) := by
  have blank : trimSpace "" = "" := by decide
  by_cases holds : userGroup db user = sub.upgradeGroup
  · have target : revertTarget sub (userGroup db user) = trimSpace sub.prevUserGroup := by
      simp [revertTarget, plain.1, plain.2, blank, holds]
    rw [target]
    unfold revertTo
    split
    · rename_i idle
      refine ⟨live, .inl ?_⟩
      rcases before with previous | ⟨same, -⟩
      · rw [previous, named.2] at idle
        exact (idle.resolve_left named.1).symm
      · rw [holds, same]
    · rename_i writes
      rcases before with previous | ⟨-, previous⟩
      · rw [previous, named.2]
        obtain ⟨live, written⟩ := userGroup_setUserGroup live
        exact ⟨live, .inl written⟩
      · exact absurd (.inl (by rw [previous, blank])) writes
  · have target : revertTarget sub (userGroup db user) = "" := by
      simp [revertTarget, plain.1, plain.2, blank, holds]
    rw [target]
    simp only [revertTo, true_or, if_true]
    exact ⟨live, .inr ⟨trivial, holds⟩⟩

theorem downgrade_cases (done : downgradeUserGroupForSubscription db sub now = .ok after) :
    after = db ∧ (trimSpace sub.upgradeGroup = "" ∨ ∃ row ∈ db.subscriptions.rows,
        row.id ≠ sub.id ∧ upgradedAt now sub.userId row = true) ∨
      ¬ (trimSpace sub.downgradeGroup = "" ∧ trimSpace sub.upgradeGroup = "") ∧
        after = revertTo db sub.userId (revertTarget sub (userGroup db sub.userId)) := by
  unfold downgradeUserGroupForSubscription at done
  split at done
  · rename_i nothing
    exact .inl ⟨(Except.ok.inj done).symm, .inl nothing.2⟩
  · rename_i groups
    split at done
    · cases done
    split at done
    · rename_i other
      obtain ⟨row, listed, holds⟩ := any_eq_true.mp other
      rw [Bool.and_eq_true, decide_eq_true_eq] at holds
      exact .inl ⟨(Except.ok.inj done).symm, .inr ⟨row, listed, holds⟩⟩
    · exact .inr ⟨groups, (Except.ok.inj done).symm⟩

theorem downgrade_other (different : user ≠ sub.userId)
    (done : downgradeUserGroupForSubscription db sub now = .ok after) :
    after.subscriptions = db.subscriptions ∧ after.users.find? user = db.users.find? user := by
  rcases downgrade_cases done with ⟨rfl, -⟩ | ⟨-, rfl⟩
  · exact ⟨rfl, rfl⟩
  · exact ⟨revertTo_subscriptions _ _, revertTo_other different⟩

/-- The user whose subscription `sub` ended has the first group again, or keeps a group that
came from another subscription. -/
def Back (user : Int) (home : String) (db : Database) (sub : UserSubscription)
    (after : Database) : Prop :=
  Present user after ∧
    (userGroup after user = home ∨ userGroup after user = userGroup db user ∧
      ∀ row, Lifts user db row → row.status = .active →
        userGroup db user = row.upgradeGroup → row.id ≠ sub.id)

section

variable (tidy : Tidy user home db)

include tidy

theorem downgrade_back {ended : UserSubscription} (named : Named home)
    (listed : sub ∈ db.subscriptions.rows) (own : sub.userId = user)
    (copy : ended = sub ∨ ended = cancelled sub now)
    (done : downgradeUserGroupForSubscription store ended now = .ok after)
    (users : store.users = db.users)
    (others : ∀ row ∈ store.subscriptions.rows, row.id ≠ sub.id → row ∈ db.subscriptions.rows) :
    after.subscriptions = store.subscriptions ∧ Back user home db sub after := by
  have same : userGroup store user = userGroup db user := by rw [userGroup, users, userGroup]
  have live : Present user store := by rw [Present, users]; exact tidy.live
  obtain ⟨key, owner, upgrade⟩ : ended.id = sub.id ∧ ended.userId = user ∧
      ended.upgradeGroup = sub.upgradeGroup := by
    rcases copy with rfl | rfl <;> exact ⟨rfl, own, rfl⟩
  obtain ⟨plain, before⟩ : Plain ended ∧ (ended.upgradeGroup ≠ "" → Remembers home ended) := by
    have plain := tidy.plain sub listed own
    have before := fun lifts => tidy.upgrades.before sub ⟨listed, own, lifts⟩
    rcases copy with rfl | rfl <;> exact ⟨plain, before⟩
  -- a row with the identifier of `sub` is `sub`
  have unique : ∀ row, Lifts user db row → row.id = sub.id → row = sub :=
    fun row lifts key => eq_of_key lifts.1 listed key
  rcases downgrade_cases done with ⟨rfl, cause⟩ | ⟨groups, rfl⟩
  · refine ⟨rfl, live, .inr ⟨same, ?_⟩⟩
    intro row lifts active _ mine
    rcases cause with blank | ⟨other, present, different, holds⟩
    · rw [plain.2, upgrade] at blank
      exact lifts.2.2 (unique row lifts mine ▸ blank)
    · rw [key] at different
      simp only [upgradedAt, owner, decide_eq_true_eq] at holds
      have running := tidy.upgrades.single row other lifts active
        ⟨others other present different, holds.1, holds.2.2.2⟩ holds.2.1
      exact different (running ▸ mine)
  · have lifts : ended.upgradeGroup ≠ "" := by
      intro blank
      apply groups
      rw [plain.1, blank]
      decide
    obtain ⟨live, reverted⟩ := revertTo_lifts live named plain (before lifts)
    rw [owner]
    refine ⟨revertTo_subscriptions _ _, live, reverted.imp_right fun kept => ?_⟩
    refine ⟨kept.1.trans same, fun row lifted _ holds mine => kept.2 ?_⟩
    rw [same, upgrade, holds, unique row lifted mine]

theorem Tidy.ended (now : Int) (listed : sub ∈ db.subscriptions.rows)
    (rows : ∀ row ∈ after.subscriptions.rows, row ∈ db.subscriptions.rows ∧ row.id ≠ sub.id ∨
      row = cancelled sub now)
    (others : ∀ row ∈ db.subscriptions.rows, row.id ≠ sub.id → row ∈ after.subscriptions.rows)
    (back : Back user home db sub after) : Tidy user home after where
  live := back.1
  plain row member own := by
    rcases rows row member with ⟨kept, -⟩ | rfl
    · exact tidy.plain row kept own
    · exact tidy.plain sub listed own
  upgrades := by
    have kept : ∀ row, Lifts user after row → row.status ≠ .cancelled → Lifts user db row := by
      rintro row ⟨member, own, lifts⟩ running
      rcases rows row member with ⟨kept, -⟩ | rfl
      · exact ⟨kept, own, lifts⟩
      · exact absurd rfl running
    apply tidy.upgrades.ends
    · intro row lifts active
      exact kept row lifts (by rw [active]; decide)
    · rintro row ⟨member, own, lifts⟩
      rcases rows row member with ⟨kept, -⟩ | rfl
      · exact ⟨row, ⟨kept, own, lifts⟩, rfl, rfl⟩
      · exact ⟨sub, ⟨listed, own, lifts⟩, rfl, rfl⟩
    · intro row old lifts active lifted expired
      exact tidy.upgrades.order row old (kept row lifts (by rw [active]; decide)) active
        (kept old lifted (by rw [expired]; decide)) expired
    · refine back.2.imp_right fun ⟨same, stays⟩ => ⟨same, ?_⟩
      intro row lifts active holds
      exact ⟨others row lifts.1 (stays row lifts active holds), lifts.2⟩

theorem adminInvalidateUserSubscription_tidy {id : Int} (named : Named home)
    (done : adminInvalidateUserSubscription db id now = .ok after) : Tidy user home after := by
  unfold adminInvalidateUserSubscription at done
  split at done
  · cases done
  split at done
  · cases done
  rename_i sub found
  obtain rfl : sub.id = id := find?_key found
  have listed := (find?_mem found).1
  have saved : ∀ row, row ∈ (db.subscriptions.save (cancelled sub now)).rows ↔
      row = cancelled sub now ∨ row ∈ db.subscriptions.rows ∧ row.id ≠ sub.id :=
    mem_save_iff found
  by_cases own : sub.userId = user
  · obtain ⟨same, back⟩ := downgrade_back tidy named listed own (.inr rfl) done rfl
      (fun row member different => ((saved row).mp member).elim
        (fun new => absurd (by rw [new, cancelled]) different) (·.1))
    refine tidy.ended now listed ?_ ?_ back
    · intro row member
      rw [same] at member
      exact ((saved row).mp member).symm
    · intro row member different
      rw [same]
      exact (saved row).mpr (.inr ⟨member, different⟩)
  · obtain ⟨same, users⟩ := downgrade_other (fun equal => own equal.symm) done
    refine tidy.of_same users fun row mine => ?_
    rw [same, saved]
    constructor
    · rintro (rfl | ⟨member, -⟩)
      · exact absurd mine own
      · exact member
    · intro member
      refine .inr ⟨member, fun key => own ?_⟩
      rw [← eq_of_key member listed key]
      exact mine

theorem adminDeleteUserSubscription_tidy {id : Int} (named : Named home)
    (done : adminDeleteUserSubscription db id now = .ok after) : Tidy user home after := by
  unfold adminDeleteUserSubscription at done
  split at done
  · cases done
  split at done
  · cases done
  rename_i sub found
  obtain ⟨mid, downgraded, removed⟩ := bind_ok done
  cases removed
  obtain rfl : sub.id = id := find?_key found
  have listed := (find?_mem found).1
  have left : ∀ row, row ∈ (mid.subscriptions.remove fun row => row.id = sub.id).rows ↔
      row ∈ mid.subscriptions.rows ∧ row.id ≠ sub.id := by
    intro row
    rw [mem_remove, decide_eq_false_iff_not]
  by_cases own : sub.userId = user
  · obtain ⟨same, back⟩ := downgrade_back tidy named listed own (.inl rfl) downgraded rfl
      (fun row member _ => member)
    refine tidy.ended now listed ?_ ?_ back
    · intro row member
      have kept := (left row).mp member
      exact .inl ⟨same ▸ kept.1, kept.2⟩
    · intro row member different
      exact (left row).mpr ⟨same ▸ member, different⟩
  · obtain ⟨same, users⟩ := downgrade_other (fun equal => own equal.symm) downgraded
    refine tidy.of_same users fun row mine => ?_
    rw [left, same]
    refine ⟨fun member => member.1, fun member => ⟨member, fun key => own ?_⟩⟩
    rw [← eq_of_key member listed key]
    exact mine

end

/-! ### Expiry -/

theorem expireRow_keeps (userId now : Int) (row : UserSubscription) :
    (expireRow userId now row).userId = row.userId ∧
      (expireRow userId now row).endTime = row.endTime ∧
      (expireRow userId now row).upgradeGroup = row.upgradeGroup ∧
      (expireRow userId now row).prevUserGroup = row.prevUserGroup ∧
      (expireRow userId now row).downgradeGroup = row.downgradeGroup := by
  unfold expireRow
  split <;> exact ⟨rfl, rfl, rfl, rfl, rfl⟩

theorem expireRow_status (userId now : Int) (row : UserSubscription) :
    expireRow userId now row = row ∨ row.userId = userId ∧ row.status = .active ∧
      (expireRow userId now row).status = .expired := by
  unfold expireRow
  split
  · rename_i due
    simp only [isDue, decide_eq_true_eq] at due
    exact .inr ⟨due.1, due.2.1, rfl⟩
  · exact .inl rfl

theorem lastEnding_none (none : lastEnding rows = none) :
    rows = [] := by
  cases rows with
  | nil => rfl
  | cons first rest =>
    unfold lastEnding at none
    split at none
    · cases none
    · split at none <;> cases none

theorem lastEnding_last (found : lastEnding rows = some last) :
    last ∈ rows ∧ ∀ row ∈ rows, endsBefore row last := by
  induction rows generalizing last with
  | nil => cases found
  | cons first rest ih =>
    unfold lastEnding at found
    split at found
    · rename_i none
      cases found
      rw [lastEnding_none none]
      simp [endsBefore]
    · rename_i later known
      obtain ⟨member, before⟩ := ih known
      split at found
      · rename_i earlier
        cases found
        exact ⟨mem_cons_of_mem _ member, forall_mem_cons.mpr ⟨earlier, before⟩⟩
      · rename_i after
        cases found
        refine ⟨mem_cons_self, forall_mem_cons.mpr ⟨.inr ⟨rfl, le_refl _⟩, ?_⟩⟩
        intro row listed
        have := before row listed
        unfold endsBefore at this after ⊢
        omega

theorem revertExpired_keeps (now : Int) (db : Database) (userId : Int) :
    (revertExpired now db userId).subscriptions = db.subscriptions ∧
      ∀ user, user ≠ userId →
        (revertExpired now db userId).users.find? user = db.users.find? user := by
  unfold revertExpired
  iterate 3
    split
    · exact ⟨rfl, fun _ _ => rfl⟩
  · exact ⟨revertTo_subscriptions _ _, fun user different => revertTo_other different⟩

/-- Where the group stays, an upgrade is running, nothing has expired, or the last one to expire
did not give this group. -/
def Stays (now user : Int) (db : Database) : Prop :=
  (∃ row ∈ db.subscriptions.rows, upgradedAt now user row = true) ∨
    (∀ row, Lifts user db row → row.status ≠ .expired) ∨
    ∃ last, Lifts user db last ∧ last.status = .expired ∧
      (∀ row, Lifts user db row → row.status = .expired → endsBefore row last) ∧
      userGroup db user ≠ last.upgradeGroup

theorem revertExpired_back (now : Int)
    (live : Present user db) (named : Named home)
    (plain : ∀ sub ∈ db.subscriptions.rows, sub.userId = user → Plain sub)
    (before : ∀ sub, Lifts user db sub → Remembers home sub) :
    Present user (revertExpired now db user) ∧
      (userGroup (revertExpired now db user) user = home ∨
        userGroup (revertExpired now db user) user = userGroup db user ∧ Stays now user db) := by
  have chosen : ∀ row, row ∈ db.subscriptions.rows.filter (fun row => row.userId = user ∧
      row.status = .expired ∧ (row.downgradeGroup ≠ "" ∨ row.upgradeGroup ≠ "")) ↔
        Lifts user db row ∧ row.status = .expired := by
    intro row
    rw [mem_filter, decide_eq_true_eq]
    constructor
    · rintro ⟨listed, own, expired, groups⟩
      exact ⟨⟨listed, own, groups.resolve_left (absurd (plain row listed own).1)⟩, expired⟩
    · rintro ⟨⟨listed, own, lifts⟩, expired⟩
      exact ⟨listed, own, expired, .inr lifts⟩
  unfold revertExpired
  split
  · rename_i running
    exact ⟨live, .inr ⟨rfl, .inl (any_eq_true.mp running)⟩⟩
  · split
    · rename_i none
      refine ⟨live, .inr ⟨rfl, .inr (.inl fun row lifts expired => ?_)⟩⟩
      have listed := (chosen row).mpr ⟨lifts, expired⟩
      rw [lastEnding_none none] at listed
      exact absurd listed not_mem_nil
    · rename_i last found
      obtain ⟨member, latest⟩ := lastEnding_last found
      obtain ⟨lifts, expired⟩ := (chosen last).mp member
      have groups := plain last lifts.1 lifts.2.1
      rw [if_neg fun blank => lifts.2.2 (groups.2 ▸ blank.2)]
      obtain ⟨live, back⟩ := revertTo_lifts live named groups (before last lifts)
      exact ⟨live, back.imp_right fun kept => ⟨kept.1, .inr (.inr ⟨last, lifts, expired,
        fun row other done => latest row ((chosen row).mpr ⟨other, done⟩), kept.2⟩)⟩⟩

theorem mem_expireRows {table : Table UserSubscription.id} :
    row ∈ (expireRows userId now table).rows ↔
      ∃ old ∈ table.rows, expireRow userId now old = row :=
  mem_map

abbrev marked (now user : Int) (db : Database) : Database :=
  { db with subscriptions := expireRows user now db.subscriptions }

theorem lifts_marked :
    Lifts user (marked now user db) row ↔
      ∃ old, Lifts user db old ∧ expireRow user now old = row := by
  constructor
  · rintro ⟨listed, own, lifts⟩
    obtain ⟨old, former, rfl⟩ := mem_expireRows.mp listed
    obtain ⟨owner, -, upgrade, -⟩ := expireRow_keeps user now old
    exact ⟨old, ⟨former, owner ▸ own, upgrade ▸ lifts⟩, rfl⟩
  · rintro ⟨old, ⟨listed, own, lifts⟩, rfl⟩
    obtain ⟨owner, -, upgrade, -⟩ := expireRow_keeps user now old
    exact ⟨mem_expireRows.mpr ⟨old, listed, rfl⟩, owner ▸ own, upgrade ▸ lifts⟩

theorem lifts_of_marked (lifts : Lifts user (marked now user db) row)
    (active : row.status = .active) : Lifts user db row ∧ expireRow user now row = row := by
  obtain ⟨old, former, rfl⟩ := lifts_marked.mp lifts
  rcases expireRow_status user now old with same | ⟨-, -, expired⟩
  · rw [same] at active ⊢
    exact ⟨former, same⟩
  · rw [expired] at active
    cases active

section

variable (tidy : Tidy user home db)

include tidy

theorem marked_last (lifts : Lifts user db active) (running : active.status = .active)
    (expired : Lifts user (marked now user db) last) (done : last.status = .expired)
    (after : endsBefore (expireRow user now active) last) :
    last.upgradeGroup = active.upgradeGroup := by
  obtain ⟨old, former, rfl⟩ := lifts_marked.mp expired
  rcases expireRow_status user now old with same | ⟨-, due, -⟩
  · rw [same] at done after ⊢
    have order := tidy.upgrades.order active old lifts running former done
    have key : old.id = active.id := by
      have ends := (expireRow_keeps user now active).2.1
      have id := expireRow_id user now active
      unfold endsBefore at order after
      omega
    rw [eq_of_key former.1 lifts.1 key]
  · rw [tidy.upgrades.single old active former due lifts running,
      (expireRow_keeps user now active).2.2.1]

theorem expireUser_own (now : Int) (named : Named home) :
    Tidy user home (expireUser now db user) := by
  have plain : ∀ sub ∈ (marked now user db).subscriptions.rows, sub.userId = user → Plain sub := by
    intro sub listed own
    obtain ⟨old, former, rfl⟩ := mem_expireRows.mp listed
    obtain ⟨owner, -, upgrade, -, downgrade⟩ := expireRow_keeps user now old
    rw [Plain, upgrade, downgrade]
    exact tidy.plain old former (owner ▸ own)
  have came : ∀ sub, Lifts user (marked now user db) sub → ∃ old, Lifts user db old ∧
      old.prevUserGroup = sub.prevUserGroup ∧ old.upgradeGroup = sub.upgradeGroup := by
    intro sub lifts
    obtain ⟨old, former, rfl⟩ := lifts_marked.mp lifts
    obtain ⟨-, -, upgrade, previous, -⟩ := expireRow_keeps user now old
    exact ⟨old, former, previous.symm, upgrade.symm⟩
  have before : ∀ sub, Lifts user (marked now user db) sub → Remembers home sub := by
    intro sub lifts
    obtain ⟨old, former, previous, upgrade⟩ := came sub lifts
    rw [Remembers, ← previous, ← upgrade]
    exact tidy.upgrades.before old former
  obtain ⟨live, back⟩ := @revertExpired_back user home (marked now user db) now tidy.live named
    plain before
  have rows := (revertExpired_keeps now (marked now user db) user).1
  have lifts : Lifts user (expireUser now db user) = Lifts user (marked now user db) := by
    funext sub
    rw [Lifts, expireUser, rows, Lifts]
  refine ⟨live, by rw [expireUser, rows]; exact plain, ?_⟩
  rw [lifts]
  apply tidy.upgrades.ends (fun sub left active => (lifts_of_marked left active).1) came
  · intro sub old left active right expired
    obtain ⟨former, same⟩ := lifts_of_marked left active
    obtain ⟨earlier, listed, rfl⟩ := lifts_marked.mp right
    rcases expireRow_status user now earlier with unchanged | ⟨-, due, -⟩
    · rw [unchanged] at expired ⊢
      exact tidy.upgrades.order sub earlier former active listed expired
    · rw [tidy.upgrades.single earlier sub listed due former active, same, active] at expired
      cases expired
  · refine back.imp_right fun ⟨same, stays⟩ => ⟨same, fun sub former active holds => ?_⟩
    rcases expireRow_status user now sub with unchanged | ⟨-, -, expired⟩
    · exact lifts_marked.mpr ⟨sub, former, unchanged⟩
    · have left : Lifts user (marked now user db) (expireRow user now sub) :=
        lifts_marked.mpr ⟨sub, former, rfl⟩
      rcases stays with ⟨row, listed, running⟩ | none | ⟨last, listed, ended, latest, other⟩
      · simp only [upgradedAt, decide_eq_true_eq] at running
        obtain ⟨stored, kept⟩ := lifts_of_marked ⟨listed, running.1, running.2.2.2⟩ running.2.1
        rw [tidy.upgrades.single sub row former active stored running.2.1, kept,
          running.2.1] at expired
        cases expired
      · exact absurd expired (none _ left)
      · refine absurd ?_ other
        rw [marked_last tidy former active listed ended (latest _ left expired)]
        exact holds

theorem expireUser_tidy (now userId : Int) (named : Named home) :
    Tidy user home (expireUser now db userId) := by
  by_cases own : user = userId
  · exact own ▸ expireUser_own tidy now named
  · obtain ⟨rows, others⟩ := revertExpired_keeps now (marked now userId db) userId
    refine tidy.of_same (others user own) fun sub mine => ?_
    rw [expireUser, rows, mem_expireRows]
    have untouched : ∀ old : UserSubscription, old.userId = user →
        expireRow userId now old = old := by
      intro old mine
      unfold expireRow
      rw [if_neg fun due => own (mine.symm.trans due.1)]
    constructor
    · rintro ⟨old, listed, rfl⟩
      rw [(expireRow_keeps userId now old).1] at mine
      rw [untouched old mine]
      exact listed
    · intro listed
      exact ⟨sub, listed, untouched sub mine⟩

theorem expireDueSubscriptions_tidy (now limit : Int) (named : Named home) :
    Tidy user home (expireDueSubscriptions now limit db) := by
  unfold expireDueSubscriptions
  simp only
  generalize (List.dedup (_ : List Int)) = userIds
  induction userIds generalizing db with
  | nil => exact tidy
  | cons userId rest ih => exact ih (expireUser_tidy tidy now userId named)

end

theorem upgradeUserGroup_eq (db : Database) (userId : Int) (upgrade : String) :
    upgradeUserGroup db userId upgrade =
      if upgrade = "" ∨ userGroup db userId = upgrade then ("", db)
      else (userGroup db userId, setUserGroup db userId upgrade) := by
  unfold upgradeUserGroup setUserGroup
  split
  · rfl
  · cases db.users.updateWhere userId live fun row => { row with group := upgrade } <;> rfl

theorem Upgrades.starts {next : UserSubscription → Prop} (before : Upgrades home group lifts)
    (idle : ∀ old, lifts old → old.status ≠ .active) (new : ∀ row, next row ↔ lifts row ∨ row = sub)
    (active : sub.status = .active) (remembers : Remembers home sub)
    (latest : ∀ old, lifts old → old.status = .expired → endsBefore old sub) :
    Upgrades home sub.upgradeGroup next where
  group := .inr ⟨sub, (new sub).mpr (.inr rfl), active, rfl⟩
  before row listed := by
    rcases (new row).mp listed with old | rfl
    · exact before.before row old
    · exact remembers
  single first second one running other going := by
    rcases (new first).mp one with old | rfl
    · exact absurd running (idle first old)
    · rcases (new second).mp other with old | same
      · exact absurd going (idle second old)
      · exact same.symm
  order row old listed running past expired := by
    rcases (new row).mp listed with other | rfl
    · exact absurd running (idle row other)
    · rcases (new old).mp past with other | rfl
      · exact latest old other expired
      · rw [running] at expired
        cases expired

/-- A new upgrade of the user starts after the earlier ones have ended, on a clock that has
passed them; the plans have no downgrade group. -/
def Separate (user : Int) (db : Database) : Call → Prop
  | .create context userId plan _ => userId = user →
      trimSpace plan.downgradeGroup = "" ∧ (trimSpace plan.upgradeGroup ≠ "" →
        (∀ sub ∈ db.subscriptions.rows, sub.userId = user → sub.upgradeGroup ≠ "" →
          sub.status ≠ .active ∧ (sub.status = .expired → sub.endTime ≤ context.dbTime)) ∧
        ∀ ends ∈ (calcPlanEndTime context.calendar context.dbTime plan).toOption,
          context.dbTime ≤ ends)
  | _ => True

instance (user : Int) (db : Database) : (call : Call) → Decidable (Separate user db call)
  | .create .. => inferInstanceAs (Decidable (_ → _))
  | .expire .. | .invalidate .. | .delete .. => .isTrue trivial

/-- What a purchase that succeeds writes. -/
structure Grants (context : Context) (db : Database) (userId : Int) (plan : SubscriptionPlan)
    (sub : UserSubscription) (after : Database) : Prop where
  known : calcPlanEndTime context.calendar context.dbTime plan = .ok sub.endTime
  owner : sub.userId = userId
  active : sub.status = .active
  id : sub.id = nextId UserSubscription.id db.subscriptions.rows
  upgrade : sub.upgradeGroup = trimSpace plan.upgradeGroup
  downgrade : sub.downgradeGroup = trimSpace plan.downgradeGroup
  group : (sub.upgradeGroup = "" ∨ userGroup db userId = sub.upgradeGroup) ∧
      sub.prevUserGroup = "" ∧ after.users = db.users ∨
    sub.upgradeGroup ≠ "" ∧ sub.prevUserGroup = userGroup db userId ∧
      after.users = (setUserGroup db userId sub.upgradeGroup).users
  listed : ∀ row, row ∈ after.subscriptions.rows ↔ row ∈ db.subscriptions.rows ∨ row = sub

theorem createUserSubscriptionFromPlan_grants
    (created : createUserSubscriptionFromPlan context db userId plan source = .ok (sub, after)) :
    Grants context db userId plan sub after := by
  obtain ⟨-, -, granted⟩ := bind_ok created
  obtain ⟨ends, _, _, known, rfl, users, rows, rfl⟩ := grantSubscription_ok granted
  refine ⟨known, rfl, rfl, rfl, rfl, rfl, ?_, fun row => by rw [rows, mem_append, mem_singleton]⟩
  rw [upgradeUserGroup_eq] at users ⊢
  by_cases idle : trimSpace plan.upgradeGroup = "" ∨
      userGroup db userId = trimSpace plan.upgradeGroup
  · rw [if_pos idle] at users ⊢
    exact .inl ⟨idle, rfl, users⟩
  · rw [if_neg idle] at users ⊢
    exact .inr ⟨(not_or.mp idle).1, rfl, users⟩

section Creation

variable (grants : Grants context db userId plan sub after)

include grants

/-- A purchase of another user. -/
theorem Grants.other_tidy (tidy : Tidy user home db) (other : userId ≠ user) :
    Tidy user home after := by
  refine tidy.of_same ?_ fun row mine => ?_
  · rcases grants.group with ⟨-, -, same⟩ | ⟨-, -, written⟩
    · rw [same]
    · rw [written]
      exact setUserGroup_other (fun same => other same.symm)
  · rw [grants.listed]
    refine ⟨fun member => member.resolve_right ?_, .inl⟩
    rintro rfl
    exact other (grants.owner.symm.trans mine)

theorem Grants.plain (tidy : Tidy userId home db) (noTarget : trimSpace plan.downgradeGroup = "") :
    ∀ row ∈ after.subscriptions.rows, row.userId = userId → Plain row := by
  intro row member own
  rcases (grants.listed row).mp member with old | rfl
  · exact tidy.plain row old own
  · rw [Plain, grants.downgrade, grants.upgrade]
    exact ⟨noTarget, trimSpace_trimSpace _⟩

/-- A purchase without an upgrade. -/
theorem Grants.without_upgrade_tidy (tidy : Tidy userId home db)
    (noTarget : trimSpace plan.downgradeGroup = "") (blank : sub.upgradeGroup = "") :
    Tidy userId home after := by
  have same : after.users = db.users := by
    rcases grants.group with ⟨-, -, same⟩ | ⟨lifting, -⟩
    · exact same
    · exact absurd blank lifting
  have lifts : Lifts userId after = Lifts userId db := by
    funext row
    rw [Lifts, grants.listed, Lifts]
    refine propext ⟨fun ⟨member, own, lifts⟩ => ⟨member.resolve_right ?_, own, lifts⟩,
      fun ⟨member, rest⟩ => ⟨.inl member, rest⟩⟩
    rintro rfl
    exact lifts blank
  have group : userGroup after userId = userGroup db userId := by
    rw [userGroup, same, userGroup]
  exact ⟨by rw [Present, same]; exact tidy.live, grants.plain tidy noTarget,
    by rw [lifts, group]; exact tidy.upgrades⟩

/-- The group a purchase with an upgrade leaves, and the one it remembers. -/
theorem Grants.group_after (live : Present userId db) (first : userGroup db userId = home)
    (lifting : sub.upgradeGroup ≠ "") :
    Present userId after ∧ userGroup after userId = sub.upgradeGroup ∧ Remembers home sub := by
  rw [Present, userGroup, Remembers]
  rcases grants.group with ⟨idle, none, same⟩ | ⟨-, before, written⟩
  · have held := idle.resolve_left lifting
    rw [same]
    exact ⟨live, held, .inr ⟨held.symm.trans first, none⟩⟩
  · obtain ⟨present, group⟩ := userGroup_setUserGroup live
    rw [written]
    exact ⟨present, group, .inl (before.trans first)⟩

theorem Grants.lifts_iff (lifting : sub.upgradeGroup ≠ "") (row : UserSubscription) :
    Lifts userId after row ↔ Lifts userId db row ∨ row = sub := by
  rw [Lifts, grants.listed, Lifts]
  constructor
  · rintro ⟨member, rest⟩
    exact member.imp_left fun old => ⟨old, rest⟩
  · rintro (⟨old, rest⟩ | rfl)
    · exact ⟨.inl old, rest⟩
    · exact ⟨.inr rfl, grants.owner, lifting⟩

/-- A purchase with an upgrade, after the earlier ones have ended. -/
theorem Grants.upgrade_tidy (tidy : Tidy userId home db)
    (noTarget : trimSpace plan.downgradeGroup = "") (lifting : sub.upgradeGroup ≠ "")
    (idle : ∀ old ∈ db.subscriptions.rows, old.userId = userId → old.upgradeGroup ≠ "" →
      old.status ≠ .active ∧ (old.status = .expired → old.endTime ≤ context.dbTime))
    (future : context.dbTime ≤ sub.endTime) : Tidy userId home after := by
  have first : userGroup db userId = home := by
    rcases tidy.upgrades.group with same | ⟨old, lifts, active, -⟩
    · exact same
    · exact absurd active (idle old lifts.1 lifts.2.1 lifts.2.2).1
  have latest : ∀ old, Lifts userId db old → old.status = .expired → endsBefore old sub := by
    intro old lifts expired
    have past := (idle old lifts.1 lifts.2.1 lifts.2.2).2 expired
    have key := lt_nextId UserSubscription.id lifts.1
    rw [← grants.id] at key
    simp only [endsBefore]
    omega
  obtain ⟨live, group, remembers⟩ := grants.group_after tidy.live first lifting
  refine ⟨live, grants.plain tidy noTarget, ?_⟩
  rw [group]
  exact tidy.upgrades.starts (fun old lifts => (idle old lifts.1 lifts.2.1 lifts.2.2).1)
    (grants.lifts_iff lifting) grants.active remembers latest

end Creation

theorem createUserSubscriptionFromPlan_tidy (tidy : Tidy user home db)
    (separate : Separate user db (.create context userId plan source))
    (created : createUserSubscriptionFromPlan context db userId plan source = .ok (sub, after)) :
    Tidy user home after := by
  have grants := createUserSubscriptionFromPlan_grants created
  by_cases own : userId = user
  · subst own
    obtain ⟨noTarget, separate⟩ := separate rfl
    by_cases blank : sub.upgradeGroup = ""
    · exact grants.without_upgrade_tidy tidy noTarget blank
    · obtain ⟨idle, future⟩ := separate (grants.upgrade ▸ blank)
      exact grants.upgrade_tidy tidy noTarget blank idle
        (future sub.endTime (by rw [grants.known]; rfl))
  · exact grants.other_tidy tidy own

theorem step_tidy (named : Named home) (db : Database) (call : Call)
    (separate : Separate user db call) (tidy : Tidy user home db) :
    Tidy user home (step db call) := by
  cases call with
  | create context userId plan source =>
    simp only [step]
    cases created : createUserSubscriptionFromPlan context db userId plan source with
    | error cause => exact tidy
    | ok stored => exact createUserSubscriptionFromPlan_tidy tidy separate created
  | expire now limit => exact expireDueSubscriptions_tidy tidy now limit named
  | invalidate id now =>
    simp only [step]
    cases ended : adminInvalidateUserSubscription db id now with
    | error cause => exact tidy
    | ok after => exact adminInvalidateUserSubscription_tidy tidy named ended
  | delete id now =>
    simp only [step]
    cases ended : adminDeleteUserSubscription db id now with
    | error cause => exact tidy
    | ok after => exact adminDeleteUserSubscription_tidy tidy named ended

def Unsubscribed (user : Int) (home : String) (db : Database) : Prop :=
  (∃ row ∈ db.users.rows, row.id = user ∧ row.deleted = false ∧ row.group = home) ∧
    Named home ∧ ∀ sub ∈ db.subscriptions.rows, sub.userId ≠ user

theorem Unsubscribed.tidy (start : Unsubscribed user home db) : Tidy user home db := by
  obtain ⟨⟨row, listed, rfl, live, group⟩, -, none⟩ := start
  have found := mem_find? listed
  refine ⟨⟨row, found, live⟩, fun sub member own => absurd own (none sub member), ?_⟩
  have absent : ∀ sub, ¬ Lifts row.id db sub := fun sub lifts => none sub lifts.1 lifts.2.1
  exact ⟨.inl (by simp [userGroup, found, live, group]),
    fun sub lifts => absurd lifts (absent sub), fun sub _ lifts => absurd lifts (absent sub),
    fun sub _ lifts => absurd lifts (absent sub)⟩

/-- Upgrades that follow one another are undone: a user without an active subscription is in
the group held before the first. -/
theorem group_restored {user : Int} {home : String} {db : Database}
    (start : Unsubscribed user home db) (calls : List Call)
    (separate : AllSteps step (Separate user) db calls)
    (idle : ∀ sub ∈ (run step db calls).subscriptions.rows, sub.userId = user →
      sub.status ≠ .active) :
    userGroup (run step db calls) user = home := by
  have tidy := run_invariant (step_tidy start.2.1) db calls separate start.tidy
  rcases tidy.upgrades.group with same | ⟨sub, lifts, active, -⟩
  · exact same
  · exact absurd active (idle sub lifts.1 lifts.2.1)

def subscriber : User := { id := 1, group := "default" }

def subscriberStore : Database := { users := Table.ofRows [subscriber] }

def planUpTo (id seconds : Int) (upgradeGroup : String) : SubscriptionPlan :=
  { id, durationUnit := "custom", customSeconds := seconds, upgradeGroup }

def clock (dbTime : Int) : Context where
  calendar := ⟨id, id, id, id, fun _ _ day => day, fun base _ _ days => base + days⟩
  hashTokenKey := id
  dbTime
  time := dbTime

def successive : List Call :=
  [.create (clock 100) 1 (planUpTo 1 50 "plus") "order", .expire 160 0,
    .create (clock 200) 1 (planUpTo 2 50 "max") "order", .invalidate 2 220]

theorem successive_restored : userGroup (run step subscriberStore successive) 1 = "default" :=
  @group_restored 1 "default" subscriberStore (by unfold Unsubscribed Named; decide +kernel)
    successive (by decide +kernel) (by decide +kernel)

/-- The second upgrade starts inside the first and outlasts it. -/
def overlapping : List Call :=
  [.create (clock 100) 1 (planUpTo 1 50 "plus") "order",
    .create (clock 120) 1 (planUpTo 2 100 "max") "order", .expire 160 0, .expire 230 0]

/-- Both subscriptions have expired and the user is left in the group of the first. -/
theorem overlapping_not_restored : Unsubscribed 1 "default" subscriberStore ∧
    (∀ sub ∈ (run step subscriberStore overlapping).subscriptions.rows, sub.status = .expired) ∧
    userGroup (run step subscriberStore overlapping) 1 = "plus" := by
  unfold Unsubscribed Named
  decide +kernel

end NewApi.SubscriptionGroups

import NewApi.AccountEffects

/-!
The role hierarchy under concurrent requests of administrators (controller/user.go): a handler
checks the role of an account on the row it read, and its transaction runs later. The requests
between the two are part of the state; the changes committed so far are history that no step reads.
-/

namespace NewApi.RoleHierarchy

open Accounts AccountRestrictions UserRows Runs

/-- The transaction of a handler. -/
inductive Write where
  | edit (request : EditRequest)
  | update (row : Account)
  | delete (userId : Int)
  | hardDelete (userId : Int)
  | clearBinding (userId : Int) (bindingType : String)

def Write.target : Write → Int
  | .edit request => request.id
  | .update row => row.id
  | .delete userId | .hardDelete userId | .clearBinding userId _ => userId

variable (directory : Directory)

def Write.commit : Write → Except String Directory
  | .edit request => editWithTx directory request
  | .update row => updateWithTx directory row none
  | .delete userId => Accounts.delete directory userId
  | .hardDelete userId => Accounts.hardDelete directory userId
  | .clearBinding userId bindingType => Accounts.clearBinding directory userId bindingType

/-- A request that passed its check, with the role of its actor. -/
structure Pending where
  myRole : Int
  write : Write

inductive Request where
  | updateUser (form : Form)
  | manageUser (id : Int) (action : ManageAction)
  -- `ManageUser` with the action "delete".
  | manageDelete (id : Int)
  | deleteUser (id : Int)
  | adminClearUserBinding (id : Int) (bindingType : String)

/-- `DB.Unscoped().Where(&user).First(&user)`, as for `manageTarget`. -/
def targetOf (id : Int) : Account :=
  (if id = 0 then directory.users.rows.minOn? (·.id) else directory.users.find? id).getD
    { toUser := blankUser id }

/-- The role and the transaction that a handler decides on. `ManageUser` and `UpdateUser` compare
the roles before their other tests. -/
def planned (environment : Environment) (directory : Directory) (myRole : Int) :
    Request → Option (Int × Write)
  | .updateUser form =>
    let form : Form := { form with username := trimSpace form.username }
    if form.id = 0 ∨ form.username = "" ∨ form.filled.valid = false then none
    else (findLive directory form.id).toOption.bind fun origin =>
      if form.role ≠ 0 ∧ form.role ≠ origin.role then none
      else some (origin.role, .edit (form.edit environment))
  | .manageUser id action =>
    let row := targetOf directory id
    (manageRow myRole row.toUser action).toOption.map fun user =>
      (row.role, .update { row with toUser := user })
  | .manageDelete id =>
    let row := targetOf directory id
    if row.id = 0 ∨ row.role = roleRootUser then none else some (row.role, .delete row.id)
  | .deleteUser id =>
    (findLive directory id).toOption.bind fun origin =>
      if myRole ≤ origin.role then none else some (origin.role, .hardDelete id)
  | .adminClearUserBinding id bindingType =>
    (findLive directory id).toOption.map fun user =>
      (user.role, .clearBinding id (lower (trimSpace bindingType)))

/-- The part of a handler before its transaction. -/
def check (environment : Environment) (directory : Directory) (myRole : Int) (request : Request) :
    Option Pending :=
  (planned environment directory myRole request).bind fun (seen, write) =>
    if canManageTargetRole myRole seen then some { myRole, write } else none

/-- A committed change; `stored` is the role of the account at the commit. -/
structure Change where
  myRole : Int
  stored : Option Int
  deriving DecidableEq

structure State where
  directory : Directory
  pending : List Pending := []
  changes : List Change := []
  -- The role of the actor and of the account, for each account created.
  created : List (Int × Option Int) := []

inductive Step where
  | check (myRole : Int) (request : Request)
  | commit (position : Nat)
  | createUser (myRole : Int) (form : Form)

def roleOf (id : Int) : Option Int :=
  (directory.users.find? id).map (·.role)

/-- `AdminAuth` lets no other role through. -/
def perform (state : State) (entry : Environment × Step) : State :=
  match entry.2 with
  | .check myRole request =>
    if myRole < roleAdminUser then state
    else { state with
      pending := (check entry.1 state.directory myRole request).toList ++ state.pending }
  | .commit position =>
    match state.pending[position]? with
    | none => state
    | some request =>
      let pending := state.pending.eraseIdx position
      match request.write.commit state.directory with
      | .error _ => { state with pending }
      | .ok directory =>
        let stored := roleOf state.directory request.write.target
        { state with
          directory, pending
          changes := ⟨request.myRole, stored⟩ :: state.changes }
  | .createUser myRole form =>
    if myRole < roleAdminUser then state
    else match createUser entry.1 state.directory myRole form with
      | .error _ => state
      | .ok directory =>
        { state with
          directory, created := (myRole, roleOf directory entry.1.id) :: state.created }

/-- The hierarchy at the commit. -/
def Change.Ranked (change : Change) : Prop :=
  change.myRole = roleRootUser ∨ ∀ role ∈ change.stored, role < change.myRole

/-- The transaction gives the account a higher role than it has. -/
def Write.raises : Write → Bool
  | .update row => (roleOf directory row.id).any (· < row.role)
  | _ => false

/-- No account is raised, or created under its number, between the check of a request of another
actor than root and the transaction of that request. -/
def Calm (state : State) (entry : Environment × Step) : Prop :=
  match entry.2 with
  | .check _ _ => True
  | .commit position =>
    ∀ request ∈ state.pending[position]?, request.write.raises state.directory = true →
      ∀ other ∈ state.pending.eraseIdx position, other.write.target = request.write.target →
        other.myRole = roleRootUser
  | .createUser _ _ =>
    ∀ other ∈ state.pending, other.write.target = entry.1.id → other.myRole = roleRootUser

instance (state : State) (entry : Environment × Step) : Decidable (Calm state entry) := by
  unfold Calm
  split <;> infer_instance

/-- Every request that waits could still be made, and every change was made in order. -/
structure Ordered (state : State) : Prop where
  pending : ∀ request ∈ state.pending, request.myRole = roleRootUser ∨
    ∀ role ∈ roleOf state.directory request.write.target, role < request.myRole
  changes : ∀ change ∈ state.changes, change.Ranked
  created : ∀ entry ∈ state.created, ∀ role ∈ entry.2, role < entry.1

variable {directory} {before after : Directory} {id role myRole : Int} {environment : Environment}

theorem mem_roleOf :
    role ∈ roleOf directory id ↔ ∃ row ∈ directory.users.rows, row.id = id ∧ row.role = role := by
  have stored (row : Account) : directory.users.find? id = some row ↔
      row ∈ directory.users.rows ∧ row.id = id := Table.find?_eq_some_iff _ id row
  simp only [roleOf, Option.mem_def, Option.map_eq_some_iff, stored, and_assoc]

theorem roleOf_targetOf (directory : Directory) (id : Int) :
    ∀ role ∈ roleOf directory (targetOf directory id).id, role = (targetOf directory id).role := by
  intro role stored
  obtain ⟨row, member, same, rfl⟩ := mem_roleOf.1 stored
  have known {other : Account} (listed : other ∈ directory.users.rows) (own : row.id = other.id) :
      row.role = other.role := by
    rw [List.inj_on_of_nodup_map directory.users.unique member listed own]
  unfold targetOf at same ⊢
  cases found : (if id = 0 then directory.users.rows.minOn? (·.id)
      else directory.users.find? id) with
  | some other =>
      rw [found] at same
      refine known ?_ same
      split at found
      · exact List.minOn?_mem found
      · exact (Table.find?_mem found).1
  | none =>
      -- The row with the number of the request would have been found.
      rw [found] at same
      split at found
      · cases rows : directory.users.rows with
        | nil => simp [rows] at member
        | cons first rest => simp [rows, List.minOn?] at found
      · rw [(Table.find?_eq_some_iff _ id row).2 ⟨member, same⟩] at found
        cases found

theorem manageRow_id {user after : User} {action : ManageAction}
    (managed : manageRow myRole user action = .ok after) : after.id = user.id := by
  unfold manageRow at managed
  iterate 2
    split at managed
    · cases managed
  cases action <;> dsimp only at managed <;> (repeat' split at managed) <;> cases managed <;> rfl

theorem planned_role {seen : Int} {request : Request} {write : Write}
    (decided : planned environment directory myRole request = some (seen, write)) :
    ∀ role ∈ roleOf directory write.target, role = seen := by
  have live {id : Int} {row : Account} (loaded : (findLive directory id).toOption = some row) :
      ∀ role ∈ roleOf directory id, role = row.role := by
    intro role stored
    rw [roleOf, (findLive_ok (toOption_eq_some loaded)).1] at stored
    exact (Option.some.inj stored).symm
  cases request with
  | updateUser form =>
      simp only [planned] at decided
      split at decided
      · cases decided
      obtain ⟨origin, loaded, rest⟩ := Option.bind_eq_some_iff.1 decided
      split at rest
      · cases rest
      cases rest
      exact live loaded
  | manageUser id action =>
      obtain ⟨user, managed, same⟩ := Option.map_eq_some_iff.1 decided
      cases same
      have own := manageRow_id (toOption_eq_some managed)
      change ∀ role ∈ roleOf directory user.id, _
      rw [own]
      exact roleOf_targetOf directory id
  | manageDelete id =>
      simp only [planned] at decided
      split at decided
      · cases decided
      cases decided
      exact roleOf_targetOf directory id
  | deleteUser id =>
      obtain ⟨origin, loaded, rest⟩ := Option.bind_eq_some_iff.1 decided
      split at rest
      · cases rest
      cases rest
      exact live loaded
  | adminClearUserBinding id bindingType =>
      obtain ⟨user, loaded, same⟩ := Option.map_eq_some_iff.1 decided
      cases same
      exact live loaded

theorem check_some {request : Request} {waiting : Pending}
    (passed : check environment directory myRole request = some waiting) :
    waiting.myRole = roleRootUser ∨
      ∀ role ∈ roleOf directory waiting.write.target, role < waiting.myRole := by
  obtain ⟨⟨seen, write⟩, decided, passed⟩ := Option.bind_eq_some_iff.mp passed
  dsimp only at passed
  split at passed
  · rename_i higher
    cases passed
    simp only [canManageTargetRole, Bool.or_eq_true, decide_eq_true_eq] at higher
    exact higher.imp_right fun above role stored => planned_role decided role stored ▸ above
  · cases passed

theorem Written.roles {row : Account} (written : Written before after row)
    (stored : role ∈ roleOf after id) :
    role ∈ roleOf before id ∨ row.id = id ∧ row.role = role := by
  obtain ⟨other, member, rfl, rfl⟩ := mem_roleOf.1 stored
  rcases (written.users other).1 member with rfl | ⟨kept, -⟩
  · exact .inr ⟨rfl, rfl⟩
  · exact .inl (mem_roleOf.2 ⟨other, kept, rfl, rfl⟩)

theorem versioned_roles {change : Account → Account} {userId : Int}
    (updated : updateWithVersion before userId change = .ok after)
    (kept : ∀ row, (change row).id = row.id) (same : ∀ row, (change row).role = row.role)
    (stored : role ∈ roleOf after id) : role ∈ roleOf before id := by
  obtain ⟨row, found, written⟩ := updateWithVersion_ok updated kept
  rcases Written.roles written stored with old | ⟨own, rank⟩
  · exact old
  · have rank : role = row.role := by
      rw [← rank, versionedRow]
      split
      · rfl
      · exact same _
    rw [versionedRow_id kept] at own
    exact mem_roleOf.2 ⟨row, (Table.find?_mem found).1, own, rank.symm⟩

/-- The only transaction that writes a role is `UpdateWithTx`. -/
theorem commit_roles {write : Write} (done : write.commit before = .ok after)
    (stored : role ∈ roleOf after id) :
    role ∈ roleOf before id ∨ ∃ row, write = .update row ∧ row.id = id ∧ row.role = role := by
  cases write with
  | edit request =>
      obtain ⟨row, found, -, written⟩ := editWithTx_ok done
      rcases Written.roles written stored with old | ⟨own, rank⟩
      · exact .inl old
      · exact .inl (mem_roleOf.2 ⟨row, (Table.find?_mem found).1, own, rank⟩)
  | update row =>
      obtain ⟨old, found, -, written⟩ := updateWithTx_ok done
      rcases Written.roles written stored with kept | ⟨own, rank⟩
      · exact .inl kept
      · change numberOr row.role old.role = role at rank
        have same := (Table.find?_mem found).2
        unfold numberOr at rank
        split at rank
        · exact .inl (mem_roleOf.2 ⟨old, (Table.find?_mem found).1, own, rank⟩)
        · exact .inr ⟨row, rfl, same.symm.trans own, rank⟩
  | delete userId =>
      have done : Accounts.delete before userId = .ok after := done
      unfold Accounts.delete at done
      split at done
      · cases done
      exact .inl (@versioned_roles (deleteUserAuthenticationData before userId) _ _ _ _ _ done
        (fun _ => rfl) (fun _ => rfl) stored)
  | hardDelete userId =>
      have done : Accounts.hardDelete before userId = .ok after := done
      unfold Accounts.hardDelete at done
      split at done
      · cases done
      split at done
      · cases done
      rename_i middle updated
      cases done
      obtain ⟨row, member, own, rank⟩ := mem_roleOf.1 stored
      rw [IndexedTable.remove, Table.mem_remove] at member
      exact .inl (@versioned_roles (deleteUserAuthenticationData before userId) _ _ _ _ _ updated
        (fun _ => rfl) (fun _ => rfl) (mem_roleOf.2 ⟨row, member.1, own, rank⟩))
  | clearBinding userId bindingType =>
      have done : Accounts.clearBinding before userId bindingType = .ok after := done
      unfold Accounts.clearBinding at done
      split at done
      · cases done
      split at done
      · exact .inl (versioned_roles done (fun _ => rfl) (fun _ => rfl) stored)
      split at done
      · cases done
      rename_i provider _
      exact .inl (@versioned_roles { before with
          claims := releaseExternalIdentityWithTx before.claims provider userId } _ _ _ _ _ done
        (fun _ => withIdentity_id _ _) (fun row => by rw [toUser_withIdentity]) stored)

theorem createUser_roles {form : Form} (admin : ¬ myRole < roleAdminUser)
    (done : createUser environment before myRole form = .ok after) :
    (role ∈ roleOf after environment.id → role < myRole) ∧
      (role ∈ roleOf after id → role ∈ roleOf before id ∨ id = environment.id) := by
  unfold createUser createForm at done
  iterate 3
    split at done
    · cases done
  rename_i below
  obtain ⟨-, -, written, stored⟩ := insertWithTx_ok done
  constructor
  · rw [roleOf, stored]
    rintro ⟨⟩
    simp only [preparedRow, createdRow, numberOr, roleAdminUser] at *
    split <;> omega
  · intro held
    exact (Written.roles written held).imp_right fun ⟨own, _⟩ => own.symm

/-- A commit leaves the requests that still wait in order, as far as it is calm. -/
theorem Ordered.commit {state : State} {position : Nat} {request : Pending}
    (ordered : Ordered state) (calm : Calm state (environment, .commit position))
    (found : state.pending[position]? = some request)
    (done : request.write.commit state.directory = .ok after) :
    ∀ other ∈ state.pending.eraseIdx position, other.myRole = roleRootUser ∨
      ∀ role ∈ roleOf after other.write.target, role < other.myRole := by
  intro other member
  have before := ordered.pending other (List.mem_of_mem_eraseIdx member)
  by_cases root : other.myRole = roleRootUser
  · exact .inl root
  have below := before.resolve_left root
  right
  intro role stored
  rcases commit_roles done stored with old | ⟨row, updates, own, rfl⟩
  · exact below role old
  · -- The account is the one that the transaction wrote, and it was not raised.
    have target : other.write.target = request.write.target := by rw [updates, ← own]; rfl
    have flat : request.write.raises state.directory = false := by
      by_contra raised
      exact root (calm request found (by simpa using raised) other member target)
    rw [updates, Write.raises, own] at flat
    obtain ⟨stored, held, -⟩ := Accounts.updateWithTx_ok (updates ▸ done)
    have present : stored.role ∈ roleOf state.directory other.write.target :=
      mem_roleOf.2 ⟨stored, (Table.find?_mem held).1, (Table.find?_mem held).2.trans own, rfl⟩
    rw [Option.mem_def.1 present, Option.any_some, decide_eq_false_iff_not] at flat
    exact lt_of_le_of_lt (not_lt.1 flat) (below stored.role present)

theorem Ordered.perform {state : State} {entry : Environment × Step} (calm : Calm state entry)
    (ordered : Ordered state) : Ordered (perform state entry) := by
  obtain ⟨environment, step⟩ := entry
  unfold RoleHierarchy.perform
  cases step with
  | check myRole request =>
      dsimp only
      split
      · exact ordered
      · exact { ordered with
          pending := List.forall_mem_append.2
            ⟨fun _ passed => check_some (Option.mem_toList.1 passed), ordered.pending⟩ }
  | commit position =>
      dsimp only
      split
      · exact ordered
      rename_i request found
      split
      · exact { ordered with
          pending := fun _ member => ordered.pending _ (List.mem_of_mem_eraseIdx member) }
      · rename_i after done
        exact {
          pending := ordered.commit calm found done
          changes := List.forall_mem_cons.2
            ⟨ordered.pending request (List.mem_of_getElem? found), ordered.changes⟩
          created := ordered.created }
  | createUser myRole form =>
      dsimp only
      split
      · exact ordered
      rename_i admin
      split
      · exact ordered
      rename_i after done
      refine ⟨fun other member => ?_, ordered.changes, List.forall_mem_cons.2
        ⟨fun role => (@createUser_roles _ _ 0 _ _ _ _ admin done).1, ordered.created⟩⟩
      by_cases root : other.myRole = roleRootUser
      · exact .inl root
      right
      intro role stored
      rcases (createUser_roles admin done).2 stored with old | fresh
      · exact (ordered.pending other member).resolve_left root role old
      · exact absurd (calm other member fresh) root

/-- The new password of an administrator for an account, and a promotion by root. -/
def passwordAndPromotion (commits : List Nat) : List (Environment × Step) :=
  ({ id := 1 }, .createUser 100 { username := "u", password := "password" }) ::
    ({}, .check 10 (.updateUser { id := 1, username := "u", password := "replaced" })) ::
    ({}, .check 100 (.manageUser 1 .promote)) :: commits.map fun position => ({}, .commit position)

end NewApi.RoleHierarchy

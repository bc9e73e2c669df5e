import Accounts.Proofs.Http.Effect
import Accounts.Rpc.Calls

/-!
# Runs of calls

A run is a list of requests over HTTP and of remote calls, each with its occasion.

* `Call`, `Service.afterCall`, `Service.afterCalls`: the calls, and the state after one and after
  many;
* `Service.Registers`: a call registers a user;
* `User.IsSame`: two records are of one account, whose identifier, role and begin never change;
* `Service.Effect.store_cases`: what the effect of a request makes of the table of users;
* **`Service.mem_afterCall`**: a user after a call was there before, or is registered by it;
* **`Service.mem_afterCalls`**: a user after a run was there before, or is registered in it;
* `Service.distinctIds_afterCalls`: no run gives two users one identifier.
-/

namespace Accounts

/-- What a caller can ask: a request over HTTP, or one of the two remote calls. -/
inductive Call
  | http (r : Request)
  | validateToken (token : String)
  | getUser (id : String)

/-- Two records of one account: the owner may change all but its identifier, role and begin. -/
structure User.IsSame (u v : User) : Prop where
  id : v.id = u.id
  role : v.role = u.role
  createdAt : v.createdAt = u.createdAt

theorem User.IsSame.refl (u : User) : u.IsSame u := ⟨rfl, rfl, rfl⟩

theorem User.IsSame.trans {u v w : User} (huv : u.IsSame v) (hvw : v.IsSame w) : u.IsSame w :=
  ⟨hvw.id.trans huv.id, hvw.role.trans huv.role, hvw.createdAt.trans huv.createdAt⟩

theorem User.isSame_updated (u : User) (change : UserUpdate) (now : Timestamp) :
    u.IsSame (u.updated change now) := ⟨rfl, rfl, rfl⟩

namespace Service

variable (service : Service)

/-- The state after a call. -/
def afterCall (o : Occasion) (st : State) : Call → State
  | .http r => (service.serve o r st).2
  | .validateToken token => (service.validateToken o token st).2
  | .getUser _ => st

/-- The state after many calls, one after the other. -/
def afterCalls (st : State) (calls : List (Occasion × Call)) : State :=
  calls.foldl (fun st c => service.afterCall c.1 st c.2) st

/-- A call registers a user: it is a request to register, and it succeeds with this user. -/
structure Registers (o : Occasion) (c : Call) (st : State) (request : RegisterRequest) (u : User) :
    Prop where
  call : ∃ r, c = .http r ∧ Endpoint.ofPath? r.path = some .register ∧ r.method = "POST" ∧
    r.read RegisterRequest.read = .ok request
  work : ∃ users, service.register o request st.users = .ok (u, users)

/-! ## One call -/

variable {service} {o : Occasion} {st : State} {c : Call} {u v : User}

theorem Effect.congr {r : Request} {st' : State} {users : UserStore} (husers : st'.users = st.users)
    (hstore : st'.revocations = st.revocations) (h : service.Effect o r st' users) :
    service.Effect o r st users := by
  cases h with
  | nothing => exact effect_of_eq husers
  | registered path method body work =>
    rw [husers] at work
    exact .registered path method body work
  | changed path caller work =>
    rw [hstore] at caller
    rw [husers] at work
    exact .changed path caller work
  | removed path caller work =>
    rw [hstore] at caller
    rw [husers] at work
    exact .removed path caller work

theorem fst_serve (o : Occasion) (r : Request) (st : State) : (service.serve o r st).1 =
    (service.route o r (st.count (.request r.method (pathLabel r.path)))).1 := by
  simp only [serve]

theorem users_serve (o : Occasion) (r : Request) (st : State) : (service.serve o r st).2.users =
    (service.route o r (st.count (.request r.method (pathLabel r.path)))).2.users := by
  simp only [serve]
  generalize service.route o r _ = answer
  split <;> rfl

theorem revocations_serve (o : Occasion) (r : Request) (st : State) :
    (service.serve o r st).2.revocations =
      (service.route o r (st.count (.request r.method (pathLabel r.path)))).2.revocations := by
  simp only [serve]
  generalize service.route o r _ = answer
  split <;> rfl

theorem effect_serve (o : Occasion) (r : Request) (st : State) :
    service.Effect o r st (service.serve o r st).2.users := by
  have h := service.effect_route o r (st.count (.request r.method (pathLabel r.path)))
  rw [← users_serve] at h
  exact Effect.congr (by rfl) (by rfl) h

theorem Effect.store_cases {r : Request} {users : UserStore} (h : service.Effect o r st users) :
    users = st.users ∨
    (∃ request u, service.Registers o (.http r) st request u ∧
      users = { st.users with table := st.users.table.insert u }) ∨
    (∃ u ∈ st.users.table.users, ∃ change,
      users = { st.users with table := st.users.table.replace (u.updated change o.wall) }) ∨
    ∃ id, users = { st.users with table := st.users.table.erase id } := by
  cases h with
  | nothing => exact .inl rfl
  | @registered request u _ path method body work =>
    obtain ⟨-, role, hash, -, -, -, hcreate⟩ := register_eq_ok_iff.1 work
    obtain ⟨-, -, -, hstore⟩ := UserStore.create_eq_ok_iff.1 hcreate
    exact .inr (.inl ⟨request, u, ⟨⟨r, rfl, path, method, body⟩, _, work⟩, hstore⟩)
  | changed path caller work =>
    obtain ⟨-, hash, -, hupdate⟩ := change_eq_ok_iff.1 work
    obtain ⟨-, -, u, hu, rfl, hstore⟩ := UserStore.update_eq_ok_iff.1 hupdate
    exact .inr (.inr (.inl ⟨u, (UserTable.mem_of_find? hu).1, _, hstore⟩))
  | removed path caller work =>
    obtain ⟨id, -, hdelete⟩ := remove_eq_ok_iff.1 work
    obtain ⟨-, -, hstore⟩ := UserStore.delete_eq_ok_iff.1 hdelete
    exact .inr (.inr (.inr ⟨id, hstore⟩))

/-- **A user after a request was there before, or is registered by it.** -/
theorem Effect.mem {r : Request} {users : UserStore} (h : service.Effect o r st users)
    (hv : v ∈ users.table.users) :
    (∃ u ∈ st.users.table.users, u.IsSame v) ∨
      ∃ request, service.Registers o (.http r) st request v := by
  rcases h.store_cases with rfl | ⟨request, u, hreg, rfl⟩ | ⟨u, hu, change, rfl⟩ | ⟨id, rfl⟩
  · exact .inl ⟨v, hv, .refl v⟩
  · rcases UserTable.mem_insert_iff.1 hv with rfl | ⟨hv, -⟩
    · exact .inr ⟨request, hreg⟩
    · exact .inl ⟨v, hv, .refl v⟩
  · rcases UserTable.mem_replace_iff.1 hv with ⟨hv, -⟩ | ⟨rfl, -⟩
    · exact .inl ⟨v, hv, .refl v⟩
    · exact .inl ⟨u, hu, u.isSame_updated _ _⟩
  · exact .inl ⟨v, (UserTable.mem_erase_iff.1 hv).1, .refl v⟩

theorem Effect.distinctIds {r : Request} {users : UserStore} (h : service.Effect o r st users)
    (hst : st.users.table.DistinctIds) : users.table.DistinctIds := by
  rcases h.store_cases with rfl | ⟨request, u, -, rfl⟩ | ⟨u, -, change, rfl⟩ | ⟨id, rfl⟩
  · exact hst
  · exact hst.insert u
  · exact hst.replace _
  · exact hst.erase id

theorem effect_afterCall (service : Service) (o : Occasion) (st : State) (c : Call) :
    (∃ r, c = .http r ∧ service.Effect o r st (service.afterCall o st c).users) ∨
      (service.afterCall o st c).users = st.users := by
  cases c with
  | http r =>
    refine .inl ⟨r, rfl, ?_⟩
    rw [afterCall]
    exact effect_serve o r st
  | validateToken token => exact .inr (by simp only [afterCall, validateToken, verifyAt, State.count])
  | getUser id => exact .inr rfl

/-- **A user after a call was there before, or is registered by it.** -/
theorem mem_afterCall (hv : v ∈ (service.afterCall o st c).users.table.users) :
    (∃ u ∈ st.users.table.users, u.IsSame v) ∨ ∃ request, service.Registers o c st request v := by
  rcases service.effect_afterCall o st c with ⟨r, rfl, heffect⟩ | husers
  · exact heffect.mem hv
  · rw [husers] at hv
    exact .inl ⟨v, hv, .refl v⟩

theorem distinctIds_afterCall (hst : st.users.table.DistinctIds) :
    (service.afterCall o st c).users.table.DistinctIds := by
  rcases service.effect_afterCall o st c with ⟨r, -, heffect⟩ | husers
  · exact heffect.distinctIds hst
  · rw [husers]
    exact hst

/-! ## Runs -/

variable {calls : List (Occasion × Call)}

theorem distinctIds_afterCalls (hst : st.users.table.DistinctIds) :
    (service.afterCalls st calls).users.table.DistinctIds := by
  induction calls generalizing st with
  | nil => exact hst
  | cons call calls ih => exact ih (distinctIds_afterCall hst)

/-- **A user after a run was there before, or is registered in it.** -/
theorem mem_afterCalls (hv : v ∈ (service.afterCalls st calls).users.table.users) :
    (∃ u ∈ st.users.table.users, u.IsSame v) ∨
      ∃ before o c after request u, calls = before ++ (o, c) :: after ∧
        service.Registers o c (service.afterCalls st before) request u ∧ u.IsSame v := by
  induction calls generalizing st with
  | nil => exact .inl ⟨v, hv, .refl v⟩
  | cons call calls ih =>
    obtain ⟨o, c⟩ := call
    rcases ih hv with ⟨w, hw, hwv⟩ | ⟨before, o', c', after, request, u, rfl, hreg, huv⟩
    · -- the call made the user, or left it
      rcases mem_afterCall hw with ⟨u, hu, huw⟩ | ⟨request, hreg⟩
      · exact .inl ⟨u, hu, huw.trans hwv⟩
      · exact .inr ⟨[], o, c, calls, request, w, rfl, hreg, hwv⟩
    · exact .inr ⟨(o, c) :: before, o', c', after, request, u, rfl, hreg, huv⟩

end Service

end Accounts

import Accounts.Proofs.Http.Effect

/-!
# No work without an identity

The guard of a protected endpoint stands before its work: a request that does not show the token of
an entitled bearer is refused, and neither looks at the store of users nor changes a store.

* `Service.LeavesUsers`: response and effects of a request do not depend on the store of users, and
  it is the same afterwards;
* `Service.Refuses`: a request gets a status, leaves the users and changes no store;
* **`Service.refuses_of_fault`**, `Service.refuses_of_method`: refusals by the guard and for the
  method;
* **`Service.route_profile`**, **`Service.route_update`**: only the caller's own record is shown or
  changed;
* **`Service.no_work_without_identity`**: the whole of it.
-/

namespace Accounts

theorem AuthFault.status_mem (f : AuthFault) : f.status ∈ [401, 403, 500] := by
  cases f <;> simp [AuthFault.status]

theorem AccountFault.le_status (f : AccountFault) : 400 ≤ f.status := by
  cases f <;> simp [AccountFault.status]

namespace Service

theorem status_dress (r : Request) (e : Endpoint) (response : Response) :
    (dress r e response).status = response.status := by
  simp only [dress]
  split <;> split <;> rfl

theorem rejection_dress (r : Request) (e : Endpoint) (response : Response) :
    (dress r e response).rejection = response.rejection := by
  simp only [dress]
  split <;> split <;> rfl

variable (service : Service) (o : Occasion) (r : Request) (st : State)

/-- Whatever store of users stands there, the response and the rest of the state are the same, and
the store stands there afterwards. -/
def LeavesUsers : Prop :=
  ∀ users, service.route o r { st with users := users } =
    ((service.route o r st).1, { (service.route o r st).2 with users := users })

/-- A request gets one of some statuses, leaves the store of users alone and changes no store. -/
structure Refuses (statuses : List Nat) : Prop where
  status : (service.route o r st).1.status ∈ statuses
  leavesUsers : service.LeavesUsers o r st
  sameStores : st.SameStores (service.route o r st).2

variable {service o r st} {e : Endpoint} {i : Identity}

/-! ## Refusals -/

theorem Refuses.mono {statuses statuses' : List Nat} (h : service.Refuses o r st statuses)
    (hsub : ∀ n ∈ statuses, n ∈ statuses') : service.Refuses o r st statuses' :=
  ⟨hsub _ h.status, h.leavesUsers, h.sameStores⟩

/-- What ends at the guard, or right after it, with a response that does not depend on the store of
users is refused. -/
theorem refuses_of_enter {response : Response} {statuses : List Nat}
    (hpath : Endpoint.ofPath? r.path = some e) (hstatus : response.status ∈ statuses)
    (henter : ∀ users, service.enter o r e { st with users := users } =
      (response, (e.guard.pass service o r.headers { st with users := users }).2)) :
    service.Refuses o r st statuses := by
  have hroute : ∀ users, service.route o r { st with users := users } = (dress r e response,
      { (e.guard.pass service o r.headers st).2 with users := users }) := by
    intro users
    rw [route_of_endpoint hpath, henter, Guard.pass_users]
  have hst : service.route o r st = (dress r e response, (e.guard.pass service o r.headers st).2) := by
    rw [route_of_endpoint hpath]
    exact congrArg (fun p : Response × State => (dress r e p.1, p.2)) (henter st.users)
  refine ⟨?_, fun users => ?_, ?_⟩
  · rw [hst, status_dress]
    exact hstatus
  · rw [hroute, hst]
  · rw [hst]
    exact e.guard.sameStores_pass

/-- **Who does not pass the guard is refused.** -/
theorem refuses_of_fault {f : AuthFault} (hpath : Endpoint.ofPath? r.path = some e)
    (hp : (e.guard.pass service o r.headers st).1 = .error f) :
    service.Refuses o r st [401, 403, 500] := by
  refine refuses_of_enter hpath f.status_mem fun users => enter_of_fault ?_
  rw [Guard.pass_users, hp]

/-- **Who calls an endpoint by a wrong method is refused**, after the guard. -/
theorem refuses_of_method (hpath : Endpoint.ofPath? r.path = some e)
    (hmethod : e.accepts r.method = false) : service.Refuses o r st [401, 403, 405, 500] := by
  cases hp : (e.guard.pass service o r.headers st).1 with
  | error f => exact (refuses_of_fault hpath hp).mono (by decide)
  | ok caller =>
    have hstatus : (Response.empty 405).status ∈ [401, 403, 405, 500] := by decide
    refine refuses_of_enter hpath hstatus fun users => ?_
    have hp' : (e.guard.pass service o r.headers { st with users := users }).1 = .ok caller := by
      rw [Guard.pass_users, hp]
    rw [enter_of_caller hp', hmethod]
    rfl

/-! ## The caller's own record -/

theorem route_of_caller (hpath : Endpoint.ofPath? r.path = some e) (he : e.IsProtected)
    (hmethod : e.accepts r.method = true) (hi : service.Shows o r.headers st.revocations i)
    (hentitles : e.Entitles i) : ∃ st', st.SameStores st' ∧
      service.route o r st = (dress r e (service.perform o r (some i) st' e).1,
        (service.perform o r (some i) st' e).2) := by
  refine ⟨(e.guard.pass service o r.headers st).2, e.guard.sameStores_pass, ?_⟩
  have hp := (Endpoint.pass_guard_eq_ok_iff he).2 ⟨i, hi, hentitles, rfl⟩
  rw [route_of_endpoint hpath, enter_of_caller hp, hmethod]
  rfl

/-- **The profile is the caller's own record.** -/
theorem route_profile (hpath : Endpoint.ofPath? r.path = some .profile)
    (hmethod : Endpoint.profile.accepts r.method = true)
    (hi : service.Shows o r.headers st.revocations i) :
    (service.route o r st).1 =
        dress r .profile (answered (userFound "User profile retrieved") (profile i st.users)) ∧
      st.SameStores (service.route o r st).2 := by
  obtain ⟨st', hst, hroute⟩ := route_of_caller hpath trivial hmethod hi trivial
  rw [hroute, ← hst.users]
  exact ⟨rfl, hst⟩

theorem profile_congr {users users' : UserStore} (h : users.find i.userId = users'.find i.userId) :
    profile i users = profile i users' := by
  rw [profile, profile, h]

/-- **Only the caller's own record is changed.** A change that succeeds shows the new record, and one
that does not leaves the store of users. -/
theorem route_update (hpath : Endpoint.ofPath? r.path = some .update)
    (hmethod : Endpoint.update.accepts r.method = true)
    (hi : service.Shows o r.headers st.revocations i) :
    (∃ calls, (service.route o r st).2.revocations = { st.revocations with calls := calls }) ∧
      ((∃ u, u.id = i.userId ∧
        (service.route o r st).1 = dress r .update (userFound "User updated successfully" u) ∧
        (service.route o r st).2.users =
          { st.users with table := st.users.table.replace u }) ∨
      (400 ≤ (service.route o r st).1.status ∧ (service.route o r st).2.users = st.users)) := by
  obtain ⟨st', hst, hroute⟩ := route_of_caller hpath trivial hmethod hi trivial
  rw [hroute, ← hst.users]
  simp only [perform, performUpdate]
  cases r.read UpdateRequest.read with
  | error f => exact ⟨hst.revocations, .inr ⟨by rw [status_dress]; exact Nat.le_refl 400, rfl⟩⟩
  | ok request =>
    simp only
    cases hwork : service.change o i request st'.users with
    | error f => exact ⟨hst.revocations, .inr ⟨by rw [status_dress]; exact f.le_status, rfl⟩⟩
    | ok p =>
      obtain ⟨u, users⟩ := p
      obtain ⟨-, hash, -, hupdate⟩ := change_eq_ok_iff.1 hwork
      obtain ⟨-, -, v, hv, hu, rfl⟩ := UserStore.update_eq_ok_iff.1 hupdate
      have hid : u.id = i.userId := by
        rw [hu, User.updated, (UserTable.mem_of_find? hv).2]
      exact ⟨hst.revocations, .inl ⟨u, hid, rfl, rfl⟩⟩

/-! ## All endpoints -/

theorem refuses_of_no_endpoint (hpath : Endpoint.ofPath? r.path = none) :
    service.Refuses o r st [404] := by
  have hroute : ∀ st, service.route o r st = (.empty 404, st) := fun st => by rw [route, hpath]
  refine ⟨?_, fun users => ?_, ?_⟩
  · rw [hroute]
    exact List.mem_singleton_self _
  · rw [hroute, hroute]
  · rw [hroute]
    exact ⟨rfl, _, rfl⟩

theorem refuses_of_not_entitled (hpath : Endpoint.ofPath? r.path = some e) (he : e.IsProtected)
    (h : ∀ i, service.Shows o r.headers st.revocations i → ¬ e.Entitles i) :
    service.Refuses o r st [401, 403, 500] := by
  cases hp : (e.guard.pass service o r.headers st).1 with
  | error f => exact refuses_of_fault hpath hp
  | ok caller =>
    obtain ⟨i, hi, hentitles, -⟩ := (Endpoint.pass_guard_eq_ok_iff he).1 hp
    exact absurd hentitles (h i hi)

/-- **No work without an identity.** A path or a method that is none is refused, and so is a request
to a protected endpoint that does not show the token of an entitled bearer: the store of users is
neither read nor written, and no store changes. The profile reads and shows the bearer's own record
only, and an update changes that record only. -/
theorem no_work_without_identity (service : Service) (o : Occasion) (r : Request) (st : State) :
    (Endpoint.ofPath? r.path = none → service.Refuses o r st [404]) ∧
    (∀ e, Endpoint.ofPath? r.path = some e →
      (e.accepts r.method = false → service.Refuses o r st [401, 403, 405, 500]) ∧
      (e.IsProtected → (∀ i, service.Shows o r.headers st.revocations i → ¬ e.Entitles i) →
        service.Refuses o r st [401, 403, 500])) ∧
    ∀ i, service.Shows o r.headers st.revocations i →
      (Endpoint.ofPath? r.path = some .profile → Endpoint.profile.accepts r.method = true →
        st.SameStores (service.route o r st).2 ∧
        (∀ users, users.find i.userId = st.users.find i.userId →
          (service.route o r { st with users := users }).1 = (service.route o r st).1) ∧
        ((∃ u ∈ st.users.table.users, u.id = i.userId ∧
            (service.route o r st).1 = dress r .profile (userFound "User profile retrieved" u)) ∨
          ∃ f : AccountFault, (service.route o r st).1 = dress r .profile f.respond)) ∧
      (Endpoint.ofPath? r.path = some .update → Endpoint.update.accepts r.method = true →
        (∃ table, (service.route o r st).2.users = { st.users with table := table } ∧
          table.users.filter (fun u => u.id ≠ i.userId) =
            st.users.table.users.filter (fun u => u.id ≠ i.userId)) ∧
        (∃ calls, (service.route o r st).2.revocations = { st.revocations with calls := calls }) ∧
        ((∃ u, u.id = i.userId ∧ (service.route o r st).1 =
            dress r .update (userFound "User updated successfully" u)) ∨
          400 ≤ (service.route o r st).1.status ∧ (service.route o r st).2.users = st.users)) := by
  refine ⟨refuses_of_no_endpoint, fun e hpath => ⟨refuses_of_method hpath,
    refuses_of_not_entitled hpath⟩, fun i hi => ⟨fun hpath hmethod => ?_, fun hpath hmethod => ?_⟩⟩
  · obtain ⟨hresponse, hstores⟩ := route_profile hpath hmethod hi
    refine ⟨hstores, fun users h => ?_, ?_⟩
    · have hi' : service.Shows o r.headers ({ st with users := users } : State).revocations i := hi
      rw [(route_profile hpath hmethod hi').1, hresponse, profile_congr h]
    · rw [hresponse]
      cases hfound : profile i st.users with
      | error f => exact .inr ⟨f, rfl⟩
      | ok u =>
        obtain ⟨hu, hid⟩ := UserTable.mem_of_find?
          (UserStore.find_eq_ok_iff.1 (profile_eq_ok_iff.1 hfound)).2
        exact .inl ⟨u, hu, hid, rfl⟩
  · obtain ⟨hcalls, ⟨u, hid, hresponse, husers⟩ | ⟨hstatus, husers⟩⟩ :=
      route_update hpath hmethod hi
    · refine ⟨⟨_, husers, ?_⟩, hcalls, .inl ⟨u, hid, hresponse⟩⟩
      rw [← hid]
      exact UserTable.filter_replace st.users.table u
    · exact ⟨⟨st.users.table, husers, rfl⟩, hcalls, .inr ⟨hstatus, husers⟩⟩

/-- Alice has no way to the list, sees her own profile, and cannot change what Bob has. -/
theorem no_work_without_identity_for_alice :
    let service : Service := .ofSettings { secret := "secret" } .argon2id ⟨0, 0⟩
    let alice : User := ⟨Uuid.random 1, "Alice", "alice", "a@example.com", "", .user, "", "", ⟨0, 0⟩,
      ⟨0, 0⟩⟩
    let bob : User := ⟨Uuid.random 2, "Bob", "bob", "b@example.com", "", .admin, "", "", ⟨0, 0⟩,
      ⟨0, 0⟩⟩
    let issued := service.signer.issue alice.identity (Uuid.random 3) ⟨1700000000, 0⟩
    let o : Occasion := ⟨⟨1700000001, 0⟩, 0, Uuid.random 4, []⟩
    let st : State := { users := { table := ⟨[alice, bob]⟩ } }
    let request (method path : String) : Request := ⟨method, path, headersWith issued.token, []⟩
    service.Refuses o (request "GET" "/api/v1/accounts") st [404] ∧
      service.Refuses o (request "POST" "/api/v1/accounts/profile") st [401, 403, 405, 500] ∧
      service.Refuses o (request "GET" "/api/v1/accounts/list") st [401, 403, 500] ∧
      (∀ users : UserStore, users.find alice.id = .ok (some alice) →
        (service.route o (request "GET" "/api/v1/accounts/profile") { st with users := users }).1 =
          (service.route o (request "GET" "/api/v1/accounts/profile") st).1) ∧
      ∃ table, (service.route o (request "PUT" "/api/v1/accounts/update") st).2.users =
          { st.users with table := table } ∧
        table.users.filter (fun u => u.id ≠ alice.id) = [bob] := by
  intro service alice bob issued o st request
  have hc : issued.claims.InRange := Signer.inRange_newClaims (by decide) (by decide)
  have hd : service.signer.decodeVerified o.wall.seconds issued.token = .ok issued.claims :=
    (Signer.decodeVerified_issue (by decide) hc _).trans (if_pos (by decide))
  have hi : service.Shows o (headersWith issued.token) st.revocations alice.identity := by
    refine ⟨issued.token, first?_headersWith issued.token, ?_⟩
    rw [service.verify_of_ok hd]
    rfl
  have hnone : Endpoint.ofPath? (targetPath "/api/v1/accounts") = none := by decide +kernel
  have hprofile : Endpoint.ofPath? (targetPath "/api/v1/accounts/profile") = some .profile := by
    decide +kernel
  have hlist : Endpoint.ofPath? (targetPath "/api/v1/accounts/list") = some .list := by
    decide +kernel
  have hupdate : Endpoint.ofPath? (targetPath "/api/v1/accounts/update") = some .update := by
    decide +kernel
  have hfind : st.users.find alice.id = .ok (some alice) := rfl
  have hbob : st.users.table.users.filter (fun u => u.id ≠ alice.id) = [bob] := by decide +kernel
  have main (method path : String) := no_work_without_identity service o (request method path) st
  refine ⟨(main "GET" "/api/v1/accounts").1 hnone,
    ((main "POST" "/api/v1/accounts/profile").2.1 _ hprofile).1 (by decide), ?_, ?_, ?_⟩
  · refine ((main "GET" "/api/v1/accounts/list").2.1 _ hlist).2 trivial fun j hj => ?_
    rw [hj.unique hi]
    exact Role.noConfusion
  · intro users hfound
    exact (((main "GET" "/api/v1/accounts/profile").2.2 _ hi).1 hprofile (by decide)).2.1 users
      (hfound.trans hfind.symm)
  · obtain ⟨table, husers, hothers⟩ :=
      (((main "PUT" "/api/v1/accounts/update").2.2 _ hi).2 hupdate (by decide)).1
    exact ⟨table, husers, hothers.trans hbob⟩

end Service

end Accounts

import Accounts.Http.Serve
import Accounts.Proofs.Account.Work
import Accounts.Proofs.Gate.Guards
import Accounts.Proofs.Revocation.Run

/-!
# What a request does to the store of users

Only three endpoints change it: one makes an account for whoever asks, one changes the account of
the bearer of the token, and one ends an account.

* `Service.Effect`: the store of users after a request, with what the request has shown;
* `Service.enter_of_fault`, `Service.enter_of_caller`: what the guard of an endpoint decides;
* `Service.effect_perform`: the work of an endpoint has one of these effects;
* **`Service.effect_route`**: a request has one of these effects.
-/

namespace Accounts

namespace Service

variable {service : Service} {o : Occasion} {r : Request} {st : State}

variable (service o r st) in
/-- What a request does to the store of users: nothing, or it makes, changes or ends an account. -/
inductive Effect : UserStore → Prop
  | nothing : Effect st.users
  | registered {request : RegisterRequest} {u : User} {users : UserStore}
      (path : Endpoint.ofPath? r.path = some .register) (method : r.method = "POST")
      (body : r.read RegisterRequest.read = .ok request)
      (work : service.register o request st.users = .ok (u, users)) : Effect users
  | changed {i : Identity} {request : UpdateRequest} {u : User} {users : UserStore}
      (path : Endpoint.ofPath? r.path = some .update)
      (caller : service.Shows o r.headers st.revocations i)
      (work : service.change o i request st.users = .ok (u, users)) : Effect users
  | removed {i : Identity} {written : List Char} {id : String} {users : UserStore}
      (path : Endpoint.ofPath? r.path = some (.delete written))
      (caller : service.Shows o r.headers st.revocations i)
      (work : remove id st.users = .ok users) : Effect users

/-! ## Through the guard -/

variable {e : Endpoint}

theorem enter_of_fault {f : AuthFault} (h : (e.guard.pass service o r.headers st).1 = .error f) :
    service.enter o r e st = (f.respond, (e.guard.pass service o r.headers st).2) := by
  unfold enter
  rcases hp : e.guard.pass service o r.headers st with ⟨x, st'⟩
  rw [hp] at h
  cases h
  rfl

theorem enter_of_caller {caller : Option Identity}
    (h : (e.guard.pass service o r.headers st).1 = .ok caller) :
    service.enter o r e st =
      if e.accepts r.method then
        service.perform o r caller (e.guard.pass service o r.headers st).2 e
      else (.empty 405, (e.guard.pass service o r.headers st).2) := by
  unfold enter
  rcases hp : e.guard.pass service o r.headers st with ⟨x, st'⟩
  rw [hp] at h
  cases h
  rfl

theorem route_of_endpoint (h : Endpoint.ofPath? r.path = some e) :
    service.route o r st = (dress r e (service.enter o r e st).1, (service.enter o r e st).2) := by
  rw [route, h]

/-! ## The work of an endpoint -/

theorem users_logout (authorization : String) (st : State) :
    (service.logout o authorization st).2.users = st.users := by
  rw [snd_logout]
  split
  · unfold State.revoke
    split <;> rfl
  · rfl

theorem users_performLogout (r : Request) (st : State) :
    (service.performLogout o r st).2.users = st.users := by
  unfold performLogout
  split
  · rfl
  · split
    · rfl
    · next text _ =>
      rw [← service.users_logout (o := o) text st]
      split <;> next h => rw [h]

/-! ## Effects

The work begins in the state that the guard leaves, whose store of users is the one before. -/

variable {st' : State}

theorem effect_of_eq {users : UserStore} (h : users = st.users) : service.Effect o r st users :=
  h ▸ .nothing

theorem effect_settleUsers {α : Type} {respond : α → Response}
    {x : Except AccountFault (α × UserStore)} (hst : st'.users = st.users)
    (h : ∀ a users, x = .ok (a, users) → service.Effect o r st users) :
    service.Effect o r st (settleUsers st' respond x).2.users := by
  cases x with
  | error f => exact effect_of_eq hst
  | ok p => exact h p.1 p.2 rfl

theorem effect_register (hst : st'.users = st.users)
    (hpath : Endpoint.ofPath? r.path = some .register) (hmethod : r.method = "POST") :
    service.Effect o r st (service.performRegister o r st').2.users := by
  unfold performRegister
  split
  · exact effect_of_eq hst
  · next request hbody =>
    refine effect_settleUsers hst fun u users h => ?_
    rw [hst] at h
    exact .registered hpath hmethod hbody h

theorem effect_update {i : Identity} (hst : st'.users = st.users)
    (hpath : Endpoint.ofPath? r.path = some .update)
    (hcaller : service.Shows o r.headers st.revocations i) :
    service.Effect o r st (service.performUpdate o i r st').2.users := by
  unfold performUpdate
  split
  · exact effect_of_eq hst
  · refine effect_settleUsers hst fun u users h => ?_
    rw [hst] at h
    exact .changed hpath hcaller h

theorem effect_delete {i : Identity} {written : List Char} {caller : Option Identity}
    (hst : st'.users = st.users) (hpath : Endpoint.ofPath? r.path = some (.delete written))
    (hcaller : service.Shows o r.headers st.revocations i) :
    service.Effect o r st (service.perform o r caller st' (.delete written)).2.users := by
  simp only [perform]
  split
  · exact effect_of_eq hst
  · refine effect_settleUsers hst fun _ users h => ?_
    obtain ⟨users', hwork, heq⟩ := Outcome.map_eq_ok_iff.1 h
    cases heq
    rw [hst] at hwork
    exact .removed hpath hcaller hwork

theorem accepts_register {method : String} :
    Endpoint.register.accepts method = true ↔ method = "POST" := by
  simp [Endpoint.accepts, Endpoint.method]

theorem users_performLookUp {written : List Char} {caller : Option Identity} :
    (service.perform o r caller st' (.lookUp written)).2.users = st'.users := by
  simp only [perform]
  split <;> rfl

theorem users_performProfile {caller : Option Identity} :
    (service.perform o r caller st' .profile).2.users = st'.users := by
  cases caller <;> rfl

theorem effect_perform {caller : Option Identity} (hst : st'.users = st.users)
    (hpath : Endpoint.ofPath? r.path = some e) (haccepts : e.accepts r.method = true)
    (hcaller : e.IsProtected → ∃ i, service.Shows o r.headers st.revocations i ∧ some i = caller) :
    service.Effect o r st (service.perform o r caller st' e).2.users := by
  cases e with
  | register => exact effect_register hst hpath (accepts_register.1 haccepts)
  | update =>
    obtain ⟨i, hi, rfl⟩ := hcaller trivial
    exact effect_update hst hpath hi
  | delete written =>
    obtain ⟨i, hi, rfl⟩ := hcaller trivial
    exact effect_delete hst hpath hi
  | logout => exact effect_of_eq ((users_performLogout r st').trans hst)
  | profile => exact effect_of_eq (users_performProfile.trans hst)
  | lookUp written => exact effect_of_eq (users_performLookUp.trans hst)
  | live => exact effect_of_eq hst
  | ready => exact effect_of_eq hst
  | login => exact effect_of_eq hst
  | list => exact effect_of_eq hst

/-- **A request has one of the effects.** -/
theorem effect_route (service : Service) (o : Occasion) (r : Request) (st : State) :
    service.Effect o r st (service.route o r st).2.users := by
  cases hpath : Endpoint.ofPath? r.path with
  | none =>
    rw [route, hpath]
    exact .nothing
  | some e =>
    rw [route_of_endpoint hpath]
    have hst : (e.guard.pass service o r.headers st).2.users = st.users :=
      e.guard.sameStores_pass.users
    cases hp : (e.guard.pass service o r.headers st).1 with
    | error f =>
      rw [enter_of_fault hp]
      exact effect_of_eq hst
    | ok caller =>
      rw [enter_of_caller hp]
      split
      · next haccepts =>
        refine effect_perform hst hpath haccepts fun he => ?_
        obtain ⟨i, hi, -, hcaller⟩ := (Endpoint.pass_guard_eq_ok_iff he).1 hp
        exact ⟨i, hi, hcaller⟩
      · exact effect_of_eq hst

end Service

end Accounts

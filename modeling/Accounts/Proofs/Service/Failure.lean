import Accounts.Proofs.Http.Logout
import Accounts.Proofs.Http.Protection

/-!
# Calls that fail change nothing

Every endpoint can fail in several ways, each at its own place: before the guard, at it, at the
method, at the body, at its checks, in a store. Whichever it is, no store has changed by then.

* `Service.Fails`: a call that is answered with an error;
* `Service.sameStores_logout`: a logout that fails leaves both stores;
* `Service.sameStores_perform`: the work of an endpoint that is answered with an error leaves them;
* **`Service.sameStores_afterCall`**: so does every call;
* **`Service.route_of_unanswered`**: a request ends at the gate if the look-up of its token fails;
* `Service.logout_of_unanswered`: a logout says so if its put fails;
* **`Service.failed_calls_change_nothing`**: the whole of it.
-/

namespace Accounts

namespace Service

variable {service : Service} {o : Occasion} {r : Request} {st : State} {e : Endpoint}

variable (service o st) in
/-- A call is answered with an error: a status of 400 or more, or a fault. -/
def Fails : Call → Prop
  | .http r => 400 ≤ (service.serve o r st).1.status
  | .validateToken token => ∃ f, (service.validateToken o token st).1 = .error f
  | .getUser id => ∃ f, getUser id st.users = .error f

/-! ## Logouts -/

theorem sameStores_revoke {id : String} {ttl : Int} {f : RevocationFault}
    (h : (st.revoke o id ttl).1 = .error f) : st.SameStores (st.revoke o id ttl).2 := by
  unfold State.revoke at h ⊢
  split at h
  · cases h
  · next hpos =>
    rw [if_neg hpos]
    cases hf : st.revocations.fault with
    | none =>
      rw [(put_of_answers hf o.steady id ttl.toNat).1] at h
      cases h
    | some f' =>
      rw [put_of_fault hf]
      exact ⟨rfl, _, rfl⟩

theorem sameStores_logout {authorization : String} {f : LogoutFault}
    (h : (service.logout o authorization st).1 = .error f) :
    st.SameStores (service.logout o authorization st).2 := by
  unfold logout at h ⊢
  cases ht : service.logoutTarget o.wall.seconds authorization with
  | error f' => exact .refl st
  | ok target =>
    obtain ⟨id, seconds⟩ := target
    rw [ht] at h
    simp only at h ⊢
    cases hr : (st.revoke o id (nanosPerSecond * seconds : Nat)).1 with
    | ok u =>
      rw [hr] at h
      cases h
    | error f' => exact sameStores_revoke hr

theorem sameStores_performLogout (h : 400 ≤ (service.performLogout o r st).1.status) :
    st.SameStores (service.performLogout o r st).2 := by
  unfold performLogout at h ⊢
  split
  · exact .refl st
  · next value hvalue =>
    rw [hvalue] at h
    simp only at h
    split
    · exact .refl st
    · next text htext =>
      rw [htext] at h
      simp only at h
      rcases hl : service.logout o text st with ⟨f | u, st'⟩
      · have hleft := sameStores_logout (congrArg Prod.fst hl)
        rw [hl] at hleft
        exact hleft
      · rw [hl] at h
        exact absurd h (show ¬ 400 ≤ 200 by decide)

/-! ## The work of an endpoint -/

theorem sameStores_settleUsers {α : Type} {respond : α → Response}
    {x : Except AccountFault (α × UserStore)} (hrespond : ∀ a, (respond a).status < 400)
    (h : 400 ≤ (settleUsers st respond x).1.status) :
    st.SameStores (settleUsers st respond x).2 := by
  cases x with
  | error f => exact .refl st
  | ok p => exact absurd h (Nat.not_le.2 (hrespond p.1))

theorem sameStores_performRegister (h : 400 ≤ (service.performRegister o r st).1.status) :
    st.SameStores (service.performRegister o r st).2 := by
  unfold performRegister at h ⊢
  split
  · exact .refl st
  · next request hbody =>
    rw [hbody] at h
    exact sameStores_settleUsers (fun _ => show 201 < 400 by decide) h

theorem sameStores_performUpdate {i : Identity}
    (h : 400 ≤ (service.performUpdate o i r st).1.status) :
    st.SameStores (service.performUpdate o i r st).2 := by
  unfold performUpdate at h ⊢
  split
  · exact .refl st
  · next request hbody =>
    rw [hbody] at h
    exact sameStores_settleUsers (fun _ => show 200 < 400 by decide) h

/-- **The work of an endpoint that is answered with an error leaves both stores.** -/
theorem sameStores_perform {caller : Option Identity}
    (h : 400 ≤ (service.perform o r caller st e).1.status) :
    st.SameStores (service.perform o r caller st e).2 := by
  cases e with
  | register => exact sameStores_performRegister h
  | logout => exact sameStores_performLogout h
  | update =>
    cases caller with
    | none => exact .refl st
    | some i => exact sameStores_performUpdate h
  | delete written =>
    simp only [perform] at h ⊢
    split
    · exact .refl st
    · next id hid =>
      rw [hid] at h
      simp only at h
      exact sameStores_settleUsers (fun _ => show 200 < 400 by decide) h
  | lookUp written =>
    simp only [perform]
    split <;> exact .refl st
  | profile => cases caller <;> exact .refl st
  | live => exact .refl st
  | ready => exact .refl st
  | login => exact .refl st
  | list => exact .refl st

/-! ## Calls -/

theorem sameStores_route (h : 400 ≤ (service.route o r st).1.status) :
    st.SameStores (service.route o r st).2 := by
  cases hpath : Endpoint.ofPath? r.path with
  | none =>
    rw [route, hpath]
    exact .refl st
  | some e =>
    rw [route_of_endpoint hpath] at h ⊢
    simp only [status_dress] at h
    have hguard : st.SameStores (e.guard.pass service o r.headers st).2 := e.guard.sameStores_pass
    cases hp : (e.guard.pass service o r.headers st).1 with
    | error f =>
      rw [enter_of_fault hp]
      exact hguard
    | ok caller =>
      rw [enter_of_caller hp] at h ⊢
      split
      · next haccepts =>
        rw [if_pos haccepts] at h
        exact hguard.trans (sameStores_perform h)
      · exact hguard

theorem sameStores_serve (h : 400 ≤ (service.serve o r st).1.status) :
    st.SameStores (service.serve o r st).2 := by
  rw [fst_serve] at h
  obtain ⟨husers, calls, hcalls⟩ := sameStores_route h
  rw [← users_serve] at husers
  rw [← revocations_serve] at hcalls
  exact ⟨husers, calls, hcalls⟩

/-- **A call that is answered with an error leaves both stores.** -/
theorem sameStores_afterCall {c : Call} (h : service.Fails o st c) :
    st.SameStores (service.afterCall o st c) := by
  cases c with
  | http r =>
    rw [Fails] at h
    rw [afterCall]
    exact sameStores_serve h
  | validateToken token => exact sameStores_verifyAt .rpc token
  | getUser id => exact .refl st

/-! ## Stores that fail -/

theorem pass_guard_of_unanswered {f : RevocationFault} {token : String} {c : Claims}
    (he : e.IsProtected) (hf : st.revocations.fault = some f)
    (ht : bearerToken r.headers = .ok token)
    (hd : service.signer.decodeVerified o.wall.seconds token = .ok c) :
    (e.guard.pass service o r.headers st).1 = .error .verificationUnavailable := by
  have hgate : (service.authenticate o r.headers st).1 = .error .verificationUnavailable := by
    rw [service.authenticate_of_token ht, service.verify_of_ok hd, RevocationStore.contains, hf]
    rfl
  cases e with
  | profile => exact congrArg (Except.map some) hgate
  | update => exact congrArg (Except.map some) hgate
  | delete written => exact congrArg (Except.map some) hgate
  | list => exact Outcome.bind_eq_error_iff.2 (.inl hgate)
  | lookUp written => exact Outcome.bind_eq_error_iff.2 (.inl hgate)
  | live => exact he.elim
  | ready => exact he.elim
  | register => exact he.elim
  | login => exact he.elim
  | logout => exact he.elim

/-- **A request ends at the gate if the look-up of its token fails**: neither its body nor the store
of users matters, and the state is the one that the gate leaves. -/
theorem route_of_unanswered {f : RevocationFault} {token : String} {c : Claims}
    (hpath : Endpoint.ofPath? r.path = some e) (he : e.IsProtected)
    (hf : st.revocations.fault = some f) (ht : bearerToken r.headers = .ok token)
    (hd : service.signer.decodeVerified o.wall.seconds token = .ok c) (body : Bytes)
    (users : UserStore) :
    service.route o { r with body := body } { st with users := users } =
      (dress r e AuthFault.verificationUnavailable.respond,
        { (e.guard.pass service o r.headers st).2 with users := users }) := by
  have hp : (e.guard.pass service o ({ r with body := body } : Request).headers
      { st with users := users }).1 = .error .verificationUnavailable := by
    rw [Guard.pass_users]
    exact pass_guard_of_unanswered he hf ht hd
  have hpath' : Endpoint.ofPath? ({ r with body := body } : Request).path = some e := hpath
  rw [route_of_endpoint hpath', enter_of_fault hp, Guard.pass_users]
  rfl

/-- **A logout whose put fails says so.** -/
theorem logout_of_unanswered {text id : String} {seconds : Nat} {f : RevocationFault}
    (hf : st.revocations.fault = some f)
    (ht : service.logoutTarget o.wall.seconds text = .ok (id, seconds)) (hpos : 0 < seconds) :
    (service.logout o text st).1 = .error (.store f) := by
  have hnanos : 0 < nanosPerSecond * seconds := Nat.mul_pos (by decide) hpos
  rw [logout, ht]
  simp only [State.revoke]
  rw [if_neg (by omega), put_of_fault hf]
  rfl

/-! ## The whole -/

/-- **Calls that fail change nothing.** Whatever the state, the condition of the stores and the call:
if it is answered with an error, the store of users is the same afterwards, and that of revoked
tokens holds the same until the same instants. If the look-up of a token that passes the local checks
fails, a request to a protected endpoint gets status 500 from the gate, with every body and every
store of users, and the remote check gets an internal fault. If the put of a logout fails, the logout
says so with status 500 and has recorded nothing. -/
theorem failed_calls_change_nothing (s : AuthSettings) (scheme : PasswordScheme)
    (startedAt : Timestamp) (o : Occasion) (st : State) :
    let service := ofSettings s scheme startedAt
    (∀ c, service.Fails o st c → st.SameStores (service.afterCall o st c)) ∧
    ∀ f, st.revocations.fault = some f →
      (∀ token c, service.signer.decodeVerified o.wall.seconds token = .ok c →
        (∀ r e, Endpoint.ofPath? r.path = some e → e.IsProtected →
          bearerToken r.headers = .ok token →
          (service.serve o r st).1.status = 500 ∧
            ∀ body users, service.route o { r with body := body } { st with users := users } =
              (dress r e AuthFault.verificationUnavailable.respond,
                { (e.guard.pass service o r.headers st).2 with users := users })) ∧
        ∃ fault, (service.validateToken o token st).1 = .error fault ∧ fault.code = .internal) ∧
      ∀ r value text target, Endpoint.ofPath? r.path = some .logout → r.method = "POST" →
        r.headers.first? "authorization" = some value → headerText? value = some text →
        service.logoutTarget o.wall.seconds text = .ok target →
        let answer := service.serve o r st
        answer.1 = (LogoutFault.store f).respond ∧ answer.1.status = 500 ∧
          answer.1.rejection = some "REVOCATION_FAILED" ∧ st.SameStores answer.2 := by
  intro service
  refine ⟨fun c => sameStores_afterCall, fun f hf => ⟨fun token c hd => ⟨?_, ?_⟩, ?_⟩⟩
  · intro r e hpath he ht
    refine ⟨?_, route_of_unanswered hpath he hf ht hd⟩
    have hcounted : (st.count (.request r.method (pathLabel r.path))).revocations.fault = some f := hf
    have hroute := route_of_unanswered hpath he hcounted ht hd r.body st.users
    exact (congrArg Response.status ((fst_serve o r st).trans (congrArg Prod.fst hroute))).trans
      (status_dress r e _)
  · refine ⟨.outage, ?_, rfl⟩
    rw [fst_validateToken]
    exact validationAnswer_eq_outage_iff.2 ⟨.store f, by
      rw [service.verify_of_ok hd, RevocationStore.contains, hf]
      rfl⟩
  · intro r value text target hpath hmethod hvalue htext ht
    obtain ⟨id, seconds⟩ := target
    have hlifetime : 0 < service.signer.lifetime :=
      Nat.lt_of_lt_of_le (by decide) (Signer.lifetime_bounds s).1
    have hpos : 0 < seconds := (bounds_of_logoutTarget hlifetime ht).1
    have hcounted : (st.count (.request r.method (pathLabel r.path))).revocations.fault = some f := hf
    have hresponse := (serve_logout service o st hpath hmethod hvalue htext).1
    rw [logout_of_unanswered hcounted ht hpos, logoutResponse] at hresponse
    have hfails : 400 ≤ (service.serve o r st).1.status := by
      rw [hresponse]
      exact show 400 ≤ 500 by decide
    dsimp only
    rw [hresponse]
    exact ⟨rfl, rfl, rfl, sameStores_serve hfails⟩

/-- With a valid token and a store that times out, neither the profile is shown nor the token is
revoked. -/
theorem failed_calls_change_nothing_on_timeout :
    let settings : AuthSettings := { secret := "secret" }
    let service := ofSettings settings .argon2id ⟨0, 0⟩
    let issued := service.signer.issue ⟨Uuid.random 1, "alice", .user⟩ (Uuid.random 2)
      ⟨1700000000, 0⟩
    let token := issued.token
    let o : Occasion := ⟨⟨1700000001, 0⟩, 0, Uuid.random 3, []⟩
    let st : State := { revocations := { fault := some (.timeout 100) } }
    let profile : Request :=
      { method := "GET", target := "/api/v1/accounts/profile", headers := headersWith token }
    let logout : Request :=
      { method := "POST", target := "/api/v1/accounts/logout", headers := headersWith token }
    (service.serve o profile st).1.status = 500 ∧
      st.SameStores (service.afterCall o st (.http profile)) ∧
      (∃ fault, (service.validateToken o token st).1 = .error fault ∧ fault.code = .internal) ∧
      (service.serve o logout st).1.rejection = some "REVOCATION_FAILED" ∧
      st.SameStores (service.serve o logout st).2 := by
  intro settings service issued token o st profile logout
  have hc : issued.claims.InRange := Signer.inRange_newClaims (by decide) (by decide)
  have hd : service.signer.decodeVerified o.wall.seconds token = .ok issued.claims :=
    (Signer.decodeVerified_issue (by decide) hc _).trans (if_pos (by decide))
  have hrange : service.signer.lifetime ≤ greatestSeconds := by decide
  have htarget := logoutTarget_of_decodeVerified hd (by decide) (by decide) hrange
  have hprofile : Endpoint.ofPath? (targetPath "/api/v1/accounts/profile") = some .profile := by
    decide +kernel
  have hlogout : Endpoint.ofPath? (targetPath "/api/v1/accounts/logout") = some .logout := by
    decide +kernel
  -- from here on only what the token means matters, and not its text
  clear_value token
  have hheader := first?_headersWith token
  have hpresentable := presentable_of_decodeVerified hd
  have ht : bearerToken (headersWith token) = .ok token :=
    bearerToken_eq_ok_iff.2 ⟨hheader, hpresentable⟩
  have htext := headerText?_encode (forall_mem_bearer.2 hpresentable.2)
  obtain ⟨hsame, hfails⟩ := failed_calls_change_nothing settings .argon2id ⟨0, 0⟩ o st
  obtain ⟨hlookup, hput⟩ := hfails (.timeout 100) rfl
  obtain ⟨hgate, hremote⟩ := hlookup token issued.claims hd
  have hstatus := (hgate profile .profile hprofile trivial ht).1
  obtain ⟨-, -, hrejection, hstores⟩ := hput logout _ _ _ hlogout rfl hheader htext htarget
  have hprofileFails : Fails (ofSettings settings .argon2id ⟨0, 0⟩) o st (.http profile) := by
    rw [Fails, hstatus]
    decide
  dsimp only [service]
  exact ⟨hstatus, hsame (.http profile) hprofileFails, hremote, hrejection, hstores⟩

end Service

end Accounts

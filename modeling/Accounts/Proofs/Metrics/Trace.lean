import Accounts.Proofs.Revocation.Logout
import Accounts.Proofs.Service.Calls

/-!
# The traces of calls

A call leaves a trace: it counts, and it calls the store of revoked tokens. Two works leave one, the
check of a token and the revocation at a logout, and a call does at most one of them.

* `Trace`, `State.Adds`: counts and calls, and two states with a trace between them;
* `Service.checkTrace`, `Service.putTrace`: the traces of the two works;
* `Call.check?`, `Call.logout?`: which work a call does;
* **`Service.adds_route`**: the trace of a request on its way through the guard to its endpoint;
* **`Service.adds_validateToken`**: the trace of a remote check.
-/

namespace Accounts

/-- What some work counts, and its calls to the store of revoked tokens. -/
structure Trace where
  counts : List Counter := []
  calls : List StoreCall := []

/-- What is done between two states adds a trace, and no duration. -/
structure State.Adds (before after : State) (t : Trace) : Prop where
  counts : after.metrics.counts = before.metrics.counts ++ t.counts
  timings : after.metrics.timings = before.metrics.timings
  calls : after.revocations.calls = before.revocations.calls ++ t.calls

theorem State.Adds.trans {st₁ st₂ st₃ : State} {t : Trace} (h₁₂ : st₁.Adds st₂ t)
    (h₂₃ : st₂.Adds st₃ {}) : st₁.Adds st₃ t :=
  ⟨h₂₃.counts.trans ((List.append_nil _).trans h₁₂.counts), h₂₃.timings.trans h₁₂.timings,
    h₂₃.calls.trans ((List.append_nil _).trans h₁₂.calls)⟩

theorem State.Adds.refl (st : State) : st.Adds st {} :=
  ⟨(List.append_nil _).symm, rfl, (List.append_nil _).symm⟩

namespace Service

variable (service : Service)

/-! ## The two works -/

/-- The trace of a check: its outcome, and a look-up if the token passes the local checks. -/
def checkTrace (surface : Surface) (o : Occasion) (token : String) (store : RevocationStore) :
    Trace where
  counts := [.verification surface (checkOutcome (service.verify o token store).1)]
  calls :=
    match service.signer.decodeVerified o.wall.seconds token with
    | .ok c => [.contains c.jti]
    | .error _ => []

/-- The trace of a logout: if there is something to revoke, a put and whether it succeeds. -/
def putTrace (o : Occasion) (text : String) (store : RevocationStore) : Trace :=
  match service.logoutTarget o.wall.seconds text with
  | .ok (id, seconds) =>
    ⟨[.revocation (if store.fault.isNone then .revoked else .error)],
      [.put id (nanosPerSecond * seconds)]⟩
  | .error _ => {}

variable {service} {o : Occasion} {r : Request} {st : State} {e : Endpoint}

theorem adds_verifyAt (surface : Surface) (token : String) :
    st.Adds (service.verifyAt surface o token st).2
      (service.checkTrace surface o token st.revocations) := by
  refine ⟨rfl, rfl, ?_⟩
  change (service.verify o token st.revocations).2.calls = _
  rw [checkTrace]
  cases hd : service.signer.decodeVerified o.wall.seconds token with
  | error reason =>
    rw [service.verify_of_reject hd]
    exact (List.append_nil _).symm
  | ok c => exact service.calls_verify_of_ok hd st.revocations

theorem adds_revoke {id : String} {ttl : Nat} (hpos : 0 < ttl) :
    st.Adds (st.revoke o id ttl).2
      ⟨[.revocation (if st.revocations.fault.isNone then .revoked else .error)], [.put id ttl]⟩ := by
  unfold State.revoke
  rw [if_neg (by omega), Int.toNat_natCast]
  refine ⟨?_, rfl, calls_put _ _ _ _⟩
  cases hf : st.revocations.fault with
  | none =>
    have hanswer := (put_of_answers hf o.steady id ttl).1
    simp only [State.count, Metrics.count, hanswer]
    rfl
  | some f =>
    simp only [State.count, Metrics.count, put_of_fault hf]
    rfl

theorem adds_logout (hlifetime : 0 < service.signer.lifetime) (text : String) :
    st.Adds (service.logout o text st).2 (service.putTrace o text st.revocations) := by
  rw [snd_logout, putTrace]
  cases ht : service.logoutTarget o.wall.seconds text with
  | error f => exact .refl st
  | ok target =>
    have hpos := (bounds_of_logoutTarget hlifetime ht).1
    exact adds_revoke (Nat.mul_pos (by decide) hpos)

theorem adds_authenticate (hs : Headers) : st.Adds (service.authenticate o hs st).2
    (match (bearerToken hs).toOption with
      | some token => service.checkTrace .http o token st.revocations
      | none => {}) := by
  unfold authenticate
  cases bearerToken hs with
  | error f => exact .refl st
  | ok token => exact adds_verifyAt .http token

end Service

/-! ## Which work a call does -/

/-- The token that a guard checks, if it asks for one. -/
def Guard.token? (hs : Headers) : Guard → Option String
  | .open => none
  | .signedIn | .roles _ => (bearerToken hs).toOption

/-- The check that a call makes: where a token is presented, and which. -/
def Call.check? : Call → Option (Surface × String)
  | .http r => (Endpoint.ofPath? r.path).bind fun e => (e.guard.token? r.headers).map (Surface.http, ·)
  | .validateToken token => some (.rpc, token)
  | .getUser _ => none

/-- The text of the header in a request to log out, if it has one. -/
def Request.logoutText? (r : Request) : Option String :=
  (r.headers.first? "authorization").bind headerText?

/-- The text that a call works with to log out. -/
def Call.logout? : Call → Option String
  | .http r =>
    if Endpoint.ofPath? r.path = some .logout ∧ r.method = "POST" then r.logoutText? else none
  | .validateToken _ | .getUser _ => none

namespace Service

/-- The trace of a call. -/
def trace (service : Service) (o : Occasion) (store : RevocationStore) (call : Call) : Trace :=
  match call.check?, call.logout? with
  | some (surface, token), _ => service.checkTrace surface o token store
  | none, some text => service.putTrace o text store
  | none, none => {}

variable {service : Service} {o : Occasion} {r : Request} {st : State} {e : Endpoint}

/-! ## Requests -/

theorem adds_pass (g : Guard) (hs : Headers) : st.Adds (g.pass service o hs st).2
    (match g.token? hs with
      | some token => service.checkTrace .http o token st.revocations
      | none => {}) := by
  cases g with
  | «open» => exact .refl st
  | signedIn => exact adds_authenticate hs
  | roles gate => exact adds_authenticate hs

theorem adds_performLogout (hlifetime : 0 < service.signer.lifetime) :
    st.Adds (service.performLogout o r st).2
      (match r.logoutText? with
        | some text => service.putTrace o text st.revocations
        | none => {}) := by
  unfold performLogout Request.logoutText?
  cases r.headers.first? "authorization" with
  | none => exact .refl st
  | some value =>
    simp only [Option.bind_some]
    cases headerText? value with
    | none => exact .refl st
    | some text =>
      have hadds : st.Adds (service.logout o text st).2 _ := adds_logout hlifetime text
      simp only
      rcases hl : service.logout o text st with ⟨f | u, after⟩ <;> rw [hl] at hadds <;> exact hadds

theorem adds_settleUsers {α : Type} (respond : α → Response)
    (x : Except AccountFault (α × UserStore)) : st.Adds (settleUsers st respond x).2 {} := by
  cases x with
  | error f => exact .refl st
  | ok p => exact ⟨(List.append_nil _).symm, rfl, (List.append_nil _).symm⟩

theorem adds_perform_of_ne (he : e ≠ .logout) (caller : Option Identity) :
    st.Adds (service.perform o r caller st e).2 {} := by
  cases e with
  | logout => exact absurd rfl he
  | register =>
    simp only [perform, performRegister]
    split
    · exact .refl st
    · exact adds_settleUsers _ _
  | update =>
    cases caller with
    | none => exact .refl st
    | some i =>
      simp only [perform, performUpdate]
      split
      · exact .refl st
      · exact adds_settleUsers _ _
  | delete written =>
    simp only [perform]
    split
    · exact .refl st
    · exact adds_settleUsers _ _
  | lookUp written =>
    simp only [perform]
    split <;> exact .refl st
  | profile => cases caller <;> exact .refl st
  | live => exact .refl st
  | ready => exact .refl st
  | login => exact .refl st
  | list => exact .refl st

theorem enter_logout (o : Occasion) (r : Request) (st : State) : service.enter o r .logout st =
    if r.method = "POST" then service.performLogout o r st else (.empty 405, st) := by
  have haccepts : Endpoint.logout.accepts r.method = true ↔ r.method = "POST" := by
    simp [Endpoint.accepts, Endpoint.method]
  rw [enter_of_caller (show _ = Except.ok none from rfl)]
  exact if_congr haccepts rfl rfl

theorem adds_enter_of_ne (he : e ≠ .logout) : st.Adds (service.enter o r e st).2
    (match e.guard.token? r.headers with
      | some token => service.checkTrace .http o token st.revocations
      | none => {}) := by
  have hpass := @adds_pass service o st e.guard r.headers
  cases hp : (e.guard.pass service o r.headers st).1 with
  | error f =>
    rw [enter_of_fault hp]
    exact hpass
  | ok caller =>
    rw [enter_of_caller hp]
    split
    · exact hpass.trans (adds_perform_of_ne he caller)
    · exact hpass

/-- **The trace of a request** on its way through the guard to its endpoint. -/
theorem adds_route (hlifetime : 0 < service.signer.lifetime) (o : Occasion) (r : Request)
    (st : State) : st.Adds (service.route o r st).2 (service.trace o st.revocations (.http r)) := by
  rw [trace, Call.check?, Call.logout?]
  cases hpath : Endpoint.ofPath? r.path with
  | none =>
    rw [route, hpath]
    exact .refl st
  | some e =>
    rw [route_of_endpoint hpath, Option.bind_some]
    by_cases he : e = .logout
    · subst he
      rw [enter_logout]
      by_cases hmethod : r.method = "POST"
      · rw [if_pos hmethod, if_pos ⟨rfl, hmethod⟩]
        have hadds := @adds_performLogout service o r st hlifetime
        cases htext : r.logoutText? <;> rw [htext] at hadds <;> exact hadds
      · rw [if_neg hmethod, if_neg fun h => hmethod h.2]
        exact .refl st
    · rw [if_neg fun h => he (Option.some.inj h.1)]
      have hadds := @adds_enter_of_ne service o r st e he
      cases htoken : e.guard.token? r.headers <;> rw [htoken] at hadds <;> exact hadds

/-- **The trace of a remote check.** -/
theorem adds_validateToken (token : String) : st.Adds (service.validateToken o token st).2
    (service.trace o st.revocations (.validateToken token)) := adds_verifyAt .rpc token

/-! ## The parts of a trace -/

/-- The identifier that a call looks up: that of the token it checks, if the token passes the local
checks. -/
def lookUp? (service : Service) (o : Occasion) (call : Call) : Option String :=
  call.check?.bind fun check =>
    (service.signer.decodeVerified o.wall.seconds check.2).toOption.map Claims.jti

/-- The put that a call makes. -/
def put? (service : Service) (o : Occasion) (call : Call) : Option (String × Nat) :=
  call.logout?.bind fun text => service.putOf? o (.logout text)

theorem logout?_of_check? {call : Call} {check : Surface × String} (h : call.check? = some check) :
    call.logout? = none := by
  cases call with
  | http r =>
    refine if_neg fun hlogout => ?_
    rw [Call.check?, hlogout.1] at h
    cases h
  | validateToken token => rfl
  | getUser id => rfl

theorem putTrace_eq (hlifetime : 0 < service.signer.lifetime) (text : String)
    (store : RevocationStore) : service.putTrace o text store =
      match service.putOf? o (.logout text) with
      | some (id, ttl) =>
        ⟨[.revocation (if store.fault.isNone then .revoked else .error)], [.put id ttl]⟩
      | none => {} := by
  rw [putTrace]
  cases ht : service.logoutTarget o.wall.seconds text with
  | error f => rw [putOf?, ht]
  | ok target =>
    have hpos := (bounds_of_logoutTarget hlifetime ht).1
    rw [putOf?_logout_eq_some_iff.2 ⟨target.2, ht, hpos, rfl⟩]

/-- What a call counts: the outcome of its check, and that of its put. -/
theorem counts_trace (hlifetime : 0 < service.signer.lifetime) (o : Occasion)
    (store : RevocationStore) (call : Call) : (service.trace o store call).counts =
      (call.check?.map fun (surface, token) =>
        Counter.verification surface (checkOutcome (service.verify o token store).1)).toList ++
      ((service.put? o call).map fun _ =>
        Counter.revocation (if store.fault.isNone then .revoked else .error)).toList := by
  rw [trace, put?]
  cases hcheck : call.check? with
  | some check =>
    rw [logout?_of_check? hcheck]
    rfl
  | none =>
    cases call.logout? with
    | none => rfl
    | some text =>
      simp only [putTrace_eq hlifetime, Option.bind_some]
      cases service.putOf? o (.logout text) <;> rfl

theorem calls_trace (hlifetime : 0 < service.signer.lifetime) (o : Occasion)
    (store : RevocationStore) (call : Call) : (service.trace o store call).calls =
      ((service.lookUp? o call).map StoreCall.contains).toList ++
        ((service.put? o call).map fun p => StoreCall.put p.1 p.2).toList := by
  rw [trace, lookUp?, put?]
  cases hcheck : call.check? with
  | some check =>
    obtain ⟨surface, token⟩ := check
    rw [logout?_of_check? hcheck]
    simp only [checkTrace, Option.bind_some]
    cases service.signer.decodeVerified o.wall.seconds token <;> rfl
  | none =>
    cases call.logout? with
    | none => rfl
    | some text =>
      simp only [putTrace_eq hlifetime, Option.bind_some]
      cases service.putOf? o (.logout text) <;> rfl

end Service

end Accounts

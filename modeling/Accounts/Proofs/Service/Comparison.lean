import Accounts.Proofs.Account.Comparison
import Accounts.Proofs.Http.Protection
import Accounts.Proofs.Service.Calls

/-!
# Two runs of the service side by side

Two states that differ as a comparison says get the same call on the same occasion. The answers are
equal, but where the faults of the two stores of users are told; and afterwards the states still
differ in this way only.

* `Answer`, `Service.answer`: the answer to a call;
* `Comparison.Revocations`, `Comparison.States`: two stores of revoked tokens, and two states, that
  differ as the comparison says;
* `Comparison.States.pass`: a guard decides alike, for it hides every fault;
* `Comparison.Steps`: two responses with the states after them; `Comparison.States.perform`: the
  work of an endpoint gives such;
* `Comparison.States.serve`, `Comparison.States.validateToken`, `Comparison.States.getUser`:
  requests and remote calls;
* **`Comparison.States.answer`**, **`Comparison.States.afterCall`**: every call, and the states
  after it.
-/

namespace Accounts

/-- An answer: a response over HTTP, or the reply to one of the two remote calls. -/
inductive Answer
  | http (response : Response)
  | validation (reply : Except RpcFault ValidationReply)
  | user (reply : Except RpcFault UserReply)

/-- The answer to a call. -/
def Service.answer (service : Service) (o : Occasion) (st : State) : Call → Answer
  | .http r => .http (service.serve o r st).1
  | .validateToken token => .validation (service.validateToken o token st).1
  | .getUser id => .user (Service.getUser id st.users)

/-- The answers to many calls, one after the other. -/
def Service.answers (service : Service) (st : State) : List (Occasion × Call) → List Answer
  | [] => []
  | c :: calls => service.answer c.1 st c.2 :: answers service (service.afterCall c.1 st c.2) calls

/-- A call is a login. -/
def Call.IsLogin : Call → Prop
  | .http r => Endpoint.ofPath? r.path = some .login ∧ r.method = "POST"
  | .validateToken _ => False
  | .getUser _ => False

namespace Comparison

open Outcome (Alike)

variable {c : Comparison}

/-! ## Stores of revoked tokens -/

/-- Two stores of revoked tokens that differ as the comparison says. -/
structure Revocations (c : Comparison) (s s' : RevocationStore) : Prop where
  table : s.table = s'.table
  fault : s.fault = c.revocationsFault
  fault' : s'.fault = c.revocationsFault'
  backend : s.backend = s'.backend
  calls : s.calls = s'.calls

/-- Of two outcomes the faults are of no account. -/
abbrev Hides {ε α : Type} (x x' : Except ε α) : Prop := Alike (fun _ _ => True) Eq x x'

theorem Hides.congr {ε α β : Type} {f : Except ε α → β} {x x' : Except ε α} (h : Hides x x')
    (hf : ∀ e e', f (.error e) = f (.error e')) : f x = f x' := by
  cases h with
  | error _ => exact hf _ _
  | ok heq => rw [heq]

namespace Revocations

variable {s s' : RevocationStore}

theorem called (h : c.Revocations s s') (call : StoreCall) :
    c.Revocations (s.called call) (s'.called call) :=
  ⟨h.table, h.fault, h.fault', h.backend, congrArg (· ++ [call]) h.calls⟩

theorem contains (h : c.Revocations s s') (now : Nat) (id : String) :
    Hides (s.contains now id).1 (s'.contains now id).1 ∧
      c.Revocations (s.contains now id).2 (s'.contains now id).2 := by
  refine ⟨?_, h.called _⟩
  rw [RevocationStore.contains, RevocationStore.contains, h.fault, h.fault', h.table]
  rcases cases_of_rel c.revocationsFaults with ⟨hf, hf'⟩ | ⟨f, f', hf, hf', -⟩
  · rw [hf, hf']
    exact .ok rfl
  · rw [hf, hf']
    exact .error trivial

theorem put (h : c.Revocations s s') (now : Nat) (id : String) (ttl : Nat) :
    Hides (s.put now id ttl).1 (s'.put now id ttl).1 ∧
      c.Revocations (s.put now id ttl).2 (s'.put now id ttl).2 := by
  have hcalled := h.called (.put id ttl)
  simp only [RevocationStore.put, hcalled.fault, hcalled.fault']
  rcases cases_of_rel c.revocationsFaults with ⟨hf, hf'⟩ | ⟨f, f', hf, hf', -⟩
  · rw [hf, hf']
    exact ⟨.ok rfl, congrArg (·.put now id ttl) hcalled.table, hf.symm, hf'.symm, hcalled.backend,
      hcalled.calls⟩
  · rw [hf, hf']
    exact ⟨.error trivial, hcalled⟩

end Revocations

/-! ## Outcomes of checks -/

theorem judge_hides (claims : Claims) {found found' : Except RevocationFault Bool}
    (h : Hides found found') : Hides (judge claims found) (judge claims found') := by
  cases h with
  | error _ => exact .error trivial
  | @ok revoked _ heq =>
    subst heq
    cases revoked <;> exact .ok rfl

theorem Revocations.verify {s s' : RevocationStore} (h : c.Revocations s s') (service : Service)
    (o : Occasion) (token : String) :
    Hides (service.verify o token s).1 (service.verify o token s').1 ∧
      c.Revocations (service.verify o token s).2 (service.verify o token s').2 := by
  cases hd : service.signer.decodeVerified o.wall.seconds token with
  | error reason =>
    rw [service.verify_of_reject hd, service.verify_of_reject hd]
    exact ⟨.ok rfl, h⟩
  | ok claims =>
    rw [service.verify_of_ok hd, service.verify_of_ok hd]
    exact (h.contains o.steady claims.jti).imp_left (judge_hides claims)

/-! ## States -/

/-- Two states that differ as the comparison says. -/
structure States (c : Comparison) (st st' : State) : Prop where
  users : c.Users st.users st'.users
  revocations : c.Revocations st.revocations st'.revocations
  metrics : st.metrics = st'.metrics

/-- Two responses are the same, or tell of the faults of the two stores of users. -/
def Responses (c : Comparison) (p p' : Response) : Prop :=
  p = p' ∨ ∃ f f', c.usersFault = some f ∧ c.usersFault' = some f' ∧
    p = (AccountFault.ofStore f).respond ∧ p' = (AccountFault.ofStore f').respond

/-- Two responses with the states after them. -/
structure Steps (c : Comparison) (p p' : Response × State) : Prop where
  response : c.Responses p.1 p'.1
  state : c.States p.2 p'.2

theorem WorkFaults.responses {a a' : AccountFault} (h : c.WorkFaults a a') :
    c.Responses a.respond a'.respond := by
  rcases h with rfl | ⟨f, f', hf, hf', rfl, rfl⟩
  · exact .inl rfl
  · exact .inr ⟨f, f', hf, hf', rfl, rfl⟩

/-- Two replies to a request are the same, or tell of the faults of the two stores of users. -/
def Replies (c : Comparison) (r : Request) (p p' : Response) : Prop :=
  p = p' ∨ ∃ e f f', Endpoint.ofPath? r.path = some e ∧
    c.usersFault = some f ∧ c.usersFault' = some f' ∧
    p = Service.dress r e (AccountFault.ofStore f).respond ∧
    p' = Service.dress r e (AccountFault.ofStore f').respond

/-- Two answers to a call are the same, or are replies that tell of the faults. -/
def Answers (c : Comparison) (call : Call) (a a' : Answer) : Prop :=
  a = a' ∨ ∃ r e f f', call = .http r ∧ Endpoint.ofPath? r.path = some e ∧
    c.usersFault = some f ∧ c.usersFault' = some f' ∧
    a = .http (Service.dress r e (AccountFault.ofStore f).respond) ∧
    a' = .http (Service.dress r e (AccountFault.ofStore f').respond)

theorem sameStatus_faults {f f' : UserStoreFault} (hf : c.usersFault = some f)
    (hf' : c.usersFault' = some f') : f.SameStatus f' := by
  have hfaults := c.usersFaults
  rw [hf, hf'] at hfaults
  cases hfaults with
  | some h => exact h

section Replies

variable {r : Request} {p p' : Response}

theorem Replies.status_eq (h : c.Replies r p p') : p.status = p'.status := by
  rcases h with rfl | ⟨e, f, f', -, hf, hf', rfl, rfl⟩
  · rfl
  · rw [Service.status_dress, Service.status_dress]
    exact sameStatus_faults hf hf'

theorem Replies.rejection_eq (h : c.Replies r p p') : p.rejection = p'.rejection := by
  rcases h with rfl | ⟨e, f, f', -, -, -, rfl, rfl⟩
  · rfl
  · rw [Service.rejection_dress, Service.rejection_dress]
    rfl

end Replies

theorem ofAccount_ofStore_eq {f f' : UserStoreFault} (h : f.SameStatus f') :
    RpcFault.ofAccount (.ofStore f) = RpcFault.ofAccount (.ofStore f') := by
  cases f <;> cases f' <;> first | rfl | cases h

theorem WorkFaults.told_eq {a a' : AccountFault} (h : c.WorkFaults a a') :
    RpcFault.ofAccount a = RpcFault.ofAccount a' := by
  rcases h with rfl | ⟨f, f', hf, hf', rfl, rfl⟩
  · rfl
  · exact ofAccount_ofStore_eq (sameStatus_faults hf hf')

theorem reply_eq {u v : User} (h : c.record u v) : UserReply.ofUser u = UserReply.ofUser v :=
  (congrArg UserReply.ofUser (c.unhashed_eq h) :)

namespace States

variable {st st' : State} {r : Request} {caller : Option Identity} {e : Endpoint}

theorem count (h : c.States st st') (n : Counter) : c.States (st.count n) (st'.count n) :=
  ⟨h.users, h.revocations, congrArg (·.count n) h.metrics⟩

theorem time (h : c.States st st') (t : Timing) :
    c.States { st with metrics := st.metrics.time t } { st' with metrics := st'.metrics.time t } :=
  ⟨h.users, h.revocations, congrArg (·.time t) h.metrics⟩

theorem withRevocations (h : c.States st st') {s s' : RevocationStore} (hs : c.Revocations s s') :
    c.States { st with revocations := s } { st' with revocations := s' } :=
  ⟨h.users, hs, h.metrics⟩

theorem withUsers (h : c.States st st') {s s' : UserStore} (hs : c.Users s s') :
    c.States { st with users := s } { st' with users := s' } :=
  ⟨hs, h.revocations, h.metrics⟩

theorem steps (h : c.States st st') (p : Response) : c.Steps (p, st) (p, st') := ⟨.inl rfl, h⟩

/-! ## Guards -/

variable (service : Service) (o : Occasion)

theorem verifyAt (h : c.States st st') (surface : Surface) (token : String) :
    Hides (service.verifyAt surface o token st).1 (service.verifyAt surface o token st').1 ∧
      c.States (service.verifyAt surface o token st).2
        (service.verifyAt surface o token st').2 := by
  obtain ⟨houtcome, hstores⟩ := h.revocations.verify service o token
  have hcounted : checkOutcome (service.verify o token st.revocations).1 =
      checkOutcome (service.verify o token st'.revocations).1 := houtcome.congr fun _ _ => rfl
  refine ⟨houtcome, ?_⟩
  simp only [Service.verifyAt, hcounted]
  exact (h.withRevocations hstores).count _

theorem authenticate (h : c.States st st') (hs : Headers) :
    (service.authenticate o hs st).1 = (service.authenticate o hs st').1 ∧
      c.States (service.authenticate o hs st).2 (service.authenticate o hs st').2 := by
  unfold Service.authenticate
  cases bearerToken hs with
  | error f => exact ⟨rfl, h⟩
  | ok token => exact (h.verifyAt service o .http token).imp_left fun hsame =>
      hsame.congr (f := callerOf) fun _ _ => rfl

/-- **A guard decides alike.** -/
theorem pass (h : c.States st st') (g : Guard) (hs : Headers) :
    (g.pass service o hs st).1 = (g.pass service o hs st').1 ∧
      c.States (g.pass service o hs st).2 (g.pass service o hs st').2 := by
  have hcaller := h.authenticate service o hs
  cases g with
  | «open» => exact ⟨rfl, h⟩
  | signedIn => exact hcaller.imp_left (congrArg (Except.map some))
  | roles gate => exact hcaller.imp_left fun heq => by simp only [Guard.pass, heq]

/-! ## The work of an endpoint -/

theorem revoke (h : c.States st st') (id : String) (ttl : Int) :
    Hides (st.revoke o id ttl).1 (st'.revoke o id ttl).1 ∧
      c.States (st.revoke o id ttl).2 (st'.revoke o id ttl).2 := by
  unfold State.revoke
  split
  · exact ⟨.ok rfl, h.count _⟩
  · obtain ⟨hdone, hstores⟩ := h.revocations.put o.steady id ttl.toNat
    generalize st.revocations.put o.steady id ttl.toNat = a at hdone hstores ⊢
    generalize st'.revocations.put o.steady id ttl.toNat = a' at hdone hstores ⊢
    obtain ⟨done, store⟩ := a
    obtain ⟨done', store'⟩ := a'
    cases hdone with
    | ok _ => exact ⟨.ok rfl, (h.withRevocations hstores).count _⟩
    | error _ => exact ⟨.error trivial, (h.withRevocations hstores).count _⟩

theorem logout (h : c.States st st') (authorization : String) :
    Alike (fun f f' => f.respond = f'.respond) Eq (service.logout o authorization st).1
        (service.logout o authorization st').1 ∧
      c.States (service.logout o authorization st).2 (service.logout o authorization st').2 := by
  unfold Service.logout
  cases service.logoutTarget o.wall.seconds authorization with
  | error f => exact ⟨.error rfl, h⟩
  | ok target =>
    obtain ⟨hdone, hstates⟩ := h.revoke o target.1 (nanosPerSecond * target.2 : Nat)
    exact ⟨hdone.mapError fun _ _ _ => rfl, hstates⟩

theorem performLogout (h : c.States st st') :
    c.Steps (service.performLogout o r st) (service.performLogout o r st') := by
  unfold Service.performLogout
  split
  · exact h.steps _
  · split
    · exact h.steps _
    · next text _ =>
      obtain ⟨hdone, hstates⟩ := h.logout service o text
      generalize service.logout o text st = a at hdone hstates ⊢
      generalize service.logout o text st' = a' at hdone hstates ⊢
      obtain ⟨outcome, after⟩ := a
      obtain ⟨outcome', after'⟩ := a'
      cases hdone with
      | ok _ => exact hstates.steps _
      | error heq => exact ⟨.inl heq, hstates⟩

theorem settleUsers (h : c.States st st') {α : Type} {A : α → α → Prop}
    {x x' : Except AccountFault (α × UserStore)}
    (hx : Alike c.WorkFaults (fun p p' => A p.1 p'.1 ∧ c.Users p.2 p'.2) x x')
    {respond : α → Response} (hrespond : ∀ a a', A a a' → respond a = respond a') :
    c.Steps (Accounts.settleUsers st respond x) (Accounts.settleUsers st' respond x') := by
  cases hx with
  | error hf => exact ⟨hf.responses, h⟩
  | ok hp => exact ⟨.inl (hrespond _ _ hp.1), h.withUsers hp.2⟩

theorem answered (h : c.States st st') {α : Type} {A : α → α → Prop} {x x' : Except AccountFault α}
    (hx : Alike c.WorkFaults A x x') {respond : α → Response}
    (hrespond : ∀ a a', A a a' → respond a = respond a') :
    c.Steps (Accounts.answered respond x, st) (Accounts.answered respond x', st') := by
  cases hx with
  | error hf => exact ⟨hf.responses, h⟩
  | ok ha => exact ⟨.inl (hrespond _ _ ha), h⟩

theorem userFound_eq (message : String) {u v : User} (huv : c.record u v) :
    userFound message u = userFound message v := by
  rw [userFound, userFound, json_eq huv]

theorem usersFound_eq (message : String) {us vs : List User}
    (h : us.map User.unhashed = vs.map User.unhashed) :
    usersFound message us = usersFound message vs := by
  have hjson (us : List User) : us.map User.json = (us.map User.unhashed).map User.json := by
    rw [List.map_map]
    rfl
  rw [usersFound, usersFound, hjson us, hjson vs, h]

theorem healthReport_eq (h : c.States st st') :
    service.healthReport o.wall st = service.healthReport o.wall st' := by
  have husers : st.users.isHealthy = st'.users.isHealthy := by
    rw [UserStore.isHealthy, UserStore.isHealthy, h.users.fault, h.users.fault']
    rcases cases_of_rel c.usersFaults with ⟨hf, hf'⟩ | ⟨f, f', hf, hf', -⟩ <;> rw [hf, hf']
    rfl
  have hrevocations : st.revocations.isHealthy = st'.revocations.isHealthy := by
    rw [RevocationStore.isHealthy, RevocationStore.isHealthy, h.revocations.fault,
      h.revocations.fault']
    rcases cases_of_rel c.revocationsFaults with ⟨hf, hf'⟩ | ⟨f, f', hf, hf', -⟩ <;> rw [hf, hf']
    rfl
  rw [Service.healthReport, Service.healthReport, husers, hrevocations, h.users.backend,
    h.revocations.backend]

/-- **The work of an endpoint** gives the same response or tells of the faults, and leaves two
states that differ no more; for a login the records must not differ. -/
theorem perform (h : c.States st st') (hlogin : e = .login → ∀ u v, c.record u v → u = v) :
    c.Steps (service.perform o r caller st e) (service.perform o r caller st' e) := by
  cases e with
  | live => exact h.steps _
  | ready => exact ⟨.inl (h.healthReport_eq service o), h⟩
  | register =>
    simp only [Service.perform, Service.performRegister]
    split
    · exact h.steps _
    · exact h.settleUsers (h.users.register _) fun u v huv => by rw [json_eq huv]
  | login =>
    simp only [Service.perform, Service.performLogin]
    split
    · exact h.steps _
    · exact h.answered (h.users.login (hlogin rfl) _) fun _ _ heq => by rw [heq]
  | logout => exact h.performLogout service o
  | profile =>
    cases caller with
    | none => exact h.steps _
    | some i => exact h.answered (h.users.profile i) fun _ _ => userFound_eq _
  | update =>
    cases caller with
    | none => exact h.steps _
    | some i =>
      simp only [Service.perform, Service.performUpdate]
      split
      · exact h.steps _
      · exact h.settleUsers (h.users.change i _) fun _ _ => userFound_eq _
  | delete written =>
    simp only [Service.perform]
    split
    · exact h.steps _
    · next id _ =>
      have hremoved : Alike c.WorkFaults (fun p p' => p.1 = p'.1 ∧ c.Users p.2 p'.2)
          ((Service.remove id st.users).map ((), ·)) ((Service.remove id st'.users).map ((), ·)) :=
        (h.users.remove id).map fun _ _ hs => ⟨rfl, hs⟩
      exact h.settleUsers hremoved fun _ _ _ => rfl
  | list => exact h.answered h.users.everyone fun _ _ => usersFound_eq _
  | lookUp written =>
    simp only [Service.perform]
    split
    · exact h.steps _
    · exact h.answered (h.users.lookUp _) fun _ _ => userFound_eq _

/-! ## Requests -/

theorem enter (h : c.States st st')
    (hlogin : e = .login → r.method = "POST" → ∀ u v, c.record u v → u = v) :
    c.Steps (service.enter o r e st) (service.enter o r e st') := by
  obtain ⟨hcaller, hstates⟩ := h.pass service o e.guard r.headers
  cases hp : (e.guard.pass service o r.headers st).1 with
  | error f =>
    rw [Service.enter_of_fault hp, Service.enter_of_fault (hcaller.symm.trans hp)]
    exact hstates.steps _
  | ok caller =>
    rw [Service.enter_of_caller hp, Service.enter_of_caller (hcaller.symm.trans hp)]
    split
    · next haccepts =>
      refine hstates.perform service o fun he => hlogin he ?_
      subst he
      simpa [Endpoint.accepts, Endpoint.method] using haccepts
    · exact hstates.steps _

theorem route (h : c.States st st') (hlogin : (Call.http r).IsLogin → ∀ u v, c.record u v → u = v) :
    c.Replies r (service.route o r st).1 (service.route o r st').1 ∧
      c.States (service.route o r st).2 (service.route o r st').2 := by
  cases hpath : Endpoint.ofPath? r.path with
  | none =>
    rw [Service.route, Service.route, hpath]
    exact ⟨.inl rfl, h⟩
  | some e =>
    rw [Service.route_of_endpoint hpath, Service.route_of_endpoint hpath]
    have henter : c.Steps (service.enter o r e st) (service.enter o r e st') :=
      h.enter service o fun he hmethod => hlogin ⟨he ▸ hpath, hmethod⟩
    refine ⟨?_, henter.state⟩
    rcases henter.response with heq | ⟨f, f', hf, hf', hp, hp'⟩
    · exact .inl (congrArg (Service.dress r e) heq)
    · exact .inr ⟨e, f, f', hpath, hf, hf', congrArg (Service.dress r e) hp,
        congrArg (Service.dress r e) hp'⟩

/-- **A request** gets the same response, or one that tells of the faults; what is counted of it is
the same. -/
theorem serve (h : c.States st st') (hlogin : (Call.http r).IsLogin → ∀ u v, c.record u v → u = v) :
    c.Replies r (service.serve o r st).1 (service.serve o r st').1 ∧
      c.States (service.serve o r st).2 (service.serve o r st').2 := by
  obtain ⟨hreply, hstates⟩ :=
    (h.count (.request r.method (pathLabel r.path))).route service o hlogin
  refine ⟨by rwa [Service.fst_serve, Service.fst_serve], ?_⟩
  simp only [Service.serve]
  generalize service.route o r (st.count _) = a at hreply hstates ⊢
  generalize service.route o r (st'.count _) = a' at hreply hstates ⊢
  have htimed := (hstates.count (.response r.method (pathLabel r.path) a.1.status)).time
    ⟨r.method, pathLabel r.path, 0⟩
  rw [← hreply.status_eq, ← hreply.rejection_eq]
  cases a.1.rejection with
  | none => exact htimed
  | some code => exact htimed.count _

/-! ## Remote calls -/

theorem validateToken (h : c.States st st') (token : String) :
    (service.validateToken o token st).1 = (service.validateToken o token st').1 ∧
      c.States (service.validateToken o token st).2 (service.validateToken o token st').2 :=
  (h.verifyAt service o .rpc token).imp_left fun hsame =>
    hsame.congr (f := validationAnswer) fun _ _ => rfl

theorem getUser (h : c.States st st') (id : String) :
    Service.getUser id st.users = Service.getUser id st'.users := by
  unfold Service.getUser
  split
  · rfl
  · have hfound := (h.users.lookUp id).mapError fun _ _ => WorkFaults.told_eq
    generalize (Service.lookUp id st.users).mapError RpcFault.ofAccount = x at hfound ⊢
    generalize (Service.lookUp id st'.users).mapError RpcFault.ofAccount = x' at hfound ⊢
    cases hfound with
    | error heq => rw [heq]
    | ok huv => exact congrArg Except.ok (reply_eq huv)

/-! ## Calls -/

variable {call : Call}

/-- **Every call is answered alike**, but where a response tells of the faults. -/
theorem answer (h : c.States st st') (hlogin : call.IsLogin → ∀ u v, c.record u v → u = v) :
    c.Answers call (service.answer o st call) (service.answer o st' call) := by
  cases call with
  | http r =>
    rcases (h.serve service o hlogin).1 with heq | ⟨e, f, f', hpath, hf, hf', hp, hp'⟩
    · exact .inl (congrArg Answer.http heq)
    · exact .inr ⟨r, e, f, f', rfl, hpath, hf, hf', congrArg Answer.http hp,
        congrArg Answer.http hp'⟩
  | validateToken token =>
    exact .inl (congrArg Answer.validation (h.validateToken service o token).1)
  | getUser id => exact .inl (congrArg Answer.user (h.getUser id))

/-- **The states differ no more after a call.** -/
theorem afterCall (h : c.States st st') (hlogin : call.IsLogin → ∀ u v, c.record u v → u = v) :
    c.States (service.afterCall o st call) (service.afterCall o st' call) := by
  cases call with
  | http r => exact (h.serve service o hlogin).2
  | validateToken token => exact (h.validateToken service o token).2
  | getUser id => exact h

end States

end Comparison

end Accounts

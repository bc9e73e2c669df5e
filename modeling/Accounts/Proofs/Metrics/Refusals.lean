import Accounts.Proofs.Http.Protection
import Accounts.Proofs.Metrics.Trace

/-!
# Refusals by the gate and at a logout

Two kinds of faults make a response that is marked with their code: those of the gate and those of a
logout. Such a response is a refusal, and no other response has a mark.

* `Refusal`: a fault of either kind, with its code, status and response;
* **`Refusal.errorCode?_respond`**: its code is the one in the body;
* `Service.refusal?`: why a call is refused, if it is;
* **`Service.serve_cases`**: a request is refused with the response of its refusal, or has a response
  without a mark.
-/

namespace Accounts

open Json Record

/-- Why a request is refused: by the gate, or because its logout fails. -/
inductive Refusal
  | gate (f : AuthFault)
  | logout (f : LogoutFault)

namespace Refusal

/-- The code of a refusal. -/
def code : Refusal → String
  | .gate f => f.code
  | .logout f => f.code

/-- The status of a refusal. -/
def status : Refusal → Nat
  | .gate f => f.status
  | .logout f => f.status

/-- The response of a refusal. -/
def respond : Refusal → Response
  | .gate f => f.respond
  | .logout f => f.respond

theorem status_respond (x : Refusal) : x.respond.status = x.status := by
  cases x <;> rfl

theorem rejection_respond (x : Refusal) : x.respond.rejection = some x.code := by
  cases x <;> rfl

end Refusal

/-- The code in the body of an error. -/
def Response.errorCode? (p : Response) : Option String :=
  ((Document.ofText p.body).read ApiError.read).toOption.map ApiError.code

theorem ApiError.read_json (code message : String) :
    ApiError.read (ApiError.mk code message none).json.node = .ok ⟨code, message, none⟩ := rfl

theorem ApiError.errorCode?_respond (code message : String) (status : Nat) :
    ((ApiError.mk code message none).respond status).errorCode? = some code := by
  have hexact : IsExact (ApiError.mk code message none).json := ⟨trivial, trivial, trivial⟩
  have hread : (Document.ofText (ApiError.mk code message none).json.text).read ApiError.read =
      .ok ⟨code, message, none⟩ := by
    rw [Document.ofText_text hexact]
    exact Document.read_eq_ok_iff.2 ⟨ApiError.read_json code message, rfl⟩
  exact congrArg (fun x : Reading ApiError => x.toOption.map ApiError.code) hread

/-- **The code of a refusal is the one in its body.** -/
theorem Refusal.errorCode?_respond (x : Refusal) : x.respond.errorCode? = some x.code := by
  cases x with
  | gate f => exact ApiError.errorCode?_respond f.code f.message f.status
  | logout f => exact ApiError.errorCode?_respond f.code f.message f.status

namespace Service

variable (service : Service)

/-- Why a request to log out is refused. -/
def logoutRefusal? (o : Occasion) (r : Request) (st : State) : Option Refusal :=
  match r.headers.first? "authorization" with
  | none => some (.gate .missingToken)
  | some value =>
    match headerText? value with
    | none => some (.logout .invalidFormat)
    | some text =>
      match (service.logout o text st).1 with
      | .ok _ => none
      | .error f => some (.logout f)

/-- Why a call is refused, if it is: the guard of its endpoint refuses it, or its logout fails. -/
def refusal? (o : Occasion) (st : State) : Call → Option Refusal
  | .http r =>
    match Endpoint.ofPath? r.path with
    | none => none
    | some e =>
      match (e.guard.pass service o r.headers st).1 with
      | .error f => some (.gate f)
      | .ok _ => if e = .logout ∧ r.method = "POST" then service.logoutRefusal? o r st else none
  | .validateToken _ | .getUser _ => none

variable {service} {o : Occasion} {r : Request} {st : State} {e : Endpoint}

/-! ## The work of an endpoint -/

theorem rejection_answered {α : Type} {respond : α → Response} {x : Except AccountFault α}
    (h : ∀ a, (respond a).rejection = none) : (answered respond x).rejection = none := by
  cases x with
  | error f => rfl
  | ok a => exact h a

theorem rejection_settleUsers {α : Type} {respond : α → Response}
    {x : Except AccountFault (α × UserStore)} (h : ∀ a, (respond a).rejection = none) :
    (settleUsers st respond x).1.rejection = none := by
  cases x with
  | error f => rfl
  | ok p => exact h p.1

theorem rejection_perform_of_ne {caller : Option Identity} (he : e ≠ .logout)
    (hcaller : e.IsProtected → caller ≠ none) :
    (service.perform o r caller st e).1.rejection = none := by
  cases e with
  | logout => exact absurd rfl he
  | register =>
    simp only [perform, performRegister]
    split
    · rfl
    · exact rejection_settleUsers fun _ => rfl
  | login =>
    simp only [perform, performLogin]
    split
    · rfl
    · exact rejection_answered fun _ => rfl
  | update =>
    cases caller with
    | none => exact absurd rfl (hcaller trivial)
    | some i =>
      simp only [perform, performUpdate]
      split
      · rfl
      · exact rejection_settleUsers fun _ => rfl
  | delete written =>
    simp only [perform]
    split
    · rfl
    · exact rejection_settleUsers fun _ => rfl
  | lookUp written =>
    simp only [perform]
    split
    · rfl
    · dsimp only
      exact rejection_answered fun _ => rfl
  | profile =>
    cases caller with
    | none => exact absurd rfl (hcaller trivial)
    | some i => exact rejection_answered fun _ => rfl
  | list => exact rejection_answered fun _ => rfl
  | live => rfl
  | ready => rfl

theorem performLogout_cases :
    (service.logoutRefusal? o r st = none ∧ (service.performLogout o r st).1.rejection = none) ∨
      ∃ x, service.logoutRefusal? o r st = some x ∧ (service.performLogout o r st).1 = x.respond := by
  unfold logoutRefusal? performLogout
  cases r.headers.first? "authorization" with
  | none => exact .inr ⟨.gate .missingToken, rfl, rfl⟩
  | some value =>
    simp only
    cases headerText? value with
    | none => exact .inr ⟨.logout .invalidFormat, rfl, rfl⟩
    | some text =>
      simp only
      rcases service.logout o text st with ⟨f | u, after⟩
      · exact .inr ⟨.logout f, rfl, rfl⟩
      · exact .inl ⟨rfl, rfl⟩

/-! ## Requests -/

/-- A request is refused with the response of its refusal, or has a response without a mark. -/
theorem route_cases (service : Service) (o : Occasion) (r : Request) (st : State) :
    (service.refusal? o st (.http r) = none ∧ (service.route o r st).1.rejection = none) ∨
      ∃ x e, service.refusal? o st (.http r) = some x ∧ Endpoint.ofPath? r.path = some e ∧
        (service.route o r st).1 = dress r e x.respond := by
  rw [refusal?]
  cases hpath : Endpoint.ofPath? r.path with
  | none =>
    rw [route, hpath]
    exact .inl ⟨rfl, rfl⟩
  | some e =>
    rw [route_of_endpoint hpath]
    simp only [rejection_dress]
    cases hp : (e.guard.pass service o r.headers st).1 with
    | error f =>
      rw [enter_of_fault hp]
      exact .inr ⟨.gate f, e, rfl, rfl, rfl⟩
    | ok caller =>
      by_cases he : e = .logout
      · subst he
        rw [enter_logout]
        by_cases hmethod : r.method = "POST"
        · simp only [hmethod, and_self, if_true]
          obtain ⟨hnone, hmark⟩ | ⟨x, hx, hresponse⟩ := @performLogout_cases service o r st
          · exact .inl ⟨hnone, hmark⟩
          · exact .inr ⟨x, .logout, hx, rfl, congrArg (dress r .logout) hresponse⟩
        · simp only [hmethod, and_false, if_false]
          exact .inl ⟨trivial, rfl⟩
      · refine .inl ⟨if_neg fun h => he h.1, ?_⟩
        rw [enter_of_caller hp]
        split
        · refine rejection_perform_of_ne he fun hprotected => ?_
          obtain ⟨i, -, -, rfl⟩ := (Endpoint.pass_guard_eq_ok_iff hprotected).1 hp
          exact Option.some_ne_none i
        · rfl

/-! ## Counted requests

Whether a request is refused depends on the store of revoked tokens, and not on what was counted. -/

theorem fst_pass_count (g : Guard) (hs : Headers) (c : Counter) :
    (g.pass service o hs (st.count c)).1 = (g.pass service o hs st).1 := by
  have hgate : (service.authenticate o hs (st.count c)).1 = (service.authenticate o hs st).1 := by
    unfold authenticate
    cases bearerToken hs <;> rfl
  cases g with
  | «open» => rfl
  | signedIn => exact congrArg (Except.map some) hgate
  | roles gate => simp only [Guard.pass, hgate]

theorem fst_logout_count (text : String) (c : Counter) :
    (service.logout o text (st.count c)).1 = (service.logout o text st).1 := by
  unfold logout
  cases service.logoutTarget o.wall.seconds text with
  | error f => rfl
  | ok target =>
    simp only [State.revoke]
    split <;> rfl

theorem refusal?_count (call : Call) (c : Counter) :
    service.refusal? o (st.count c) call = service.refusal? o st call := by
  cases call with
  | http r => simp only [refusal?, logoutRefusal?, fst_pass_count, fst_logout_count]
  | validateToken token => rfl
  | getUser id => rfl

/-- **A request is refused with the response of its refusal, or has a response without a mark.** -/
theorem serve_cases (service : Service) (o : Occasion) (r : Request) (st : State) :
    (service.refusal? o st (.http r) = none ∧ (service.serve o r st).1.rejection = none) ∨
      ∃ x e, service.refusal? o st (.http r) = some x ∧ Endpoint.ofPath? r.path = some e ∧
        (service.serve o r st).1 = dress r e x.respond := by
  have h := service.route_cases o r (st.count (.request r.method (pathLabel r.path)))
  rw [refusal?_count, ← fst_serve] at h
  exact h

end Service

end Accounts

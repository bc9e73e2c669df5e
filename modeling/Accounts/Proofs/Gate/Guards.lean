import Accounts.Http.Endpoint
import Accounts.Proofs.Gate.Agreement

/-!
# What guards ask for

A guard looks at the headers, the time and the store of revoked tokens, and at nothing else.

* `Service.Shows`: the first authorization header presents a token that is valid now;
* **`Service.authenticate_eq_ok_iff`**: the gate by token lets in exactly the bearers of such tokens;
* `Endpoint.IsProtected`, `Endpoint.Entitles`: which endpoints are for bearers, and for which;
* **`Endpoint.pass_guard_eq_ok_iff`**: who passes the guard of a protected endpoint is entitled;
* `Guard.pass_users`, `Guard.sameStores_pass`: a guard does not look at the store of users, and both
  stores hold afterwards what they held.
-/

namespace Accounts

/-- The stores hold what they held; that of revoked tokens may have been asked. -/
structure State.SameStores (before after : State) : Prop where
  users : after.users = before.users
  revocations : ∃ calls, after.revocations = { before.revocations with calls := calls }

theorem State.SameStores.refl (st : State) : st.SameStores st := ⟨rfl, _, rfl⟩

theorem State.SameStores.trans {st₁ st₂ st₃ : State} (h₁₂ : st₁.SameStores st₂)
    (h₂₃ : st₂.SameStores st₃) : st₁.SameStores st₃ := by
  obtain ⟨calls, hcalls⟩ := h₁₂.revocations
  obtain ⟨calls', hcalls'⟩ := h₂₃.revocations
  exact ⟨h₂₃.users.trans h₁₂.users, calls', by rw [hcalls', hcalls]⟩

namespace Service

variable (service : Service)

/-- The first authorization header presents a token that is valid now, and `i` is its bearer. -/
def Shows (o : Occasion) (hs : Headers) (store : RevocationStore) (i : Identity) : Prop :=
  ∃ t, hs.first? "authorization" = some (Utf8.encode (bearer t)) ∧
    (service.verify o t store).1 = .ok (.valid i)

variable {service} {o : Occasion} {hs : Headers} {st : State} {i : Identity}

theorem decodeVerified_of_verify {token : String} {store : RevocationStore}
    (hv : (service.verify o token store).1 = .ok (.valid i)) :
    ∃ c, service.signer.decodeVerified o.wall.seconds token = .ok c ∧ i = c.identity := by
  cases hd : service.signer.decodeVerified o.wall.seconds token with
  | error r =>
    rw [service.verify_of_reject hd] at hv
    cases hv
  | ok c =>
    rw [service.verify_of_ok hd] at hv
    exact ⟨c, rfl, (judge_eq_valid hv).2⟩

/-- **The gate by token lets in exactly the bearers of valid tokens.** -/
theorem authenticate_eq_ok_iff :
    (service.authenticate o hs st).1 = .ok i ↔ service.Shows o hs st.revocations i := by
  constructor
  · intro ha
    cases hb : bearerToken hs with
    | error f =>
      rw [service.authenticate_of_fault hb] at ha
      cases ha
    | ok t =>
      rw [service.authenticate_of_token hb, callerOf_eq_ok_iff] at ha
      exact ⟨t, (bearerToken_eq_ok_iff.1 hb).1, ha⟩
  · rintro ⟨t, hheader, hv⟩
    obtain ⟨c, hd, -⟩ := decodeVerified_of_verify hv
    have hb := bearerToken_eq_ok_iff.2 ⟨hheader, presentable_of_decodeVerified hd⟩
    rw [service.authenticate_of_token hb, callerOf_eq_ok_iff, hv]

theorem Shows.unique {store : RevocationStore} {j : Identity}
    (hi : service.Shows o hs store i) (hj : service.Shows o hs store j) : i = j := by
  have hai : (service.authenticate o hs { revocations := store }).1 = .ok i :=
    authenticate_eq_ok_iff.2 hi
  rw [authenticate_eq_ok_iff.2 hj] at hai
  cases hai
  rfl

theorem authenticate_users (users : UserStore) :
    service.authenticate o hs { st with users := users } =
      ((service.authenticate o hs st).1, { (service.authenticate o hs st).2 with users := users }) := by
  unfold authenticate
  cases bearerToken hs <;> rfl

theorem sameStores_verifyAt (surface : Surface) (token : String) :
    st.SameStores (service.verifyAt surface o token st).2 := by
  refine ⟨rfl, ?_⟩
  change ∃ calls, (service.verify o token st.revocations).2 = { st.revocations with calls := calls }
  cases hd : service.signer.decodeVerified o.wall.seconds token with
  | error r =>
    rw [service.verify_of_reject hd]
    exact ⟨_, rfl⟩
  | ok c =>
    rw [service.verify_of_ok hd]
    exact ⟨_, rfl⟩

theorem sameStores_authenticate : st.SameStores (service.authenticate o hs st).2 := by
  unfold authenticate
  cases bearerToken hs with
  | error f => exact ⟨rfl, _, rfl⟩
  | ok t => exact sameStores_verifyAt .http t

end Service

/-! ## Guards -/

namespace Guard

variable {service : Service} {o : Occasion} {hs : Headers} {st : State}

theorem pass_users (g : Guard) (users : UserStore) :
    g.pass service o hs { st with users := users } =
      ((g.pass service o hs st).1, { (g.pass service o hs st).2 with users := users }) := by
  cases g with
  | «open» => rfl
  | signedIn => simp only [pass, Service.authenticate_users]
  | roles gate => simp only [pass, Service.authenticate_users]

theorem sameStores_pass (g : Guard) : st.SameStores (g.pass service o hs st).2 := by
  cases g with
  | «open» => exact ⟨rfl, _, rfl⟩
  | signedIn => exact Service.sameStores_authenticate
  | roles gate => exact Service.sameStores_authenticate

theorem pass_signedIn_eq_ok_iff {caller : Option Identity} :
    (signedIn.pass service o hs st).1 = .ok caller ↔
      ∃ i, service.Shows o hs st.revocations i ∧ some i = caller := by
  simp only [pass, Outcome.map_eq_ok_iff, Service.authenticate_eq_ok_iff]

theorem pass_roles_eq_ok_iff {gate : RoleGate} {caller : Option Identity} :
    ((roles gate).pass service o hs st).1 = .ok caller ↔
      ∃ i, service.Shows o hs st.revocations i ∧ i.role ∈ gate.allowed ∧ some i = caller := by
  constructor
  · intro h
    obtain ⟨i, hi, h⟩ := Outcome.bind_eq_ok_iff.1 h
    obtain ⟨⟨⟩, hgate, h⟩ := Outcome.bind_eq_ok_iff.1 h
    obtain ⟨j, hj, hrole⟩ := (RoleGate.check_eq_ok_iff _ _).1 hgate
    cases hj
    cases h
    exact ⟨i, Service.authenticate_eq_ok_iff.1 hi, hrole, rfl⟩
  · rintro ⟨i, hi, hrole, rfl⟩
    refine Outcome.bind_eq_ok_iff.2 ⟨i, Service.authenticate_eq_ok_iff.2 hi, ?_⟩
    exact Outcome.bind_eq_ok_iff.2 ⟨(), (RoleGate.check_eq_ok_iff _ _).2 ⟨i, rfl, hrole⟩, rfl⟩

end Guard

/-! ## Protected endpoints -/

namespace Endpoint

/-- The endpoints that only the bearer of a token may use. -/
def IsProtected : Endpoint → Prop
  | .profile | .update | .delete _ | .list | .lookUp _ => True
  | .live | .ready | .register | .login | .logout => False

/-- Whom an endpoint serves: looking at other accounts is for administrators. -/
def Entitles (i : Identity) : Endpoint → Prop
  | .list | .lookUp _ => i.role = .admin
  | _ => True

variable {service : Service} {o : Occasion} {hs : Headers} {st : State} {e : Endpoint}

/-- **Who passes the guard of a protected endpoint shows a valid token and is entitled.** -/
theorem pass_guard_eq_ok_iff (he : e.IsProtected) {caller : Option Identity} :
    (e.guard.pass service o hs st).1 = .ok caller ↔
      ∃ i, service.Shows o hs st.revocations i ∧ e.Entitles i ∧ some i = caller := by
  have hsigned : (Guard.signedIn.pass service o hs st).1 = .ok caller ↔
      ∃ i, service.Shows o hs st.revocations i ∧ True ∧ some i = caller := by
    simp only [Guard.pass_signedIn_eq_ok_iff, true_and]
  have hadmin : ((Guard.roles .adminOnly).pass service o hs st).1 = .ok caller ↔
      ∃ i, service.Shows o hs st.revocations i ∧ i.role = .admin ∧ some i = caller := by
    simp only [Guard.pass_roles_eq_ok_iff, RoleGate.adminOnly, List.mem_singleton]
  cases e with
  | profile => exact hsigned
  | update => exact hsigned
  | delete id => exact hsigned
  | list => exact hadmin
  | lookUp id => exact hadmin
  | live => exact he.elim
  | ready => exact he.elim
  | register => exact he.elim
  | login => exact he.elim
  | logout => exact he.elim

end Endpoint

end Accounts

import Accounts.Proofs.Account.Privilege
import Accounts.Proofs.Service.Comparison

/-!
# Password hashes stay inside

Only a login looks at a stored hash. Two states that differ in nothing but their hashes answer every
other call alike, make the same calls to the store of revoked tokens, and differ in nothing else
afterwards.

* `State.unhashed`: a state without its password hashes;
* `Comparison.hashes`: the comparison of two states that are equal without them;
* `Service.run_of_unhashed_eq`: a run of calls;
* **`Service.hashes_stay_inside`**: one call, and a run.
-/

namespace Accounts

/-- A store of users without their password hashes. -/
def UserStore.unhashed (s : UserStore) : UserStore :=
  { s with table := ⟨s.table.users.map User.unhashed⟩ }

/-- A state without its password hashes. -/
def State.unhashed (st : State) : State := { st with users := st.users.unhashed }

theorem User.unhashed_updated {u v : User} (h : u.unhashed = v.unhashed) (change : UserUpdate)
    (now : Timestamp) : (u.updated change now).unhashed = (v.updated change now).unhashed := by
  have hkept (w : User) : (w.updated change now).unhashed =
      { w.unhashed.updated change now with passwordHash := "" } := rfl
  rw [hkept, hkept, h]

namespace Comparison

/-- Two states that are equal without their hashes: their stores have the same faults. -/
def hashes (usersFault : Option UserStoreFault) (revocationsFault : Option RevocationFault) :
    Comparison where
  record u v := u.unhashed = v.unhashed
  usersFault := usersFault
  usersFault' := usersFault
  revocationsFault := revocationsFault
  revocationsFault' := revocationsFault
  record_refl _ := rfl
  unhashed_eq := id
  record_updated := User.unhashed_updated
  usersFaults := rel_self (R := UserStoreFault.SameStatus) (fun _ => rfl) usersFault
  revocationsFaults := rel_self (fun _ => trivial) revocationsFault

variable {st st' : State}

theorem states_of_unhashed_eq (h : st.unhashed = st'.unhashed) :
    (hashes st.users.fault st.revocations.fault).States st st' := by
  have hmap : st.users.table.users.map User.unhashed = st'.users.table.users.map User.unhashed :=
    congrArg (fun s : State => s.users.table.users) h
  have hrevocations : st.revocations = st'.revocations := (congrArg State.revocations h :)
  rw [← List.forall₂_eq_eq_eq, List.forall₂_map_left_iff, List.forall₂_map_right_iff] at hmap
  exact {
    users := {
      table := hmap
      fault := rfl
      fault' := (congrArg (fun s : State => s.users.fault) h).symm
      backend := (congrArg (fun s : State => s.users.backend) h :) }
    revocations := {
      table := congrArg RevocationStore.table hrevocations
      fault := rfl
      fault' := (congrArg RevocationStore.fault hrevocations).symm
      backend := congrArg RevocationStore.backend hrevocations
      calls := congrArg RevocationStore.calls hrevocations }
    metrics := (congrArg State.metrics h :) }

theorem Revocations.eq_of_fault {c : Comparison} {s s' : RevocationStore} (h : c.Revocations s s')
    (hfault : c.revocationsFault = c.revocationsFault') : s = s' := by
  have hfaults : s.fault = s'.fault := h.fault.trans (hfault.trans h.fault'.symm)
  cases s
  cases s'
  rw [RevocationStore.mk.injEq]
  exact ⟨h.table, hfaults, h.backend, h.calls⟩

theorem Users.unhashed_eq {c : Comparison} {s s' : UserStore} (h : c.Users s s')
    (hfault : c.usersFault = c.usersFault') : s.unhashed = s'.unhashed := by
  have hfaults : s.fault = s'.fault := h.fault.trans (hfault.trans h.fault'.symm)
  rw [UserStore.unhashed, UserStore.unhashed, UserStore.mk.injEq, UserTable.mk.injEq]
  exact ⟨map_unhashed_eq h.table, hfaults, h.backend⟩

theorem unhashed_eq_of_states {x : Option UserStoreFault} {y : Option RevocationFault}
    (h : (hashes x y).States st st') : st.unhashed = st'.unhashed := by
  rw [State.unhashed, State.unhashed, h.users.unhashed_eq rfl, h.revocations.eq_of_fault rfl,
    h.metrics]

end Comparison

namespace Service

variable (service : Service) {st st' : State}

theorem answer_eq_of_unhashed_eq (h : st.unhashed = st'.unhashed) {call : Call}
    (hcall : ¬ call.IsLogin) (o : Occasion) :
    service.answer o st call = service.answer o st' call := by
  have hstates := Comparison.states_of_unhashed_eq h
  have hanswers := hstates.answer service o fun hlogin => absurd hlogin hcall
  rcases hanswers with heq | ⟨r, e, f, f', -, -, hf, hf', ha, ha'⟩
  · exact heq
  · -- the two stores have the same fault
    cases hf.symm.trans hf'
    exact ha.trans ha'.symm

theorem unhashed_afterCall (h : st.unhashed = st'.unhashed) {call : Call} (hcall : ¬ call.IsLogin)
    (o : Occasion) :
    (service.afterCall o st call).unhashed = (service.afterCall o st' call).unhashed :=
  Comparison.unhashed_eq_of_states
    ((Comparison.states_of_unhashed_eq h).afterCall service o fun hlogin => absurd hlogin hcall)

theorem run_of_unhashed_eq (h : st.unhashed = st'.unhashed) {calls : List (Occasion × Call)}
    (hcalls : ∀ c ∈ calls, ¬ c.2.IsLogin) :
    service.answers st calls = service.answers st' calls ∧
      (service.afterCalls st calls).unhashed = (service.afterCalls st' calls).unhashed := by
  induction calls generalizing st st' with
  | nil => exact ⟨rfl, h⟩
  | cons c calls ih =>
    obtain ⟨hc, hrest⟩ := List.forall_mem_cons.1 hcalls
    obtain ⟨hanswers, hstates⟩ := ih (unhashed_afterCall service h hc c.1) hrest
    refine ⟨?_, hstates⟩
    rw [answers, answers, answer_eq_of_unhashed_eq service h hc, hanswers]

/-- **Password hashes stay inside.** Two states that are equal but for their password hashes give
the same answer to every call but a login, on the same occasion; the store of revoked tokens gets
the same calls; and the states after it are equal but for their password hashes. The same holds of
the answers to a run of such calls, and of the states after it. -/
theorem hashes_stay_inside (h : st.unhashed = st'.unhashed) :
    (∀ o call, ¬ Call.IsLogin call →
      service.answer o st call = service.answer o st' call ∧
      (service.afterCall o st call).revocations.calls =
        (service.afterCall o st' call).revocations.calls ∧
      (service.afterCall o st call).unhashed = (service.afterCall o st' call).unhashed) ∧
    ∀ calls : List (Occasion × Call), (∀ c ∈ calls, ¬ c.2.IsLogin) →
      service.answers st calls = service.answers st' calls ∧
        (service.afterCalls st calls).unhashed = (service.afterCalls st' calls).unhashed := by
  refine ⟨fun o call hcall => ?_, fun calls => run_of_unhashed_eq service h⟩
  have hafter := unhashed_afterCall service h hcall o
  exact ⟨answer_eq_of_unhashed_eq service h hcall o,
    (congrArg (fun s : State => s.revocations.calls) hafter :), hafter⟩

/-- Bob registers beside an Alice with one or another hash, her record is asked for, and nothing
shows which it is. A login does. -/
theorem hashes_stay_inside_but_for_login :
    let scheme : PasswordScheme :=
      ⟨fun _ p => .ok p, fun p hash => if p = hash then .ok () else .error .verification⟩
    let service := ofSettings { secret := "secret" } scheme ⟨0, 0⟩
    let o : Occasion := ⟨⟨1700000000, 0⟩, 0, Uuid.random 2, []⟩
    let alice (hash : String) : User := ⟨Uuid.random 1, "Alice", "alice", "alice@example.com", hash,
      .user, "", "", ⟨0, 0⟩, ⟨0, 0⟩⟩
    let state (hash : String) : State := { users := { table := ⟨[alice hash]⟩ } }
    let register := post "register" [("name", "Bob"), ("username", "bob"),
      ("email", "bob@example.com"), ("password", "secret")]
    let login := post "login" [("username", "alice"), ("password", "first")]
    let calls : List (Occasion × Call) := [(o, .http register), (o, .getUser (Uuid.random 1).text)]
    service.answer o (state "first") (.http register) =
        service.answer o (state "second") (.http register) ∧
      service.answers (state "first") calls = service.answers (state "second") calls ∧
      (service.afterCalls (state "first") calls).unhashed =
        (service.afterCalls (state "second") calls).unhashed ∧
      (service.afterCalls (state "first") calls).users.table.users.length = 2 ∧
      (service.serve o login (state "first")).1.status = 200 ∧
      (service.serve o login (state "second")).1.status = 401 := by
  intro scheme service o alice state register login calls
  have hpath : Endpoint.ofPath? register.path = some .register := by decide +kernel
  have hregister : ¬ Call.IsLogin (.http register) := by
    rintro ⟨hlogin, -⟩
    rw [hpath] at hlogin
    cases hlogin
  have hcalls : ∀ c ∈ calls, ¬ c.2.IsLogin := by
    simp only [calls, List.forall_mem_cons, List.not_mem_nil, false_imp_iff, implies_true, and_true]
    exact ⟨hregister, id⟩
  have hstates : (state "first").unhashed = (state "second").unhashed := rfl
  obtain ⟨hone, hmany⟩ := hashes_stay_inside service hstates
  obtain ⟨hanswers, hafter⟩ := hmany calls hcalls
  exact ⟨(hone o _ hregister).1, hanswers, hafter, by decide +kernel, by decide +kernel,
    by decide +kernel⟩

end Service

end Accounts

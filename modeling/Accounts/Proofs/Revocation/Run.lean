import Accounts.Token.Revoke
import Accounts.Token.Verify

/-!
# Runs of work on tokens

* `TokenWork`: what can be asked of the service about tokens, and of the store directly;
* `Service.after`, `Service.run`: the state after one work, and after many in order;
* `Service.putOf?`, `Service.Puts`: the put that a work makes;
* **`Service.holds_after`**: what a work does to the answers about an identifier;
* **`Service.holds_run_of_not_puts`**, `Service.holds_run_congr`: what a run does to them;
* `Service.Accepts`: a token is valid in a state, and when it is (`accepts_iff`).
-/

namespace Accounts

/-- What can be asked of the service about tokens, and of the store directly. -/
inductive TokenWork
  | check (surface : Surface) (token : String)
  | logout (authorization : String)
  | revoke (id : String) (ttl : Int)
  | call (c : StoreCall)

namespace Service

variable (service : Service)

/-- The state after one work. -/
def after (o : Occasion) (st : State) : TokenWork → State
  | .check surface token => (service.verifyAt surface o token st).2
  | .logout authorization => (service.logout o authorization st).2
  | .revoke id ttl => (st.revoke o id ttl).2
  | .call (.contains id) => { st with revocations := (st.revocations.contains o.steady id).2 }
  | .call (.put id ttl) => { st with revocations := (st.revocations.put o.steady id ttl).2 }

/-- The state after many works, one after the other. -/
def run (st : State) (works : List (Occasion × TokenWork)) : State :=
  works.foldl (fun st w => service.after w.1 st w.2) st

/-- The put that a revocation makes: without time there is none. -/
def putOfRevoke? (id : String) (ttl : Int) : Option (String × Nat) :=
  if ttl ≤ 0 then none else some (id, ttl.toNat)

/-- The put that a work makes: an identifier, and for how many nanoseconds. -/
def putOf? (o : Occasion) : TokenWork → Option (String × Nat)
  | .check _ _ => none
  | .logout authorization =>
    match service.logoutTarget o.wall.seconds authorization with
    | .ok (id, seconds) => putOfRevoke? id (nanosPerSecond * seconds : Nat)
    | .error _ => none
  | .revoke id ttl => putOfRevoke? id ttl
  | .call (.contains _) => none
  | .call (.put id ttl) => some (id, ttl)

/-- A work puts an identifier. -/
def Puts (id : String) (w : Occasion × TokenWork) : Prop :=
  ∃ ttl, service.putOf? w.1 w.2 = some (id, ttl)

/-- The table after a put, if there is one. -/
def putted (t : RevocationTable) (now : Nat) : Option (String × Nat) → RevocationTable
  | some (id, ttl) => t.put now id ttl
  | none => t

/-! ## One work -/

variable {service} {st : State}

theorem fault_put (s : RevocationStore) (now : Nat) (id : String) (ttl : Nat) :
    (s.put now id ttl).2.fault = s.fault := by
  unfold RevocationStore.put
  cases h : s.fault <;> simp [RevocationStore.called, h]

theorem calls_put (s : RevocationStore) (now : Nat) (id : String) (ttl : Nat) :
    (s.put now id ttl).2.calls = s.calls ++ [.put id ttl] := by
  unfold RevocationStore.put
  cases h : s.fault <;> simp [RevocationStore.called, h]

theorem put_of_answers {s : RevocationStore} (h : s.fault = none) (now : Nat) (id : String)
    (ttl : Nat) : (s.put now id ttl).1 = .ok () ∧
      (s.put now id ttl).2.table = s.table.put now id ttl := by
  simp [RevocationStore.put, RevocationStore.called, h]

theorem put_of_fault {s : RevocationStore} {f : RevocationFault} (h : s.fault = some f) (now : Nat)
    (id : String) (ttl : Nat) : s.put now id ttl = (.error f, s.called (.put id ttl)) := by
  simp [RevocationStore.put, RevocationStore.called, h]

theorem fault_revoke (st : State) (o : Occasion) (id : String) (ttl : Int) :
    (st.revoke o id ttl).2.revocations.fault = st.revocations.fault := by
  unfold State.revoke
  split
  · rfl
  · exact fault_put _ _ _ _

theorem table_revoke (h : st.revocations.fault = none) (o : Occasion) (id : String) (ttl : Int) :
    (st.revoke o id ttl).2.revocations.table =
      putted st.revocations.table o.steady (putOfRevoke? id ttl) := by
  unfold State.revoke putOfRevoke?
  split
  · rfl
  · exact (put_of_answers h _ _ _).2

theorem snd_logout (o : Occasion) (authorization : String) (st : State) :
    (service.logout o authorization st).2 =
      match service.logoutTarget o.wall.seconds authorization with
      | .ok (id, seconds) => (st.revoke o id (nanosPerSecond * seconds : Nat)).2
      | .error _ => st := by
  unfold logout
  cases service.logoutTarget o.wall.seconds authorization with
  | error f => rfl
  | ok target =>
    obtain ⟨id, seconds⟩ := target
    simp only

theorem store_verify (o : Occasion) (token : String) (s : RevocationStore) :
    (service.verify o token s).2.table = s.table ∧ (service.verify o token s).2.fault = s.fault := by
  unfold verify
  cases service.signer.decodeVerified o.wall.seconds token <;> exact ⟨rfl, rfl⟩

theorem fault_after (o : Occasion) (st : State) (w : TokenWork) :
    (service.after o st w).revocations.fault = st.revocations.fault := by
  cases w with
  | check surface token => exact (store_verify o token st.revocations).2
  | logout authorization =>
    rw [after, snd_logout]
    split
    · exact fault_revoke _ _ _ _
    · rfl
  | revoke id ttl => exact fault_revoke st o id ttl
  | call c =>
    cases c with
    | contains id => rfl
    | put id ttl => exact fault_put _ _ _ _

theorem table_after (h : st.revocations.fault = none) (o : Occasion) (w : TokenWork) :
    (service.after o st w).revocations.table =
      putted st.revocations.table o.steady (service.putOf? o w) := by
  cases w with
  | check surface token => exact (store_verify o token st.revocations).1
  | logout authorization =>
    rw [after, snd_logout, putOf?]
    split
    · exact table_revoke h _ _ _
    · rfl
  | revoke id ttl => exact table_revoke h o id ttl
  | call c =>
    cases c with
    | contains id => rfl
    | put id ttl => exact (put_of_answers h _ _ _).2

variable (service) in
/-- **What a work does to the answers about an identifier**: the one that puts it decides them, and
the others do not change them. -/
theorem holds_after (h : st.revocations.fault = none) {o : Occasion} {later : Nat}
    (hlater : o.steady ≤ later) (w : TokenWork) (id : String) :
    (service.after o st w).revocations.table.holds later id =
      match service.putOf? o w with
      | some (other, ttl) =>
        if other = id then decide (later < o.steady + ttl) else st.revocations.table.holds later id
      | none => st.revocations.table.holds later id := by
  rw [table_after h]
  cases service.putOf? o w with
  | none => rfl
  | some p =>
    obtain ⟨other, ttl⟩ := p
    by_cases hid : other = id
    · subst hid
      simp only [putted, if_true]
      rw [Bool.eq_iff_iff, RevocationTable.holds_put_self, decide_eq_true_eq]
    · simp only [putted, if_neg hid]
      exact RevocationTable.holds_put_of_ne _ hlater (Ne.symm hid) ttl

/-! ## Many works -/

variable {works : List (Occasion × TokenWork)} {later : Nat} {id : String}

theorem run_append (st : State) (works more : List (Occasion × TokenWork)) :
    service.run st (works ++ more) = service.run (service.run st works) more := List.foldl_append

theorem run_cons (st : State) (w : Occasion × TokenWork) (works : List (Occasion × TokenWork)) :
    service.run st (w :: works) = service.run (service.after w.1 st w.2) works := rfl

theorem run_nil (st : State) : service.run st [] = st := rfl

theorem fault_run (st : State) (works : List (Occasion × TokenWork)) :
    (service.run st works).revocations.fault = st.revocations.fault := by
  induction works generalizing st with
  | nil => rfl
  | cons w works ih => exact (ih _).trans (fault_after w.1 st w.2)

/-- **Works that do not put an identifier do not change the answers about it.** -/
theorem holds_run_of_not_puts (h : st.revocations.fault = none)
    (hw : ∀ w ∈ works, w.1.steady ≤ later ∧ ¬ service.Puts id w) :
    (service.run st works).revocations.table.holds later id =
      st.revocations.table.holds later id := by
  induction works generalizing st with
  | nil => rfl
  | cons w works ih =>
    obtain ⟨⟨hsteady, hputs⟩, hrest⟩ := List.forall_mem_cons.1 hw
    have hstep := service.holds_after h hsteady w.2 id
    refine (ih ((fault_after w.1 st w.2).trans h) hrest).trans ?_
    rw [hstep]
    split
    · next other ttl hput => exact if_neg fun (e : other = id) => hputs ⟨ttl, e ▸ hput⟩
    · rfl

theorem holds_run_congr {st st' : State} (h : st.revocations.fault = none)
    (h' : st'.revocations.fault = none) (hw : ∀ w ∈ works, w.1.steady ≤ later)
    (heq : st.revocations.table.holds later id = st'.revocations.table.holds later id ∨
      ∃ w ∈ works, service.Puts id w) :
    (service.run st works).revocations.table.holds later id =
      (service.run st' works).revocations.table.holds later id := by
  induction works generalizing st st' with
  | nil =>
    rcases heq with heq | ⟨w, hmem, -⟩
    · exact heq
    · cases hmem
  | cons w works ih =>
    obtain ⟨hsteady, hrest⟩ := List.forall_mem_cons.1 hw
    refine ih ((fault_after w.1 st w.2).trans h) ((fault_after w.1 st' w.2).trans h') hrest ?_
    rw [service.holds_after h hsteady, service.holds_after h' hsteady]
    rcases heq with heq | ⟨x, hmem, hputs⟩
    · rw [heq]
      exact .inl rfl
    · rcases List.mem_cons.1 hmem with rfl | hmem
      · obtain ⟨ttl, hput⟩ := hputs
        rw [hput]
        simp
      · exact .inr ⟨x, hmem, hputs⟩

/-! ## Checking after a run -/

/-- A token is valid in a state. -/
def Accepts (service : Service) (o : Occasion) (token : String) (st : State) : Prop :=
  ∃ i, (service.verify o token st.revocations).1 = .ok (.valid i)

theorem accepts_iff (h : st.revocations.fault = none) {o : Occasion} {token : String} :
    service.Accepts o token st ↔
      ∃ c, service.signer.decodeVerified o.wall.seconds token = .ok c ∧
        st.revocations.table.holds o.steady c.jti = false := by
  unfold Accepts verify
  cases service.signer.decodeVerified o.wall.seconds token with
  | error reason => simp
  | ok c =>
    cases hh : st.revocations.table.holds o.steady c.jti <;>
      simp [RevocationStore.contains, h, hh, judge]

end Service

end Accounts

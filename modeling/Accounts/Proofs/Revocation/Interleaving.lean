import Accounts.Proofs.Revocation.History
import Accounts.Proofs.Revocation.Run
import Accounts.Proofs.Token.RoundTrip

/-!
# Checks, logouts and revocations at once

Many requests about tokens run at once. Each makes at most one call to the store, and a call is not
divided; so the requests stand in the order of their calls. A request reads the wall clock before its
call, and others may come in between: the two clocks of an occasion are not read together. Every call
may fail for itself.

* `TokenEvent`: a request at its call; `Service.runEvents`: the state after many requests;
* `Service.putsMade`: the puts that the requests have made; `Service.table_runEvents`: the table is
  that of their history;
* `Service.verdict`: what a check says from the token, the clocks, the key, the condition of its own
  call and the puts of its own identifier;
* **`Service.fst_verifyAt_runEvents`**: a check among others says this;
* **`Service.last_put_decides`**: the table answers from the last puts, and a check sees no more of
  the other requests than the puts of its identifier.
-/

namespace Accounts

open RevocationTable

/-- A request about tokens at its call to the store, and how the store fails this call. -/
structure TokenEvent where
  occasion : Occasion
  fault : Option RevocationFault := none
  work : TokenWork

/-- The state with a store that fails so, or answers. -/
def State.facing (st : State) (fault : Option RevocationFault) : State :=
  { st with revocations := { st.revocations with fault := fault } }

namespace Service

variable (service : Service)

/-- The state after one request. -/
def afterEvent (st : State) (e : TokenEvent) : State :=
  service.after e.occasion (st.facing e.fault) e.work

/-- The state after many requests, in the order of their calls. -/
def runEvents (st : State) (events : List TokenEvent) : State :=
  events.foldl service.afterEvent st

/-- The put that a request makes: none, if the store fails it. -/
def putMade? (e : TokenEvent) : Option (Nat × TableCall) :=
  match e.fault with
  | some _ => none
  | none => (service.putOf? e.occasion e.work).map fun p => (e.occasion.steady, .put p.1 p.2)

/-- The puts that many requests make. -/
def putsMade (events : List TokenEvent) : List (Nat × TableCall) :=
  events.filterMap service.putMade?

/-- What a check says, given the condition of its call and the puts that were made of each
identifier. -/
def verdict (o : Occasion) (token : String) (fault : Option RevocationFault)
    (puts : String → List (Nat × Nat)) : Except TokenFault Verification :=
  match service.signer.decodeVerified o.wall.seconds token with
  | .error reason => .ok (.invalid reason)
  | .ok c =>
    match fault with
    | some f => .error (.store f)
    | none =>
      if live (puts c.jti) o.steady then .ok (.invalid .revoked) else .ok (.valid c.identity)

/-! ## The table of a run -/

variable {service} {st : State} {events : List TokenEvent} {o : Occasion}

theorem table_revoke_of_fault {f : RevocationFault} (h : st.revocations.fault = some f)
    (o : Occasion) (id : String) (ttl : Int) :
    (st.revoke o id ttl).2.revocations.table = st.revocations.table := by
  unfold State.revoke
  split
  · rfl
  · rw [put_of_fault h]
    rfl

theorem table_after_of_fault {f : RevocationFault} (h : st.revocations.fault = some f)
    (o : Occasion) (w : TokenWork) :
    (service.after o st w).revocations.table = st.revocations.table := by
  cases w with
  | check surface token => exact (store_verify o token st.revocations).1
  | logout authorization =>
    rw [after, snd_logout]
    split
    · exact table_revoke_of_fault h _ _ _
    · rfl
  | revoke id ttl => exact table_revoke_of_fault h o id ttl
  | call c =>
    cases c with
    | contains id => rfl
    | put id ttl =>
      simp only [after, put_of_fault h]
      rfl

theorem table_afterEvent (st : State) (e : TokenEvent) :
    (service.afterEvent st e).revocations.table =
      st.revocations.table.run (service.putMade? e).toList := by
  have hfault : (st.facing e.fault).revocations.fault = e.fault := rfl
  rw [afterEvent, putMade?]
  cases hf : e.fault with
  | some f =>
    rw [hf] at hfault
    exact table_after_of_fault hfault e.occasion e.work
  | none =>
    rw [hf] at hfault
    rw [table_after hfault]
    cases service.putOf? e.occasion e.work <;> rfl

/-- **The table is that of the history of the puts that were made.** -/
theorem table_runEvents (st : State) (events : List TokenEvent) :
    (service.runEvents st events).revocations.table =
      st.revocations.table.run (service.putsMade events) := by
  induction events generalizing st with
  | nil => rfl
  | cons e events ih =>
    have hputs : service.putsMade (e :: events) =
        (service.putMade? e).toList ++ service.putsMade events := by
      rw [putsMade, List.filterMap_cons]
      cases service.putMade? e <;> rfl
    rw [hputs, RevocationTable.run, List.foldl_append]
    exact (ih _).trans (congrArg (RevocationTable.run · _) (table_afterEvent st e))

theorem exists_of_mem_putsMade {c : Nat × TableCall} (h : c ∈ service.putsMade events) :
    ∃ e ∈ events, c.1 = e.occasion.steady := by
  obtain ⟨e, he, hput⟩ := List.mem_filterMap.1 h
  refine ⟨e, he, ?_⟩
  rw [putMade?] at hput
  split at hput
  · cases hput
  · obtain ⟨p, -, rfl⟩ := Option.map_eq_some_iff.1 hput
    rfl

/-! ## Checks -/

theorem fst_verifyAt_facing (surface : Surface) (o : Occasion) (token : String) (st : State)
    (fault : Option RevocationFault) {puts : String → List (Nat × Nat)}
    (h : ∀ id, st.revocations.table.holds o.steady id = live (puts id) o.steady) :
    (service.verifyAt surface o token (st.facing fault)).1 =
      service.verdict o token fault puts := by
  rw [verifyAt, verify, verdict]
  cases service.signer.decodeVerified o.wall.seconds token with
  | error reason => rfl
  | ok c =>
    cases fault with
    | some f => rfl
    | none =>
      simp only [RevocationStore.contains, State.facing, h]
      cases live (puts c.jti) o.steady <;> rfl

/-- **A check among other requests** says what the token, the clocks, the key, its own call and the
puts of its own identifier make of it. -/
theorem fst_verifyAt_runEvents (hempty : st.revocations.table = {})
    (hclock : ∀ e ∈ events, e.occasion.steady ≤ o.steady) (surface : Surface) (token : String)
    (fault : Option RevocationFault) :
    (service.verifyAt surface o token ((service.runEvents st events).facing fault)).1 =
      service.verdict o token fault fun id => putsOf id (service.putsMade events) := by
  refine fst_verifyAt_facing surface o token _ fault fun id => ?_
  rw [table_runEvents, hempty]
  refine holds_run fun c hc => ?_
  obtain ⟨e, he, hsteady⟩ := exists_of_mem_putsMade hc
  exact hsteady ▸ hclock e he

theorem verdict_of_ok {token : String} {c : Claims} {puts : String → List (Nat × Nat)}
    (h : service.signer.decodeVerified o.wall.seconds token = .ok c) :
    service.verdict o token none puts =
      if live (puts c.jti) o.steady then .ok (.invalid .revoked) else .ok (.valid c.identity) := by
  rw [verdict, h]

theorem verdict_congr {token : String} {fault : Option RevocationFault}
    {puts puts' : String → List (Nat × Nat)}
    (h : ∀ c, service.signer.decodeVerified o.wall.seconds token = .ok c →
      puts c.jti = puts' c.jti) :
    service.verdict o token fault puts = service.verdict o token fault puts' := by
  rw [verdict, verdict]
  cases hd : service.signer.decodeVerified o.wall.seconds token with
  | error reason => rfl
  | ok c =>
    simp only
    rw [h c hd]

/-! ## The last put decides -/

theorem forall_le_of_pairwise {instants : List Nat} {now : Nat}
    (h : (instants ++ [now]).Pairwise (· ≤ ·)) : ∀ t ∈ instants, t ≤ now :=
  fun t ht => (List.pairwise_append.1 h).2.2 t ht now List.mem_cons_self

/-- **The last put decides.** After any calls on a clock that goes only forward, the table holds an
identifier exactly if there was a put of it and the last one is not over, and it counts these
identifiers. So after any requests, in the order of their calls, each of which the store may fail, a
check says what the token, the clocks, the key, its own call and the puts made of its own identifier
make of it; and it says the same after any other requests that have made the same puts of it. -/
theorem last_put_decides (service : Service) :
    (∀ (calls : List (Nat × TableCall)) (now : Nat),
      (calls.map Prod.fst ++ [now]).Pairwise (· ≤ ·) →
        let t := RevocationTable.run {} calls
        let Held (id : String) : Prop :=
          ∃ start ttl, (putsOf id calls).getLast? = some (start, ttl) ∧ now < start + ttl
        (∀ id, t.holds now id = true ↔ Held id) ∧
          ∃ ids : Finset String, (∀ id, id ∈ ids ↔ Held id) ∧ t.size now = ids.card) ∧
    ∀ (st : State) (events : List TokenEvent) (surface : Surface) (o : Occasion) (token : String)
      (fault : Option RevocationFault), st.revocations.table = {} →
        (events.map (·.occasion.steady) ++ [o.steady]).Pairwise (· ≤ ·) →
          let said := (service.verifyAt surface o token
            ((service.runEvents st events).facing fault)).1
          said = service.verdict o token fault (fun id => putsOf id (service.putsMade events)) ∧
            ∀ (st' : State) (events' : List TokenEvent), st'.revocations.table = {} →
              (events'.map (·.occasion.steady) ++ [o.steady]).Pairwise (· ≤ ·) →
              (∀ c, service.signer.decodeVerified o.wall.seconds token = .ok c →
                putsOf c.jti (service.putsMade events) =
                  putsOf c.jti (service.putsMade events')) →
              (service.verifyAt surface o token
                ((service.runEvents st' events').facing fault)).1 = said := by
  constructor
  · intro calls now hclock t Held
    have hpast : ∀ c ∈ calls, c.1 ≤ now :=
      fun c hc => forall_le_of_pairwise hclock c.1 (List.mem_map_of_mem hc)
    have hholds : ∀ id, t.holds now id = true ↔ Held id := by
      intro id
      rw [holds_run hpast, live_eq_true_iff]
    obtain ⟨ids, hids, hsize⟩ := exists_card_size (nodup_run calls) now
    exact ⟨hholds, ids, fun id => (hids id).trans (hholds id), hsize⟩
  · intro st events surface o token fault hempty hclock said
    have hpast {events : List TokenEvent}
        (h : (events.map (·.occasion.steady) ++ [o.steady]).Pairwise (· ≤ ·)) :
        ∀ e ∈ events, e.occasion.steady ≤ o.steady :=
      fun e he => forall_le_of_pairwise h _ (List.mem_map_of_mem he)
    have hsaid : said = _ := fst_verifyAt_runEvents hempty (hpast hclock) surface token fault
    refine ⟨hsaid, fun st' events' hempty' hclock' hputs => ?_⟩
    rw [fst_verifyAt_runEvents hempty' (hpast hclock')]
    exact (verdict_congr hputs).symm.trans hsaid.symm

/-- A shorter put replaces a longer one, and what is dropped at a put of nothing was over. A put that
the store failed and the put of another token are not seen by a check. -/
theorem last_put_decides_over_longer_put :
    let calls : List (Nat × TableCall) :=
      [(0, .put "a" 10), (1, .put "b" 20), (5, .put "b" 1), (5, .holds "b"), (6, .put "c" 0)]
    let service : Service := .ofSettings { secret := "secret", lifetimeHours := 1 } .argon2id ⟨0, 0⟩
    let c : Claims := ⟨Uuid.random 1, "alice", .user, "mine", "account-service", "account-clients",
      1700000000, 1700000000, 1700003600⟩
    let token := service.signer.sign c
    let moment (steady : Nat) : Occasion := ⟨⟨1700000000, 0⟩, steady, Uuid.random 3, []⟩
    let events : List TokenEvent :=
      [⟨moment 0, none, .revoke "mine" 9⟩, ⟨moment 1, some (.timeout 100), .revoke "mine" 2⟩,
        ⟨moment 2, none, .revoke "other" 1⟩, ⟨moment 5, none, .logout "Bearer"⟩]
    ((RevocationTable.run {} calls).holds 7 "a" = true ∧
        (RevocationTable.run {} calls).holds 7 "b" = false ∧
        ∃ ids : Finset String, "a" ∈ ids ∧ "b" ∉ ids ∧ "c" ∉ ids ∧
          (RevocationTable.run {} calls).size 7 = ids.card) ∧
      (service.verifyAt .http (moment 8) token ((service.runEvents {} events).facing none)).1 =
        .ok (.invalid .revoked) ∧
      (service.verifyAt .http (moment 8) token
        ((service.runEvents {} [⟨moment 0, none, .revoke "mine" 9⟩]).facing none)).1 =
          .ok (.invalid .revoked) := by
  intro calls service c token moment events
  have hd : service.signer.decodeVerified (moment 8).wall.seconds token = .ok c :=
    (Signer.decodeVerified_sign _ ⟨by decide, by decide, by decide⟩ _).trans rfl
  have hputs : putsOf "mine" (service.putsMade events) = [(0, 9)] := rfl
  clear_value token
  obtain ⟨htable, hchecks⟩ := last_put_decides service
  obtain ⟨hholds, ids, hids, hsize⟩ := htable calls 7 (by decide)
  obtain ⟨hsaid, hothers⟩ := hchecks {} events .http (moment 8) token none rfl (by decide)
  have ha : (putsOf "a" calls).getLast? = some (0, 10) := rfl
  have hb : (putsOf "b" calls).getLast? = some (5, 1) := rfl
  have hc : (putsOf "c" calls).getLast? = some (6, 0) := rfl
  have hrevoked : service.verdict (moment 8) token none
      (fun id => putsOf id (service.putsMade events)) = .ok (.invalid .revoked) := by
    rw [verdict_of_ok hd]
    exact if_pos (congrArg (live · 8) hputs)
  refine ⟨⟨(hholds "a").2 ⟨0, 10, ha, by decide⟩, ?_, ids, (hids "a").2 ⟨0, 10, ha, by decide⟩, ?_,
    ?_, hsize⟩, hsaid.trans hrevoked, ?_⟩
  · rw [Bool.eq_false_iff, ne_eq, hholds "b"]
    simp [hb]
  · rw [hids "b"]
    simp [hb]
  · rw [hids "c"]
    simp [hc]
  · refine (hothers {} _ rfl (by decide) fun d hcd => ?_).trans (hsaid.trans hrevoked)
    cases hd.symm.trans hcd
    exact hputs

end Service

end Accounts

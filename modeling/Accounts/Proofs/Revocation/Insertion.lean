import Accounts.Proofs.Revocation.Logout

/-!
# What one more logout changes

A logout trusts what it reads, and the last put of an identifier counts. So a token that nobody
signed, with the identifier of a revoked token and a nearer end, ends the revocation early.

* `Service.Shortens`: a logout frees an identifier that would still be revoked at some instant;
* `Service.holds_logout_mono_iff`: the answer of the store at one instant;
* **`Service.inserted_logout_refuses_iff`**: exactly when a logout that is inserted into a run makes
  no refused token valid.
-/

namespace Accounts

namespace Service

variable (service : Service)

/-- A logout frees an identifier that would still be revoked at a later instant: it is for the
identifier, and the time that it gives is over by then. -/
def Shortens (o : Occasion) (h : String) (later : Nat) (id : String) (st : State) : Prop :=
  st.revocations.table.holds later id = true ∧
    ∃ seconds, service.logoutTarget o.wall.seconds h = .ok (id, seconds) ∧ 0 < seconds ∧
      o.steady + nanosPerSecond * seconds ≤ later

variable {service} {st : State} {o o' : Occasion} {h token : String}

theorem holds_logout_mono_iff (hf : st.revocations.fault = none) {later : Nat}
    (hlater : o.steady ≤ later) (id : String) :
    (st.revocations.table.holds later id = true →
        (service.logout o h st).2.revocations.table.holds later id = true) ↔
      ¬ service.Shortens o h later id st := by
  have hstep := service.holds_after hf hlater (.logout h) id
  rw [after] at hstep
  by_cases htarget : ∃ seconds,
      service.logoutTarget o.wall.seconds h = .ok (id, seconds) ∧ 0 < seconds
  · obtain ⟨seconds, ht, hpos⟩ := htarget
    rw [holds_logout hf hlater ht hpos, decide_eq_true_eq]
    constructor
    · rintro himp ⟨hholds, n, hn, -, hle⟩
      rw [ht] at hn
      cases hn
      have := himp hholds
      omega
    · intro hnot hholds
      exact Nat.lt_of_not_le fun hle => hnot ⟨hholds, seconds, ht, hpos, hle⟩
  · -- the logout is for another identifier, or for none
    have hsame : (service.logout o h st).2.revocations.table.holds later id =
        st.revocations.table.holds later id := by
      rw [hstep]
      split
      · next other ttl hput =>
        refine if_neg fun e => htarget ?_
        obtain ⟨seconds, ht, hpos, -⟩ := putOf?_logout_eq_some_iff.1 hput
        exact ⟨seconds, e ▸ ht, hpos⟩
      · rfl
    rw [hsame]
    constructor
    · rintro - ⟨-, n, hn, hpos, -⟩
      exact htarget ⟨n, hn, hpos⟩
    · exact fun _ hholds => hholds

/-- A work that follows a logout sees it only through the table. -/
theorem holds_run_logout (hf : st.revocations.fault = none) {works : List (Occasion × TokenWork)}
    {later : Nat} (hworks : ∀ w ∈ works, w.1.steady ≤ later) {id : String}
    (hputs : ∃ w ∈ works, service.Puts id w) :
    (service.run (service.logout o h st).2 works).revocations.table.holds later id =
      (service.run st works).revocations.table.holds later id :=
  holds_run_congr ((fault_logout o h st).trans hf) hf hworks (.inr hputs)

/-- **Exactly when a logout that is inserted into a run makes no refused token valid**: the
identifier is put again later, or the logout does not shorten its revocation. And exactly when it
makes no entry of the store end earlier. -/
theorem inserted_logout_refuses_iff {pre post : List (Occasion × TokenWork)}
    (hmemory : st.revocations.fault = none) (hlater : o.steady ≤ o'.steady)
    (hpost : ∀ w ∈ post, w.1.steady ≤ o'.steady) :
    ((¬ service.Accepts o' token (service.run st (pre ++ post)) →
        ¬ service.Accepts o' token (service.run st (pre ++ (o, .logout h) :: post))) ↔
      ∀ c, service.signer.decodeVerified o'.wall.seconds token = .ok c →
        (∃ w ∈ post, service.Puts c.jti w) ∨
          ¬ service.Shortens o h o'.steady c.jti (service.run st pre)) ∧
    ∀ (later : Nat) (id : String), o.steady ≤ later →
      (((service.run st pre).revocations.table.holds later id = true →
          (service.run st (pre ++ [(o, .logout h)])).revocations.table.holds later id = true) ↔
        ¬ service.Shortens o h later id (service.run st pre)) := by
  have hpre : (service.run st pre).revocations.fault = none := (fault_run st pre).trans hmemory
  have hlogout : (service.logout o h (service.run st pre)).2.revocations.fault = none :=
    (fault_logout o h _).trans hpre
  constructor
  · rw [run_append, run_append, run_cons, after, accepts_iff ((fault_run _ post).trans hpre),
      accepts_iff ((fault_run _ post).trans hlogout)]
    cases service.signer.decodeVerified o'.wall.seconds token with
    | error reason => simp
    | ok c =>
      simp only [Except.ok.injEq, exists_eq_left', forall_eq', Bool.not_eq_false]
      by_cases hputs : ∃ w ∈ post, service.Puts c.jti w
      · rw [holds_run_logout hpre hpost hputs]
        exact ⟨fun _ => .inl hputs, fun _ hholds => hholds⟩
      · have hnone : ∀ w ∈ post, w.1.steady ≤ o'.steady ∧ ¬ service.Puts c.jti w :=
          fun w hw => ⟨hpost w hw, fun hp => hputs ⟨w, hw, hp⟩⟩
        rw [holds_run_of_not_puts hpre hnone, holds_run_of_not_puts hlogout hnone,
          holds_logout_mono_iff hpre hlater]
        exact ⟨.inr, fun hor => hor.resolve_left hputs⟩
  · intro later id hle
    rw [run_append]
    exact holds_logout_mono_iff hpre hle id

/-- A token that is revoked again later stays refused, whatever was tried in between. -/
theorem inserted_logout_refuses_before_put :
    let service : Service := .ofSettings { secret := "secret", lifetimeHours := 1 } .argon2id ⟨0, 0⟩
    let c : Claims := ⟨Uuid.random 1, "alice", .user, "jti-1", "account-service", "account-clients",
      1700000000, 1700000000, 1700003600⟩
    let token := service.signer.sign c
    let o : Occasion := ⟨⟨1700000000, 0⟩, 0, Uuid.random 3, []⟩
    let o' : Occasion := ⟨⟨1700000005, 0⟩, 5000000000, Uuid.random 3, []⟩
    let forged := bearer "e30.eyJqdGkiOiJqdGktMSIsImV4cCI6MTcwMDAwMDAwMn0.x"
    let post : List (Occasion × TokenWork) := [(o, .revoke "jti-1" 3600000000000)]
    ¬ service.Accepts o' token (service.run {} ([(o, .logout (bearer token))] ++ post)) →
      ¬ service.Accepts o' token
        (service.run {} ([(o, .logout (bearer token))] ++ (o, .logout forged) :: post)) := by
  intro service c token o o' forged post
  have hc : c.InRange := ⟨by decide, by decide, by decide⟩
  have hd : service.signer.decodeVerified o'.wall.seconds token = .ok c :=
    (Signer.decodeVerified_sign _ hc _).trans rfl
  have hpost : ∀ w ∈ post, w.1.steady ≤ o'.steady := by simp [post, o, o']
  clear_value forged token service
  refine (inserted_logout_refuses_iff rfl (by decide) hpost).1.2 fun d hcd => .inl ?_
  rw [hd] at hcd
  cases hcd
  exact ⟨_, List.mem_cons_self, 3600000000000, rfl⟩

/-- Two seconds for the identifier of a revoked token, without any signature, and the token is valid
again after five. -/
theorem accepts_after_forged_logout :
    let service : Service := .ofSettings { secret := "secret", lifetimeHours := 1 } .argon2id ⟨0, 0⟩
    let c : Claims := ⟨Uuid.random 1, "alice", .user, "jti-1", "account-service", "account-clients",
      1700000000, 1700000000, 1700003600⟩
    let token := service.signer.sign c
    let forged := bearer "e30.eyJqdGkiOiJqdGktMSIsImV4cCI6MTcwMDAwMDAwMn0.x"
    let o : Occasion := ⟨⟨1700000000, 0⟩, 0, Uuid.random 3, []⟩
    let o' : Occasion := ⟨⟨1700000005, 0⟩, 5000000000, Uuid.random 3, []⟩
    ¬ service.Accepts o' token (service.run {} [(o, .logout (bearer token))]) ∧
      service.Accepts o' token
        (service.run {} [(o, .logout (bearer token)), (o, .logout forged)]) := by
  intro service c token forged o o'
  have hc : c.InRange := ⟨by decide, by decide, by decide⟩
  have hd : service.signer.decodeVerified o'.wall.seconds token = .ok c :=
    (Signer.decodeVerified_sign _ hc _).trans rfl
  have ht : service.logoutTarget o.wall.seconds (bearer token) = .ok ("jti-1", 3600) := by
    rw [service.logoutTarget_sign _ hc (by decide),
      timeLeft_eq_ok_iff.2 (show _ ∧ _ ∧ 3600 = _ by decide)]
    rfl
  have hp : decodePayload? "e30.eyJqdGkiOiJqdGktMSIsImV4cCI6MTcwMDAwMDAwMn0.x" =
      some ⟨some "jti-1", 1700000002⟩ := by rfl
  have hf : service.logoutTarget o.wall.seconds forged = .ok ("jti-1", 2) := by
    rw [logoutTarget_bearer hp (by decide), timeLeft_eq_ok_iff.2 (show _ ∧ _ ∧ 2 = _ by decide)]
    rfl
  -- from here on only these facts matter, and not the texts
  clear_value forged token service
  have hrevoked : (service.logout o (bearer token) {}).2.revocations.fault = none :=
    fault_logout o _ _
  rw [run_cons, run_cons, run_cons, run_nil, run_nil, after, after]
  rw [accepts_iff hrevoked, accepts_iff ((fault_logout o _ _).trans hrevoked), hd]
  simp only [Except.ok.injEq, exists_eq_left']
  rw [holds_logout rfl (by decide) ht (by decide), holds_logout hrevoked (by decide) hf (by decide)]
  simp [o, o', nanosPerSecond]

end Service

end Accounts

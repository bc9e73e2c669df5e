import Accounts.Proofs.Revocation.Logout

/-!
# What a logout leaves of a token

A token counts through the whole second in which it ends. Its revocation ends when the time that was
left in whole seconds is over, counted from the instant of the logout: within that last second.

* `Occasion.Together`: both clocks advance alike from one occasion to another;
* **`Service.accepts_after_logout_iff`**: exactly when a token is valid after its logout.
-/

namespace Accounts

/-- Both clocks advance alike from one occasion to a later one, without leap seconds. -/
structure Occasion.Together (o o' : Occasion) : Prop where
  nanos : o.wall.nanos < nanosPerSecond
  nanos' : o'.wall.nanos < nanosPerSecond
  forward : o.steady ≤ o'.steady
  alike : o'.wall.seconds * nanosPerSecond + o'.wall.nanos + o.steady =
    o.wall.seconds * nanosPerSecond + o.wall.nanos + o'.steady

/-- An instant in the second `exp` or before is past the time left in whole seconds exactly if it is
in that second, at the nanosecond of the start or after. -/
theorem Occasion.Together.past_iff {o o' : Occasion} (h : o.Together o') {exp : Int} {seconds : Nat}
    (hs : exp - o.wall.seconds = seconds) (hexp : o'.wall.seconds ≤ exp) :
    o.steady + nanosPerSecond * seconds ≤ o'.steady ↔
      o'.wall.seconds = exp ∧ o.wall.nanos ≤ o'.wall.nanos := by
  obtain ⟨hn, hn', -, ha⟩ := h
  rw [show nanosPerSecond = 1000000000 from rfl] at *
  omega

namespace Service

theorem fst_logout {service : Service} {o : Occasion} {h : String} {st : State} {id : String}
    {seconds : Nat} (hf : st.revocations.fault = none)
    (ht : service.logoutTarget o.wall.seconds h = .ok (id, seconds)) :
    (service.logout o h st).1 = .ok () := by
  unfold logout
  rw [ht]
  simp only [State.revoke]
  split
  · rfl
  · rw [(put_of_answers hf _ _ _).1]
    rfl

variable {service : Service} {i : Identity} {tokenId : Uuid} {start : Timestamp} {o o' : Occasion}

theorem logoutTarget_issue_eq_ok_iff (hc : (service.signer.newClaims i tokenId start).InRange)
    {now : Int} {id : String} {seconds : Nat} :
    service.logoutTarget now (bearer (service.signer.issue i tokenId start).token) =
        .ok (id, seconds) ↔
      id = tokenId.text ∧
        service.timeLeft now (start.seconds + service.signer.lifetime) = .ok seconds := by
  have ht := service.logoutTarget_sign service.signer hc tokenId.text_ne_empty now
  rw [Signer.issue, ht, Outcome.map_eq_ok_iff]
  constructor
  · rintro ⟨n, hn, hp⟩
    cases hp
    exact ⟨rfl, hn⟩
  · rintro ⟨rfl, hn⟩
    exact ⟨seconds, hn, rfl⟩

theorem decodeVerified_issue_eq_ok_iff (hc : (service.signer.newClaims i tokenId start).InRange)
    {now : Int} {c : Claims} :
    service.signer.decodeVerified now (service.signer.issue i tokenId start).token = .ok c ↔
      (0 ≤ start.seconds ∧ start.seconds ≤ now ∧ now ≤ start.seconds + service.signer.lifetime) ∧
        c = service.signer.newClaims i tokenId start := by
  by_cases hneg : 0 ≤ start.seconds
  · rw [Signer.decodeVerified_issue hneg hc]
    split
    · next hnow => simp [hneg, hnow, eq_comm]
    · next hnow => simp [hneg, hnow]
  · have hd := Signer.decodeVerified_sign service.signer hc now
    have hnbf : (service.signer.newClaims i tokenId start).nbf = start.seconds := rfl
    rw [Signer.checkClaims, if_pos (by omega)] at hd
    rw [Signer.issue, hd]
    simp [hneg]

theorem accepts_issue_iff {st : State} (hc : (service.signer.newClaims i tokenId start).InRange)
    (hf : st.revocations.fault = none) :
    service.Accepts o' (service.signer.issue i tokenId start).token st ↔
      (0 ≤ start.seconds ∧ start.seconds ≤ o'.wall.seconds ∧
          o'.wall.seconds ≤ start.seconds + service.signer.lifetime) ∧
        st.revocations.table.holds o'.steady tokenId.text = false := by
  have hjti : (service.signer.newClaims i tokenId start).jti = tokenId.text := rfl
  rw [accepts_iff hf]
  constructor
  · rintro ⟨c, hd, hholds⟩
    obtain ⟨htime, rfl⟩ := (decodeVerified_issue_eq_ok_iff hc).1 hd
    exact ⟨htime, hjti ▸ hholds⟩
  · rintro ⟨htime, hholds⟩
    exact ⟨_, (decodeVerified_issue_eq_ok_iff hc).2 ⟨htime, rfl⟩, hjti ▸ hholds⟩

/-- **Exactly when an issued token is valid after its logout**, whatever else is done that does not
put its identifier: in its last second, from the nanosecond of the logout on. -/
theorem accepts_after_logout_iff {st : State} {works : List (Occasion × TokenWork)}
    (hrange : (service.signer.newClaims i tokenId start).InRange)
    (hissued : start.seconds ≤ o.wall.seconds) (hclocks : o.Together o')
    (hworks : ∀ w ∈ works, w.1.steady ≤ o'.steady ∧ ¬ service.Puts tokenId.text w)
    (hanswers : st.revocations.fault = none)
    (hlogout : (service.logout o (bearer (service.signer.issue i tokenId start).token) st).1 =
      .ok ()) :
    let issued := service.signer.issue i tokenId start
    service.Accepts o' issued.token
        (service.run (service.logout o (bearer issued.token) st).2 works) ↔
      0 ≤ start.seconds ∧ o'.wall.seconds = issued.claims.exp ∧
        o.wall.nanos ≤ o'.wall.nanos := by
  intro issued
  obtain ⟨id, seconds, ht⟩ := logout_eq_ok hlogout
  obtain ⟨rfl, hleft⟩ := (logoutTarget_issue_eq_ok_iff hrange).1 ht
  obtain ⟨hnow, -, hmin⟩ := timeLeft_eq_ok_iff.1 hleft
  have hwhole : start.seconds + service.signer.lifetime - o.wall.seconds = seconds := by omega
  have hfault : (service.logout o (bearer issued.token) st).2.revocations.fault = none :=
    (fault_logout o _ st).trans hanswers
  have hholds : (service.run (service.logout o (bearer issued.token) st).2
      works).revocations.table.holds o'.steady tokenId.text =
        decide (o'.steady < o.steady + nanosPerSecond * seconds) :=
    (holds_run_of_not_puts hfault hworks).trans
      (holds_logout hanswers hclocks.forward ht (by omega))
  rw [accepts_issue_iff hrange ((fault_run _ works).trans hfault), hholds, decide_eq_false_iff_not,
    Nat.not_lt]
  constructor
  · rintro ⟨⟨h0, -, hexp⟩, hlapsed⟩
    exact ⟨h0, (hclocks.past_iff hwhole hexp).1 hlapsed⟩
  · rintro ⟨h0, hexp, hnanos⟩
    have hexp' : o'.wall.seconds = start.seconds + service.signer.lifetime := hexp
    exact ⟨⟨h0, by omega, by omega⟩, (hclocks.past_iff hwhole (by omega)).2 ⟨hexp', hnanos⟩⟩

/-- A nanosecond before, the token is still revoked, also when another one was revoked meanwhile. -/
theorem not_accepts_before_lapse :
    let service : Service := .ofSettings { secret := "secret", lifetimeHours := 1 } .argon2id ⟨0, 0⟩
    let issued := service.signer.issue ⟨Uuid.random 1, "alice", .user⟩ (Uuid.random 2)
      ⟨1700000000, 500000000⟩
    let o : Occasion := ⟨⟨1700000000, 500000000⟩, 7, Uuid.random 3, []⟩
    let o' : Occasion := ⟨⟨1700003600, 499999999⟩, 3600000000006, Uuid.random 3, []⟩
    let works : List (Occasion × TokenWork) :=
      [(o, .check .http issued.token), (o, .revoke "other" 1000)]
    (service.logout o (bearer issued.token) {}).1 = .ok () ∧ o.Together o' ∧
      ¬ service.Accepts o' issued.token
        (service.run (service.logout o (bearer issued.token) {}).2 works) := by
  intro service issued o o' works
  have hclocks : o.Together o' := ⟨by decide, by decide, by decide, by decide⟩
  have hrange : issued.claims.InRange := Signer.inRange_newClaims (by decide) (by decide)
  have htarget : service.logoutTarget o.wall.seconds (bearer issued.token) =
      .ok ((Uuid.random 2).text, 3600) :=
    (logoutTarget_issue_eq_ok_iff hrange).2 ⟨rfl, timeLeft_eq_ok_iff.2 (by decide)⟩
  have hlogout : (service.logout o (bearer issued.token) {}).1 = .ok () :=
    fst_logout rfl htarget
  have hputs : ∀ w ∈ works, w.1.steady ≤ o'.steady ∧ ¬ service.Puts (Uuid.random 2).text w := by
    intro w hw
    simp only [works, List.mem_cons, List.not_mem_nil, or_false] at hw
    rcases hw with rfl | rfl
    · exact ⟨by decide, fun ⟨_, h⟩ => by cases h⟩
    · refine ⟨by decide, fun ⟨ttl, h⟩ => ?_⟩
      have hid : some "other" = some (Uuid.random 2).text := congrArg (Option.map Prod.fst) h
      exact absurd hid (by decide)
  refine ⟨hlogout, hclocks, fun h => ?_⟩
  have := (accepts_after_logout_iff hrange (by decide) hclocks hputs rfl hlogout).1 h
  exact absurd this.2.2 (by decide)

/-- An hour after its logout to the nanosecond, and nothing else done, a token is valid again. -/
theorem accepts_an_hour_after_logout :
    let service : Service := .ofSettings { secret := "secret", lifetimeHours := 1 } .argon2id ⟨0, 0⟩
    let issued := service.signer.issue ⟨Uuid.random 1, "alice", .user⟩ (Uuid.random 2)
      ⟨1700000000, 500000000⟩
    let o : Occasion := ⟨⟨1700000000, 500000000⟩, 0, Uuid.random 3, []⟩
    let o' : Occasion := ⟨⟨1700003600, 500000000⟩, 3600000000000, Uuid.random 3, []⟩
    (service.logout o (bearer issued.token) {}).1 = .ok () ∧ o.Together o' ∧
      service.Accepts o' issued.token (service.logout o (bearer issued.token) {}).2 := by
  intro service issued o o'
  have hrange : issued.claims.InRange := Signer.inRange_newClaims (by decide) (by decide)
  have htarget : service.logoutTarget o.wall.seconds (bearer issued.token) =
      .ok ((Uuid.random 2).text, 3600) :=
    (logoutTarget_issue_eq_ok_iff hrange).2 ⟨rfl, timeLeft_eq_ok_iff.2 (by decide)⟩
  have hlapsed : (service.logout o (bearer issued.token) {}).2.revocations.table.holds o'.steady
      (Uuid.random 2).text = false :=
    (holds_logout rfl (by decide) htarget (by decide)).trans (by simp [o, o', nanosPerSecond])
  refine ⟨fst_logout rfl htarget,
    ⟨by decide, by decide, by decide, by decide⟩, ?_⟩
  exact (accepts_issue_iff hrange (fault_logout o _ _)).2 ⟨by decide, hlapsed⟩

end Service

end Accounts

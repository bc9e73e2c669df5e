import Accounts.Proofs.Revocation.Run
import Accounts.Proofs.Token.RoundTrip

/-!
# What a logout revokes

* `Service.timeLeft_eq_ok_iff`: which time a token has left;
* **`Service.logoutTarget_bearer`**: a logout revokes the identifier that it reads, for the time that
  is left;
* **`Service.holds_logout`**: what a logout does to the answers about an identifier.
-/

namespace Accounts

/-- The authorization header with a token. -/
def bearer (token : String) : String := "Bearer " ++ token

theorem afterBearer?_bearer (token : String) : afterBearer? (bearer token) = some token := by
  have hd : Text.dropStart? bearerStart (bearer token).toList = some token.toList := by
    rw [Text.dropStart?_eq_some_iff, bearer, String.toList_append]
    rfl
  rw [afterBearer?, hd, Option.map_some, String.ofList_toList]

namespace Service

variable {service : Service}

theorem timeLeft_eq_ok_iff {now exp : Int} {n : Nat} :
    service.timeLeft now exp = .ok n ↔
      now < exp ∧ exp - now ≤ greatestSeconds ∧ n = min (exp - now).toNat service.signer.lifetime := by
  unfold timeLeft
  simp only
  split
  · simp only [reduceCtorEq, false_iff]
    omega
  · split
    · simp only [reduceCtorEq, false_iff]
      omega
    · simp only [Except.ok.injEq]
      omega

/-- **A logout revokes the identifier that it reads for the time that is left** until the end that it
reads. -/
theorem logoutTarget_bearer {token id : String} {exp : Int}
    (hp : decodePayload? token = some ⟨some id, exp⟩) (hid : id ≠ "") (now : Int) :
    service.logoutTarget now (bearer token) =
      (service.timeLeft now exp).map fun seconds => (id, seconds) := by
  have hf : (some id).filter (· ≠ "") = some id := by simp [hid]
  rw [logoutTarget, afterBearer?_bearer]
  simp only [hp, hf]

variable (service) in
theorem logoutTarget_sign (signer : Signer) {c : Claims} (hc : c.InRange) (hjti : c.jti ≠ "")
    (now : Int) : service.logoutTarget now (bearer (signer.sign c)) =
      (service.timeLeft now c.exp).map fun seconds => (c.jti, seconds) :=
  logoutTarget_bearer (decodePayload?_sign signer hc) hjti now

theorem bounds_of_logoutTarget (hlifetime : 0 < service.signer.lifetime) {now : Int} {h id : String}
    {seconds : Nat} (ht : service.logoutTarget now h = .ok (id, seconds)) :
    0 < seconds ∧ seconds ≤ service.signer.lifetime := by
  unfold logoutTarget at ht
  split at ht
  · cases ht
  split at ht
  · cases ht
  split at ht
  · cases ht
  obtain ⟨n, hn, heq⟩ := Outcome.map_eq_ok_iff.1 ht
  cases heq
  exact service.timeLeft_bounds hlifetime hn

theorem logout_eq_ok {o : Occasion} {h : String} {st : State}
    (hok : (service.logout o h st).1 = .ok ()) :
    ∃ id seconds, service.logoutTarget o.wall.seconds h = .ok (id, seconds) := by
  unfold logout at hok
  cases ht : service.logoutTarget o.wall.seconds h with
  | error f =>
    rw [ht] at hok
    cases hok
  | ok target => exact ⟨target.1, target.2, rfl⟩

theorem putOf?_logout_eq_some_iff {o : Occasion} {h id : String} {ttl : Nat} :
    service.putOf? o (.logout h) = some (id, ttl) ↔
      ∃ seconds, service.logoutTarget o.wall.seconds h = .ok (id, seconds) ∧ 0 < seconds ∧
        ttl = nanosPerSecond * seconds := by
  have hnanos : 0 < nanosPerSecond := by decide
  rw [putOf?]
  cases service.logoutTarget o.wall.seconds h with
  | error f => simp
  | ok target =>
    obtain ⟨other, seconds⟩ := target
    simp only [putOfRevoke?, Except.ok.injEq, Prod.mk.injEq]
    by_cases hpos : 0 < seconds
    · have := Nat.mul_pos hnanos hpos
      rw [if_neg (by omega), Int.toNat_natCast]
      simp only [Option.some.injEq, Prod.mk.injEq]
      constructor
      · rintro ⟨hid, hs⟩
        exact ⟨seconds, ⟨hid, rfl⟩, hpos, hs.symm⟩
      · rintro ⟨n, ⟨hid, rfl⟩, -, hs⟩
        exact ⟨hid, hs.symm⟩
    · have hzero : seconds = 0 := by omega
      subst hzero
      rw [if_pos (by simp)]
      constructor
      · intro h
        cases h
      · rintro ⟨n, ⟨-, rfl⟩, hp, -⟩
        cases hp

theorem fault_logout (o : Occasion) (h : String) (st : State) :
    (service.logout o h st).2.revocations.fault = st.revocations.fault :=
  fault_after o st (.logout h)

/-- **What a logout does to the answers about an identifier.** -/
theorem holds_logout {st : State} (hf : st.revocations.fault = none) {o : Occasion} {later : Nat}
    (hlater : o.steady ≤ later) {h id : String} {seconds : Nat}
    (ht : service.logoutTarget o.wall.seconds h = .ok (id, seconds)) (hpos : 0 < seconds) :
    (service.logout o h st).2.revocations.table.holds later id =
      decide (later < o.steady + nanosPerSecond * seconds) := by
  have hstep := service.holds_after hf hlater (.logout h) id
  rw [putOf?_logout_eq_some_iff.2 ⟨seconds, ht, hpos, rfl⟩] at hstep
  exact hstep.trans (if_pos rfl)

end Service

end Accounts

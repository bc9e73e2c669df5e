import Accounts.Proofs.Token.Soundness
import Accounts.Proofs.Users.Integrity

/-!
# The end of a token as a point in time

The checks compare the end of a token with the clock as numbers of seconds. Whoever reads the claims
is told a point in time, and the calendar does not hold every number of seconds: before its first
second and after its last, what is told is the first point in time.

* `Claims.expiresAt_eq`: what is told;
* **`Claims.expiresAt_le_iff`**: a later end is told as no earlier one, unless the calendar ends
  between the two;
* `Signer.bounds_of_decodeVerified`: the seconds at which a token is accepted;
* **`Signer.told_end_of_accepted`**: an accepted token is told as ended exactly if its end lies
  beyond the calendar;
* `Signer.accepted_token_told_as_ended`: one second beyond it.
-/

namespace Accounts

theorem Timestamp.le_seconds_iff {a b : Int} : Timestamp.le ⟨a, 0⟩ ⟨b, 0⟩ = true ↔ a ≤ b := by
  rw [le_iff]
  dsimp only
  omega

/-! ## What is told -/

namespace Claims

variable {c d : Claims}

theorem expiresAt_eq (c : Claims) : c.expiresAt =
    if Timestamp.firstSecond ≤ c.exp ∧ c.exp ≤ Timestamp.lastSecond then ⟨c.exp, 0⟩
    else Timestamp.earliest := by
  rw [expiresAt, Timestamp.ofSeconds?]
  split <;> rfl

theorem expiresAt_of_before (h : c.exp ≤ Timestamp.firstSecond) :
    c.expiresAt = Timestamp.earliest := by
  rw [expiresAt_eq]
  split
  · next hheld => rw [Int.le_antisymm h hheld.1, Timestamp.earliest]
  · rfl

theorem expiresAt_of_beyond (h : Timestamp.lastSecond < c.exp) :
    c.expiresAt = Timestamp.earliest := by
  rw [expiresAt_eq, if_neg fun hheld => Int.not_lt.2 hheld.2 h]

theorem earliest_le_expiresAt (c : Claims) : Timestamp.earliest.le c.expiresAt = true := by
  rw [expiresAt_eq]
  split
  · next hheld => exact Timestamp.le_seconds_iff.2 hheld.1
  · exact Timestamp.le_refl _

/-- **A later end is told as no earlier one, unless the calendar ends between the two.** Below the
calendar all ends are told as its first point in time, which no other comes before; beyond it they
are told as the same, which comes before all others. -/
theorem expiresAt_le_iff (h : c.exp ≤ d.exp) : c.expiresAt.le d.expiresAt = true ↔
    ¬(Timestamp.firstSecond < c.exp ∧ c.exp ≤ Timestamp.lastSecond ∧
      Timestamp.lastSecond < d.exp) := by
  by_cases hfirst : c.exp ≤ Timestamp.firstSecond
  · rw [expiresAt_of_before hfirst]
    exact iff_of_true d.earliest_le_expiresAt fun hends => Int.not_lt.2 hfirst hends.1
  by_cases hbeyond : Timestamp.lastSecond < c.exp
  · rw [expiresAt_of_beyond hbeyond]
    exact iff_of_true d.earliest_le_expiresAt fun hends => Int.not_lt.2 hends.2.1 hbeyond
  have hheld : c.expiresAt = ⟨c.exp, 0⟩ := expiresAt_of_held (by omega) (by omega)
  by_cases hlast : d.exp ≤ Timestamp.lastSecond
  · rw [hheld, expiresAt_of_held (by omega) hlast, Timestamp.le_seconds_iff]
    omega
  · rw [hheld, expiresAt_of_beyond (by omega), Timestamp.earliest, Timestamp.le_seconds_iff]
    omega

end Claims

/-! ## What is told of an accepted token -/

namespace Signer

variable {signer : Signer} {now : Int} {token : String} {c d : Claims}

theorem nonneg_of_checkClaims (h : signer.checkClaims now c = .ok d) : 0 ≤ c.exp ∧ 0 ≤ c.nbf := by
  unfold checkClaims at h
  split at h
  · cases h
  · omega

theorem bounds_of_decodeVerified (h : signer.decodeVerified now token = .ok c) :
    0 ≤ now ∧ now ≤ c.exp := by
  obtain ⟨_, _, _, _, -, -, -, -, -, hcheck⟩ := exists_of_decodeVerified h
  have hnonneg := nonneg_of_checkClaims hcheck
  have htime := (checkClaims_eq_ok hcheck).2.1
  omega

/-- **An accepted token is told as ended exactly if its end lies beyond the calendar.** If the
calendar holds the end, it is told as it is, and has not passed while the token is accepted. If not,
the first point in time is told, which has passed. Over all numbers of seconds, what is told keeps
the order exactly unless the calendar ends between the two. -/
theorem told_end_of_accepted (signer : Signer) :
    (∀ (c : Claims) (now : Int) (token : String), signer.decodeVerified now token = .ok c →
      (c.exp ≤ Timestamp.lastSecond → c.expiresAt = ⟨c.exp, 0⟩) ∧
      (Timestamp.lastSecond < c.exp → c.expiresAt = Timestamp.earliest) ∧
      (Timestamp.le ⟨now, 0⟩ c.expiresAt = true ↔ c.exp ≤ Timestamp.lastSecond)) ∧
    ∀ c d : Claims, c.exp ≤ d.exp →
      (c.expiresAt.le d.expiresAt = true ↔
        ¬(Timestamp.firstSecond < c.exp ∧ c.exp ≤ Timestamp.lastSecond ∧
          Timestamp.lastSecond < d.exp)) := by
  refine ⟨fun c now token h => ?_, fun c d h => Claims.expiresAt_le_iff h⟩
  obtain ⟨hnow, hend⟩ := bounds_of_decodeVerified h
  have hfirst := Timestamp.firstSecond_eq
  have hheld (hlast : c.exp ≤ Timestamp.lastSecond) : c.expiresAt = ⟨c.exp, 0⟩ :=
    Claims.expiresAt_of_held (by omega) hlast
  refine ⟨hheld, Claims.expiresAt_of_beyond, ?_⟩
  by_cases hlast : c.exp ≤ Timestamp.lastSecond
  · rw [hheld hlast, Timestamp.le_seconds_iff]
    exact iff_of_true hend hlast
  · rw [Claims.expiresAt_of_beyond (Int.not_le.1 hlast), Timestamp.earliest,
      Timestamp.le_seconds_iff]
    omega

/-- A token that is accepted in the last second of the calendar is told to end in it, no earlier
than one that ends at the start of 1970. -/
theorem told_end_of_accepted_in_last_second :
    let signer := ofSettings { secret := "test-secret-key-for-account-service" }
    let c : Claims := ⟨Uuid.random 1, "alice", .user, "jti-1", "account-service", "account-clients",
      1700000000, 1700000000, 8210266876799⟩
    signer.decodeVerified 8210266876799 (signer.sign c) = .ok c ∧
      c.expiresAt = ⟨8210266876799, 0⟩ ∧
      Timestamp.le ⟨8210266876799, 0⟩ c.expiresAt = true ∧
      ({ c with exp := 0 } : Claims).expiresAt.le c.expiresAt = true := by
  intro signer c
  have hc : c.InRange := ⟨by decide, by decide, by decide⟩
  have haccepted : signer.decodeVerified 8210266876799 (signer.sign c) = .ok c :=
    (signer.decodeVerified_sign hc 8210266876799).trans rfl
  obtain ⟨htold, horder⟩ := signer.told_end_of_accepted
  obtain ⟨hheld, -, hpast⟩ := htold c 8210266876799 (signer.sign c) haccepted
  have hlast : c.exp ≤ Timestamp.lastSecond := by decide
  refine ⟨haccepted, hheld hlast, hpast.2 hlast, ?_⟩
  exact (horder { c with exp := 0 } c (by decide)).2 (by decide)

/-- A token that ends one second after the calendar is accepted, and told to have ended in the first
year of the calendar; one that ends a second earlier is told to end after it. -/
theorem accepted_token_told_as_ended :
    let signer := ofSettings { secret := "test-secret-key-for-account-service" }
    let c : Claims := ⟨Uuid.random 1, "alice", .user, "jti-1", "account-service", "account-clients",
      1700000000, 1700000000, 8210266876800⟩
    c.InRange ∧ signer.decodeVerified 1700000000 (signer.sign c) = .ok c ∧
      c.expiresAt.offsetText = "-262143-01-01T00:00:00+00:00" ∧
      Timestamp.le ⟨1700000000, 0⟩ c.expiresAt = false ∧
      ({ c with exp := 8210266876799 } : Claims).expiresAt.le c.expiresAt = false := by
  intro signer c
  have hc : c.InRange := ⟨by decide, by decide, by decide⟩
  refine ⟨hc, (signer.decodeVerified_sign hc 1700000000).trans rfl, ?_, ?_, ?_⟩
  · decide +kernel
  · decide
  · decide

end Signer

end Accounts

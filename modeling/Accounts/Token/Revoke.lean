import Accounts.Gate.Bearer
import Accounts.Service.Basic

/-!
# Revoking tokens

A token is revoked for the time that it has left. At its bearer's wish this time comes from the
token itself, whose signature is not looked at; so it is never more than a lifetime.

* `State.revoke`: revokes an identifier for some time; without time nothing happens;
* `Service.timeLeft`: the seconds that a token has left;
* `Service.logout`: revokes the token of an authorization header;
* **`timeLeft_bounds`**: a time that is given is at least a second and at most the lifetime.
-/

namespace Accounts

/-- Nanoseconds in a second. -/
def nanosPerSecond : Nat := 1000000000

/-- Revokes an identifier for some nanoseconds. -/
def State.revoke (st : State) (o : Occasion) (id : String) (ttl : Int) :
    Except RevocationFault Unit × State :=
  if ttl ≤ 0 then (.ok (), st.count (.revocation .noop))
  else
    let (done, store) := st.revocations.put o.steady id ttl.toNat
    let outcome : RevokeOutcome :=
      match done with
      | .ok _ => .revoked
      | .error _ => .error
    (done, { st with revocations := store }.count (.revocation outcome))

/-- The greatest number of whole seconds in milliseconds of 64 bits. -/
def greatestSeconds : Int := (Decimal.integerBound - 1) / 1000

namespace Service

variable (service : Service)

/-- The seconds from now to the end of a token, at most a lifetime. -/
def timeLeft (now exp : Int) : Except LogoutFault Nat :=
  let left := exp - now
  if left ≤ 0 then .error .expired
  else if greatestSeconds < left then .error .malformed
  else .ok (min left.toNat service.signer.lifetime)

/-- What a logout revokes: the identifier of the token in an authorization header, and for how many
seconds. -/
def logoutTarget (now : Int) (authorization : String) : Except LogoutFault (String × Nat) :=
  match afterBearer? authorization with
  | none => .error .invalidFormat
  | some token =>
    match decodePayload? token with
    | none => .error .malformed
    | some claims =>
      match claims.jti.filter (· ≠ "") with
      | none => .error .missingTokenId
      | some id => (service.timeLeft now claims.exp).map fun seconds => (id, seconds)

/-- Revokes the token of an authorization header. -/
def logout (o : Occasion) (authorization : String) (st : State) :
    Except LogoutFault Unit × State :=
  match service.logoutTarget o.wall.seconds authorization with
  | .error f => (.error f, st)
  | .ok (id, seconds) =>
    let (done, st) := st.revoke o id (nanosPerSecond * seconds : Nat)
    (done.mapError .store, st)

/-- **A time that is given is at least a second and at most the lifetime.** -/
theorem timeLeft_bounds {now exp : Int} {n : Nat} (hpos : 0 < service.signer.lifetime)
    (h : service.timeLeft now exp = .ok n) : 0 < n ∧ n ≤ service.signer.lifetime := by
  unfold timeLeft at h
  simp only at h
  split at h
  · cases h
  · split at h
    · cases h
    · injection h with h
      subst h
      omega

end Service

end Accounts

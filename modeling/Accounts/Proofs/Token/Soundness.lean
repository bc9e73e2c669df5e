import Accounts.Proofs.Token.RoundTrip
import Accounts.Token.Verify

/-!
# What a valid token is

* `Genuine`: everything that the local checks find out about a token;
* `Signer.exists_of_decodeVerified`: the checks that a token has passed, one by one;
* **`Signer.genuine_of_decodeVerified`**: what passes the local checks is genuine;
* **`Service.verify_sound`**: only a genuine token that the store does not hold is valid, and
  checking never writes.
-/

namespace Accounts

/-- Everything that the local checks find out about a token at a second: it is three segments
without dots, an object that names the algorithm, an object that gives the claims, and the signature
of both, and the claims are of this signer and of this time. -/
structure Genuine (signer : Signer) (now : Int) (token : String) (c : Claims)
    (h p s : List Char) (a : Algorithm) : Prop where
  segments : token = String.ofList (h ++ '.' :: (p ++ '.' :: s))
  dotFree : '.' ∉ h ∧ '.' ∉ p ∧ '.' ∉ s
  /-- The header is the base64 of an object whose member `alg` is the name of the algorithm. -/
  header : ∃ bytes members, h = Base64.encode .url bytes ∧
    Json.Document.ofBytes bytes = ⟨.object members true, true⟩ ∧
    members.lookup (some "alg") = some (.string (some a.name))
  signature : s = a.sign signer.key (Signer.bytesOf (h ++ '.' :: p))
  /-- The payload is the base64 of an object whose members are all nine claims. -/
  payload : ∃ bytes members, p = Base64.encode .url bytes ∧
    Json.Document.ofBytes bytes = ⟨.object members true, true⟩ ∧ c.IsGivenBy members
  inTime : c.nbf ≤ now ∧ now ≤ c.exp
  iss : c.iss = signer.issuer
  aud : c.aud = signer.audience
  jti : c.jti ≠ ""

namespace Signer

/-! ## The local checks, one by one -/

theorem ofName?_eq_some {name : String} {a : Algorithm} (h : Algorithm.ofName? name = some a) :
    name = a.name := by
  unfold Algorithm.ofName? at h
  split at h
  · next hn => cases h; exact hn
  split at h
  · next hn => cases h; exact hn
  split at h
  · next hn => cases h; exact hn
  · cases h

theorem checkAlgorithm_eq_ok {token : List Char} {a : Algorithm}
    (h : checkAlgorithm token = .ok a) :
    Header.algorithmName? ((Text.pieces '.' token).headD []) = some a.name := by
  unfold checkAlgorithm at h
  split at h
  · cases h
  · next name hname =>
    split at h
    · next b hb =>
      cases h
      rw [hname, ofName?_eq_some hb]
    · cases h

theorem readClaims?_eq_some {p : List Char} {c : Claims} (h : readClaims? p = some c) :
    ∃ bytes members, p = Base64.encode .url bytes ∧
      Json.Document.ofBytes bytes = ⟨.object members true, true⟩ ∧ c.IsGivenBy members := by
  obtain ⟨⟨root, complete⟩, hdoc, h⟩ := Option.bind_eq_some_iff.1 h
  obtain ⟨bytes, hbytes, hof⟩ := Option.map_eq_some_iff.1 hdoc
  simp only at h
  split at h
  · next members closed =>
    obtain ⟨hr, hcomplete⟩ := Json.Document.read_eq_ok_iff.1 (Outcome.toOption_eq_some_iff.1 h)
    obtain ⟨hclosed, hgiven⟩ := Claims.read_object hr
    simp only at hcomplete
    rw [hclosed, hcomplete] at hof
    exact ⟨bytes, members, (Base64.decode?_eq_some_iff _).1 hbytes, hof, hgiven⟩
  · cases h

variable {signer : Signer} {now : Int}

theorem checkClaims_eq_ok {c d : Claims} (h : signer.checkClaims now c = .ok d) :
    d = c ∧ (c.nbf ≤ now ∧ now ≤ c.exp) ∧ c.iss = signer.issuer ∧ c.aud = signer.audience ∧
      c.jti ≠ "" := by
  unfold checkClaims at h
  split at h
  · cases h
  split at h
  · cases h
  · next htime =>
    split at h
    · cases h
    · next hown =>
      split at h
      · cases h
      · next hjti =>
        cases h
        rw [not_or, not_not, not_not] at hown
        exact ⟨rfl, by omega, hown.1, hown.2, hjti⟩

theorem dot_not_mem_of_isWellFormed {h : List Char} (hh : Header.isWellFormed h = true) :
    '.' ∉ h := by
  unfold Header.isWellFormed at hh
  split at hh
  · next doc hdoc => exact Header.dot_not_mem_of_document? hdoc
  · cases hh

theorem exists_of_decodeVerified {token : String} {c : Claims}
    (hc : signer.decodeVerified now token = .ok c) :
    ∃ h p s a, checkAlgorithm token.toList = .ok a ∧ cut? token.toList = some (h, p, s) ∧
      Header.isWellFormed h = true ∧ s = a.sign signer.key (bytesOf (h ++ '.' :: p)) ∧
      readClaims? p = some c ∧ signer.checkClaims now c = .ok c := by
  obtain ⟨a, ha, hc⟩ := Outcome.bind_eq_ok_iff.1 hc
  split at hc
  · cases hc
  · next h p s hcut =>
    split at hc
    · cases hc
    · next hform =>
      split at hc
      · cases hc
      · next hsign =>
        split at hc
        · cases hc
        · next d hd =>
          obtain rfl : c = d := (checkClaims_eq_ok hc).1
          exact ⟨h, p, s, a, ha, hcut, by simpa using hform, not_not.1 hsign, hd, hc⟩

/-- **What passes the local checks is genuine.** -/
theorem genuine_of_decodeVerified {token : String} {c : Claims}
    (hc : signer.decodeVerified now token = .ok c) :
    ∃ h p s a, Genuine signer now token c h p s a := by
  obtain ⟨h, p, s, a, ha, hcut, hform, hsign, hd, hcheck⟩ := exists_of_decodeVerified hc
  obtain ⟨htoken, hp, hs⟩ := cut?_eq_some_iff.1 hcut
  have hh := dot_not_mem_of_isWellFormed hform
  have hname := checkAlgorithm_eq_ok ha
  rw [htoken, headD_pieces_segments hh] at hname
  obtain ⟨-, htime, hiss, haud, hjti⟩ := checkClaims_eq_ok hcheck
  refine ⟨h, p, s, a, ?_, ⟨hh, hp, hs⟩, Header.exists_object hname hform, hsign,
    readClaims?_eq_some hd, htime, hiss, haud, hjti⟩
  rw [← String.ofList_toList (s := token), htoken]
  rfl

end Signer

/-! ## The look-up -/

namespace Service

variable (service : Service) {o : Occasion} {token : String} {c : Claims}

theorem verify_of_ok (h : service.signer.decodeVerified o.wall.seconds token = .ok c)
    (store : RevocationStore) :
    service.verify o token store =
      (judge c (store.contains o.steady c.jti).1, store.called (.contains c.jti)) := by
  rw [verify, h]
  rfl

theorem judge_eq_valid {answer : Except RevocationFault Bool} {i : Identity}
    (h : judge c answer = .ok (.valid i)) : answer = .ok false ∧ i = c.identity := by
  cases answer with
  | error f => cases h
  | ok found =>
    cases found with
    | true => cases h
    | false =>
      cases h
      exact ⟨rfl, rfl⟩

/-- **Only a genuine token that the store does not hold is valid.** A token that fails a local check
is not looked up, any other is looked up once; a look-up that fails decides nothing; and the table
of the store stays as it is. -/
theorem verify_sound {o : Occasion} {token : String} {store after : RevocationStore}
    {outcome : Except TokenFault Verification}
    (hv : service.verify o token store = (outcome, after)) :
    (∀ i, outcome = .ok (.valid i) → ∃ c h p s a,
      Genuine service.signer o.wall.seconds token c h p s a ∧ i = c.identity ∧
        (store.contains o.steady c.jti).1 = .ok false ∧
        after.calls = store.calls ++ [.contains c.jti]) ∧
    (match service.signer.decodeVerified o.wall.seconds token with
      | .error reason => outcome = .ok (.invalid reason) ∧ after.calls = store.calls
      | .ok c => (∃ h p s a, Genuine service.signer o.wall.seconds token c h p s a) ∧
        after.calls = store.calls ++ [.contains c.jti] ∧
        match (store.contains o.steady c.jti).1 with
        | .ok false => outcome = .ok (.valid c.identity)
        | .ok true => outcome = .ok (.invalid .revoked)
        | .error f => outcome = .error (.store f)) ∧
    after.table = store.table := by
  cases hd : service.signer.decodeVerified o.wall.seconds token with
  | error reason =>
    rw [service.verify_of_reject hd] at hv
    cases hv
    exact ⟨fun _ => nofun, ⟨rfl, rfl⟩, rfl⟩
  | ok c =>
    rw [service.verify_of_ok hd] at hv
    cases hv
    have hgenuine := Signer.genuine_of_decodeVerified hd
    refine ⟨fun i hi => ?_, ⟨hgenuine, rfl, ?_⟩, rfl⟩
    · obtain ⟨hanswer, hi⟩ := judge_eq_valid hi
      obtain ⟨h, p, s, a, hg⟩ := hgenuine
      exact ⟨c, h, p, s, a, hg, hi, hanswer, rfl⟩
    · split <;> next hanswer => rw [hanswer]; rfl

/-- A token in its last second. -/
theorem verify_sound_of_issued :
    let service : Service := .ofSettings {} .argon2id ⟨0, 0⟩
    let issued := service.signer.issue ⟨Uuid.random 1, "alice", .user⟩ (Uuid.random 2) ⟨0, 0⟩
    let o : Occasion := ⟨⟨86400, 999999999⟩, 0, Uuid.random 3, []⟩
    service.verify o issued.token {} =
        (.ok (.valid ⟨Uuid.random 1, "alice", .user⟩),
          RevocationStore.called {} (.contains issued.tokenId)) ∧
      ∃ c h p s a, Genuine service.signer 86400 issued.token c h p s a ∧
        Identity.mk (Uuid.random 1) "alice" .user = c.identity := by
  intro service issued o
  have hc : (service.signer.newClaims ⟨Uuid.random 1, "alice", .user⟩ (Uuid.random 2)
      ⟨0, 0⟩).InRange := Signer.inRange_newClaims (by decide) (by decide)
  have hd := Signer.decodeVerified_issue (by decide) hc 86400
  rw [if_pos (by decide)] at hd
  have hv := service.verify_of_ok (o := o) hd {}
  obtain ⟨c, h, p, s, a, hg, hi, -, -⟩ := (service.verify_sound hv).1 _ rfl
  exact ⟨hv, c, h, p, s, a, hg, hi⟩

end Service

end Accounts

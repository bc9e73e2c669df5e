import Accounts.Proofs.Token.Soundness

/-!
# The two readers of a payload agree

A check reads nine claims from the segment between the last two dots. A revocation reads two from
the second of exactly three segments, and passes over all others. What the one accepts the other
reads as well, and alike.

* `Claims.isWhole_of_check`: what a claim's reader takes is whole, so another may pass over it;
* **`RevocationClaims.read_of_claims`**: an object that is read as claims is read for a revocation as
  their identifier and their end;
* `Signer.exists_segments_of_decodeVerified`: the payload of a token that passes the local checks;
* **`decodePayload?_of_decodeVerified`**: a revocation reads from it the identifier and the end that
  the checks have read.
-/

namespace Accounts

open Json Record

/-! ## Values that a reader takes are whole -/

namespace Json

variable {α : Type} {v : Node}

theorem isWhole_of_readTextAs {expected s : String} (h : readTextAs expected v = .ok s) :
    v.isWhole = true := by
  unfold readTextAs at h
  split at h
  · rfl
  · exact absurd h (mismatch_ne_ok _ _ _)

theorem isWhole_of_readFormatted {expected what : String} {parse : String → Option α} {a : α}
    (h : readFormatted expected what parse v = .ok a) : v.isWhole = true := by
  obtain ⟨s, hs, -⟩ := Outcome.bind_eq_ok_iff.1 h
  exact isWhole_of_readTextAs hs

theorem isWhole_of_readInteger {n : Int} (h : readInteger v = .ok n) : v.isWhole = true := by
  unfold readInteger at h
  split at h
  · rfl
  · exact absurd h (mismatch_ne_ok _ _ _)

theorem isWhole_of_readNamed {options : List (String × α)} {a : α}
    (h : readNamed options v = .ok a) : v.isWhole = true := by
  unfold readNamed at h
  split at h
  · rfl
  · next name w more closed =>
    obtain ⟨b, -, h⟩ := Outcome.bind_eq_ok_iff.1 h
    obtain ⟨_, -, h⟩ := Outcome.bind_eq_ok_iff.1 h
    split at h
    · next hc =>
      rw [Bool.and_eq_true] at hc
      exact hc.2
    · cases h
  · exact absurd h (mismatch_ne_ok _ _ _)
  · cases h

theorem isWhole_of_required {name : String} {read : Node → Reading α}
    (hread : ∀ a, read v = .ok a → v.isWhole = true)
    (h : (Field.required name read).check v = .ok ()) : v.isWhole = true := by
  obtain ⟨a, ha, -⟩ := Outcome.map_eq_ok_iff.1 h
  exact hread a ha

end Json

theorem Claims.isWhole_of_check :
    ∀ f ∈ Claims.fields, ∀ v, f.check v = .ok () → v.isWhole = true := by
  have htext (name : String) (v : Node) (h : (Field.required name readText).check v = .ok ()) :
      v.isWhole = true := isWhole_of_required (fun _ => isWhole_of_readTextAs) h
  have hinteger (name : String) (v : Node)
      (h : (Field.required name readInteger).check v = .ok ()) : v.isWhole = true :=
    isWhole_of_required (fun _ => isWhole_of_readInteger) h
  simp only [Claims.fields, List.forall_mem_cons]
  exact ⟨fun v => isWhole_of_required fun _ => isWhole_of_readFormatted, htext "username",
    fun v => isWhole_of_required fun _ => isWhole_of_readNamed, htext "jti", htext "iss",
    htext "aud", hinteger "iat", hinteger "nbf", hinteger "exp", fun _ hf => nomatch hf⟩

/-! ## Two records from one object -/

namespace RevocationClaims

theorem names_fields : RevocationClaims.fields.map Field.name = ["jti", "exp"] := rfl

theorem knows_of_knows (name : String) (h : Knows RevocationClaims.fields name) :
    Knows Claims.fields name := by
  have hsub : RevocationClaims.fields.map Field.name ⊆ Claims.fields.map Field.name := by decide
  exact knows_iff.2 (hsub (knows_iff.1 h))

theorem admits_of_claims (name : String) (v : Node) (h : Admits Claims.fields name v) :
    Admits RevocationClaims.fields name v := by
  have hwhole := isWhole_of_admits Claims.isWhole_of_check h
  -- two names are known to both; a member with any other has only to be whole
  by_cases hjti : name = "jti"
  · subst hjti
    obtain ⟨s, hs, -⟩ := Outcome.map_eq_ok_iff.1 (show (readText v).map _ = .ok () from h)
    rw [readText_eq_ok hs]
    rfl
  · by_cases hexp : name = "exp"
    · subst hexp
      exact h
    · refine admits_of_not_knows (fun hk => ?_) hwhole
      rw [knows_iff, names_fields] at hk
      simp [hjti, hexp] at hk

/-- **An object that is read as claims is read for a revocation** as their identifier and their
end. -/
theorem read_of_claims {members : List (Option String × Node)} {closed : Bool} {c : Claims}
    (h : Claims.read (.object members closed) = .ok c) :
    RevocationClaims.read (.object members closed) = .ok ⟨some c.jti, c.exp⟩ := by
  obtain ⟨-, hgiven⟩ := Claims.read_object h
  obtain ⟨jti, hjti, hreadJti⟩ := hgiven.jti
  obtain ⟨exp, hexp, hreadExp⟩ := hgiven.exp
  obtain ⟨f, hf, -⟩ := Outcome.bind_eq_ok_iff.1 h
  have hrequired : ∀ g ∈ RevocationClaims.fields,
      g.optional = true ∨ ∃ v, members.lookup (some g.name) = some v := by
    rw [RevocationClaims.fields, List.forall_mem_cons, List.forall_mem_cons]
    exact ⟨.inl rfl, .inr ⟨exp, hexp⟩, fun _ hg => nomatch hg⟩
  have hfewer : ∃ f', Record.fields "RevocationClaims" RevocationClaims.fields
      (.object members closed) = .ok f' :=
    exists_fields_of_admits knows_of_knows admits_of_claims hrequired hf
  obtain ⟨f', hf'⟩ := hfewer
  have hlookup := (fields_object hf').2
  have hgetJti : f'.get? "jti" readText = .ok (some c.jti) := by
    rw [Fields.get?, Fields.getD, hlookup "jti" ⟨_, rfl⟩, hjti, readText_eq_ok hreadJti]
    rfl
  refine Outcome.bind_eq_ok_iff.2 ⟨f', hf', ?_⟩
  refine Outcome.bind_eq_ok_iff.2 ⟨some c.jti, hgetJti, ?_⟩
  refine Outcome.bind_eq_ok_iff.2 ⟨c.exp, get_eq_ok_iff.2 ⟨exp, ?_, hreadExp⟩, rfl⟩
  exact (hlookup "exp" ⟨_, rfl⟩).trans hexp

end RevocationClaims

/-! ## Two ways to cut a token -/

theorem Signer.exists_segments_of_decodeVerified {signer : Signer} {now : Int} {token : String}
    {c : Claims} (h : signer.decodeVerified now token = .ok c) :
    ∃ header payload signature, Text.pieces '.' token.toList = [header, payload, signature] ∧
      readClaims? payload = some c := by
  obtain ⟨header, payload, signature, a, -, hcut, hform, -, hclaims, -⟩ :=
    exists_of_decodeVerified h
  obtain ⟨htoken, hp, hs⟩ := cut?_eq_some_iff.1 hcut
  refine ⟨header, payload, signature, ?_, hclaims⟩
  rw [htoken, pieces_segments (dot_not_mem_of_isWellFormed hform) hp hs]

/-- Under a right signature the payload decides, whoever wrote it. -/
theorem Signer.decodeVerified_segments (signer : Signer) (a : Algorithm) {payload : List Char}
    {c : Claims} (hp : '.' ∉ payload) (hc : readClaims? payload = some c) (now : Int) :
    signer.decodeVerified now (String.ofList (segments (Header.text a) payload
      (a.sign signer.key (bytesOf (Header.text a ++ '.' :: payload))))) =
        signer.checkClaims now c := by
  have halg : checkAlgorithm (segments (Header.text a) payload
      (a.sign signer.key (bytesOf (Header.text a ++ '.' :: payload)))) = .ok a := by
    rw [checkAlgorithm, headD_pieces_segments (dot_not_mem_header a), Header.algorithmName?_text]
    simp only [Algorithm.ofName?_name]
  have hs : '.' ∉ a.sign signer.key (bytesOf (Header.text a ++ '.' :: payload)) :=
    Base64.dot_not_mem_encode _ _
  rw [decodeVerified, String.toList_ofList, halg, cut?_eq_some_iff.2 ⟨rfl, hp, hs⟩]
  simp only [bind, Except.bind, Header.isWellFormed_text, Bool.not_true, Bool.false_eq_true,
    if_false, ne_eq, not_true_eq_false, hc]

/-- **A revocation reads from a token that passes the local checks** the identifier and the end that
they have read. -/
theorem decodePayload?_of_decodeVerified {signer : Signer} {now : Int} {token : String} {c : Claims}
    (h : signer.decodeVerified now token = .ok c) :
    decodePayload? token = some ⟨some c.jti, c.exp⟩ := by
  obtain ⟨header, payload, signature, hpieces, hclaims⟩ :=
    Signer.exists_segments_of_decodeVerified h
  obtain ⟨doc, hdoc, hclaims⟩ := Option.bind_eq_some_iff.1 hclaims
  rw [decodePayload?, hpieces]
  refine Option.bind_eq_some_iff.2 ⟨doc, hdoc, ?_⟩
  split at hclaims
  · next members closed hroot =>
    obtain ⟨hread, hcomplete⟩ := Document.read_eq_ok_iff.1 (Outcome.toOption_eq_some_iff.1 hclaims)
    rw [hroot] at hread
    refine Outcome.toOption_eq_some_iff.2 (Document.read_eq_ok_iff.2 ⟨?_, hcomplete⟩)
    rw [hroot]
    exact RevocationClaims.read_of_claims hread
  · cases hclaims

end Accounts

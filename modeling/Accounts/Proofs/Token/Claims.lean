import Accounts.Proofs.Json.Record
import Accounts.Proofs.Uuid
import Accounts.Token.Claims

/-!
# Claims are read back

* `Claims.IsGivenBy`: the members of an object that make claims;
* **`Claims.read_object`**: what is read as claims from an object is given by its members;
* `Claims.InRange`: times of 64 bits;
* **`Claims.read_node`**, `RevocationClaims.read_node`: the JSON form of claims is read as the
  claims, and for a revocation as their identifier and their end.
-/

namespace Accounts

open Json Record

/-! ## What was read -/

/-- The members of an object say what the claims are, each one of the nine. -/
structure Claims.IsGivenBy (c : Claims) (members : List (Option String × Node)) : Prop where
  sub : Gives members "sub" Uuid.read c.sub
  username : Gives members "username" readText c.username
  role : Gives members "role" Role.read c.role
  jti : Gives members "jti" readText c.jti
  iss : Gives members "iss" readText c.iss
  aud : Gives members "aud" readText c.aud
  iat : Gives members "iat" readInteger c.iat
  nbf : Gives members "nbf" readInteger c.nbf
  exp : Gives members "exp" readInteger c.exp

/-- **What is read as claims from an object is given by its members.** -/
theorem Claims.read_object {members : List (Option String × Node)} {closed : Bool} {c : Claims}
    (h : Claims.read (.object members closed) = .ok c) : closed = true ∧ c.IsGivenBy members := by
  obtain ⟨f, hf, h⟩ := Outcome.bind_eq_ok_iff.1 h
  obtain ⟨sub, hsub, h⟩ := Outcome.bind_eq_ok_iff.1 h
  obtain ⟨username, husername, h⟩ := Outcome.bind_eq_ok_iff.1 h
  obtain ⟨role, hrole, h⟩ := Outcome.bind_eq_ok_iff.1 h
  obtain ⟨jti, hjti, h⟩ := Outcome.bind_eq_ok_iff.1 h
  obtain ⟨iss, hiss, h⟩ := Outcome.bind_eq_ok_iff.1 h
  obtain ⟨aud, haud, h⟩ := Outcome.bind_eq_ok_iff.1 h
  obtain ⟨iat, hiat, h⟩ := Outcome.bind_eq_ok_iff.1 h
  obtain ⟨nbf, hnbf, h⟩ := Outcome.bind_eq_ok_iff.1 h
  obtain ⟨exp, hexp, h⟩ := Outcome.bind_eq_ok_iff.1 h
  cases h
  exact ⟨(fields_object hf).1, gives_of_get hf ⟨_, rfl⟩ hsub, gives_of_get hf ⟨_, rfl⟩ husername,
    gives_of_get hf ⟨_, rfl⟩ hrole, gives_of_get hf ⟨_, rfl⟩ hjti, gives_of_get hf ⟨_, rfl⟩ hiss,
    gives_of_get hf ⟨_, rfl⟩ haud, gives_of_get hf ⟨_, rfl⟩ hiat, gives_of_get hf ⟨_, rfl⟩ hnbf,
    gives_of_get hf ⟨_, rfl⟩ hexp⟩

/-! ## What is written -/

/-- The times of the claims have 64 bits. -/
structure Claims.InRange (c : Claims) : Prop where
  iat : -0x8000000000000000 ≤ c.iat ∧ c.iat < 0x8000000000000000
  nbf : -0x8000000000000000 ≤ c.nbf ∧ c.nbf < 0x8000000000000000
  exp : -0x8000000000000000 ≤ c.exp ∧ c.exp < 0x8000000000000000

theorem integerBound_eq : (Decimal.integerBound : Int) = 0x8000000000000000 := rfl

theorem Claims.isExact_json {c : Claims} (h : c.InRange) : IsExact c.json := by
  have hi := h.iat
  have hn := h.nbf
  have he := h.exp
  rw [← integerBound_eq] at hi hn he
  exact ⟨trivial, trivial, trivial, trivial, trivial, trivial, hi, hn, he, trivial⟩

theorem readInteger_ofInt {n : Int} (h : -0x8000000000000000 ≤ n ∧ n < 0x8000000000000000) :
    readInteger (.number (Numeral.ofInt n)) = .ok n := by
  rw [← integerBound_eq] at h
  simp only [readInteger, Numeral.number?_ofInt h.1 h.2, if_pos h.2]

theorem Uuid.read_text (u : Uuid) : Uuid.read (.string (some u.text)) = .ok u := by
  refine Outcome.bind_eq_ok_iff.2 ⟨u.text, rfl, ?_⟩
  simp only [u.parse?_text]

theorem Role.read_name (r : Role) : Role.read (.string (some r.name)) = .ok r := by
  cases r <;> rfl

namespace Claims

/-- The members of the JSON form. -/
def members (c : Claims) : List (String × Node) :=
  [("sub", .string (some c.sub.text)), ("username", .string (some c.username)),
    ("role", .string (some c.role.name)), ("jti", .string (some c.jti)),
    ("iss", .string (some c.iss)), ("aud", .string (some c.aud)),
    ("iat", .number (Numeral.ofInt c.iat)), ("nbf", .number (Numeral.ofInt c.nbf)),
    ("exp", .number (Numeral.ofInt c.exp))]

theorem node_json (c : Claims) :
    c.json.node = .object (c.members.map fun m => (some m.1, m.2)) true := rfl

theorem names_members (c : Claims) : c.members.map Prod.fst =
    ["sub", "username", "role", "jti", "iss", "aud", "iat", "nbf", "exp"] := rfl

/-- **The JSON form of claims is read as the claims.** -/
theorem read_node {c : Claims} (h : c.InRange) : Claims.read c.json.node = .ok c := by
  obtain ⟨f, hf, hl⟩ := exists_fields "Claims" Claims.fields c.members
    (by rw [names_members]; decide) (by
      simp only [members, List.forall_mem_cons]
      exact ⟨admits_required rfl c.sub.read_text, admits_required rfl rfl,
        admits_required rfl c.role.read_name, admits_required rfl rfl, admits_required rfl rfl,
        admits_required rfl rfl, admits_required rfl (readInteger_ofInt h.iat),
        admits_required rfl (readInteger_ofInt h.nbf),
        admits_required rfl (readInteger_ofInt h.exp), fun _ hm => nomatch hm⟩)
    (by rw [names_members]; decide)
  refine Outcome.bind_eq_ok_iff.2 ⟨f, hf, ?_⟩
  refine Outcome.bind_eq_ok_iff.2 ⟨c.sub, get_of_lookup hl ⟨_, rfl⟩ rfl c.sub.read_text, ?_⟩
  refine Outcome.bind_eq_ok_iff.2 ⟨c.username, get_of_lookup hl ⟨_, rfl⟩ rfl rfl, ?_⟩
  refine Outcome.bind_eq_ok_iff.2 ⟨c.role, get_of_lookup hl ⟨_, rfl⟩ rfl c.role.read_name, ?_⟩
  refine Outcome.bind_eq_ok_iff.2 ⟨c.jti, get_of_lookup hl ⟨_, rfl⟩ rfl rfl, ?_⟩
  refine Outcome.bind_eq_ok_iff.2 ⟨c.iss, get_of_lookup hl ⟨_, rfl⟩ rfl rfl, ?_⟩
  refine Outcome.bind_eq_ok_iff.2 ⟨c.aud, get_of_lookup hl ⟨_, rfl⟩ rfl rfl, ?_⟩
  refine Outcome.bind_eq_ok_iff.2
    ⟨c.iat, get_of_lookup hl ⟨_, rfl⟩ rfl (readInteger_ofInt h.iat), ?_⟩
  refine Outcome.bind_eq_ok_iff.2
    ⟨c.nbf, get_of_lookup hl ⟨_, rfl⟩ rfl (readInteger_ofInt h.nbf), ?_⟩
  exact Outcome.bind_eq_ok_iff.2
    ⟨c.exp, get_of_lookup hl ⟨_, rfl⟩ rfl (readInteger_ofInt h.exp), rfl⟩

end Claims

/-- **For a revocation the JSON form of claims is read as their identifier and their end.** -/
theorem RevocationClaims.read_node {c : Claims} (h : c.InRange) :
    RevocationClaims.read c.json.node = .ok ⟨some c.jti, c.exp⟩ := by
  obtain ⟨f, hf, hl⟩ := exists_fields "RevocationClaims" RevocationClaims.fields c.members
    (by rw [Claims.names_members]; decide) (by
      simp only [Claims.members, List.forall_mem_cons]
      exact ⟨rfl, rfl, rfl, rfl, rfl, rfl, rfl, rfl,
        admits_required rfl (readInteger_ofInt h.exp), fun _ hm => nomatch hm⟩)
    (by rw [Claims.names_members]; decide)
  have hj : f.get? "jti" readText = .ok (some c.jti) := by
    rw [Fields.get?, Fields.getD, hl "jti" ⟨_, rfl⟩]
    rfl
  refine Outcome.bind_eq_ok_iff.2 ⟨f, hf, ?_⟩
  refine Outcome.bind_eq_ok_iff.2 ⟨some c.jti, hj, ?_⟩
  exact Outcome.bind_eq_ok_iff.2
    ⟨c.exp, get_of_lookup hl ⟨_, rfl⟩ rfl (readInteger_ofInt h.exp), rfl⟩

end Accounts

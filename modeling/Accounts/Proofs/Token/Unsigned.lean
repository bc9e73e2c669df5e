import Accounts.Proofs.Token.Payload

/-!
# What a revocation reads

A revocation takes two claims from a payload without a look at the signature, so anybody may have
written it. Here is what it takes, as a condition on the tree of the payload and on the text of the
token.

* `Numeral.IsWord`, `readInteger_eq_ok_iff`: integers of 64 bits;
* `RevocationClaims.Says`, **`RevocationClaims.read_eq_ok_iff`**: the payloads that are read;
* `Carries`, **`decodePayload?_eq_some_iff`**: the tokens whose payload is read.
-/

namespace Accounts

namespace Json

/-! ## Integers of 64 bits -/

/-- A numeral writes an integer of 64 bits: it has neither point nor exponent, and no minus before a
zero. -/
structure Numeral.IsWord (n : Numeral) (k : Int) : Prop where
  fraction : n.fraction = []
  exponent : n.exponent = none
  value : k = if n.negative then -(Decimal.value n.whole : Int) else Decimal.value n.whole
  zero : n.negative = true → k ≠ 0
  lower : -0x8000000000000000 ≤ k
  upper : k < 0x8000000000000000

theorem Numeral.number?_eq_integer_iff {n : Numeral} {k : Int}
    (hk : k < 0x8000000000000000) : n.number? = some (.integer k) ↔ n.IsWord k := by
  have hbound : Decimal.integerBound = 0x8000000000000000 := rfl
  have hsize : UInt64.size = 0x10000000000000000 := rfl
  obtain ⟨negative, whole, fraction, exponent⟩ := n
  constructor
  · intro h
    unfold number? at h
    simp only at h
    split at h
    · next hc =>
      obtain ⟨hf, he, hn, -⟩ := hc
      obtain rfl : negative = false := by simpa using hn
      cases h
      exact ⟨hf, he, rfl, nofun, by omega, hk⟩
    · split at h
      · next hc =>
        obtain ⟨hf, he, rfl, hpos, hle⟩ := hc
        cases h
        exact ⟨hf, he, rfl, fun _ => by omega, by omega, hk⟩
      · obtain ⟨x, -, hx⟩ := Option.map_eq_some_iff.1 h
        cases hx
  · rintro ⟨hf, he, hv, hz, hl, hu⟩
    simp only at hf he hv hz
    subst hf he
    unfold number?
    cases negative with
    | false =>
      simp only [Bool.false_eq_true, if_false] at hv
      have hlt : Decimal.value whole < UInt64.size := by omega
      simp [hlt, hv]
    | true =>
      simp only [if_true] at hv
      have hne := hz rfl
      have hpos : 0 < Decimal.value whole := by omega
      have hle : Decimal.value whole ≤ Decimal.integerBound := by omega
      simp [hpos, hle, hv]

theorem Numeral.isWord_ofInt {k : Int} (hl : -0x8000000000000000 ≤ k)
    (hu : k < 0x8000000000000000) : (Numeral.ofInt k).IsWord k :=
  (number?_eq_integer_iff hu).1 (number?_ofInt hl hu)

theorem readInteger_eq_ok_iff {v : Node} {k : Int} :
    readInteger v = .ok k ↔ ∃ n : Numeral, v = .number n ∧ n.IsWord k := by
  constructor
  · intro h
    unfold readInteger at h
    split at h
    · next n =>
      split at h
      · next j hj =>
        split at h
        · next hlt =>
          cases h
          exact ⟨n, rfl, (Numeral.number?_eq_integer_iff hlt).1 hj⟩
        · cases h
      · exact absurd h (mismatch_ne_ok _ _ _)
    · exact absurd h (mismatch_ne_ok _ _ _)
  · rintro ⟨n, rfl, hn⟩
    have hlt : k < Decimal.integerBound := hn.upper
    simp only [readInteger, (Numeral.number?_eq_integer_iff hn.upper).2 hn, if_pos hlt]

end Json

open Json Record

namespace RevocationClaims

/-! ## The payloads that are read -/

/-- The values of a payload for an identifier: none, one that is null, or one text. -/
inductive IsIdentifier : List Node → Option String → Prop
  | absent : IsIdentifier [] none
  | null : IsIdentifier [.null] none
  | text (id : String) : IsIdentifier [.string (some id)] (some id)

/-- The values of a payload for an end: one integer of 64 bits. -/
inductive IsEnd : List Node → Int → Prop
  | integer {n : Numeral} {exp : Int} (h : n.IsWord exp) : IsEnd [.number n] exp

/-- A payload says what the claims are: an object, in which other members are only whole, or an array
of the two. -/
inductive Says : Node → RevocationClaims → Prop
  | object {members : List (String × Node)} {c : RevocationClaims}
      (jti : IsIdentifier (valuesOf members "jti") c.jti)
      (exp : IsEnd (valuesOf members "exp") c.exp)
      (more : ∀ m ∈ members, m.1 ≠ "jti" → m.1 ≠ "exp" → m.2.isWhole = true) :
      Says (.object (members.map fun m => (some m.1, m.2)) true) c
  | array {jti exp : Node} {c : RevocationClaims} (hjti : IsIdentifier [jti] c.jti)
      (hexp : IsEnd [exp] c.exp) : Says (.array [jti, exp] true) c

theorem isIdentifier_of_readOptional {v : Node} {jti : Option String}
    (h : readOptional readText v = .ok jti) : IsIdentifier [v] jti := by
  unfold readOptional at h
  split at h
  · cases h
    exact .null
  · obtain ⟨s, hs, rfl⟩ := Outcome.map_eq_ok_iff.1 h
    rw [readText_eq_ok hs]
    exact .text s

theorem isIdentifier_iff {vs : List Node} {jti : Option String} :
    IsIdentifier vs jti ↔
      vs = [] ∧ jti = none ∨ ∃ v, vs = [v] ∧ readOptional readText v = .ok jti := by
  constructor
  · intro h
    cases h with
    | absent => exact .inl ⟨rfl, rfl⟩
    | null => exact .inr ⟨_, rfl, rfl⟩
    | text id => exact .inr ⟨_, rfl, rfl⟩
  · rintro (⟨rfl, rfl⟩ | ⟨v, rfl, h⟩)
    · exact .absent
    · exact isIdentifier_of_readOptional h

theorem isEnd_iff {vs : List Node} {exp : Int} :
    IsEnd vs exp ↔ ∃ v, vs = [v] ∧ readInteger v = .ok exp := by
  constructor
  · rintro ⟨hn⟩
    exact ⟨_, rfl, readInteger_eq_ok_iff.2 ⟨_, rfl, hn⟩⟩
  · rintro ⟨v, rfl, h⟩
    obtain ⟨n, rfl, hn⟩ := readInteger_eq_ok_iff.1 h
    exact .integer hn

theorem IsIdentifier.read_of_mem {vs : List Node} {v : Node} {jti : Option String}
    (h : IsIdentifier vs jti) (hv : v ∈ vs) : readOptional readText v = .ok jti := by
  obtain ⟨rfl, -⟩ | ⟨w, rfl, hread⟩ := isIdentifier_iff.1 h
  · cases hv
  · rwa [List.mem_singleton.1 hv]

theorem IsIdentifier.length_le_one {vs : List Node} {jti : Option String}
    (h : IsIdentifier vs jti) : vs.length ≤ 1 := by
  cases h <;> simp

theorem IsEnd.read_of_mem {vs : List Node} {v : Node} {exp : Int} (h : IsEnd vs exp)
    (hv : v ∈ vs) : readInteger v = .ok exp := by
  obtain ⟨w, rfl, hread⟩ := isEnd_iff.1 h
  rwa [List.mem_singleton.1 hv]

theorem IsEnd.length_eq_one {vs : List Node} {exp : Int} (h : IsEnd vs exp) : vs.length = 1 := by
  obtain ⟨-⟩ := h
  rfl

/-! ### Objects -/

variable {all : List (Option String × Node)} {closed : Bool} {c : RevocationClaims} {name : String}
  {v : Node}

theorem admits_jti_iff :
    Admits RevocationClaims.fields "jti" v ↔ ∃ jti, readOptional readText v = .ok jti := by
  refine Outcome.map_eq_ok_iff.trans ?_
  simp only [and_true]

theorem admits_exp_iff :
    Admits RevocationClaims.fields "exp" v ↔ ∃ exp, readInteger v = .ok exp := by
  refine Outcome.map_eq_ok_iff.trans ?_
  simp only [and_true]

theorem not_knows (hjti : name ≠ "jti") (hexp : name ≠ "exp") :
    ¬ Knows RevocationClaims.fields name := by
  rw [knows_iff, names_fields]
  simp [hjti, hexp]

theorem isWhole_of_admits_of_ne (hjti : name ≠ "jti") (hexp : name ≠ "exp")
    (h : Admits RevocationClaims.fields name v) : v.isWhole = true := by
  unfold Admits at h
  split at h
  · next f hf => exact absurd ⟨f, hf⟩ (not_knows hjti hexp)
  · exact h

theorem says_of_read_object (h : RevocationClaims.read (.object all closed) = .ok c) :
    Says (.object all closed) c := by
  obtain ⟨f, hf, h⟩ := Outcome.bind_eq_ok_iff.1 h
  obtain ⟨jti, hjti, h⟩ := Outcome.bind_eq_ok_iff.1 h
  obtain ⟨exp, hexp, h⟩ := Outcome.bind_eq_ok_iff.1 h
  cases h
  obtain ⟨rfl, members, rfl, hadmits, honce⟩ := exists_of_fields hf
  obtain ⟨hlengthJti, hlookupJti⟩ := honce "jti" ⟨_, rfl⟩
  obtain ⟨hlengthExp, hlookupExp⟩ := honce "exp" ⟨_, rfl⟩
  refine .object ?_ ?_ fun m hm hnejti hneexp =>
    isWhole_of_admits_of_ne hnejti hneexp (hadmits m hm)
  · rw [Fields.get?, Fields.getD, hlookupJti] at hjti
    refine isIdentifier_iff.2 ?_
    rcases hv : valuesOf members "jti" with _ | ⟨v, _ | ⟨w, rest⟩⟩
    · rw [hv] at hjti
      cases hjti
      exact .inl ⟨rfl, rfl⟩
    · rw [hv] at hjti
      exact .inr ⟨v, rfl, hjti⟩
    · simp [hv] at hlengthJti
  · obtain ⟨v, hv, hread⟩ := get_eq_ok_iff.1 hexp
    rw [hlookupExp] at hv
    refine isEnd_iff.2 ⟨v, ?_, hread⟩
    obtain ⟨rest, hrest⟩ := List.head?_eq_some_iff.1 hv
    rw [hrest, List.length_cons] at hlengthExp
    rw [hrest, List.eq_nil_of_length_eq_zero (by omega : rest.length = 0)]

theorem admits_of_values {members : List (String × Node)}
    (hjti : IsIdentifier (valuesOf members "jti") c.jti)
    (hexp : IsEnd (valuesOf members "exp") c.exp)
    (hmore : ∀ m ∈ members, m.1 ≠ "jti" → m.1 ≠ "exp" → m.2.isWhole = true) :
    ∀ m ∈ members, Admits RevocationClaims.fields m.1 m.2 := by
  rintro ⟨name, v⟩ hm
  by_cases hnejti : name = "jti"
  · subst hnejti
    exact admits_jti_iff.2 ⟨_, hjti.read_of_mem (mem_valuesOf_of_mem hm)⟩
  · by_cases hneexp : name = "exp"
    · subst hneexp
      exact admits_exp_iff.2 ⟨_, hexp.read_of_mem (mem_valuesOf_of_mem hm)⟩
    · exact admits_of_not_knows (not_knows hnejti hneexp) (hmore _ hm hnejti hneexp)

theorem once_of_values {members : List (String × Node)}
    (hjti : IsIdentifier (valuesOf members "jti") c.jti)
    (hexp : IsEnd (valuesOf members "exp") c.exp) :
    ∀ name, Knows RevocationClaims.fields name → (valuesOf members name).length ≤ 1 := by
  intro name hname
  rw [knows_iff, names_fields] at hname
  obtain rfl | rfl : name = "jti" ∨ name = "exp" := by simpa using hname
  · exact hjti.length_le_one
  · exact Nat.le_of_eq hexp.length_eq_one

theorem read_object_of_says (h : Says (.object all closed) c) :
    RevocationClaims.read (.object all closed) = .ok c := by
  obtain ⟨hjti, hexp, hmore⟩ := h
  next members =>
  obtain ⟨w, hw, hreadExp⟩ := isEnd_iff.1 hexp
  have hrequired : ∀ f ∈ RevocationClaims.fields,
      f.optional = true ∨ valuesOf members f.name ≠ [] := by
    rw [RevocationClaims.fields, List.forall_mem_cons, List.forall_mem_cons]
    refine ⟨.inl rfl, .inr ?_, List.forall_mem_nil _⟩
    show valuesOf members "exp" ≠ []
    simp [hw]
  obtain ⟨f, hf, hlookup⟩ := exists_fields_of_once "RevocationClaims"
    (admits_of_values hjti hexp hmore) (once_of_values hjti hexp) hrequired
  have hlookupJti := hlookup "jti" ⟨_, rfl⟩
  have hlookupExp := hlookup "exp" ⟨_, rfl⟩
  refine Outcome.bind_eq_ok_iff.2 ⟨f, hf, Outcome.bind_eq_ok_iff.2 ⟨c.jti, ?_, ?_⟩⟩
  · rw [Fields.get?, Fields.getD, hlookupJti]
    obtain ⟨hnil, hnone⟩ | ⟨u, hu, hread⟩ := isIdentifier_iff.1 hjti
    · rw [hnil, hnone]
      rfl
    · rw [hu]
      exact hread
  · refine Outcome.bind_eq_ok_iff.2 ⟨c.exp, get_eq_ok_iff.2 ⟨w, ?_, hreadExp⟩, rfl⟩
    rw [hlookupExp, hw]
    rfl

/-! ### Arrays -/

theorem fields_array_eq_ok_iff {items : List Node} {f : Fields} :
    Record.fields "RevocationClaims" RevocationClaims.fields (.array items closed) = .ok f ↔
      ∃ v w, items = [v, w] ∧ closed = true ∧ (∃ jti, readOptional readText v = .ok jti) ∧
        (∃ exp, readInteger w = .ok exp) ∧ f = [("jti", v), ("exp", w)] := by
  rw [Record.fields, RevocationClaims.fields]
  rcases items with _ | ⟨v, _ | ⟨w, rest⟩⟩
  · cases closed <;> simp [ofItems, Field.required]
  · rw [ofItems_cons_eq_ok_iff]
    cases closed <;> simp [ofItems, Field.required]
  · simp only [ofItems_cons_eq_ok_iff, ofItems_nil_eq_ok_iff]
    constructor
    · rintro ⟨hv, -, ⟨hw, -, ⟨rfl, rfl, rfl⟩, rfl⟩, rfl⟩
      exact ⟨v, w, rfl, rfl, admits_jti_iff.1 hv, admits_exp_iff.1 hw, rfl⟩
    · rintro ⟨v', w', heq, rfl, hv, hw, rfl⟩
      cases heq
      exact ⟨admits_jti_iff.2 hv, _, ⟨admits_exp_iff.2 hw, _, ⟨rfl, rfl, rfl⟩, rfl⟩, rfl⟩

theorem read_array_eq_ok_iff {items : List Node} :
    RevocationClaims.read (.array items closed) = .ok c ↔ Says (.array items closed) c := by
  constructor
  · intro h
    obtain ⟨f, hf, h⟩ := Outcome.bind_eq_ok_iff.1 h
    obtain ⟨jti, hjti, h⟩ := Outcome.bind_eq_ok_iff.1 h
    obtain ⟨exp, hexp, h⟩ := Outcome.bind_eq_ok_iff.1 h
    cases h
    obtain ⟨v, w, rfl, rfl, -, -, rfl⟩ := fields_array_eq_ok_iff.1 hf
    exact .array (isIdentifier_iff.2 (.inr ⟨v, rfl, hjti⟩)) (isEnd_iff.2 ⟨w, rfl, hexp⟩)
  · rintro (_ | ⟨hjti, hexp⟩)
    next v w =>
    have hreadJti := hjti.read_of_mem List.mem_cons_self
    have hreadExp := hexp.read_of_mem List.mem_cons_self
    refine Outcome.bind_eq_ok_iff.2 ⟨_, fields_array_eq_ok_iff.2
      ⟨v, w, rfl, rfl, ⟨_, hreadJti⟩, ⟨_, hreadExp⟩, rfl⟩, ?_⟩
    refine Outcome.bind_eq_ok_iff.2 ⟨c.jti, hreadJti, ?_⟩
    exact Outcome.bind_eq_ok_iff.2 ⟨c.exp, hreadExp, rfl⟩

/-- **The payloads that are read.** -/
theorem read_eq_ok_iff {node : Node} : RevocationClaims.read node = .ok c ↔ Says node c := by
  constructor
  · intro h
    obtain ⟨f, hf, -⟩ := Outcome.bind_eq_ok_iff.1 h
    obtain ⟨members, closed, rfl⟩ | ⟨items, closed, rfl⟩ := object_or_array hf
    · exact says_of_read_object h
    · exact read_array_eq_ok_iff.1 h
  · intro h
    cases node with
    | object members closed => exact read_object_of_says h
    | array items closed => exact read_array_eq_ok_iff.2 h
    | _ => cases h

end RevocationClaims

/-! ## The tokens whose payload is read -/

/-- A token has exactly three segments; the second writes bytes, the bytes are one JSON text, and it
says what the claims are. -/
def Carries (token : String) (c : RevocationClaims) : Prop :=
  ∃ header bytes signature root,
    token.toList = segments header (Base64.encode .url bytes) signature ∧ '.' ∉ header ∧
      '.' ∉ signature ∧ Document.ofBytes bytes = ⟨root, true⟩ ∧ RevocationClaims.Says root c

/-- **The tokens whose payload is read.** -/
theorem decodePayload?_eq_some_iff {token : String} {c : RevocationClaims} :
    decodePayload? token = some c ↔ Carries token c := by
  constructor
  · intro h
    unfold decodePayload? at h
    split at h
    · next header payload signature hpieces =>
      obtain ⟨doc, hdoc, h⟩ := Option.bind_eq_some_iff.1 h
      obtain ⟨hread, hcomplete⟩ := Document.read_eq_ok_iff.1 (Outcome.toOption_eq_some_iff.1 h)
      obtain ⟨bytes, hbytes, rfl⟩ := Option.map_eq_some_iff.1 hdoc
      obtain rfl := (Base64.decode?_eq_some_iff _).1 hbytes
      obtain ⟨htoken, hheader, -, hsignature⟩ := pieces_eq_segments_iff.1 hpieces
      refine ⟨header, bytes, signature, (Document.ofBytes bytes).root, htoken, hheader, hsignature,
        ?_, RevocationClaims.read_eq_ok_iff.1 hread⟩
      rw [← hcomplete]
    · cases h
  · rintro ⟨header, bytes, signature, root, htoken, hheader, hsignature, hdoc, hsays⟩
    have hpieces : Text.pieces '.' token.toList =
        [header, Base64.encode .url bytes, signature] :=
      pieces_eq_segments_iff.2 ⟨htoken, hheader, Base64.dot_not_mem_encode _ _, hsignature⟩
    have hsegment : Header.document? (Base64.encode .url bytes) = some ⟨root, true⟩ := by
      rw [Header.document?, Base64.decode?_encode, Option.map_some, hdoc]
    rw [decodePayload?, hpieces]
    refine Option.bind_eq_some_iff.2 ⟨_, hsegment, Outcome.toOption_eq_some_iff.2 ?_⟩
    exact Document.read_eq_ok_iff.2 ⟨RevocationClaims.read_eq_ok_iff.2 hsays, rfl⟩

end Accounts

import Accounts.Proofs.Json.Tokens
import Accounts.Proofs.Text.Utf8
import Accounts.Json.Node

/-!
# The tree of a written value

* `node`: the tree of a value;
* `resume_tokens`: the tokens of a value put its tree in the place of a value;
* **`ofText_text`**, **`ofBytes_encode_text`**: the text of an exact value is read as the value's
  tree.
-/

namespace Accounts.Json

mutual

/-- The tree of a value. A float has none here. -/
def node : Json → Node
  | .null => .null
  | .bool b => .bool b
  | .integer n => .number (Numeral.ofInt n)
  | .decimal _ => .cut
  | .string s => .string (some s)
  | .array items => .array (itemNodes items) true
  | .object members => .object (memberNodes members) true

/-- The trees of the items of an array. -/
def itemNodes : List Json → List Node
  | [] => []
  | v :: rest => node v :: itemNodes rest

/-- The trees of the members of an object. -/
def memberNodes : List (String × Json) → List (Option String × Node)
  | [] => []
  | (k, v) :: rest => (some k, node v) :: memberNodes rest

end

namespace Document

/-! ## One token -/

theorem resume_step {place place' : Place} {frames frames' : List Frame} {t : Token}
    (h : place.step? frames t = some (place', frames')) (ts : List Token) :
    resume place frames (t :: ts) = resume place' frames' ts := by
  cases place with
  | done v =>
    cases frames with
    | nil => cases h
    | cons f frames => rw [resume, h]; simp
  | value => rw [resume, h]; simp
  | itemOrEnd => rw [resume, h]; simp
  | nameOrEnd => rw [resume, h]; simp
  | name => rw [resume, h]; simp
  | colon => rw [resume, h]; simp

theorem tokens_eq_cons {v : Json} (hv : IsExact v) :
    ∃ t ts, v.tokens = t :: ts ∧ t ≠ .rightBracket := by
  cases v with
  | decimal x => exact hv.elim
  | null => exact ⟨_, _, rfl, Token.noConfusion⟩
  | bool b => exact ⟨_, _, rfl, Token.noConfusion⟩
  | integer n => exact ⟨_, _, rfl, Token.noConfusion⟩
  | string s => exact ⟨_, _, rfl, Token.noConfusion⟩
  | array items => exact ⟨_, _, rfl, Token.noConfusion⟩
  | object members => exact ⟨_, _, rfl, Token.noConfusion⟩

theorem step?_itemOrEnd {t : Token} (ht : t ≠ .rightBracket) (frames : List Frame) :
    Place.step? .itemOrEnd frames t = Place.step? .value frames t := by
  cases frames with
  | nil => rfl
  | cons f frames =>
    cases f with
    | items prior => cases t with
      | rightBracket => exact absurd rfl ht
      | _ => rfl
    | members prior => rfl
    | member prior k => rfl

theorem resume_item {v : Json} (hv : IsExact v) {place : Place}
    (hp : place = .itemOrEnd ∨ place = .value) (frames : List Frame) (ts : List Token) :
    resume place frames (v.tokens ++ ts) = resume .value frames (v.tokens ++ ts) := by
  rcases hp with rfl | rfl
  · obtain ⟨t, more, hm, ht⟩ := tokens_eq_cons hv
    rw [hm, List.cons_append, resume, resume, step?_itemOrEnd ht]
    · rfl
    · simp
    · simp
  · rfl

/-! ## Values -/

mutual

/-- **The tokens of a value put its tree in the place of a value.** -/
theorem resume_tokens : ∀ (v : Json), IsExact v → ∀ (frames : List Frame) (ts : List Token),
    resume .value frames (v.tokens ++ ts) = resume (.done v.node) frames ts
  | .null, _, _, _ => resume_step rfl _
  | .bool _, _, _, _ => resume_step rfl _
  | .integer _, _, _, _ => resume_step rfl _
  | .decimal _, hv, _, _ => hv.elim
  | .string _, _, _, _ => resume_step rfl _
  | .array [], _, _, _ => (resume_step rfl _).trans (resume_step rfl _)
  | .array (v :: rest), hv, frames, ts => by
    have hi := resume_itemTokens (v :: rest) hv (List.cons_ne_nil v rest) [] frames ts
    rw [tokens, List.cons_append, List.append_assoc, resume_step rfl]
    exact hi .itemOrEnd (.inl rfl)
  | .object [], _, _, _ => (resume_step rfl _).trans (resume_step rfl _)
  | .object (m :: rest), hv, frames, ts => by
    have hm := resume_memberTokens (m :: rest) hv (List.cons_ne_nil m rest) [] frames ts
    rw [tokens, List.cons_append, List.append_assoc, resume_step rfl]
    exact hm .nameOrEnd (.inl rfl)

theorem resume_itemTokens : ∀ (items : List Json), AreExact items → items ≠ [] →
    ∀ (prior : List Node) (frames : List Frame) (ts : List Token) (place : Place),
    place = .itemOrEnd ∨ place = .value →
    resume place (.items prior :: frames) (itemTokens items ++ ([.rightBracket] ++ ts)) =
      resume (.done (.array (prior.reverse ++ itemNodes items) true)) frames ts
  | [], _, hne, _, _, _, _, _ => absurd rfl hne
  | [v], hv, _, prior, frames, ts, place, hp => by
    rw [itemTokens, resume_item hv.1 hp, resume_tokens v hv.1]
    exact (resume_step rfl _).trans (by simp [itemNodes])
  | v :: w :: rest, hv, _, prior, frames, ts, place, hp => by
    have hi := resume_itemTokens (w :: rest) hv.2 (List.cons_ne_nil w rest) (v.node :: prior)
      frames ts .value (.inr rfl)
    rw [itemTokens, List.append_assoc, resume_item hv.1 hp, resume_tokens v hv.1,
      List.cons_append, resume_step rfl, hi]
    simp [itemNodes]

theorem resume_memberTokens : ∀ (members : List (String × Json)), HasExact members →
    members ≠ [] → ∀ (prior : List (Option String × Node)) (frames : List Frame)
    (ts : List Token) (place : Place), place = .nameOrEnd ∨ place = .name →
    resume place (.members prior :: frames) (memberTokens members ++ ([.rightBrace] ++ ts)) =
      resume (.done (.object (prior.reverse ++ memberNodes members) true)) frames ts
  | [], _, hne, _, _, _, _, _ => absurd rfl hne
  | [(k, v)], hv, _, prior, frames, ts, place, hp => by
    have hname : place.step? (.members prior :: frames) (.string (some k)) =
        some (.colon, .member prior (some k) :: frames) := by rcases hp with rfl | rfl <;> rfl
    rw [memberTokens, List.cons_append, resume_step hname, List.cons_append, resume_step rfl,
      resume_tokens v hv.1]
    exact (resume_step rfl _).trans (by simp [memberNodes])
  | (k, v) :: m :: rest, hv, _, prior, frames, ts, place, hp => by
    have hname : place.step? (.members prior :: frames) (.string (some k)) =
        some (.colon, .member prior (some k) :: frames) := by rcases hp with rfl | rfl <;> rfl
    have hm := resume_memberTokens (m :: rest) hv.2 (List.cons_ne_nil m rest)
      ((some k, v.node) :: prior) frames ts .name (.inr rfl)
    rw [memberTokens, List.cons_append, resume_step hname, List.cons_append, resume_step rfl,
      List.append_assoc, resume_tokens v hv.1, List.cons_append, resume_step rfl, hm]
    simp [memberNodes]

end

/-- **The text of an exact value is read as the value's tree.** -/
theorem ofText_text {v : Json} (hv : IsExact v) : ofText v.text = ⟨v.node, true⟩ := by
  have h := resume_tokens v hv [] []
  rw [List.append_nil] at h
  rw [ofText, ofSymbols, Json.text, String.toList_ofList, list_chars hv, h]
  rfl

/-- **The bytes of that text are read as the same tree.** -/
theorem ofBytes_encode_text {v : Json} (hv : IsExact v) :
    ofBytes (Utf8.encode v.text) = ⟨v.node, true⟩ := by
  rw [ofBytes, Utf8.symbols_encode]
  exact ofText_text hv

end Document

end Accounts.Json

import Accounts.Proofs.Json.Scanning

/-!
# The tokens of a written value

* `IsExact`: no floats, and integers of 64 bits;
* `tokens`: the tokens that a value is written with;
* `Lexes`: a text has given tokens, whatever the budget;
* **`list_chars`**: the tokens of the text of an exact value are the tokens that it is written with.
-/

namespace Accounts.Json

open Utf8 (Symbol)

/-! ## Exact values -/

mutual

/-- A value without floats, whose integers have 64 bits. -/
def IsExact : Json → Prop
  | .decimal _ => False
  | .integer n => -(Decimal.integerBound : Int) ≤ n ∧ n < (Decimal.integerBound : Int)
  | .array items => AreExact items
  | .object members => HasExact members
  | .null => True
  | .bool _ => True
  | .string _ => True

/-- Every item is exact. -/
def AreExact : List Json → Prop
  | [] => True
  | v :: rest => IsExact v ∧ AreExact rest

/-- Every member is exact. -/
def HasExact : List (String × Json) → Prop
  | [] => True
  | (_, v) :: rest => IsExact v ∧ HasExact rest

end

mutual

/-- The tokens that a value is written with. A float has none here. -/
def tokens : Json → List Token
  | .null => [.null]
  | .bool b => [.bool b]
  | .integer n => [.number (Numeral.ofInt n)]
  | .decimal _ => []
  | .string s => [.string (some s)]
  | .array items => .leftBracket :: (itemTokens items ++ [.rightBracket])
  | .object members => .leftBrace :: (memberTokens members ++ [.rightBrace])

/-- The tokens of the items of an array. -/
def itemTokens : List Json → List Token
  | [] => []
  | [v] => tokens v
  | v :: w :: rest => tokens v ++ .comma :: itemTokens (w :: rest)

/-- The tokens of the members of an object. -/
def memberTokens : List (String × Json) → List Token
  | [] => []
  | [(k, v)] => .string (some k) :: .colon :: tokens v
  | (k, v) :: m :: rest =>
    .string (some k) :: .colon :: (tokens v ++ .comma :: memberTokens (m :: rest))

end

/-! ## Texts and their tokens -/

/-- A text has given tokens, whatever the budget. -/
def Lexes (s : List Symbol) (ts : List Token) : Prop :=
  ∀ budget acc, s.length < budget → Token.listRev budget acc s = ts.reverse ++ acc

theorem Lexes.list {s : List Symbol} {ts : List Token} (h : Lexes s ts) : Token.list s = ts := by
  rw [Token.list, h _ _ (Nat.lt_succ_self _), List.append_nil, List.reverse_reverse]

theorem lexes_nil : Lexes [] [] := by
  intro budget acc h
  cases budget with
  | zero => cases h
  | succ budget => rfl

theorem Lexes.cons {c : Symbol} {s rest : List Symbol} {t : Token} {ts : List Token}
    (h : Lexes rest ts) (hc : isSpace c = false) (hn : Token.next c s = (t, rest))
    (ht : t ≠ .stray) (hlen : rest.length ≤ s.length) : Lexes (c :: s) (t :: ts) := by
  intro budget acc hb
  cases budget with
  | zero => cases hb
  | succ budget =>
    rw [List.length_cons] at hb
    rw [Token.listRev, hc, hn]
    simp only [Bool.false_eq_true, if_false]
    rw [h budget (t :: acc) (by omega), List.reverse_cons, List.append_assoc]
    rfl

variable {s : List Symbol} {ts : List Token}

/-- The token of a mark. -/
def mark? : Char → Option Token
  | '\x7b' => some .leftBrace
  | '\x7d' => some .rightBrace
  | '[' => some .leftBracket
  | ']' => some .rightBracket
  | ':' => some .colon
  | ',' => some .comma
  | _ => none

theorem Lexes.mark {c : Char} {t : Token} (h : Lexes s ts) (hm : mark? c = some t) :
    Lexes (some c :: s) (t :: ts) := by
  unfold mark? at hm
  split at hm <;> cases hm <;> exact h.cons rfl rfl Token.noConfusion (Nat.le_refl _)

theorem scanWord?_append (word : List Char) (s : List Symbol) :
    scanWord? word (word.map some ++ s) = some s := by
  rw [scanWord?, if_pos (List.prefix_append _ _), List.drop_left' (by simp)]

/-- The rest of a word with a given first letter, and its token. -/
def word? : Char → Option (List Char × Token)
  | 'n' => some (['u', 'l', 'l'], .null)
  | 't' => some (['r', 'u', 'e'], .bool true)
  | 'f' => some (['a', 'l', 's', 'e'], .bool false)
  | _ => none

theorem Lexes.word {c : Char} {rest : List Char} {t : Token} (h : Lexes s ts)
    (hw : word? c = some (rest, t)) : Lexes (some c :: (rest.map some ++ s)) (t :: ts) := by
  have hlen : s.length ≤ (rest.map some ++ s).length := by
    rw [List.length_append]
    omega
  unfold word? at hw
  split at hw <;> cases hw <;>
    exact h.cons rfl (by rw [Token.next, scanWord?_append]) Token.noConfusion hlen

theorem Lexes.quoted (h : Lexes s ts) (text : String) :
    Lexes ((quoted text).map some ++ s) (.string (some text) :: ts) := by
  have hs := scanString_quoted text.toList [] s
  rw [List.reverse_nil, List.nil_append, String.ofList_toList] at hs
  have he : (Json.quoted text).map some ++ s =
      some '"' :: ((text.toList.flatMap escaped).map some ++ some '"' :: s) := by
    simp [Json.quoted]
  rw [he]
  refine h.cons rfl ?_ Token.noConfusion ?_
  · rw [Token.next, hs]
  · simp
    omega

theorem ne_of_numeral {c : Char} (hc : Decimal.isDigit c = true ∨ c = '-') {ds : List Char}
    (hds : (ds.all fun d => !(Decimal.isDigit d || d == '-')) = true) : ∀ d ∈ ds, c ≠ d := by
  rintro d hd rfl
  have hno := List.all_eq_true.1 hds c hd
  rcases hc with hc | rfl
  · simp [hc] at hno
  · simp at hno

theorem next_of_numeral {c : Char} (hc : Decimal.isDigit c = true ∨ c = '-')
    {s rest : List Symbol} {n : Numeral} (h : Numeral.scan? (some c :: s) = some (n, rest)) :
    Token.next (some c) s = (.number n, rest) := by
  have hne : ∀ d ∈ ['\x7b', '\x7d', '[', ']', ':', ',', '"', 'n', 't', 'f'], c ≠ d :=
    ne_of_numeral hc (by decide)
  unfold Token.next
  split
  case h_1 he => cases he
  case h_12 he =>
    cases he
    rw [h]
  all_goals
    rename_i he
    injection he with he
    exact absurd he (hne _ (by decide))

theorem intDigits_eq_cons (n : Int) : ∃ c cs, Decimal.intDigits n = c :: cs ∧
    (Decimal.isDigit c = true ∨ c = '-') := by
  cases n with
  | ofNat n =>
    obtain ⟨c, cs, hc, -⟩ := Decimal.digits_eq_cons n
    exact ⟨c, cs, hc, .inl (Decimal.isDigit_of_mem_digits (n := n) (hc ▸ List.mem_cons_self))⟩
  | negSucc n => exact ⟨'-', _, rfl, .inr rfl⟩

theorem isSpace_of_numeral {c : Char} (hc : Decimal.isDigit c = true ∨ c = '-') :
    isSpace (some c) = false := by
  have hne : ∀ d ∈ [' ', '\n', '\t', '\r'], c ≠ d := ne_of_numeral hc (by decide)
  simp only [List.forall_mem_cons] at hne
  simp [isSpace, hne]

theorem Lexes.integer (h : Lexes s ts) (hs : Closes s) (n : Int) :
    Lexes ((Decimal.intDigits n).map some ++ s) (.number (Numeral.ofInt n) :: ts) := by
  obtain ⟨c, cs, hn, hc⟩ := intDigits_eq_cons n
  have hscan := Numeral.scan?_intDigits n hs
  rw [hn, List.map_cons, List.cons_append] at hscan ⊢
  exact h.cons (isSpace_of_numeral hc) (next_of_numeral hc hscan) Token.noConfusion
    (by simp only [List.length_append]; omega)

/-! ## Written values -/

mutual

/-- **The tokens of a written value**, with a mark or nothing after it. -/
theorem lexes_chars : ∀ (v : Json), IsExact v → ∀ {s ts}, Closes s → Lexes s ts →
    Lexes ((chars v).map some ++ s) (tokens v ++ ts)
  | .null, _, _, _, _, h => h.word rfl
  | .bool true, _, _, _, _, h => h.word rfl
  | .bool false, _, _, _, _, h => h.word rfl
  | .integer n, _, _, _, hs, h => h.integer hs n
  | .decimal _, hv, _, _, _, _ => hv.elim
  | .string text, _, _, _, _, h => h.quoted text
  | .array items, hv, s, ts, _, h => by
    have hi := lexes_itemChars items hv (h.mark (c := ']') rfl) (closes_bracket _)
    have hb := hi.mark (c := '[') rfl
    simpa [chars, tokens] using hb
  | .object members, hv, s, ts, _, h => by
    have hm := lexes_memberChars members hv (h.mark (c := '\x7d') rfl) (closes_brace _)
    have hb := hm.mark (c := '\x7b') rfl
    simpa [chars, tokens] using hb

theorem lexes_itemChars : ∀ (items : List Json), AreExact items → ∀ {s ts}, Lexes s ts →
    Closes s → Lexes ((itemChars items).map some ++ s) (itemTokens items ++ ts)
  | [], _, _, _, h, _ => h
  | [v], hv, _, _, h, hs => lexes_chars v hv.1 hs h
  | v :: w :: rest, hv, s, ts, h, hs => by
    have hrest := lexes_itemChars (w :: rest) hv.2 h hs
    have hcomma := hrest.mark (c := ',') rfl
    have hall := lexes_chars v hv.1 (closes_comma _) hcomma
    simpa [itemChars, itemTokens] using hall

theorem lexes_memberChars : ∀ (members : List (String × Json)), HasExact members → ∀ {s ts},
    Lexes s ts → Closes s →
    Lexes ((memberChars members).map some ++ s) (memberTokens members ++ ts)
  | [], _, _, _, h, _ => h
  | [(k, v)], hv, s, ts, h, hs => by
    have hvalue := lexes_chars v hv.1 hs h
    have hall := (hvalue.mark (c := ':') rfl).quoted k
    simpa [memberChars, memberTokens] using hall
  | (k, v) :: m :: rest, hv, s, ts, h, hs => by
    have hrest := lexes_memberChars (m :: rest) hv.2 h hs
    have hvalue := lexes_chars v hv.1 (closes_comma _) (hrest.mark (c := ',') rfl)
    have hall := (hvalue.mark (c := ':') rfl).quoted k
    simpa [memberChars, memberTokens] using hall

end

/-- **The tokens of the text of an exact value.** -/
theorem list_chars {v : Json} (hv : IsExact v) : Token.list (v.chars.map some) = v.tokens := by
  have h := lexes_chars v hv (s := []) trivial lexes_nil
  rw [List.append_nil, List.append_nil] at h
  exact h.list

end Accounts.Json

import Accounts.Proofs.Text.Pieces
import Accounts.Uuid

/-!
# Identifiers are read back

* **`parse?_text`**: reading the written form of an identifier gives the identifier.
-/

namespace Accounts.Uuid

theorem digit?_digitChar (d : Fin 16) : digit? (digitChar d) = some d := by
  revert d
  decide

theorem digitChar_ne_hyphen (d : Fin 16) : digitChar d ≠ '-' := by
  revert d
  decide

theorem mapM_digit? (ds : List (Fin 16)) : (ds.map digitChar).mapM digit? = some ds := by
  induction ds with
  | nil => rfl
  | cons d ds ih => rw [List.map_cons, List.mapM_cons, digit?_digitChar, ih]; rfl

theorem parseSimple?_digits (u : Uuid) : parseSimple? (u.digits.map digitChar) = some u := by
  rw [parseSimple?, mapM_digit?]
  exact dif_pos u.length_eq

/-! ## Groups -/

theorem hyphenated_cons {n : Nat} {sizes : List Nat} (h : sizes ≠ []) (cs : List Char) :
    hyphenated (n :: sizes) cs = cs.take n ++ '-' :: hyphenated sizes (cs.drop n) := by
  cases sizes with
  | nil => exact absurd rfl h
  | cons m sizes => rfl

theorem pieces_hyphenated {sizes : List Nat} (hne : sizes ≠ []) {cs : List Char} (h : '-' ∉ cs)
    (hlen : cs.length = sizes.foldr (· + ·) 0) :
    (Text.pieces '-' (hyphenated sizes cs)).map List.length = sizes ∧
      (Text.pieces '-' (hyphenated sizes cs)).flatten = cs := by
  induction sizes generalizing cs with
  | nil => exact absurd rfl hne
  | cons n sizes ih =>
    rw [List.foldr_cons] at hlen
    by_cases hs : sizes = []
    · subst hs
      rw [List.foldr_nil, Nat.add_zero] at hlen
      rw [hyphenated, ← hlen, List.take_length, Text.pieces_of_not_mem h]
      simp
    · have hd : '-' ∉ cs.drop n := fun hm => h (List.mem_of_mem_drop hm)
      obtain ⟨hl, hf⟩ := ih hs hd (by rw [List.length_drop]; omega)
      rw [hyphenated_cons hs, Text.pieces_append fun hm => h (List.mem_of_mem_take hm)]
      constructor
      · rw [List.map_cons, hl, List.length_take, Nat.min_eq_left (by omega)]
      · rw [List.flatten_cons, hf, List.take_append_drop]

theorem hyphen_not_mem_digits (u : Uuid) : '-' ∉ u.digits.map digitChar := by
  intro h
  obtain ⟨d, -, hd⟩ := List.mem_map.1 h
  exact digitChar_ne_hyphen d hd

theorem parseHyphenated?_chars (u : Uuid) : parseHyphenated? u.chars = some u := by
  obtain ⟨hl, hf⟩ := @pieces_hyphenated groups (by decide) _ u.hyphen_not_mem_digits
    (by rw [List.length_map, u.length_eq]; rfl)
  rw [parseHyphenated?, chars]
  simp only [hl, if_true, hf, parseSimple?_digits]

/-! ## The written form -/

theorem hyphen_mem_chars (u : Uuid) : '-' ∈ u.chars := by
  rw [chars, groups, hyphenated_cons (by decide)]
  exact List.mem_append_right _ List.mem_cons_self

theorem mapM_digit?_of_hyphen {cs : List Char} (h : '-' ∈ cs) : cs.mapM digit? = none := by
  induction cs with
  | nil => cases h
  | cons c cs ih =>
    rw [List.mapM_cons]
    rcases List.mem_cons.1 h with rfl | h
    · rfl
    · rw [ih h]
      cases digit? c <;> rfl

theorem text_ne_empty (u : Uuid) : u.text ≠ "" := by
  intro h
  have : u.chars = [] := String.ofList_eq_empty_iff.1 h
  exact absurd u.hyphen_mem_chars (this ▸ List.not_mem_nil)

/-- **Reading the written form of an identifier gives the identifier.** -/
theorem parse?_text (u : Uuid) : parse? u.text = some u := by
  have hsimple : parseSimple? u.chars = none := by
    rw [parseSimple?, mapM_digit?_of_hyphen u.hyphen_mem_chars]
    rfl
  rw [parse?, text]
  simp only [String.toList_ofList, hsimple, parseHyphenated?_chars, Option.none_or, Option.some_or]

end Accounts.Uuid

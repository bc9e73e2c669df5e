import Accounts.Text.Pieces

/-!
# Cutting and joining

* **`joined_pieces`**, `not_mem_of_mem_pieces`: the pieces of a text make the text, and hold no
  separator;
* **`pieces_joined`**: pieces without the separator are found again;
* `pieces_append_sep`, `joined_append`: the pieces of two texts with a separator between them;
* **`cutLast?_eq_some_iff`**: the two sides of the last separator;
* `dropStart?_eq_some_iff`: what follows a given start.
-/

namespace Accounts.Text

variable {sep : Char}

/-! ## Pieces -/

theorem pieces_cons_of_ne {c : Char} (h : c ≠ sep) (cs : List Char) :
    ∃ p ps, pieces sep cs = p :: ps ∧ pieces sep (c :: cs) = (c :: p) :: ps := by
  cases hp : pieces sep cs with
  | nil => exact absurd hp (pieces_ne_nil sep cs)
  | cons p ps => exact ⟨p, ps, rfl, by rw [pieces, if_neg h, hp]⟩

theorem joined_cons {p : List Char} {ps : List (List Char)} (h : ps ≠ []) :
    joined [sep] (p :: ps) = p ++ sep :: joined [sep] ps := by
  cases ps with
  | nil => exact absurd rfl h
  | cons q qs => simp [joined]

/-- **The pieces of a text make the text.** -/
theorem joined_pieces (sep : Char) (cs : List Char) : joined [sep] (pieces sep cs) = cs := by
  induction cs with
  | nil => rfl
  | cons c cs ih =>
    by_cases h : c = sep
    · rw [pieces, if_pos h, joined_cons (pieces_ne_nil sep cs), ih, h, List.nil_append]
    · obtain ⟨p, ps, hp, hc⟩ := pieces_cons_of_ne h cs
      rw [hp] at ih
      rw [hc]
      cases ps with
      | nil => exact congrArg (c :: ·) ih
      | cons q qs =>
        rw [joined_cons (List.cons_ne_nil q qs), List.cons_append,
          ← joined_cons (List.cons_ne_nil q qs), ih]

theorem not_mem_of_mem_pieces {cs : List Char} :
    ∀ p ∈ pieces sep cs, sep ∉ p := by
  induction cs with
  | nil => simp [pieces]
  | cons c cs ih =>
    by_cases h : c = sep
    · rw [pieces, if_pos h]
      rintro p (_ | ⟨_, hp⟩)
      · exact List.not_mem_nil
      · exact ih p hp
    · obtain ⟨q, qs, hq, hc⟩ := pieces_cons_of_ne h cs
      rw [hq] at ih
      rw [hc]
      rintro p (_ | ⟨_, hp⟩)
      · rw [List.mem_cons, not_or]
        exact ⟨fun e => h e.symm, ih q List.mem_cons_self⟩
      · exact ih p (List.mem_cons_of_mem _ hp)

theorem pieces_of_not_mem {p : List Char} (h : sep ∉ p) : pieces sep p = [p] := by
  induction p with
  | nil => rfl
  | cons c p ih =>
    rw [List.mem_cons, not_or] at h
    rw [pieces, if_neg (Ne.symm h.1), ih h.2]

theorem pieces_append_sep (cs ds : List Char) :
    pieces sep (cs ++ sep :: ds) = pieces sep cs ++ pieces sep ds := by
  induction cs with
  | nil => exact if_pos rfl
  | cons c cs ih =>
    by_cases h : c = sep
    · rw [List.cons_append, pieces, if_pos h, ih, pieces, if_pos h, List.cons_append]
    · obtain ⟨p, ps, hp, hc⟩ := pieces_cons_of_ne h cs
      rw [List.cons_append, pieces, if_neg h, ih, hp, hc]
      rfl

theorem pieces_append {p : List Char} (h : sep ∉ p) (cs : List Char) :
    pieces sep (p ++ sep :: cs) = p :: pieces sep cs := by
  rw [pieces_append_sep, pieces_of_not_mem h, List.singleton_append]

/-- **Pieces without the separator are found again.** -/
theorem pieces_joined {ps : List (List Char)} (hne : ps ≠ []) (h : ∀ p ∈ ps, sep ∉ p) :
    pieces sep (joined [sep] ps) = ps := by
  induction ps with
  | nil => exact absurd rfl hne
  | cons p ps ih =>
    have hp := h p List.mem_cons_self
    cases ps with
    | nil => exact pieces_of_not_mem hp
    | cons q qs =>
      rw [joined_cons (List.cons_ne_nil q qs), pieces_append hp,
        ih (List.cons_ne_nil q qs) fun r hr => h r (List.mem_cons_of_mem _ hr)]

theorem joined_append {ps qs : List (List Char)} (hps : ps ≠ []) (hqs : qs ≠ []) :
    joined [sep] (ps ++ qs) = joined [sep] ps ++ sep :: joined [sep] qs := by
  induction ps with
  | nil => exact absurd rfl hps
  | cons p ps ih =>
    by_cases h : ps = []
    · subst h
      rw [List.singleton_append, joined_cons hqs]
      rfl
    · rw [List.cons_append, joined_cons (by simp [h]), ih h, joined_cons h, List.append_assoc,
        List.cons_append]

/-! ## The last separator -/

theorem cutLast?_eq_none_iff {cs : List Char} : cutLast? sep cs = none ↔ sep ∉ cs := by
  induction cs with
  | nil => simp [cutLast?]
  | cons c cs ih =>
    rw [cutLast?, List.mem_cons, not_or, ← ih]
    cases cutLast? sep cs with
    | none => simp [eq_comm]
    | some ab => simp

/-- **The last separator** is the one after which there is none. -/
theorem cutLast?_eq_some_iff {cs p q : List Char} :
    cutLast? sep cs = some (p, q) ↔ cs = p ++ sep :: q ∧ sep ∉ q := by
  constructor
  · intro h
    induction cs generalizing p with
    | nil => cases h
    | cons c cs ih =>
      rw [cutLast?] at h
      cases hc : cutLast? sep cs with
      | some ab =>
        rw [hc] at h
        cases h
        obtain ⟨rfl, hq⟩ := ih hc
        exact ⟨rfl, hq⟩
      | none =>
        rw [hc] at h
        simp only at h
        split at h
        · next he =>
          cases h
          exact ⟨by rw [he, List.nil_append], cutLast?_eq_none_iff.1 hc⟩
        · cases h
  · rintro ⟨rfl, hq⟩
    induction p with
    | nil =>
      rw [List.nil_append, cutLast?, cutLast?_eq_none_iff.2 hq]
      exact if_pos rfl
    | cons c p ih => rw [List.cons_append, cutLast?, ih]

/-! ## A given start -/

theorem dropStart?_eq_some_iff {start cs rest : List Char} :
    dropStart? start cs = some rest ↔ cs = start ++ rest := by
  induction start generalizing cs with
  | nil => simp [dropStart?, eq_comm]
  | cons a start ih =>
    cases cs with
    | nil => simp [dropStart?]
    | cons c cs =>
      rw [dropStart?, List.cons_append, List.cons.injEq]
      split
      · next h => rw [ih]; simp [h]
      · next h => simp [Ne.symm h]

end Accounts.Text

import Mathlib.Data.List.TakeWhile
import Accounts.Proofs.Decimal
import Accounts.Text.Blank

/-!
# Texts with blanks around them

* `Text.Around`: a text with blanks around another;
* **`Text.around_trimmedChars`**, **`Text.trimmedChars_of_around`**: a text is its trimmed form with
  blanks around, and what has no blanks is the trimmed form of itself with blanks around;
* `Text.trimmed_ne_empty`: what is not blank leaves something;
* `Text.isBlank_of_visible`, `Text.isBlank_of_isDigit`: the visible characters of ASCII, and so the
  digits, are no blanks.
-/

namespace Accounts.Text

/-- A list of characters that is another with blanks around. -/
inductive Around (inner : List Char) : List Char → Prop
  | mk {before after : List Char} (hbefore : ∀ c ∈ before, isBlank c = true)
      (hafter : ∀ c ∈ after, isBlank c = true) : Around inner (before ++ inner ++ after)

theorem Around.refl (cs : List Char) : Around cs cs := by
  have h : Around cs ([] ++ cs ++ []) := .mk nofun nofun
  rwa [List.nil_append, List.append_nil] at h

variable {cs inner : List Char}

theorem exists_trimmedEnd (cs : List Char) :
    ∃ after, (∀ c ∈ after, isBlank c = true) ∧ cs = trimmedEnd cs ++ after := by
  refine ⟨(cs.reverse.takeWhile isBlank).reverse, fun c hc => ?_, ?_⟩
  · exact List.mem_takeWhile_imp (List.mem_reverse.1 hc)
  · rw [trimmedEnd, ← List.reverse_append, List.takeWhile_append_dropWhile, List.reverse_reverse]

/-- **A text is its trimmed form with blanks around.** -/
theorem around_trimmedChars (cs : List Char) : Around (trimmedChars cs) cs := by
  obtain ⟨after, hafter, hcs⟩ := exists_trimmedEnd (cs.dropWhile isBlank)
  have h : Around (trimmedChars cs) (cs.takeWhile isBlank ++ trimmedChars cs ++ after) :=
    .mk (fun _ => List.mem_takeWhile_imp) hafter
  rwa [List.append_assoc, trimmedChars, ← hcs, List.takeWhile_append_dropWhile] at h

theorem dropWhile_of_not_blank (h : ∀ c ∈ inner, isBlank c = false) :
    inner.dropWhile isBlank = inner := by
  cases inner with
  | nil => rfl
  | cons c inner => rw [List.dropWhile_cons_of_neg (by simp [h c List.mem_cons_self])]

theorem trimmedEnd_append {after : List Char} (h : ∀ c ∈ inner, isBlank c = false)
    (hafter : ∀ c ∈ after, isBlank c = true) : trimmedEnd (inner ++ after) = inner := by
  rw [trimmedEnd, List.reverse_append,
    List.dropWhile_append_of_pos fun c hc => hafter c (List.mem_reverse.1 hc),
    dropWhile_of_not_blank fun c hc => h c (List.mem_reverse.1 hc), List.reverse_reverse]

theorem trimmed_ne_empty {s : String} {c : Char} (hc : c ∈ s.toList) (hblank : isBlank c = false) :
    trimmed s ≠ "" := by
  intro h
  have hnil : trimmedChars s.toList = [] := by
    rwa [trimmed, String.ofList_eq_empty_iff] at h
  have haround := around_trimmedChars s.toList
  rw [hnil] at haround
  generalize s.toList = cs at hc haround
  obtain ⟨hbefore, hafter⟩ := haround
  rw [List.append_nil] at hc
  obtain hc | hc := List.mem_append.1 hc
  · exact Bool.noConfusion (hblank.symm.trans (hbefore c hc))
  · exact Bool.noConfusion (hblank.symm.trans (hafter c hc))

/-- **What has no blanks is found again** between blanks. -/
theorem trimmedChars_of_around (h : ∀ c ∈ inner, isBlank c = false) (hcs : Around inner cs) :
    trimmedChars cs = inner := by
  obtain ⟨hbefore, hafter⟩ := hcs
  rw [trimmedChars, List.append_assoc, List.dropWhile_append_of_pos hbefore]
  cases inner with
  | nil =>
    rw [List.nil_append, List.dropWhile_eq_nil_iff.2 hafter]
    rfl
  | cons c inner =>
    rw [List.cons_append, List.dropWhile_cons_of_neg (by simp [h c List.mem_cons_self]),
      ← List.cons_append, trimmedEnd_append h hafter]

theorem isBlank_of_visible {c : Char} (h : 0x20 < c.toNat ∧ c.toNat < 0x7F) :
    isBlank c = false := by
  simp only [isBlank, Bool.or_eq_false_iff, Bool.and_eq_false_iff, decide_eq_false_iff_not,
    beq_eq_false_iff_ne]
  omega

theorem isBlank_of_isDigit {c : Char} (h : Decimal.isDigit c = true) : isBlank c = false := by
  have hc := Decimal.isDigit_iff.1 h
  exact isBlank_of_visible (by omega)

end Accounts.Text

import Accounts.Metrics.Path
import Accounts.Proofs.Decimal
import Accounts.Proofs.Text.Pieces
import Accounts.Proofs.Uuid.Spelling

/-!
# Labels of paths with identifiers

The label of a path replaces the segments that look like identifiers. An identifier may be spelled
in more ways than those.

* `pathLabel_append`, `pathLabel_of_segment`: the label of a path is made segment by segment;
* `isIdentifierLike_iff`: which segments are replaced;
* `Uuid.IsPlain`: the spellings that look like identifiers;
* **`isIdentifierLike_iff_isPlain`**: of the texts that are accepted as an identifier, they are the
  ones that are replaced;
* **`label_of_accepted_id`**: the labels of the paths with an accepted identifier;
* `label_of_unhyphenated_id`: an identifier that gets a label of its own.
-/

namespace Accounts

/-! ## Segment by segment -/

theorem pathLabel_append (start rest : String) :
    pathLabel (start ++ "/" ++ rest) = pathLabel start ++ "/" ++ pathLabel rest := by
  have hsep : (start ++ "/" ++ rest).toList = start.toList ++ '/' :: rest.toList := by simp
  have hne (s : String) : (Text.pieces '/' s.toList).map segmentLabel ≠ [] := by
    simpa using Text.pieces_ne_nil '/' s.toList
  rw [← String.toList_inj, pathLabel, hsep, Text.pieces_append_sep, List.map_append,
    Text.joined_append (hne start) (hne rest)]
  simp [pathLabel]

theorem pathLabel_of_segment {segment : String} (h : '/' ∉ segment.toList) :
    pathLabel segment = String.ofList (segmentLabel segment.toList) := by
  rw [pathLabel, Text.pieces_of_not_mem h]
  rfl

theorem isIdentifierLike_iff {cs : List Char} : isIdentifierLike cs = true ↔
    (Text.byteCount cs = 36 ∧ cs.count '-' = 4) ∨ (cs ≠ [] ∧ cs.all Decimal.isDigit = true) := by
  simp [isIdentifierLike]

/-! ## Lengths -/

namespace Text

variable {cs : List Char}

theorem length_le_byteCount (cs : List Char) : cs.length ≤ byteCount cs := by
  induction cs with
  | nil => exact Nat.le_refl 0
  | cons c cs ih =>
    have := c.utf8Size_pos
    rw [List.length_cons, byteCount]
    omega

theorem byteCount_of_ascii (h : ∀ c ∈ cs, c.toNat < 0x80) : byteCount cs = cs.length := by
  induction cs with
  | nil => rfl
  | cons c cs ih =>
    have hc : c.toNat < 0x80 := h c List.mem_cons_self
    have hsize : c.utf8Size = 1 := by
      refine Char.utf8Size_eq_one_iff.2 (UInt32.le_iff_toNat_le.2 ?_)
      exact Nat.le_of_lt_succ hc
    rw [byteCount, hsize, ih fun d hd => h d (List.mem_cons_of_mem c hd), List.length_cons]
    omega

end Text

/-! ## Identifiers -/

namespace Uuid

/-- The spellings that look like identifiers: with hyphens and with nothing around, or in decimal
digits only. -/
inductive IsPlain (u : Uuid) : List Char → Prop
  | hyphenated {ds : List Char} (h : u.IsWritten ds) : IsPlain u (hyphenated groups ds)
  | decimal {ds : List Char} (h : u.IsWritten ds) (hdigits : ds.all Decimal.isDigit = true) :
    IsPlain u ds

variable {u : Uuid} {form cs : List Char}

theorem Spells.byteCount (h : u.Spells form) : Text.byteCount form = form.length :=
  Text.byteCount_of_ascii fun c hc => Nat.lt_of_lt_of_le (h.isFormChar c hc).1.2 (by decide)

theorem IsWritten.count_hyphen {ds : List Char} (h : u.IsWritten ds) :
    (hyphenated groups ds).count '-' = 4 :=
  Nat.succ.inj (count_hyphenated (by decide) h.hyphen_not_mem)

theorem IsPlain.isIdentifierLike (h : u.IsPlain cs) : isIdentifierLike cs = true := by
  rw [isIdentifierLike_iff]
  cases h with
  | hyphenated h =>
    exact .inl ⟨(Spells.hyphenated h).byteCount.trans h.length_hyphenated, h.count_hyphen⟩
  | decimal h hdigits =>
    refine .inr ⟨fun hnil => ?_, hdigits⟩
    have hlen := h.length
    rw [hnil] at hlen
    cases hlen

theorem ne_hyphen_of_isBlank {c : Char} (h : Text.isBlank c = true) : c ≠ '-' := by
  rintro rfl
  cases h

theorem count_hyphen_of_blanks (h : ∀ c ∈ cs, Text.isBlank c = true) : cs.count '-' = 0 :=
  List.count_eq_zero_of_not_mem fun hmem => ne_hyphen_of_isBlank (h '-' hmem) rfl

theorem eq_nil_of_blanks (h : ∀ c ∈ cs, Text.isBlank c = true)
    (hdigits : ∀ c ∈ cs, Decimal.isDigit c = true) : cs = [] := by
  refine List.eq_nil_iff_forall_not_mem.2 fun c hc => ?_
  have hblank := h c hc
  rw [Text.isBlank_of_isDigit (hdigits c hc)] at hblank
  cases hblank

theorem IsPlain.of_bytes (h : u.Spells form) (haround : Text.Around form cs)
    (hbytes : Text.byteCount cs = 36) (hhyphens : cs.count '-' = 4) : u.IsPlain cs := by
  obtain @⟨before, after, hbefore, hafter⟩ := haround
  rw [Text.byteCount_append, Text.byteCount_append, h.byteCount] at hbytes
  rw [List.count_append, List.count_append, count_hyphen_of_blanks hbefore,
    count_hyphen_of_blanks hafter] at hhyphens
  have hfirst := Text.length_le_byteCount before
  have hlast := Text.length_le_byteCount after
  -- digits alone have no hyphens, and 36 bytes leave no room for anything around the hyphenated form
  cases h with
  | simple h =>
    rw [List.count_eq_zero_of_not_mem h.hyphen_not_mem] at hhyphens
    omega
  | hyphenated h =>
    rw [h.length_hyphenated] at hbytes
    obtain rfl : before = [] := List.eq_nil_of_length_eq_zero (by omega)
    obtain rfl : after = [] := List.eq_nil_of_length_eq_zero (by omega)
    rw [List.nil_append, List.append_nil]
    exact .hyphenated h
  | braced h =>
    rw [List.length_append, List.length_cons, h.length_hyphenated] at hbytes
    omega
  | urn h hscheme =>
    rw [List.length_append, h.length_hyphenated, length_scheme hscheme] at hbytes
    omega

theorem IsPlain.of_digits (h : u.Spells form) (haround : Text.Around form cs)
    (hdigits : cs.all Decimal.isDigit = true) : u.IsPlain cs := by
  obtain @⟨before, after, hbefore, hafter⟩ := haround
  rw [List.all_append, List.all_append, Bool.and_eq_true, Bool.and_eq_true, List.all_eq_true,
    List.all_eq_true, List.all_eq_true] at hdigits
  obtain ⟨⟨hfirst, hform⟩, hlast⟩ := hdigits
  obtain rfl := eq_nil_of_blanks hbefore hfirst
  obtain rfl := eq_nil_of_blanks hafter hlast
  rw [List.nil_append, List.append_nil]
  have hhyphen : '-' ∉ form := fun hmem => absurd (hform '-' hmem) (by decide)
  have hmem {ds : List Char} (h : u.IsWritten ds) : '-' ∈ Uuid.hyphenated groups ds := by
    rw [← List.count_pos_iff, h.count_hyphen]
    decide
  cases h with
  | simple h => exact .decimal h (List.all_eq_true.2 hform)
  | hyphenated h => exact absurd (hmem h) hhyphen
  | braced h => exact absurd (by simp [hmem h]) hhyphen
  | urn h _ => exact absurd (List.mem_append_right _ (hmem h)) hhyphen

/-- **Of the texts that are accepted as an identifier, the plain ones are replaced.** -/
theorem isIdentifierLike_iff_isPlain (h : u.Spells form) (haround : Text.Around form cs) :
    isIdentifierLike cs = true ↔ u.IsPlain cs := by
  constructor
  · intro hlike
    obtain ⟨hbytes, hhyphens⟩ | ⟨-, hdigits⟩ := isIdentifierLike_iff.1 hlike
    · exact .of_bytes h haround hbytes hhyphens
    · exact .of_digits h haround hdigits
  · exact IsPlain.isIdentifierLike

theorem slash_not_mem (h : u.Spells form) (haround : Text.Around form cs) : '/' ∉ cs := by
  obtain ⟨hbefore, hafter⟩ := haround
  have hblank : ¬Text.isBlank '/' = true := by decide
  rw [List.mem_append, List.mem_append]
  rintro ((hmem | hmem) | hmem)
  · exact hblank (hbefore '/' hmem)
  · exact (h.isFormChar '/' hmem).2 rfl
  · exact hblank (hafter '/' hmem)

end Uuid

/-! ## Paths with identifiers -/

/-- **An accepted identifier shares its label with all others exactly if it is plain.** A text that
is accepted as an identifier has no slash. At the end of the path to a user, or to the end of one,
the label has the common name in its place exactly if it is written with hyphens and nothing around,
or in decimal digits only. Every other text is a label of its own, as it is written. -/
theorem label_of_accepted_id {id : String} {u : Uuid} (h : idOf id = .ok u) :
    '/' ∉ id.toList ∧
    ∀ start ∈ ["/api/v1/accounts", "/api/v1/accounts/delete"],
      (pathLabel (start ++ "/" ++ id) = start ++ "/" ++ ":id" ↔ u.IsPlain id.toList) ∧
      (¬u.IsPlain id.toList → pathLabel (start ++ "/" ++ id) = start ++ "/" ++ id) := by
  obtain ⟨form, hform, haround⟩ := idOf_eq_ok_iff.1 h
  have hslash := Uuid.slash_not_mem hform haround
  refine ⟨hslash, fun start hstart => ?_⟩
  have hown : pathLabel start = start := by
    revert start
    decide +kernel
  rw [pathLabel_append, hown, pathLabel_of_segment hslash, segmentLabel]
  have hlike := Uuid.isIdentifierLike_iff_isPlain hform haround
  by_cases hplain : u.IsPlain id.toList
  · rw [if_pos (hlike.2 hplain)]
    exact ⟨iff_of_true rfl hplain, fun hnot => absurd hplain hnot⟩
  · have hother : id ≠ ":id" := by
      rintro rfl
      have hnone : Uuid.parse? (Text.trimmed ":id") = none := by decide +kernel
      rw [idOf, hnone] at h
      cases h
    rw [if_neg (mt hlike.1 hplain), String.ofList_toList]
    refine ⟨iff_of_false (fun heq => hother ?_) hplain, fun _ => rfl⟩
    exact (String.append_right_inj _).1 heq

/-- One identifier has its own label without its hyphens, and the common one with them. -/
theorem label_of_accepted_id_in_two_forms :
    ∃ u, idOf "123e4567e89b12d3a456426614174000" = .ok u ∧
      idOf "123e4567-e89b-12d3-a456-426614174000" = .ok u ∧
      pathLabel ("/api/v1/accounts" ++ "/" ++ "123e4567e89b12d3a456426614174000") =
        "/api/v1/accounts" ++ "/" ++ "123e4567e89b12d3a456426614174000" ∧
      u.IsPlain "123e4567-e89b-12d3-a456-426614174000".toList := by
  have hread : (Uuid.parse? (Text.trimmed "123e4567e89b12d3a456426614174000")).isSome = true := by
    decide +kernel
  have hsame : Uuid.parse? (Text.trimmed "123e4567-e89b-12d3-a456-426614174000") =
      Uuid.parse? (Text.trimmed "123e4567e89b12d3a456426614174000") := by decide +kernel
  obtain ⟨u, hu⟩ := Option.isSome_iff_exists.1 hread
  have hsimple : idOf "123e4567e89b12d3a456426614174000" = .ok u := by rw [idOf, hu]
  have hhyphens : idOf "123e4567-e89b-12d3-a456-426614174000" = .ok u := by rw [idOf, hsame, hu]
  have hstart : "/api/v1/accounts" ∈ ["/api/v1/accounts", "/api/v1/accounts/delete"] := by simp
  obtain ⟨hiff, hown⟩ := (label_of_accepted_id hsimple).2 _ hstart
  refine ⟨u, hsimple, hhyphens, hown fun hplain => ?_, ?_⟩
  · exact absurd (hiff.2 hplain) (by decide +kernel)
  · exact ((label_of_accepted_id hhyphens).2 _ hstart).1.1 (by decide +kernel)

/-- An identifier without its hyphens is accepted, and stays in the labels of both paths. -/
theorem label_of_unhyphenated_id :
    (∃ u, idOf "123e4567e89b12d3a456426614174000" = .ok u) ∧
      '/' ∉ "123e4567e89b12d3a456426614174000".toList ∧
      pathLabel "/api/v1/accounts/123e4567e89b12d3a456426614174000" ≠ "/api/v1/accounts/:id" ∧
      pathLabel "/api/v1/accounts/delete/123e4567e89b12d3a456426614174000" ≠
        "/api/v1/accounts/delete/:id" := by
  have hread : (Uuid.parse? (Text.trimmed "123e4567e89b12d3a456426614174000")).isSome = true := by
    decide +kernel
  obtain ⟨u, hu⟩ := Option.isSome_iff_exists.1 hread
  exact ⟨⟨u, by rw [idOf, hu]⟩, by decide +kernel, by decide +kernel, by decide +kernel⟩

end Accounts

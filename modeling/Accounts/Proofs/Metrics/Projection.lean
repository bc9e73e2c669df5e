import Accounts.Proofs.Metrics.Labels
import Mathlib.Data.List.Forall2
import Mathlib.Data.String.Basic

/-!
# Labels as a projection

A path is its segments with slashes between them. Its label keeps each of them, or puts the common
name in its place, and no segment of a label is one that has to be replaced. So the labels are the
paths that are labels of themselves.

* `pathSegments`: the segments of a path, which make it (`pathSegments_injective`);
* `IsNumeric`, `IsUuidShaped`: the two kinds of segments that are replaced;
* `not_isReplaced_segmentLabel`, `segmentLabel_eq_iff`: one segment;
* `pathSegments_pathLabel`: the segments of a label;
* **`pathLabel_eq_iff`**: which paths have the same label;
* **`label_is_projection`**: the label of a path, and the label of a label.
-/

namespace Accounts

/-- The segments of a path between its slashes; at least one. -/
def pathSegments (path : String) : List (List Char) := Text.pieces '/' path.toList

/-- The name that all identifiers share. -/
def commonName : List Char := [':', 'i', 'd']

/-- One or more decimal digits. -/
def IsNumeric (segment : List Char) : Prop :=
  segment ≠ [] ∧ ∀ c ∈ segment, '0' ≤ c ∧ c ≤ '9'

/-- 36 bytes, with exactly four hyphens among the characters. -/
def IsUuidShaped (segment : List Char) : Prop :=
  (String.ofList segment).utf8ByteSize = 36 ∧ segment.count '-' = 4

/-- The segments that are replaced. -/
def IsReplaced (segment : List Char) : Prop := IsNumeric segment ∨ IsUuidShaped segment

/-! ## One segment -/

theorem Text.byteCount_eq_utf8Len (cs : List Char) : byteCount cs = String.utf8Len cs := by
  induction cs with
  | nil => rfl
  | cons c cs ih => rw [byteCount, ih, String.utf8Len_cons, Nat.add_comm]

theorem isIdentifierLike_iff_isReplaced {cs : List Char} :
    isIdentifierLike cs = true ↔ IsReplaced cs := by
  have hdigits : cs.all Decimal.isDigit = true ↔ ∀ c ∈ cs, '0' ≤ c ∧ c ≤ '9' := by
    simp [Decimal.isDigit]
  rw [isIdentifierLike_iff, hdigits, Text.byteCount_eq_utf8Len, ← String.utf8ByteSize_ofList]
  exact or_comm

instance : DecidablePred IsReplaced := fun _ => decidable_of_iff _ isIdentifierLike_iff_isReplaced

variable {a b : List Char}

theorem segmentLabel_of_isReplaced (h : IsReplaced a) : segmentLabel a = commonName :=
  if_pos (isIdentifierLike_iff_isReplaced.2 h)

theorem segmentLabel_of_not_isReplaced (h : ¬IsReplaced a) : segmentLabel a = a :=
  if_neg (mt isIdentifierLike_iff_isReplaced.1 h)

theorem not_isReplaced_segmentLabel (a : List Char) : ¬IsReplaced (segmentLabel a) := by
  by_cases h : IsReplaced a
  · -- the common name is neither digits nor as long as an identifier
    rw [segmentLabel_of_isReplaced h]
    decide
  · rwa [segmentLabel_of_not_isReplaced h]

theorem segmentLabel_eq_iff : segmentLabel a = segmentLabel b ↔
    a = b ∨ (IsReplaced a ∨ a = commonName) ∧ (IsReplaced b ∨ b = commonName) := by
  by_cases ha : IsReplaced a <;> by_cases hb : IsReplaced b
  · rw [segmentLabel_of_isReplaced ha, segmentLabel_of_isReplaced hb]
    simp [ha, hb]
  · rw [segmentLabel_of_isReplaced ha, segmentLabel_of_not_isReplaced hb]
    have hne : a ≠ b := fun h => hb (h ▸ ha)
    simp [ha, hb, hne, eq_comm]
  · rw [segmentLabel_of_not_isReplaced ha, segmentLabel_of_isReplaced hb]
    have hne : a ≠ b := fun h => ha (h ▸ hb)
    simp [ha, hb, hne]
  · rw [segmentLabel_of_not_isReplaced ha, segmentLabel_of_not_isReplaced hb]
    simp only [ha, hb, false_or]
    exact ⟨.inl, fun h => h.elim id fun ⟨hname, hname'⟩ => hname.trans hname'.symm⟩

theorem slash_not_mem_segmentLabel (h : '/' ∉ a) : '/' ∉ segmentLabel a := by
  by_cases hr : IsReplaced a
  · rw [segmentLabel_of_isReplaced hr]
    decide
  · rwa [segmentLabel_of_not_isReplaced hr]

/-! ## All segments of a path -/

theorem pathSegments_injective : Function.Injective pathSegments := by
  intro path other h
  rw [← String.toList_inj, ← Text.joined_pieces '/' path.toList,
    ← Text.joined_pieces '/' other.toList]
  exact congrArg (Text.joined ['/']) h

/-- **The segments of a label are the labels of the segments.** A label of a segment has no slash,
so the path is cut again where it was joined. -/
theorem pathSegments_pathLabel (path : String) :
    pathSegments (pathLabel path) = (pathSegments path).map segmentLabel := by
  rw [pathSegments, pathLabel, String.toList_ofList]
  refine Text.pieces_joined ?_ ?_
  · simpa using Text.pieces_ne_nil '/' path.toList
  · intro p hp
    obtain ⟨a, ha, rfl⟩ := List.mem_map.1 hp
    exact slash_not_mem_segmentLabel (Text.not_mem_of_mem_pieces a ha)

/-- **Two paths have the same label exactly if they differ only in segments that are replaced, or
are the common name already.** -/
theorem pathLabel_eq_iff {path other : String} : pathLabel path = pathLabel other ↔
    List.Forall₂ (fun a b => a = b ∨
        (IsReplaced a ∨ a = commonName) ∧ (IsReplaced b ∨ b = commonName))
      (pathSegments path) (pathSegments other) := by
  rw [← pathSegments_injective.eq_iff, pathSegments_pathLabel, pathSegments_pathLabel,
    ← List.forall₂_eq_eq_eq, List.forall₂_map_left_iff, List.forall₂_map_right_iff]
  simp only [segmentLabel_eq_iff]

/-- **A label is a projection of the path, segment by segment.** It has as many segments as the
path, each of them as it was, or the common name where the path has digits only or 36 bytes with
four hyphens. It has no such segment itself, and is its own label. Paths that differ only in such
segments have the same label. -/
theorem label_is_projection (path : String) :
    (pathSegments (pathLabel path)).length = (pathSegments path).length ∧
    List.Forall₂ (fun segment label =>
        IsReplaced segment ∧ label = commonName ∨ ¬IsReplaced segment ∧ label = segment)
      (pathSegments path) (pathSegments (pathLabel path)) ∧
    (∀ label ∈ pathSegments (pathLabel path), ¬IsNumeric label ∧ ¬IsUuidShaped label) ∧
    pathLabel (pathLabel path) = pathLabel path ∧
    ∀ other, List.Forall₂ (fun a b => a = b ∨ IsReplaced a ∧ IsReplaced b)
      (pathSegments path) (pathSegments other) → pathLabel path = pathLabel other := by
  have hnone : ∀ label ∈ pathSegments (pathLabel path), ¬IsReplaced label := by
    rw [pathSegments_pathLabel]
    intro label hlabel
    obtain ⟨a, -, rfl⟩ := List.mem_map.1 hlabel
    exact not_isReplaced_segmentLabel a
  refine ⟨?_, ?_, fun label hlabel => not_or.1 (hnone label hlabel), ?_, ?_⟩
  · rw [pathSegments_pathLabel, List.length_map]
  · rw [pathSegments_pathLabel, List.forall₂_map_right_iff, List.forall₂_same]
    intro a _
    by_cases h : IsReplaced a
    · exact .inl ⟨h, segmentLabel_of_isReplaced h⟩
    · exact .inr ⟨h, segmentLabel_of_not_isReplaced h⟩
  · apply pathSegments_injective
    rw [pathSegments_pathLabel (pathLabel path)]
    exact (List.map_congr_left fun a ha => segmentLabel_of_not_isReplaced (hnone a ha)).trans
      (List.map_id _)
  · intro other h
    refine pathLabel_eq_iff.2 (h.imp fun a b hab => ?_)
    exact hab.imp_right fun ⟨ha, hb⟩ => ⟨.inl ha, .inl hb⟩

/-- Two paths with empty segments, with 36 bytes of 20 characters, and with digits that are not the
ten: both have the same label, which has the name three times. -/
theorem label_is_projection_of_two_paths :
    let path := "//é-é-é-é-éééééééééééé/٣٣/42/:id/0/"
    let other := "//123e4567-e89b-12d3-a456-426614174000/٣٣/7/:id/00/"
    pathLabel path = "//:id/٣٣/:id/:id/:id/" ∧ pathLabel other = pathLabel path ∧
      pathLabel "//:id/٣٣/:id/:id/:id/" = "//:id/٣٣/:id/:id/:id/" ∧
      ¬IsNumeric ['٣', '٣'] := by
  intro path other
  have hlabel : pathLabel path = "//:id/٣٣/:id/:id/:id/" := by decide +kernel
  obtain ⟨-, -, hnone, hagain, hsame⟩ := label_is_projection path
  refine ⟨hlabel, (hsame other (by decide +kernel)).symm, ?_, ?_⟩
  · rwa [hlabel] at hagain
  · exact (hnone ['٣', '٣'] (by decide +kernel)).1

end Accounts

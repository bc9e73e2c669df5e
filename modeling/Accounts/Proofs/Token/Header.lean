import Accounts.Proofs.Base64
import Accounts.Proofs.Json.Record
import Accounts.Token.Header

/-!
# Headers are read back

* `Header.document?_encode`: a written value in a segment is found as its tree;
* **`Header.algorithmName?_text`**, `Header.isWellFormed_text`: the written header of an algorithm
  has its name and is well formed;
* **`Header.exists_object`**: a well-formed header with a name holds a whole object whose member
  `alg` is that name.
-/

namespace Accounts

open Json Record

namespace Header

theorem document?_encode {v : Json} (hv : IsExact v) :
    document? (Base64.encode .url (Utf8.encode v.text)) = some ⟨v.node, true⟩ := by
  rw [document?, Base64.decode?_encode]
  exact congrArg some (Document.ofBytes_encode_text hv)

theorem isExact_json (a : Algorithm) : IsExact (json a) := ⟨trivial, trivial, trivial⟩

/-- **The written header of an algorithm has its name.** -/
theorem algorithmName?_text (a : Algorithm) : algorithmName? (text a) = some a.name := by
  have hr : readAlgorithmName (json a).node = .ok a.name := rfl
  have hd : Document.read readAlgorithmName ⟨(json a).node, true⟩ = .ok a.name :=
    Document.read_eq_ok_iff.2 ⟨hr, rfl⟩
  rw [algorithmName?, text, document?_encode (isExact_json a), Option.bind_eq_bind,
    Option.bind_some, hd]
  rfl

theorem isWellFormed_text (a : Algorithm) : isWellFormed (text a) = true := by
  rw [isWellFormed, text, document?_encode (isExact_json a)]
  cases a <;> rfl

/-! ## What a header holds -/

theorem dot_not_mem_of_document? {segment : List Char} {doc : Document}
    (h : document? segment = some doc) : '.' ∉ segment := by
  obtain ⟨bytes, hbytes, -⟩ := Option.map_eq_some_iff.1 h
  rw [(Base64.decode?_eq_some_iff _).1 hbytes]
  exact Base64.dot_not_mem_encode _ bytes

theorem algorithmName?_eq_some {segment : List Char} {name : String}
    (h : algorithmName? segment = some name) : ∃ doc, document? segment = some doc ∧
      readAlgorithmName doc.root = .ok name ∧ doc.complete = true := by
  obtain ⟨doc, hdoc, h⟩ := Option.bind_eq_some_iff.1 h
  exact ⟨doc, hdoc, Document.read_eq_ok_iff.1 (Outcome.toOption_eq_some_iff.1 h)⟩

theorem fields_of_isWellFormed {segment : List Char} {doc : Document}
    (hdoc : document? segment = some doc) (h : isWellFormed segment = true) :
    ∃ seen, Record.fields "Header" Header.fields doc.root = .ok seen := by
  rw [isWellFormed, hdoc] at h
  simp only [KeyMaterial.succeeds] at h
  split at h
  · next seen hs => exact ⟨seen, (Document.read_eq_ok_iff.1 hs).1⟩
  · cases h

/-- **A well-formed header with a name holds a whole object whose member `alg` is that name.** -/
theorem exists_object {segment : List Char} {name : String}
    (hname : algorithmName? segment = some name) (hform : isWellFormed segment = true) :
    ∃ bytes members, segment = Base64.encode .url bytes ∧
      Document.ofBytes bytes = ⟨.object members true, true⟩ ∧
      members.lookup (some "alg") = some (.string (some name)) := by
  obtain ⟨⟨root, complete⟩, hdoc, hread, hcomplete⟩ := algorithmName?_eq_some hname
  obtain ⟨seen', hs'⟩ := fields_of_isWellFormed hdoc hform
  obtain ⟨bytes, hbytes, hof⟩ := Option.map_eq_some_iff.1 hdoc
  obtain ⟨seen, hs, hget⟩ := Outcome.bind_eq_ok_iff.1 hread
  simp only at hcomplete hs hs'
  rcases object_or_array hs with ⟨members, closed, rfl⟩ | ⟨items, closed, rfl⟩
  · obtain ⟨hc, -⟩ := fields_object hs
    obtain ⟨v, hv, hr⟩ := gives_of_get hs ⟨_, rfl⟩ hget
    rw [readText_eq_ok hr] at hv
    rw [hc, hcomplete] at hof
    exact ⟨bytes, members, (Base64.decode?_eq_some_iff _).1 hbytes, hof, hv⟩
  · -- the record of the name has one item then, and that of all members has ten
    have h1 := length_of_ofItems (by decide) hs
    have h10 := length_of_ofItems (by decide) hs'
    rw [h1] at h10
    cases h10

end Header

end Accounts

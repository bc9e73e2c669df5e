import Accounts.Proofs.Account.Privilege
import Accounts.Proofs.Service.Comparison

/-!
# What callers see of a driver's text

Two runs get the same calls, and their stores fail at the same calls in the same ways; only the
texts of the reports differ. A report that a value is not unique is told with its text, and no other
is.

* `DriverFault.blank`, `RevocationFault.blank`: a report without its text;
* `Outage`, `Turn`: what the stores report during a call, and a call with it; `Service.turns`: a run
  with its answers;
* `Comparison.texts`: the comparison of two turns that are equal without their texts;
* `AccountFault.respond_ofDriver`: which reports of a driver respond alike;
* **`Service.driver_text_only_of_unique_violations`**: two runs that are equal without their texts;
* `Service.unique_violation_tells_constraint`: a text that is told.
-/

namespace Accounts

open UserStoreFault (uniqueViolation ofDriver)

/-- A driver's report without its text. -/
def DriverFault.blank : DriverFault → DriverFault
  | .rowNotFound => .rowNotFound
  | .poolTimedOut => .poolTimedOut
  | .poolClosed => .poolClosed
  | .workerCrashed => .workerCrashed
  | .protocol _ => .protocol ""
  | .columnNotFound _ => .columnNotFound ""
  | .database code _ => .database code ""
  | .configuration _ => .configuration ""
  | .other _ => .other ""

/-- A report about revoked tokens without its text. -/
def RevocationFault.blank : RevocationFault → RevocationFault
  | .unavailable _ => .unavailable ""
  | .timeout millis => .timeout millis

/-- What the two stores report during a call, if they fail. -/
structure Outage where
  users : Option DriverFault := none
  revocations : Option RevocationFault := none

/-- An outage without its texts. -/
def Outage.blank (x : Outage) : Outage :=
  ⟨x.users.map DriverFault.blank, x.revocations.map RevocationFault.blank⟩

/-- A call on its occasion, and the outage that it meets. -/
structure Turn where
  occasion : Occasion
  outage : Outage
  call : Call

/-- A turn without its texts. -/
def Turn.blank (t : Turn) : Turn := { t with outage := t.outage.blank }

/-- A state whose stores fail as an outage says. -/
def State.meeting (st : State) (x : Outage) : State :=
  { st with
    users := { st.users with fault := x.users.map ofDriver }
    revocations := { st.revocations with fault := x.revocations } }

namespace Service

variable (service : Service)

/-- The answer in a turn. -/
def turnAnswer (st : State) (t : Turn) : Answer :=
  service.answer t.occasion (st.meeting t.outage) t.call

/-- The state after a turn. -/
def afterTurn (st : State) (t : Turn) : State :=
  service.afterCall t.occasion (st.meeting t.outage) t.call

/-- A run of turns with their answers. -/
def turns (st : State) : List Turn → List (Turn × Answer)
  | [] => []
  | t :: ts => (t, service.turnAnswer st t) :: turns (service.afterTurn st t) ts

end Service

/-! ## Reports without their texts -/

section Blank

variable {d d' : DriverFault}

theorem status_ofDriver_blank (d : DriverFault) :
    (AccountFault.ofStore (ofDriver d.blank)).status =
      (AccountFault.ofStore (ofDriver d)).status := by
  cases d with
  | database code text =>
    simp only [DriverFault.blank, ofDriver]
    split <;> rfl
  | _ => rfl

theorem sameStatus_ofDriver (h : d.blank = d'.blank) : (ofDriver d).SameStatus (ofDriver d') := by
  rw [UserStoreFault.SameStatus, ← status_ofDriver_blank d, ← status_ofDriver_blank d', h]

theorem exists_of_blank_eq {code : Option String} (h : d.blank = .database code "") :
    ∃ text, d = .database code text := by
  cases d with
  | database other text =>
    cases h
    exact ⟨text, rfl⟩
  | _ => cases h

theorem AccountFault.respond_ofDriver_blank
    (h : ∀ text, d ≠ .database (some uniqueViolation) text) :
    (ofStore (ofDriver d)).respond = (ofStore (ofDriver d.blank)).respond := by
  cases d with
  | database code text =>
    have hcode : code ≠ some uniqueViolation := fun heq => h text (heq ▸ rfl)
    rw [DriverFault.blank, ofDriver, ofDriver, if_neg hcode, if_neg hcode]
    rfl
  | _ => rfl

/-- **Two reports that are equal without their texts respond alike**, but if a value is not
unique. -/
theorem AccountFault.respond_ofDriver (h : d.blank = d'.blank) :
    (ofStore (ofDriver d)).respond = (ofStore (ofDriver d')).respond ∨
      ∃ text text', d = .database (some uniqueViolation) text ∧
        d' = .database (some uniqueViolation) text' := by
  by_cases hd : ∃ text, d = .database (some uniqueViolation) text
  · obtain ⟨text, rfl⟩ := hd
    obtain ⟨text', rfl⟩ := exists_of_blank_eq h.symm
    exact .inr ⟨text, text', rfl, rfl⟩
  · have hd' : ∀ text, d' ≠ .database (some uniqueViolation) text := by
      rintro text rfl
      exact hd (exists_of_blank_eq h)
    refine .inl ?_
    rw [respond_ofDriver_blank fun text heq => hd ⟨text, heq⟩, h, ← respond_ofDriver_blank hd']

end Blank

/-! ## Two turns -/

namespace Comparison

variable {x x' : Outage} {st st' : State}

/-- Two runs whose outages are equal without their texts; no record differs. -/
def texts (x x' : Outage) (h : x.blank = x'.blank) : Comparison where
  record := Eq
  usersFault := x.users.map ofDriver
  usersFault' := x'.users.map ofDriver
  revocationsFault := x.revocations
  revocationsFault' := x'.revocations
  record_refl _ := rfl
  unhashed_eq := congrArg User.unhashed
  record_updated h _ _ := h ▸ rfl
  usersFaults := rel_map_of_eq (R := UserStoreFault.SameStatus) sameStatus_ofDriver
    (congrArg Outage.users h)
  revocationsFaults := by
    have hrel := rel_map_of_eq (R := fun _ _ => True) (g := id) (fun _ => trivial)
      (congrArg Outage.revocations h)
    rwa [Option.map_id, id, id] at hrel

theorem states_meeting (h : st.meeting {} = st'.meeting {}) (hx : x.blank = x'.blank) :
    (texts x x' hx).States (st.meeting x) (st'.meeting x') := by
  have htable : st.users.table = st'.users.table := (congrArg (fun s : State => s.users.table) h :)
  exact {
    users := {
      table := List.forall₂_eq_eq_eq ▸ congrArg UserTable.users htable
      fault := rfl
      fault' := rfl
      backend := (congrArg (fun s : State => s.users.backend) h :) }
    revocations := {
      table := (congrArg (fun s : State => s.revocations.table) h :)
      fault := rfl
      fault' := rfl
      backend := (congrArg (fun s : State => s.revocations.backend) h :)
      calls := (congrArg (fun s : State => s.revocations.calls) h :) }
    metrics := (congrArg State.metrics h :) }

theorem meeting_eq_of_states {hx : x.blank = x'.blank} (h : (texts x x' hx).States st st') :
    st.meeting {} = st'.meeting {} := by
  have husers : st.users.table.users = st'.users.table.users := by
    rw [← List.forall₂_eq_eq_eq]
    exact h.users.table
  rw [State.meeting, State.meeting, State.mk.injEq, UserStore.mk.injEq, RevocationStore.mk.injEq]
  exact ⟨⟨congrArg UserTable.mk husers, rfl, h.users.backend⟩,
    ⟨h.revocations.table, rfl, h.revocations.backend, h.revocations.calls⟩, h.metrics⟩

end Comparison

namespace Service

variable (service : Service) {st st' : State} {t t' : Turn}

/-- In two turns the answers are the same, or are replies that tell the texts of two reports that a
value is not unique. -/
def AnswersAlike (p p' : Turn × Answer) : Prop :=
  p.2 = p'.2 ∨ ∃ r e text text', p.1.call = .http r ∧ Endpoint.ofPath? r.path = some e ∧
    p.1.outage.users = some (.database (some uniqueViolation) text) ∧
    p'.1.outage.users = some (.database (some uniqueViolation) text') ∧
    p.2 = .http (dress r e (AccountFault.conflict text).respond) ∧
    p'.2 = .http (dress r e (AccountFault.conflict text').respond)

theorem answersAlike_turn (h : st.meeting {} = st'.meeting {}) (ht : t.blank = t'.blank) :
    AnswersAlike (t, service.turnAnswer st t) (t', service.turnAnswer st' t') ∧
      (service.afterTurn st t).meeting {} = (service.afterTurn st' t').meeting {} := by
  obtain ⟨o, x, call⟩ := t
  obtain ⟨o', x', call'⟩ := t'
  obtain ⟨rfl, hx, rfl⟩ : o = o' ∧ x.blank = x'.blank ∧ call = call' := by
    simpa [Turn.blank] using ht
  have hstates := Comparison.states_meeting h hx
  have hrecord : call.IsLogin → ∀ u v, (Comparison.texts x x' hx).record u v → u = v :=
    fun _ _ _ => id
  refine ⟨?_, Comparison.meeting_eq_of_states (hstates.afterCall service o hrecord)⟩
  have hanswers := hstates.answer service o hrecord
  rcases hanswers with heq | ⟨r, e, f, f', rfl, hpath, hf, hf', ha, ha'⟩
  · exact .inl heq
  · obtain ⟨d, hd, rfl⟩ := Option.map_eq_some_iff.1 hf
    obtain ⟨d', hd', rfl⟩ := Option.map_eq_some_iff.1 hf'
    have hblank : d.blank = d'.blank := by
      have := congrArg Outage.users hx
      simpa [Outage.blank, hd, hd'] using this
    rcases AccountFault.respond_ofDriver hblank with heq | ⟨text, text', rfl, rfl⟩
    · exact .inl (ha.trans ((congrArg (fun p => Answer.http (dress r e p)) heq).trans ha'.symm))
    · exact .inr ⟨r, e, text, text', rfl, hpath, hd, hd', ha, ha'⟩

theorem forall₂_answersAlike {ts ts' : List Turn} (h : st.meeting {} = st'.meeting {})
    (hts : ts.map Turn.blank = ts'.map Turn.blank) :
    List.Forall₂ AnswersAlike (service.turns st ts) (service.turns st' ts') := by
  induction ts generalizing st st' ts' with
  | nil =>
    cases ts' with
    | nil => exact .nil
    | cons t' ts' => cases hts
  | cons t ts ih =>
    cases ts' with
    | nil => cases hts
    | cons t' ts' =>
      obtain ⟨ht, hrest⟩ := List.cons.inj hts
      obtain ⟨hanswers, hstates⟩ := answersAlike_turn service h ht
      exact .cons hanswers (ih hstates hrest)

theorem answers_eq_of_forall₂ {l l' : List (Turn × Answer)} (h : List.Forall₂ AnswersAlike l l')
    (hunique : ∀ p ∈ l, ∀ text, p.1.outage.users ≠ some (.database (some uniqueViolation) text)) :
    l.map Prod.snd = l'.map Prod.snd := by
  induction h with
  | nil => rfl
  | cons hp _ ih =>
    obtain ⟨hfirst, hrest⟩ := List.forall_mem_cons.1 hunique
    rw [List.map_cons, List.map_cons, ih hrest]
    rcases hp with heq | ⟨r, e, text, text', -, -, htext, -⟩
    · rw [heq]
    · exact absurd htext (hfirst text)

theorem map_fst_turns (st : State) (ts : List Turn) : (service.turns st ts).map Prod.fst = ts := by
  induction ts generalizing st with
  | nil => rfl
  | cons t ts ih => rw [turns, List.map_cons, ih]

/-- **A driver's text is told only of unique violations.** Two runs of turns are equal without the
texts of what the stores report. Each turn is answered alike: with the same response or remote
reply, or in both runs with the response of a conflict and the text of the report, and then a driver
has reported in both that a value is not unique. If none reports this, all answers are the same. -/
theorem driver_text_only_of_unique_violations (st : State) {ts ts' : List Turn}
    (hts : ts.map Turn.blank = ts'.map Turn.blank) :
    List.Forall₂ AnswersAlike (service.turns st ts) (service.turns st ts') ∧
      ((∀ t ∈ ts, ∀ text, t.outage.users ≠ some (.database (some uniqueViolation) text)) →
        (service.turns st ts).map Prod.snd = (service.turns st ts').map Prod.snd) := by
  have hanswers := forall₂_answersAlike service (rfl : st.meeting {} = st.meeting {}) hts
  refine ⟨hanswers, fun hunique => answers_eq_of_forall₂ hanswers fun p hp => hunique p.1 ?_⟩
  have hmem := List.mem_map_of_mem (f := Prod.fst) hp
  rwa [map_fst_turns] at hmem

/-- A missing table, a store that is out of reach and a broken connection are each met twice with
other texts, by a registration and by both remote calls; the answers are the same. -/
theorem driver_text_only_of_unique_violations_three_outages :
    let service := ofSettings { secret := "secret" } .argon2id ⟨0, 0⟩
    let o : Occasion := ⟨⟨1700000000, 0⟩, 0, Uuid.random 1, List.replicate 16 0⟩
    let register := post "register" [("name", "Alice"), ("username", "alice"),
      ("email", "alice@example.com"), ("password", "secret")]
    let token := (service.signer.issue ⟨Uuid.random 2, "bob", .user⟩ (Uuid.random 3) o.wall).token
    let run (text : String) : List Turn :=
      [⟨o, ⟨some (.database (some "42P01") text), none⟩, .http register⟩,
        ⟨o, ⟨none, some (.unavailable text)⟩, .validateToken token⟩,
        ⟨o, ⟨some (.other text), none⟩, .getUser (Uuid.random 1).text⟩]
    List.Forall₂ AnswersAlike (service.turns {} (run "a")) (service.turns {} (run "b")) ∧
      (service.turns {} (run "a")).map Prod.snd = (service.turns {} (run "b")).map Prod.snd ∧
      (service.serve o register
          (({} : State).meeting ⟨some (.database (some "42P01") "a"), none⟩)).1 =
        .json 500 (.object [("code", .string "INTERNAL_ERROR"),
          ("message", .string "Internal server error")]) := by
  intro service o register token run
  have htexts : (run "a").map Turn.blank = (run "b").map Turn.blank := rfl
  obtain ⟨halike, hsame⟩ := driver_text_only_of_unique_violations service {} htexts
  exact ⟨halike, hsame (by simp [run, uniqueViolation]), by decide +kernel⟩

/-- A registration that meets a unique violation is answered with the driver's text, and so tells
which constraint it was. -/
theorem unique_violation_tells_constraint :
    let service := ofSettings { secret := "secret" } .argon2id ⟨0, 0⟩
    let o : Occasion := ⟨⟨1700000000, 0⟩, 0, Uuid.random 1, List.replicate 16 0⟩
    let register := post "register" [("name", "Alice"), ("username", "alice"),
      ("email", "alice@example.com"), ("password", "secret")]
    let report (constraint : String) : DriverFault := .database (some "23505")
      ("duplicate key value violates unique constraint \"" ++ constraint ++ "\"")
    let turn (constraint : String) : Turn :=
      ⟨o, ⟨some (report constraint), none⟩, .http register⟩
    (turn "users_username_key").blank = (turn "users_email_key").blank ∧
      service.turnAnswer {} (turn "users_username_key") ≠
        service.turnAnswer {} (turn "users_email_key") := by
  intro service o register report turn
  have hbodies : (service.serve o register
      (({} : State).meeting (turn "users_username_key").outage)).1.body ≠
      (service.serve o register
        (({} : State).meeting (turn "users_email_key").outage)).1.body := by decide +kernel
  exact ⟨rfl, fun heq => hbodies (congrArg Response.body (Answer.http.inj heq))⟩

end Service

end Accounts

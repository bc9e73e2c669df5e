import Mathlib.Algebra.BigOperators.Finprod
import Accounts.Proofs.Gate.Agreement
import Accounts.Proofs.Metrics.Refusals
import Accounts.Proofs.Token.Signature

/-!
# What is counted adds up

A run is a list of visits: requests over HTTP and remote calls, each with the condition of the stores
at that time. Whatever the run, the counters are what happened in it.

* `Visit`, `Encounter`, `Service.encounters`: the visits, and each with the state that it meets;
* **`Service.adds_afterEncounter`**, **`Service.adds_afterVisits`**: what one visit and what a run adds
  to the counts, to the durations and to the calls to the store of revoked tokens;
* **`Service.value_afterVisits`**: a counter is the number of the encounters that add to it;
* `Service.rejected?_spec`: what is counted as a refusal is the response of one, and no other is;
* **`Service.metrics_add_up`**: the whole of it.
-/

namespace Accounts

/-- A call on its occasion, and what the two stores report during it, if they fail. -/
structure Visit where
  occasion : Occasion
  call : Call
  usersFault : Option UserStoreFault := none
  revocationsFault : Option RevocationFault := none

/-- A call on its occasion, and the state that it meets. -/
structure Encounter where
  occasion : Occasion
  call : Call
  state : State

/-- A visit meets the state that the one before has left, in the condition of its time. -/
def Visit.meets (v : Visit) (st : State) : Encounter where
  occasion := v.occasion
  call := v.call
  state := { st with
    users := { st.users with fault := v.usersFault }
    revocations := { st.revocations with fault := v.revocationsFault } }

/-- The method and the label of the path that a call over HTTP has. -/
def Call.route? : Call → Option (String × String)
  | .http r => some (r.method, pathLabel r.path)
  | .validateToken _ | .getUser _ => none

/-- The durations that an encounter records. -/
def Encounter.timed (x : Encounter) : List Timing :=
  (x.call.route?.map fun (method, path) => ⟨method, path, 0⟩).toList

/-- A token was refused as revoked. -/
def isRevoked : Except TokenFault Verification → Bool
  | .ok (.invalid .revoked) => true
  | _ => false

/-- A call to the store of revoked tokens is a look-up. -/
def StoreCall.isContains : StoreCall → Bool
  | .contains _ => true
  | .put _ _ => false

/-- A call to the store of revoked tokens is a put. -/
def StoreCall.isPut : StoreCall → Bool
  | .contains _ => false
  | .put _ _ => true

namespace Service

variable (service : Service)

/-- The state after an encounter. -/
def afterEncounter (x : Encounter) : State := service.afterCall x.occasion x.state x.call

/-- The encounters of a run. -/
def encounters (st : State) : List Visit → List Encounter
  | [] => []
  | v :: vs => v.meets st :: encounters (service.afterEncounter (v.meets st)) vs

/-- The state after a run. -/
def afterVisits (st : State) (visits : List Visit) : State :=
  visits.foldl (fun st v => service.afterEncounter (v.meets st)) st

/-- The response to a call over HTTP. -/
def response? (x : Encounter) : Option Response :=
  match x.call with
  | .http r => some (service.serve x.occasion r x.state).1
  | .validateToken _ | .getUser _ => none

/-- The check that a call makes, with its outcome. -/
def verdict? (x : Encounter) : Option (Surface × Except TokenFault Verification) :=
  x.call.check?.map fun (surface, token) =>
    (surface, (service.verify x.occasion token x.state.revocations).1)

/-- How the put ends that a call makes. -/
def putOutcome? (x : Encounter) : Option RevokeOutcome :=
  (service.put? x.occasion x.call).map fun _ =>
    if x.state.revocations.fault.isNone then .revoked else .error

/-- The label, the status and the code under which a call over HTTP is refused, if it is. -/
def rejected? (x : Encounter) : Option (String × Nat × String) :=
  x.call.route?.bind fun (_, path) =>
    (service.refusal? x.occasion x.state x.call).map fun f => (path, f.status, f.code)

/-- The labels under which a response is counted. -/
def answered? (x : Encounter) : Option (String × String × Nat) :=
  x.call.route?.bind fun (method, path) =>
    (service.response? x).map fun response => (method, path, response.status)

/-- What an encounter counts: the request, what its work counts, the response and the refusal. -/
def counted (x : Encounter) : List Counter :=
  (x.call.route?.map fun (method, path) => Counter.request method path).toList ++
    (service.trace x.occasion x.state.revocations x.call).counts ++
    ((service.answered? x).map fun (method, path, status) =>
      Counter.response method path status).toList ++
    ((service.rejected? x).map fun (path, status, code) =>
      Counter.rejection path status code).toList

variable {service} {o : Occasion} {r : Request} {st : State} {x : Encounter}

/-! ## One visit -/

theorem metrics_serve (o : Occasion) (r : Request) (st : State) :
    let answer := service.route o r (st.count (.request r.method (pathLabel r.path)))
    (service.serve o r st).2.metrics.counts = answer.2.metrics.counts ++
        .response r.method (pathLabel r.path) answer.1.status ::
          (answer.1.rejection.map fun code =>
            Counter.rejection (pathLabel r.path) answer.1.status code).toList ∧
      (service.serve o r st).2.metrics.timings =
        answer.2.metrics.timings ++ [⟨r.method, pathLabel r.path, 0⟩] := by
  simp only [serve]
  generalize service.route o r _ = answer
  obtain ⟨response, after⟩ := answer
  cases response.rejection <;> simp [State.count, Metrics.count, Metrics.time]

theorem counted_mark (o : Occasion) (r : Request) (st : State) :
    let response := (service.serve o r st).1
    (response.rejection.map fun code =>
        Counter.rejection (pathLabel r.path) response.status code) =
      (service.refusal? o st (.http r)).map fun f =>
        Counter.rejection (pathLabel r.path) f.status f.code := by
  obtain ⟨hnone, hmark⟩ | ⟨f, e, hf, -, hresponse⟩ := service.serve_cases o r st
  · simp only [hnone, hmark, Option.map_none]
  · simp only [hf, hresponse, rejection_dress, status_dress, Refusal.rejection_respond,
      Refusal.status_respond, Option.map_some]

/-- **What an encounter adds** to the counts, the durations and the calls to the store of revoked
tokens. -/
theorem adds_afterEncounter (hlifetime : 0 < service.signer.lifetime) (x : Encounter) :
    (service.afterEncounter x).metrics.counts = x.state.metrics.counts ++ service.counted x ∧
      (service.afterEncounter x).metrics.timings = x.state.metrics.timings ++ x.timed ∧
      (service.afterEncounter x).revocations.calls = x.state.revocations.calls ++
        (service.trace x.occasion x.state.revocations x.call).calls := by
  obtain ⟨o, call, st⟩ := x
  cases call with
  | http r =>
    have hroute := adds_route hlifetime o r (st.count (.request r.method (pathLabel r.path)))
    obtain ⟨hcounts, htimings⟩ := @metrics_serve service o r st
    have hmark := @counted_mark service o r st
    simp only [← fst_serve] at hcounts
    simp only [afterEncounter, afterCall, counted, Encounter.timed, Call.route?, answered?, response?,
      rejected?, Option.map_some, Option.bind_some, Option.toList_some]
    refine ⟨?_, ?_, ?_⟩
    · rw [hcounts, hmark, hroute.counts]
      simp [State.count, Metrics.count, Function.comp_def]
    · rw [htimings, hroute.timings]
      rfl
    · rw [revocations_serve, hroute.calls]
      rfl
  | validateToken token =>
    have h := @adds_validateToken service o st token
    refine ⟨h.counts.trans ?_, h.timings.trans (List.append_nil _).symm, h.calls⟩
    simp [counted, Call.route?, answered?, rejected?]
  | getUser id =>
    exact ⟨(List.append_nil _).symm, (List.append_nil _).symm, (List.append_nil _).symm⟩

/-! ## Runs -/

/-- **What a run adds**, one encounter after the other. -/
theorem adds_afterVisits (hlifetime : 0 < service.signer.lifetime) (st : State)
    (visits : List Visit) :
    (service.afterVisits st visits).metrics.counts =
        st.metrics.counts ++ (service.encounters st visits).flatMap service.counted ∧
      (service.afterVisits st visits).metrics.timings =
        st.metrics.timings ++ (service.encounters st visits).flatMap Encounter.timed ∧
      (service.afterVisits st visits).revocations.calls = st.revocations.calls ++
        (service.encounters st visits).flatMap fun x =>
          (service.trace x.occasion x.state.revocations x.call).calls := by
  induction visits generalizing st with
  | nil => exact ⟨(List.append_nil _).symm, (List.append_nil _).symm, (List.append_nil _).symm⟩
  | cons v visits ih =>
    obtain ⟨hcounts, htimings, hcalls⟩ := adds_afterEncounter hlifetime (v.meets st)
    obtain ⟨ihcounts, ihtimings, ihcalls⟩ := ih (service.afterEncounter (v.meets st))
    rw [hcounts] at ihcounts
    rw [htimings] at ihtimings
    rw [hcalls] at ihcalls
    simp only [encounters, List.flatMap_cons]
    exact ⟨ihcounts.trans (List.append_assoc _ _ _), ihtimings.trans (List.append_assoc _ _ _),
      ihcalls.trans (List.append_assoc _ _ _)⟩

/-! ## Counting -/

section Counting

variable {α β γ : Type} {l : List α}

theorem countP_flatMap_eq_sum {f : α → List β} {q : β → Bool} {ps : List (α → Bool)}
    (h : ∀ a, (f a).countP q = (ps.map fun p => if p a then 1 else 0).sum) :
    (l.flatMap f).countP q = (ps.map fun p => l.countP p).sum := by
  induction l with
  | nil => simp
  | cons a l ih =>
    simp only [List.flatMap_cons, List.countP_append, ih, h, List.countP_cons, List.sum_map_add]
    exact Nat.add_comm _ _

theorem countP_eq_sum {q : α → Bool} {ps : List (α → Bool)}
    (h : ∀ a, (if q a then 1 else 0) = (ps.map fun p => if p a then 1 else 0).sum) :
    l.countP q = (ps.map fun p => l.countP p).sum := by
  have hl : l.flatMap (fun a => [a]) = l := List.flatMap_singleton' l
  rw [← countP_flatMap_eq_sum fun a => (List.countP_singleton).trans (h a), hl]

theorem finsum_count (l : List Nat) : ∑ᶠ n, l.count n = l.length := by
  have hsupport : Function.support (fun n => l.count n) ⊆ (l.toFinset : Set Nat) := by
    intro n hn
    simpa [List.count_eq_zero] using hn
  rw [finsum_eq_sum_of_support_subset _ hsupport]
  exact List.sum_toFinset_count_eq_length l

end Counting

/-! ## The values of the counters -/

theorem count_toList (a : Option Counter) (c : Counter) :
    a.toList.count c = if a = some c then 1 else 0 := by
  cases a with
  | none => simp
  | some b => simp [List.count_singleton]

theorem counts_trace_eq (hlifetime : 0 < service.signer.lifetime) (x : Encounter) :
    (service.trace x.occasion x.state.revocations x.call).counts =
      ((service.verdict? x).map fun (surface, outcome) =>
        Counter.verification surface (checkOutcome outcome)).toList ++
      ((service.putOutcome? x).map Counter.revocation).toList := by
  rw [counts_trace hlifetime, verdict?, putOutcome?, Option.map_map, Option.map_map]
  rfl

/-- An encounter adds one to a counter: its request or its response has the labels, its check or its
put ends so, or it is refused so. -/
def addsTo (service : Service) (x : Encounter) : Counter → Bool
  | .request method path => x.call.route? = some (method, path)
  | .response method path status => service.answered? x = some (method, path, status)
  | .verification surface outcome =>
    (service.verdict? x).map (fun v => (v.1, checkOutcome v.2)) = some (surface, outcome)
  | .revocation outcome => service.putOutcome? x = some outcome
  | .rejection path status code => service.rejected? x = some (path, status, code)

theorem count_counted (hlifetime : 0 < service.signer.lifetime) (x : Encounter) (c : Counter) :
    (service.counted x).count c = if service.addsTo x c then 1 else 0 := by
  rw [counted, counts_trace_eq hlifetime]
  cases c with
  | verification surface outcome =>
    have hverdict : ((service.verdict? x).map fun v => Counter.verification v.1 (checkOutcome v.2)) =
          some (.verification surface outcome) ↔
        ((service.verdict? x).map fun v => (v.1, checkOutcome v.2)) = some (surface, outcome) := by
      cases service.verdict? x <;> simp
    simp only [List.count_append, count_toList, addsTo, decide_eq_true_eq, hverdict]
    simp
  | _ => simp [List.count_append, count_toList, addsTo]

/-- **A counter is the number of encounters that add to it.** -/
theorem value_afterVisits (hlifetime : 0 < service.signer.lifetime) {st : State}
    (hcounts : st.metrics.counts = []) (visits : List Visit) (c : Counter) :
    (service.afterVisits st visits).metrics.value c =
      (service.encounters st visits).countP fun x => service.addsTo x c := by
  have h : ((service.encounters st visits).flatMap service.counted).countP (· == c) =
      ([fun x => service.addsTo x c].map fun p => (service.encounters st visits).countP p).sum :=
    countP_flatMap_eq_sum fun x => (count_counted hlifetime x c).trans (by simp)
  rw [Metrics.value, (adds_afterVisits hlifetime st visits).1, hcounts, List.nil_append]
  exact h.trans (by simp)

/-! ## Requests and responses -/

theorem length_durations (hlifetime : 0 < service.signer.lifetime) {st : State}
    (htimings : st.metrics.timings = []) (visits : List Visit) (method path : String) :
    ((service.afterVisits st visits).metrics.durations method path).count =
      (service.encounters st visits).countP fun x => x.call.route? = some (method, path) := by
  have h : ((service.encounters st visits).flatMap Encounter.timed).countP
      (fun t => t.method = method ∧ t.path = path) =
        ([fun x : Encounter => decide (x.call.route? = some (method, path))].map fun p =>
          (service.encounters st visits).countP p).sum := by
    refine countP_flatMap_eq_sum fun x => ?_
    rw [Encounter.timed]
    cases hroute : x.call.route? <;> simp [hroute, Prod.ext_iff]
  rw [Histogram.count, Metrics.durations, List.length_map, ← List.countP_eq_length_filter,
    (adds_afterVisits hlifetime st visits).2.1, htimings, List.nil_append]
  exact h.trans (by simp)

theorem finsum_answered (l : List Encounter) (method path : String) :
    ∑ᶠ status, l.countP (fun x => service.answered? x = some (method, path, status)) =
      l.countP fun x => x.call.route? = some (method, path) := by
  let statuses := (l.filter fun x => x.call.route? = some (method, path)).map fun x =>
    ((service.response? x).map Response.status).getD 0
  have hcount (status : Nat) : l.countP (fun x => service.answered? x = some (method, path, status)) =
      statuses.count status := by
    rw [List.count, List.countP_map, List.countP_filter]
    refine List.countP_congr fun x _ => ?_
    obtain ⟨o, call, st⟩ := x
    cases call with
    | http r =>
      simp only [answered?, response?, Call.route?, Option.bind_some, Option.map_some,
        Option.getD_some, Function.comp_apply, decide_eq_true_eq, Bool.and_eq_true, beq_iff_eq,
        Option.some.injEq, Prod.mk.injEq]
      exact ⟨fun ⟨hmethod, hpath, hstatus⟩ => ⟨hstatus, hmethod, hpath⟩,
        fun ⟨hstatus, hmethod, hpath⟩ => ⟨hmethod, hpath, hstatus⟩⟩
    | validateToken token => simp [answered?, Call.route?]
    | getUser id => simp [answered?, Call.route?]
  rw [List.countP_eq_length_filter, ← List.length_map, ← finsum_count]
  exact finsum_congr hcount

/-! ## Checks and puts -/

theorem decodeVerified_ne_revoked {signer : Signer} {now : Int} {token : String} :
    signer.decodeVerified now token ≠ .error .revoked := by
  intro h
  obtain h | ⟨a, -, h⟩ := Outcome.bind_eq_error_iff.1 h
  · obtain h | h := Signer.checkAlgorithm_eq_error h <;> cases h
  split at h
  · cases h
  split at h
  · cases h
  split at h
  · cases h
  split at h
  · cases h
  · obtain h | h := Signer.checkClaims_eq_error h <;> cases h

theorem countP_isContains (hlifetime : 0 < service.signer.lifetime) (x : Encounter) :
    (service.trace x.occasion x.state.revocations x.call).calls.countP StoreCall.isContains =
      ([fun x => service.addsTo x (.verification .http .valid),
        fun x => service.addsTo x (.verification .rpc .valid),
        fun x => service.addsTo x (.verification .http .error),
        fun x => service.addsTo x (.verification .rpc .error),
        fun x => (service.verdict? x).any fun v => isRevoked v.2].map
          fun p => if p x then 1 else 0).sum := by
  have hput : ((service.put? x.occasion x.call).map fun p => StoreCall.put p.1 p.2
      ).toList.countP StoreCall.isContains = 0 := by
    cases service.put? x.occasion x.call <;> simp [StoreCall.isContains]
  rw [calls_trace hlifetime, List.countP_append, hput, Nat.add_zero]
  cases hcheck : x.call.check? with
  | none =>
    have hlookUp : service.lookUp? x.occasion x.call = none := by rw [lookUp?, hcheck]; rfl
    simp [addsTo, verdict?, hcheck, hlookUp]
  | some check =>
    obtain ⟨surface, token⟩ := check
    cases hd : service.signer.decodeVerified x.occasion.wall.seconds token with
    | error reason =>
      have hlookUp : service.lookUp? x.occasion x.call = none := by
        rw [lookUp?, hcheck, Option.bind_some, hd]
        rfl
      have hreason : isRevoked (.ok (.invalid reason)) = false := by
        cases reason with
        | revoked => exact absurd hd decodeVerified_ne_revoked
        | _ => rfl
      simp [addsTo, verdict?, hcheck, hlookUp, service.verify_of_reject hd, hreason, checkOutcome]
    | ok c =>
      have hlookUp : service.lookUp? x.occasion x.call = some c.jti := by
        rw [lookUp?, hcheck, Option.bind_some, hd]
        rfl
      have hverify := service.verify_of_ok hd x.state.revocations
      rcases hfound : (x.state.revocations.contains x.occasion.steady c.jti).1 with f | (_ | _) <;>
        cases surface <;>
        simp [addsTo, verdict?, hcheck, hlookUp, hverify, hfound, judge, isRevoked, checkOutcome,
          StoreCall.isContains]

theorem countP_isPut (hlifetime : 0 < service.signer.lifetime) (x : Encounter) :
    (service.trace x.occasion x.state.revocations x.call).calls.countP StoreCall.isPut =
      ([fun x => (service.put? x.occasion x.call).isSome].map fun p => if p x then 1 else 0).sum := by
  have hlookUp : ((service.lookUp? x.occasion x.call).map StoreCall.contains
      ).toList.countP StoreCall.isPut = 0 := by
    cases service.lookUp? x.occasion x.call <;> simp [StoreCall.isPut]
  rw [calls_trace hlifetime, List.countP_append, hlookUp, Nat.zero_add]
  cases hput : service.put? x.occasion x.call <;> simp [hput, StoreCall.isPut]

theorem put_eq_sum (x : Encounter) :
    (if (service.put? x.occasion x.call).isSome then 1 else 0) =
      ([fun x => service.addsTo x (.revocation .revoked),
        fun x => service.addsTo x (.revocation .error)].map fun p => if p x then 1 else 0).sum := by
  cases hput : service.put? x.occasion x.call with
  | none => simp [addsTo, putOutcome?, hput]
  | some p => cases hfault : x.state.revocations.fault <;> simp [addsTo, putOutcome?, hput, hfault]

theorem check_eq_sum (x : Encounter) (surface : Surface) :
    (if decide (x.call.check?.map Prod.fst = some surface) then 1 else 0) =
      ([fun x => service.addsTo x (.verification surface .valid),
        fun x => service.addsTo x (.verification surface .invalid),
        fun x => service.addsTo x (.verification surface .error)].map
          fun p => if p x then 1 else 0).sum := by
  cases hcheck : x.call.check? with
  | none => simp [addsTo, verdict?, hcheck]
  | some check =>
    cases houtcome : checkOutcome (service.verify x.occasion check.2 x.state.revocations).1 <;>
      simp [addsTo, verdict?, hcheck, houtcome]

/-! ## Refusals -/

/-- What is counted as a refusal is the response of one, under its status and under the code in its
body. No other response is that of a refusal. -/
theorem rejected?_spec (hx : x.call = .http r) :
    let response := (service.serve x.occasion r x.state).1
    match service.rejected? x with
    | none => ∀ e (f : Refusal), response ≠ dress r e f.respond
    | some (path, status, code) => path = pathLabel r.path ∧ status = response.status ∧
        ∃ e, ∃ f : Refusal, Endpoint.ofPath? r.path = some e ∧ response = dress r e f.respond ∧
          f.respond.errorCode? = some code := by
  have hrejected : service.rejected? x = (service.refusal? x.occasion x.state (.http r)).map
      fun f => (pathLabel r.path, f.status, f.code) := by
    rw [rejected?, hx]
    rfl
  have hcases := service.serve_cases x.occasion r x.state
  -- the refusal and the response are only what the cases say of them
  generalize service.refusal? x.occasion x.state (.http r) = refusal at hrejected hcases
  generalize (service.serve x.occasion r x.state).1 = response at hcases ⊢
  rw [hrejected]
  obtain ⟨rfl, hmark⟩ | ⟨f, e, rfl, hpath, hresponse⟩ := hcases
  · rintro - e f rfl
    rw [rejection_dress, f.rejection_respond] at hmark
    cases hmark
  · refine ⟨rfl, ?_, e, f, hpath, hresponse, f.errorCode?_respond⟩
    rw [hresponse, status_dress, f.status_respond]

/-! ## The whole -/

/-- **What is counted adds up.** From counters at zero, after every run of requests and remote calls,
whatever its stores report at each:
* the requests of a method and a path are the responses to them, of all statuses, and the durations;
* the checks on each surface are as many as those that were made, and each outcome is counted;
* the store of revoked tokens was asked once for each check that ended with a valid token, with a
  fault, or with a revoked token;
* revocations that succeed and those that fail are the puts, and the puts are those of logouts;
* the refusals with a path, a status and a code are the responses of a fault of the gate or of a
  logout with these, the code being the one in the body, and no others. -/
theorem metrics_add_up (s : AuthSettings) (scheme : PasswordScheme) (startedAt : Timestamp)
    {st : State} (hmetrics : st.metrics = {}) (hcalls : st.revocations.calls = [])
    (visits : List Visit) :
    let service := ofSettings s scheme startedAt
    let run := service.encounters st visits
    let after := service.afterVisits st visits
    let value := after.metrics.value
    let calls := after.revocations.calls
    (∀ method path,
      value (.request method path) =
        run.countP (fun x => x.call.route? = some (method, path)) ∧
      value (.request method path) = ∑ᶠ status, value (.response method path status) ∧
      value (.request method path) = (after.metrics.durations method path).count) ∧
    (∀ surface,
      value (.verification surface .valid) + value (.verification surface .invalid) +
        value (.verification surface .error) =
          run.countP (fun x => x.call.check?.map Prod.fst = some surface) ∧
      ∀ outcome, value (.verification surface outcome) = run.countP fun x =>
        (service.verdict? x).map (fun v => (v.1, checkOutcome v.2)) = some (surface, outcome)) ∧
    calls.countP StoreCall.isContains =
      value (.verification .http .valid) + value (.verification .rpc .valid) +
        value (.verification .http .error) + value (.verification .rpc .error) +
        run.countP (fun x => (service.verdict? x).any fun v => isRevoked v.2) ∧
    value (.revocation .revoked) + value (.revocation .error) = calls.countP StoreCall.isPut ∧
    calls.countP StoreCall.isPut =
      run.countP (fun x => (service.put? x.occasion x.call).isSome) ∧
    (∀ path status code, value (.rejection path status code) =
      run.countP fun x => service.rejected? x = some (path, status, code)) ∧
    ∀ x ∈ run, ∀ r, x.call = .http r →
      let response := (service.serve x.occasion r x.state).1
      match service.rejected? x with
      | none => ∀ e (f : Refusal), response ≠ dress r e f.respond
      | some (path, status, code) => path = pathLabel r.path ∧ status = response.status ∧
          ∃ e, ∃ f : Refusal, Endpoint.ofPath? r.path = some e ∧ response = dress r e f.respond ∧
            f.respond.errorCode? = some code := by
  intro service run after value calls
  have hlifetime : 0 < service.signer.lifetime :=
    Nat.lt_of_lt_of_le (by decide) (Signer.lifetime_bounds s).1
  have hvalue (c : Counter) : value c = run.countP fun x => service.addsTo x c :=
    value_afterVisits hlifetime (congrArg Metrics.counts hmetrics) visits c
  have hcallsAfter : calls = run.flatMap fun x =>
      (service.trace x.occasion x.state.revocations x.call).calls := by
    have h := (adds_afterVisits hlifetime st visits).2.2
    rw [hcalls, List.nil_append] at h
    exact h
  have hputs : calls.countP StoreCall.isPut =
      run.countP fun x => (service.put? x.occasion x.call).isSome := by
    rw [hcallsAfter, countP_flatMap_eq_sum (countP_isPut hlifetime)]
    exact List.sum_singleton
  refine ⟨fun method path => ⟨hvalue _, ?_, ?_⟩, fun surface => ⟨?_, fun outcome => hvalue _⟩, ?_,
    ?_, hputs, fun path status code => hvalue _, ?_⟩
  · simp only [hvalue]
    exact (finsum_answered run method path).symm
  · rw [hvalue]
    exact (length_durations hlifetime (congrArg Metrics.timings hmetrics) visits method path).symm
  · have hchecks := @countP_eq_sum _ run _ _ fun x => @check_eq_sum service x surface
    simp only [List.map_cons, List.map_nil, List.sum_cons, List.sum_nil, ← hvalue] at hchecks
    omega
  · have hlookups := countP_flatMap_eq_sum (l := run) (countP_isContains hlifetime)
    simp only [List.map_cons, List.map_nil, List.sum_cons, List.sum_nil, ← hvalue] at hlookups
    rw [hcallsAfter, hlookups]
    omega
  · have hends := @countP_eq_sum _ run _ _ (@put_eq_sum service)
    simp only [List.map_cons, List.map_nil, List.sum_cons, List.sum_nil, ← hvalue] at hends
    rw [hputs, hends]
    omega
  · exact fun x _ r hx => rejected?_spec hx

/-- A profile is asked for without a token, a logout is answered and then again with the store out of
reach, and a text that is no token is checked remotely. -/
theorem metrics_add_up_over_two_logouts :
    let service := ofSettings { secret := "secret" } .argon2id ⟨0, 0⟩
    let o : Occasion := ⟨⟨1700000001, 0⟩, 0, Uuid.random 3, []⟩
    let headers := headersWith "x.eyJleHAiOjE3MDAwMDM2MDAsImp0aSI6Im1pbmUifQ."
    let logout : Call := .http { method := "POST", target := "/api/v1/accounts/logout", headers }
    let visits : List Visit := [
      { occasion := o, call := .http { method := "GET", target := "/api/v1/accounts/profile" } },
      { occasion := o, call := logout },
      { occasion := o, call := logout, revocationsFault := some (.timeout 5) },
      { occasion := o, call := .validateToken "x" }]
    let after := service.afterVisits {} visits
    let value := after.metrics.value
    let calls := after.revocations.calls
    (after.metrics.durations "POST" "/api/v1/accounts/logout").count = 2 ∧
      value (.verification .rpc .valid) + value (.verification .rpc .invalid) +
        value (.verification .rpc .error) = 1 ∧
      calls.countP StoreCall.isContains =
        value (.verification .http .valid) + value (.verification .rpc .valid) +
          value (.verification .http .error) + value (.verification .rpc .error) ∧
      value (.revocation .revoked) + value (.revocation .error) = 2 ∧
      value (.rejection "/api/v1/accounts/profile" 401 "MISSING_TOKEN") = 1 := by
  intro service o headers logout visits after value calls
  obtain ⟨hrequests, hchecks, hlookups, hends, hputs, hrefusals, -⟩ :=
    metrics_add_up { secret := "secret" } .argon2id ⟨0, 0⟩ (rfl : ({} : State).metrics = {}) rfl visits
  obtain ⟨hmade, -, htimed⟩ := hrequests "POST" "/api/v1/accounts/logout"
  have hrevoked : (service.encounters {} visits).countP
      (fun x => (service.verdict? x).any fun v => isRevoked v.2) = 0 := by
    decide +kernel
  refine ⟨htimed.symm.trans (hmade.trans ?_), (hchecks .rpc).1.trans ?_, ?_,
    hends.trans (hputs.trans ?_),
    (hrefusals "/api/v1/accounts/profile" 401 "MISSING_TOKEN").trans ?_⟩
  · decide +kernel
  · decide +kernel
  · rw [hlookups, hrevoked, Nat.add_zero]
  · decide +kernel
  · decide +kernel

end Service

end Accounts

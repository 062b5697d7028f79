import Mathlib.Data.Finset.Card
import TorusProxy.Blueprint
import TorusProxy.Metrics

/-! `torus_http_requests_in_flight` and `torus_http_requests_total`. Both follow
the flag of the runtime the request has acquired, whatever is active by then. -/
namespace TorusProxy

open Threads

namespace HandlerPC

/-- Between `TrackInflight` and its deferred done. -/
def tracked : HandlerPC → Option Rid
  | .route rt | .notFound rt _ | .next rt _ _ _ | .isHealthy rt _ _ _ _ | .unavailable rt _
  | .forward rt _ _ | .record rt _ _ | .untrack rt => some rt
  | _ => none

/-- After the deferred `RecordHTTPRequest`. -/
def recorded : HandlerPC → Option Rid
  | .untrack rt | .release rt | .exit rt | .returned rt => some rt
  | _ => none

/-- The route the request will be recorded under. -/
def routed : HandlerPC → Option (Rid × Bytes)
  | .notFound rt key | .next rt key _ _ | .isHealthy rt key _ _ _ | .unavailable rt key
  | .forward rt key _ | .record rt key _ => some (rt, key)
  | _ => none

/-- What the handler answers with at this place. -/
def answer : HandlerPC → Choice → Option Nat
  | .notFound _ _, _ => some 404
  | .unavailable _ _, _ => some 503
  | .forward _ _ _, .status code | .forward _ _ _, .abort code => some code
  | _, _ => none

theorem acquired_of_tracked {pc : HandlerPC} {r : Rid} (h : pc.tracked = some r) :
    pc.acquired = some r := by
  cases pc <;> first | exact h | cases h

theorem acquired_of_recorded {pc : HandlerPC} {r : Rid} (h : pc.recorded = some r) :
    pc.acquired = some r := by
  cases pc <;> first | exact h | cases h

theorem acquired_of_routed {pc : HandlerPC} {r : Rid} {key : Bytes}
    (h : pc.routed = some (r, key)) : pc.acquired = some r := by
  cases pc <;> cases h <;> rfl

end HandlerPC

/-- The runtime, when it is observed. -/
def Shared.observed (sh : Shared) (o : Option Rid) : Option Rid :=
  o.filter fun r => (sh.heap r).observabilityEnabled

/-- What a step of a request does to the metrics. -/
inductive Metered (req : Request) (sh : Shared) : HandlerPC → Metrics → HandlerPC → Prop
  | track (rt : Rid) (on : (sh.heap rt).observabilityEnabled = true) :
      Metered req sh (.track rt) { sh.metrics with inflight := sh.metrics.inflight + 1 } (.route rt)
  | record (rt : Rid) (route : Bytes) (status : Nat)
      (on : (sh.heap rt).observabilityEnabled = true) :
      Metered req sh (.record rt route status)
        (sh.metrics.recordHTTPRequest req.method route status) (.untrack rt)
  | untrack (rt : Rid) (on : (sh.heap rt).observabilityEnabled = true) :
      Metered req sh (.untrack rt) { sh.metrics with inflight := sh.metrics.inflight - 1 }
        (.release rt)
  | other {pc pc' : HandlerPC} (tracked : sh.observed pc'.tracked = sh.observed pc.tracked)
      (recorded : sh.observed pc'.recorded = sh.observed pc.recorded) :
      Metered req sh pc sh.metrics pc'

section
variable {req : Request} {sh sh' : Shared} {pc pc' : HandlerPC} {c : Choice}

theorem httpHandler_metered (h : httpHandler req sh c pc = some (sh', pc')) :
    Metered req sh pc sh'.metrics pc' := by
  have unseen {rt : Rid} (off : ¬ (sh.heap rt).observabilityEnabled = true) :
      sh.observed (some rt) = sh.observed none := by
    simp [Shared.observed, off]
  cases httpHandler_step h with
  | track rt on => exact .track rt on
  | record rt key status on => exact .record rt key status on
  | untrack rt on => exact .untrack rt on
  | trackOff rt off => exact .other (unseen off) rfl
  | recordOff rt key status off => exact .other rfl (unseen off)
  | untrackOff rt off => exact .other (unseen off).symm rfl
  | rLock hm =>
    rw [Shared.tryMu_same (·.metrics) (fun _ => rfl) hm]
    exact .other rfl rfl
  | _ => exact .other rfl rfl

/-- The route of a request is what its runtime's router found for its path. -/
theorem httpHandler_routed_from (h : httpHandler req sh c pc = some (sh', pc')) {rt : Rid}
    {route : Bytes} (hr : pc'.routed = some (rt, route)) :
    pc.routed = some (rt, route) ∨ route = ((sh.heap rt).router.route req.path).1 := by
  cases httpHandler_step h with
  | miss q key found | found q key svc found =>
    cases hr
    exact .inr (by rw [found])
  | notFound | draw | exhausted | healthy | unhealthy | unavailable | forward => exact .inl hr
  | _ => cases hr

/-- The status that is about to be recorded is the one the request was answered with. -/
theorem httpHandler_answer {rt : Rid} {key : Bytes} {status : Nat}
    (h : httpHandler req sh c pc = some (sh', .record rt key status)) :
    pc.acquired = some rt ∧ pc.answer c = some status := by
  cases httpHandler_step h with
  | notFound | unavailable => exact ⟨rfl, rfl⟩
  | forward rt key b code =>
    cases c with
    | status | abort => cases h; exact ⟨rfl, rfl⟩
    | _ => cases h

end

namespace Thread

def tracked : Thread → Option Rid
  | .request _ pc => pc.tracked
  | _ => none

/-- One for a request between its track and its untrack on an observed runtime. -/
def observed (sh : Shared) (t : Thread) : Nat := (sh.observed t.tracked).isSome.toNat

/-- The label a request is counted under once it is recorded, with the status
its recorder saw. -/
def recordedAs (sh : Shared) (status : Nat) : Thread → Option (String × Bytes × Nat)
  | .request req pc => (sh.observed pc.recorded).map fun r =>
    let route := ((sh.heap r).router.route req.path).1
    (req.method, if route = [] then bytes "unmatched" else route, status)
  | _ => none

end Thread

/-- Nothing but requests touches the two metrics. -/
theorem Thread.step_metered {env : Env} {sh sh' : Shared} {t t' : Thread} {c : Choice}
    {new : List Thread} (h : t.step env sh c = some (sh', t', new)) :
    (∃ req pc pc', t = .request req pc ∧ t' = .request req pc' ∧ new = [] ∧
      httpHandler req sh c pc = some (sh', pc')) ∨
    ((∀ req pc, t ≠ .request req pc) ∧ (∀ req pc, t' ≠ .request req pc) ∧
      sh'.metrics.inflight = sh.metrics.inflight ∧
      sh'.metrics.requestsTotal = sh.metrics.requestsTotal) := by
  -- the two metrics together, which a change of any other leaves as they are
  let π (m : Metrics) := (m.inflight, m.requestsTotal)
  have health (b : Backend) (m : Metrics) : π (setBackendHealth b m) = π m := by
    unfold setBackendHealth
    split <;> rfl
  have other {t t' : Thread} (no : ∀ req pc, t ≠ .request req pc)
      (no' : ∀ req pc, t' ≠ .request req pc) (same : π sh'.metrics = π sh.metrics) :
      (∀ req pc, t ≠ .request req pc) ∧ (∀ req pc, t' ≠ .request req pc) ∧
        sh'.metrics.inflight = sh.metrics.inflight ∧
        sh'.metrics.requestsTotal = sh.metrics.requestsTotal :=
    ⟨no, no', congrArg Prod.fst same, congrArg Prod.snd same⟩
  cases Thread.step_runs h with
  | @request req pc pc' runs => exact .inl ⟨req, pc, pc', rfl, rfl, rfl, runs⟩
  | reload runs =>
    refine .inr (other (by rintro _ _ ⟨⟩) (by rintro _ _ ⟨⟩) ?_)
    exact (reload_move runs).metrics_same π (fun _ _ => rfl) (fun _ _ => rfl)
  | manager runs =>
    refine .inr (other (by rintro _ _ ⟨⟩) (by rintro _ _ ⟨⟩) ?_)
    exact (managerReload_move runs).metrics_same π health (fun _ _ => rfl) (fun _ _ => rfl)
      (fun _ _ => rfl)
  | shutdown runs =>
    refine .inr (other (by rintro _ _ ⟨⟩) (by rintro _ _ ⟨⟩) ?_)
    exact congrArg π (shutdown_move runs).metrics
  | start runs =>
    refine .inr (other (by rintro _ _ ⟨⟩) (by rintro _ _ ⟨⟩) ?_)
    exact congrArg π (start_move runs).metrics
  | prober runs =>
    refine .inr (other (by rintro _ _ ⟨⟩) (by rintro _ _ ⟨⟩) ?_)
    exact prober_metrics_same π health runs

/-- A step of a goroutine moves the gauge as it moves its own share of it. -/
theorem Thread.step_observed {env : Env} {sh sh' : Shared} {t t' : Thread} {c : Choice}
    {new : List Thread} (h : t.step env sh c = some (sh', t', new)) :
    sh'.metrics.inflight + t.observed sh = sh.metrics.inflight + t'.observed sh := by
  rcases Thread.step_metered h with ⟨req, pc, pc', rfl, rfl, -, hp⟩ | ⟨no, no', inflight, -⟩
  · have metered := httpHandler_metered hp
    generalize sh'.metrics = m at metered
    cases metered with
    | track rt on => simp [Thread.observed, Thread.tracked, HandlerPC.tracked, Shared.observed, on]
    | record rt route status on => rfl
    | untrack rt on =>
      simp [Thread.observed, Thread.tracked, HandlerPC.tracked, Shared.observed, on]
    | other tracked recorded => simp only [Thread.observed, Thread.tracked, tracked]
  · have unseen (u : Thread) (none : ∀ req pc, u ≠ .request req pc) : u.observed sh = 0 := by
      cases u with
      | request req pc => exact absurd rfl (none req pc)
      | reload | manager | shutdown | start | prober => rfl
    rw [inflight, unseen t no, unseen t' no']

/-- What a step of a goroutine adds to the requests. -/
theorem Thread.step_recorded {env : Env} {sh sh' : Shared} {t t' : Thread} {c : Choice}
    {new : List Thread} (h : t.step env sh c = some (sh', t', new)) :
    (sh'.metrics.requestsTotal = sh.metrics.requestsTotal ∧
      ∀ status, t'.recordedAs sh status = t.recordedAs sh status) ∨
    ∃ req rt key status, t = .request req (.record rt key status) ∧
      t' = .request req (.untrack rt) ∧ (sh.heap rt).observabilityEnabled = true ∧
      sh'.metrics = sh.metrics.recordHTTPRequest req.method key status := by
  rcases Thread.step_metered h with ⟨req, pc, pc', rfl, rfl, -, hp⟩ | ⟨no, no', -, requests⟩
  · have metered := httpHandler_metered hp
    generalize sh'.metrics = m at metered
    cases metered with
    | track rt on => exact .inl ⟨rfl, fun _ => rfl⟩
    | record rt route status on => exact .inr ⟨req, rt, route, status, rfl, rfl, on, rfl⟩
    | untrack rt on => exact .inl ⟨rfl, fun _ => rfl⟩
    | other tracked recorded =>
      exact .inl ⟨rfl, fun _ => by simp only [Thread.recordedAs, recorded]⟩
  · have unseen (u : Thread) (none : ∀ req pc, u ≠ .request req pc) (status : Nat) :
        u.recordedAs sh status = Option.none := by
      cases u with
      | request req pc => exact absurd rfl (none req pc)
      | reload | manager | shutdown | start | prober => rfl
    exact .inl ⟨requests, fun status => by rw [unseen t no, unseen t' no']⟩

/-! ## The books of a run -/

/-- The requests that were recorded under the label, where `status` gives what
the recorder of each request saw. -/
def recorded (w : World) (status : Nat → Nat) (label : String × Bytes × Nat) : Finset Nat :=
  (Finset.range w.threads.length).filter fun i =>
    (w.threads[i]?.bind (·.recordedAs w.shared (status i))) = some label

theorem mem_recorded {w : World} {status : Nat → Nat} {label : String × Bytes × Nat} {i : Nat} :
    i ∈ recorded w status label ↔
      ∃ t, w.threads[i]? = some t ∧ t.recordedAs w.shared (status i) = some label := by
  simp only [recorded, Finset.mem_filter, Finset.mem_range, Option.bind_eq_some_iff]
  constructor
  · exact And.right
  · rintro ⟨t, hi, label⟩
    exact ⟨(List.getElem?_eq_some_iff.mp hi).1, t, hi, label⟩

theorem recorded_congr {w : World} {status status' : Nat → Nat} (label : String × Bytes × Nat)
    (same : ∀ (i : Nat) (req : Request) (pc : HandlerPC), w.threads[i]? = some (.request req pc) →
      pc.recorded ≠ none → status i = status' i) :
    recorded w status label = recorded w status' label := by
  ext i
  rw [mem_recorded, mem_recorded]
  refine exists_congr fun t => and_congr_right fun at_ => ?_
  cases t with
  | request req pc =>
    by_cases none : pc.recorded = none
    · simp [Thread.recordedAs, none, Shared.observed]
    · rw [same i req pc at_ none]
  | reload | manager | shutdown | start | prober => exact Iff.rfl

structure Metering (base : String × Bytes × Nat → Nat) (status : Nat → Nat) (w : World) : Prop where
  inflight : w.shared.metrics.inflight = total (·.observed w.shared) w.threads
  routed : ∀ req pc rt key, .request req pc ∈ w.threads → pc.routed = some (rt, key) →
    key = ((w.shared.heap rt).router.route req.path).1
  requests : ∀ label,
    w.shared.metrics.requestsTotal label = base label + (recorded w status label).card

section
variable {env : Env} {w w' : World} {a : Action} {base : String × Bytes × Nat → Nat}
  {status : Nat → Nat}

/-- Where a request comes from: nothing has moved it, it moved itself, or it has
just come in. -/
theorem request_origin (m : Moved (machine env) w a w') {i : Nat} {req : Request} {pc : HandlerPC}
    (hi : w'.threads[i]? = some (.request req pc)) :
    (w.threads[i]? = some (.request req pc) ∧ ∀ k, a ≠ .run i k) ∨
    (∃ k qc, a = .run i k ∧ w.threads[i]? = some (.request req qc) ∧
      httpHandler req w.shared k qc = some (w'.shared, pc)) ∨
    (pc = .rLock ∧ w.threads[i]? = none) := by
  cases before : w.threads[i]? with
  | some u =>
    rcases m.fate before with ⟨quiet, stays⟩ | ⟨k, sh', t', new, rfl, fires, shared, moved⟩
    · cases stays.symm.trans hi
      exact .inl ⟨rfl, quiet⟩
    · cases moved.symm.trans hi
      have runs : ThreadStep env w.shared k sh' u (.request req pc) new := Thread.step_runs fires
      cases runs with
      | @request _ qc _ runs => exact .inr (.inl ⟨k, qc, rfl, rfl, shared ▸ runs⟩)
  | none =>
    refine .inr (.inr ⟨?_, rfl⟩)
    rcases m.origin hi with here | ⟨u, k, sh', new, -, here, -⟩ |
      ⟨u, k, sh', u', new, -, fires, started, -⟩ | ⟨x, sh', -, fires, -⟩
    · rw [before] at here
      cases here
    · rw [before] at here
      cases here
    · obtain ⟨p, hp⟩ := (Thread.step_move fires).starts _ started
      cases hp
    · cases enter_move fires
      rfl

/-- Flag and router of what was installed are fixed. -/
theorem metering_frame (history : History w) (c : Consistent w) (m : Moved (machine env) w a w')
    {r : Rid} (hr : r ∈ w'.shared.installed) :
    (w'.shared.heap r).observabilityEnabled = (w.shared.heap r).observabilityEnabled ∧
      (w'.shared.heap r).router = (w.shared.heap r).router := by
  have same := history.blueprint_installed c m hr
  have flag := congrArg Runtime.observabilityEnabled same
  have router := congrArg Runtime.router same
  exact ⟨flag, router⟩

theorem observed_frame (history : History w) (c : Consistent w) (held : Held w')
    (m : Moved (machine env) w a w') {t : Thread} (ht : t ∈ w'.threads) :
    t.observed w'.shared = t.observed w.shared := by
  cases t with
  | request req pc =>
    simp only [Thread.observed, Thread.tracked, Shared.observed]
    cases hp : pc.tracked with
    | none => rfl
    | some r =>
      have mem := held req pc r ht (HandlerPC.acquired_of_tracked hp)
      simp only [Option.filter_some, (metering_frame history c m mem).1]
  | reload | manager | shutdown | start | prober => rfl

theorem recordedAs_frame (history : History w) (c : Consistent w) (held : Held w')
    (m : Moved (machine env) w a w') {t : Thread} (ht : t ∈ w'.threads) (status : Nat) :
    t.recordedAs w'.shared status = t.recordedAs w.shared status := by
  cases t with
  | request req pc =>
    simp only [Thread.recordedAs, Shared.observed]
    cases hp : pc.recorded with
    | none => rfl
    | some r =>
      have mem := held req pc r ht (HandlerPC.acquired_of_recorded hp)
      obtain ⟨flag, router⟩ := metering_frame history c m mem
      simp only [Option.filter_some, flag]
      split
      · rw [Option.map_some, Option.map_some, router]
      · rfl
  | reload | manager | shutdown | start | prober => rfl

theorem step_inflight (history : History w) (c : Consistent w) (held : Held w')
    (inflight : w.shared.metrics.inflight = total (·.observed w.shared) w.threads)
    (m : Moved (machine env) w a w') :
    w'.shared.metrics.inflight = total (·.observed w'.shared) w'.threads := by
  rw [total_congr fun t ht => observed_frame history c held m ht]
  refine m.balance (·.observed w.shared) (·.metrics.inflight) inflight ?_ ?_ ?_
  · intro t k sh' t' new _ fires
    have moved := Thread.step_observed fires
    have started := Consistent.started_zero (Thread.step_move fires) (·.observed w.shared)
      (fun _ => rfl)
    rw [started]
    omega
  · intro x sh' t fires
    cases enter_move fires <;> exact (Int.add_zero _).symm
  · intro disk sh' fires
    cases fires
    rfl

theorem step_routed (history : History w) (c : Consistent w) (held : Held w')
    (routed : ∀ req pc rt key, .request req pc ∈ w.threads → pc.routed = some (rt, key) →
      key = ((w.shared.heap rt).router.route req.path).1)
    (m : Moved (machine env) w a w') :
    ∀ req pc rt key, .request req pc ∈ w'.threads → pc.routed = some (rt, key) →
      key = ((w'.shared.heap rt).router.route req.path).1 := by
  intro req pc rt key ht hr
  rw [(metering_frame history c m (held req pc rt ht (HandlerPC.acquired_of_routed hr))).2]
  cases World.origin m ht with
  | stayed mem => exact routed req pc rt key mem hr
  | moved u k hu fires =>
    rcases Thread.step_metered fires with ⟨req', pc₀, pc', rfl, he, -, hp⟩ | ⟨-, no, -⟩
    · cases he
      rcases httpHandler_routed_from hp hr with before | found
      · exact routed req pc₀ rt key hu before
      · exact found
    · exact absurd rfl (no req pc)
  | entered x fires =>
    cases enter_move fires
    cases hr

/-- A request that the step does not record is counted as before. -/
theorem recorded_stays (history : History w) (c : Consistent w) (held : Held w')
    (m : Moved (machine env) w a w') {label : String × Bytes × Nat} {j : Nat}
    (other : ∀ k t sh' t' new, a = .run j k → w.threads[j]? = some t →
      t.step env w.shared k = some (sh', t', new) →
      t'.recordedAs w.shared (status j) = t.recordedAs w.shared (status j)) :
    j ∈ recorded w' status label ↔ j ∈ recorded w status label := by
  rw [mem_recorded, mem_recorded]
  constructor
  · rintro ⟨t, hj, counted⟩
    rw [recordedAs_frame history c held m (List.mem_of_getElem? hj)] at counted
    cases hb : w.threads[j]? with
    | some u =>
      rcases m.thread hb with kept | ⟨k, sh', u', new, ha, fires, -, after⟩
      · cases hj.symm.trans kept
        exact ⟨t, rfl, counted⟩
      · cases hj.symm.trans after
        rw [other k u sh' t new ha hb fires] at counted
        exact ⟨u, rfl, counted⟩
    | none =>
      -- a goroutine that was not there before has nothing recorded
      rcases m.origin hj with before | ⟨u, k, sh', new, -, before, -⟩ |
        ⟨u, k, sh', u', new, -, fires, hn, -⟩ | ⟨x, sh', -, fires, -⟩
      · rw [hb] at before
        cases before
      · rw [hb] at before
        cases before
      · obtain ⟨p, rfl⟩ := (Thread.step_move fires).starts _ hn
        cases counted
      · cases enter_move fires <;> cases counted
  · rintro ⟨t, hj, counted⟩
    rcases m.thread hj with kept | ⟨k, sh', t', new, ha, fires, -, after⟩
    · refine ⟨t, kept, ?_⟩
      rw [recordedAs_frame history c held m (List.mem_of_getElem? kept)]
      exact counted
    · refine ⟨t', after, ?_⟩
      rw [recordedAs_frame history c held m (List.mem_of_getElem? after),
        other k t sh' t' new ha hj fires]
      exact counted

theorem recorded_eq (history : History w) (c : Consistent w) (held : Held w')
    (m : Moved (machine env) w a w') (label : String × Bytes × Nat)
    (other : ∀ j k t sh' t' new, a = .run j k → w.threads[j]? = some t →
      t.step env w.shared k = some (sh', t', new) →
      ∀ s, t'.recordedAs w.shared s = t.recordedAs w.shared s) :
    recorded w' status label = recorded w status label := by
  ext j
  refine recorded_stays history c held m ?_
  intro k t sh' t' new ha hj fires
  exact other j k t sh' t' new ha hj fires _

theorem not_recorded {i : Nat} {req : Request} {rt : Rid} {key : Bytes} {s : Nat}
    (hi : w.threads[i]? = some (.request req (.record rt key s))) (label : String × Bytes × Nat) :
    i ∉ recorded w status label := by
  intro mem
  obtain ⟨t, ht, none⟩ := mem_recorded.mp mem
  cases hi.symm.trans ht
  cases none

/-- The request that is recorded joins the requests of its label. -/
theorem recorded_insert (h : Metering base status w) (history : History w) (c : Consistent w)
    (held : Held w') {i : Nat} {k : Choice} {req : Request} {rt : Rid} {key : Bytes}
    (m : Moved (machine env) w (.run i k) w')
    (hi : w.threads[i]? = some (.request req (.record rt key (status i))))
    (after : w'.threads[i]? = some (.request req (.untrack rt)))
    (on : (w.shared.heap rt).observabilityEnabled = true) (label : String × Bytes × Nat) :
    recorded w' status label =
      if label = (req.method, normalizeRoute key, status i) then insert i (recorded w status label)
      else recorded w status label := by
  have counted : (Thread.request req (.untrack rt)).recordedAs w'.shared (status i) =
      some (req.method, normalizeRoute key, status i) := by
    rw [recordedAs_frame history c held m (List.mem_of_getElem? after),
      h.routed req _ rt key (List.mem_of_getElem? hi) rfl]
    simp [Thread.recordedAs, HandlerPC.recorded, Shared.observed, on, normalizeRoute]
  ext j
  by_cases hj : j = i
  · subst hj
    have before : j ∉ recorded w status label := not_recorded hi label
    have now : j ∈ recorded w' status label ↔
        label = (req.method, normalizeRoute key, status j) := by
      rw [mem_recorded]
      constructor
      · rintro ⟨t, ht, same⟩
        cases after.symm.trans ht
        exact (Option.some.inj (counted.symm.trans same)).symm
      · rintro rfl
        exact ⟨_, after, counted⟩
    split
    · rename_i same
      exact ⟨fun _ => Finset.mem_insert_self _ _, fun _ => now.mpr same⟩
    · rename_i other
      simp [now, other, before]
  · have stays : j ∈ recorded w' status label ↔ j ∈ recorded w status label :=
      recorded_stays history c held m (by rintro k' t sh' t' new ⟨⟩; exact absurd rfl hj)
    rw [stays]
    split
    · simp [hj]
    · rfl

/-- The counters go on as they were, where each request is recorded with its own
status. -/
theorem step_requests_total (h : Metering base status w) (history : History w) (c : Consistent w)
    (held : Held w') (m : Moved (machine env) w a w')
    (own : ∀ (i : Nat) (k : Choice) (req : Request) (rt : Rid) (key : Bytes) (s : Nat),
      a = .run i k → w.threads[i]? = some (.request req (.record rt key s)) → s = status i)
    (label : String × Bytes × Nat) :
    w'.shared.metrics.requestsTotal label = base label + (recorded w' status label).card := by
  have whole := m
  cases m with
  | @step i k t sh' t' new hi fires =>
    rcases Thread.step_recorded fires with ⟨total, same⟩ | ⟨req, rt, key, s, rfl, rfl, on, total⟩
    · rw [recorded_eq history c held whole label, total]
      · exact h.requests label
      · rintro j k' u sh₁ u' new' ⟨⟩ hj fires'
        cases hi.symm.trans hj
        cases fires.symm.trans fires'
        exact same
    · obtain rfl := own i k req rt key s rfl hi
      rw [recorded_insert h history c held whole hi (getElem?_moved _ hi) on label, total]
      split
      · rename_i same
        subst same
        rw [Finset.card_insert_of_notMem (not_recorded hi _)]
        simp [Metrics.recordHTTPRequest, h.requests, Nat.add_assoc]
      · rename_i other
        simp [Metrics.recordHTTPRequest, other, h.requests]
  | enter fires =>
    rw [recorded_eq history c held whole label (by rintro j k t sh' t' new ⟨⟩)]
    cases enter_move fires <;> exact h.requests label
  | change fires =>
    rw [recorded_eq history c held whole label (by rintro j k t sh' t' new ⟨⟩)]
    cases fires
    exact h.requests label

theorem Metering.step (h : Metering base status w) (history : History w) (c : Consistent w)
    (held : Held w)
    (own : ∀ (i : Nat) (k : Choice) (req : Request) (rt : Rid) (key : Bytes) (s : Nat),
      a = .run i k → w.threads[i]? = some (.request req (.record rt key s)) → s = status i)
    (hs : World.step env w a = some w') : Metering base status w' :=
  have m := Machine.next_moved hs
  have held' := held.step history c m
  ⟨step_inflight history c held' h.inflight m, step_routed history c held' h.routed m,
    step_requests_total h history c held' m own⟩

theorem Metering.congr (h : Metering base status w) {status' : Nat → Nat}
    (same : ∀ (i : Nat) (req : Request) (pc : HandlerPC), w.threads[i]? = some (.request req pc) →
      pc.recorded ≠ none → status i = status' i) : Metering base status' w :=
  ⟨h.inflight, h.routed, fun label => recorded_congr label same ▸ h.requests label⟩

/-! ## What the requests were answered with -/

/-- On the way to `w` the handler has answered the request at place `i` on this
runtime with this status. -/
inductive Answered (env : Env) (ok : World → Action → Prop) (w₀ w : World) (i : Nat)
    (req : Request) (rt : Rid) (status : Nat) : Prop
  | mk {u v : World} (pc : HandlerPC) (c : Choice) (before : Run env ok w₀ u)
      (at_ : u.threads[i]? = some (.request req pc)) (acquired : pc.acquired = some rt)
      (answer : pc.answer c = some status) (guard : ok u (.run i c))
      (step : World.step env u (.run i c) = some v) (after : Run env ok v w)

/-- Whoever is about to record a status, or has recorded it, was answered so. -/
structure Answers (env : Env) (ok : World → Action → Prop) (w₀ : World) (status : Nat → Nat)
    (w : World) : Prop where
  recording : ∀ (i : Nat) (req : Request) (rt : Rid) (key : Bytes) (s : Nat),
    w.threads[i]? = some (.request req (.record rt key s)) → Answered env ok w₀ w i req rt s
  recorded : ∀ (i : Nat) (req : Request) (pc : HandlerPC) (rt : Rid),
    w.threads[i]? = some (.request req pc) → pc.recorded = some rt →
      Answered env ok w₀ w i req rt (status i)

/-- The statuses with those that are about to be recorded. -/
def noted (w : World) (status : Nat → Nat) (i : Nat) : Nat :=
  match w.threads[i]? with
  | some (.request _ (.record _ _ s)) => s
  | _ => status i

theorem noted_recorded {i : Nat} {req : Request} {pc : HandlerPC}
    (hi : w.threads[i]? = some (.request req pc)) (recorded : pc.recorded ≠ none) :
    noted w status i = status i := by
  cases pc with
  | untrack | release | exit | returned => simp only [noted, hi]
  | _ => exact absurd rfl recorded

section
variable {ok : World → Action → Prop} {w₀ : World}

theorem Answered.snoc {i : Nat} {req : Request} {rt : Rid} {s : Nat}
    (h : Answered env ok w₀ w i req rt s) (guard : ok w a) (hs : World.step env w a = some w') :
    Answered env ok w₀ w' i req rt s := by
  obtain ⟨pc, c, before, at_, acquired, answer, first, step, after⟩ := h
  exact ⟨pc, c, before, at_, acquired, answer, first, step, after.snoc guard hs⟩

theorem Answers.step (h : Answers env ok w₀ status w) (run : Run env ok w₀ w) (guard : ok w a)
    (hs : World.step env w a = some w') : Answers env ok w₀ (noted w status) w' := by
  have m := Machine.next_moved hs
  constructor
  · intro i req rt key s hi
    rcases request_origin m hi with ⟨before, -⟩ | ⟨k, pc, rfl, before, runs⟩ | ⟨none, -⟩
    · exact (h.recording i req rt key s before).snoc guard hs
    · obtain ⟨acquired, answer⟩ := httpHandler_answer runs
      exact ⟨pc, k, run, before, acquired, answer, guard, hs, .refl⟩
    · cases none
  · intro i req pc rt hi recorded
    rcases request_origin m hi with ⟨before, -⟩ | ⟨k, qc, rfl, before, runs⟩ | ⟨rfl, -⟩
    · rw [noted_recorded before (by simp [recorded])]
      exact (h.recorded i req pc rt before recorded).snoc guard hs
    · have kept (same : qc.recorded = some rt) : Answered env ok w₀ w' i req rt (noted w status i) := by
        rw [noted_recorded before (by simp [same])]
        exact (h.recorded i req qc rt before same).snoc guard hs
      have moved := httpHandler_step runs
      generalize w'.shared = sh' at moved
      cases moved with
      | record rt' key s | recordOff rt' key s =>
        cases recorded
        have mine : noted w status i = s := by simp only [noted, before]
        rw [mine]
        exact (h.recording i req rt key s before).snoc guard hs
      | untrack | untrackOff | release | exit => exact kept recorded
      | _ => cases recorded
    · cases recorded

theorem Metering.run (h : Metering base status w₀) (answers : Answers env ok w₀ status w₀)
    (history : History w₀) (c : Consistent w₀) (held : Held w₀) (r : Run env ok w₀ w) :
    ∃ status, Metering base status w ∧ Answers env ok w₀ status w := by
  refine (r.invariant (fun v => (∃ status, Metering base status v ∧ Answers env ok w₀ status v) ∧
    History v ∧ Consistent v ∧ Held v) ⟨⟨status, h, answers⟩, history, c, held⟩ ?_).1
  rintro b u v reached ⟨⟨status, hm, ha⟩, hh, hc, hd⟩ guard hs
  have next : Metering base (noted u status) u :=
    hm.congr fun i req pc hi recorded => (noted_recorded hi recorded).symm
  refine ⟨⟨noted u status, next.step hh hc hd ?_ hs, ha.step reached guard hs⟩, hh.step hc hs,
    hc.step hs, hd.step hh hc (Machine.next_moved hs)⟩
  intro i k req rt key s _ hi
  simp only [noted, hi]

end

theorem Running.no_requests (h : Running w) (i : Nat) (req : Request) (pc : HandlerPC) :
    w.threads[i]? ≠ some (.request req pc) := by
  intro at_
  rcases h.threads _ (List.mem_of_getElem? at_) with ⟨p, q, hp, -⟩ | hp <;> cases hp

theorem Running.metering (h : Running w) (zero : w.shared.metrics.inflight = 0)
    (status : Nat → Nat) : Metering w.shared.metrics.requestsTotal status w := by
  refine ⟨?_, ?_, ?_⟩
  · rw [zero, h.idle _ (fun _ _ _ => rfl) rfl]
    rfl
  · intro req pc rt key ht
    obtain ⟨i, hi⟩ := List.mem_iff_getElem?.mp ht
    exact absurd hi (h.no_requests i req pc)
  · intro label
    have none : recorded w status label = ∅ := by
      apply Finset.eq_empty_of_forall_notMem
      intro i mem
      obtain ⟨t, hi, counted⟩ := mem_recorded.mp mem
      cases t with
      | request req pc => exact h.no_requests i req pc hi
      | reload | manager | shutdown | start | prober => cases counted
    rw [none, Finset.card_empty, Nat.add_zero]

/-- The gauge counts the requests that are in flight on observed runtimes. The
counters have one entry for each request that was recorded on an observed
runtime, under the route its own runtime found and the status its handler
answered with there, and no other. -/
theorem request_metrics_balanced {ok : World → Action → Prop} {w₀ : World} (init : Running w₀)
    (zero : w₀.shared.metrics.inflight = 0) (r : Run env ok w₀ w) :
    w.shared.metrics.inflight = total (·.observed w.shared) w.threads ∧
    0 ≤ w.shared.metrics.inflight ∧
    ((∀ t ∈ w.threads, t.inFlight = 0) → w.shared.metrics.inflight = 0) ∧
    ∃ status : Nat → Nat,
      (∀ label, w.shared.metrics.requestsTotal label =
        w₀.shared.metrics.requestsTotal label + (recorded w status label).card) ∧
      ∀ i req rt route, w.threads[i]? = some (.request req (.returned rt)) →
        ((w.shared.heap rt).router.route req.path).1 = route →
        Answered env ok w₀ w i req rt (status i) ∧
        ∀ label, i ∈ recorded w status label ↔ (w.shared.heap rt).observabilityEnabled = true ∧
          label = (req.method, if route = [] then bytes "unmatched" else route, status i) := by
  have unanswered : Answers env ok w₀ (fun _ => 0) w₀ :=
    ⟨fun i req _ _ _ hi => absurd hi (init.no_requests i req _),
      fun i req pc _ hi => absurd hi (init.no_requests i req pc)⟩
  obtain ⟨status, books, answers⟩ := (init.metering zero fun _ => 0).run unanswered init.history
    init.consistent init.held r
  refine ⟨books.inflight, ?_, ?_, status, books.requests, ?_⟩
  · rw [books.inflight]
    exact Int.natCast_nonneg _
  · intro done
    have none : total (·.observed w.shared) w.threads = 0 := by
      apply total_eq_zero.mpr
      intro t ht
      have returned := done t ht
      cases t with
      | request req pc =>
        cases pc with
        | returned rt => rfl
        | _ => cases returned
      | reload | manager | shutdown | start | prober => rfl
    rw [books.inflight, none]
    rfl
  · rintro i req rt _ hi rfl
    refine ⟨answers.recorded i req _ rt hi rfl, fun label => ?_⟩
    rw [mem_recorded]
    constructor
    · rintro ⟨t, ht, counted⟩
      cases hi.symm.trans ht
      simp only [Thread.recordedAs, HandlerPC.recorded, Shared.observed, Option.filter_some] at counted
      split at counted
      · rename_i on
        cases counted
        exact ⟨on, rfl⟩
      · cases counted
    · rintro ⟨on, rfl⟩
      refine ⟨_, hi, ?_⟩
      simp [Thread.recordedAs, HandlerPC.recorded, Shared.observed, on]

/-- A request is tracked on the observed first runtime, is still there when a
runtime without observability takes over, and ends by a panic; one that comes
later is not counted. -/
def observedThenNot : List Action :=
  [.call (.request ⟨"GET", bytes "/api/users"⟩)] ++ goes 2 8 ++
    [.call (.reload (newRuntime 2 ":8080" none false))] ++ goes 3 5 ++
    [.call (.request ⟨"GET", bytes "/api"⟩)] ++ goes 4 5 ++
    [.run 2 (.abort 502)] ++ goes 2 4 ++ goes 4 6

theorem request_metrics_balanced_toggled :
    ∃ w, Run sampleEnv (fun _ _ => True) sampleWorld w ∧ (∀ t ∈ w.threads, t.inFlight = 0) ∧
      w.shared.metrics.inflight = 0 ∧
      w.shared.metrics.requestsTotal ("GET", bytes "/api", 502) = 1 ∧
      w.shared.metrics.requestsTotal ("GET", bytes "unmatched", 404) = 0 := by
  obtain ⟨w, r, done, counted, uncounted⟩ := Exec.exists_run_of_execWhile
    (World.step sampleEnv) (fun _ _ => True) sampleWorld observedThenNot
    (fun w => (∀ t ∈ w.threads, t.inFlight = 0) ∧
      w.shared.metrics.requestsTotal ("GET", bytes "/api", 502) = 1 ∧
      w.shared.metrics.requestsTotal ("GET", bytes "unmatched", 404) = 0)
    (by decide)
  exact ⟨w, r, done, (request_metrics_balanced sampleWorld_running rfl r).2.2.1 done, counted,
    uncounted⟩

end
end TorusProxy

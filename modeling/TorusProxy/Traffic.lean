import TorusProxy.Exchange
import TorusProxy.RequestMetrics

/-! The server's machine with the responses of its requests. What the metrics and the
log say of a request is compared with what was written for it, and with what its
client was sent. -/
namespace TorusProxy

open Threads

structure Traffic where
  world : World
  /-- The response of the request at each place. -/
  exchange : Nat → Exchange
  /-- `torus_backend_requests_total` and `torus_backend_errors_total`. -/
  backendRequests : String → Nat
  backendErrors : String → Nat

inductive TrafficAction
  | world (a : Action)
  /-- The reverse proxy of the request at a place. -/
  | proxy (i : Nat) (e : ProxyEvent)

/-- The outcome of `transport.Forward` is the reverse proxy's. -/
def HandlerPC.choice (x : Exchange) (c : Choice) : HandlerPC → Option Choice
  | .forward _ _ _ => x.forwarded
  | _ => some c

namespace Traffic

/-- `RecordBackendRequest`, and `RecordBackendError` on an error. -/
def recordBackend (t : Traffic) (backend : Backend) (err : Bool) : Traffic :=
  if backend.observabilityEnabled then
    let url := backend.url
    { t with
      backendRequests := Function.update t.backendRequests url (t.backendRequests url + 1)
      backendErrors :=
        if err then Function.update t.backendErrors url (t.backendErrors url + 1)
        else t.backendErrors }
  else t

def roundTripped (t : Traffic) (backend : Backend) (e : ProxyEvent) : Traffic :=
  match e.tripped with
  | some err => t.recordBackend backend err
  | none => t

def setExchange (t : Traffic) (i : Nat) (x : Exchange) : Traffic :=
  { t with exchange := Function.update t.exchange i x }

def step (env : Env) (t : Traffic) : TrafficAction → Option Traffic
  | .world (.run i c) =>
    match t.world.threads[i]? with
    | some (.request _ pc) =>
      (pc.choice (t.exchange i) c).bind fun c =>
        (World.step env t.world (.run i c)).map fun w =>
          { t with world := w }.setExchange i ((t.exchange i).handled pc)
    | _ => (World.step env t.world (.run i c)).map fun w => { t with world := w }
  | .world a => (World.step env t.world a).map fun w => { t with world := w }
  | .proxy i e =>
    match t.world.threads[i]? with
    | some (.request _ (.forward rt _ b)) =>
      (t.world.shared.heap rt).backends[b]?.bind fun backend =>
        ((t.exchange i).reverseProxy backend e).map fun x =>
          (t.roundTripped backend e).setExchange i x
    | _ => none

abbrev Run (env : Env) : Traffic → Traffic → Prop := Exec.Run (Traffic.step env) fun _ _ => True

/-- A server just put into service, and no request yet. -/
structure Opening (t : Traffic) : Prop where
  running : Running t.world
  inflight : t.world.shared.metrics.inflight = 0
  exchange : ∀ i, t.exchange i = .new

end Traffic

@[simp] theorem Traffic.roundTripped_same (t : Traffic) (backend : Backend) (e : ProxyEvent) :
    (t.roundTripped backend e).world = t.world ∧
      (t.roundTripped backend e).exchange = t.exchange := by
  unfold roundTripped
  split
  · unfold recordBackend
    split <;> exact ⟨rfl, rfl⟩
  · exact ⟨rfl, rfl⟩

/-- Everything one step can do. -/
inductive TrafficMove (env : Env) (t : Traffic) : Traffic → Prop
  | handler (i : Nat) (req : Request) (pc : HandlerPC) (c : Choice) (w : World)
      (at_ : t.world.threads[i]? = some (.request req pc))
      (choice : pc.choice (t.exchange i) c = some c)
      (step : World.step env t.world (.run i c) = some w) :
      TrafficMove env t ({ t with world := w }.setExchange i ((t.exchange i).handled pc))
  | other (a : Action) (w : World)
      (quiet : ∀ i c, a = .run i c → ∀ req pc, t.world.threads[i]? ≠ some (.request req pc))
      (step : World.step env t.world a = some w) : TrafficMove env t { t with world := w }
  | proxy (i : Nat) (req : Request) (rt : Rid) (key : Bytes) (b : Nat) (backend : Backend)
      (e : ProxyEvent) (x : Exchange)
      (at_ : t.world.threads[i]? = some (.request req (.forward rt key b)))
      (step : (t.exchange i).reverseProxy backend e = some x) :
      TrafficMove env t ((t.roundTripped backend e).setExchange i x)

section
variable {env : Env} {t t' : Traffic}

theorem HandlerPC.choice_idem {x : Exchange} {c c' : Choice} {pc : HandlerPC}
    (h : pc.choice x c = some c') : pc.choice x c' = some c' := by
  cases pc <;> first | exact h | rfl

theorem Traffic.step_move {a : TrafficAction} (h : t.step env a = some t') :
    TrafficMove env t t' := by
  cases a with
  | world a =>
    cases a with
    | run i c =>
      simp only [step] at h
      split at h
      · rename_i req pc at_
        obtain ⟨c', choice, h⟩ := Option.bind_eq_some_iff.mp h
        obtain ⟨w, step, rfl⟩ := Option.map_eq_some_iff.mp h
        exact .handler i req pc c' w at_ (HandlerPC.choice_idem choice) step
      · rename_i none
        obtain ⟨w, step, rfl⟩ := Option.map_eq_some_iff.mp h
        refine .other (.run i c) w ?_ step
        rintro j d ⟨⟩ req pc at_
        exact none req pc at_
    | call x =>
      simp only [step] at h
      obtain ⟨w, step, rfl⟩ := Option.map_eq_some_iff.mp h
      exact .other (.call x) w (by rintro i c ⟨⟩) step
    | env disk =>
      simp only [step] at h
      obtain ⟨w, step, rfl⟩ := Option.map_eq_some_iff.mp h
      exact .other (.env disk) w (by rintro i c ⟨⟩) step
  | proxy i e =>
    simp only [step] at h
    split at h
    · rename_i req rt key b at_
      obtain ⟨backend, -, h⟩ := Option.bind_eq_some_iff.mp h
      obtain ⟨x, step, rfl⟩ := Option.map_eq_some_iff.mp h
      exact .proxy i req rt key b backend e x at_ step
    · cases h

/-- **Refinement.** The server's machine does not see the responses. -/
theorem Traffic.Run.world {t₀ : Traffic} (run : Traffic.Run env t₀ t) :
    TorusProxy.Run env (fun _ _ => True) t₀.world t.world := by
  refine Exec.Run.invariant (fun u => TorusProxy.Run env (fun _ _ => True) t₀.world u.world) run
    .refl ?_
  intro a u v _ reached _ hs
  cases Traffic.step_move hs with
  | handler i req pc c w at_ choice step => exact reached.snoc trivial step
  | other b w quiet step => exact reached.snoc trivial step
  | proxy i req rt key b backend e x at_ step =>
    simpa [Traffic.setExchange] using reached

end

/-! ## The responses of a run -/

/-- What has been written for a request at this place. -/
def HandlerPC.Fits (x : Exchange) : HandlerPC → Prop
  | .forward _ _ _ => x.InProxy
  | .record _ _ status => status = x.recorder ∧ x.Settled ∧ x.logged = none
  | .untrack _ | .release _ | .exit _ => x.Settled ∧ x.logged = none
  | .returned _ => x.Settled ∧
      (x.proxy ≠ .panicked ∧ x.response.sent = some x.recorder ∧ x.logged = some x.recorder ∨
        x.proxy = .panicked ∧ x.logged = none)
  | _ => x = .new

theorem HandlerPC.Fits.step {req : Request} {sh sh' : Shared} {c : Choice} {pc pc' : HandlerPC}
    {x : Exchange} (h : pc.Fits x) (choice : pc.choice x c = some c)
    (hs : httpHandler req sh c pc = some (sh', pc')) : pc'.Fits (x.handled pc) := by
  cases httpHandler_step hs with
  | forward rt key b code =>
    have settled := h.settled
    have logged := h.logged
    simp only [HandlerPC.choice, Exchange.forwarded] at choice
    split at choice <;> cases choice
    · rename_i returned
      cases hs
      exact ⟨rfl, settled (.inr (.inl returned)), logged⟩
    · rename_i panicked
      cases hs
      exact ⟨rfl, settled (.inr (.inr panicked)), logged⟩
  | notFound rt key =>
    obtain rfl := h
    exact ⟨rfl, Exchange.error_settled (by omega : 199 < 404) (by omega)⟩
  | unavailable rt key =>
    obtain rfl := h
    exact ⟨rfl, Exchange.error_settled (by omega : 199 < 503) (by omega)⟩
  | healthy => obtain rfl := h; exact Exchange.new_inProxy
  | record | recordOff => exact h.2
  | untrack | untrackOff | release => exact h
  | exit rt => exact ⟨h.1.finish, h.1.told h.2⟩
  | _ => exact h

/-- What a request is recorded with is not written again. -/
theorem Exchange.handled_recorder {req : Request} {sh sh' : Shared} {c : Choice}
    {pc pc' : HandlerPC} (x : Exchange) (h : HandlerStep req sh c pc sh' pc')
    (recorded : pc'.recorded ≠ none) : (x.handled pc).recorder = x.recorder := by
  cases h with
  | exit rt =>
    simp only [handled, finish]
    split <;> rfl
  | record | recordOff | untrack | untrackOff | release => rfl
  | _ => exact absurd rfl recorded

theorem Exchange.handled_trip (x : Exchange) (pc : HandlerPC) : (x.handled pc).trip = x.trip := by
  have write (code : Nat) : (x.writeHeader code .serveHTTP).trip = x.trip := by
    unfold writeHeader
    split <;> rfl
  cases pc with
  | notFound | unavailable => exact write _
  | exit =>
    simp only [handled, finish]
    split <;> rfl
  | _ => rfl

section
variable {env : Env} {w w' : World} {a : Action}

/-- A step of a request moves it alone. -/
theorem request_moves {i : Nat} {c : Choice} {req : Request} {pc : HandlerPC}
    (m : Moved (machine env) w (.run i c) w') (at_ : w.threads[i]? = some (.request req pc)) :
    ∃ pc', httpHandler req w.shared c pc = some (w'.shared, pc') ∧
      w'.threads[i]? = some (.request req pc') ∧ ∀ j, j ≠ i → w'.threads[j]? = w.threads[j]? := by
  cases m with
  | @step _ _ u sh' u' new found fires =>
    obtain rfl : u = .request req pc := Option.some.inj (found.symm.trans at_)
    have runs : ThreadStep env w.shared c sh' (.request req pc) u' new := Thread.step_runs fires
    cases runs with
    | @request _ _ pc' runs =>
      refine ⟨pc', runs, getElem?_moved _ at_, fun j ne => ?_⟩
      rw [List.append_nil, List.getElem?_set_ne (Ne.symm ne)]

/-- Any other step leaves the requests where they are, or lets one in. -/
theorem request_stays (m : Moved (machine env) w a w')
    (quiet : ∀ i c, a = .run i c → ∀ req pc, w.threads[i]? ≠ some (.request req pc)) {j : Nat}
    {req : Request} {pc : HandlerPC} :
    (w.threads[j]? = some (.request req pc) → w'.threads[j]? = some (.request req pc)) ∧
      (w'.threads[j]? = some (.request req pc) → w.threads[j]? = some (.request req pc) ∨
        pc = .rLock ∧ w.threads[j]? = none) := by
  constructor
  · intro at_
    rcases m.fate at_ with ⟨-, stays⟩ | ⟨k, sh', t', new, rfl, -⟩
    · exact stays
    · exact absurd at_ (quiet j k rfl req pc)
  · intro at_
    rcases request_origin m at_ with ⟨before, -⟩ | ⟨k, qc, ha, before, -⟩ | entered
    · exact .inl before
    · exact absurd before (quiet j k ha req qc)
    · exact .inr entered

end

namespace Traffic

def recorders (t : Traffic) (i : Nat) : Nat := (t.exchange i).recorder

/-- The status line that was written for each request, or zero. -/
def written (t : Traffic) (i : Nat) : Nat := ((t.exchange i).response.status).getD 0

structure Told (base : String × Bytes × Nat → Nat) (t : Traffic) : Prop where
  history : History t.world
  consistent : Consistent t.world
  held : Held t.world
  metering : Metering base t.recorders t.world
  fits : ∀ (i : Nat) (req : Request) (pc : HandlerPC),
    t.world.threads[i]? = some (.request req pc) → pc.Fits (t.exchange i)
  idle : ∀ i : Nat, (∀ req pc, t.world.threads[i]? ≠ some (.request req pc)) → t.exchange i = .new

section
variable {env : Env} {t t' : Traffic} {base : String × Bytes × Nat → Nat}

theorem Told.own (h : t.Told base) {i : Nat} {req : Request} {rt : Rid} {key : Bytes} {s : Nat}
    (at_ : t.world.threads[i]? = some (.request req (.record rt key s))) : s = t.recorders i :=
  (h.fits i req _ at_).1

theorem Told.step_handler (h : t.Told base) {i : Nat} {req : Request} {pc : HandlerPC} {c : Choice}
    {w : World} (at_ : t.world.threads[i]? = some (.request req pc))
    (choice : pc.choice (t.exchange i) c = some c)
    (hs : World.step env t.world (.run i c) = some w) :
    ({ t with world := w }.setExchange i ((t.exchange i).handled pc)).Told base := by
  have m := Machine.next_moved hs
  obtain ⟨pc', runs, after, others⟩ := request_moves m at_
  have move := httpHandler_step runs
  refine ⟨h.history.step h.consistent hs, h.consistent.step hs,
    h.held.step h.history h.consistent m, ?_, ?_, ?_⟩
  · refine (h.metering.step h.history h.consistent h.held ?_ hs).congr ?_
    · rintro j k req' rt key s ⟨⟩ hj
      exact h.own hj
    · intro j req' qc hj recorded
      by_cases same : j = i
      · subst same
        obtain ⟨rfl, rfl⟩ : req' = req ∧ qc = pc' := by simpa using hj.symm.trans after
        simpa [recorders, setExchange] using (Exchange.handled_recorder _ move recorded).symm
      · simp [recorders, setExchange, same]
  · intro j req' qc hj
    by_cases same : j = i
    · subst same
      obtain ⟨rfl, rfl⟩ : req' = req ∧ qc = pc' := by simpa using hj.symm.trans after
      simpa [setExchange] using (h.fits j _ pc at_).step choice runs
    · simpa [setExchange, same] using h.fits j req' qc ((others j same).symm.trans hj)
  · intro j none
    have same : j ≠ i := by
      rintro rfl
      exact none req pc' after
    simpa [setExchange, same] using
      h.idle j fun req' qc hj => none req' qc ((others j same).trans hj)

theorem Told.step_other (h : t.Told base) {a : Action} {w : World}
    (quiet : ∀ i c, a = .run i c → ∀ req pc, t.world.threads[i]? ≠ some (.request req pc))
    (hs : World.step env t.world a = some w) : ({ t with world := w } : Traffic).Told base := by
  have m := Machine.next_moved hs
  refine ⟨h.history.step h.consistent hs, h.consistent.step hs,
    h.held.step h.history h.consistent m, h.metering.step h.history h.consistent h.held ?_ hs, ?_, ?_⟩
  · rintro j k req rt key s ha hj
    exact absurd hj (quiet j k ha _ _)
  · intro j req pc hj
    rcases (request_stays m quiet).2 hj with before | ⟨rfl, none⟩
    · exact h.fits j req pc before
    · exact h.idle j (by simp [none])
  · intro j none
    exact h.idle j fun req pc hj => none req pc ((request_stays m quiet).1 hj)

theorem Told.step_proxy (h : t.Told base) {i : Nat} {req : Request} {rt : Rid} {key : Bytes}
    {b : Nat} {backend : Backend} {e : ProxyEvent} {x : Exchange}
    (at_ : t.world.threads[i]? = some (.request req (.forward rt key b)))
    (hs : (t.exchange i).reverseProxy backend e = some x) :
    ((t.roundTripped backend e).setExchange i x).Told base := by
  obtain ⟨world, exchange⟩ := t.roundTripped_same backend e
  have still : ((t.roundTripped backend e).setExchange i x).world = t.world := world
  have moved : ((t.roundTripped backend e).setExchange i x).exchange =
      Function.update t.exchange i x := by rw [setExchange, exchange]
  have metering : Metering base t.recorders ((t.roundTripped backend e).setExchange i x).world :=
    still ▸ h.metering
  refine ⟨still ▸ h.history, still ▸ h.consistent, still ▸ h.held, metering.congr ?_, ?_, ?_⟩
  · intro j req' qc hj recorded
    rw [still] at hj
    have same : j ≠ i := by
      rintro rfl
      obtain ⟨-, rfl⟩ : req' = req ∧ qc = .forward rt key b := by simpa using hj.symm.trans at_
      exact recorded rfl
    rw [recorders, recorders, moved, Function.update_of_ne same]
  · intro j req' qc hj
    rw [still] at hj
    by_cases same : j = i
    · subst same
      obtain ⟨rfl, rfl⟩ : req' = req ∧ qc = .forward rt key b := by simpa using hj.symm.trans at_
      rw [moved, Function.update_self]
      exact Exchange.InProxy.step (h.fits j _ _ at_) hs
    · rw [moved, Function.update_of_ne same]
      exact h.fits j req' qc hj
  · intro j none
    rw [still] at none
    have same : j ≠ i := by
      rintro rfl
      exact none _ _ at_
    rw [moved, Function.update_of_ne same]
    exact h.idle j none

theorem Told.step (h : t.Told base) {a : TrafficAction} (hs : t.step env a = some t') :
    t'.Told base := by
  cases step_move hs with
  | handler i req pc c w at_ choice step => exact h.step_handler at_ choice step
  | other b w quiet step => exact h.step_other quiet step
  | proxy i req rt key b backend e x at_ step => exact h.step_proxy at_ step

theorem Opening.told (h : t.Opening) : t.Told t.world.shared.metrics.requestsTotal :=
  have running := h.running
  ⟨running.history, running.consistent, running.held, running.metering h.inflight _,
    fun i req pc at_ => absurd at_ (running.no_requests i req pc), fun i _ => h.exchange i⟩

theorem Run.told {t₀ : Traffic} (init : t₀.Opening) (run : Traffic.Run env t₀ t) :
    t.Told t₀.world.shared.metrics.requestsTotal :=
  run.invariant (Told _) init.told fun _ _ _ _ inv _ hs => inv.step hs

/-- The requests whose round trip has come back and is one of these. -/
def tripped (t : Traffic) (P : RoundTrip → Bool) : Finset Nat :=
  (Finset.range t.world.threads.length).filter fun i => (t.exchange i).trip.any P

/-- What a step does to the backend counters: nothing, or one round trip. -/
inductive Trip (t t' : Traffic) : Prop
  | none (trips : ∀ i, (t'.exchange i).trip = (t.exchange i).trip)
      (requests : t'.backendRequests = t.backendRequests)
      (errors : t'.backendErrors = t.backendErrors)
  | back (i : Nat) (backend : Backend) (err : Bool) (inside : i < t.world.threads.length)
      (fresh : (t.exchange i).trip = .none)
      (now : (t'.exchange i).trip = some ⟨backend.url, backend.observabilityEnabled, err⟩)
      (others : ∀ j, j ≠ i → (t'.exchange j).trip = (t.exchange j).trip)
      (requests : t'.backendRequests = (t.recordBackend backend err).backendRequests)
      (errors : t'.backendErrors = (t.recordBackend backend err).backendErrors)

theorem Told.trip (h : t.Told base) {a : TrafficAction} (hs : t.step env a = some t') :
    t.Trip t' := by
  cases step_move hs with
  | handler i req pc c w at_ choice step =>
    refine .none (fun j => ?_) rfl rfl
    by_cases same : j = i
    · subst same
      simpa [setExchange] using Exchange.handled_trip _ _
    · simp [setExchange, same]
  | other b w quiet step => exact .none (fun _ => rfl) rfl rfl
  | proxy i req rt key b backend e x at_ step =>
    have moved : ((t.roundTripped backend e).setExchange i x).exchange =
        Function.update t.exchange i x := by rw [setExchange, (t.roundTripped_same backend e).2]
    rcases Exchange.InProxy.trip (h.fits i _ _ at_) step with
      ⟨none, same⟩ | ⟨err, back, fresh, trip⟩
    · refine .none (fun j => ?_) (by simp [roundTripped, none, setExchange])
        (by simp [roundTripped, none, setExchange])
      rw [moved]
      by_cases here : j = i
      · subst here
        rw [Function.update_self, same]
      · rw [Function.update_of_ne here]
    · refine .back i backend err (List.getElem?_eq_some_iff.mp at_).1 fresh ?_ (fun j ne => ?_)
        (by simp [roundTripped, back, setExchange]) (by simp [roundTripped, back, setExchange])
      · rw [moved, Function.update_self, trip]
      · rw [moved, Function.update_of_ne ne]

theorem Told.mem_tripped (h : t.Told base) {P : RoundTrip → Bool} {i : Nat} :
    i ∈ t.tripped P ↔ (t.exchange i).trip.any P = true := by
  simp only [tripped, Finset.mem_filter, Finset.mem_range, and_iff_right_iff_imp]
  intro counted
  by_contra outside
  rw [h.idle i (by simp [List.getElem?_eq_none (Nat.not_lt.mp outside)])] at counted
  cases counted

/-- Only the round trip that has come back joins the others. -/
theorem Told.tripped_card (h : t.Told base) (h' : t'.Told base) {i : Nat} {trip : RoundTrip}
    (P : RoundTrip → Bool) (fresh : (t.exchange i).trip = .none)
    (now : (t'.exchange i).trip = some trip)
    (others : ∀ j, j ≠ i → (t'.exchange j).trip = (t.exchange j).trip) :
    (t'.tripped P).card = (t.tripped P).card + (P trip).toNat := by
  have new : i ∉ t.tripped P := by
    rw [h.mem_tripped, fresh]
    exact Bool.false_ne_true
  cases here : P trip with
  | false =>
    have same : t'.tripped P = t.tripped P := by
      ext j
      rw [h.mem_tripped, h'.mem_tripped]
      by_cases at_i : j = i
      · subst at_i
        simp [now, fresh, here]
      · rw [others j at_i]
    rw [same]
    rfl
  | true =>
    have joined : t'.tripped P = insert i (t.tripped P) := by
      ext j
      rw [Finset.mem_insert, h.mem_tripped, h'.mem_tripped]
      by_cases at_i : j = i
      · subst at_i
        simp [now, here]
      · simp [others j at_i, at_i]
    rw [joined, Finset.card_insert_of_notMem new]
    rfl

theorem Told.tripped_same (h : t.Told base) (h' : t'.Told base) (P : RoundTrip → Bool)
    (trips : ∀ i, (t'.exchange i).trip = (t.exchange i).trip) : t'.tripped P = t.tripped P := by
  ext i
  rw [h.mem_tripped, h'.mem_tripped, trips]

/-- A counted round trip to this backend. -/
def requested (url : String) (trip : RoundTrip) : Bool := trip.enabled && trip.backend == url

/-- The counters of each backend, from where they were. -/
def BackendBooks (t₀ t : Traffic) : Prop :=
  ∀ url, t.backendRequests url = t₀.backendRequests url + (t.tripped (requested url)).card ∧
    t.backendErrors url =
      t₀.backendErrors url + (t.tripped fun trip => requested url trip && trip.err).card

theorem BackendBooks.step {t₀ : Traffic} (books : BackendBooks t₀ t) (h : t.Told base)
    {a : TrafficAction} (hs : t.step env a = some t') : BackendBooks t₀ t' := by
  have h' := h.step hs
  intro url
  obtain ⟨requests, failures⟩ := books url
  cases h.trip hs with
  | none trips requests' errors =>
    rw [requests', errors, h.tripped_same h' _ trips, h.tripped_same h' _ trips]
    exact ⟨requests, failures⟩
  | back i backend err inside fresh now others requests' errors =>
    rw [requests', errors, h.tripped_card h' _ fresh now others,
      h.tripped_card h' _ fresh now others]
    cases on : backend.observabilityEnabled with
    | false => simp [recordBackend, requested, on, requests, failures]
    | true =>
      by_cases own : backend.url = url
      · subst own
        cases err <;> simp [recordBackend, requested, on, requests, failures, Nat.add_assoc]
      · cases err <;> simp [recordBackend, requested, on, requests, failures, own, Ne.symm own]

/-- A request whose round trip has failed is answered with 502, and its client is
sent that once it has returned. -/
theorem Told.failed (h : t.Told base) {i : Nat} {trip : RoundTrip}
    (back : (t.exchange i).trip = some trip) (err : trip.err = true) :
    t.written i = 502 ∧ ∀ req rt, t.world.threads[i]? = some (.request req (.returned rt)) →
      (t.exchange i).response.sent = some 502 := by
  have untouched {P : Prop} (same : t.exchange i = .new) : P := by
    rw [same] at back
    cases back
  have told (settled : (t.exchange i).Settled) : t.written i = 502 := by
    rw [written, (settled.failed trip back err).1, Option.getD_some]
  constructor
  · by_cases at_ : ∃ req pc, t.world.threads[i]? = some (.request req pc)
    · obtain ⟨req, pc, at_⟩ := at_
      have fits := h.fits i req pc at_
      cases pc with
      | forward rt key b =>
        have opened := fits.opened
        have settled := fits.settled
        cases site : (t.exchange i).proxy with
        | serveHTTP => cases (opened (.inl site)).2.symm.trans back
        | roundTrip => cases (opened (.inr site)).2.symm.trans back
        | copyResponse => exact told (settled (.inl site))
        | returned => exact told (settled (.inr (.inl site)))
        | panicked => exact told (settled (.inr (.inr site)))
      | record => exact told fits.2.1
      | untrack | release | exit | returned => exact told fits.1
      | _ => exact untouched fits
    · exact untouched (h.idle i fun req pc here => at_ ⟨req, pc, here⟩)
  · intro req rt at_
    obtain ⟨settled, outcome⟩ := h.fits i req _ at_
    obtain ⟨bad, returned⟩ := settled.failed trip back err
    rcases outcome with ⟨-, sent, -⟩ | ⟨panicked, -⟩
    · have written := settled.written.resolve_right (by simp [returned])
      rw [sent, ← written, bad]
    · rw [returned] at panicked
      cases panicked

end

end Traffic

/-! ## One run -/

end TorusProxy

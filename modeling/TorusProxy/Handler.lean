import TorusProxy.Runtime

/-! `Server.httpHandler`, one atomic step at a time. The deferred calls run in
the order record, untrack, release on every exit. -/
namespace TorusProxy

structure Request where
  method : String
  path : Bytes
  deriving DecidableEq, Repr

inductive HandlerPC
  | rLock
  | load
  | acquire (rt : Rid)
  | rUnlock (rt : Rid)
  | track (rt : Rid)
  | route (rt : Rid)
  /-- `svc == nil`: the 404 branch. -/
  | notFound (rt : Rid) (route : Bytes)
  /-- The `i`-th turn of the loop in `RoundRobin.Next`. -/
  | next (rt : Rid) (route : Bytes) (svc i : Nat)
  | isHealthy (rt : Rid) (route : Bytes) (svc i backend : Nat)
  /-- `backend == nil`: the 503 branch. -/
  | unavailable (rt : Rid) (route : Bytes)
  | forward (rt : Rid) (route : Bytes) (backend : Nat)
  | record (rt : Rid) (route : Bytes) (status : Nat)
  | untrack (rt : Rid)
  | release (rt : Rid)
  | exit (rt : Rid)
  | returned (rt : Rid)
  deriving DecidableEq, Repr

/-- `normalizeRoute`. -/
def normalizeRoute (route : Bytes) : Bytes := if route = [] then bytes "unmatched" else route

def Runtime.bumpIndex (svc idx : Nat) (rt : Runtime) : Runtime :=
  { rt with services := rt.services.modify svc ({ · with index := idx }) }

def Metrics.recordHTTPRequest (method : String) (route : Bytes) (status : Nat) (m : Metrics) :
    Metrics :=
  let label := (method, normalizeRoute route, status)
  { m with requestsTotal := Function.update m.requestsTotal label (m.requestsTotal label + 1) }

def httpHandler (req : Request) (sh : Shared) (c : Choice) :
    HandlerPC → Option (Shared × HandlerPC)
  | .rLock => (sh.tryMu RWMutex.rLock).map (·, .load)
  | .load => some (sh, .acquire sh.server.runtime)
  | .acquire rt =>
    some (sh.setRuntime rt (fun x => { x with requestWG := x.requestWG + 1 }), .rUnlock rt)
  | .rUnlock rt =>
    some (sh.setServer (fun s => { s with runtimeMu := s.runtimeMu.rUnlock }), .track rt)
  | .track rt =>
    if (sh.heap rt).observabilityEnabled then
      some (sh.setMetrics (fun m => { m with inflight := m.inflight + 1 }), .route rt)
    else some (sh, .route rt)
  | .route rt =>
    match (sh.heap rt).router.route req.path with
    | (route, none) => some (sh, .notFound rt route)
    | (route, some svc) => some (sh, .next rt route svc 0)
  | .notFound rt route => some (sh, .record rt route 404)
  | .next rt route svc i =>
    match (sh.heap rt).services[svc]? with
    | none => none
    | some s =>
      if i < s.backends.length then
        let idx := (s.index + 1) % 2 ^ 64
        match s.backends[idx % s.backends.length]? with
        | none => none
        | some b => some (sh.setRuntime rt (Runtime.bumpIndex svc idx), .isHealthy rt route svc i b)
      else some (sh, .unavailable rt route)
  | .isHealthy rt route svc i b =>
    match (sh.heap rt).backends[b]? with
    | none => none
    | some x => some (sh, if x.healthy then .forward rt route b else .next rt route svc (i + 1))
  | .unavailable rt route => some (sh, .record rt route 503)
  | .forward rt route _ =>
    match c with
    | .status code | .abort code => some (sh, .record rt route code)
    | _ => none
  | .record rt route status =>
    if (sh.heap rt).observabilityEnabled then
      some (sh.setMetrics (Metrics.recordHTTPRequest req.method route status), .untrack rt)
    else some (sh, .untrack rt)
  | .untrack rt =>
    if (sh.heap rt).observabilityEnabled then
      some (sh.setMetrics (fun m => { m with inflight := m.inflight - 1 }), .release rt)
    else some (sh, .release rt)
  | .release rt =>
    some (sh.setRuntime rt (fun x => { x with requestWG := x.requestWG - 1 }), .exit rt)
  | .exit rt =>
    some (sh.setServer (fun s => { s with srv := { s.srv with handlers := s.srv.handlers - 1 } }),
      .returned rt)
  | .returned _ => none

namespace HandlerPC

def hold : HandlerPC → RWMutex.Hold
  | .load | .acquire _ | .rUnlock _ => .reader
  | _ => .none

/-- The runtime the request has acquired and not yet released. -/
def holds : HandlerPC → Option Rid
  | .rUnlock rt | .track rt | .route rt | .notFound rt _ | .next rt _ _ _
  | .isHealthy rt _ _ _ _ | .unavailable rt _ | .forward rt _ _ | .record rt _ _
  | .untrack rt | .release rt => some rt
  | _ => none

/-- The runtime the request has acquired, also after its release. -/
def acquired : HandlerPC → Option Rid
  | .exit rt | .returned rt => some rt
  | pc => pc.holds

def inFlight : HandlerPC → Nat
  | .returned _ => 0
  | _ => 1

end HandlerPC

/-- Everything one step of a request can do, place by place. -/
inductive HandlerStep (req : Request) (sh : Shared) (c : Choice) :
    HandlerPC → Shared → HandlerPC → Prop
  | rLock {sh' : Shared} (h : sh.tryMu RWMutex.rLock = some sh') :
      HandlerStep req sh c .rLock sh' .load
  | load : HandlerStep req sh c .load sh (.acquire sh.server.runtime)
  | acquire (rt : Rid) :
      HandlerStep req sh c (.acquire rt)
        (sh.setRuntime rt (fun x => { x with requestWG := x.requestWG + 1 })) (.rUnlock rt)
  | rUnlock (rt : Rid) :
      HandlerStep req sh c (.rUnlock rt)
        (sh.setServer (fun s => { s with runtimeMu := s.runtimeMu.rUnlock })) (.track rt)
  | track (rt : Rid) (on : (sh.heap rt).observabilityEnabled = true) :
      HandlerStep req sh c (.track rt)
        (sh.setMetrics (fun m => { m with inflight := m.inflight + 1 })) (.route rt)
  | trackOff (rt : Rid) (off : ¬ (sh.heap rt).observabilityEnabled = true) :
      HandlerStep req sh c (.track rt) sh (.route rt)
  | miss (rt : Rid) (key : Bytes) (h : (sh.heap rt).router.route req.path = (key, none)) :
      HandlerStep req sh c (.route rt) sh (.notFound rt key)
  | found (rt : Rid) (key : Bytes) (svc : Nat)
      (h : (sh.heap rt).router.route req.path = (key, some svc)) :
      HandlerStep req sh c (.route rt) sh (.next rt key svc 0)
  | notFound (rt : Rid) (key : Bytes) :
      HandlerStep req sh c (.notFound rt key) sh (.record rt key 404)
  | draw (rt : Rid) (key : Bytes) (svc i : Nat) (s : Service) (b : Nat)
      (at_ : (sh.heap rt).services[svc]? = some s) (more : i < s.backends.length)
      (drawn : s.backends[(s.index + 1) % 2 ^ 64 % s.backends.length]? = some b) :
      HandlerStep req sh c (.next rt key svc i)
        (sh.setRuntime rt (Runtime.bumpIndex svc ((s.index + 1) % 2 ^ 64)))
        (.isHealthy rt key svc i b)
  | exhausted (rt : Rid) (key : Bytes) (svc i : Nat) (s : Service)
      (at_ : (sh.heap rt).services[svc]? = some s) (none : ¬ i < s.backends.length) :
      HandlerStep req sh c (.next rt key svc i) sh (.unavailable rt key)
  | healthy (rt : Rid) (key : Bytes) (svc i b : Nat) (x : Backend)
      (at_ : (sh.heap rt).backends[b]? = some x) (up : x.healthy = true) :
      HandlerStep req sh c (.isHealthy rt key svc i b) sh (.forward rt key b)
  | unhealthy (rt : Rid) (key : Bytes) (svc i b : Nat) (x : Backend)
      (at_ : (sh.heap rt).backends[b]? = some x) (down : ¬ x.healthy = true) :
      HandlerStep req sh c (.isHealthy rt key svc i b) sh (.next rt key svc (i + 1))
  | unavailable (rt : Rid) (key : Bytes) :
      HandlerStep req sh c (.unavailable rt key) sh (.record rt key 503)
  | forward (rt : Rid) (key : Bytes) (b code : Nat) :
      HandlerStep req sh c (.forward rt key b) sh (.record rt key code)
  | record (rt : Rid) (key : Bytes) (status : Nat)
      (on : (sh.heap rt).observabilityEnabled = true) :
      HandlerStep req sh c (.record rt key status)
        (sh.setMetrics (Metrics.recordHTTPRequest req.method key status)) (.untrack rt)
  | recordOff (rt : Rid) (key : Bytes) (status : Nat)
      (off : ¬ (sh.heap rt).observabilityEnabled = true) :
      HandlerStep req sh c (.record rt key status) sh (.untrack rt)
  | untrack (rt : Rid) (on : (sh.heap rt).observabilityEnabled = true) :
      HandlerStep req sh c (.untrack rt)
        (sh.setMetrics (fun m => { m with inflight := m.inflight - 1 })) (.release rt)
  | untrackOff (rt : Rid) (off : ¬ (sh.heap rt).observabilityEnabled = true) :
      HandlerStep req sh c (.untrack rt) sh (.release rt)
  | release (rt : Rid) :
      HandlerStep req sh c (.release rt)
        (sh.setRuntime rt (fun x => { x with requestWG := x.requestWG - 1 })) (.exit rt)
  | exit (rt : Rid) :
      HandlerStep req sh c (.exit rt)
        (sh.setServer (fun s => { s with srv := { s.srv with handlers := s.srv.handlers - 1 } }))
        (.returned rt)

/-- One step of a request, as far as locks and runtimes go. -/
inductive HandlerMove (sh : Shared) : HandlerPC → Shared → HandlerPC → Prop
  | rLock {sh' : Shared} (h : sh.tryMu RWMutex.rLock = some sh') : HandlerMove sh .rLock sh' .load
  | load : HandlerMove sh .load sh (.acquire sh.server.runtime)
  | acquire (rt : Rid) :
      HandlerMove sh (.acquire rt)
        (sh.setRuntime rt (fun x => { x with requestWG := x.requestWG + 1 })) (.rUnlock rt)
  | rUnlock (rt : Rid) :
      HandlerMove sh (.rUnlock rt)
        (sh.setServer (fun s => { s with runtimeMu := s.runtimeMu.rUnlock })) (.track rt)
  | inner {sh' : Shared} {pc pc' : HandlerPC} (rt : Rid) (hold : pc.hold = .none)
      (hold' : pc'.hold = .none) (holds : pc.holds = some rt) (holds' : pc'.holds = some rt)
      (still : Shared.Still sh sh') : HandlerMove sh pc sh' pc'
  | release (rt : Rid) :
      HandlerMove sh (.release rt)
        (sh.setRuntime rt (fun x => { x with requestWG := x.requestWG - 1 })) (.exit rt)
  | exit (rt : Rid) :
      HandlerMove sh (.exit rt)
        (sh.setServer (fun s => { s with srv := { s.srv with handlers := s.srv.handlers - 1 } }))
        (.returned rt)

theorem Runtime.bumpIndex_still (svc idx : Nat) (rt : Runtime) :
    (rt.bumpIndex svc idx).still = rt.still := by
  have same : (rt.services.modify svc ({ · with index := idx })).map ({ · with index := 0 }) =
      rt.services.map ({ · with index := 0 } : Service → Service) := by
    apply List.ext_getElem?
    intro i
    simp only [List.getElem?_map, List.getElem?_modify]
    cases rt.services[i]? with
    | none => rfl
    | some s => by_cases h : svc = i <;> simp [h]
  simp only [Runtime.still, Runtime.bumpIndex, same]

section
variable {req : Request} {sh sh' : Shared} {pc pc' : HandlerPC} {c : Choice}

theorem httpHandler_step (h : httpHandler req sh c pc = some (sh', pc')) :
    HandlerStep req sh c pc sh' pc' := by
  cases pc with
  | rLock =>
    obtain ⟨sh₁, hmu, he⟩ := Option.map_eq_some_iff.mp h
    cases he
    exact .rLock hmu
  | load => cases h; exact .load
  | acquire rt => cases h; exact .acquire rt
  | rUnlock rt => cases h; exact .rUnlock rt
  | track rt =>
    simp only [httpHandler] at h
    split at h <;> cases h
    · exact .track rt ‹_›
    · exact .trackOff rt ‹_›
  | route rt =>
    simp only [httpHandler] at h
    split at h <;> cases h
    · exact .miss rt _ ‹_›
    · exact .found rt _ _ ‹_›
  | notFound rt key => cases h; exact .notFound rt key
  | next rt key svc i =>
    simp only [httpHandler] at h
    split at h
    · cases h
    · rename_i s at_
      split at h
      · rename_i more
        split at h
        · cases h
        · rename_i b drawn
          cases h
          exact .draw rt key svc i s b at_ more drawn
      · rename_i none
        cases h
        exact .exhausted rt key svc i s at_ none
  | isHealthy rt key svc i b =>
    simp only [httpHandler] at h
    split at h
    · cases h
    · rename_i x at_
      cases h
      split
      · exact .healthy rt key svc i b x at_ ‹_›
      · exact .unhealthy rt key svc i b x at_ ‹_›
  | unavailable rt key => cases h; exact .unavailable rt key
  | forward rt key b =>
    simp only [httpHandler] at h
    split at h <;> cases h <;> exact .forward rt key b _
  | record rt key status =>
    simp only [httpHandler] at h
    split at h <;> cases h
    · exact .record rt key status ‹_›
    · exact .recordOff rt key status ‹_›
  | untrack rt =>
    simp only [httpHandler] at h
    split at h <;> cases h
    · exact .untrack rt ‹_›
    · exact .untrackOff rt ‹_›
  | release rt => cases h; exact .release rt
  | exit rt => cases h; exact .exit rt
  | returned rt => cases h

theorem httpHandler_move (h : httpHandler req sh c pc = some (sh', pc')) :
    HandlerMove sh pc sh' pc' := by
  cases httpHandler_step h with
  | rLock hm => exact .rLock hm
  | load => exact .load
  | acquire rt => exact .acquire rt
  | rUnlock rt => exact .rUnlock rt
  | release rt => exact .release rt
  | exit rt => exact .exit rt
  | track rt | record rt | untrack rt => exact .inner rt rfl rfl rfl rfl (.setMetrics _ _ rfl)
  | draw rt =>
    exact .inner rt rfl rfl rfl rfl (.setRuntime _ _ _ (Runtime.bumpIndex_still _ _ _))
  | trackOff rt | miss rt | found rt | notFound rt | exhausted rt | healthy rt | unhealthy rt
  | unavailable rt | forward rt | recordOff rt | untrackOff rt =>
    exact .inner rt rfl rfl rfl rfl (.refl _)

theorem HandlerMove.turn (h : HandlerMove sh pc sh' pc') :
    RWMutex.Turn sh.server.runtimeMu sh'.server.runtimeMu pc.hold pc'.hold := by
  cases h with
  | rLock h =>
    obtain ⟨m, hm, rfl⟩ := Shared.tryMu_eq_some.mp h
    exact .rLock hm
  | load => exact .same _ rfl
  | acquire => exact .same _ rfl
  | rUnlock => exact .rUnlock rfl
  | inner rt hold hold' _ _ still => rw [hold, hold', still.server]; exact .same _ rfl
  | release => exact .same _ rfl
  | exit => exact .same _ rfl

theorem HandlerPC.acquired_of_holds {r : Rid} (h : pc.holds = some r) :
    pc.acquired = some r := by
  cases pc <;> first | exact h | cases h

theorem HandlerMove.acquired {r : Rid} (h : HandlerMove sh pc sh' pc')
    (ha : pc.acquired = some r) : pc'.acquired = some r := by
  cases h with
  | inner q _ _ holds holds' _ =>
    rw [HandlerPC.acquired_of_holds holds] at ha
    exact (HandlerPC.acquired_of_holds holds').trans ha
  | rUnlock rt | release rt | exit rt => exact ha
  | rLock | load | acquire => cases ha

theorem HandlerMove.holds {r : Rid} (h : HandlerMove sh pc sh' pc') (hr : pc.holds = some r) :
    pc'.holds = some r ∨ pc = .release r ∧ pc' = .exit r := by
  cases h with
  | inner q _ _ holds holds' _ => exact .inl (holds'.trans (holds.symm.trans hr))
  | rUnlock rt => exact .inl hr
  | release rt => cases hr; exact .inr ⟨rfl, rfl⟩
  | rLock | load | acquire | exit => cases hr

end
end TorusProxy

import TorusProxy.NodeWorker

/-! What a worker of the Node server does to a request or an upgrade, step by step:
which servers are contacted for whom, and what the metrics count. -/
namespace TorusProxy.Node

/-! ## A routed request -/

/-- The same routing state: only health and the places of the strategies may differ. -/
structure ParsedConfig.Same (c c' : ParsedConfig) : Prop where
  router : c'.router = c.router
  servers : c'.servers = c.servers
  next : c'.next = c.next
  pools : c'.pools.map (·.servers) = c.pools.map (·.servers)

theorem ParsedConfig.Same.refl (c : ParsedConfig) : c.Same c := ⟨rfl, rfl, rfl, rfl⟩

theorem BackendPool.getServerForRequest_servers {Server : Type} (pool : BackendPool Server) :
    pool.getServerForRequest.2.servers = pool.servers := by
  unfold getServerForRequest
  split <;> rfl

theorem ParsedConfig.routeRequest_same (c : ParsedConfig) (url : JSString) :
    c.Same (c.routeRequest url).2 := by
  unfold routeRequest
  split
  · exact .refl c
  · rename_i k selected
    split
    · exact .refl c
    · rename_i pool at_
      refine ⟨rfl, rfl, rfl, ?_⟩
      have kept := BackendPool.getServerForRequest_servers pool
      have lt := (List.getElem?_eq_some_iff.mp at_).1
      simp only [List.map_set, kept]
      apply List.ext_getElem?
      intro i
      by_cases here : k = i
      · subst here
        rw [List.getElem?_set_self (by simpa using lt), List.getElem?_map, at_, Option.map_some]
      · rw [List.getElem?_set_ne here]

theorem ParsedConfig.mapPools_same (c : ParsedConfig)
    {f : BackendPool BackendServer → BackendPool BackendServer}
    (kept : ∀ pool, (f pool).servers = pool.servers) : c.Same (c.mapPools f) := by
  refine ⟨rfl, rfl, rfl, ?_⟩
  have same : (fun pool : BackendPool BackendServer => pool.servers) ∘ f = (·.servers) :=
    funext kept
  rw [mapPools, List.map_map, same]

/-- The pool the router selects for the url has the server, and the server is healthy. -/
def ParsedConfig.Offers (c : ParsedConfig) (url : JSString) (server : BackendServer) : Prop :=
  ∃ k pool, c.router.selectedPool url = some k ∧ c.pools[k]? = some pool ∧
    server ∈ pool.servers ∧ pool.isHealthy server = true

theorem ParsedConfig.routeRequest_offers {c : ParsedConfig} {url : JSString}
    {server : BackendServer} (routed : (c.routeRequest url).1 = some server) :
    c.Offers url server := by
  unfold routeRequest at routed
  split at routed
  · cases routed
  · rename_i k selected
    split at routed
    · cases routed
    · rename_i pool at_
      exact ⟨k, pool, selected, at_, BackendPool.getServerForRequest_healthy routed⟩

/-! ## One step -/

/-- The rate limiter lets the request pass and its header verifies. -/
structure Passes (env : Setting) (req : ClientRequest) (isAllowed : Bool) (dateNow : Nat) :
    Prop where
  allowed : isAllowed = true
  verified : verify env.platform env.secret dateNow req.authorization = true

/-- Everything a step can do to a request. -/
inductive HttpStep (env : Setting) (req : ClientRequest) (m : Memory) :
    ConnEvent → HttpPC → Memory → HttpPC → Prop
  | scrape (e : ConnEvent) : HttpStep env req m e .arrived m .scraping
  | consume (e : ConnEvent) : HttpStep env req m e .arrived m .consuming
  | scraped (e : ConnEvent) : HttpStep env req m e .scraping m (.ended 200)
  | limited (dateNow : Nat) :
      HttpStep env req m (.consumed false dateNow) .consuming
        (m.setMetrics (.countRequest (req.verb, 429))) (.ended 429)
  | unauthorized (dateNow : Nat)
      (refused : verify env.platform env.secret dateNow req.authorization = false) :
      HttpStep env req m (.consumed true dateNow) .consuming m (.ended 401)
  | unrouted (dateNow : Nat) (passes : Passes env req true dateNow) (moved : ParsedConfig)
      (routed : m.config.routeRequest req.target = (none, moved)) :
      HttpStep env req m (.consumed true dateNow) .consuming { m with config := moved } (.ended 502)
  | forward (dateNow : Nat) (passes : Passes env req true dateNow) (server : BackendServer)
      (moved : ParsedConfig) (routed : m.config.routeRequest req.target = (some server, moved)) :
      HttpStep env req m (.consumed true dateNow) .consuming { m with config := moved }
        (.forwarding server (outboundRequest req server) .flowing .awaited)
  | respond (server : BackendServer) (options : OutboundRequest) (upload : Upload)
      (statusCode status : Nat) :
      HttpStep env req m (.response statusCode) (.forwarding server options upload .awaited) m
        (.forwarding server options upload (.streaming status))
  | streamed (server : BackendServer) (options : OutboundRequest) (upload : Upload) (status : Nat) :
      HttpStep env req m .streamed (.forwarding server options upload (.streaming status))
        (m.setMetrics (.observeDuration (req.verb, status) ∘ .countRequest (req.verb, status)))
        (.forwarding server options upload (.streamed status))
  | broken (server : BackendServer) (options : OutboundRequest) (upload : Upload) (status : Nat) :
      HttpStep env req m .broken (.forwarding server options upload (.streaming status))
        (m.setMetrics (.observeDuration (req.verb, 502) ∘ .countRequest (req.verb, 502)))
        (.forwarding server options upload .broken)
  | upload (server : BackendServer) (options : OutboundRequest) (upload' : Upload) (reply : Reply)
      (e : ConnEvent) :
      HttpStep env req m e (.forwarding server options .flowing reply) m
        (.forwarding server options upload' reply)
  | gateway (server : BackendServer) (options : OutboundRequest) :
      HttpStep env req m .uploadFailed (.forwarding server options .flowing .awaited) m
        (.forwarding server options .failed .gatewayError)

theorem handleRequest_step {env : Setting} {req : ClientRequest} {m m' : Memory} {e : ConnEvent}
    {pc pc' : HttpPC}
    (h : handleRequest env.platform env.secret req m e pc = some (m', pc')) :
    HttpStep env req m e pc m' pc' := by
  cases pc with
  | arrived =>
    simp only [handleRequest] at h
    split at h <;> cases h
    · exact .scrape e
    · exact .consume e
  | scraping => cases h; exact .scraped e
  | consuming =>
    cases e with
    | consumed isAllowed dateNow =>
      simp only [handleRequest, serveRequest] at h
      cases isAllowed with
      | false =>
        simp only [Bool.false_eq_true, if_false] at h
        cases h
        exact .limited dateNow
      | true =>
        simp only [if_true] at h
        split at h
        · rename_i verified
          split at h <;> rename_i routed <;> cases h
          · exact .unrouted dateNow ⟨rfl, verified⟩ _ routed
          · exact .forward dateNow ⟨rfl, verified⟩ _ _ routed
        · rename_i refused
          cases h
          exact .unauthorized dateNow (by simpa using refused)
    | turn | response | streamed | broken | uploaded | uploadFailed | connected | connectFailed
      | closed => cases h
  | forwarding server options upload reply =>
    simp only [handleRequest] at h
    split at h <;> cases h
    · exact .respond server options .flowing _ _
    · exact .respond server options .finished _ _
    · exact .streamed server options upload _
    · exact .broken server options upload _
    · exact .upload server options .finished reply _
    · exact .gateway server options
    · exact .upload server options .failed reply _
  | ended => cases h

/-- Everything a step can do to an upgrade. -/
inductive UpgradeStep (env : Setting) (req : ClientRequest) (m : Memory) :
    ConnEvent → UpgradePC → Memory → UpgradePC → Prop
  | consume (e : ConnEvent) : UpgradeStep env req m e .arrived m .consuming
  | limited (dateNow : Nat) :
      UpgradeStep env req m (.consumed false dateNow) .consuming m (.refused 429)
  | unauthorized (dateNow : Nat)
      (refused : verify env.platform env.secret dateNow req.authorization = false) :
      UpgradeStep env req m (.consumed true dateNow) .consuming
        (m.setMetrics fun x => { x with upgradesUnauthorized := x.upgradesUnauthorized + 1 })
        (.refused 401)
  | unrouted (dateNow : Nat) (passes : Passes env req true dateNow) (moved : ParsedConfig)
      (routed : m.config.routeRequest req.target = (none, moved)) :
      UpgradeStep env req m (.consumed true dateNow) .consuming { m with config := moved }
        (.refused 404)
  | connect (dateNow : Nat) (passes : Passes env req true dateNow) (backend : BackendServer)
      (moved : ParsedConfig) (routed : m.config.routeRequest req.target = (some backend, moved)) :
      UpgradeStep env req m (.consumed true dateNow) .consuming { m with config := moved }
        (.connecting backend)
  | connected (backend : BackendServer) :
      UpgradeStep env req m .connected (.connecting backend)
        (m.setMetrics fun x =>
          { x with
            upgradesSuccess := x.upgradesSuccess + 1
            activeWebSockets := x.activeWebSockets + 1 })
        (.tunnel backend (upgradeHeaders req))
  | uncaught (backend : BackendServer) :
      UpgradeStep env req m .connectFailed (.connecting backend) { m with exitCode := some 1 }
        (.connecting backend)
  | closed (backend : BackendServer) (sent : JSString) :
      UpgradeStep env req m .closed (.tunnel backend sent)
        (m.setMetrics fun x => { x with activeWebSockets := x.activeWebSockets - 1 })
        (.closed backend)

theorem handleUpgrade_step {env : Setting} {req : ClientRequest} {m m' : Memory} {e : ConnEvent}
    {pc pc' : UpgradePC}
    (h : handleUpgrade env.platform env.secret req m e pc = some (m', pc')) :
    UpgradeStep env req m e pc m' pc' := by
  cases pc with
  | arrived => cases h; exact .consume e
  | consuming =>
    cases e with
    | consumed isAllowed dateNow =>
      simp only [handleUpgrade, serveUpgrade] at h
      cases isAllowed with
      | false =>
        simp only [Bool.false_eq_true, if_false] at h
        cases h
        exact .limited dateNow
      | true =>
        simp only [if_true] at h
        split at h
        · rename_i verified
          split at h <;> rename_i routed <;> cases h
          · exact .unrouted dateNow ⟨rfl, verified⟩ _ routed
          · exact .connect dateNow ⟨rfl, verified⟩ _ _ routed
        · rename_i refused
          cases h
          exact .unauthorized dateNow (by simpa using refused)
    | turn | response | streamed | broken | uploaded | uploadFailed | connected | connectFailed
      | closed => cases h
  | connecting backend =>
    cases e with
    | connected => cases h; exact .connected backend
    | connectFailed => cases h; exact .uncaught backend
    | turn | consumed | response | streamed | broken | uploaded | uploadFailed | closed => cases h
  | tunnel backend sent =>
    cases e with
    | closed => cases h; exact .closed backend sent
    | turn | consumed | response | streamed | broken | uploaded | uploadFailed | connected
      | connectFailed => cases h
  | closed | refused => cases h

/-! ## Contacts -/

/-- The server a connection has reached out to. -/
def Conn.contacted : Conn → Option BackendServer
  | .http _ (.forwarding server _ _ _) => some server
  | .upgrade _ (.connecting backend) | .upgrade _ (.tunnel backend _)
  | .upgrade _ (.closed backend) => some backend
  | _ => none

def Conn.request : Conn → ClientRequest
  | .http req _ | .upgrade req _ => req

/-- Now, in this memory, the request may be given the server: its header verifies, and
the pool of its url has the server among its healthy ones. -/
structure Authorised (env : Setting) (m : Memory) (dateNow : Nat) (req : ClientRequest)
    (server : BackendServer) : Prop where
  verified : verify env.platform env.secret dateNow req.authorization = true
  offers : m.config.Offers req.target server

section
variable {env : Setting}

theorem Conn.step_moved {m m' : Memory} {conn conn' : Conn} {e : ConnEvent} {new : List Conn}
    (h : conn.step env m e = some (m', conn', new)) :
    m.exitCode = none ∧ new = [] ∧
    ((∃ req pc pc', conn = .http req pc ∧ conn' = .http req pc' ∧ HttpStep env req m e pc m' pc') ∨
      ∃ req pc pc', conn = .upgrade req pc ∧ conn' = .upgrade req pc' ∧
        UpgradeStep env req m e pc m' pc') := by
  unfold Conn.step at h
  split at h
  · rename_i alive
    cases conn with
    | http req pc =>
      obtain ⟨⟨m'', pc'⟩, fires, eq⟩ := Option.map_eq_some_iff.mp h
      cases eq
      exact ⟨alive, rfl, .inl ⟨req, pc, pc', rfl, rfl, handleRequest_step fires⟩⟩
    | upgrade req pc =>
      obtain ⟨⟨m'', pc'⟩, fires, eq⟩ := Option.map_eq_some_iff.mp h
      cases eq
      exact ⟨alive, rfl, .inr ⟨req, pc, pc', rfl, rfl, handleUpgrade_step fires⟩⟩
  · cases h

/-- A connection is given a server once, by the answer of its rate limiter, and keeps it. -/
theorem Conn.step_contacted {m m' : Memory} {conn conn' : Conn} {e : ConnEvent} {new : List Conn}
    (h : conn.step env m e = some (m', conn', new)) {server : BackendServer}
    (contacted : conn'.contacted = some server) :
    conn'.request = conn.request ∧
      (conn.contacted = some server ∨ conn.contacted = none ∧
        ∃ dateNow, e = .consumed true dateNow ∧
          Authorised env m dateNow conn'.request server) := by
  obtain ⟨-, -, ⟨req, pc, pc', rfl, rfl, step⟩ | ⟨req, pc, pc', rfl, rfl, step⟩⟩ := step_moved h
  · refine ⟨rfl, ?_⟩
    cases step with
    | forward dateNow passes target moved routed =>
      cases contacted
      have offers := ParsedConfig.routeRequest_offers (congrArg Prod.fst routed)
      exact .inr ⟨rfl, dateNow, rfl, passes.verified, offers⟩
    | respond | streamed | broken | upload | gateway => exact .inl contacted
    | scrape | consume | scraped | limited | unauthorized | unrouted => cases contacted
  · refine ⟨rfl, ?_⟩
    cases step with
    | connect dateNow passes backend moved routed =>
      cases contacted
      have offers := ParsedConfig.routeRequest_offers (congrArg Prod.fst routed)
      exact .inr ⟨rfl, dateNow, rfl, passes.verified, offers⟩
    | connected | uncaught | closed => exact .inl contacted
    | consume | limited | unauthorized | unrouted => cases contacted

theorem accept_same {m m' : Memory} {x : Incoming} {conn : Conn}
    (h : accept m x = some (m', conn)) :
    m' = m ∧ ∃ req, conn = .http req .arrived ∨ conn = .upgrade req .arrived := by
  unfold accept at h
  split at h
  · cases x with
    | request req => cases h; exact ⟨rfl, req, .inl rfl⟩
    | upgrade req => cases h; exact ⟨rfl, req, .inr rfl⟩
  · cases h

/-- A connection that has reached a server had it before the step, or is given it by
the step. -/
theorem Worker.step_contacted {w w' : Worker} {a : WorkerAction}
    (h : Worker.step env w a = some w') {i : Nat} {conn : Conn} {server : BackendServer}
    (at_ : w'.threads[i]? = some conn) (contacted : conn.contacted = some server) :
    ∃ prev, w.threads[i]? = some prev ∧ conn.request = prev.request ∧
      (prev.contacted = some server ∨ prev.contacted = none ∧
        ∃ dateNow, a = .run i (.consumed true dateNow) ∧
          Authorised env w.shared dateNow conn.request server) := by
  rcases (Threads.Machine.next_moved h).origin at_ with old |
    ⟨prev, e, m', new, rfl, old, step, -⟩ | ⟨prev, e, m', other, new, -, step, started, -⟩ |
    ⟨x, m', -, entered, -⟩
  · exact ⟨conn, old, rfl, .inl contacted⟩
  · obtain ⟨same, had | ⟨idle, dateNow, rfl, authorised⟩⟩ := Conn.step_contacted step contacted
    · exact ⟨prev, old, same, .inl had⟩
    · exact ⟨prev, old, same, .inr ⟨idle, dateNow, rfl, authorised⟩⟩
  · rw [(Conn.step_moved step).2.1] at started
    cases started
  · obtain ⟨-, req, rfl | rfl⟩ := accept_same entered
    · cases contacted
    · cases contacted

/-- One step of a run has given this connection the server. Until then it waited for
its rate limiter, and at that moment it was authorised. -/
structure Contact (env : Setting) (i : Nat) (req : ClientRequest) (server : BackendServer)
    (dateNow : Nat) (before after : Worker) : Prop where
  step : Worker.step env before (.run i (.consumed true dateNow)) = some after
  waiting : ∃ conn, before.threads[i]? = some conn ∧ conn.request = req ∧ conn.contacted = none
  given : ∃ conn, after.threads[i]? = some conn ∧ conn.request = req ∧
    conn.contacted = some server
  authorised : Authorised env before.shared dateNow req server

/-- **Contacts.** Whatever has happened to a worker, a connection that has reached a
server was given it by one step of the run: then the header of its request verified,
and the router in force offered the server, healthy, for its url. -/
theorem contacts_authorised {start w : Worker} (fresh : start.threads = [])
    (run : Worker.Run env start w) {i : Nat} {conn : Conn} {server : BackendServer}
    (at_ : w.threads[i]? = some conn) (contacted : conn.contacted = some server) :
    ∃ before dateNow after, Worker.Run env start before ∧
      Contact env i conn.request server dateNow before after ∧ Worker.Run env after w := by
  induction run generalizing conn with
  | refl => simp [fresh] at at_
  | @tail u v reached last ih =>
    obtain ⟨a, ok, step⟩ := last
    obtain ⟨prev, old, same, had | ⟨idle, dateNow, rfl, authorised⟩⟩ :=
      Worker.step_contacted step at_ contacted
    · obtain ⟨before, dateNow, after, until_, contact, since⟩ := ih old had
      exact ⟨before, dateNow, after, until_, same ▸ contact, since.snoc ok step⟩
    · exact ⟨u, dateNow, v, reached, ⟨step, ⟨prev, old, same.symm, idle⟩,
        ⟨conn, at_, rfl, contacted⟩, authorised⟩, .refl⟩

end

/-- A worker with the key `k`, asked with a token of empty claims. -/
def sampleSetting : Setting where
  platform := {
    hmac := fun _ _ => js "U2HnhEsqIJ2joZZVwxmVt6h2cgNNje9sFTHzPTW3q9M"
    decode := fun _ => some (.object [])
    toNumber := fun _ => .ok none }
  secret := js "k"
  parse := fun _ => .ok (some doubled)
  filePath := js "torus.yaml"

def sampleRequest : ClientRequest where
  method := some (js "GET")
  url := some (js "/x")
  httpVersion := js "1.1"
  headers := OrderedMap.empty.set (js "authorization")
    (js "Bearer e30.e30.U2HnhEsqIJ2joZZVwxmVt6h2cgNNje9sFTHzPTW3q9M")
  rawHeaders := []
  remoteAddress := some (js "10.0.0.1")

def sampleConfig : ParsedConfig :=
  match buildRouterFromConfig sampleSetting.parse sampleSetting.filePath 0 (.content []) with
  | .ok config => config
  | .error _ => ⟨.new, 8080, [], [], 0⟩

def sampleWorker : Worker := ⟨.boot sampleConfig, []⟩

theorem sampleWorker_booted : Worker.Booted sampleSetting (.content []) sampleWorker :=
  .boot sampleConfig rfl

theorem contacts_authorised_once :
    ∃ before after w conn server dateNow, Worker.Run sampleSetting sampleWorker before ∧
      Contact sampleSetting 0 conn.request server dateNow before after ∧
      Worker.Run sampleSetting after w ∧ w.threads[0]? = some conn ∧
      conn.contacted = some server := by
  obtain ⟨w, run, one⟩ := Exec.exists_run_of_execWhile (Worker.step sampleSetting) (fun _ _ => True)
    sampleWorker [.call (.request sampleRequest), .run 0 .turn, .run 0 (.consumed true 0),
      .env (.reload (.content []))]
    (fun w => (w.threads[0]?.bind Conn.contacted).isSome = true) rfl
  obtain ⟨server, found⟩ := Option.isSome_iff_exists.mp one
  obtain ⟨conn, at_, contacted⟩ := Option.bind_eq_some_iff.mp found
  obtain ⟨before, dateNow, after, until_, contact, since⟩ :=
    contacts_authorised rfl run at_ contacted
  exact ⟨before, after, w, conn, server, dateNow, until_, contact, since, at_, contacted⟩

/-! ## The metrics -/

/-- The label under which the duration of a request was observed. -/
def Conn.timed : Conn → Option (JSString × Nat)
  | .http req (.forwarding _ _ _ (.streamed status)) => some (req.verb, status)
  | .http req (.forwarding _ _ _ .broken) => some (req.verb, 502)
  | _ => none

/-- The label under which a request was counted: the refusals of the rate limiter
are counted too, other refusals and failed uploads are not. -/
def Conn.counted : Conn → Option (JSString × Nat)
  | .http req (.ended 429) => some (req.verb, 429)
  | conn => conn.timed

def Conn.countsFor (label : JSString × Nat) (conn : Conn) : Nat :=
  if conn.counted = some label then 1 else 0

def Conn.timesFor (label : JSString × Nat) (conn : Conn) : Nat :=
  if conn.timed = some label then 1 else 0

def Conn.tunnels : Conn → Nat
  | .upgrade _ (.tunnel _ _) => 1
  | _ => 0

def Conn.upgraded : Conn → Nat
  | .upgrade _ (.tunnel _ _) | .upgrade _ (.closed _) => 1
  | _ => 0

def Conn.unauthorized : Conn → Nat
  | .upgrade _ (.refused 401) => 1
  | _ => 0

/-- The metrics are what the connections account for. -/
structure Accounted (m : NodeMetrics) (conns : List Conn) : Prop where
  counted : ∀ label, m.requestCounter label = Threads.total (Conn.countsFor label) conns
  timed : ∀ label, m.requestDurations label = Threads.total (Conn.timesFor label) conns
  active : m.activeWebSockets = Threads.total Conn.tunnels conns
  upgraded : m.upgradesSuccess = Threads.total Conn.upgraded conns
  unauthorized : m.upgradesUnauthorized = Threads.total Conn.unauthorized conns

/-- How far a step moves the metrics, and the account of its connection. -/
structure Balanced (m m' : NodeMetrics) (conn conn' : Conn) : Prop where
  counted : ∀ label, m'.requestCounter label + conn.countsFor label =
    m.requestCounter label + conn'.countsFor label
  timed : ∀ label, m'.requestDurations label + conn.timesFor label =
    m.requestDurations label + conn'.timesFor label
  active : m'.activeWebSockets + conn.tunnels = m.activeWebSockets + conn'.tunnels
  upgraded : m'.upgradesSuccess + conn.upgraded = m.upgradesSuccess + conn'.upgraded
  unauthorized : m'.upgradesUnauthorized + conn.unauthorized =
    m.upgradesUnauthorized + conn'.unauthorized

theorem bump (f : JSString × Nat → Nat) (label other : JSString × Nat) :
    Function.update f label (f label + 1) other =
      f other + if some label = some other then 1 else 0 := by
  rw [Function.update_apply]
  by_cases same : other = label
  · simp [same]
  · simp [same, Ne.symm same]

section
variable {env : Setting}

theorem HttpStep.balanced {req : ClientRequest} {m m' : Memory} {e : ConnEvent} {pc pc' : HttpPC}
    (h : HttpStep env req m e pc m' pc') :
    Balanced m.metrics m'.metrics (.http req pc) (.http req pc') := by
  cases h with
  | limited =>
    refine ⟨fun label => ?_, fun _ => rfl, rfl, rfl, rfl⟩
    exact bump m.metrics.requestCounter (req.verb, 429) label
  | streamed server options upload status =>
    refine ⟨fun label => ?_, fun label => ?_, rfl, rfl, rfl⟩
    · exact bump m.metrics.requestCounter (req.verb, status) label
    · exact bump m.metrics.requestDurations (req.verb, status) label
  | broken server options upload status =>
    refine ⟨fun label => ?_, fun label => ?_, rfl, rfl, rfl⟩
    · exact bump m.metrics.requestCounter (req.verb, 502) label
    · exact bump m.metrics.requestDurations (req.verb, 502) label
  | upload server options upload' reply =>
    cases reply <;> exact ⟨fun _ => rfl, fun _ => rfl, rfl, rfl, rfl⟩
  | scrape | consume | scraped | unauthorized | unrouted | forward | respond | gateway =>
    exact ⟨fun _ => rfl, fun _ => rfl, rfl, rfl, rfl⟩

theorem UpgradeStep.balanced {req : ClientRequest} {m m' : Memory} {e : ConnEvent}
    {pc pc' : UpgradePC} (h : UpgradeStep env req m e pc m' pc') :
    Balanced m.metrics m'.metrics (.upgrade req pc) (.upgrade req pc') := by
  cases h with
  | connected | closed =>
    exact ⟨fun _ => rfl, fun _ => rfl, by simp [Conn.tunnels, Memory.setMetrics], rfl, rfl⟩
  | consume | limited | unauthorized | unrouted | connect | uncaught =>
    exact ⟨fun _ => rfl, fun _ => rfl, rfl, rfl, rfl⟩

theorem Conn.step_balanced {m m' : Memory} {conn conn' : Conn} {e : ConnEvent} {new : List Conn}
    (h : conn.step env m e = some (m', conn', new)) :
    Balanced m.metrics m'.metrics conn conn' := by
  obtain ⟨-, -, ⟨req, pc, pc', rfl, rfl, step⟩ | ⟨req, pc, pc', rfl, rfl, step⟩⟩ := step_moved h
  · exact step.balanced
  · exact step.balanced

theorem Memory.outside_metrics {m m' : Memory} {x : Outside} (h : m.outside env x = some m') :
    m'.metrics = m.metrics := by
  unfold outside at h
  split at h
  · cases x with
    | tick timer =>
      obtain ⟨i, -, rfl⟩ := Option.map_eq_some_iff.mp h
      rfl
    | pinged ping e =>
      simp only [pinged] at h
      split at h <;> cases h
      rfl
    | reload file =>
      cases h
      unfold reloadConfig
      split
      · rfl
      · simp only [startChecker, stopChecker]
        split <;> rfl
    | teardown => cases h; rfl
  · cases h

/-- One metric, kept in step with the weight of every connection. -/
theorem account_step {w w' : Worker} {a : WorkerAction} (h : Worker.step env w a = some w')
    (g : Conn → Nat) (c : NodeMetrics → Int) (inv : c w.shared.metrics = Threads.total g w.threads)
    (arrived : ∀ req, g (.http req .arrived) = 0 ∧ g (.upgrade req .arrived) = 0)
    (balanced : ∀ m m' conn conn', Balanced m m' conn conn' → c m' + g conn = c m + g conn') :
    c w'.shared.metrics = Threads.total g w'.threads := by
  refine (Threads.Machine.next_moved h).balance g (c ·.metrics) inv ?_ ?_ ?_
  · intro conn e m conn' new _ step
    obtain ⟨-, rfl, -⟩ := Conn.step_moved step
    rw [balanced _ _ _ _ (Conn.step_balanced step), Threads.total_nil, Nat.cast_zero, add_zero]
  · intro x m conn entered
    obtain ⟨rfl, req, rfl | rfl⟩ := accept_same entered
    · rw [(arrived req).1, Nat.cast_zero, add_zero]
    · rw [(arrived req).2, Nat.cast_zero, add_zero]
  · intro x m changed
    rw [Memory.outside_metrics changed]

theorem accounted_step {w w' : Worker} {a : WorkerAction}
    (h : Worker.step env w a = some w') (inv : Accounted w.shared.metrics w.threads) :
    Accounted w'.shared.metrics w'.threads := by
  constructor
  · intro label
    have same := account_step h (Conn.countsFor label) (·.requestCounter label)
      (by exact_mod_cast inv.counted label) (fun _ => ⟨rfl, rfl⟩)
      fun _ _ _ _ balanced => by exact_mod_cast balanced.counted label
    exact_mod_cast same
  · intro label
    have same := account_step h (Conn.timesFor label) (·.requestDurations label)
      (by exact_mod_cast inv.timed label) (fun _ => ⟨rfl, rfl⟩)
      fun _ _ _ _ balanced => by exact_mod_cast balanced.timed label
    exact_mod_cast same
  · exact account_step h Conn.tunnels (·.activeWebSockets) inv.active (fun _ => ⟨rfl, rfl⟩)
      fun _ _ _ _ balanced => balanced.active
  · have same := account_step h Conn.upgraded (·.upgradesSuccess)
      (by exact_mod_cast inv.upgraded) (fun _ => ⟨rfl, rfl⟩)
      fun _ _ _ _ balanced => by exact_mod_cast balanced.upgraded
    exact_mod_cast same
  · have same := account_step h Conn.unauthorized (·.upgradesUnauthorized)
      (by exact_mod_cast inv.unauthorized) (fun _ => ⟨rfl, rfl⟩)
      fun _ _ _ _ balanced => by exact_mod_cast balanced.unauthorized
    exact_mod_cast same

/-- **Metrics.** In every state a worker reaches the counters and the gauge are
the numbers of its connections in the states they stand for: under each label the
requests refused by the limiter and those whose reply was streamed or broke, the
tunnels that are open, the upgrades that ever opened one, those refused with 401. -/
theorem worker_metrics_accounted {file : ConfigFile} {start w : Worker}
    (booted : Worker.Booted env file start) (run : Worker.Run env start w) :
    Accounted w.shared.metrics w.threads := by
  refine run.invariant (fun w => Accounted w.shared.metrics w.threads) ?_ ?_
  · cases booted
    exact ⟨fun _ => rfl, fun _ => rfl, rfl, rfl, rfl⟩
  · intro a u v _ inv _ step
    exact accounted_step step inv

/-- A request the rate limiter refuses. -/
theorem worker_metrics_accounted_refused :
    ∃ w : Worker, Accounted w.shared.metrics w.threads ∧
      w.shared.metrics.requestCounter (js "GET", 429) = 1 := by
  obtain ⟨w, run, one⟩ := Exec.exists_run_of_execWhile (Worker.step sampleSetting) (fun _ _ => True)
    sampleWorker [.call (.request sampleRequest), .run 0 .turn, .run 0 (.consumed false 0)]
    (fun w => w.shared.metrics.requestCounter (js "GET", 429) = 1) rfl
  exact ⟨w, worker_metrics_accounted sampleWorker_booted run, one⟩

end

end TorusProxy.Node

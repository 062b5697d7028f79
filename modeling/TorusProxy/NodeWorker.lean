import TorusProxy.Lib.Exec
import TorusProxy.Lib.Threads
import TorusProxy.NodeAuth

/-! A worker process of the Node server: its requests and upgrades, its health
checker, the hot swap of its routing state and its teardown. One step is what
the event loop does without waiting: an `await` or a callback ends it. -/
namespace TorusProxy.Node

/-! ## Teardown -/

inductive TeardownTask
  | closeServer
  | stopHealthChecker (timer : Nat)
  deriving DecidableEq, Repr

structure Lifecycle where
  tasks : List TeardownTask
  isShuttingDown : Bool
  deriving DecidableEq, Repr

namespace Lifecycle

def new : Lifecycle := ⟨[], false⟩

/-- `this.tasks.push()`: the task is not among the arguments. -/
def onShutdown (l : Lifecycle) (_ : TeardownTask) : Lifecycle := { l with tasks := l.tasks ++ [] }

/-- The exit code of the process, unless a teardown is under way already. Each
task is awaited as a value and not called, so the drain is over at once. -/
def executeTeardown (l : Lifecycle) : Option Nat × Lifecycle :=
  if l.isShuttingDown then (none, l) else (some 0, { l with isShuttingDown := true })

end Lifecycle

/-! ## Health -/

structure HealthChecker where
  servers : List BackendServer
  timerId : Option Nat
  deriving DecidableEq, Repr

/-- The constructor. A set keeps one of each instance. -/
def HealthChecker.new (servers : List BackendServer) : HealthChecker := ⟨servers.dedup, none⟩

/-- What the socket of a ping reports first; it is destroyed then. -/
inductive PingEvent
  | connect
  | timeout
  | error
  deriving DecidableEq, Repr

/-- A ping under way, with the interval that started it. -/
structure Ping where
  timer : Nat
  server : BackendServer
  deriving DecidableEq, Repr

/-! ## Metrics -/

structure NodeMetrics where
  /-- `torus_http_requests_total`, by method and status. -/
  requestCounter : JSString × Nat → Nat
  /-- The number of observations in `torus_http_request_duration_seconds`. -/
  requestDurations : JSString × Nat → Nat
  activeWebSockets : Int
  /-- `torus_ws_upgrades_total` with the status `success`, -/
  upgradesSuccess : Nat
  /-- and with `rejected_unauthorized`. -/
  upgradesUnauthorized : Nat

namespace NodeMetrics

def new : NodeMetrics := ⟨fun _ => 0, fun _ => 0, 0, 0, 0⟩

def countRequest (label : JSString × Nat) (m : NodeMetrics) : NodeMetrics :=
  { m with requestCounter :=
      Function.update m.requestCounter label (m.requestCounter label + 1) }

/-- `endTimer`. -/
def observeDuration (label : JSString × Nat) (m : NodeMetrics) : NodeMetrics :=
  { m with requestDurations :=
      Function.update m.requestDurations label (m.requestDurations label + 1) }

end NodeMetrics

/-! ## The memory of the process -/

/-- A live timer of `setInterval` and the servers its callback goes through. -/
structure Interval where
  timer : Nat
  servers : List BackendServer
  deriving DecidableEq, Repr

structure Memory where
  /-- The router of the proxy, with the pools of every upstream. -/
  config : ParsedConfig
  /-- The variable `healthChecker`. -/
  healthChecker : HealthChecker
  intervals : List Interval
  nextTimer : Nat
  pings : List Ping
  lifecycle : Lifecycle
  metrics : NodeMetrics
  exitCode : Option Nat

namespace ParsedConfig

/-- `routeRequest`: the router's choice of a pool, and the pool's of a server. -/
def routeRequest (c : ParsedConfig) (url : JSString) : Option BackendServer × ParsedConfig :=
  match c.router.selectedPool url with
  | none => (none, c)
  | some k =>
    match c.pools[k]? with
    | none => (none, c)
    | some pool =>
      let (server, moved) := pool.getServerForRequest
      (server, { c with pools := c.pools.set k moved })

/-- A mark goes to one instance, and every pool that has it sees it. -/
def mapPools (f : BackendPool BackendServer → BackendPool BackendServer) (c : ParsedConfig) :
    ParsedConfig :=
  { c with pools := c.pools.map f }

end ParsedConfig

namespace Memory

/-- `healthChecker.start()`. -/
def startChecker (m : Memory) : Memory :=
  { m with
    healthChecker := { m.healthChecker with timerId := some m.nextTimer }
    intervals := m.intervals ++ [⟨m.nextTimer, m.healthChecker.servers⟩]
    nextTimer := m.nextTimer + 1
    lifecycle := m.lifecycle.onShutdown (.stopHealthChecker m.nextTimer) }

/-- `healthChecker.stop()`. -/
def stopChecker (m : Memory) : Memory :=
  match m.healthChecker.timerId with
  | none => m
  | some timer => { m with intervals := m.intervals.filter (·.timer ≠ timer) }

/-- The listener of `RELOAD_CONFIG`: the new routing state, unless building it throws. -/
def reloadConfig (parse : JSString → Except JSString (Option ConfigStructure))
    (filePath : JSString) (file : ConfigFile) (m : Memory) : Memory :=
  match buildRouterFromConfig parse filePath m.config.next file with
  | .error _ => m
  | .ok newConfig =>
    let stopped := m.stopChecker
    let started := { stopped with healthChecker := .new newConfig.servers }.startChecker
    { started with config := newConfig }

/-- The boot of a worker, up to `proxy.listen`. -/
def boot (config : ParsedConfig) : Memory :=
  let m : Memory := {
    config := config
    healthChecker := .new config.servers
    intervals := []
    nextTimer := 0
    pings := []
    lifecycle := .new
    metrics := .new
    exitCode := none }
  let started := m.startChecker
  { started with lifecycle := started.lifecycle.onShutdown .closeServer }

/-- The callback of an interval pings each of its servers. -/
def tick (timer : Nat) (m : Memory) : Option Memory :=
  (m.intervals.find? (·.timer = timer)).map fun i =>
    { m with pings := m.pings ++ i.servers.map (⟨timer, ·⟩) }

/-- The first event of a ping's socket. The tests for the state the server is in
spare a log line; marking it again changes nothing. -/
def pinged (ping : Ping) (e : PingEvent) (m : Memory) : Option Memory :=
  if ping ∈ m.pings then
    let marked := match e with
      | .connect => m.config.mapPools (·.markAlive ping.server)
      | .timeout | .error => m.config.mapPools (·.markDead ping.server)
    some { m with pings := m.pings.erase ping, config := marked }
  else none

def executeTeardown (m : Memory) : Memory :=
  let (code, lifecycle) := m.lifecycle.executeTeardown
  { m with lifecycle := lifecycle, exitCode := code.or m.exitCode }

def setMetrics (f : NodeMetrics → NodeMetrics) (m : Memory) : Memory :=
  { m with metrics := f m.metrics }

end Memory

/-! ## Requests -/

structure ClientRequest where
  method : Option JSString
  url : Option JSString
  httpVersion : JSString
  headers : OrderedMap JSString JSString
  rawHeaders : List (JSString × JSString)
  remoteAddress : Option JSString

/-- `||` on strings: the default also takes the place of an empty string. -/
def orDefault (s : Option JSString) (default : JSString) : JSString :=
  if s.getD [] = [] then default else s.getD []

/-- A string in a template. -/
def template (s : Option JSString) : JSString := s.getD (js "undefined")

namespace ClientRequest

def target (req : ClientRequest) : JSString := orDefault req.url (js "/")

def verb (req : ClientRequest) : JSString := orDefault req.method (js "GET")

def authorization (req : ClientRequest) : Option JSString := req.headers.get (js "authorization")

end ClientRequest

/-- The options of `http.request`. -/
structure OutboundRequest where
  hostname : JSString
  port : Nat
  path : JSString
  method : Option JSString
  headers : OrderedMap JSString JSString

def outboundRequest (req : ClientRequest) (targetServer : BackendServer) : OutboundRequest where
  hostname := targetServer.host
  port := targetServer.port
  path := req.target
  method := req.method
  headers :=
    (req.headers.set (js "x-forwarded-for") (orDefault req.remoteAddress [])).set
      (js "x-forwarded-proto") (js "https")

/-- What is written to a backend to upgrade its connection. -/
def upgradeHeaders (req : ClientRequest) : JSString :=
  template req.method ++ js " " ++ template req.url ++ js " HTTP/" ++ req.httpVersion ++
    [13, 10] ++ req.rawHeaders.flatMap (fun h => h.1 ++ js ": " ++ h.2 ++ [13, 10]) ++ [13, 10]

/-- The pipeline from the client to the backend. -/
inductive Upload
  | flowing
  | finished
  | failed
  deriving DecidableEq, Repr

/-- The backend's answer, on its way to the client. -/
inductive Reply
  | awaited
  | streaming (status : Nat)
  | streamed (status : Nat)
  /-- The stream broke: the client's socket is destroyed. -/
  | broken
  /-- The upload failed first: the client was sent a 502. -/
  | gatewayError
  deriving DecidableEq, Repr

inductive HttpPC
  | arrived
  | scraping
  | consuming
  | forwarding (targetServer : BackendServer) (options : OutboundRequest) (upload : Upload)
      (reply : Reply)
  | ended (status : Nat)

inductive UpgradePC
  | arrived
  | consuming
  | connecting (backend : BackendServer)
  | tunnel (backend : BackendServer) (sent : JSString)
  | closed (backend : BackendServer)
  | refused (status : Nat)

inductive Conn
  | http (req : ClientRequest) (pc : HttpPC)
  | upgrade (req : ClientRequest) (pc : UpgradePC)

/-- What the event loop brings to a connection. -/
inductive ConnEvent
  | turn
  /-- The answer of the rate limiter, and the time `verify` reads. -/
  | consumed (isAllowed : Bool) (dateNow : Nat)
  | response (statusCode : Nat)
  | streamed
  | broken
  | uploaded
  | uploadFailed
  | connected
  | connectFailed
  | closed

section
variable (platform : Platform) (secret : JSString)

/-- `handleRequest` after the rate limiter has answered, up to both pipelines. -/
def serveRequest (req : ClientRequest) (isAllowed : Bool) (dateNow : Nat) (m : Memory) :
    Memory × HttpPC :=
  if isAllowed then
    if verify platform secret dateNow req.authorization then
      match m.config.routeRequest req.target with
      | (none, moved) => ({ m with config := moved }, .ended 502)
      | (some targetServer, moved) =>
        ({ m with config := moved },
          .forwarding targetServer (outboundRequest req targetServer) .flowing .awaited)
    else (m, .ended 401)
  else (m.setMetrics (.countRequest (req.verb, 429)), .ended 429)

def handleRequest (req : ClientRequest) (m : Memory) (e : ConnEvent) :
    HttpPC → Option (Memory × HttpPC)
  | .arrived =>
    some (m, if req.target = js "/metrics" ∧ req.verb = js "GET" then .scraping else .consuming)
  | .scraping => some (m, .ended 200)
  | .consuming =>
    match e with
    | .consumed isAllowed dateNow => some (serveRequest platform secret req isAllowed dateNow m)
    | _ => none
  | .forwarding targetServer options upload reply =>
    let at_ := HttpPC.forwarding targetServer options
    match e, upload, reply with
    | .response statusCode, .flowing, .awaited | .response statusCode, .finished, .awaited =>
      some (m, at_ upload (.streaming (if statusCode = 0 then 200 else statusCode)))
    | .streamed, _, .streaming status =>
      let label := (req.verb, status)
      some (m.setMetrics (.observeDuration label ∘ .countRequest label),
        at_ upload (.streamed status))
    | .broken, _, .streaming _ =>
      let label := (req.verb, 502)
      some (m.setMetrics (.observeDuration label ∘ .countRequest label), at_ upload .broken)
    | .uploaded, .flowing, _ => some (m, at_ .finished reply)
    -- headers that are sent already cannot be replaced by a 502
    | .uploadFailed, .flowing, .awaited => some (m, at_ .failed .gatewayError)
    | .uploadFailed, .flowing, _ => some (m, at_ .failed reply)
    | _, _, _ => none
  | .ended _ => none

/-- `handleUpgrade` after the rate limiter has answered, up to the connection. -/
def serveUpgrade (req : ClientRequest) (isAllowed : Bool) (dateNow : Nat) (m : Memory) :
    Memory × UpgradePC :=
  if isAllowed then
    if verify platform secret dateNow req.authorization then
      match m.config.routeRequest req.target with
      | (none, moved) => ({ m with config := moved }, .refused 404)
      | (some backend, moved) => ({ m with config := moved }, .connecting backend)
    else
      (m.setMetrics fun x => { x with upgradesUnauthorized := x.upgradesUnauthorized + 1 },
        .refused 401)
  else (m, .refused 429)

def handleUpgrade (req : ClientRequest) (m : Memory) (e : ConnEvent) :
    UpgradePC → Option (Memory × UpgradePC)
  | .arrived => some (m, .consuming)
  | .consuming =>
    match e with
    | .consumed isAllowed dateNow => some (serveUpgrade platform secret req isAllowed dateNow m)
    | _ => none
  | .connecting backend =>
    match e with
    | .connected =>
      some (m.setMetrics fun x =>
        { x with
          upgradesSuccess := x.upgradesSuccess + 1
          activeWebSockets := x.activeWebSockets + 1 }, .tunnel backend (upgradeHeaders req))
    -- no one listens for the error of this socket: it is uncaught and ends the process
    | .connectFailed => some ({ m with exitCode := some 1 }, .connecting backend)
    | _ => none
  | .tunnel backend _ =>
    match e with
    | .closed =>
      some (m.setMetrics fun x => { x with activeWebSockets := x.activeWebSockets - 1 },
        .closed backend)
    | _ => none
  | .closed _ | .refused _ => none

end

/-! ## The process -/

inductive Incoming
  | request (req : ClientRequest)
  | upgrade (req : ClientRequest)

/-- What happens to the process beside its connections. -/
inductive Outside
  | tick (timer : Nat)
  | pinged (ping : Ping) (e : PingEvent)
  | reload (file : ConfigFile)
  | teardown

/-- What a worker is started with. -/
structure Setting where
  platform : Platform
  secret : JSString
  parse : JSString → Except JSString (Option ConfigStructure)
  filePath : JSString

def Conn.step (env : Setting) (m : Memory) (conn : Conn) (e : ConnEvent) :
    Option (Memory × Conn × List Conn) :=
  if m.exitCode = none then
    match conn with
    | .http req pc =>
      (handleRequest env.platform env.secret req m e pc).map
        fun (m', pc') => (m', .http req pc', [])
    | .upgrade req pc =>
      (handleUpgrade env.platform env.secret req m e pc).map
        fun (m', pc') => (m', .upgrade req pc', [])
  else none

def accept (m : Memory) (x : Incoming) : Option (Memory × Conn) :=
  if m.exitCode = none then
    match x with
    | .request req => some (m, .http req .arrived)
    | .upgrade req => some (m, .upgrade req .arrived)
  else none

def Memory.outside (env : Setting) (m : Memory) (x : Outside) : Option Memory :=
  if m.exitCode = none then
    match x with
    | .tick timer => m.tick timer
    | .pinged ping e => m.pinged ping e
    | .reload file => some (m.reloadConfig env.parse env.filePath file)
    | .teardown => some m.executeTeardown
  else none

abbrev workerMachine (env : Setting) : Threads.Machine Memory Conn ConnEvent Incoming Outside where
  step := Conn.step env
  enter := accept
  change := Memory.outside env

abbrev Worker := Threads.World Memory Conn

abbrev WorkerAction := Threads.Action ConnEvent Incoming Outside

abbrev Worker.step (env : Setting) : Worker → WorkerAction → Option Worker :=
  (workerMachine env).next

/-- Runs in which anything may come in any order. -/
abbrev Worker.Run (env : Setting) : Worker → Worker → Prop :=
  Exec.Run (Worker.step env) fun _ _ => True

/-- A worker that has booted from this file and listens. -/
inductive Worker.Booted (env : Setting) (file : ConfigFile) : Worker → Prop
  | boot (config : ParsedConfig)
      (built : buildRouterFromConfig env.parse env.filePath 0 file = .ok config) :
      Booted env file ⟨.boot config, []⟩

end TorusProxy.Node

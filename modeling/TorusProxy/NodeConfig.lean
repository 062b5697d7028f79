import TorusProxy.Lib.OrderedMap
import TorusProxy.NodePool

/-! The routing table of the Node server: `Router` and `buildRouterFromConfig`,
which makes the pools, the servers and the routes of a configuration file. -/
namespace TorusProxy.Node

/-- A string as JavaScript has it, by its UTF-16 code units. -/
abbrev JSString := List UInt16

/-- A text of the source; these have no characters outside the basic plane. -/
def js (text : String) : JSString := text.toList.map fun c => c.toNat.toUInt16

/-! ## The router -/

/-- A pool is known by its place among the pools of the process. -/
structure Router where
  routes : OrderedMap JSString Nat

namespace Router

def new : Router := ⟨.empty⟩

def addRoute (router : Router) (path : JSString) (pool : Nat) : Router :=
  ⟨router.routes.set path pool⟩

/-- The body of the loop in `routeRequest`: the best path so far and its pool. -/
def better (url : JSString) (best : JSString × Option Nat) (route : JSString × Nat) :
    JSString × Option Nat :=
  if route.1.isPrefixOf url ∧ route.1.length > best.1.length then (route.1, some route.2) else best

/-- The pool that `routeRequest` asks. -/
def selectedPool (router : Router) (url : JSString) : Option Nat :=
  (router.routes.entries.foldl (better url) ([], none)).2

end Router

/-! ## The configuration file -/

structure ServerConfig where
  host : JSString
  port : Nat
  deriving DecidableEq, Repr

structure UpstreamConfig where
  name : JSString
  servers : List ServerConfig
  deriving DecidableEq, Repr

structure RouteConfig where
  path : JSString
  upstream : JSString
  deriving DecidableEq, Repr

/-- `ConfigStructure`. What the code looks for before it uses it may be missing;
for `server` that is the section or the port in it. -/
structure ConfigStructure where
  port : Option Nat
  routes : Option (List RouteConfig)
  upstreams : Option (List UpstreamConfig)
  deriving DecidableEq, Repr

inductive ConfigFile
  | missing
  | unreadable (err : JSString)
  | content (text : JSString)
  deriving DecidableEq, Repr

/-- An instance of `BackendServer`. Two of one address are two objects, told
apart by the order in which the process made them. -/
structure BackendServer where
  id : Nat
  host : JSString
  port : Nat
  deriving DecidableEq, Repr

/-- What `buildRouterFromConfig` returns, with the pools of every upstream, whether a
route leads to it or not, and the number of the next server to be made. -/
structure ParsedConfig where
  router : Router
  port : Nat
  servers : List BackendServer
  pools : List (BackendPool BackendServer)
  next : Nat

/-- Between the loops: the pools made so far, the map from names to them, every
server instance. -/
structure Build where
  pools : List (BackendPool BackendServer)
  named : OrderedMap JSString Nat
  allServers : List BackendServer
  next : Nat

namespace Build

/-- The body of the inner loop, with the pool it fills. -/
def addServer (b : BackendPool BackendServer × Build) (config : ServerConfig) :
    BackendPool BackendServer × Build :=
  let server : BackendServer := ⟨b.2.next, config.host, config.port⟩
  (b.1.addServer server,
    { b.2 with allServers := b.2.allServers ++ [server], next := b.2.next + 1 })

def addUpstream (b : Build) (upstream : UpstreamConfig) : Build :=
  let filled := upstream.servers.foldl addServer (.new, b)
  { filled.2 with
    pools := filled.2.pools ++ [filled.1]
    named := filled.2.named.set upstream.name filled.2.pools.length }

def undefinedUpstream (route : RouteConfig) : JSString :=
  js "[Fatal] Route " ++ route.path ++ js " points to an undefined upstream: " ++ route.upstream

/-- The loop over the routes, from the routes mapped so far. -/
def mapRoutes (b : Build) : Router → List RouteConfig → Except JSString Router
  | router, [] => .ok router
  | router, route :: routes =>
    match b.named.get route.upstream with
    | none => .error (undefinedUpstream route)
    | some pool => b.mapRoutes (router.addRoute route.path pool) routes

end Build

section
variable (parse : JSString → Except JSString (Option ConfigStructure)) (filePath : JSString)

/-- `yaml.parse` is `parse`; it gives null for an empty document. -/
def buildRouterFromConfig (next : Nat) : ConfigFile → Except JSString ParsedConfig
  | .missing => .error (js "[Fatal] Configuration file not found at " ++ filePath)
  | .unreadable err => .error err
  | .content text => do
    match ← parse text with
    | none => .error (js "Cannot read properties of null (reading 'upstreams')")
    | some config =>
      match config.upstreams, config.routes with
      | some upstreams, some routes =>
        let built := upstreams.foldl Build.addUpstream ⟨[], .empty, [], next⟩
        let router ← built.mapRoutes .new routes
        .ok {
          router := router
          -- `||` takes the default for port 0 too
          port := match config.port with
            | some (port + 1) => port + 1
            | _ => 8080
          servers := built.allServers
          pools := built.pools
          next := built.next }
      | _, _ =>
        .error (js "[Fatal] Invalid configuration: Missing routes or upstreams definition.")

end

/-! ## Which pool a request goes to -/

/-- What the loop of `routeRequest` has found among the routes of `seen`. -/
structure Best (url : JSString) (seen : List (JSString × Nat)) (best : JSString × Option Nat) :
    Prop where
  origin : best = ([], none) ∨
    ∃ pool, best.2 = some pool ∧ best.1 ≠ [] ∧ best.1 <+: url ∧ (best.1, pool) ∈ seen
  longest : ∀ route ∈ seen, route.1 <+: url → route.1.length ≤ best.1.length

theorem Router.foldl_better (url : JSString) (routes : List (JSString × Nat)) :
    Best url routes (routes.foldl (better url) ([], none)) := by
  induction routes using List.reverseRecOn with
  | nil => exact ⟨.inl rfl, by simp⟩
  | append_singleton routes route ih =>
    rw [List.foldl_append, List.foldl_cons, List.foldl_nil]
    generalize routes.foldl (better url) ([], none) = best at ih
    unfold better
    split
    · rename_i hit
      obtain ⟨leads, longer⟩ := hit
      refine ⟨.inr ⟨route.2, rfl, ?_, List.isPrefixOf_iff_prefix.mp leads, by simp⟩, ?_⟩
      · exact List.ne_nil_of_length_pos (Nat.lt_of_le_of_lt (Nat.zero_le _) longer)
      · intro other mem leads'
        rcases List.mem_append.mp mem with mem | mem
        · exact Nat.le_of_lt (Nat.lt_of_le_of_lt (ih.longest other mem leads') longer)
        · exact Nat.le_of_eq (by rw [List.mem_singleton.mp mem])
    · rename_i miss
      refine ⟨?_, ?_⟩
      · rcases ih.origin with same | ⟨pool, found, some, leads, mem⟩
        · exact .inl same
        · exact .inr ⟨pool, found, some, leads, List.mem_append_left _ mem⟩
      · intro other mem leads'
        rcases List.mem_append.mp mem with mem | mem
        · exact ih.longest other mem leads'
        · rw [List.mem_singleton.mp mem] at leads' ⊢
          exact Nat.not_lt.mp fun longer =>
            miss ⟨List.isPrefixOf_iff_prefix.mpr leads', longer⟩

/-- The longest path that leads the url decides; a path that is empty never does. -/
theorem Router.selectedPool_eq_some {router : Router} {url : JSString} {pool : Nat} :
    router.selectedPool url = some pool ↔
      ∃ path, path ≠ [] ∧ path <+: url ∧ router.routes.get path = some pool ∧
        ∀ route ∈ router.routes.entries, route.1 <+: url → route.1.length ≤ path.length := by
  have best := foldl_better url router.routes.entries
  unfold selectedPool
  generalize router.routes.entries.foldl (better url) ([], none) = found at best
  constructor
  · intro here
    rcases best.origin with rfl | ⟨pool', there, some, leads, mem⟩
    · cases here
    · obtain rfl : pool' = pool := Option.some.inj (there.symm.trans here)
      exact ⟨found.1, some, leads, (OrderedMap.get_eq_some _).mpr mem, best.longest⟩
  · rintro ⟨path, some, leads, registered, longest⟩
    have mem := (OrderedMap.get_eq_some _).mp registered
    have below := best.longest _ mem leads
    rcases best.origin with rfl | ⟨pool', there, _, leads', mem'⟩
    · exact absurd (List.length_eq_zero_iff.mp (Nat.le_zero.mp below)) some
    · -- of one length and both leading the url, the two paths are one
      have above := longest _ mem' leads'
      have same := (List.prefix_of_prefix_length_le leads leads' below).eq_of_length_le above
      rw [← same] at mem'
      rw [there, OrderedMap.eq_of_key router.routes.distinct mem mem']

/-! ## What the loops build -/

/-- The address a server was made of. -/
def BackendServer.address (server : BackendServer) : ServerConfig := ⟨server.host, server.port⟩

/-- The servers made of these addresses, numbered on from `next`. -/
def instances (next : Nat) (configs : List ServerConfig) : List BackendServer :=
  (configs.zipIdx next).map fun c => ⟨c.2, c.1.host, c.1.port⟩

theorem instances_address (next : Nat) (configs : List ServerConfig) :
    (instances next configs).map BackendServer.address = configs := by
  have address : BackendServer.address ∘ (fun c : ServerConfig × Nat => ⟨c.2, c.1.host, c.1.port⟩) =
      Prod.fst := rfl
  rw [instances, List.map_map, address, List.zipIdx_map_fst]

theorem instances_id (next : Nat) (configs : List ServerConfig) :
    (instances next configs).map BackendServer.id = List.range' next configs.length := by
  have id : BackendServer.id ∘ (fun c : ServerConfig × Nat => ⟨c.2, c.1.host, c.1.port⟩) =
      Prod.snd := rfl
  rw [instances, List.map_map, id, List.zipIdx_map_snd]

@[simp] theorem length_instances (next : Nat) (configs : List ServerConfig) :
    (instances next configs).length = configs.length := by
  simp [instances]

theorem Build.foldl_addServer (b : Build) (configs : List ServerConfig) :
    configs.foldl addServer (.new, b) =
      ({ (.new : BackendPool BackendServer) with servers := instances b.next configs },
        { b with
          allServers := b.allServers ++ instances b.next configs
          next := b.next + configs.length }) := by
  induction configs using List.reverseRecOn with
  | nil => simp [instances, BackendPool.new]
  | append_singleton configs config ih =>
    rw [List.foldl_append, ih]
    simp [addServer, BackendPool.addServer, instances, List.zipIdx_append, Nat.add_assoc]

/-- The names of the upstreams, each with its place. -/
def upstreamNames (upstreams : List UpstreamConfig) : List (JSString × Nat) :=
  upstreams.zipIdx.map fun u => (u.1.name, u.2)

theorem upstreamNames_snoc (upstreams : List UpstreamConfig) (upstream : UpstreamConfig) :
    upstreamNames (upstreams ++ [upstream]) =
      upstreamNames upstreams ++ [(upstream.name, upstreams.length)] := by
  simp [upstreamNames, List.zipIdx_append]

/-- The loop over the upstreams, from number `next` on: a pool for each, in
order, and in it new servers of its addresses, all of which are collected. -/
structure Build.Made (next : Nat) (upstreams : List UpstreamConfig) (b : Build) : Prop where
  addresses : b.pools.map (·.servers.map BackendServer.address) = upstreams.map (·.servers)
  names : b.named = OrderedMap.empty.setAll (upstreamNames upstreams)
  collected : b.pools.flatMap (·.servers) = b.allServers
  numbered : b.allServers.map BackendServer.id = List.range' next b.allServers.length
  count : b.next = next + b.allServers.length
  fresh : ∀ pool ∈ b.pools, pool.strategy.currentIndex = 0 ∧ ∀ server, pool.isHealthy server

theorem Build.foldl_addUpstream (next : Nat) (upstreams : List UpstreamConfig) :
    Made next upstreams (upstreams.foldl addUpstream ⟨[], .empty, [], next⟩) := by
  induction upstreams using List.reverseRecOn with
  | nil => exact ⟨rfl, rfl, rfl, rfl, rfl, by simp⟩
  | append_singleton upstreams upstream ih =>
    rw [List.foldl_append, List.foldl_cons, List.foldl_nil]
    generalize upstreams.foldl addUpstream ⟨[], .empty, [], next⟩ = b at ih
    have length : b.pools.length = upstreams.length := by
      simpa using congrArg List.length ih.addresses
    simp only [addUpstream, foldl_addServer]
    constructor
    · simp [ih.addresses, instances_address]
    · simp [upstreamNames_snoc, ih.names, OrderedMap.setAll, length]
    · simp [ih.collected]
    · simp only [List.map_append, ih.numbered, instances_id, ih.count, List.length_append,
        length_instances]
      exact List.range'_append_1
    · simp only [List.length_append, length_instances, ih.count]
      omega
    · intro pool mem
      rcases List.mem_append.mp mem with mem | mem
      · exact ih.fresh pool mem
      · rw [List.mem_singleton.mp mem]
        exact ⟨rfl, fun _ => rfl⟩

/-- The loop over the routes ends when the name of every upstream is known. -/
theorem Build.mapRoutes_eq_ok {b : Build} {router made : Router} {routes : List RouteConfig} :
    b.mapRoutes router routes = .ok made ↔
      (∀ route ∈ routes, (b.named.get route.upstream).isSome) ∧
      made.routes = router.routes.setAll
        (routes.map fun r => (r.path, (b.named.get r.upstream).getD 0)) := by
  induction routes generalizing router with
  | nil =>
    simp only [mapRoutes, List.not_mem_nil, false_implies, implies_true, true_and, List.map_nil]
    constructor
    · intro same
      cases same
      rfl
    · intro same
      cases made
      cases same
      rfl
  | cons route routes ih =>
    simp only [mapRoutes]
    split
    · rename_i unknown
      simp [unknown]
    · rename_i pool known
      rw [ih]
      simp [known, OrderedMap.setAll, Router.addRoute]

/-- Otherwise the first route whose upstream is unknown is named. -/
theorem Build.mapRoutes_eq_error {b : Build} {router : Router} {before after : List RouteConfig}
    {route : RouteConfig} (known : ∀ r ∈ before, (b.named.get r.upstream).isSome)
    (unknown : b.named.get route.upstream = none) :
    b.mapRoutes router (before ++ route :: after) = .error (undefinedUpstream route) := by
  induction before generalizing router with
  | nil => simp [mapRoutes, unknown]
  | cons r before ih =>
    obtain ⟨pool, at_⟩ := Option.isSome_iff_exists.mp (known r List.mem_cons_self)
    simp only [List.cons_append, mapRoutes, at_]
    exact ih fun r' mem => known r' (List.mem_cons_of_mem _ mem)

/-! ## The file and the requests -/

section
variable {parse : JSString → Except JSString (Option ConfigStructure)} {filePath : JSString}
  {next : Nat} {file : ConfigFile} {p : ParsedConfig}

/-- The file declares these upstreams and these routes. -/
def Declares (parse : JSString → Except JSString (Option ConfigStructure)) (file : ConfigFile)
    (upstreams : List UpstreamConfig) (routes : List RouteConfig) : Prop :=
  ∃ text port, file = .content text ∧ parse text = .ok (some ⟨port, some routes, some upstreams⟩)

/-- A build that succeeds has gone through both loops. -/
theorem build_made (built : buildRouterFromConfig parse filePath next file = .ok p) :
    ∃ upstreams routes, ∃ b : Build, Declares parse file upstreams routes ∧
      b.Made next upstreams ∧ b.mapRoutes .new routes = .ok p.router ∧
      p.servers = b.allServers ∧ p.pools = b.pools ∧ p.next = b.next := by
  cases file with
  | missing | unreadable err => cases built
  | content text =>
    simp only [buildRouterFromConfig] at built
    cases parsed : parse text with
    | error err => simp [parsed, bind, Except.bind] at built
    | ok config =>
      simp only [parsed, bind, Except.bind] at built
      split at built
      · cases built
      · rename_i config
        obtain ⟨port, routes, upstreams⟩ := config
        split at built
        · rename_i upstreams routes hasUpstreams hasRoutes
          cases hasUpstreams
          cases hasRoutes
          split at built
          · cases built
          · rename_i router mapped
            cases built
            exact ⟨upstreams, routes, _, ⟨text, port, rfl, parsed⟩,
              Build.foldl_addUpstream next upstreams, mapped, rfl, rfl, rfl⟩
        · cases built

/-- What a file with upstreams and routes gives is decided by the second loop. -/
theorem build_declared (filePath : JSString) (next : Nat) {upstreams : List UpstreamConfig}
    {routes : List RouteConfig} (declared : Declares parse file upstreams routes) :
    ∃ b : Build, b.Made next upstreams ∧
      (buildRouterFromConfig parse filePath next file).map ParsedConfig.router =
        b.mapRoutes .new routes := by
  obtain ⟨text, port, rfl, parsed⟩ := declared
  refine ⟨_, Build.foldl_addUpstream next upstreams, ?_⟩
  simp only [buildRouterFromConfig, parsed, bind, Except.bind]
  generalize Build.mapRoutes _ Router.new routes = mapped
  cases mapped <;> rfl

theorem Build.Made.get {b : Build} {upstreams : List UpstreamConfig} (made : b.Made next upstreams)
    {name : JSString} {k : Nat} :
    b.named.get name = some k ↔ OrderedMap.Last (upstreamNames upstreams) name k := by
  rw [made.names]
  exact OrderedMap.get_setAll

theorem Build.Made.known {b : Build} {upstreams : List UpstreamConfig}
    (made : b.Made next upstreams) {name : JSString} :
    (b.named.get name).isSome ↔ ∃ upstream ∈ upstreams, upstream.name = name := by
  rw [Option.isSome_iff_exists]
  constructor
  · rintro ⟨k, at_⟩
    obtain ⟨⟨upstream, i⟩, mem, eq⟩ := List.mem_map.mp (made.get.mp at_).mem
    cases eq
    exact ⟨upstream, List.fst_mem_of_mem_zipIdx mem, rfl⟩
  · rintro ⟨upstream, mem, rfl⟩
    obtain ⟨i, at_⟩ := List.mem_iff_getElem?.mp mem
    have entry : (upstream.name, i) ∈ upstreamNames upstreams :=
      List.mem_map.mpr ⟨(upstream, i), List.mem_zipIdx_iff_getElem?.mpr at_, rfl⟩
    obtain ⟨k, last⟩ := OrderedMap.exists_last entry
    exact ⟨k, made.get.mpr last⟩

/-- The upstream, by its place in the file, that requests for the url are meant
for: the longest path that leads the url decides, by the last route of that path
and the last upstream of the name it gives. -/
def Serves (upstreams : List UpstreamConfig) (routes : List RouteConfig) (url : JSString)
    (k : Nat) : Prop :=
  ∃ path name, path ≠ [] ∧ path <+: url ∧
    (∀ route ∈ routes, route.path <+: url → route.path.length ≤ path.length) ∧
    OrderedMap.Last (routes.map fun r => (r.path, r.upstream)) path name ∧
    OrderedMap.Last (upstreamNames upstreams) name k

/-- The routes of a built router: the last one of each path, to the last upstream
of the name it gives. -/
theorem mapped_get {b : Build} {upstreams : List UpstreamConfig} {routes : List RouteConfig}
    {router : Router} (made : b.Made next upstreams)
    (mapped : b.mapRoutes .new routes = .ok router) {path : JSString} {k : Nat} :
    router.routes.get path = some k ↔
      ∃ name, OrderedMap.Last (routes.map fun r => (r.path, r.upstream)) path name ∧
        OrderedMap.Last (upstreamNames upstreams) name k := by
  obtain ⟨known, same⟩ := Build.mapRoutes_eq_ok.mp mapped
  have pairs : (routes.map fun r => (r.path, (b.named.get r.upstream).getD 0)) =
      (routes.map fun r => (r.path, r.upstream)).map
        fun e => (e.1, (b.named.get e.2).getD 0) := by
    rw [List.map_map]
    rfl
  rw [same, pairs, Router.new, OrderedMap.get_setAll,
    OrderedMap.last_map fun name => (b.named.get name).getD 0]
  apply exists_congr
  intro name
  apply and_congr_right
  intro last
  obtain ⟨route, mem, eq⟩ := List.mem_map.mp last.mem
  cases eq
  obtain ⟨k', at_⟩ := Option.isSome_iff_exists.mp (known route mem)
  rw [← made.get, at_, Option.getD_some, Option.some.injEq]

theorem mapped_paths {b : Build} {routes : List RouteConfig} {router : Router}
    (mapped : b.mapRoutes .new routes = .ok router) (P : JSString → Prop) :
    (∀ e ∈ router.routes.entries, P e.1) ↔ ∀ route ∈ routes, P route.path := by
  obtain ⟨-, same⟩ := Build.mapRoutes_eq_ok.mp mapped
  have entry {path : JSString} {k : Nat} :
      (path, k) ∈ router.routes.entries ↔
        OrderedMap.Last (routes.map fun r => (r.path, (b.named.get r.upstream).getD 0)) path k := by
    rw [← OrderedMap.get_eq_some, same]
    exact OrderedMap.get_setAll
  constructor
  · intro all route mem
    have pair := List.mem_map_of_mem (f := fun r => (r.path, (b.named.get r.upstream).getD 0)) mem
    obtain ⟨k, last⟩ := OrderedMap.exists_last pair
    exact all _ (entry.mpr last)
  · rintro all ⟨path, k⟩ mem
    obtain ⟨route, declared, eq⟩ := List.mem_map.mp (entry.mp mem).mem
    cases eq
    exact all route declared

/-- **Routing.** A built router asks, for every url, the pool of the upstream the
file means for it, and that pool has a server for each address of the upstream, in
order. -/
theorem built_router_serves (built : buildRouterFromConfig parse filePath next file = .ok p) :
    ∃ upstreams routes, Declares parse file upstreams routes ∧
      (∀ url k, p.router.selectedPool url = some k ↔ Serves upstreams routes url k) ∧
      p.pools.map (·.servers.map BackendServer.address) = upstreams.map (·.servers) := by
  obtain ⟨upstreams, routes, b, declared, made, mapped, -, pools, -⟩ := build_made built
  refine ⟨upstreams, routes, declared, ?_, pools ▸ made.addresses⟩
  intro url k
  rw [Router.selectedPool_eq_some, Serves]
  apply exists_congr
  intro path
  rw [mapped_get made mapped, mapped_paths mapped fun q => q <+: url → q.length ≤ path.length]
  constructor
  · rintro ⟨some, leads, ⟨name, route, upstream⟩, longest⟩
    exact ⟨name, some, leads, longest, route, upstream⟩
  · rintro ⟨name, some, leads, longest, route, upstream⟩
    exact ⟨some, leads, ⟨name, route, upstream⟩, longest⟩

/-- Two upstreams of one name and two routes of one path. -/
def doubled : ConfigStructure where
  port := none
  routes := some [⟨js "/", js "a"⟩, ⟨js "/x", js "a"⟩, ⟨js "/x", js "b"⟩]
  upstreams := some [⟨js "a", [⟨js "h", 1⟩]⟩, ⟨js "b", [⟨js "h", 2⟩]⟩, ⟨js "b", [⟨js "h", 3⟩]⟩]

/-- The later ones serve. -/
theorem built_router_serves_later :
    ∃ p upstreams routes,
      buildRouterFromConfig (fun _ => .ok (some doubled)) [] 0 (.content []) = .ok p ∧
      Serves upstreams routes (js "/x/y") 2 ∧
      p.pools.map (·.servers.map BackendServer.address) = upstreams.map (·.servers) := by
  have built : buildRouterFromConfig (fun _ => .ok (some doubled)) [] 0 (.content []) = .ok _ := rfl
  obtain ⟨upstreams, routes, -, serves, addresses⟩ := built_router_serves built
  exact ⟨_, upstreams, routes, built, (serves (js "/x/y") 2).mp (by decide), addresses⟩

/-- Acceptance does not depend on how many servers were made before. -/
theorem build_succeeds_iff (filePath : JSString) (next : Nat) {upstreams : List UpstreamConfig}
    {routes : List RouteConfig} (declared : Declares parse file upstreams routes) :
    (∃ p, buildRouterFromConfig parse filePath next file = .ok p) ↔
      ∀ route ∈ routes, ∃ upstream ∈ upstreams, upstream.name = route.upstream := by
  obtain ⟨b, made, same⟩ := build_declared filePath next declared
  constructor
  · rintro ⟨p, built⟩
    rw [built] at same
    intro route mem
    exact made.known.mp ((Build.mapRoutes_eq_ok.mp same.symm).1 route mem)
  · intro all
    have mapped : b.mapRoutes .new routes = .ok ⟨_⟩ :=
      Build.mapRoutes_eq_ok.mpr ⟨fun route mem => made.known.mpr (all route mem), rfl⟩
    rw [mapped] at same
    cases built : buildRouterFromConfig parse filePath next file with
    | error err => simp [built, Except.map] at same
    | ok p => exact ⟨p, rfl⟩

theorem build_again (built : buildRouterFromConfig parse filePath next file = .ok p) (next' : Nat) :
    ∃ p', buildRouterFromConfig parse filePath next' file = .ok p' := by
  obtain ⟨upstreams, routes, -, declared, -⟩ := build_made built
  rw [build_succeeds_iff filePath next' declared, ← build_succeeds_iff filePath next declared]
  exact ⟨p, built⟩

/-- **Acceptance.** A file that declares upstreams and routes is accepted just when
every route names one of the upstreams, and refused with the first that does not. -/
theorem build_accepts_iff {upstreams : List UpstreamConfig} {routes : List RouteConfig}
    (declared : Declares parse file upstreams routes) :
    ((∃ p, buildRouterFromConfig parse filePath next file = .ok p) ↔
      ∀ route ∈ routes, ∃ upstream ∈ upstreams, upstream.name = route.upstream) ∧
    ∀ before route after, routes = before ++ route :: after →
      (∀ r ∈ before, ∃ upstream ∈ upstreams, upstream.name = r.upstream) →
      (¬ ∃ upstream ∈ upstreams, upstream.name = route.upstream) →
      buildRouterFromConfig parse filePath next file =
        .error (js "[Fatal] Route " ++ route.path ++ js " points to an undefined upstream: " ++
          route.upstream) := by
  refine ⟨build_succeeds_iff filePath next declared, ?_⟩
  obtain ⟨b, made, same⟩ := build_declared filePath next declared
  rintro before route after rfl known unknown
  have missing : b.named.get route.upstream = none := by
    rw [← Option.not_isSome_iff_eq_none, made.known]
    exact unknown
  rw [Build.mapRoutes_eq_error (fun r mem => made.known.mpr (known r mem)) missing] at same
  cases built : buildRouterFromConfig parse filePath next file with
  | error err =>
    rw [built] at same
    cases same
    rfl
  | ok p => simp [built, Except.map] at same

/-- A typo in the second route. -/
def dangling : ConfigStructure where
  port := none
  routes := some [⟨js "/", js "a"⟩, ⟨js "/x", js "c"⟩]
  upstreams := some [⟨js "a", [⟨js "h", 1⟩]⟩]

theorem build_accepts_iff_dangling :
    buildRouterFromConfig (fun _ => .ok (some dangling)) [] 0 (.content []) =
      .error (js "[Fatal] Route " ++ js "/x" ++ js " points to an undefined upstream: " ++
        js "c") := by
  have declared : Declares (fun _ => .ok (some dangling)) (.content [])
      [⟨js "a", [⟨js "h", 1⟩]⟩] [⟨js "/", js "a"⟩, ⟨js "/x", js "c"⟩] := ⟨[], none, rfl, rfl⟩
  exact (build_accepts_iff declared).2 [⟨js "/", js "a"⟩] _ [] rfl (by decide) (by decide)

end

end TorusProxy.Node

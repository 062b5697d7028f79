import TorusProxy.Blueprint
import TorusProxy.Routing
import TorusProxy.Validation

/-! Which service an accepted route resolves to. `Validate` compares trimmed
names and `BuildRuntime` the names as they are written. -/
namespace TorusProxy

theorem bytes_injective : Function.Injective bytes := by
  intro s t h
  have same : s.toList.utf8Encode = t.toList.utf8Encode := congrArg List.toByteArray h
  rw [← String.toByteArray_inj]
  simpa using same

/-! ## What the loops of the builder leave -/

/-- The URL behind each place, none where there is no backend. -/
def Runtime.urls (rt : Runtime) (places : List Nat) : List (Option String) :=
  places.map fun b => rt.backends[b]?.map (·.url)

/-- A further backend takes a new place. -/
theorem Runtime.urls_addBackend {rt : Runtime} {places : List Nat} {urls : List String}
    (url : String) (h : rt.urls places = urls.map some) :
    (rt.addBackend url).urls places = urls.map some := by
  rw [← h]
  apply List.map_congr_left
  intro b hb
  have there : rt.backends[b]?.map (·.url) ∈ urls.map some := h ▸ List.mem_map_of_mem hb
  obtain ⟨found, -, hfound⟩ := List.mem_map.mp there
  obtain ⟨x, hx, -⟩ := Option.map_eq_some_iff.mp hfound.symm
  have lt := (List.getElem?_eq_some_iff.mp hx).1
  rw [Runtime.addBackend, List.getElem?_append_left lt]

/-- The loop over the upstreams of one service. -/
structure Pooled (start x : Runtime × BuildVars) (urls : List String) : Prop where
  router : x.1.router = start.1.router
  services : x.1.services = start.1.services
  names : x.2.services = start.2.services
  pool : x.1.urls x.2.backends = urls.map some
  kept : ∀ (places : List Nat) (us : List String), start.1.urls places = us.map some →
    x.1.urls places = us.map some

theorem Pooled.loop (start : Runtime × BuildVars) (idle : start.2.backends = []) (name : String)
    (urls : List String) :
    Pooled start ((urls.map (BuildItem.upstream name)).foldl BuildItem.apply start) urls := by
  induction urls using List.reverseRecOn with
  | nil => exact ⟨rfl, rfl, rfl, by simp [idle, Runtime.urls], fun _ _ h => h⟩
  | append_singleton urls url ih =>
    rw [List.map_append, List.foldl_append]
    generalize (urls.map (BuildItem.upstream name)).foldl BuildItem.apply start = x at ih
    obtain ⟨rt, vars⟩ := x
    have kept := Runtime.urls_addBackend url ih.pool
    refine ⟨ih.router, ih.services, ih.names, ?_, fun places us h =>
      Runtime.urls_addBackend url (ih.kept places us h)⟩
    have new : (rt.addBackend url).urls [rt.backends.length] = [some url] := by
      simp [Runtime.urls, Runtime.addBackend]
    change (rt.addBackend url).urls (vars.backends ++ [rt.backends.length]) = _
    rw [Runtime.urls, List.map_append, ← Runtime.urls, ← Runtime.urls, kept, new, List.map_append]
    rfl

/-- The loop over the services, after those of `done`. -/
structure Furnished (x : Runtime × BuildVars) (done : List ServiceConfig) : Prop where
  idle : x.2.backends = []
  router : x.1.router = ⟨[]⟩
  count : x.1.services.length = done.length
  names : ∀ name k, (name, k) ∈ x.2.services ↔ ∃ svc, done[k]? = some svc ∧ svc.name = name
  pools : ∀ (k : Nat) (svc : ServiceConfig), done[k]? = some svc →
    ∃ s : Service, x.1.services[k]? = some s ∧ x.1.urls s.backends = svc.upstreams.map some

/-- The items of one service. -/
def ServiceConfig.items (svc : ServiceConfig) : List BuildItem :=
  svc.upstreams.map (.upstream svc.name) ++ [.service svc.name]

theorem getElem?_snoc {α : Type} {xs : List α} {x y : α} {k : Nat} :
    (xs ++ [x])[k]? = some y ↔ xs[k]? = some y ∨ k = xs.length ∧ x = y := by
  rcases Nat.lt_trichotomy k xs.length with lt | rfl | gt
  · rw [List.getElem?_append_left lt]
    simp [Nat.ne_of_lt lt]
  · simp
  · have none : (xs ++ [x])[k]? = none := List.getElem?_eq_none (by simp; omega)
    simp [none, List.getElem?_eq_none (Nat.le_of_lt gt), Nat.ne_of_gt gt]

theorem Furnished.snoc {x : Runtime × BuildVars} {done : List ServiceConfig}
    (h : Furnished x done) (svc : ServiceConfig) :
    Furnished (svc.items.foldl BuildItem.apply x) (done ++ [svc]) := by
  rw [ServiceConfig.items, List.foldl_append]
  have pooled := Pooled.loop x h.idle svc.name svc.upstreams
  generalize (svc.upstreams.map (BuildItem.upstream svc.name)).foldl BuildItem.apply x = y at pooled
  obtain ⟨rt, vars⟩ := y
  have count : rt.services.length = done.length := by rw [pooled.services, h.count]
  refine ⟨rfl, pooled.router.trans h.router, ?_, ?_, ?_⟩
  · simp [BuildItem.apply, Runtime.addService, count]
  · intro name k
    have known : (name, k) ∈ vars.services ↔ ∃ s, done[k]? = some s ∧ s.name = name := by
      rw [pooled.names]
      exact h.names name k
    simp only [List.foldl_cons, List.foldl_nil, BuildItem.apply, List.mem_cons, Prod.mk.injEq,
      known, count, getElem?_snoc]
    constructor
    · rintro (⟨rfl, rfl⟩ | ⟨s, hs, rfl⟩)
      · exact ⟨svc, .inr ⟨rfl, rfl⟩, rfl⟩
      · exact ⟨s, .inl hs, rfl⟩
    · rintro ⟨s, hs | ⟨rfl, rfl⟩, rfl⟩
      · exact .inr ⟨s, hs, rfl⟩
      · exact .inl ⟨rfl, rfl⟩
  · intro k s hs
    change ∃ t, (rt.services ++ [⟨vars.backends, 0⟩])[k]? = some t ∧ rt.urls t.backends = _
    rcases getElem?_snoc.mp hs with hs | ⟨rfl, rfl⟩
    · obtain ⟨t, ht, pool⟩ := h.pools k s hs
      refine ⟨t, getElem?_snoc.mpr (.inl ?_), pooled.kept _ _ pool⟩
      rw [pooled.services]
      exact ht
    · exact ⟨_, getElem?_snoc.mpr (.inr ⟨count.symm, rfl⟩), pooled.pool⟩

theorem Furnished.loop {x : Runtime × BuildVars} (h : Furnished x []) (services : List ServiceConfig) :
    Furnished ((services.flatMap ServiceConfig.items).foldl BuildItem.apply x) services := by
  induction services using List.reverseRecOn with
  | nil => exact h
  | append_singleton services svc ih =>
    rw [List.flatMap_append, List.foldl_append, List.flatMap_singleton]
    exact ih.snoc svc

/-- The loop over the routes. -/
theorem routes_loop (rt : Runtime) (vars : BuildVars) (router : rt.router = ⟨[]⟩)
    (routes : List RouteConfig) :
    (routes.map fun r => BuildItem.route r.path r.service).foldl BuildItem.apply (rt, vars) =
      ({ rt with
          router := Router.addRoutes (routes.map fun r => (bytes r.path, vars.lookup r.service)) },
        vars) := by
  induction routes using List.reverseRecOn with
  | nil => simp [Router.addRoutes, ← router]
  | append_singleton routes r ih =>
    rw [List.map_append, List.foldl_append, ih]
    simp [BuildItem.apply, Runtime.addRoute, Router.addRoutes]

/-- What `BuildRuntime` returns for this configuration, with its map of the
services by name. -/
structure Finished (cfg : Config) (rt : Runtime) (vars : BuildVars) : Prop where
  router : rt.router =
    Router.addRoutes (cfg.routes.map fun r => (bytes r.path, vars.lookup r.service))
  names : ∀ name k, (name, k) ∈ vars.services ↔ ∃ svc, cfg.services[k]? = some svc ∧ svc.name = name
  pools : ∀ (k : Nat) (svc : ServiceConfig), cfg.services[k]? = some svc →
    ∃ s : Service, rt.services[k]? = some s ∧ rt.urls s.backends = svc.upstreams.map some

theorem buildRuntime_finished (generation : Nat) (cfg : Config) (tls : Option TLSSettings) :
    ∃ vars, Finished cfg (buildRuntime generation cfg tls) vars := by
  have start : Furnished
      (newRuntime generation cfg.server.addr tls cfg.observability.enabledValue, .empty) [] :=
    ⟨rfl, rfl, rfl, by simp [BuildVars.empty], by simp⟩
  have done := start.loop cfg.services
  unfold buildRuntime assemble buildPlan
  rw [List.foldl_append]
  change ∃ vars, Finished cfg (List.foldl BuildItem.apply (List.foldl BuildItem.apply _
    (cfg.services.flatMap ServiceConfig.items)) _).1 vars
  generalize (cfg.services.flatMap ServiceConfig.items).foldl BuildItem.apply _ = x at done ⊢
  obtain ⟨rt, vars⟩ := x
  rw [routes_loop rt vars done.router]
  exact ⟨vars, rfl, done.names, done.pools⟩

theorem Runtime.urls_blueprint (rt : Runtime) (places : List Nat) :
    rt.blueprint.urls places = rt.urls places := by
  apply List.map_congr_left
  intro b _
  simp [Runtime.blueprint, Runtime.still, Function.comp_def]

theorem BuiltFrom.finished {disk : Disk} {cfg : Config} {rt : Runtime}
    (h : BuiltFrom disk cfg rt) : ∃ vars, Finished cfg rt vars := by
  obtain ⟨generation, tls, -, built⟩ := h
  obtain ⟨vars, done⟩ := buildRuntime_finished generation cfg tls
  rw [← built] at done
  refine ⟨vars, done.router, done.names, ?_⟩
  intro k svc hk
  obtain ⟨s, hs, pool⟩ := done.pools k svc hk
  simp only [Runtime.blueprint, Runtime.still, List.getElem?_map, Option.map_eq_some_iff] at hs
  obtain ⟨t, ht, rfl⟩ := hs
  exact ⟨t, ht, by rwa [Runtime.urls_blueprint] at pool⟩

/-! ## Names -/

theorem BuildVars.lookup_eq {vars : BuildVars} {name : String} {k : Nat}
    (unique : ∀ j, (name, j) ∈ vars.services → j = k) :
    vars.lookup name = some k ↔ (name, k) ∈ vars.services := by
  constructor
  · intro h
    obtain ⟨⟨key, found⟩, hf, rfl⟩ := Option.map_eq_some_iff.mp h
    obtain rfl : key = name := by simpa using List.find?_some hf
    exact List.mem_of_find?_eq_some hf
  · intro mem
    cases hf : vars.services.find? (·.1 == name) with
    | none => simpa using List.find?_eq_none.mp hf _ mem
    | some entry =>
      obtain ⟨key, j⟩ := entry
      obtain rfl : key = name := by simpa using List.find?_some hf
      obtain rfl := unique j (List.mem_of_find?_eq_some hf)
      simp [BuildVars.lookup, hf]

/-- A key that is registered once keeps its service. -/
theorem registered_of_nodup {adds : List (Bytes × Option Nat)} (distinct : (adds.map (·.1)).Nodup)
    {key : Bytes} {s : Option Nat} (mem : (key, s) ∈ adds) : registered adds key = some s := by
  induction adds using List.reverseRecOn with
  | nil => cases mem
  | append_singleton adds kv ih =>
    rw [List.map_append, List.nodup_append] at distinct
    rw [registered_snoc]
    rcases List.mem_append.mp mem with mem | mem
    · have apart := distinct.2.2 key (List.mem_map_of_mem mem) kv.1 (by simp)
      rw [if_neg (Ne.symm apart)]
      exact ih distinct.1 mem
    · obtain rfl := List.mem_singleton.mp mem
      rw [if_pos rfl]

/-- A path that is itself a key is routed to its own entry. -/
theorem LongestPrefix.self {services : Bytes → Option (Option Nat)} {path : Bytes}
    {found : Bytes × Option Nat} (h : LongestPrefix services path found) (nonempty : path ≠ [])
    {s : Option Nat} (known : services path = some s) : found = (path, s) := by
  obtain ⟨here, -, leads, longest⟩ := h.longest ⟨path, s, known, nonempty, .inl rfl⟩
  have same : found.1 = path := by
    by_contra ne
    have longer := longest path s known nonempty (.inl rfl) (Ne.symm ne)
    have shorter := (List.isPrefixOf_iff_prefix.mp (leads_iff.mpr leads).1).length_le
    omega
  refine Prod.ext same ?_
  rw [same, known] at here
  exact (Option.some.inj here).symm

section
variable {env : Env} {cfg : Config}

/-- Trimmed names are written once, so a place is fixed by the name there. -/
theorem Config.Schema.place_unique (h : cfg.Schema env) {j k : Nat} {svc svc' : ServiceConfig}
    (hj : cfg.services[j]? = some svc) (hk : cfg.services[k]? = some svc')
    (same : trimSpace svc.name = trimSpace svc'.name) : j = k := by
  have name {i : Nat} {s : ServiceConfig} (hi : cfg.services[i]? = some s) :
      cfg.serviceNames[i]? = some (trimSpace s.name) := by
    simp [Config.serviceNames, hi]
  have lt : j < cfg.serviceNames.length := (List.getElem?_eq_some_iff.mp (name hj)).1
  apply (List.getElem?_inj lt h.names).mp
  rw [name hj, name hk, same]

theorem Config.Schema.service_unique (h : cfg.Schema env) {svc svc' : ServiceConfig}
    (mem : svc ∈ cfg.services) (mem' : svc' ∈ cfg.services)
    (same : trimSpace svc.name = trimSpace svc'.name) : svc = svc' := by
  obtain ⟨j, hj⟩ := List.mem_iff_getElem?.mp mem
  obtain ⟨k, hk⟩ := List.mem_iff_getElem?.mp mem'
  obtain rfl := h.place_unique hj hk same
  exact Option.some.inj (hj.symm.trans hk)

/-- Where the router finds the path of a configured route. -/
theorem Finished.route {rt : Runtime} {vars : BuildVars} (done : Finished cfg rt vars)
    (h : cfg.Schema env) {order : List (Bytes × Option Nat)} (iterated : order.Perm rt.router.routes)
    {r : RouteConfig} (mem : r ∈ cfg.routes) :
    Router.route ⟨order⟩ (bytes r.path) = (bytes r.path, vars.lookup r.service) := by
  have distinct :
      ((cfg.routes.map fun r => (bytes r.path, vars.lookup r.service)).map (·.1)).Nodup := by
    have paths := h.paths.map bytes_injective
    simpa [Config.routePaths, Function.comp_def] using paths
  have known := registered_of_nodup distinct (List.mem_map_of_mem mem)
  have nonempty : bytes r.path ≠ [] := by
    intro blank
    have empty : r.path = "" := bytes_injective blank
    exact (h.routes r mem).1 (by rw [empty]; decide)
  refine LongestPrefix.self (Router.route_spec _ ?_) nonempty known
  intro key s
  rw [iterated.mem_iff, done.router, Router.mem_addRoutes]

end

/-- The path of a route leads to the backends of the one service whose
trimmed name is the route's. -/
def Resolves (cfg : Config) (rt : Runtime) (order : List (Bytes × Option Nat))
    (r : RouteConfig) : Prop :=
  ∃ k s svc, Router.route ⟨order⟩ (bytes r.path) = (bytes r.path, some k) ∧
    rt.services[k]? = some s ∧ svc ∈ cfg.services ∧ trimSpace svc.name = trimSpace r.service ∧
    (∀ other ∈ cfg.services, trimSpace other.name = trimSpace r.service → other = svc) ∧
    rt.urls s.backends = svc.upstreams.map some

/-- A route that is accepted resolves exactly where some service is written
as the route writes it. -/
theorem accepted_route_resolves_iff (env : Env) (disk : Disk) (cfg : Config) (rt : Runtime)
    (order : List (Bytes × Option Nat)) (valid : cfg.validate env = .ok ())
    (built : BuiltFrom disk cfg rt) (iterated : order.Perm rt.router.routes) (r : RouteConfig)
    (mem : r ∈ cfg.routes) :
    Resolves cfg rt order r ↔ ∃ svc ∈ cfg.services, svc.name = r.service := by
  have schema := (cfg.validate_ok env).mp valid
  obtain ⟨vars, done⟩ := built.finished
  have route := done.route schema iterated mem
  constructor
  · rintro ⟨k, s, svc, found, -⟩
    rw [route, Prod.mk.injEq] at found
    obtain ⟨⟨name, j⟩, hf, rfl⟩ := Option.map_eq_some_iff.mp found.2
    obtain rfl : name = r.service := by simpa using List.find?_some hf
    obtain ⟨svc, at_, named⟩ := (done.names _ _).mp (List.mem_of_find?_eq_some hf)
    exact ⟨svc, List.mem_of_getElem? at_, named⟩
  · rintro ⟨svc, hsvc, named⟩
    obtain ⟨k, at_⟩ := List.mem_iff_getElem?.mp hsvc
    have found : vars.lookup r.service = some k := by
      refine (BuildVars.lookup_eq ?_).mpr ((done.names _ _).mpr ⟨svc, at_, named⟩)
      intro j hj
      obtain ⟨other, hother, same⟩ := (done.names _ _).mp hj
      exact schema.place_unique hother at_ (by rw [same, named])
    obtain ⟨s, hs, pool⟩ := done.pools k svc at_
    refine ⟨k, s, svc, by rw [route, found], hs, hsvc, by rw [named], ?_, pool⟩
    intro other hother same
    exact schema.service_unique hother hsvc (by rw [same, named])

/-- The sample resolves. -/
theorem accepted_route_resolves_sample :
    Resolves sampleConfig sampleRuntime sampleRuntime.router.routes ⟨"/api", "api"⟩ := by
  have built : BuiltFrom sampleDisk sampleConfig sampleRuntime := ⟨1, none, rfl, rfl⟩
  exact (accepted_route_resolves_iff sampleEnv sampleDisk sampleConfig sampleRuntime _ sampleConfig_valid
    built (List.Perm.refl _) ⟨"/api", "api"⟩ (by decide)).mpr ⟨_, List.mem_singleton_self _, rfl⟩

/-- The sample with a blank before the name its route gives. -/
def spacedConfig : Config := { sampleConfig with routes := [⟨"/api", " api"⟩] }

/-- Such a route is accepted and leads to a nil service. -/
theorem spaced_route_unresolved :
    ¬ ∀ (env : Env) (disk : Disk) (cfg : Config) (rt : Runtime) (order : List (Bytes × Option Nat)),
      cfg.validate env = .ok () → BuiltFrom disk cfg rt → order.Perm rt.router.routes →
      ∀ r ∈ cfg.routes, Resolves cfg rt order r := by
  intro always
  have valid : spacedConfig.validate sampleEnv = .ok () := eq_ok_of_toOption (by decide)
  have built : BuiltFrom sampleDisk spacedConfig (buildRuntime 1 spacedConfig none) :=
    ⟨1, none, rfl, rfl⟩
  obtain ⟨k, s, svc, found, -⟩ := always sampleEnv sampleDisk spacedConfig _ _ valid built (List.Perm.refl _)
    ⟨"/api", " api"⟩ (by decide)
  have lost : Router.route ⟨(buildRuntime 1 spacedConfig none).router.routes⟩ (bytes "/api") =
      (bytes "/api", none) := by decide
  rw [lost] at found
  cases found

end TorusProxy

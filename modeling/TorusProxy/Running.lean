import TorusProxy.Owner

/-! Where runs begin: a server with its first runtime, before `Start` or just
put into service by it. -/
namespace TorusProxy

open Threads

/-- A server with its first runtime, number 0, and the start at `pc`; nothing
has come in yet. -/
structure Fresh (pc : StartPC) (w : World) : Prop where
  runtimeMu : w.shared.server.runtimeMu = .free
  handlers : w.shared.server.srv.handlers = 0
  shutdownDone : w.shared.server.shutdownDone = false
  shutdownErr : w.shared.server.shutdownErr = none
  runtime : w.shared.server.runtime = 0
  allocated : w.shared.allocated = 1
  installed : w.shared.installed = [0]
  live : (w.shared.heap 0).cancelled = false
  requests : ∀ r, (w.shared.heap r).requestWG = 0
  workers : ∀ r, (w.shared.heap r).workerWG = total (fun t => names r t.works) w.threads
  threads : ∀ t ∈ w.threads, (∃ p q, t = .prober p q ∧ p.rt = 0) ∨ t = .start pc

/-- `Start` has called `Serve`. -/
structure Running (w : World) : Prop extends Fresh .serving w where
  state : w.shared.server.state = .running
  ready : w.shared.server.ready = true
  srv : w.shared.server.srv = ⟨true, true, false, false, 0⟩

namespace Fresh

variable {pc : StartPC} {w : World}

/-- A weight that is zero on probers and on the start. -/
theorem idle (h : Fresh pc w) (g : Thread → Nat)
    (probers : ∀ p q, p.rt = 0 → g (.prober p q) = 0) (start : g (.start pc) = 0) :
    total g w.threads = 0 := by
  apply total_eq_zero.mpr
  intro t ht
  rcases h.threads t ht with ⟨p, q, rfl, hp⟩ | rfl
  · exact probers p q hp
  · exact start

theorem consistent (h : Fresh pc w) (free : pc.hold = .none) : Consistent w := by
  have lock (weight : RWMutex.Hold → Nat) (none : weight .none = 0) :
      total (fun t => weight t.hold) w.threads = 0 :=
    h.idle _ (fun _ _ _ => none) (by simp only [Thread.hold, free, none])
  constructor
  · rw [h.runtimeMu, lock RWMutex.Hold.reads rfl]; rfl
  · rw [h.runtimeMu, lock RWMutex.Hold.announces rfl]; rfl
  · rw [h.runtimeMu, lock RWMutex.Hold.writes rfl]; rfl
  · rw [h.runtime, h.allocated]; exact Nat.one_pos
  · intro r
    rw [h.idle _ (fun _ _ _ => rfl) rfl, ownable, h.runtime, h.allocated]
    simp only [Nat.lt_one_iff, ne_eq, and_not_self, ↓reduceIte]
  · rintro t ht req rt rfl
    rcases h.threads _ ht with ⟨p, q, hp, -⟩ | hp <;> cases hp
  · intro r
    rw [h.requests, h.idle _ (fun _ _ _ => rfl) rfl]
  · exact h.workers
  · rw [h.handlers, h.idle _ (fun _ _ _ => rfl) rfl]
  · intro t ht r hr
    rw [h.allocated]
    rcases h.threads t ht with ⟨p, q, rfl, hp⟩ | rfl
    · rcases hr with hr | hr
      · cases hr
      · simp only [Thread.works] at hr
        split at hr
        · cases hr
        · cases hr
          rw [hp]
          exact Nat.one_pos
    · rcases hr with hr | hr <;> cases hr

end Fresh

namespace Running

variable {w : World}

theorem consistent (h : Running w) : Consistent w := h.toFresh.consistent rfl

theorem serving (h : Running w) : Serving w := by
  refine ⟨h.consistent, by simp [h.state], by simp [h.srv], by simp [h.srv], ?_, ?_, ?_, ?_, ?_,
    ?_, ?_⟩
  · intro t ht
    rcases h.threads t ht with ⟨p, pc, rfl, -⟩ | rfl <;> rfl
  · intro t ht saw
    exact h.state
  · rw [h.idle _ (fun _ _ _ => rfl) rfl, closing, h.state]
    rfl
  · intro t ht rt hrt
    rcases h.threads t ht with ⟨p, pc, rfl, -⟩ | rfl <;> cases hrt
  · rintro t ht pc rfl
    rcases h.threads _ ht with ⟨p, pc, hp, -⟩ | hp <;> cases hp
  · intro t ht r p hs
    rcases h.threads t ht with ⟨p, pc, rfl, -⟩ | rfl <;> cases hs
  · intro t ht r p hs
    rcases h.threads t ht with ⟨p, pc, rfl, -⟩ | rfl <;> cases hs

theorem owned (h : Running w) : Owned w := by
  have none (t : Thread) (ht : t ∈ w.threads) (pc : ShutdownPC) : t ≠ .shutdown pc := by
    rcases h.threads t ht with ⟨p, q, rfl, -⟩ | rfl <;> simp
  refine ⟨h.serving, ?_, ?_, ?_, ?_, ?_, ?_, ?_, ?_⟩
  · rw [h.idle _ (fun _ _ _ => rfl) rfl, h.shutdownDone]
    rfl
  · intro t ht st hs
    rcases h.threads t ht with ⟨p, pc, rfl, -⟩ | rfl <;> cases hs
  · intro t ht err hs
    rcases h.threads t ht with ⟨p, pc, rfl, -⟩ | rfl <;> cases hs
  · intro t ht hs
    rcases h.threads t ht with ⟨p, pc, rfl, -⟩ | rfl <;> cases hs
  · intro t ht err hs
    rcases h.threads t ht with ⟨p, pc, rfl, -⟩ | rfl <;> cases hs
  · intro t ht rt
    exact none t ht _
  · intro t ht hs
    rcases h.threads t ht with ⟨p, pc, rfl, -⟩ | rfl <;> cases hs
  · intro t ht err hs
    rcases h.threads t ht with ⟨p, pc, rfl, -⟩ | rfl <;> cases hs

end Running

def Metrics.initial (generation : Nat) : Metrics :=
  ⟨float64 generation, 0, 0, 0, fun _ => 0, fun _ => none⟩

/-- The given first runtime, its probers just started. -/
def World.fresh (srv : HttpServer) (ready : Bool) (state : ServerState)
    (forceCancel : Option Bool) (pc : StartPC) (rt : Runtime) (disk : Disk)
    (probers : List Prober) : World where
  shared :=
    { server :=
        { runtime := 0
          runtimeMu := .free
          srv := srv
          shutdownDone := false
          shutdownErr := none
          ready := ready
          state := state
          forceCancel := forceCancel
          mux := if srv.assigned then newMux rt.observabilityEnabled else .new
          listener := if srv.serving then some rt.tlsConfig else none }
      heap := Function.update (fun _ => newRuntime 0 "" none false) 0
        { rt with cancelled := false, requestWG := 0, workerWG := probers.length }
      allocated := 1
      nextGeneration := rt.generation
      metrics := .initial rt.generation
      disk := disk
      hasServer := true
      installed := [0] }
  threads := .start pc :: probers.map (.prober · .newTicker)

/-- In service. -/
def World.serving : Runtime → Disk → List Prober → World :=
  .fresh ⟨true, true, false, false, 0⟩ true .running (some false) .serving

theorem total_works_probers {probers : List Prober} (own : ∀ p ∈ probers, p.rt = 0) (r : Rid) :
    total (fun t => names r t.works) (probers.map (Thread.prober · .newTicker)) =
      if r = 0 then probers.length else 0 := by
  induction probers with
  | nil => simp
  | cons p ps ih =>
    have rest := ih fun q hq => own q (List.mem_cons_of_mem p hq)
    have works : (Thread.prober p .newTicker).works = some 0 := by
      rw [← own p List.mem_cons_self]
      rfl
    rw [List.map_cons, total_cons, rest, works]
    by_cases hr : r = 0
    · subst hr; simp [Nat.add_comm]
    · simp [hr, names_of_ne (Ne.symm hr)]

theorem World.fresh_fresh (srv : HttpServer) (ready : Bool) (state : ServerState)
    (forceCancel : Option Bool) (pc : StartPC) (rt : Runtime) (disk : Disk) {probers : List Prober}
    (handlers : srv.handlers = 0) (own : ∀ p ∈ probers, p.rt = 0) :
    Fresh pc (World.fresh srv ready state forceCancel pc rt disk probers) := by
  refine ⟨rfl, handlers, rfl, rfl, rfl, rfl, rfl, ?_, ?_, ?_, ?_⟩
  · simp [World.fresh]
  · intro r
    by_cases hr : r = 0
    · subst hr; simp [World.fresh]
    · simp [World.fresh, hr, newRuntime]
  · intro r
    have count := total_works_probers own r
    have start : names r (Thread.start pc).works = 0 := rfl
    simp only [World.fresh, total_cons] at count ⊢
    rw [count, start]
    by_cases hr : r = 0
    · subst hr; simp
    · simp [hr, newRuntime]
  · intro t ht
    rcases List.mem_cons.mp ht with rfl | ht
    · exact .inr rfl
    · obtain ⟨p, hp, rfl⟩ := List.mem_map.mp ht
      exact .inl ⟨p, .newTicker, rfl, own p hp⟩

theorem World.serving_running (rt : Runtime) (disk : Disk) {probers : List Prober}
    (own : ∀ p ∈ probers, p.rt = 0) : Running (World.serving rt disk probers) :=
  ⟨World.fresh_fresh _ _ _ _ _ rt disk rfl own, rfl, rfl, rfl⟩

/-- `Serve` does not fail on its own. -/
def Calm (w : World) : Action → Prop
  | .run i (.fail _) => w.threads[i]? ≠ some (.start .serving)
  | _ => True

/-- Without a failing `Serve` the start stays where it is until it returns. -/
def Undisturbed (w : World) : Prop :=
  ∀ t ∈ w.threads, ∀ pc, t = .start pc → pc = .serving ∨ pc = .returned none

theorem Undisturbed.step {env : Env} {w w' : World} {a : Action} (h : Undisturbed w)
    (calm : Calm w a) (hs : World.step env w a = some w') : Undisturbed w' := by
  have m := Machine.next_moved hs
  refine World.each m (fun t => ∀ pc, t = .start pc → pc = .serving ∨ pc = .returned none)
    h ?_ ?_ ?_
  · rintro i t c sh' _ new rfl hi inv fires pc rfl
    cases Thread.step_runs fires with
    | @start q _ runs =>
      rcases inv q rfl with rfl | rfl
      · simp only [start] at runs
        split at runs
        · split at runs <;> cases runs
          exact .inr rfl
        · exact absurd hi calm
        · cases runs
      · cases runs
  · rintro p pc ⟨⟩
  · intro x sh' t fires
    cases enter_move fires <;> rintro _ ⟨⟩

theorem Running.undisturbed {w : World} (h : Running w) : Undisturbed w := by
  rintro t ht pc rfl
  rcases h.threads _ ht with ⟨p, q, hp, -⟩ | hp
  · cases hp
  · cases hp
    exact .inl rfl

theorem Undisturbed.run {env : Env} {w w' : World} (h : Undisturbed w)
    (r : Run env Calm w w') : Undisturbed w' :=
  r.invariant Undisturbed h fun _ _ _ _ inv calm hs => inv.step calm hs

/-! ## A small installation, to run the model on -/

def sampleConfig : Config where
  apiVersion := "v2"
  server := ⟨":8080"⟩
  healthCheck := ⟨1000, 500, "/health"⟩
  services := [⟨"api", ["http://10.0.0.1:9000"]⟩]
  routes := [⟨"/api", "api"⟩]
  tls := none
  observability := ⟨none⟩

def sampleFile : Bytes :=
  ["apiVersion: v2\n", "server:\n", "  addr: \":8080\"\n", "health:\n", "  interval_ms: 1000\n",
    "  timeout_ms: 500\n", "  path: /health\n", "services:\n", "  - name: api\n",
    "    upstreams:\n", "      - http://10.0.0.1:9000\n", "routes:\n", "  - path: /api\n",
    "    service: api\n"].flatMap bytes

def sampleURL (s : String) : Except String URL :=
  if s = "http://10.0.0.1:9000" then .ok ⟨"http", "10.0.0.1:9000"⟩
  else .error ("parse " ++ s ++ ": invalid URI for request")

/-- The decoder and the URL parsers on the texts that occur here. -/
def sampleEnv : Env where
  unmarshal content :=
    if content = sampleFile then .ok sampleConfig
    else .error "yaml: line 1: could not find expected ':'"
  parseRequestURI := sampleURL
  parse := sampleURL
  isPrint c := 0x20 ≤ c.toNat && c.toNat < 0x7F

theorem sampleConfig_valid : sampleConfig.validate sampleEnv = .ok () :=
  eq_ok_of_toOption (by decide)

def sampleDisk : Disk := ⟨.ok sampleFile, fun _ _ => .error "open cert.pem: no such file or directory"⟩

/-- What `BuildRuntime` makes of `sampleConfig`. -/
def sampleRuntime : Runtime :=
  (((newRuntime 1 ":8080" none true).addBackend "http://10.0.0.1:9000").addService [0]).addRoute
    (bytes "/api") (some 0)

/-- The sample in service, with the prober of its one backend. -/
def sampleWorld : World := .serving sampleRuntime sampleDisk [⟨0, 0, 1000000000⟩]

theorem sampleWorld_running : Running sampleWorld :=
  World.serving_running _ _ (by simp)

instance (w : World) (a : Action) : Decidable (Calm w a) := by
  unfold Calm
  split <;> infer_instance

/-- The next `n` steps of a thread that needs no choice. -/
def goes (tid n : Nat) : List Action := List.replicate n (.run tid .go)

end TorusProxy

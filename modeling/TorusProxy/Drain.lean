import TorusProxy.History

/-! What a shutdown that returned nil says about the runtimes. It stops the one
it captured; a runtime displaced before stays with the reload that displaced
it, and the one a failing `Serve` left behind stays with the start. -/
namespace TorusProxy

open Threads

/-- `Runtime.Stop` has nothing left to wait for. -/
structure Drained (w : World) (q : Rid) : Prop where
  cancelled : (w.shared.heap q).cancelled = true
  requests : ∀ t ∈ w.threads, t.holds ≠ some q
  workers : ∀ t ∈ w.threads, t.works ≠ some q

def ShutdownPC.returnedNil : ShutdownPC → Bool
  | .returned none | .completed _ none => true
  | _ => false

section
variable {env : Env} {w : World}

/-- `workerWG.Wait` has nothing left to wait for. -/
theorem Consistent.unworked (h : Consistent w) {q : Rid} (zero : (w.shared.heap q).workerWG = 0) :
    ∀ t ∈ w.threads, t.works ≠ some q := by
  intro t ht works
  have pos := h.works_le ht works
  omega

theorem Drained.of_stopFacts (h : Consistent w) {q : Rid} (facts : StopFacts w.shared q .done) :
    Drained w q := by
  obtain ⟨cancelled, requests, workers⟩ := facts
  refine ⟨cancelled, ?_, h.unworked workers⟩
  intro t ht holds
  have pos := h.holds_le ht holds
  omega

/-- The start has taken the active runtime. Its own `Stop` leaves it cancelled and without
probers, though requests may still acquire it. -/
structure TakenByStart (w : World) (sc : StartPC) : Prop where
  there : .start sc ∈ w.threads
  closed : (Thread.start sc).closed = 1
  stopped : (Thread.start sc).failStopping = some (w.shared.server.runtime, .done) →
    (w.shared.heap w.shared.server.runtime).cancelled = true ∧
      ∀ t ∈ w.threads, t.works ≠ some w.shared.server.runtime

/-- The active runtime after a nil result: stopped, unless the start took it. -/
theorem Owned.active_drained (h : Owned w) {pc : ShutdownPC} (ht : .shutdown pc ∈ w.threads)
    (returned : pc.returnedNil = true) :
    Drained w w.shared.server.runtime ∨ ∃ sc, TakenByStart w sc := by
  have consistent := h.serving.consistent
  have of_completed {rt : Rid} (hc : .shutdown (.completed rt none) ∈ w.threads) :
      Drained w w.shared.server.runtime := by
    obtain rfl := h.serving.captured _ hc rt rfl
    exact .of_stopFacts consistent (h.serving.stops _ hc _ .done rfl)
  cases pc with
  | completed rt err =>
    cases err with
    | none => exact .inl (of_completed ht)
    | some err => cases returned
  | returned err =>
    cases err with
    | some err => cases returned
    | none =>
      have finished := h.answers _ ht rfl
      have ended := h.not_running_of_finished finished
      obtain ⟨u, hu, closed⟩ := h.serving.exists_closed ended
      have final := h.final _ ht none rfl u hu closed
      cases u with
      | start sc =>
        refine .inr ⟨sc, hu, closed, fun done => ?_⟩
        obtain ⟨cancelled, workers⟩ := h.serving.failStops _ hu _ .done done
        exact ⟨cancelled, consistent.unworked workers⟩
      | shutdown qc =>
        cases qc with
        | completed rt e =>
          have same : e = none := (h.publishes _ hu e rfl).symm.trans (h.results _ ht none rfl)
          exact .inl (of_completed (same ▸ hu))
        | _ => cases final
      | request | reload | manager | prober => cases final
  | _ => cases returned

/-- Whenever a call of `Shutdown` has returned nil, every runtime that was
installed is stopped, but for one whose displacing reload has not finished its
stop and for the one the start took when `Serve` failed: behind the start's own
stop that one is cancelled and has no probers. -/
theorem shutdown_nil_drains {ok : World → Action → Prop} {w₀ : World} (init : Running w₀)
    (r : Run env ok w₀ w) {pc : ShutdownPC} (ht : .shutdown pc ∈ w.threads)
    (returned : pc.returnedNil = true) :
    ∀ q ∈ w.shared.installed, Drained w q ∨
      (∃ t ∈ w.threads, t.owned = some (q, .displaced) ∧ t.stopping ≠ some (q, .done)) ∨
      (q = w.shared.server.runtime ∧ ∃ sc, TakenByStart w sc) := by
  have owned := init.owned.run r
  have history := init.history.run init.consistent r
  intro q hq
  by_cases active : q = w.shared.server.runtime
  · subst active
    rcases owned.active_drained ht returned with drained | failed
    · exact .inl drained
    · exact .inr (.inr ⟨rfl, failed⟩)
  · obtain ⟨t, ht, displaced⟩ := history.displacer owned.serving.consistent hq active
    by_cases done : t.stopping = some (q, .done)
    · exact .inl (.of_stopFacts owned.serving.consistent (owned.serving.stops t ht q .done done))
    · exact .inr (.inl ⟨t, ht, displaced, done⟩)

end

/-- A reload has swapped and not yet stopped the old runtime when a whole
shutdown runs and returns nil. -/
def shutdownDuringReload : List Action :=
  [.call (.reload { sampleRuntime with generation := 2 })] ++ goes 2 5 ++ [.call .shutdown] ++
    goes 3 9 ++ [.run 3 .ok] ++ goes 3 10

theorem shutdown_nil_not_all_drained :
    ¬ ∀ (env : Env) (w₀ w : World), Running w₀ → Run env (fun _ _ => True) w₀ w →
      ∀ pc, .shutdown pc ∈ w.threads → pc.returnedNil = true →
        ∀ q ∈ w.shared.installed, Drained w q := by
  intro claim
  obtain ⟨w, r, ht, hq, live⟩ := Exec.exists_run_of_execWhile (World.step sampleEnv)
    (fun _ _ => True) sampleWorld shutdownDuringReload
    (fun w => .shutdown (.completed 1 none) ∈ w.threads ∧ 0 ∈ w.shared.installed ∧
      (w.shared.heap 0).cancelled = false)
    (by decide)
  have drained := claim sampleEnv sampleWorld w sampleWorld_running r _ ht rfl 0 hq
  rw [drained.cancelled] at live
  cases live

/-- The same run to its end: the reload finishes its stop. -/
theorem shutdown_nil_drains_displaced :
    ∃ w, Run sampleEnv (fun _ _ => True) sampleWorld w ∧
      .shutdown (.completed 1 none) ∈ w.threads ∧ 0 ∈ w.shared.installed ∧ Drained w 0 := by
  obtain ⟨w, r, ht, hq, active, done⟩ := Exec.exists_run_of_execWhile (World.step sampleEnv)
    (fun _ _ => True) sampleWorld
    (shutdownDuringReload ++ goes 2 4 ++ goes 1 1 ++ [.run 1 .ctxDone] ++ goes 1 1 ++ goes 2 2)
    (fun w => .shutdown (.completed 1 none) ∈ w.threads ∧ 0 ∈ w.shared.installed ∧
      w.shared.server.runtime = 1 ∧
      ∀ t ∈ w.threads, t.owned = some (0, .displaced) → t.stopping = some (0, .done))
    (by decide)
  refine ⟨w, r, ht, hq, ?_⟩
  rcases shutdown_nil_drains sampleWorld_running r ht rfl 0 hq with drained | ⟨t, hm, owned, open_⟩ |
    ⟨same, -⟩
  · exact drained
  · exact absurd (done t hm owned) open_
  · rw [active] at same
    cases same

end TorusProxy

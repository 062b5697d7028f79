import TorusProxy.Frames

/-! What each kind of step does to the metrics. -/
namespace TorusProxy

section
variable {sh sh' : Shared}

theorem StopMove.metrics {r : Rid} {p p' : StopPC} (h : StopMove sh r p sh' p') :
    sh'.metrics = sh.metrics := by
  cases h <;> rfl

theorem ShutdownMove.metrics {pc pc' : ShutdownPC} (h : ShutdownMove sh pc sh' pc') :
    sh'.metrics = sh.metrics := by
  cases h with
  | announce hm | take hm => exact Shared.tryMu_same (·.metrics) (fun _ => rfl) hm
  | stop rt move => exact move.metrics
  | _ => rfl

theorem StartMove.metrics {pc pc' : StartPC} (h : StartMove sh pc sh' pc') :
    sh'.metrics = sh.metrics := by
  cases h with
  | failLock err hm | failLocking err hm => exact Shared.tryMu_same (·.metrics) (fun _ => rfl) hm
  | listenStop rt err move | failStop rt err move => exact move.metrics
  | _ => rfl

variable {β : Type} (π : Metrics → β) (health : ∀ b m, π (setBackendHealth b m) = π m)
  (generation : ∀ m g, π { m with generation := g } = π m)
  (success : ∀ m n, π { m with reloadsSuccess := n } = π m)
  (failure : ∀ m n, π { m with reloadsFailure := n } = π m)
  (inflight : ∀ m n, π { m with inflight := n } = π m)
  (requests : ∀ m f, π { m with requestsTotal := f } = π m)

include inflight requests in
theorem httpHandler_metrics_same {req : Request} {pc pc' : HandlerPC} {c : Choice}
    (h : httpHandler req sh c pc = some (sh', pc')) : π sh'.metrics = π sh.metrics := by
  cases httpHandler_step h with
  | rLock hm => rw [Shared.tryMu_same (·.metrics) (fun _ => rfl) hm]
  | track | untrack => exact inflight _ _
  | record => exact requests _ _
  | _ => rfl

include health in
theorem prober_metrics_same {p : Prober} {pc pc' : ProberPC} {c : Choice} {new : Bool}
    (h : prober p sh c pc = some (sh', pc', new)) : π sh'.metrics = π sh.metrics := by
  cases prober_step h with
  | expose v x => exact health _ _
  | verdict | store | lose | register | exit | quiet => rfl

include generation success in
theorem ReloadMove.metrics_same {new : Rid} {pc pc' : ReloadPC}
    (h : ReloadMove new sh pc sh' pc') : π sh'.metrics = π sh.metrics := by
  cases h with
  | lock hm | locking hm => rw [Shared.tryMu_same (·.metrics) (fun _ => rfl) hm]
  | setGeneration old => exact generation _ _
  | recordReload old => exact success _ _
  | stop old move => rw [move.metrics]
  | accept | refuse | reject | swap | unlock | stopped => rfl

include health generation success failure in
theorem ManagerMove.metrics_same {env : Env} {pc pc' : ManagerPC} {new : Option Prober}
    (h : ManagerMove env sh pc sh' pc' new) : π sh'.metrics = π sh.metrics := by
  cases h with
  | backend cfg rt => exact health _ _
  | reload cfg rt move => exact move.metrics_same π generation success
  | stop cfg rt move => rw [move.metrics]
  | recordFailure out => exact failure _ _
  | _ => rfl

end
end TorusProxy

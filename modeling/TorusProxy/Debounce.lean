import TorusProxy.Watcher

/-! What a debouncing loop may do, as a machine of its own, and that the
watcher's loop does nothing else. -/
namespace TorusProxy

/-! ## The abstract debouncer -/

def Mark.isReload : Mark → Bool
  | .reload _ => true
  | _ => false

def Mark.isRelevant (relevant : Event → Bool) : Mark → Bool
  | .event e _ => relevant e
  | _ => false

/-- The marks since the start of the last reload, or all if there was none. -/
def since (log : List Mark) : List Mark := log.takeWhile fun m => !m.isReload

/-- The histories of a debouncer. `busy` is during a reload, `pending` the timer
whose expiry starts the next one, and `n` timers have been armed. -/
inductive Debounced (relevant : Event → Bool) : Bool → Option Nat → Nat → List Mark → Prop
  | begin : Debounced relevant false none 0 []
  | skip {pending : Option Nat} {n : Nat} {log : List Mark} (e : Event)
      (h : Debounced relevant false pending n log) (irrelevant : relevant e = false) :
      Debounced relevant false pending n (.event e none :: log)
  | arm {pending : Option Nat} {n : Nat} {log : List Mark} (e : Event)
      (h : Debounced relevant false pending n log) (hit : relevant e = true) :
      Debounced relevant false (some n) (n + 1) (.event e (some n) :: log)
  | call {t n : Nat} {log : List Mark} (h : Debounced relevant false (some t) n log) :
      Debounced relevant true none n (.reload t :: log)
  | done {pending : Option Nat} {n : Nat} {log : List Mark}
      (h : Debounced relevant true pending n log) :
      Debounced relevant false pending n (.done :: log)

theorem mem_of_mem_since {m : Mark} {t : Nat} {mid older : List Mark}
    (h : m ∈ since (mid ++ .reload t :: older)) : m ∈ mid := by
  induction mid with
  | nil => simp [since, Mark.isReload] at h
  | cons x mid ih =>
    by_cases hx : x.isReload = true
    · simp [since, hx] at h
    · have hx : x.isReload = false := by simpa using hx
      simp only [since, List.cons_append, List.takeWhile_cons, hx, Bool.not_false,
        if_true] at h
      rcases List.mem_cons.mp h with rfl | h
      · exact List.mem_cons_self
      · exact List.mem_cons_of_mem x (ih h)

theorem mem_since {m : Mark} {newer older : List Mark} (hm : m.isReload = false)
    (none : ∀ t, .reload t ∉ newer) : m ∈ since (newer ++ m :: older) := by
  induction newer with
  | nil => simp [since, hm]
  | cons x newer ih =>
    have hx : x.isReload = false := by
      cases x with
      | reload t => exact absurd List.mem_cons_self (none t)
      | event | done => rfl
    have rest := ih fun t ht => none t (List.mem_cons_of_mem x ht)
    simp only [since, List.cons_append, List.takeWhile_cons, hx, Bool.not_false, if_true]
    exact List.mem_cons_of_mem x rest

namespace Debounced

variable {relevant : Event → Bool} {busy : Bool} {pending : Option Nat} {n : Nat} {log : List Mark}

/-- A timer is pending exactly when a relevant event came since the last start. -/
theorem pending_iff (h : Debounced relevant busy pending n log) :
    pending.isSome = true ↔ ∃ e o, .event e o ∈ since log ∧ relevant e = true := by
  induction h with
  | begin => simp [since]
  | skip e h irrelevant ih =>
    rw [ih]
    constructor
    · rintro ⟨e', o, mem, hit⟩
      exact ⟨e', o, List.mem_cons_of_mem _ mem, hit⟩
    · rintro ⟨e', o, mem, hit⟩
      rcases List.mem_cons.mp mem with same | mem
      · cases same
        rw [irrelevant] at hit
        cases hit
      · exact ⟨e', o, mem, hit⟩
  | arm e h hit ih => exact ⟨fun _ => ⟨e, _, List.mem_cons_self, hit⟩, fun _ => rfl⟩
  | call h ih => simp [since, Mark.isReload]
  | done h ih =>
    rw [ih]
    constructor
    · rintro ⟨e, o, mem, hit⟩
      exact ⟨e, o, List.mem_cons_of_mem _ mem, hit⟩
    · rintro ⟨e, o, mem, hit⟩
      rcases List.mem_cons.mp mem with same | mem
      · cases same
      · exact ⟨e, o, mem, hit⟩

theorem armed_iff (h : Debounced relevant busy pending n log) {e : Event} {o : Option Nat}
    (mem : .event e o ∈ log) : o.isSome = true ↔ relevant e = true := by
  induction h with
  | begin => cases mem
  | skip e' h irrelevant ih =>
    rcases List.mem_cons.mp mem with same | mem
    · cases same
      simp [irrelevant]
    · exact ih mem
  | arm e' h hit ih =>
    rcases List.mem_cons.mp mem with same | mem
    · cases same
      simp [hit]
    · exact ih mem
  | call h ih | done h ih =>
    rcases List.mem_cons.mp mem with same | mem
    · cases same
    · exact ih mem

theorem armed_lt (h : Debounced relevant busy pending n log) {e : Event} {t : Nat}
    (mem : .event e (some t) ∈ log) : t < n := by
  induction h with
  | begin => cases mem
  | skip e' h irrelevant ih =>
    rcases List.mem_cons.mp mem with same | mem
    · cases same
    · exact ih mem
  | arm e' h hit ih =>
    rcases List.mem_cons.mp mem with same | mem
    · cases same
      exact Nat.lt_succ_self _
    · exact Nat.lt_succ_of_lt (ih mem)
  | call h ih | done h ih =>
    rcases List.mem_cons.mp mem with same | mem
    · cases same
    · exact ih mem

/-- After a timer was armed, only it or a later one is pending or has caused a
reload. -/
theorem armed_latest (h : Debounced relevant busy pending n log) {newer older : List Mark}
    {e : Event} {t : Nat} (split : log = newer ++ .event e (some t) :: older) :
    (∀ p, pending = some p → t ≤ p) ∧ ∀ p, .reload p ∈ newer → t ≤ p := by
  induction h generalizing newer with
  | begin => simp at split
  | skip e' h irrelevant ih =>
    cases newer with
    | nil => cases split
    | cons m newer =>
      obtain ⟨rfl, rest⟩ := List.cons_eq_cons.mp split
      simpa using ih rest
  | arm e' h hit ih =>
    cases newer with
    | nil =>
      cases split
      simp
    | cons m newer =>
      obtain ⟨rfl, rest⟩ := List.cons_eq_cons.mp split
      have earlier := h.armed_lt (by rw [rest]; exact List.mem_append_right newer List.mem_cons_self)
      obtain ⟨-, reloads⟩ := ih rest
      refine ⟨?_, by simpa using reloads⟩
      rintro p ⟨⟩
      exact Nat.le_of_lt earlier
  | call h ih =>
    cases newer with
    | nil => cases split
    | cons m newer =>
      obtain ⟨rfl, rest⟩ := List.cons_eq_cons.mp split
      obtain ⟨le, reloads⟩ := ih rest
      refine ⟨by simp, fun p mem => ?_⟩
      rcases List.mem_cons.mp mem with same | mem
      · cases same
        exact le _ rfl
      · exact reloads p mem
  | done h ih =>
    cases newer with
    | nil => cases split
    | cons m newer =>
      obtain ⟨rfl, rest⟩ := List.cons_eq_cons.mp split
      simpa using ih rest

/-- A part of a history is one. -/
theorem older (h : Debounced relevant busy pending n log) {newer rest : List Mark}
    (split : log = newer ++ rest) : ∃ busy' pending' n', Debounced relevant busy' pending' n' rest := by
  induction newer generalizing busy pending n log with
  | nil =>
    subst split
    exact ⟨busy, pending, n, h⟩
  | cons m newer ih =>
    subst split
    cases h with
    | skip e h _ | arm e h _ | call h | done h => exact ih h rfl

theorem superseded (h : Debounced relevant busy pending n log) {newer mid older : List Mark}
    {e e' : Event} {t t' : Nat}
    (split : log = newer ++ .event e' (some t') :: (mid ++ .event e (some t) :: older)) :
    .reload t ∉ newer := by
  intro mem
  have le := (h.armed_latest split).2 t mem
  obtain ⟨_, _, _, at_arm⟩ := h.older split
  cases at_arm with
  | arm _ before _ =>
    have lt := before.armed_lt (List.mem_append_right mid List.mem_cons_self)
    omega

/-- Outside a reload, the last one has returned. -/
theorem returned (h : Debounced relevant busy pending n log) (idle : busy = false) {t : Nat}
    (mem : .reload t ∈ log) : .done ∈ since log := by
  induction h with
  | begin => cases mem
  | skip e h _ ih | arm e h _ ih =>
    rcases List.mem_cons.mp mem with same | mem
    · cases same
    · exact List.mem_cons_of_mem _ (ih rfl mem)
  | call h ih => cases idle
  | done h ih => exact List.mem_cons_self

theorem between (h : Debounced relevant busy pending n log) {newer mid older : List Mark}
    {t t' : Nat} (split : log = newer ++ .reload t' :: (mid ++ .reload t :: older)) :
    .done ∈ mid ∧ ∃ e o, .event e o ∈ mid ∧ relevant e = true := by
  obtain ⟨_, _, _, at_call⟩ := h.older split
  cases at_call with
  | call before =>
    refine ⟨?_, ?_⟩
    · exact mem_of_mem_since (before.returned rfl (List.mem_append_right mid List.mem_cons_self))
    · obtain ⟨e, o, mem, hit⟩ := before.pending_iff.mp rfl
      exact ⟨e, o, mem_of_mem_since mem, hit⟩

theorem reloads_le (h : Debounced relevant busy pending n log) :
    log.countP Mark.isReload + pending.toList.length ≤ log.countP (Mark.isRelevant relevant) := by
  induction h with
  | begin => simp
  | skip e h irrelevant ih => simpa [Mark.isReload, Mark.isRelevant, irrelevant] using ih
  | arm e h hit ih =>
    have one := Nat.succ_le_succ (Nat.le_of_add_right_le ih)
    simpa [Mark.isReload, Mark.isRelevant, hit, List.countP_cons] using one
  | call h ih => simpa [Mark.isReload, Mark.isRelevant, List.countP_cons] using ih
  | done h ih => simpa [Mark.isReload, Mark.isRelevant] using ih

theorem covered (h : Debounced relevant busy none n log) {newer older : List Mark} {e : Event}
    {o : Option Nat} (split : log = newer ++ .event e o :: older) (hit : relevant e = true) :
    ∃ t, .reload t ∈ newer := by
  by_contra none
  have mem : .event e o ∈ since log := by
    rw [split]
    exact mem_since rfl (not_exists.mp none)
  have some := h.pending_iff.mpr ⟨e, o, mem, hit⟩
  cases some

end Debounced

/-! ## The watcher's loop is one -/

/-- The path is the watched one and the operation is a write, create or rename. -/
def relevant (wd : Except String Bytes) (configPath : Bytes) (e : Event) : Bool :=
  match Filepath.abs wd configPath, Filepath.abs wd e.name with
  | .ok path, .ok eventPath =>
    eventPath == path && e.op &&& (Op.write ||| Op.create ||| Op.rename) != 0
  | _, _ => false

/-- Has computed the absolute path and not returned. -/
def WatcherPC.watching : WatcherPC → Bool
  | .newWatcher | .abs | .returned _ => false
  | _ => true

/-- The events that have come and are not processed. -/
def Watcher.queue (w : Watcher) : List Event :=
  match w.pc with
  | .event e => e :: w.events
  | _ => w.events

/-- No step touches the timer variables or the history, loses an event, or
begins or ends a reload. -/
structure Watcher.Quiet (w w' : Watcher) : Prop where
  configPath : w'.configPath = w.configPath
  busy : decide (w'.pc = .reload) = decide (w.pc = .reload)
  received : ∀ t, w'.pc = .received t → w.pc = .received t
  debounceC : w'.debounceC = w.debounceC
  timers : w'.timers.length = w.timers.length
  log : w'.log = w.log
  cancelled : w.cancelled = true → w'.cancelled = true
  queue : ∃ more, w'.queue = w.queue ++ more

/-- Everything one step can do to the debouncing. -/
inductive WatcherMove (wd : Except String Bytes) (w : Watcher) : WatcherAction → Watcher → Prop
  | quiet {a : WatcherAction} {w' : Watcher} (h : w.Quiet w')
      (path : w'.pc.watching = true → w.pc.watching = true ∧ w'.watched = w.watched ∨
        Filepath.abs wd w.configPath = .ok w'.watched) : WatcherMove wd w a w'
  | skip (c : WatcherChoice) (e : Event) (site : w.pc = .event e)
      (other : Filepath.abs wd e.name = .ok w.watched →
        e.op &&& (Op.write ||| Op.create ||| Op.rename) = 0) :
      WatcherMove wd w (.run c) (w.skip e)
  | arm (c : WatcherChoice) (e : Event) (site : w.pc = .event e)
      (name : Filepath.abs wd e.name = .ok w.watched)
      (op : e.op &&& (Op.write ||| Op.create ||| Op.rename) ≠ 0) :
      WatcherMove wd w (.run c) (w.arm e)
  | receive (t : Nat) (site : w.pc = .select) (pending : w.debounceC = some t)
      (expired : w.expired = true) : WatcherMove wd w (.run .debounceC) (w.receive t)
  | call (c : WatcherChoice) (t : Nat) (site : w.pc = .received t) :
      WatcherMove wd w (.run c) (w.callReload t)
  | done (c : WatcherChoice) (pc : WatcherPC) (site : w.pc = .reload)
      (next : pc = .select ∨ pc = .recordFailure) :
      WatcherMove wd w (.run c) { w with pc := pc, log := .done :: w.log }

section
variable {wd : Except String Bytes} {w w' : Watcher} {a : WatcherAction}

theorem Watcher.select_move {c : WatcherChoice} (site : w.pc = .select)
    (h : w.select c = some w') : WatcherMove wd w (.run c) w' := by
  have idle {pc : WatcherPC} (hpc : pc ≠ .reload) :
      decide (pc = .reload) = decide (w.pc = .reload) := by
    rw [site]
    simp [hpc]
  cases c with
  | go | ok | fail => cases h
  | ctxDone =>
    simp only [Watcher.select] at h
    split at h <;> cases h
    exact .quiet ⟨rfl, idle (by simp [Watcher.returnWith]), by rintro t ⟨⟩, rfl, w.stopDebounce_length, rfl, id,
      ⟨[], by simp [Watcher.queue, site, Watcher.returnWith, Watcher.stopDebounce]⟩⟩ (by rintro ⟨⟩)
  | events =>
    simp only [Watcher.select] at h
    split at h
    · rename_i e rest received
      cases h
      exact .quiet ⟨rfl, idle (by simp), by rintro t ⟨⟩, rfl, rfl, rfl, id,
        ⟨[], by simp [Watcher.queue, site, received]⟩⟩ fun _ => .inl ⟨by rw [site]; rfl, rfl⟩
    · split at h <;> cases h
      exact .quiet ⟨rfl, idle (by simp [Watcher.returnWith]), by rintro t ⟨⟩, rfl, rfl, rfl, id,
        ⟨[], by simp [Watcher.queue, site, Watcher.returnWith]⟩⟩ (by rintro ⟨⟩)
  | debounceC =>
    simp only [Watcher.select] at h
    split at h
    · rename_i t pending
      split at h <;> cases h
      rename_i expired
      exact .receive t site pending expired
    · cases h
  | errors =>
    simp only [Watcher.select] at h
    split at h
    · cases h
      exact .quiet ⟨rfl, rfl, fun _ => id, rfl, rfl, rfl, id, ⟨[], by simp [Watcher.queue]⟩⟩
        fun watching => .inl ⟨watching, rfl⟩
    · split at h <;> cases h
      exact .quiet ⟨rfl, idle (by simp [Watcher.returnWith]), by rintro t ⟨⟩, rfl, rfl, rfl, id,
        ⟨[], by simp [Watcher.queue, site, Watcher.returnWith]⟩⟩ (by rintro ⟨⟩)

theorem Watcher.handle_move {c : WatcherChoice} {e : Event} (site : w.pc = .event e) :
    WatcherMove wd w (.run c) (w.handle wd e) := by
  unfold Watcher.handle
  split
  · rename_i err hname
    exact .skip c e site (by simp [hname])
  · rename_i eventPath hname
    split
    · rename_i other
      exact .skip c e site (by simp [hname, other])
    · rename_i this
      have this : eventPath = w.watched := by simpa using this
      subst this
      split
      · rename_i op
        exact .skip c e site fun _ => op
      · rename_i op
        exact .arm c e site hname op

theorem Watcher.start_move {c : WatcherChoice} (h : w.start wd c = some w') :
    WatcherMove wd w (.run c) w' := by
  unfold Watcher.start at h
  have quiet {pc : WatcherPC} (leaves : w.pc ≠ .reload) (hpc : pc ≠ .reload)
      (received : ∀ t, pc ≠ .received t)
      (queue : ({ w with pc := pc } : Watcher).queue = w.queue) : w.Quiet { w with pc := pc } :=
    ⟨rfl, by simp [leaves, hpc], fun t here => absurd here (received t), rfl, rfl, rfl, id,
      ⟨[], by simp [queue]⟩⟩
  split at h
  · rename_i site
    split at h <;> cases h
    · exact .quiet (quiet (by simp [site]) (by simp) (by simp) (by simp [Watcher.queue, site])) (by rintro ⟨⟩)
    · exact .quiet (quiet (by simp [site]) (by simp) (by simp) (by simp [Watcher.queue, site])) (by rintro ⟨⟩)
  · rename_i site
    split at h <;> cases h
    · exact .quiet (quiet (by simp [site]) (by simp) (by simp) (by simp [Watcher.queue, site])) (by rintro ⟨⟩)
    · rename_i path hp
      exact .quiet ⟨rfl, by simp [site], by rintro t ⟨⟩, rfl, rfl, rfl, id,
        ⟨[], by simp [Watcher.queue, site]⟩⟩
        fun _ => .inr hp
  · rename_i site
    split at h <;> cases h
    · exact .quiet (quiet (by simp [site]) (by simp) (by simp) (by simp [Watcher.queue, site]))
        fun _ => .inl ⟨by rw [site]; rfl, rfl⟩
    · exact .quiet (quiet (by simp [site]) (by simp) (by simp) (by simp [Watcher.queue, site])) (by rintro ⟨⟩)
  · rename_i site
    exact Watcher.select_move site h
  · rename_i e site
    cases h
    exact Watcher.handle_move site
  · rename_i t site
    cases h
    exact .call c t site
  · rename_i site
    split at h <;> cases h
    · exact .done _ .select site (.inl rfl)
    · exact .done _ .recordFailure site (.inr rfl)
  · rename_i site
    cases h
    exact .quiet ⟨rfl, by simp [site], by rintro t ⟨⟩, rfl, rfl, rfl, id,
        ⟨[], by simp [Watcher.queue, site]⟩⟩
      fun _ => .inl ⟨by rw [site]; rfl, rfl⟩
  · cases h

theorem Watcher.next_move (h : w.next wd a = some w') : WatcherMove wd w a w' := by
  have kept {w' : Watcher} (pc : w'.pc = w.pc) (quiet : w.Quiet w') (same : w'.watched = w.watched) :
      WatcherMove wd w a w' :=
    .quiet quiet fun watching => .inl ⟨pc ▸ watching, same⟩
  have same {w' : Watcher} (queue : w'.queue = w.queue) : ∃ more, w'.queue = w.queue ++ more :=
    ⟨[], by simp [queue]⟩
  cases a with
  | run c => exact Watcher.start_move h
  | cancel => cases h; exact kept rfl ⟨rfl, rfl, fun _ => id, rfl, rfl, rfl, fun _ => rfl, same rfl⟩ rfl
  | closeEvents | closeErrors =>
    cases h
    exact kept rfl ⟨rfl, rfl, fun _ => id, rfl, rfl, rfl, id, same rfl⟩ rfl
  | deliver e =>
    simp only [Watcher.next] at h
    split at h <;> cases h
    have later : ∃ more, ({ w with events := w.events ++ [e] } : Watcher).queue = w.queue ++ more := by
      refine ⟨[e], ?_⟩
      cases hp : w.pc <;> simp [Watcher.queue, hp]
    exact kept rfl ⟨rfl, rfl, fun _ => id, rfl, rfl, rfl, id, later⟩ rfl
  | report err =>
    simp only [Watcher.next] at h
    split at h <;> cases h
    exact kept rfl ⟨rfl, rfl, fun _ => id, rfl, rfl, rfl, id, same rfl⟩ rfl
  | fire t =>
    simp only [Watcher.next] at h
    split at h <;> cases h
    exact kept rfl ⟨rfl, rfl, fun _ => id, rfl, List.length_modify _ _ _, rfl, id, same rfl⟩ rfl

/-- The loop is in a history of the abstract debouncer. -/
structure Debouncing (wd : Except String Bytes) (path : Bytes) (w : Watcher) : Prop where
  configPath : w.configPath = path
  placed : w.pc.watching = true → Filepath.abs wd path = .ok w.watched
  received : ∀ t, w.pc = .received t → w.debounceC = some t
  history : Debounced (relevant wd path) (decide (w.pc = .reload)) w.debounceC w.timers.length w.log

namespace Debouncing

variable {path : Bytes}

theorem idle (h : Debouncing wd path w) (hpc : w.pc ≠ .reload) :
    Debounced (relevant wd path) false w.debounceC w.timers.length w.log := by
  have history := h.history
  rwa [decide_eq_false hpc] at history

theorem irrelevant (h : Debouncing wd path w) {e : Event} (site : w.pc = .event e)
    (other : Filepath.abs wd e.name = .ok w.watched →
      e.op &&& (Op.write ||| Op.create ||| Op.rename) = 0) : relevant wd path e = false := by
  have placed := h.placed (by rw [site]; rfl)
  cases hname : Filepath.abs wd e.name with
  | error err => simp [relevant, placed, hname]
  | ok eventPath =>
    by_cases this : eventPath = w.watched
    · subst this
      simp [relevant, placed, hname, other hname]
    · simp [relevant, placed, hname, this]

theorem step (h : Debouncing wd path w) (hs : w.next wd a = some w') : Debouncing wd path w' := by
  cases Watcher.next_move hs with
  | quiet quiet watched =>
    refine ⟨quiet.configPath.trans h.configPath, fun watching => ?_, ?_, ?_⟩
    · rcases watched watching with ⟨before, same⟩ | now
      · rw [same]
        exact h.placed before
      · rw [← h.configPath]
        exact now
    · intro t here
      rw [quiet.debounceC]
      exact h.received t (quiet.received t here)
    · rw [quiet.busy, quiet.debounceC, quiet.timers, quiet.log]
      exact h.history
  | skip c e site other =>
    exact ⟨h.configPath, fun _ => h.placed (by rw [site]; rfl), by rintro t ⟨⟩,
      .skip e (h.idle (by simp [site])) (h.irrelevant site other)⟩
  | arm c e site name op =>
    have placed := h.placed (by rw [site]; rfl)
    have hit : relevant wd path e = true := by simp [relevant, placed, name, op]
    have length : (w.arm e).timers.length = w.timers.length + 1 := by simp [Watcher.arm]
    refine ⟨h.configPath, fun _ => placed, by rintro t ⟨⟩, ?_⟩
    rw [length]
    exact (h.idle (by simp [site])).arm e hit
  | receive t site pending expired =>
    refine ⟨h.configPath, fun _ => h.placed (by rw [site]; rfl), ?_, ?_⟩
    · rintro _ ⟨⟩
      exact pending
    · simpa [Watcher.receive] using h.idle (by simp [site])
  | call c t site =>
    have idle := h.idle (by simp [site])
    rw [h.received t site] at idle
    exact ⟨h.configPath, fun _ => h.placed (by rw [site]; rfl), by rintro t ⟨⟩, idle.call⟩
  | done c pc site next =>
    have busy := h.history
    rw [site] at busy
    refine ⟨h.configPath, fun _ => h.placed (by rw [site]; rfl), ?_, ?_⟩
    · rcases next with rfl | rfl <;> rintro t ⟨⟩
    · rcases next with rfl | rfl <;> exact busy.done

theorem new (wd : Except String Bytes) (path : Bytes) : Debouncing wd path (Watcher.new path) :=
  ⟨rfl, by rintro ⟨⟩, by rintro t ⟨⟩, .begin⟩

end Debouncing

/-- Any order of the steps of the watcher's goroutine, of the file system and
of the clock. -/
abbrev Watcher.Run (wd : Except String Bytes) (ok : Watcher → WatcherAction → Prop) :
    Watcher → Watcher → Prop :=
  Exec.Run (Watcher.next wd) ok

theorem Debouncing.run {path : Bytes} {ok : Watcher → WatcherAction → Prop}
    (h : Debouncing wd path w) (r : Watcher.Run wd ok w w') : Debouncing wd path w' :=
  r.invariant (Debouncing wd path) h fun _ _ _ _ inv _ hs => inv.step hs

end

/-- What the loop keeps to. The history reads from the latest mark back. -/
structure DebounceLoop (relevant : Event → Bool) (w : Watcher) : Prop where
  armed : ∀ e o, .event e o ∈ w.log → (o.isSome = true ↔ relevant e = true)
  pending : w.pc = .select →
    (w.debounceC.isSome = true ↔ ∃ e o, .event e o ∈ since w.log ∧ relevant e = true)
  superseded : ∀ newer mid older e e' t t',
    w.log = newer ++ .event e' (some t') :: (mid ++ .event e (some t) :: older) →
      .reload t ∉ newer
  between : ∀ newer mid older t t', w.log = newer ++ .reload t' :: (mid ++ .reload t :: older) →
    .done ∈ mid ∧ ∃ e o, .event e o ∈ mid ∧ relevant e = true
  fewer : w.log.countP Mark.isReload ≤ w.log.countP (Mark.isRelevant relevant)
  covered : w.pc = .select → w.debounceC = none → ∀ newer older e o,
    w.log = newer ++ .event e o :: older → relevant e = true → ∃ t, .reload t ∈ newer

/-- Whatever the order of events, expiries, calls of `Stop` and reloads of any
length, a relevant event is never lost and never answered twice. -/
theorem debounce_loop {wd : Except String Bytes} {path : Bytes} {w : Watcher}
    (r : Watcher.Run wd (fun _ _ => True) (.new path) w) :
    DebounceLoop (relevant wd path) w := by
  have history := ((Debouncing.new wd path).run r).history
  constructor
  · intro e o mem
    exact history.armed_iff mem
  · intro _
    exact history.pending_iff
  · intro newer mid older e e' t t' split
    exact history.superseded split
  · intro newer mid older t t' split
    exact history.between split
  · exact Nat.le_of_add_right_le history.reloads_le
  · intro _ none newer older e o split hit
    rw [none] at history
    exact history.covered split hit

def samplePath : Bytes := bytes "/etc/torus.yaml"

def sampleWrite : Event := ⟨samplePath, Op.write⟩

/-- Up to the first `select`. -/
def watchAdded : List WatcherAction := [.run .ok, .run .go, .run .ok]

/-- An event arrives and is processed. -/
def processed (e : Event) : List WatcherAction := [.deliver e, .run .events, .run .go]

/-- The first timer fires before the second write stops it; its value stays
unread and only the second timer reloads. -/
theorem debounce_loop_stale_timer :
    ∃ w, Watcher.Run (.error "getwd") (fun _ _ => True) (.new samplePath) w ∧
      w.timers.head? = some ⟨false, true⟩ ∧
      w.log = [.done, .reload 1, .event sampleWrite (some 1), .event sampleWrite (some 0)] ∧
      DebounceLoop (relevant (.error "getwd") samplePath) w := by
  obtain ⟨w, r, stale, log⟩ := Exec.exists_run_of_execWhile (Watcher.next (.error "getwd"))
    (fun _ _ => True) (.new samplePath)
    (watchAdded ++ processed sampleWrite ++ [.fire 0] ++ processed sampleWrite ++
      [.fire 1, .run .debounceC, .run .go, .run .ok])
    (fun w => w.timers.head? = some ⟨false, true⟩ ∧
      w.log = [.done, .reload 1, .event sampleWrite (some 1), .event sampleWrite (some 0)])
    (by decide)
  exact ⟨w, r, stale, log, debounce_loop r⟩

/-! ## Cancellation -/

/-- The timers whose expiry made the loop call `Reload`. -/
def Watcher.reloads (w : Watcher) : List Mark := w.log.filter Mark.isReload

def WatcherPC.receiving : WatcherPC → Bool
  | .received _ => true
  | _ => false

/-- No iteration of the loop finds its context cancelled and its timer expired, and
none is cancelled between the receive from its timer and the call of `Reload`. -/
def Apart (w : Watcher) : WatcherAction → Prop
  | .run _ => w.pc = .select → w.cancelled = true → w.expired = false
  | .cancel => w.pc.receiving = false
  | _ => True

instance (w : Watcher) (a : WatcherAction) : Decidable (Apart w a) := by
  unfold Apart
  split <;> infer_instance

section
variable {wd : Except String Bytes} {path : Bytes} {w w' : Watcher} {a : WatcherAction}

/-- A cancelled loop has no call of `Reload` ahead that nothing can stop. -/
def Uncommitted (w : Watcher) : Prop := w.cancelled = true → w.pc.receiving = false

theorem Watcher.next_cancelled (h : w.next wd a = some w') (cancelled : w.cancelled = true) :
    w'.cancelled = true := by
  cases Watcher.next_move h with
  | quiet quiet _ => exact quiet.cancelled cancelled
  | skip | arm | receive | call | done => exact cancelled

theorem Watcher.Quiet.receiving (h : w.Quiet w') (idle : w.pc.receiving = false) :
    w'.pc.receiving = false := by
  cases site : w'.pc with
  | received t =>
    rw [h.received t site] at idle
    cases idle
  | _ => rfl

theorem Watcher.handle_cancelled (wd : Except String Bytes) (w : Watcher) (e : Event) :
    (w.handle wd e).cancelled = w.cancelled := by
  unfold Watcher.handle
  split
  · rfl
  · split
    · rfl
    · split <;> rfl

theorem Watcher.select_cancelled {c : WatcherChoice} (h : w.select c = some w') :
    w'.cancelled = w.cancelled := by
  unfold Watcher.select at h
  split at h
  · split at h <;> cases h
    rfl
  · split at h
    · cases h
      rfl
    · split at h <;> cases h
      rfl
  · split at h
    · split at h <;> cases h
      rfl
    · cases h
  · split at h
    · cases h
      rfl
    · split at h <;> cases h
      rfl
  · cases h

/-- The loop reads its context and does not end it. -/
theorem Watcher.start_cancelled {c : WatcherChoice} (h : w.start wd c = some w') :
    w'.cancelled = w.cancelled := by
  unfold Watcher.start at h
  split at h
  · split at h <;> cases h <;> rfl
  · split at h <;> cases h <;> rfl
  · split at h <;> cases h <;> rfl
  · exact Watcher.select_cancelled h
  · cases h
    exact Watcher.handle_cancelled _ _ _
  · cases h
    rfl
  · split at h <;> cases h <;> rfl
  · cases h
    rfl
  · cases h

theorem Watcher.next_same_cancelled (h : w.next wd a = some w') (others : a ≠ .cancel) :
    w'.cancelled = w.cancelled := by
  cases a with
  | run c => exact Watcher.start_cancelled h
  | cancel => exact absurd rfl others
  | closeEvents | closeErrors => cases h; rfl
  | deliver | report | fire =>
    simp only [Watcher.next] at h
    split at h <;> cases h
    rfl

/-- Apart, a cancelled loop never stands between the receive and the call. -/
theorem Watcher.next_uncommitted (h : w.next wd a = some w') (apart : Apart w a)
    (before : Uncommitted w) : Uncommitted w' := by
  by_cases cancel : a = .cancel
  · subst cancel
    cases h
    exact fun _ => apart
  · intro cancelled
    rw [Watcher.next_same_cancelled h cancel] at cancelled
    cases Watcher.next_move h with
    | quiet quiet _ => exact quiet.receiving (before cancelled)
    | skip | arm | call => rfl
    | done c pc site next => rcases next with rfl | rfl <;> rfl
    | receive t site pending expired =>
      rw [apart site cancelled] at expired
      cases expired

/-- Of the steps of a cancelled loop only that call adds a reload. -/
theorem Watcher.next_reloads (h : w.next wd a = some w') (cancelled : w.cancelled = true)
    (uncommitted : Uncommitted w) : w'.reloads = w.reloads := by
  cases Watcher.next_move h with
  | quiet quiet _ => rw [Watcher.reloads, quiet.log]; rfl
  | skip | arm | receive | done => rfl
  | call c t site =>
    have idle := uncommitted cancelled
    rw [site] at idle
    cases idle

theorem Watcher.run_uncommitted (before : Uncommitted w) (r : Watcher.Run wd Apart w w') :
    Uncommitted w' :=
  r.invariant Uncommitted before fun _ _ _ _ inv apart hs => Watcher.next_uncommitted hs apart inv

theorem Watcher.run_reloads (cancelled : w.cancelled = true) (before : Uncommitted w)
    (r : Watcher.Run wd Apart w w') : w'.reloads = w.reloads := by
  refine (r.invariant (fun v => v.cancelled = true ∧ Uncommitted v ∧ v.reloads = w.reloads)
    ⟨cancelled, before, rfl⟩ ?_).2.2
  rintro a u v _ ⟨hc, hu, hr⟩ apart hs
  exact ⟨Watcher.next_cancelled hs hc, Watcher.next_uncommitted hs apart hu,
    (Watcher.next_reloads hs hc hu).trans hr⟩

theorem Watcher.callReload_reloads (w : Watcher) (t : Nat) : (w.callReload t).reloads ≠ w.reloads :=
  List.cons_ne_self _ _

/-- Where cancellation keeps apart from the timer, a cancelled loop makes no further
call of `Reload`. An iteration that finds both may make one, and one that has
received from its timer makes one whatever is cancelled then. -/
theorem cancelled_watcher_reloads (wd : Except String Bytes) (path : Bytes) :
    (∀ w w', Watcher.Run wd Apart (.new path) w → w.cancelled = true →
      Watcher.Run wd Apart w w' → w'.reloads = w.reloads) ∧
    (∀ w : Watcher, w.pc = .select → w.cancelled = true → w.expired = true →
      ∃ v w', w.next wd (.run .debounceC) = some v ∧ v.next wd (.run .go) = some w' ∧
        w'.reloads ≠ w.reloads) ∧
    ∀ (w : Watcher) t, w.pc = .received t →
      ∃ v w', w.next wd .cancel = some v ∧ v.cancelled = true ∧
        v.next wd (.run .go) = some w' ∧ w'.reloads ≠ v.reloads := by
  refine ⟨?_, ?_, ?_⟩
  · intro w w' r cancelled later
    exact Watcher.run_reloads cancelled (Watcher.run_uncommitted (fun _ => rfl) r) later
  · intro w site cancelled expired
    cases pending : w.debounceC with
    | none => simp [Watcher.expired, pending] at expired
    | some t =>
      refine ⟨w.receive t, (w.receive t).callReload t, ?_, rfl, Watcher.callReload_reloads _ t⟩
      simp [Watcher.next, Watcher.start, site, Watcher.select, pending, expired]
  · intro w t site
    refine ⟨_, ({ w with cancelled := true } : Watcher).callReload t, rfl, rfl, ?_,
      Watcher.callReload_reloads _ t⟩
    simp [Watcher.next, Watcher.start, site]

end

/-- A write is processed and an unrelated event received; while the loop looks
at that event its timer expires and the context is cancelled. -/
def lateExpiry : List WatcherAction :=
  watchAdded ++ processed sampleWrite ++
    [.deliver ⟨samplePath, Op.chmod⟩, .run .events, .fire 0, .cancel]

/-- The next `select` finds both cases ready and may take the timer's. -/
theorem cancelled_watcher_late_reload :
    ∃ w w', Watcher.Run (.error "getwd") (fun _ _ => True) (.new samplePath) w ∧
      Watcher.Run (.error "getwd") (fun _ _ => True) w w' ∧ w.cancelled = true ∧
      w.reloads = [] ∧ w'.reloads = [.reload 0] := by
  obtain ⟨w, w', r, later, cancelled, before, after⟩ := Exec.exists_runs_of_execWhile
    (Watcher.next (.error "getwd")) (fun _ _ => True) (fun _ _ => True) (.new samplePath) lateExpiry
    [.run .go, .run .debounceC, .run .go]
    (fun w w' => w.cancelled = true ∧ w.reloads = [] ∧ w'.reloads = [.reload 0])
    (by decide)
  exact ⟨w, w', r, later, cancelled, before, after⟩

/-- Cancelled before its timer expires, the loop stops the timer and returns. -/
theorem cancelled_watcher_reloads_returns :
    ∃ w w', Watcher.Run (.error "getwd") Apart (.new samplePath) w ∧
      Watcher.Run (.error "getwd") Apart w w' ∧ w.cancelled = true ∧
      w'.pc = .returned none ∧ w'.reloads = w.reloads := by
  obtain ⟨w, w', r, later, cancelled, ended⟩ := Exec.exists_runs_of_execWhile
    (Watcher.next (.error "getwd")) Apart Apart (.new samplePath)
    (watchAdded ++ processed sampleWrite ++ [.cancel]) [.run .ctxDone]
    (fun w w' => w.cancelled = true ∧ w'.pc = .returned none)
    (by decide)
  exact ⟨w, w', r, later, cancelled, ended,
    (cancelled_watcher_reloads _ _).1 w w' r cancelled later⟩

end TorusProxy

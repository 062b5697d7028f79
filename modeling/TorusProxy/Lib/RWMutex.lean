/-! A readers-writer lock with writer preference. A writer first announces
itself, which keeps new readers out, and takes the lock when the last reader
has left. -/

structure RWMutex where
  readers : Nat
  pending : Bool
  writer : Bool
  excludes : writer = true → readers = 0
  queues : pending = true → writer = false

namespace RWMutex

def free : RWMutex := ⟨0, false, false, by simp, by simp⟩

/-- Neither a writer nor an announced one. -/
def open? (m : RWMutex) : Bool := !m.pending && !m.writer

theorem open_iff {m : RWMutex} : m.open? = true ↔ m.pending = false ∧ m.writer = false := by
  simp [open?]

def rLock (m : RWMutex) : Option RWMutex :=
  if h : m.open? = true then
    some ⟨m.readers + 1, m.pending, m.writer, by simp [(open_iff.mp h).2], m.queues⟩
  else none

def rUnlock (m : RWMutex) : RWMutex :=
  ⟨m.readers - 1, m.pending, m.writer, fun h => by simp [m.excludes h], m.queues⟩

def announce (m : RWMutex) : Option RWMutex :=
  if h : m.open? = true then
    some ⟨m.readers, true, m.writer, m.excludes, fun _ => (open_iff.mp h).2⟩
  else none

def lock (m : RWMutex) : Option RWMutex :=
  if h : m.pending = true ∧ m.readers = 0 then
    some ⟨m.readers, false, true, fun _ => h.2, by simp⟩
  else none

def unlock (m : RWMutex) : RWMutex := ⟨m.readers, m.pending, false, by simp, by simp⟩

/-- One thread's part in the lock. -/
inductive Hold
  | none
  | reader
  | announced
  | writer
  deriving DecidableEq, Repr

def Hold.reads : Hold → Nat
  | .reader => 1
  | _ => 0

def Hold.announces : Hold → Nat
  | .announced => 1
  | _ => 0

def Hold.writes : Hold → Nat
  | .writer => 1
  | _ => 0

/-- One thread goes from the part `a` to the part `b`. -/
inductive Turn (m m' : RWMutex) : Hold → Hold → Prop
  | same (a : Hold) (h : m' = m) : Turn m m' a a
  | rLock (h : m.rLock = some m') : Turn m m' .none .reader
  | rUnlock (h : m' = m.rUnlock) : Turn m m' .reader .none
  | announce (h : m.announce = some m') : Turn m m' .none .announced
  | lock (h : m.lock = some m') : Turn m m' .announced .writer
  | unlock (h : m' = m.unlock) : Turn m m' .writer .none

variable {m m' : RWMutex} {a b : Hold}

theorem rLock_some (h : m.rLock = some m') :
    m'.readers = m.readers + 1 ∧ m'.pending = m.pending ∧ m'.writer = m.writer := by
  simp only [rLock] at h
  split at h
  · cases h
    exact ⟨rfl, rfl, rfl⟩
  · cases h

theorem announce_some (h : m.announce = some m') :
    m.pending = false ∧ m'.readers = m.readers ∧ m'.pending = true ∧ m'.writer = m.writer := by
  simp only [announce] at h
  split at h
  · rename_i is_open
    cases h
    exact ⟨(open_iff.mp is_open).1, rfl, rfl, rfl⟩
  · cases h

theorem lock_some (h : m.lock = some m') :
    m.pending = true ∧ m'.readers = m.readers ∧ m'.pending = false ∧ m'.writer = true := by
  simp only [lock] at h
  split at h
  · rename_i waited
    cases h
    exact ⟨waited.1, rfl, rfl, rfl⟩
  · cases h

theorem Turn.reads (h : Turn m m' a b) (own : a.reads ≤ m.readers) :
    m'.readers + a.reads = m.readers + b.reads := by
  cases h with
  | same _ h => simp [h]
  | rLock h => simp [(rLock_some h).1, Hold.reads]
  | rUnlock h =>
    simp only [Hold.reads] at own
    simp only [h, RWMutex.rUnlock, Hold.reads]
    omega
  | announce h => simp [(announce_some h).2.1, Hold.reads]
  | lock h => simp [(lock_some h).2.1, Hold.reads]
  | unlock h => simp [h, RWMutex.unlock, Hold.reads]

theorem Turn.announces (h : Turn m m' a b) (own : a.announces ≤ m.pending.toNat) :
    m'.pending.toNat + a.announces = m.pending.toNat + b.announces := by
  cases h with
  | same _ h => simp [h]
  | rLock h => simp [(rLock_some h).2.1, Hold.announces]
  | rUnlock h => simp [h, RWMutex.rUnlock, Hold.announces]
  | announce h =>
    obtain ⟨before, _, now, _⟩ := announce_some h
    simp [before, now, Hold.announces]
  | lock h =>
    obtain ⟨before, _, now, _⟩ := lock_some h
    simp [before, now, Hold.announces]
  | unlock h => simp [h, RWMutex.unlock, Hold.announces]

theorem Turn.writes (h : Turn m m' a b) (own : a.writes ≤ m.writer.toNat) :
    m'.writer.toNat + a.writes = m.writer.toNat + b.writes := by
  cases h with
  | same _ h => simp [h]
  | rLock h => simp [(rLock_some h).2.2, Hold.writes]
  | rUnlock h => simp [h, RWMutex.rUnlock, Hold.writes]
  | announce h => simp [(announce_some h).2.2.2, Hold.writes]
  | lock h =>
    obtain ⟨waited, _, _, now⟩ := lock_some h
    simp [m.queues waited, now, Hold.writes]
  | unlock h =>
    cases hw : m.writer
    · simp [hw, Hold.writes] at own
    · simp [h, RWMutex.unlock, Hold.writes]

end RWMutex

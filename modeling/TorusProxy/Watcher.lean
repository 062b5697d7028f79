import TorusProxy.Lib.Exec
import TorusProxy.Runtime

/-! `configwatcher.Watcher.Start`: the loop that turns file events into
debounced reloads. It owns its timer variables; the channels it selects on, the
context and the clock are filled by others at any time. -/
namespace TorusProxy

/-! ## The loop -/

/-- `fsnotify.Event`; `op` is a set of the bits below. -/
structure Event where
  name : Bytes
  op : UInt32
  deriving DecidableEq, Repr

namespace Op

def create : UInt32 := 1
def write : UInt32 := 2
def rename : UInt32 := 8
def chmod : UInt32 := 16

end Op

/-- A `time.Timer`: whether it may still fire, and whether a value waits in its
channel. The value of a timer that fired before `Stop` is kept. -/
structure Timer where
  active : Bool
  waiting : Bool
  deriving DecidableEq, Repr

inductive WatcherPC
  | newWatcher
  | abs
  | add
  | select
  /-- Has received an event and not looked at it. -/
  | event (e : Event)
  /-- Has received the value of a timer and not called `Reload`. -/
  | received (timer : Nat)
  /-- Inside `manager.Reload()`. -/
  | reload
  | recordFailure
  | returned (err : Option Error)
  deriving DecidableEq, Repr

/-- What the loop did, for the history. -/
inductive Mark
  /-- Processed an event, and armed a timer for it if it is relevant. -/
  | event (e : Event) (timer : Option Nat)
  /-- Called `Reload` on the expiry of a timer. -/
  | reload (timer : Nat)
  /-- `Reload` returned. -/
  | done
  deriving DecidableEq, Repr

structure Watcher where
  pc : WatcherPC
  configPath : Bytes
  /-- The local `configPath` of `Start`, the absolute path. -/
  watched : Bytes
  debounce : Option Nat
  debounceC : Option Nat
  /-- Every timer made so far. -/
  timers : List Timer
  events : List Event
  eventsClosed : Bool
  errors : List String
  errorsClosed : Bool
  /-- `ctx` is cancelled. -/
  cancelled : Bool
  /-- The calls `RecordRuntimeReload(false)` of the loop itself. -/
  recorded : Nat
  /-- History, latest first. No step reads it. -/
  log : List Mark
  deriving DecidableEq, Repr

/-- `New`, at the call of `Start`. -/
def Watcher.new (configPath : Bytes) : Watcher :=
  ⟨.newWatcher, configPath, [], none, none, [], [], false, [], false, false, 0, []⟩

/-- The outcome of a call out of the loop, or the case its `select` takes. -/
inductive WatcherChoice
  | go
  | ok
  | fail (message : String)
  | ctxDone
  | events
  | debounceC
  | errors
  deriving DecidableEq, Repr

def Timer.stop (t : Timer) : Timer := { t with active := false }

namespace Watcher

/-- `if debounce != nil { debounce.Stop() }`. -/
def stopDebounce (w : Watcher) : Watcher :=
  { w with
    timers :=
      match w.debounce with
      | none => w.timers
      | some t => w.timers.modify t Timer.stop }

@[simp] theorem stopDebounce_length (w : Watcher) :
    w.stopDebounce.timers.length = w.timers.length := by
  unfold stopDebounce
  split <;> simp

/-- A value waits in the channel `debounceC` names; a nil channel has none. -/
def expired (w : Watcher) : Bool :=
  match w.debounceC with
  | none => false
  | some t => (w.timers[t]?.map Timer.waiting).getD false

/-- A relevant event: a new timer takes over. -/
def arm (w : Watcher) (e : Event) : Watcher :=
  { w.stopDebounce with
    pc := .select
    timers := w.stopDebounce.timers ++ [⟨true, false⟩]
    debounce := some w.timers.length
    debounceC := some w.timers.length
    log := .event e (some w.timers.length) :: w.log }

def skip (w : Watcher) (e : Event) : Watcher :=
  { w with pc := .select, log := .event e none :: w.log }

/-- The body of the event case. -/
def handle (wd : Except String Bytes) (w : Watcher) (e : Event) : Watcher :=
  match Filepath.abs wd e.name with
  | .error _ => w.skip e
  | .ok eventPath =>
    if eventPath ≠ w.watched then w.skip e
    else if e.op &&& (Op.write ||| Op.create ||| Op.rename) = 0 then w.skip e
    else w.arm e

/-- The timer case takes the value, -/
def receive (w : Watcher) (t : Nat) : Watcher :=
  { w with pc := .received t, timers := w.timers.modify t ({ · with waiting := false }) }

/-- drops the channel and calls `Reload`. -/
def callReload (w : Watcher) (t : Nat) : Watcher :=
  { w with pc := .reload, debounceC := none, log := .reload t :: w.log }

def returnWith (w : Watcher) (err : Option Error) : Watcher := { w with pc := .returned err }

/-- A ready case of the `select`, if the chosen one is. -/
def select (w : Watcher) : WatcherChoice → Option Watcher
  | .ctxDone => if w.cancelled then some (w.stopDebounce.returnWith none) else none
  | .events =>
    match w.events with
    | e :: rest => some { w with events := rest, pc := .event e }
    | [] => if w.eventsClosed then some (w.returnWith none) else none
  | .debounceC =>
    match w.debounceC with
    | some t => if w.expired then some (w.receive t) else none
    | none => none
  | .errors =>
    match w.errors with
    | _ :: rest => some { w with errors := rest }
    | [] => if w.errorsClosed then some (w.returnWith none) else none
  | _ => none

/-- One step of `Watcher.Start`; `wd` is what `os.Getwd` answers. -/
def start (wd : Except String Bytes) (w : Watcher) (c : WatcherChoice) : Option Watcher :=
  match w.pc with
  | .newWatcher =>
    match c with
    | .ok => some { w with pc := .abs }
    | .fail err => some (w.returnWith (some (.text err)))
    | _ => none
  | .abs =>
    match Filepath.abs wd w.configPath with
    | .error err => some (w.returnWith (some (.text err)))
    | .ok configPath => some { w with watched := configPath, pc := .add }
  | .add =>
    match c with
    | .ok => some { w with pc := .select }
    | .fail err => some (w.returnWith (some (.text err)))
    | _ => none
  | .select => w.select c
  | .event e => some (w.handle wd e)
  | .received t => some (w.callReload t)
  | .reload =>
    match c with
    | .ok => some { w with pc := .select, log := .done :: w.log }
    | .fail _ => some { w with pc := .recordFailure, log := .done :: w.log }
    | _ => none
  | .recordFailure => some { w with pc := .select, recorded := w.recorded + 1 }
  | .returned _ => none

end Watcher

inductive WatcherAction
  | run (c : WatcherChoice)
  | cancel
  /-- `fsnotify` delivers to its channels or closes them. -/
  | deliver (e : Event)
  | closeEvents
  | report (err : String)
  | closeErrors
  /-- The clock fires a timer. -/
  | fire (timer : Nat)
  deriving DecidableEq, Repr

def Watcher.next (wd : Except String Bytes) (w : Watcher) : WatcherAction → Option Watcher
  | .run c => w.start wd c
  | .cancel => some { w with cancelled := true }
  | .deliver e => if w.eventsClosed then none else some { w with events := w.events ++ [e] }
  | .closeEvents => some { w with eventsClosed := true }
  | .report err => if w.errorsClosed then none else some { w with errors := w.errors ++ [err] }
  | .closeErrors => some { w with errorsClosed := true }
  | .fire t =>
    if w.timers[t]?.map Timer.active = some true then
      some { w with timers := w.timers.modify t fun _ => ⟨false, true⟩ }
    else none

end TorusProxy

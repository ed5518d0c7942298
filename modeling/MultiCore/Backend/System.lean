import MultiCore.Backend.Mutations

/-!
# The daemon as a system

Requests of the desktop and ticks of the watcher, any number of each at a time,
against a store whose every call may fail and an environment that may give any
answer.
-/

namespace MultiCore.Backend

open Cooperative Daemon

/-- What a client, the tray or the daemon itself may ask for. -/
inductive Request where
  | connect (options : ConnectOptions)
  | disconnect
  | shutDown
  | enableAlwaysReady
  | watch
  | importSubscription (url : String)
  | refreshSubscription
  | refreshSubscriptionProfile (id : ProfileId)
  | activateSubscription (id : ProfileId)
  | replaceSubscriptionSource (id : ProfileId) (url : String)
  | deleteSubscription (id : ProfileId)
  | select (request : SelectionRequest)
  deriving DecidableEq, Repr

/-- What it is answered. -/
inductive Response where
  | result (result : Except BackendError Unit)
  | selected (result : Except SelectionError Unit)
  | ticked (healthy : Bool)
  | finished

variable {ι : Type} [DecidableEq ι]

/-- From now on the service keeps the cores running while Ready. -/
def enableAlwaysReady : Op ι Unit :=
  update fun s => { s with readiness := true }

/-- The operation that serves a request. -/
def serve (i : ι) : Request → Op ι Response
  | .connect options => return .result (← connectWith i options)
  | .disconnect => return .result (← disconnect i)
  | .shutDown => do
    shutdownCores i
    return .finished
  | .enableAlwaysReady => do
    enableAlwaysReady
    return .finished
  | .watch => return .ticked (← watchService i)
  | .importSubscription url => return .result (← answer (importSubscription i url))
  | .refreshSubscription => return .result (← answer (refreshSubscription i))
  | .refreshSubscriptionProfile id => return .result (← answer (refreshSubscriptionProfile i id))
  | .activateSubscription id => return .result (← answer (activateSubscription i id))
  | .replaceSubscriptionSource id url =>
    return .result (← answer (replaceSubscriptionSource i id url))
  | .deleteSubscription id => return .result (← answer (deleteSubscription i id))
  | .select request => return .selected (← select i request)

/-- A Connect ends what a Disconnect was final for, and never looks at `shutDown`. -/
def CoreBackend.begun (s : CoreBackend ι) (i : ι) : Request → CoreBackend ι
  | .connect _ => { s.mark i true true with final := false }
  | .watch => { s with watching := some i }
  | _ => s

/-- The desktop sends no Connect to a daemon that has quit, and there is one watcher. -/
def CoreBackend.mayBegin (s : CoreBackend ι) : Request → Bool
  | .connect _ => !s.quit
  | .watch => s.watching.isNone
  | _ => true

/-- The state after a request has ended. -/
def CoreBackend.finished (s : CoreBackend ι) (i : ι) : CoreBackend ι :=
  { s.mark i false false with watching := if s.watching = some i then none else s.watching }

/-- What happens without a request. -/
inductive Change where
  /-- The service has stopped its cores. -/
  | coresStopped
  deriving DecidableEq, Repr

/-- The daemon's requests against a truthful service. -/
def daemon (ι : Type) [DecidableEq ι] :
    System ι Request Place Ask Reply (CoreBackend ι) Response Change where
  program := serve
  mayBegin _ kind s := s.mayBegin kind
  onBegin i kind s := s.begun i kind
  respond i q a s := s.respond i q a
  onFinish i _ _ s := s.finished i
  world
    | .coresStopped, s => some { s with prepared := none }

/-- The generation of the active profile. -/
def ProfileStore.current (store : ProfileStore) : Option (ProfileId × Generation) :=
  store.active.bind fun id => (store.generation id).map fun generation => (id, generation)

/-- No load has failed. -/
def ProfileStore.fresh (store : ProfileStore) : ProfileStore :=
  { store with unread := fun _ => false }

/-- The store once a daemon is open on it; whether it could load the active profile. -/
def ProfileStore.opened (store : ProfileStore) (loaded : Bool) : ProfileStore :=
  match store.active with
  | some id => if loaded ∧ store.current.isSome then store.fresh else store.fresh.fail id
  | none => store.fresh

/-- The runtime of a daemon that was just opened. -/
def CoreRuntime.opened (store : ProfileStore) (loaded : Bool) (saved : List (Option String)) :
    CoreRuntime :=
  match store.current with
  | some (id, generation) =>
    if loaded then (cleared store.active).applySnapshot id generation none saved
    else cleared store.active
  | none => cleared store.active

/-- A daemon that was just opened on a store. -/
def CoreBackend.opened (ι : Type) (store : ProfileStore) (loaded : Bool)
    (saved : List (Option String)) : CoreBackend ι where
  operation := none
  generationChange := none
  runtime := .opened store loaded saved
  store := store.opened loaded
  watching := none
  prepared := none
  preparer := none
  readiness := false
  warmRevision := none
  autoReconnect := none
  lastAutoReconnect := false
  shutDown := false
  connectAttempts := 0
  connectOptions := .default
  final := false
  quit := false
  bound _ := false
  past _ := false

/-- No request has begun. -/
def atOpening (store : ProfileStore) (loaded : Bool) (saved : List (Option String)) :
    Config ι Request Place Ask Reply (CoreBackend ι) Response :=
  ⟨.opened ι store loaded saved, fun _ => none⟩

end MultiCore.Backend

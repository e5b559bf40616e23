/-
# The applications plugin

The cache of the applications of confd, what its events set off, and the destination nodes of
the applications, as programs: every access to the cache, to the lists of `CoreARI` and to
Asterisk is one request.
-/
import Calld.Effect.Diffs
import Calld.Effect.Interactive
import Calld.Ari.CoreAri

namespace Calld.Applications

open Effect Effect.Interactive Calld.Ari

/-! ## Applications -/

/-- What the plugin reads of an application of confd: its uuid, its destination, and the type
among its destination options. -/
structure Application where
  uuid : String
  destination : Option String
  type : Option String
  deriving DecidableEq

/-- `AppNameHelper.to_name`. -/
def toName (uuid : String) : AppName := "wazo-app-" ++ uuid

inductive EventKind where
  | created
  | edited
  | deleted
  deriving DecidableEq

/-- An event of confd, with the application as confd would list it, or has last listed it. -/
structure AppEvent where
  kind : EventKind
  app : Application
  deriving DecidableEq

/-! ## Requests -/

inductive Request where
  -- the cache and its lock
  | acquire
  | release
  | isNone
  | confdList
  | setCache (apps : List Application)
  | entry (uuid : String)
  | entries
  | setEntry (app : Application)
  | popEntry (uuid : String)
  -- the registrations of the ARI client and of `CoreARI`
  | addCallback (name : AppName)
  | popCallbacks (name : AppName)
  | callbacks (name : AppName)
  | isRegistered (name : AppName)
  | addRegistered (name : AppName)
  | discardRegistered (name : AppName)
  | isListed (name : AppName)
  | append (name : AppName)
  | remove (name : AppName)
  | stasisSubscribe (name : AppName)
  | stasisUnsubscribe (name : AppName)
  -- the bridges
  | getBridge (bridgeId : String)
  | createWithId (bridgeId name type : String)
  | subscribe (name : AppName) (bridgeId : String)
  | destroy (bridgeId : String)
  | hangup (callId : String)
  | destinationNodeCreated (uuid : String)
  -- the consumer of the bus goes on to the next event
  | ack
  deriving DecidableEq

@[reducible] def Request.Reply : Request → Type
  | .isNone => Bool
  | .confdList => List Application
  | .entry _ => Option Application
  | .entries => List Application
  | .callbacks _ => ℕ
  | .isRegistered _ => Bool
  | .isListed _ => Bool
  | .getBridge _ => List String
  | _ => Unit

inductive Exn where
  | ariNotFound
  | noSuchCall (callId : String)
  | noSuchApplication (uuid : String)
  | connectionError
  | wazoConfdUnreachable
  /-- a request to confd or to Asterisk has failed otherwise -/
  | requestException
  | keyError
  /-- the cache is used before it is there -/
  | noneType
  deriving DecidableEq

abbrev Code (α : Type) : Type := Interactive Request Request.Reply Exn α

def ask (r : Request) : Code r.Reply := request r

def Exn.isNotFound (e : Exn) : Bool := e = .ariNotFound

def Exn.isNoSuchCall : Exn → Bool
  | .noSuchCall _ => true
  | _ => false

/-! ## The cache -/

/-- `_applications`: the cache is there afterwards. -/
def applications : Code Unit := do
  ask .acquire
  ensuring (do
    if ← ask .isNone then
      let result ← tryCatch (ask .confdList) fun
        | .connectionError => throw .wazoConfdUnreachable
        | e => throw e
      ask (.setCache result)) (ask .release)

/-- `list`. -/
def list : Code (List Application) := do
  applications
  ask .entries

/-- `get`. -/
def get (uuid : String) : Code Application := do
  applications
  match ← ask (.entry uuid) with
  | none => throw (.noSuchApplication uuid)
  | some application => pure application

/-- `_is_initialized`. -/
def isInitialized : Code Bool := do
  ask .acquire
  ensuring (do
    let none ← ask .isNone
    pure !none) (ask .release)

/-! ## Destination nodes -/

/-- `create_destination_node`. -/
def createDestinationNode (application : Application) : Code Unit :=
  tryCatch (do
    let _ ← ask (.getBridge application.uuid)
    pure ()) fun
    | .ariNotFound => do
      match application.type with
      | none => throw .keyError
      | some bridgeType =>
        ask (.createWithId application.uuid application.uuid bridgeType)
        ask (.subscribe (toName application.uuid) application.uuid)
        ask (.destinationNodeCreated application.uuid)
    | e => throw e

/-- `delete_call`. -/
def deleteCall (callId : String) : Code Unit :=
  tryCatch (ask (.hangup callId)) fun
    | .ariNotFound => throw (.noSuchCall callId)
    | e => throw e

/-- `delete_destination_node`. -/
def deleteDestinationNode (application : Application) : Code Unit := do
  match ← catching Exn.isNotFound (ask (.getBridge application.uuid)) with
  | none => pure ()
  | some channels =>
    List.forM channels fun callId => ignoring Exn.isNoSuchCall (deleteCall callId)
    ignoring Exn.isNotFound (ask (.destroy application.uuid))

/-- `update_destination_node`. -/
def updateDestinationNode (oldApp : Option Application) (newApp : Application) : Code Unit :=
  match oldApp with
  | none => pure ()
  | some oldApp =>
    if oldApp.destination = none ∧ newApp.destination = some "node" then
      createDestinationNode newApp
    else if oldApp.destination = some "node" ∧ newApp.destination = none then
      deleteDestinationNode newApp
    else pure ()

/-- `_create_destinations`. -/
def createDestinations (applications : List Application) : Code Unit :=
  applications.forM fun application =>
    if application.destination = some "node" then createDestinationNode application else pure ()

/-! ## Stasis applications -/

/-- `_on_application_registered`, whose exceptions the ARI client handles. -/
def onApplicationRegistered : Code Unit :=
  ignoring (fun _ => true) do
    let applications ← list
    createDestinations applications

/-- `execute_app_registered_callbacks`, of one application. -/
def executeAppRegisteredCallbacks (name : AppName) : Code Unit := do
  ask (.addRegistered name)
  let callbacks ← ask (.callbacks name)
  List.forM (List.replicate callbacks ()) fun _ => onApplicationRegistered

/-- `register_application`. -/
def registerApplication (name : AppName) : Code Unit := do
  if !(← ask (.isListed name)) then
    ask (.append name)
    ask (.stasisSubscribe name)
    executeAppRegisteredCallbacks name

/-- `deregister_application`; there are no callbacks of the applications for this. -/
def deregisterApplication (name : AppName) : Code Unit := do
  if ← ask (.isListed name) then
    ask (.remove name)
    ask (.discardRegistered name)
    ask (.stasisUnsubscribe name)

/-- `on_application_registered`, with the callback of the plugin. -/
def callOnApplicationRegistered (name : AppName) : Code Unit := do
  ask (.addCallback name)
  if ← ask (.isRegistered name) then
    onApplicationRegistered

/-- `add_ari_application`. -/
def addAriApplication (application : Application) : Code Unit := do
  callOnApplicationRegistered (toName application.uuid)
  registerApplication (toName application.uuid)

/-- `remove_ari_application`. -/
def removeAriApplication (application : Application) : Code Unit := do
  ask (.popCallbacks (toName application.uuid))
  deregisterApplication (toName application.uuid)

/-- `initialize`, without the subscriptions to the events of Asterisk. -/
def initialise : Code Unit := do
  let applications ← list
  List.forM applications fun application => addAriApplication application
  List.forM applications fun application => registerApplication (toName application.uuid)

/-! ## Events -/

/-- `_application_created`. -/
def applicationCreated (event : Application) : Code Unit := do
  if ← isInitialized then
    applications
    ask (.setEntry event)
    addAriApplication event

/-- `_application_updated`. -/
def applicationUpdated (event : Application) : Code Unit := do
  if ← isInitialized then
    applications
    let old ← ask (.entry event.uuid)
    applications
    ask (.setEntry event)
    updateDestinationNode old event

/-- `_application_deleted`. -/
def applicationDeleted (event : Application) : Code Unit := do
  if ← isInitialized then
    applications
    ask (.popEntry event.uuid)
    removeAriApplication event

/-- The handler of an event. -/
def handle (event : AppEvent) : Code Unit :=
  match event.kind with
  | .created => applicationCreated event.app
  | .edited => applicationUpdated event.app
  | .deleted => applicationDeleted event.app

end Calld.Applications

/-
# Client.RunningClient — a started client with its completion queue

`Client.Threads` has what the threads of a client do to its data.  Here are also the
operations that the calls have under way, `CompletionQueueProcessor` as a loop over what
the queue returns, and `Shutdown` with the flags, the join of the two threads and the
mutexes it holds.

A call has one operation under way from its opening on: when it is returned, the queue
thread starts a read, or stops and deletes the call if it failed.  A wireless call may have a
write under way besides.  What a loop tests and what it does then are two steps, and so are
`Next`, `Stop` and `Proceed`: the other threads go on in between.  Of gRPC it is assumed that
an operation under way is returned once, and that `Next` returns false only when the queue is
shut down and nothing is under way.
-/
import OmmoSdk.Client.ClientContext
import OmmoSdk.Client.Threads
import OmmoSdk.Client.WirelessCall
import OmmoSdk.Client.WirelessManager

namespace OmmoSdk.Client

open OmmoSdk.Theory
open OmmoSdk.Sdk

set_option autoImplicit false

structure RunningClient where
  client : ClientManager
  stopChannelMonitor : Bool
  stopHandlingCq : Bool
  /-- `completion_queue_.Shutdown()` was called -/
  queueShutdown : Bool
  monitorEnded : Bool
  processorEnded : Bool
  /-- the operations under way -/
  outstanding : List (CallId × StreamOperation)
  /-- the wireless calls with status `PROCESSING`: a write was started and `Proceed` has not seen
  its end -/
  writing : List CallId
  /-- the calls with status `FINISH` -/
  stopped : List CallId
  /-- the calls that were stopped before they were cancelled -/
  endedByServer : List CallId
  /-- every `delete` of a call data object -/
  deletions : List CallId

namespace RunningClient

def init : RunningClient where
  client := .init
  stopChannelMonitor := false
  stopHandlingCq := false
  queueShutdown := false
  monitorEnded := false
  processorEnded := false
  outstanding := []
  writing := []
  stopped := []
  endedByServer := []
  deletions := []

/-- The first operation of each call that was opened. -/
def started (before after : List CallData) : List (CallId × StreamOperation) :=
  (List.range' before.length (after.length - before.length)).map fun callData => (callData, .startCall)

def onClient (x : RunningClient) (w : ClientManager) : RunningClient :=
  { x with client := w, outstanding := x.outstanding ++ started x.client.calls w.calls }

def isCancelled (x : RunningClient) (callData : CallId) : Bool :=
  (x.client.calls[callData]?).any fun call => call.cancelled

def isDeviceEvents (x : RunningClient) (callData : CallId) : Bool :=
  (x.client.calls[callData]?).any fun call => call.stream = .deviceEvents

/-- The status of the call is `CONNECTING` or `WAITING`. -/
def takesWrite (x : RunningClient) (callData : CallId) : Bool :=
  callData < x.client.calls.length && callData ∉ x.stopped && callData ∉ x.writing

def write (x : RunningClient) (callData : CallId) : RunningClient :=
  { x with outstanding := x.outstanding ++ [(callData, .write)], writing := callData :: x.writing }

/-- What is under way without an operation that the queue returned. -/
def without (x : RunningClient) (callData : CallId) (op : StreamOperation) : RunningClient :=
  { x with outstanding := x.outstanding.erase (callData, op) }

end RunningClient

/-- What `Next` returns: an operation, and whether it succeeded. -/
structure Returned where
  callData : CallId
  op : StreamOperation
  ok : Bool
  /-- the message, if it is a read of the event stream -/
  event : Proto.TrackingDeviceEvent := {}

inductive Task where
  /-- a section of `Client.Threads` -/
  | client (instr : Instr)
  -- Users
  | closeBaseStationDataRequest (storage : StorageId)
  | cancelStream (wrapper : WirelessId)
  | sendWirelessManagementRequest (wrapper : WirelessId)
  -- The channel monitor, at the head of its loop, with the states it is going to see, and when it
  -- has found its flag not set
  | channelMonitor (states : List ChannelState)
  | getState (state : ChannelState) (states : List ChannelState)
  | endMonitor
  -- The queue thread, at the head of its loop and in `Next`, with what is going to be returned
  | completionQueueProcessor (returns : List Returned)
  | next (returns : List Returned)
  | stop (callData : CallId)
  | proceed (returned : Returned)
  | startRead (callData : CallId)
  | deleteCallData (callData : CallId)
  | endProcessor
  -- Shutdown
  | shutdown
  | forDataManagers
  | stopManager (manager : ManagerId)
  | cancelDataFrameStream (manager : ManagerId)
  | removeDataFrameStream (manager : ManagerId)
  | forBaseStationStorages
  | cancelDataStream (storage : StorageId)
  | removeDataStream (storage : StorageId)
  | stopChannelMonitor
  | joinChannelMonitor
  | shutdownQueue
  | stopHandlingCq
  | joinProcessor
  | clearDataManagerList

namespace Task

/-- `Shutdown`.  The second lock is released at the end of its scope. -/
def shutdownSections : List Task :=
  [client (.lock .dataManagerList), forDataManagers, client (.unlock .dataManagerList),
    client (.lock .baseStationDataStorageList), forBaseStationStorages,
    stopChannelMonitor, joinChannelMonitor,
    shutdownQueue, stopHandlingCq, joinProcessor,
    clearDataManagerList, client (.unlock .baseStationDataStorageList)]

def run (orders : Orders) (x : RunningClient) : Task → RunningClient
  | client instr => x.onClient (instr.run orders x.client)
  | closeBaseStationDataRequest s =>
      x.onClient ((x.client.closeBaseStationDataRequest 1 (some s)).getD x.client)
  | cancelStream i => x.onClient (x.client.cancelStream i)
  | sendWirelessManagementRequest i =>
      match x.client.stored (.wireless i) with
      | none => x
      | some callData =>
          if x.takesWrite callData then x.write callData else x
  | endMonitor => { x with monitorEnded := true }
  | next (r :: _) => x.without r.callData r.op
  | stop callData =>
      { x with
        stopped := callData :: x.stopped
        endedByServer :=
          if x.isCancelled callData then x.endedByServer else callData :: x.endedByServer }
  | proceed r =>
      if r.callData ∉ x.stopped ∧ r.op = .write then
        { x with writing := x.writing.filter (· ≠ r.callData) }
      else x
  | startRead callData => { x with outstanding := x.outstanding ++ [(callData, .read)] }
  | deleteCallData callData =>
      { x with
        client := ClientManager.deleteCallData orders.streams x.client callData
        deletions := callData :: x.deletions }
  | endProcessor => { x with processorEnded := true }
  | cancelDataFrameStream m => x.onClient (x.client.cancelDataFrameStream m)
  | removeDataFrameStream m => x.onClient (x.client.removeDataFrameStream m)
  | cancelDataStream s => x.onClient (x.client.cancelBaseStationStream s)
  | removeDataStream s =>
      x.onClient { x.client with
        baseStationStorages := x.client.baseStationStorages.modify s fun storage => storage.removeDataStream }
  | stopChannelMonitor => { x with stopChannelMonitor := true }
  | shutdownQueue => { x with queueShutdown := true }
  | stopHandlingCq => { x with stopHandlingCq := true }
  | clearDataManagerList => x.onClient { x.client with dataManagerList := [] }
  | _ => x

def following (orders : Orders) (x : RunningClient) : Task → List Task
  | client instr => (instr.next orders x.client).map client
  | channelMonitor [] => (Instr.stopEventStream x.client).map client ++ [endMonitor]
  | channelMonitor (state :: states) =>
      if x.stopChannelMonitor then (Instr.stopEventStream x.client).map client ++ [endMonitor]
      else [getState state states]
  | getState state states =>
      if x.client.previousChannelState ≠ some state then
        (Instr.onChannelState x.client state ++ [Instr.saveChannelState state]).map client ++
          [channelMonitor states]
      else [channelMonitor states]
  | completionQueueProcessor returns => if x.stopHandlingCq then [endProcessor] else [next returns]
  | next [] => [endProcessor]
  | next (r :: returns) =>
      (if r.ok then [] else [stop r.callData]) ++ [proceed r, completionQueueProcessor returns]
  | proceed r =>
      if r.callData ∈ x.stopped then [deleteCallData r.callData]
      else
        match r.op with
        | .startCall => [startRead r.callData]
        | .read =>
            (if x.isDeviceEvents r.callData && !x.isCancelled r.callData then
              [client (.deviceEventProcessor r.event)]
            else []) ++ [startRead r.callData]
        | .write => []
  | deleteCallData callData => ((Instr.deleteCallData callData).next orders x.client).map client
  | shutdown => shutdownSections
  | forDataManagers => x.client.dataManagerList.map stopManager
  | stopManager m =>
      match x.client.dataManagers[m]? with
      | none => []
      | some manager =>
          match manager.streamType with
          | .deviceData => [client (.cancelAllDataStreams m), client (.clearDataStreams m)]
          | .dataFrame => [cancelDataFrameStream m, removeDataFrameStream m]
  | forBaseStationStorages =>
      x.client.baseStationDataStorageList.flatMap fun s => [cancelDataStream s, removeDataStream s]
  | _ => []

/-- The monitor polls until it is stopped; the two joins wait for the end of a thread; a close
that hangs never comes to its end. -/
def enabled (x : RunningClient) : Task → Bool
  | client instr => instr.enabled x.client
  | closeBaseStationDataRequest s => (x.client.closeBaseStationDataRequest 1 (some s)).isSome
  | channelMonitor [] => x.stopChannelMonitor
  | next [] => x.queueShutdown && x.outstanding = []
  | next (r :: _) => (r.callData, r.op) ∈ x.outstanding
  | joinChannelMonitor => x.monitorEnded
  | joinProcessor => x.processorEnded
  | _ => true

def needs (x : RunningClient) : Task → List Mutex
  | client instr => instr.needs x.client
  | closeBaseStationDataRequest _ => [.baseStationDataStorageList]
  | deleteCallData callData => (Instr.deleteCallData callData).needs x.client
  | _ => []

def locks (orders : Orders) (x : RunningClient) : Task → Option Mutex
  | client instr => instr.locks orders x.client
  | deleteCallData callData => (Instr.deleteCallData callData).locks orders x.client
  | _ => none

def unlocks : Task → Option Mutex
  | client instr => instr.unlocks
  | _ => none

end Task

def runningSemantics : Semantics RunningClient Task Mutex Orders where
  enabled := Task.enabled
  needs := Task.needs
  locks := Task.locks
  unlocks := Task.unlocks
  run := Task.run
  next := Task.following

abbrev RunningThreads := Threads RunningClient Task Mutex

abbrev RunningThreads.step (s : RunningThreads) (label : Nat × Orders) : Option RunningThreads :=
  Threads.step runningSemantics s label

/-- What a user does with a client. -/
inductive UserAction where
  | request (call : UserCall)
  | closeBaseStationDataRequest (storage : StorageId)
  | cancelStream (wrapper : WirelessId)
  | sendWirelessManagementRequest (wrapper : WirelessId)

def UserAction.program : UserAction → Task
  | .request call => .client call.program
  | .closeBaseStationDataRequest storage => .closeBaseStationDataRequest storage
  | .cancelStream wrapper => .cancelStream wrapper
  | .sendWirelessManagementRequest wrapper => .sendWirelessManagementRequest wrapper

/-- A started client: the queue thread, the monitor, the thread that calls `Shutdown`, and the
users before that. -/
def runningThreads (returns : List Returned) (states : List ChannelState)
    (users : List (List UserAction)) : RunningThreads where
  shared := .init
  held := []
  programs := [.completionQueueProcessor returns] :: [.channelMonitor states] :: [.shutdown] ::
    users.map (List.map UserAction.program)

end OmmoSdk.Client

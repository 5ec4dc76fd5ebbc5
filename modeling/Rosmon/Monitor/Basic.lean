import Rosmon.Monitor.ProcessTable

/-!
# Rosmon — the monitor of a launch session

`Monitor` (`monitor.cpp`) owns one `NodeMonitor` per node of the launch
configuration, fans `start` and `shutdown` out to them, kills the ones that
refuse to exit, and turns `ok()` false when a required node exits.

`node_monitor.cpp` is not in the sources. A `NodeMonitor` is seen here
through what the Monitor reads of it (its launch node, its pid, the slots
connected to its `exitedSignal`), and the calls the Monitor makes on it are
recorded, with the events it sends on `logMessageSignal`, as `Effect`s:

* `Monitor.create` — the constructor, which connects `handleRequiredNodeExit`
  to the `exitedSignal` of every required node;
* `Monitor.exited` — a node's `exitedSignal` firing;
* `start`, `shutdown`, `forceExit`, `allShutdown`, `shutdownTimeout` — the
  fleet-wide methods `main` drives.
-/

namespace Rosmon

/-! ## Log events and nodes -/

/-- `LogEvent::Type`. -/
inductive LogType
  | raw
  | info
  | warning
  | error
  deriving DecidableEq, Repr

/-- `LogEvent`: the source label, the message and its type. -/
structure LogEvent where
  source : String
  message : String
  type : LogType
  deriving DecidableEq, Repr

/-- What the Monitor reads of a node of the launch configuration (`launch::Node`): its
name, whether it is required, and its stop timeout in seconds. The timeout is a `double`;
the model takes it finite, as a rational: a NaN or an infinity, which `--stop-timeout=nan` or
`inf` would give, is outside the model. -/
structure LaunchNode where
  name : String
  required : Bool
  stopTimeout : ℚ
  deriving DecidableEq, Repr

/-- The slots the Monitor connects to a node's `exitedSignal`. -/
inductive ExitedSlot
  | handleRequiredNodeExit
  deriving DecidableEq, Repr

/-- A `NodeMonitor`: its launch node, the pid of its process (`-1` when it has none), and
the slots connected to its `exitedSignal`. -/
structure NodeMonitor where
  launchNode : LaunchNode
  pid : Int
  exitedSignal : List ExitedSlot
  deriving DecidableEq, Repr

namespace NodeMonitor

/-- `NodeMonitor::name()`. -/
def name (n : NodeMonitor) : String := n.launchNode.name

/-- `NodeMonitor::stopTimeout()`. -/
def stopTimeout (n : NodeMonitor) : ℚ := n.launchNode.stopTimeout

/-- Modelled from the spec: `NodeMonitor::running()` is true in the states Running and
Stopping, which are the states in which the node has a pid. -/
def running (n : NodeMonitor) : Bool := n.pid ≠ -1

end NodeMonitor

/-- The calls the Monitor makes on a `NodeMonitor`. -/
inductive NodeCall (Tick : Type)
  | start
  | shutdown
  | forceExit
  | beginStatUpdate
  | addCPUTime (userTime systemTime : Tick)
  | addMemory (memoryBytes : Tick)
  | endStatUpdate (elapsedTicks : Float)
  deriving Repr

/-- What a Monitor method does besides changing the Monitor's fields: a call on the node at
a position of `m_nodes`, or an event on `logMessageSignal`. -/
inductive Effect (Tick : Type)
  | call (node : Nat) (c : NodeCall Tick)
  | log (event : LogEvent)
  deriving Repr

/-- The calls an effect list makes on node `i`, in order. -/
def callsOn {Tick : Type} (i : Nat) (es : List (Effect Tick)) : List (NodeCall Tick) :=
  es.filterMap fun
    | .call j c => if j = i then some c else none
    | .log _ => none

@[simp] theorem callsOn_append {Tick : Type} (i : Nat) (a b : List (Effect Tick)) :
    callsOn i (a ++ b) = callsOn i a ++ callsOn i b :=
  List.filterMap_append _ _ _

@[simp] theorem callsOn_flatMap {Tick α : Type} (i : Nat) (l : List α) (f : α → List (Effect Tick)) :
    callsOn i (l.flatMap f) = l.flatMap fun a => callsOn i (f a) :=
  List.filterMap_flatMap _ _ _

theorem callsOn_enumFrom_map {Tick α : Type} (c : NodeCall Tick) (i : Nat) :
    ∀ (l : List α) (k : Nat), callsOn i ((l.enumFrom k).map fun e => Effect.call e.1 c) =
      if k ≤ i ∧ i < k + l.length then [c] else []
  | [], k => by simp [callsOn]
  | a :: l, k => by
    have ih := callsOn_enumFrom_map c i l (k + 1)
    simp only [callsOn] at ih ⊢
    simp only [List.enumFrom_cons, List.map_cons, List.filterMap_cons, ih, List.length_cons]
    by_cases h : k = i
    · subst h; simp
    · simp only [h, if_false]
      split_ifs <;> first | rfl | omega

/-- A call made on every node reaches node `i` once. -/
@[simp] theorem callsOn_enum_map {Tick α : Type} (c : NodeCall Tick) (i : Nat) (l : List α) :
    callsOn i (l.enum.map fun e => Effect.call e.1 c) = if i < l.length then [c] else [] := by
  rw [List.enum, callsOn_enumFrom_map]
  simp

/-! ## The Monitor -/

/-- The fields of `Monitor` the modelled methods use: `m_nodes`, `m_processInfos`, `m_ok`. -/
structure Monitor (Tick : Type) where
  nodes : List NodeMonitor
  processInfos : ProcessInfoMap Tick
  ok : Bool

namespace Monitor

variable {Tick : Type}

/-- `Monitor::Monitor`: one `NodeMonitor` per launch node, not yet started, with
`handleRequiredNodeExit` connected to the `exitedSignal` of the required ones. -/
def create (config : List LaunchNode) : Monitor Tick where
  nodes := config.map fun n => ⟨n, -1, if n.required then [.handleRequiredNodeExit] else []⟩
  processInfos := .empty
  ok := true

/-- `Monitor::logTyped`: an event from `[rosmon]`. -/
def logTyped (type : LogType) (message : String) : Effect Tick :=
  .log ⟨"[rosmon]", message, type⟩

/-- `Monitor::start`. -/
def start (m : Monitor Tick) : List (Effect Tick) :=
  m.nodes.enum.map fun e => .call e.1 .start

/-- `Monitor::shutdown`. -/
def shutdown (m : Monitor Tick) : List (Effect Tick) :=
  m.nodes.enum.map fun e => .call e.1 .shutdown

/-- The warning `Monitor::forceExit` starts with. -/
def forceExitBanner : LogEvent :=
  ⟨"[rosmon]", "Killing the following nodes, which are refusing to exit:\n", .warning⟩

/-- `Monitor::forceExit`: the banner, then for each running node its name and
`NodeMonitor::forceExit`. -/
def forceExit (m : Monitor Tick) : List (Effect Tick) :=
  .log forceExitBanner :: m.nodes.enum.flatMap fun e =>
    if e.2.running then [logTyped .warning (" - " ++ e.2.name ++ "\n"), .call e.1 .forceExit]
    else []

/-- `Monitor::allShutdown`. -/
def allShutdown (m : Monitor Tick) : Bool := m.nodes.all fun n => !n.running

/-- `Monitor::shutdownTimeout`: the largest stop timeout, starting from `0`. -/
def shutdownTimeout (m : Monitor Tick) : ℚ :=
  m.nodes.foldl (fun t n => if n.stopTimeout > t then n.stopTimeout else t) 0

/-- `Monitor::handleRequiredNodeExit`. -/
def handleRequiredNodeExit (m : Monitor Tick) (name : String) : Monitor Tick × List (Effect Tick) :=
  ({ m with ok := false },
    [logTyped .info ("Required node '" ++ name ++ "' exited, shutting down...")])

end Monitor

/-- A slot connected to `exitedSignal`, called with the exiting node's name. -/
def ExitedSlot.invoke {Tick : Type} :
    ExitedSlot → Monitor Tick → String → Monitor Tick × List (Effect Tick)
  | .handleRequiredNodeExit, m, name => m.handleRequiredNodeExit name

namespace Monitor

variable {Tick : Type}

/-- The slots of a signal run in the order they were connected, each on the Monitor the
previous one left. -/
def runSlots (name : String) : List ExitedSlot → Monitor Tick → Monitor Tick × List (Effect Tick)
  | [], m => (m, [])
  | slot :: slots, m =>
    ((runSlots name slots (slot.invoke m name).1).1,
      (slot.invoke m name).2 ++ (runSlots name slots (slot.invoke m name).1).2)

/-- Node `i` emits `exitedSignal(name)`. -/
def exited (m : Monitor Tick) (i : Nat) : Monitor Tick × List (Effect Tick) :=
  match m.nodes[i]? with
  | none => (m, [])
  | some n => runSlots n.name n.exitedSignal m

/-- The nodes' processes as the rest of the program left them between two Monitor calls:
node `i` now has the pid `pid i`. -/
def setPids (m : Monitor Tick) (pid : Nat → Int) : Monitor Tick :=
  { m with nodes := m.nodes.mapIdx fun i n => { n with pid := pid i } }

@[simp] theorem setPids_length (m : Monitor Tick) (pid : Nat → Int) :
    (m.setPids pid).nodes.length = m.nodes.length :=
  List.length_mapIdx

theorem getElem?_setPids (m : Monitor Tick) (pid : Nat → Int) (i : Nat) :
    (m.setPids pid).nodes[i]? = m.nodes[i]?.map fun n => { n with pid := pid i } :=
  List.getElem?_mapIdx

end Monitor

end Rosmon

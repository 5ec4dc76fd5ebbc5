import Rosmon.Monitor.Basic

/-!
# Rosmon — fleet-wide policy of the monitor

Two decisions the Monitor takes for the whole fleet:

* `ok()` — the constructor connects `handleRequiredNodeExit` to the
  `exitedSignal` of the required nodes only, so over any sequence of exit
  notifications `ok()` is false exactly when one came from a required node
  (`ok_iff_required_exit`), and each notification from a required node, and
  no other, logs the message of `handleRequiredNodeExit` (`exitedLog_required`);
* `shutdownTimeout()` — at least every stop timeout of the fleet
  (`stopTimeout_le_shutdownTimeout`), for the finite timeouts the model
  takes (a NaN one would fail the `>` of the fold and be skipped);
  `forceExit()` calls `NodeMonitor::forceExit` on exactly the running nodes
  (`forceExitTargets_forceExit`).
-/

namespace Rosmon.Monitor

variable {Tick : Type}

/-! ## Exit notifications -/

@[simp] theorem runSlots_nodes (name : String) (slots : List ExitedSlot) (m : Monitor Tick) :
    (runSlots name slots m).1.nodes = m.nodes := by
  induction slots generalizing m with
  | nil => rfl
  | cons slot slots ih => cases slot; exact ih _

@[simp] theorem runSlots_ok (name : String) (slots : List ExitedSlot) (m : Monitor Tick) :
    (runSlots name slots m).1.ok = (m.ok && slots.isEmpty) := by
  induction slots generalizing m with
  | nil => simp [runSlots]
  | cons slot slots ih => cases slot; simp [runSlots, ih, handleRequiredNodeExit, ExitedSlot.invoke]

@[simp] theorem exited_nodes (m : Monitor Tick) (i : Nat) : (m.exited i).1.nodes = m.nodes := by
  unfold exited; split <;> simp

/-- An exit notification clears `ok` exactly when a slot is connected to the node's signal. -/
theorem exited_ok (m : Monitor Tick) (i : Nat) :
    (m.exited i).1.ok = (m.ok && (m.nodes[i]?.all fun n => n.exitedSignal.isEmpty)) := by
  unfold exited
  cases h : m.nodes[i]? <;> simp [h]

/-- After a sequence of exit notifications the nodes are those of the start, and `ok` was
cleared by the first notification from a node with a connected slot. -/
theorem foldl_exited (exits : List Nat) (m : Monitor Tick) :
    (exits.foldl (fun m i => (m.exited i).1) m).nodes = m.nodes ∧
      (exits.foldl (fun m i => (m.exited i).1) m).ok =
        (m.ok && exits.all fun i => m.nodes[i]?.all fun n => n.exitedSignal.isEmpty) := by
  induction exits generalizing m with
  | nil => simp
  | cons i exits ih =>
    obtain ⟨h1, h2⟩ := ih (m.exited i).1
    simp [h1, h2, exited_ok, Bool.and_assoc]

/-- The constructor's wiring: a node's signal has a slot exactly when the node is required. -/
theorem create_signal_isEmpty (config : List LaunchNode) (i : Nat) :
    ((create config : Monitor Tick).nodes[i]?.all fun n => n.exitedSignal.isEmpty) =
      !(config[i]?.any fun n => n.required) := by
  cases h : config[i]? with
  | none => simp [create, h]
  | some n => cases hr : n.required <;> simp [create, h, hr]

/-- **Required-node exits.** After any sequence of exit notifications, from any nodes, in any
order and with any repetition, `ok()` is false exactly when one of them came from a required
node; once false it stays false. -/
theorem ok_iff_required_exit (config : List LaunchNode) (exits : List Nat) :
    ((exits.foldl (fun m i => (m.exited i).1) (create config : Monitor Tick)).ok = false ↔
      ∃ i ∈ exits, ∃ n, config[i]? = some n ∧ n.required = true) ∧
    ∀ more : List Nat,
      (exits.foldl (fun m i => (m.exited i).1) (create config : Monitor Tick)).ok = false →
        ((exits ++ more).foldl (fun m i => (m.exited i).1) (create config : Monitor Tick)).ok =
          false := by
  have hok : ∀ l : List Nat,
      (l.foldl (fun m i => (m.exited i).1) (create config : Monitor Tick)).ok = false ↔
        ∃ i ∈ l, ∃ n, config[i]? = some n ∧ n.required = true := by
    have hany : ∀ o : Option LaunchNode, o.any (·.required) = true ↔ ∃ n, o = some n ∧ n.required :=
      fun o => by cases o <;> simp
    intro l
    rw [(foldl_exited l _).2]
    simp [create_signal_isEmpty, hany, show (create config : Monitor Tick).ok = true from rfl]
  refine ⟨hok exits, fun more h => (hok _).2 ?_⟩
  obtain ⟨i, hi, hn⟩ := (hok exits).1 h
  exact ⟨i, List.mem_append_left _ hi, hn⟩

/-- The events a sequence of exit notifications sends on `logMessageSignal`. -/
def exitedLog (m : Monitor Tick) : List Nat → List (Effect Tick)
  | [] => []
  | i :: is => (m.exited i).2 ++ exitedLog (m.exited i).1 is

/-- The message of `handleRequiredNodeExit`. -/
def requiredExitMessage (name : String) : Effect Tick :=
  logTyped .info ("Required node '" ++ name ++ "' exited, shutting down...")

theorem runSlots_log (name : String) (slots : List ExitedSlot) (m : Monitor Tick) :
    (runSlots name slots m).2 = slots.map fun _ => requiredExitMessage name := by
  induction slots generalizing m with
  | nil => rfl
  | cons slot slots ih => cases slot; simp [runSlots, ih, ExitedSlot.invoke, handleRequiredNodeExit,
      requiredExitMessage]

/-- With the constructor's wiring, an exit notification logs the message of
`handleRequiredNodeExit` once if the node is required, and nothing otherwise. -/
theorem exited_log_create (config : List LaunchNode) (m : Monitor Tick)
    (hm : m.nodes = (create config : Monitor Tick).nodes) (i : Nat) :
    (m.exited i).2 = ((config[i]?.filter (·.required)).map fun n => requiredExitMessage n.name).toList := by
  unfold exited
  rw [hm]
  cases h : config[i]? with
  | none => simp [create, h]
  | some n => cases hr : n.required <;> simp [create, h, hr, runSlots_log, NodeMonitor.name, Option.filter]

/-- **Exit messages.** Over any sequence of exit notifications from the constructor, each
notification from a required node logs `Required node '<name>' exited, shutting down...`
once, as an info event of `[rosmon]`, and the others log nothing. -/
theorem exitedLog_required (config : List LaunchNode) (exits : List Nat) :
    exitedLog (create config : Monitor Tick) exits =
      exits.filterMap fun i => (config[i]?.filter (·.required)).map fun n =>
        requiredExitMessage n.name := by
  suffices ∀ m : Monitor Tick, m.nodes = (create config : Monitor Tick).nodes →
      exitedLog m exits = exits.filterMap fun i => (config[i]?.filter (·.required)).map fun n =>
        requiredExitMessage n.name from this _ rfl
  induction exits with
  | nil => intro _ _; rfl
  | cons i exits ih =>
    intro m hm
    rw [exitedLog, exited_log_create config m hm, ih _ ((exited_nodes m i).trans hm),
      List.filterMap_cons]
    cases config[i]?.filter (·.required) <;> rfl

/-! ## Shutdown timeout -/

private theorem foldl_timeout_eq (ns : List NodeMonitor) (t : ℚ) :
    ns.foldl (fun t n => if n.stopTimeout > t then n.stopTimeout else t) t =
      (ns.map NodeMonitor.stopTimeout).foldl max t := by
  induction ns generalizing t with
  | nil => rfl
  | cons n ns ih =>
    rw [List.foldl_cons, ih, List.map_cons, List.foldl_cons]
    congr 1
    split_ifs with h
    · exact (max_eq_right h.le).symm
    · exact (max_eq_left (not_lt.1 h)).symm

/-- `shutdownTimeout` is the fold of `max` over the stop timeouts, from `0`. -/
theorem shutdownTimeout_eq (m : Monitor Tick) :
    m.shutdownTimeout = (m.nodes.map NodeMonitor.stopTimeout).foldl max 0 :=
  foldl_timeout_eq m.nodes 0

private theorem le_foldl_max (l : List ℚ) (t : ℚ) :
    t ≤ l.foldl max t ∧ ∀ x ∈ l, x ≤ l.foldl max t := by
  induction l generalizing t with
  | nil => simp
  | cons x l ih =>
    obtain ⟨h1, h2⟩ := ih (max t x)
    exact ⟨(le_max_left t x).trans h1,
      List.forall_mem_cons.2 ⟨(le_max_right t x).trans h1, h2⟩⟩

theorem stopTimeout_le_shutdownTimeout (m : Monitor Tick) {n : NodeMonitor} (hn : n ∈ m.nodes) :
    n.stopTimeout ≤ m.shutdownTimeout := by
  rw [shutdownTimeout_eq]; exact (le_foldl_max _ 0).2 _ (List.mem_map_of_mem _ hn)

/-! ## Forced exit -/

/-- The nodes an effect list calls `NodeMonitor::forceExit` on, in order. -/
def forceExitTargets (es : List (Effect Tick)) : List Nat :=
  es.filterMap fun
    | .call j .forceExit => some j
    | _ => none

/-- The positions of the nodes that are `running()`. -/
def runningNodes (m : Monitor Tick) : List Nat :=
  (m.nodes.enum.filter fun e => e.2.running).map Prod.fst

/-- `Monitor::forceExit` calls `NodeMonitor::forceExit` on exactly the running nodes. -/
theorem forceExitTargets_forceExit (m : Monitor Tick) :
    forceExitTargets m.forceExit = runningNodes m := by
  unfold forceExitTargets Monitor.forceExit runningNodes
  induction m.nodes.enum with
  | nil => rfl
  | cons e es ih =>
    simp only [List.flatMap_cons, List.filter_cons] at ih ⊢
    split_ifs <;> simp_all [logTyped]

end Rosmon.Monitor

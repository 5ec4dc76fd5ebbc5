import Rosmon.Monitor.Fleet

/-!
# Rosmon — the shutdown phase of `main`

When the main loop ends, `main` calls `monitor.shutdown()`, notes the time in
`start`, and waits while some node is still running and less than
`monitor.shutdownTimeout()` has elapsed. If a node is still running after the
loop, it calls `monitor.forceExit()`; it then waits until every node has
shut down.

The program is single-threaded: a node changes state only while `main`
waits in `watcher->wait`, or inside a call on the Monitor. The phase is
therefore a sequence of checks, each seeing the nodes' pids and the clock as
they are then; the check that ends the first loop and the
`if(!monitor.allShutdown())` after it see the same nodes, and are one step.

* `step` — one check, as `Phase` says which loop it belongs to;
* `trace` — the checks of a run, with the Monitor methods each one calls;
* `forceExit_after_shutdownTimeout` — over any run, with any node behaviour
  and any clock readings, `forceExit()` is called at most once, only when a
  node is running and `shutdownTimeout()` has elapsed since `start`, and it
  kills exactly the running nodes;
* `shutdown_finishes_iff` — the phase is over exactly when a check has found
  every node without a process.
-/

namespace Rosmon.Main

open Monitor

/-- The loop of `main` a check belongs to. -/
inductive Phase
  /-- "Wait for graceful shutdown". -/
  | graceful
  /-- "Wait until that is finished", after `forceExit()`. -/
  | draining
  /-- Every node has shut down. -/
  | finished
  deriving DecidableEq, Repr

/-- The state of the shutdown phase: the Monitor, the loop, and `start`. -/
structure Shutdown (Tick : Type) where
  monitor : Monitor Tick
  phase : Phase
  start : ℚ

/-- What a check sees: the pid of every node's process then, and `ros::WallTime::now()`. -/
structure Check where
  pid : Nat → Int
  now : ℚ

/-- The Monitor methods the shutdown phase calls, besides the queries. -/
inductive MonitorCall
  | shutdown
  | forceExit
  deriving DecidableEq, Repr

/-- What a call does to the nodes and the log. -/
def MonitorCall.effects {Tick : Type} (m : Monitor Tick) : MonitorCall → List (Effect Tick)
  | .shutdown => m.shutdown
  | .forceExit => m.forceExit

variable {Tick : Type}

/-- `monitor.shutdown()`, then `ros::WallTime start = ros::WallTime::now()`. -/
def beginShutdown (m : Monitor Tick) (now : ℚ) : Shutdown Tick × List MonitorCall :=
  (⟨m, .graceful, now⟩, [.shutdown])

/-- One check. In the first loop: wait while a node runs and the timeout has not elapsed;
otherwise leave the loop, and call `forceExit()` if a node still runs. In the second loop:
wait until no node runs. -/
def step (s : Shutdown Tick) (c : Check) : Shutdown Tick × List MonitorCall :=
  let m := s.monitor.setPids c.pid
  match s.phase with
  | .graceful =>
    if !m.allShutdown && decide (c.now - s.start < m.shutdownTimeout) then
      ({ s with monitor := m }, [])
    else if !m.allShutdown then ({ s with monitor := m, phase := .draining }, [.forceExit])
    else ({ s with monitor := m, phase := .finished }, [])
  | .draining =>
    if !m.allShutdown then ({ s with monitor := m }, [])
    else ({ s with monitor := m, phase := .finished }, [])
  | .finished => (s, [])

/-- The checks of a run: the state each one starts from, what it sees, and the Monitor
methods it calls. -/
def trace (s : Shutdown Tick) : List Check → List (Shutdown Tick × Check × List MonitorCall)
  | [] => []
  | c :: cs => (s, c, (step s c).2) :: trace (step s c).1 cs

/-- The state after a run of checks. -/
def run (s : Shutdown Tick) (cs : List Check) : Shutdown Tick :=
  cs.foldl (fun s c => (step s c).1) s

/-! ## One check -/

@[simp] theorem step_start (s : Shutdown Tick) (c : Check) : (step s c).1.start = s.start := by
  unfold step; dsimp only
  split <;> (try split_ifs) <;> rfl

/-- A check that calls `forceExit()` ends the first loop: a node runs and the timeout has
elapsed since `start`; the run continues in the second loop. -/
theorem step_forceExit {s : Shutdown Tick} {c : Check} (h : MonitorCall.forceExit ∈ (step s c).2) :
    s.phase = .graceful ∧ (s.monitor.setPids c.pid).allShutdown = false ∧
      (s.monitor.setPids c.pid).shutdownTimeout ≤ c.now - s.start ∧ (step s c).1.phase = .draining := by
  unfold step at h ⊢; dsimp only at h ⊢
  split at h
  · next hp =>
    split_ifs at h ⊢ with h1 h2
    · simp at h
    · simp only [Bool.and_eq_true, Bool.not_eq_true', decide_eq_true_eq, not_and, not_lt] at h1 h2
      exact ⟨hp, h2, h1 h2, rfl⟩
    · simp at h
  · split_ifs at h <;> simp at h
  · simp at h

/-- Outside the first loop no check calls `forceExit()`, and the run never returns to it. -/
theorem step_phase_ne_graceful {s : Shutdown Tick} (hs : s.phase ≠ .graceful) (c : Check) :
    MonitorCall.forceExit ∉ (step s c).2 ∧ (step s c).1.phase ≠ .graceful := by
  refine ⟨fun h => hs (step_forceExit h).1, ?_⟩
  unfold step; dsimp only
  split
  · contradiction
  · split_ifs <;> simp [hs]
  · exact hs

/-! ## Runs -/

theorem mem_trace {s : Shutdown Tick} {cs : List Check} {e : Shutdown Tick × Check × List MonitorCall}
    (he : e ∈ trace s cs) : e.2.2 = (step e.1 e.2.1).2 ∧ e.1.start = s.start := by
  induction cs generalizing s with
  | nil => simp [trace] at he
  | cons c cs ih =>
    rcases List.mem_cons.1 he with rfl | he
    · exact ⟨rfl, rfl⟩
    · exact (ih he).imp_right fun h => h.trans (step_start s c)

/-- The number of `forceExit()` calls of a run: at most one from the first loop, none
from the others. -/
theorem count_forceExit_trace (s : Shutdown Tick) (cs : List Check) :
    ((trace s cs).flatMap (·.2.2)).count .forceExit ≤ if s.phase = .graceful then 1 else 0 := by
  induction cs generalizing s with
  | nil => simp [trace]
  | cons c cs ih =>
    rw [trace, List.flatMap_cons, List.count_append]
    have hrest := ih (step s c).1
    by_cases hf : MonitorCall.forceExit ∈ (step s c).2
    · obtain ⟨hp, -, -, hd⟩ := step_forceExit hf
      have hone : (step s c).2.count .forceExit ≤ 1 := by
        unfold step; dsimp only; split <;> (try split_ifs) <;> simp
      simp only [hd, hp, reduceCtorEq, if_false, if_true] at hrest ⊢
      omega
    · rw [List.count_eq_zero_of_not_mem hf, Nat.zero_add]
      refine hrest.trans ?_
      by_cases hp : s.phase = .graceful
      · split_ifs <;> simp [hp]
      · simp [hp, (step_phase_ne_graceful hp c).2]

/-- **Forced exit.** Over any run of the shutdown phase, whatever the nodes do and whatever
the clock reads, `forceExit()` is called at most once; a check that calls it sees a running
node and at least `shutdownTimeout()` — so every node's own stop timeout — elapsed since
`start`, and the call kills exactly the nodes running then. -/
theorem forceExit_after_shutdownTimeout (m : Monitor Tick) (now : ℚ) (checks : List Check) :
    (((trace (beginShutdown m now).1 checks).flatMap (·.2.2)).count .forceExit ≤ 1) ∧
    ∀ e ∈ trace (beginShutdown m now).1 checks, MonitorCall.forceExit ∈ e.2.2 →
      (e.1.monitor.setPids e.2.1.pid).allShutdown = false ∧
      (e.1.monitor.setPids e.2.1.pid).shutdownTimeout ≤ e.2.1.now - now ∧
      (∀ n ∈ (e.1.monitor.setPids e.2.1.pid).nodes, n.stopTimeout ≤ e.2.1.now - now) ∧
      Monitor.forceExitTargets (MonitorCall.forceExit.effects (e.1.monitor.setPids e.2.1.pid)) =
        Monitor.runningNodes (e.1.monitor.setPids e.2.1.pid) := by
  refine ⟨by simpa [beginShutdown] using count_forceExit_trace (beginShutdown m now).1 checks,
    fun e he hf => ?_⟩
  obtain ⟨hcalls, hstart⟩ := mem_trace he
  obtain ⟨-, hrun, hto, -⟩ := step_forceExit (hcalls ▸ hf)
  rw [hstart] at hto
  exact ⟨hrun, hto, fun n hn => (Monitor.stopTimeout_le_shutdownTimeout _ hn).trans hto,
    Monitor.forceExitTargets_forceExit _⟩

/-! ## The end of the phase -/

theorem allShutdown_setPids (m : Monitor Tick) (pid : Nat → Int) :
    (m.setPids pid).allShutdown = true ↔ ∀ i < m.nodes.length, pid i = -1 := by
  simp only [allShutdown, setPids, List.all_eq_true, List.mem_mapIdx, NodeMonitor.running,
    Bool.not_eq_true', decide_eq_false_iff_not, not_not]
  constructor
  · exact fun h i hi => h _ ⟨i, hi, rfl⟩
  · rintro h _ ⟨i, hi, rfl⟩
    exact h i hi

@[simp] theorem step_nodes_length (s : Shutdown Tick) (c : Check) :
    (step s c).1.monitor.nodes.length = s.monitor.nodes.length := by
  unfold step; dsimp only
  split <;> (try split_ifs) <;> simp

/-- A check in either loop ends the phase exactly when it finds no node running. -/
theorem step_finished_iff {s : Shutdown Tick} (hs : s.phase ≠ .finished) (c : Check) :
    (step s c).1.phase = .finished ↔ (s.monitor.setPids c.pid).allShutdown = true := by
  unfold step; dsimp only
  split
  · split_ifs with h1 h2 <;> simp_all
  · split_ifs with h1 <;> simp_all
  · contradiction

theorem run_of_finished {s : Shutdown Tick} (hs : s.phase = .finished) (cs : List Check) :
    run s cs = s := by
  induction cs with
  | nil => rfl
  | cons c cs ih =>
    have hstep : (step s c).1 = s := by unfold step; simp [hs]
    rw [run, List.foldl_cons, hstep]
    exact ih

theorem run_phase_finished {s : Shutdown Tick} (hs : s.phase ≠ .finished) (cs : List Check) :
    (run s cs).phase = .finished ↔ ∃ c ∈ cs, ∀ i < s.monitor.nodes.length, c.pid i = -1 := by
  induction cs generalizing s with
  | nil => simp [run, hs]
  | cons c cs ih =>
    rw [run, List.foldl_cons, ← run]
    by_cases h : (s.monitor.setPids c.pid).allShutdown = true
    · rw [run_of_finished ((step_finished_iff hs c).2 h)]
      exact ⟨fun _ => ⟨c, List.mem_cons_self _ _, (allShutdown_setPids _ _).1 h⟩,
        fun _ => (step_finished_iff hs c).2 h⟩
    · have hne : (step s c).1.phase ≠ .finished := mt (step_finished_iff hs c).1 h
      rw [ih hne, step_nodes_length, List.exists_mem_cons_iff, ← allShutdown_setPids]
      simp [h]

/-- **End of the shutdown phase.** Whatever the nodes do, the phase is over after a run of
checks exactly when one of them found no node with a process. -/
theorem shutdown_finishes_iff (m : Monitor Tick) (now : ℚ) (checks : List Check) :
    (run (beginShutdown m now).1 checks).phase = .finished ↔
      ∃ c ∈ checks, ∀ i < m.nodes.length, c.pid i = -1 :=
  run_phase_finished (by simp [beginShutdown]) checks

end Rosmon.Main

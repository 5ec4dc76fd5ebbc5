import Rosmon.Monitor.Fleet

/-!
# Rosmon — resource accounting

`Monitor::updateStats` runs once a second. It maps every node's pid to the
node, scans `/proc`, and for every process whose process group is the pid of
a node looks up the sample the previous scan stored for the same process:
the node is told the difference of the CPU counters and the current memory,
and the sample is replaced. Samples no scan confirmed are erased afterwards.

* `nodeMap` — the `std::map<int, NodeMonitor::Ptr>` built from the pids;
* `scanProcess` — the body of the loop over `/proc`;
* `Monitor.updateStats` — the whole method, as the table it leaves and the
  calls it makes.

The environment between two scans is a `Scan`: the pids the nodes have then
(processes start, exit and restart in between) and the listing of `/proc`.
The loop over `/proc` is described once, by `scan_find` (the table) and
`scan_calls` (the calls), and a call of `updateStats` from them:

* `processInfos_after_updateStats` — after any run from the constructor the
  table holds exactly the processes the last scan matched, each with its
  last record;
* `updateStats_attribution` — with distinct pids, each node is told the
  differences to the previous scan's samples of the processes of its group,
  between one `beginStatUpdate` and one `endStatUpdate`, in an order that
  only the listing's order decides.
-/

namespace Rosmon.Monitor

variable {Tick : Type} [Sub Tick]

/-! ## The method -/

/-- `nodeMap[node->pid()] = node` for every node with a pid, in the order of `m_nodes`; a
node stands for its position. -/
def nodeMap (nodes : List NodeMonitor) : Int → Option Nat :=
  go nodes 0 fun _ => none
where
  /-- The loop from position `i` on, over the map built so far. -/
  go : List NodeMonitor → Nat → (Int → Option Nat) → Int → Option Nat
    | [], _, map => map
    | n :: ns, i, map =>
      go ns (i + 1) (if n.pid ≠ -1 then fun q => if q = n.pid then some i else map q else map)

/-- One entry of `/proc`, `none` for an entry without a readable stat file (the loop
`continue`s). A process outside every node's group is skipped; a process seen for the
first time is stored; otherwise the node gets the delta to the stored sample and the
current memory, and the sample is replaced. -/
def scanProcess (nodeMap : Int → Option Nat) (acc : ProcessInfoMap Tick × List (Effect Tick)) :
    Option (ProcessStat Tick) → ProcessInfoMap Tick × List (Effect Tick)
  | none => acc
  | some stat =>
    match nodeMap stat.pgrp with
    | none => acc
    | some node =>
      match acc.1.find stat.pid with
      | none => (acc.1.set stat.pid ⟨stat, true⟩, acc.2)
      | some old =>
        (acc.1.set stat.pid ⟨stat, true⟩, acc.2 ++
          [.call node (.addCPUTime (stat.utime - old.stat.utime) (stat.stime - old.stat.stime)),
            .call node (.addMemory stat.memRss)])

/-- `Monitor::updateStats`. `proc` is `/proc` in the order the directory iterator lists it,
`elapsedTime` is `(event.current_real - event.last_real).toSec()`, and `kernelHz` is what
`process_info::kernel_hz()` returns (its definition is not in the sources). -/
def updateStats (m : Monitor Tick) (kernelHz : Nat) (proc : List (Option (ProcessStat Tick)))
    (elapsedTime : Float) : Monitor Tick × List (Effect Tick) :=
  let scan := proc.foldl (scanProcess (nodeMap m.nodes)) (m.processInfos.markInactive, [])
  ({ m with processInfos := scan.1.prune },
    m.nodes.enum.map (fun e => .call e.1 .beginStatUpdate) ++ scan.2 ++
      m.nodes.enum.map fun e => .call e.1 (.endStatUpdate (elapsedTime * kernelHz.toFloat)))

/-! ## Runs of scans -/

/-- What happens between two calls of `updateStats`: node `i` has the pid `pid i` when the
call runs, and `/proc` lists `proc`. -/
structure Scan (Tick : Type) where
  pid : Nat → Int
  proc : List (Option (ProcessStat Tick))
  elapsedTime : Float

/-- One timer tick: the pids change, then `updateStats` runs. -/
def statsStep (kernelHz : Nat) (m : Monitor Tick) (x : Scan Tick) : Monitor Tick × List (Effect Tick) :=
  (m.setPids x.pid).updateStats kernelHz x.proc x.elapsedTime

/-- The Monitor after a run of timer ticks. -/
def statsRun (kernelHz : Nat) (m : Monitor Tick) (xs : List (Scan Tick)) : Monitor Tick :=
  xs.foldl (fun m x => (statsStep kernelHz m x).1) m

/-! ## What a scan matches -/

/-- The stat records of a listing. -/
def records (proc : List (Option (ProcessStat Tick))) : List (ProcessStat Tick) := proc.filterMap id

/-- A record of scan `x` is matched when its process group is the pid of one of the first `n`
nodes and that node has a process. -/
def Scan.matched (x : Scan Tick) (n : Nat) (stat : ProcessStat Tick) : Bool :=
  (List.range n).any fun i => x.pid i != -1 && x.pid i == stat.pgrp

/-- The last matched record of process `pid` in scan `x`. -/
def Scan.lastMatched (x : Scan Tick) (n : Nat) (pid : Int) : Option (ProcessStat Tick) :=
  ((records x.proc).filter fun s => x.matched n s && s.pid == pid).getLast?

/-! ## The node map -/

/-- The loop builds the map whose value at `q` is the position of the last node with a
process of pid `q`, if there is one. -/
theorem nodeMap_go (ns : List NodeMonitor) (i : Nat) (map : Int → Option Nat) (q : Int) :
    nodeMap.go ns i map q =
      (((ns.enumFrom i).reverse.find? fun e => e.2.running && e.2.pid == q).map Prod.fst).or
        (map q) := by
  induction ns generalizing i map with
  | nil => rfl
  | cons n ns ih =>
    rw [nodeMap.go, ih, List.enumFrom_cons, List.reverse_cons, List.find?_append]
    generalize (ns.enumFrom (i + 1)).reverse.find? (fun e => e.2.running && e.2.pid == q) = A
    by_cases h : n.pid ≠ -1 ∧ q = n.pid
    · obtain ⟨h1, rfl⟩ := h
      have hrun : n.running = true := decide_eq_true h1
      simp only [List.find?_singleton, hrun, beq_self_eq_true, Bool.and_self, if_true, if_pos h1]
      cases A <;> rfl
    · have hn : (n.running && n.pid == q) = false := by
        simp only [NodeMonitor.running, Bool.and_eq_false_iff, decide_eq_false_iff_not,
          not_not, beq_eq_false_iff_ne]
        tauto
      have hmap : (if n.pid ≠ -1 then fun q' => if q' = n.pid then some i else map q' else map) q =
          map q := by
        split_ifs with h1
        · exact if_neg fun hq => h ⟨h1, hq⟩
        · rfl
      simp only [hmap, List.find?_singleton, hn, Bool.false_eq_true, if_false, Option.or_none]

/-- `nodeMap` only finds a node that has a process of that pid. -/
theorem nodeMap_some {nodes : List NodeMonitor} {q : Int} {i : Nat} (h : nodeMap nodes q = some i) :
    ∃ n, nodes[i]? = some n ∧ n.running = true ∧ n.pid = q := by
  rw [nodeMap, nodeMap_go] at h
  cases hf : (nodes.enumFrom 0).reverse.find? fun e => e.2.running && e.2.pid == q with
  | none => simp [hf] at h
  | some e =>
    simp only [hf, Option.map_some', Option.or, Option.some.injEq] at h
    have hp := List.find?_some hf
    have hm := List.mem_reverse.1 (List.mem_of_find?_eq_some hf)
    simp only [Bool.and_eq_true, beq_iff_eq] at hp
    exact ⟨e.2, h ▸ List.mem_enum_iff_getElem?.1 hm, hp⟩

/-- When no other node has a process of the same pid, `nodeMap` finds the node. -/
theorem nodeMap_of_unique {nodes : List NodeMonitor} {i : Nat} {n : NodeMonitor}
    (hn : nodes[i]? = some n) (hr : n.running = true)
    (huniq : ∀ j m, nodes[j]? = some m → m.running = true → m.pid = n.pid → j = i) :
    nodeMap nodes n.pid = some i := by
  rw [nodeMap, nodeMap_go]
  have hmem : (i, n) ∈ (nodes.enumFrom 0).reverse :=
    List.mem_reverse.2 (List.mem_enum_iff_getElem?.2 hn)
  have hsome : ((nodes.enumFrom 0).reverse.find? fun e => e.2.running && e.2.pid == n.pid).isSome :=
    List.find?_isSome.2 ⟨(i, n), hmem, by simp [hr]⟩
  obtain ⟨e, hf⟩ := Option.isSome_iff_exists.1 hsome
  have hp := List.find?_some hf
  have hm := List.mem_enum_iff_getElem?.1 (List.mem_reverse.1 (List.mem_of_find?_eq_some hf))
  simp only [Bool.and_eq_true, beq_iff_eq] at hp
  simp [hf, huniq e.1 e.2 hm hp.1 hp.2]

theorem nodeMap_isSome (nodes : List NodeMonitor) (q : Int) :
    (nodeMap nodes q).isSome = nodes.any fun n => n.running && n.pid == q := by
  rw [Bool.eq_iff_iff, Option.isSome_iff_exists, List.any_eq_true]
  constructor
  · rintro ⟨i, h⟩
    obtain ⟨n, hn, hr, hq⟩ := nodeMap_some h
    exact ⟨n, List.getElem?_mem hn, by simp [hr, hq]⟩
  · rintro ⟨n, hn, h⟩
    simp only [Bool.and_eq_true, beq_iff_eq] at h
    rw [nodeMap, nodeMap_go]
    obtain ⟨i, hi⟩ := List.getElem?_of_mem hn
    have hsome : ((nodes.enumFrom 0).reverse.find? fun e => e.2.running && e.2.pid == q).isSome :=
      List.find?_isSome.2 ⟨(i, n), List.mem_reverse.2 (List.mem_enum_iff_getElem?.2 hi), by simp [h]⟩
    obtain ⟨e, hf⟩ := Option.isSome_iff_exists.1 hsome
    exact ⟨e.1, by simp [hf]⟩

/-! ## One scan of `/proc` -/

/-- The table after one entry: a matched record is stored, whatever the table held. -/
theorem scanProcess_fst (map : Int → Option Nat) (acc : ProcessInfoMap Tick × List (Effect Tick))
    (o : Option (ProcessStat Tick)) :
    (scanProcess map acc o).1 = match o with
      | some s => if (map s.pgrp).isSome then acc.1.set s.pid ⟨s, true⟩ else acc.1
      | none => acc.1 := by
  cases o with
  | none => rfl
  | some s =>
    simp only [scanProcess]
    cases map s.pgrp <;> simp only [Option.isSome_none, Option.isSome_some, if_true]
    · rfl
    · split <;> rfl

/-- The table after a scan: each process the scan matched holds its last record, marked
active; every other entry is as before. -/
theorem scan_find (map : Int → Option Nat) (proc : List (Option (ProcessStat Tick)))
    (acc : ProcessInfoMap Tick × List (Effect Tick)) (q : Int) :
    (proc.foldl (scanProcess map) acc).1.find q =
      ((((records proc).filter fun s => (map s.pgrp).isSome && s.pid == q).getLast?).map
        fun s => ⟨s, true⟩).or (acc.1.find q) := by
  induction proc generalizing acc with
  | nil => simp [records]
  | cons o proc ih =>
    rw [List.foldl_cons, ih, scanProcess_fst]
    cases o with
    | none => simp [records]
    | some s =>
      by_cases hm : (map s.pgrp).isSome
      · simp only [records, List.filterMap_cons, id, hm, if_true, ProcessInfoMap.find_set,
          List.filter_cons, Bool.true_and]
        by_cases hq : q = s.pid
        · subst hq
          simp only [beq_self_eq_true, if_true, List.getLast?_cons, Option.map_some', if_pos rfl]
          generalize ((List.filterMap id proc).filter fun t => (map t.pgrp).isSome && t.pid == s.pid).getLast? = L
          cases L <;> rfl
        · simp [hq, Ne.symm hq]
      · simp [records, hm]

/-- The calls a scan makes for one record, given the sample stored for its process. -/
def recordCalls (map : Int → Option Nat) (prev : Int → Option (ProcessInfo Tick))
    (s : ProcessStat Tick) : List (Effect Tick) :=
  match map s.pgrp, prev s.pid with
  | some node, some old =>
    [.call node (.addCPUTime (s.utime - old.stat.utime) (s.stime - old.stat.stime)),
      .call node (.addMemory s.memRss)]
  | _, _ => []

/-- The calls of a scan in which no process is matched twice: for each matched record, in
the order of the listing, the calls against the sample the table held before the scan. -/
theorem scan_calls (map : Int → Option Nat) (prev : Int → Option (ProcessInfo Tick))
    (proc : List (Option (ProcessStat Tick))) (acc : ProcessInfoMap Tick × List (Effect Tick))
    (hdist : (((records proc).filter fun s => (map s.pgrp).isSome).map (·.pid)).Nodup)
    (hprev : ∀ s ∈ records proc, (map s.pgrp).isSome → acc.1.find s.pid = prev s.pid) :
    (proc.foldl (scanProcess map) acc).2 = acc.2 ++ (records proc).flatMap (recordCalls map prev) := by
  induction proc generalizing acc with
  | nil => simp [records]
  | cons o proc ih =>
    cases o with
    | none => simpa [records, scanProcess] using ih acc hdist hprev
    | some s =>
      simp only [records, List.filterMap_cons, id, List.mem_cons, forall_eq_or_imp] at hdist hprev ⊢
      cases hmap : map s.pgrp with
      | none =>
        simp only [hmap, List.filter_cons, Option.isSome_none, Bool.false_eq_true, if_false] at hdist
        simpa [scanProcess, hmap, recordCalls] using ih acc hdist fun t ht h => hprev.2 t ht h
      | some node =>
        simp only [hmap, List.filter_cons, Option.isSome_some, if_true, List.map_cons,
          List.nodup_cons, List.mem_map, List.mem_filter, not_exists, not_and] at hdist hprev
        have hrest : ∀ t ∈ List.filterMap id proc, (map t.pgrp).isSome →
            (scanProcess map acc (some s)).1.find t.pid = prev t.pid := fun t ht h => by
          simp only [scanProcess_fst, hmap, Option.isSome_some, if_true, ProcessInfoMap.find_set]
          rw [if_neg fun he => hdist.1 t ⟨ht, h⟩ he, hprev.2 t ht h]
        have hs : (scanProcess map acc (some s)).2 = acc.2 ++ recordCalls map prev s := by
          simp only [scanProcess, recordCalls, hmap, ← hprev.1 trivial]
          cases acc.1.find s.pid <;> simp
        rw [List.foldl_cons, List.flatMap_cons, ih _ hdist.2 hrest, hs, List.append_assoc, records]

/-! ## One call of `updateStats` -/

omit [Sub Tick] in
/-- After `setPids pid`, `nodeMap` knows a process group exactly when it is the pid of a node
that has a process. -/
theorem nodeMap_setPids_isSome (m : Monitor Tick) (x : Scan Tick) (s : ProcessStat Tick) :
    (nodeMap (m.setPids x.pid).nodes s.pgrp).isSome = x.matched m.nodes.length s := by
  rw [nodeMap_isSome, Scan.matched, Bool.eq_iff_iff, List.any_eq_true, List.any_eq_true]
  simp only [Monitor.setPids, List.mem_mapIdx, List.mem_range, NodeMonitor.running, Bool.and_eq_true,
    decide_eq_true_eq, beq_iff_eq, bne_iff_ne, ne_eq]
  constructor
  · rintro ⟨_, ⟨i, hi, rfl⟩, h⟩
    exact ⟨i, hi, h⟩
  · rintro ⟨i, hi, h⟩
    exact ⟨_, ⟨i, hi, rfl⟩, h⟩

omit [Sub Tick] in
/-- With pairwise distinct pids, `nodeMap` sends a process group to node `i` exactly when
node `i` has a process and the group is its pid. -/
theorem nodeMap_setPids_eq_some (m : Monitor Tick) (pid : Nat → Int) {i : Nat}
    (hi : i < m.nodes.length) (hpid : ∀ j < m.nodes.length, pid i ≠ -1 → pid i = pid j → i = j)
    (g : Int) : nodeMap (m.setPids pid).nodes g = some i ↔ pid i ≠ -1 ∧ g = pid i := by
  obtain ⟨n, hn⟩ : ∃ n, m.nodes[i]? = some n := ⟨_, List.getElem?_eq_getElem hi⟩
  have hi' : (m.setPids pid).nodes[i]? = some { n with pid := pid i } := by
    simp [Monitor.getElem?_setPids, hn]
  constructor
  · intro h
    obtain ⟨n', hn', hr, hg⟩ := nodeMap_some h
    rw [hi', Option.some.injEq] at hn'
    subst hn'
    exact ⟨by simpa [NodeMonitor.running] using hr, hg.symm⟩
  · rintro ⟨hr, rfl⟩
    refine nodeMap_of_unique hi' (by simpa [NodeMonitor.running] using hr) fun j n' hj _ hp => ?_
    rw [Monitor.getElem?_setPids, Option.map_eq_some'] at hj
    obtain ⟨_, hj, rfl⟩ := hj
    exact (hpid j (List.getElem?_eq_some_iff.1 hj).1 hr hp.symm).symm

/-- The table a call leaves holds, for each process, the last record the call matched. -/
theorem updateStats_find (m : Monitor Tick) (kernelHz : Nat) (proc : List (Option (ProcessStat Tick)))
    (elapsedTime : Float) (q : Int) :
    (m.updateStats kernelHz proc elapsedTime).1.processInfos.find q =
      (((records proc).filter fun s => (nodeMap m.nodes s.pgrp).isSome && s.pid == q).getLast?).map
        fun s => ⟨s, true⟩ := by
  simp only [updateStats, ProcessInfoMap.find_prune, scan_find, ProcessInfoMap.find_markInactive]
  cases ((records proc).filter fun s => (nodeMap m.nodes s.pgrp).isSome && s.pid == q).getLast? <;>
    cases m.processInfos.find q <;> rfl

theorem statsStep_find (kernelHz : Nat) (m : Monitor Tick) (x : Scan Tick) (q : Int) :
    (statsStep kernelHz m x).1.processInfos.find q =
      (x.lastMatched m.nodes.length q).map fun s => ⟨s, true⟩ := by
  simp only [statsStep, updateStats_find, nodeMap_setPids_isSome, Monitor.setPids_length,
    Scan.lastMatched]

@[simp] theorem statsStep_nodes_length (kernelHz : Nat) (m : Monitor Tick) (x : Scan Tick) :
    (statsStep kernelHz m x).1.nodes.length = m.nodes.length :=
  Monitor.setPids_length m x.pid

theorem statsRun_nodes_length (kernelHz : Nat) (m : Monitor Tick) (xs : List (Scan Tick)) :
    (m.statsRun kernelHz xs).nodes.length = m.nodes.length := by
  induction xs generalizing m with
  | nil => rfl
  | cons x xs ih => exact (ih _).trans (statsStep_nodes_length kernelHz m x)

theorem statsRun_append_singleton (kernelHz : Nat) (m : Monitor Tick) (xs : List (Scan Tick))
    (x : Scan Tick) : m.statsRun kernelHz (xs ++ [x]) = (statsStep kernelHz (m.statsRun kernelHz xs) x).1 :=
  List.foldl_append _ _ _ _

/-- The table after a run from the constructor: the last matched records of the run's last
scan, and nothing before the first scan. -/
theorem statsRun_find (kernelHz : Nat) (config : List LaunchNode) (xs : List (Scan Tick)) (q : Int) :
    ((create config : Monitor Tick).statsRun kernelHz xs).processInfos.find q =
      (xs.getLast?.bind fun x => x.lastMatched config.length q).map fun s => ⟨s, true⟩ := by
  rcases List.eq_nil_or_concat xs with rfl | ⟨xs, x, rfl⟩
  · rfl
  · rw [List.concat_eq_append, statsRun_append_singleton, statsStep_find, statsRun_nodes_length,
      List.getLast?_concat, Option.some_bind]
    simp [create]

/-- **The process table.** From the constructor, after any run of calls of `updateStats`,
whatever the pids and listings before: the keys of `m_processInfos` are the pids of the
records of the last listing that the call matched to a node, each entry holds the last
such record of its pid and is active, and there are as many entries as matched pids. -/
theorem processInfos_after_updateStats (kernelHz : Nat) (config : List LaunchNode)
    (pre : List (Scan Tick)) (cur : Scan Tick) :
    let table := ((create config : Monitor Tick).statsRun kernelHz (pre ++ [cur])).processInfos
    (∀ pid, pid ∈ table.keys ↔
      ∃ s ∈ records cur.proc, cur.matched config.length s = true ∧ s.pid = pid) ∧
    (∀ pid, table.find pid = (cur.lastMatched config.length pid).map fun s => ⟨s, true⟩) ∧
    table.entries.length =
      (((records cur.proc).filter (cur.matched config.length)).map (·.pid)).dedup.length := by
  intro table
  have hfind : ∀ pid, table.find pid = (cur.lastMatched config.length pid).map fun s => ⟨s, true⟩ :=
    fun pid => by simp only [table, statsRun_find, List.getLast?_concat, Option.some_bind]
  have hkeys : ∀ pid, pid ∈ table.keys ↔
      ∃ s ∈ records cur.proc, cur.matched config.length s = true ∧ s.pid = pid := fun pid => by
    rw [ProcessInfoMap.mem_keys, hfind, Option.isSome_map', Scan.lastMatched, List.getLast?_isSome,
      Ne, List.filter_eq_nil_iff]
    simp
  have hperm : table.keys.Perm
      (((records cur.proc).filter (cur.matched config.length)).map (·.pid)).dedup :=
    (List.perm_ext_iff_of_nodup table.nodup (List.nodup_dedup _)).2 fun pid => by
      change pid ∈ table.keys ↔ _
      simp only [hkeys, List.mem_dedup, List.mem_map, List.mem_filter, and_assoc]
  refine ⟨hkeys, hfind, ?_⟩
  rw [← hperm.length_eq, ProcessInfoMap.keys, List.length_map]

/-! ## What a call tells the nodes -/

/-- The calls the specification asks for a record `s` of a node's group: the difference of
the CPU counters to the previous sample of the same process, and the current memory; nothing
without a previous sample. -/
def sampleCalls (previous : Int → Option (ProcessStat Tick)) (s : ProcessStat Tick) :
    List (NodeCall Tick) :=
  match previous s.pid with
  | some q => [.addCPUTime (s.utime - q.utime) (s.stime - q.stime), .addMemory s.memRss]
  | none => []

/-- What the specification asks a node with process `pid` to be told by a scan of `proc`: the
calls for each record of its group, in the order of the listing; nothing for a node without
a process. -/
def attributed (previous : Int → Option (ProcessStat Tick)) (proc : List (Option (ProcessStat Tick)))
    (pid : Int) : List (NodeCall Tick) :=
  if pid = -1 then [] else ((records proc).filter (·.pgrp == pid)).flatMap (sampleCalls previous)

/-- The sample of process `pid` before the call that follows the run `pre`, for a fleet of `n`
nodes: the last record the run's last scan matched. -/
def previousSample (n : Nat) (pre : List (Scan Tick)) (pid : Int) : Option (ProcessStat Tick) :=
  pre.getLast?.bind fun x => x.lastMatched n pid

theorem callsOn_recordCalls (map : Int → Option Nat) (prev : Int → Option (ProcessInfo Tick))
    (s : ProcessStat Tick) (i : Nat) :
    callsOn i (recordCalls map prev s) =
      if map s.pgrp = some i then sampleCalls (fun q => (prev q).map (·.stat)) s else [] := by
  unfold recordCalls sampleCalls
  cases map s.pgrp with
  | none => simp [callsOn]
  | some node =>
    by_cases h : node = i
    · subst h
      cases hp : prev s.pid <;> simp [callsOn, hp]
    · cases prev s.pid <;> simp [callsOn, h]

/-- The calls one call of `updateStats` makes on node `i`, when no process is matched twice:
`beginStatUpdate`, then for each record the node's group matched the calls against the
sample the table held, then `endStatUpdate`. -/
theorem updateStats_callsOn (m : Monitor Tick) (kernelHz : Nat)
    (proc : List (Option (ProcessStat Tick))) (elapsedTime : Float) {i : Nat}
    (hi : i < m.nodes.length)
    (hdist : (((records proc).filter fun s => (nodeMap m.nodes s.pgrp).isSome).map (·.pid)).Nodup) :
    callsOn i (m.updateStats kernelHz proc elapsedTime).2 =
      .beginStatUpdate :: (records proc).flatMap (fun s =>
        if nodeMap m.nodes s.pgrp = some i then
          sampleCalls (fun q => (m.processInfos.find q).map (·.stat)) s
        else []) ++ [.endStatUpdate (elapsedTime * kernelHz.toFloat)] := by
  simp only [updateStats, callsOn_append, callsOn_enum_map, if_pos hi,
    scan_calls (nodeMap m.nodes) (fun q => m.processInfos.markInactive.find q) proc
      (m.processInfos.markInactive, []) hdist (fun _ _ _ => rfl),
    List.nil_append, callsOn_flatMap, callsOn_recordCalls, ProcessInfoMap.find_markInactive,
    Option.map_map]
  rfl

private theorem flatMap_filter_eq_ite {α β : Type} (p : α → Bool) (f : α → List β) (l : List α) :
    (l.filter p).flatMap f = l.flatMap fun a => if p a then f a else [] := by
  induction l with
  | nil => rfl
  | cons a l ih => by_cases h : p a <;> simp [List.filter_cons, h, ih]

theorem attributed_perm (previous : Int → Option (ProcessStat Tick))
    {proc proc' : List (Option (ProcessStat Tick))} (h : proc'.Perm proc) (pid : Int) :
    (attributed previous proc' pid).Perm (attributed previous proc pid) := by
  unfold attributed records
  split_ifs
  · rfl
  · exact ((h.filterMap id).filter _).flatMap_right _

/-- **Attribution of resource usage.** In any run from the constructor, a call of
`updateStats` whose pids are pairwise distinct and whose matched records have pairwise
distinct pids makes on every node `beginStatUpdate`, then the calls `attributed` asks for
against the samples of the previous call, then `endStatUpdate`; listing `/proc` in another
order only reorders these calls. -/
theorem updateStats_attribution (kernelHz : Nat) (config : List LaunchNode)
    (pre : List (Scan Tick)) (cur : Scan Tick)
    (hpid : ∀ i < config.length, ∀ j < config.length, cur.pid i ≠ -1 → cur.pid i = cur.pid j → i = j)
    (hproc : (((records cur.proc).filter (cur.matched config.length)).map (·.pid)).Nodup)
    (i : Nat) (hi : i < config.length) :
    callsOn i (statsStep kernelHz ((create config : Monitor Tick).statsRun kernelHz pre) cur).2 =
        .beginStatUpdate :: attributed (previousSample config.length pre) cur.proc (cur.pid i) ++
          [.endStatUpdate (cur.elapsedTime * kernelHz.toFloat)] ∧
      ∀ proc' : List (Option (ProcessStat Tick)), proc'.Perm cur.proc →
        (callsOn i (statsStep kernelHz ((create config : Monitor Tick).statsRun kernelHz pre)
          { cur with proc := proc' }).2).Perm
          (callsOn i (statsStep kernelHz ((create config : Monitor Tick).statsRun kernelHz pre) cur).2) := by
  set m := (create config : Monitor Tick).statsRun kernelHz pre
  have hlen : m.nodes.length = config.length := by simp [m, statsRun_nodes_length, create]
  have hprev : (fun q => (m.processInfos.find q).map (·.stat)) = previousSample config.length pre :=
    funext fun q => by simp [m, statsRun_find, previousSample, Option.map_map, Function.comp_def]
  have hcalls : ∀ proc' : List (Option (ProcessStat Tick)),
      (((records proc').filter (cur.matched config.length)).map (·.pid)).Nodup →
      callsOn i (statsStep kernelHz m { cur with proc := proc' }).2 =
        .beginStatUpdate :: attributed (previousSample config.length pre) proc' (cur.pid i) ++
          [.endStatUpdate (cur.elapsedTime * kernelHz.toFloat)] := by
    intro proc' hdist
    have hmatch : (fun s => (nodeMap (m.setPids cur.pid).nodes s.pgrp).isSome) =
        cur.matched config.length :=
      funext fun s => by rw [nodeMap_setPids_isSome, hlen]
    rw [statsStep, updateStats_callsOn _ _ _ _ (by simpa [hlen] using hi) (hmatch ▸ hdist)]
    congr 2
    have hiff := nodeMap_setPids_eq_some m cur.pid (hlen ▸ hi) fun j hj => hpid i hi j (hlen ▸ hj)
    simp only [Monitor.setPids, hprev, attributed] at hiff ⊢
    rw [flatMap_filter_eq_ite]
    split_ifs with hP
    · exact List.flatMap_eq_nil_iff.2 fun s _ => if_neg fun h => ((hiff _).1 h).1 hP
    · exact List.flatMap_congr fun s _ => by simp [hiff, hP]
  have hmain := hcalls cur.proc hproc
  refine ⟨hmain, fun proc' hperm => ?_⟩
  rw [hcalls proc' (((hperm.filterMap id).filter _).map _ |>.nodup_iff.2 hproc), hmain]
  exact ((attributed_perm _ hperm _).append_right _).cons _

/-- A node with pid 100 whose process goes from 10 + 5 to 40 + 9 ticks between two scans; the
second listing also has an unreadable entry and a process of another group. -/
theorem updateStats_attribution_talker :
    (∀ i < 1, ∀ j < 1, (100 : Int) ≠ -1 → (100 : Int) = 100 → i = j) ∧ ([100] : List Int).Nodup ∧
      callsOn 0 (statsStep 100 ((create [⟨"talker", true, 5⟩] : Monitor Nat).statsRun 100
          [⟨fun _ => 100, [some ⟨100, 100, 10, 5, 1000⟩], 1⟩])
          ⟨fun _ => 100, [some ⟨100, 100, 40, 9, 2000⟩, none, some ⟨7, 7, 3, 3, 3⟩], 1⟩).2 =
        [.beginStatUpdate, .addCPUTime 30 4, .addMemory 2000, .endStatUpdate (1 * (100 : Nat).toFloat)] :=
  ⟨by decide, by decide,
    (updateStats_attribution 100 [⟨"talker", true, 5⟩] [⟨fun _ => 100, [some ⟨100, 100, 10, 5, 1000⟩], 1⟩]
      ⟨fun _ => 100, [some ⟨100, 100, 40, 9, 2000⟩, none, some ⟨7, 7, 3, 3, 3⟩], 1⟩
      (by decide) (by decide) 0 (by decide)).1.trans rfl⟩

end Rosmon.Monitor

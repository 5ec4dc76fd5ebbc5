import Mathlib

/-!
# Rosmon — the process table of the resource accounting

`Monitor::updateStats` reads `/proc/<pid>/stat` of every process and keeps,
in `m_processInfos`, the last sample of every process it attributes to a
node, so that the next scan can take the difference of the CPU counters.

* `ProcessStat` — the fields of a stat record that `updateStats` reads;
* `ProcessInfo` — a stored sample and its `active` flag;
* `ProcessInfoMap` — `m_processInfos`, a `std::map<int, ProcessInfo>`,
  as a list of entries whose keys are distinct by construction, with the
  four operations `updateStats` performs on it (`find`, `set`,
  `markInactive`, `prune`) and one `find` lemma for each.
-/

namespace Rosmon

/-- The fields of `process_info::ProcessStat` that `updateStats` reads. Its declaration
(`linux_process_info.h`) is not in the sources, so the type of the three counters is
the parameter `Tick`. -/
structure ProcessStat (Tick : Type) where
  pid : Int
  pgrp : Int
  utime : Tick
  stime : Tick
  memRss : Tick
  deriving DecidableEq, Repr

/-- `ProcessInfo`: the last sample of a process, and whether the current scan saw it. -/
structure ProcessInfo (Tick : Type) where
  stat : ProcessStat Tick
  active : Bool
  deriving DecidableEq, Repr

/-- `m_processInfos`: a `std::map<int, ProcessInfo>`, at most one entry per key. -/
structure ProcessInfoMap (Tick : Type) where
  entries : List (Int × ProcessInfo Tick)
  nodup : (entries.map Prod.fst).Nodup

namespace ProcessInfoMap

variable {Tick : Type}

/-- The empty table of a freshly constructed `Monitor`. -/
def empty : ProcessInfoMap Tick := ⟨[], List.nodup_nil⟩

/-- The keys of the table. -/
def keys (m : ProcessInfoMap Tick) : List Int := m.entries.map Prod.fst

/-- `m_processInfos.find(pid)`. -/
def find (m : ProcessInfoMap Tick) (pid : Int) : Option (ProcessInfo Tick) :=
  (m.entries.find? (·.1 = pid)).map Prod.snd

/-- `m_processInfos[pid] = info`, and the in-place update of a found entry: either way the
entry of `pid` becomes `info`. -/
def set (m : ProcessInfoMap Tick) (pid : Int) (info : ProcessInfo Tick) : ProcessInfoMap Tick :=
  ⟨m.entries.filter (·.1 ≠ pid) ++ [(pid, info)], by
    rw [List.map_append, List.nodup_append]
    refine ⟨m.nodup.sublist ((List.filter_sublist _).map _), List.nodup_singleton _, ?_⟩
    simp only [List.map_cons, List.map_nil, List.disjoint_singleton, List.mem_map, List.mem_filter]
    rintro ⟨e, ⟨-, he⟩, rfl⟩
    exact of_decide_eq_true he rfl⟩

/-- The loop `procInfo.second.active = false` over every entry. -/
def markInactive (m : ProcessInfoMap Tick) : ProcessInfoMap Tick :=
  ⟨m.entries.map fun e => (e.1, { e.2 with active := false }), by
    simpa only [List.map_map, Function.comp_def] using m.nodup⟩

/-- The clean-up loop: every entry that is not `active` is erased. -/
def prune (m : ProcessInfoMap Tick) : ProcessInfoMap Tick :=
  ⟨m.entries.filter (·.2.active), m.nodup.sublist ((List.filter_sublist _).map _)⟩

/-! ## `find` after each operation -/

@[simp] theorem find_empty (pid : Int) : (empty : ProcessInfoMap Tick).find pid = none := rfl

@[simp] theorem find_set (m : ProcessInfoMap Tick) (pid q : Int) (info : ProcessInfo Tick) :
    (m.set pid info).find q = if q = pid then some info else m.find q := by
  unfold find set
  rw [List.find?_append, List.find?_filter, List.find?_singleton]
  by_cases h : q = pid
  · subst h
    rw [List.find?_eq_none.2 fun e _ he => by simp only [decide_eq_true_eq] at he; exact he.1 he.2]
    simp only [decide_True, if_true]
    rfl
  · have hp : ∀ e : Int × ProcessInfo Tick, (e.1 ≠ pid ∧ e.1 = q) ↔ e.1 = q :=
      fun e => ⟨And.right, fun he => ⟨he ▸ h, he⟩⟩
    simp only [decide_eq_true_eq, hp, Ne.symm h, h, if_false, Option.or_none]

@[simp] theorem find_markInactive (m : ProcessInfoMap Tick) (q : Int) :
    m.markInactive.find q = (m.find q).map fun i => { i with active := false } := by
  simp [find, markInactive, Function.comp_def, Option.map_map]

/-- Erasing the inactive entries: with one entry per key, the entry of `q` survives exactly
when it is active. -/
private theorem find?_filter_active (q : Int) :
    ∀ l : List (Int × ProcessInfo Tick), (l.map Prod.fst).Nodup →
      ((l.filter (·.2.active)).find? (·.1 = q)).map Prod.snd =
        ((l.find? (·.1 = q)).map Prod.snd).filter (·.active)
  | [], _ => rfl
  | e :: l, hl => by
    rw [List.map_cons, List.nodup_cons] at hl
    by_cases he : e.1 = q
    · have hnone : (l.filter (·.2.active)).find? (·.1 = q) = none := by
        simp only [List.find?_eq_none, List.mem_filter, decide_eq_true_eq]
        exact fun x hx hxq => hl.1 (he ▸ hxq ▸ List.mem_map_of_mem _ hx.1)
      cases ha : e.2.active <;> simp [List.filter_cons, he, ha, hnone, Option.filter]
    · have ih := find?_filter_active q l hl.2
      have hne : ¬decide (e.1 = q) = true := by rwa [decide_eq_true_eq]
      rw [List.find?_cons_of_neg l hne, ← ih, List.filter_cons]
      split
      · exact congrArg _ (List.find?_cons_of_neg _ hne)
      · rfl

@[simp] theorem find_prune (m : ProcessInfoMap Tick) (q : Int) :
    m.prune.find q = (m.find q).filter (·.active) :=
  find?_filter_active q m.entries m.nodup

theorem mem_keys (m : ProcessInfoMap Tick) (q : Int) : q ∈ m.keys ↔ (m.find q).isSome := by
  simp only [keys, find, List.mem_map, Option.isSome_map', List.find?_isSome, decide_eq_true_eq]

end ProcessInfoMap

end Rosmon

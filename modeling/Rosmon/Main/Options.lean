import Mathlib

/-!
# Rosmon — the options of `main`

`main` reads its options with `getopt_long` and handles each in a `switch` on
the option character: most options set one local, `--help` prints the usage and
returns 0, and the numeric options and `--respawn-attr` validate their value and
return 1 with a message on `stderr` when it is bad.

`getopt_long` itself is not modelled: a run is the list of option characters
it returns, each with its `optarg` (empty for options without an argument, as
`getopt_long` passes none to them). The conversions `main` borrows from
libraries outside the sources (`boost::lexical_cast`, `parseMemory`) and the
defaults of `LaunchConfig` are parameters.

* `handleOption` — one turn of the loop, the whole `switch`;
* `parseOptions_respawn` — after any accepted options, the node respawn
  behaviour is decided by the last `force_*` value and the last
  `obey_default_*` value; a `force_*` value is never undone by an
  `obey_default_*` one;
* `parseOptions_limits_nonneg` — after any accepted options the stop timeout
  and the CPU limit are not negative, when the defaults are not.
-/

namespace Rosmon.Main

/-- How `main` returns before it launches anything. -/
inductive Exit
  /-- `usage(); return code;` -/
  | usage (code : Nat)
  /-- The message printed on `stderr`, then `return 1;`. -/
  | error (message : List Char)
  /-- An exception nothing catches: `std::terminate` aborts the process. -/
  | terminate
  deriving DecidableEq, Repr

/-- `enum Action`. -/
inductive Action
  | launch
  | benchmark
  | listArgs
  deriving DecidableEq, Repr

/-- The fields of `rosmon::LaunchInfo` that the options set. -/
structure LaunchInfo where
  robotName : List Char
  launchGroup : List Char
  launchConfig : List Char
  deriving DecidableEq, Repr

/-- The locals of `main` that the options set, and `g_flushStdout`. -/
structure Settings where
  name : List Char
  launchInfo : LaunchInfo
  logDir : List Char
  action : Action
  enableUI : Bool
  flushLog : Bool
  flushStdout : Bool
  startNodes : Bool
  stopTimeout : ℚ
  memoryLimit : Nat
  cpuLimit : ℚ
  disableDiagnostics : Bool
  diagnosticsPrefix : List Char
  respawnAll : Bool
  respawnObey : Bool
  respawnDefault : Bool
  deriving DecidableEq

/-- `LaunchConfig::DEFAULT_STOP_TIMEOUT`, `DEFAULT_MEMORY_LIMIT` and `DEFAULT_CPU_LIMIT`. -/
structure Defaults where
  stopTimeout : ℚ
  memoryLimit : Nat
  cpuLimit : ℚ

/-- `boost::lexical_cast<double>`, `boost::lexical_cast<float>` (`none` where they throw
`bad_lexical_cast`) and `rosmon::launch::parseMemory`. The casts give finite values: `nan`
and `inf`, which `lexical_cast` reads as a NaN or an infinity, are outside the model, as in
`LaunchNode.stopTimeout`. -/
structure Conversions where
  castDouble : List Char → Option ℚ
  castFloat : List Char → Option ℚ
  parseMemory : List Char → Nat × Bool

/-- The locals as `main` declares them; `launchInfo` is default-constructed by a constructor
that is not among the sources. -/
def Settings.initial (d : Defaults) (launchInfo : LaunchInfo) : Settings where
  name := []
  launchInfo := launchInfo
  logDir := []
  action := .launch
  enableUI := true
  flushLog := false
  flushStdout := false
  startNodes := true
  stopTimeout := d.stopTimeout
  memoryLimit := d.memoryLimit
  cpuLimit := d.cpuLimit
  disableDiagnostics := false
  diagnosticsPrefix := []
  respawnAll := false
  respawnObey := true
  respawnDefault := false

/-- `"Bad value for --<option> argument: '<optarg>'\n"`, the message of every option whose value
does not convert. -/
def badValue (option : String) (optarg : List Char) : List Char :=
  ("Bad value for --" ++ option ++ " argument: '").toList ++ optarg ++ "'\n".toList

/-- The `--respawn-attr` values that force the respawn attribute of every node. -/
def isForce (optarg : List Char) : Bool :=
  optarg = "force_true".toList || optarg = "force_false".toList

/-- The `--respawn-attr` values that set the default of nodes without the attribute. -/
def isObeyDefault (optarg : List Char) : Bool :=
  optarg = "obey_default_true".toList || optarg = "obey_default_false".toList

/-- One turn of the option loop: the `switch(c)` with `optarg`, giving the new locals and what
the turn prints on `stderr`, or how `main` returns. A character the `switch` has no case for
(`'?'`, which `getopt_long` returns for an unknown option) changes nothing. -/
def handleOption (conv : Conversions) (s : Settings) (c : Char) (optarg : List Char) :
    Except Exit (Settings × List (List Char)) :=
  match c with
  | 'h' => .error (.usage 0)
  | 'n' => .ok ({ s with name := optarg }, [])
  | 'r' => .ok ({ s with launchInfo := { s.launchInfo with robotName := optarg } }, [])
  | 'g' => .ok ({ s with launchInfo := { s.launchInfo with launchGroup := optarg } }, [])
  | 'z' => .ok ({ s with launchInfo := { s.launchInfo with launchConfig := optarg } }, [])
  | 'l' => .ok ({ s with logDir := optarg }, [])
  | 'L' => .ok ({ s with action := .listArgs }, [])
  | 'b' => .ok ({ s with action := .benchmark }, [])
  | 'd' => .ok ({ s with enableUI := false }, [])
  | 'f' => .ok ({ s with flushLog := true }, [])
  | 'F' => .ok ({ s with flushStdout := true }, [])
  | 'S' => .ok ({ s with startNodes := false }, [])
  | 's' =>
    match conv.castDouble optarg with
    | none => .error (.error (badValue "stop-timeout" optarg))
    | some t =>
      if t < 0 then .error (.error "Stop timeout cannot be negative\n".toList)
      else .ok ({ s with stopTimeout := t }, [])
  | 'D' => .ok ({ s with disableDiagnostics := true }, [])
  | 'c' =>
    match conv.castFloat optarg with
    | none => .error (.error (badValue "cpu-limit" optarg))
    | some l =>
      if l < 0 then .error (.error "CPU Limit cannot be negative\n".toList)
      else .ok ({ s with cpuLimit := l }, [])
  | 'm' =>
    if (conv.parseMemory optarg).2 then .ok ({ s with memoryLimit := (conv.parseMemory optarg).1 }, [])
    else .error (.error (badValue "memory-limit" optarg))
  | 'p' => .ok ({ s with diagnosticsPrefix := optarg }, ["Prefix : ".toList ++ optarg])
  | 'R' =>
    if isForce optarg then
      .ok ({ s with respawnAll := optarg = "force_true".toList, respawnObey := false }, [])
    else if isObeyDefault optarg then
      .ok ({ s with respawnDefault := optarg = "obey_default_true".toList }, [])
    else .error (.error (badValue "respawn-attr" optarg))
  | _ => .ok (s, [])

/-- No value both forces the respawn attribute and sets its default. -/
theorem isObeyDefault_of_isForce {optarg : List Char} (h : isForce optarg) :
    isObeyDefault optarg = false := by
  simp only [isForce, Bool.or_eq_true, decide_eq_true_eq] at h
  rcases h with rfl | rfl <;> decide

/-- The option loop over what `getopt_long` returns: the locals after the last option, or how
`main` returns, with everything printed on `stderr` before. -/
def parseOptions (conv : Conversions) :
    Settings → List (Char × List Char) → List (List Char) × Except Exit Settings
  | s, [] => ([], .ok s)
  | s, (c, optarg) :: opts =>
    match handleOption conv s c optarg with
    | .error e => ([], .error e)
    | .ok (s', out) => (out ++ (parseOptions conv s' opts).1, (parseOptions conv s' opts).2)

/-! ## One option -/

/-- What an accepted option does to the locals the results below read: `--stop-timeout` and
`--cpu-limit` set a value that is not negative, `--respawn-attr` sets the respawn flags, and every
other option leaves all of them as they were. -/
theorem handleOption_eq_ok {conv : Conversions} {s s' : Settings} {c : Char} {optarg : List Char}
    {out : List (List Char)} (h : handleOption conv s c optarg = .ok (s', out)) :
    (c = 's' ∧ ∃ t, 0 ≤ t ∧ s' = { s with stopTimeout := t }) ∨
    (c = 'c' ∧ ∃ l, 0 ≤ l ∧ s' = { s with cpuLimit := l }) ∨
    (c = 'R' ∧ isForce optarg = true ∧
      s' = { s with respawnAll := decide (optarg = "force_true".toList), respawnObey := false }) ∨
    (c = 'R' ∧ isForce optarg = false ∧ isObeyDefault optarg = true ∧
      s' = { s with respawnDefault := decide (optarg = "obey_default_true".toList) }) ∨
    (c ≠ 'R' ∧ s'.stopTimeout = s.stopTimeout ∧ s'.cpuLimit = s.cpuLimit ∧
      s'.respawnAll = s.respawnAll ∧ s'.respawnObey = s.respawnObey ∧
      s'.respawnDefault = s.respawnDefault) := by
  unfold handleOption at h
  split at h
  case h_1 => cases h
  case h_13 =>
    split at h
    · cases h
    · split_ifs at h with ht
      cases h
      exact .inl ⟨rfl, _, not_lt.1 ht, rfl⟩
  case h_15 =>
    split at h
    · cases h
    · split_ifs at h with hl
      cases h
      exact .inr (.inl ⟨rfl, _, not_lt.1 hl, rfl⟩)
  case h_16 =>
    split_ifs at h
    cases h
    exact .inr (.inr (.inr (.inr ⟨by decide, rfl, rfl, rfl, rfl, rfl⟩)))
  case h_18 =>
    split_ifs at h with hf ho
    · cases h
      exact .inr (.inr (.inl ⟨rfl, hf, rfl⟩))
    · cases h
      exact .inr (.inr (.inr (.inl ⟨rfl, Bool.eq_false_iff.2 hf, ho, rfl⟩)))
  case h_19 hR =>
    cases h
    exact .inr (.inr (.inr (.inr ⟨hR, rfl, rfl, rfl, rfl, rfl⟩)))
  -- the options that set a local the results do not read
  all_goals
    cases h
    exact .inr (.inr (.inr (.inr ⟨by decide, rfl, rfl, rfl, rfl, rfl⟩)))

/-- An accepted option leaves the stop timeout and the CPU limit as they were, or sets them to a
value that is not negative. -/
theorem handleOption_limits {conv : Conversions} {s s' : Settings} {c : Char} {optarg : List Char}
    {out : List (List Char)} (h : handleOption conv s c optarg = .ok (s', out)) :
    (s'.stopTimeout = s.stopTimeout ∨ 0 ≤ s'.stopTimeout) ∧
      (s'.cpuLimit = s.cpuLimit ∨ 0 ≤ s'.cpuLimit) := by
  rcases handleOption_eq_ok h with ⟨-, t, ht, rfl⟩ | ⟨-, l, hl, rfl⟩ | ⟨-, -, rfl⟩ |
      ⟨-, -, -, rfl⟩ | ⟨-, hT, hC, -⟩
  · exact ⟨.inr ht, .inl rfl⟩
  · exact ⟨.inl rfl, .inr hl⟩
  · exact ⟨.inl rfl, .inl rfl⟩
  · exact ⟨.inl rfl, .inl rfl⟩
  · exact ⟨.inl hT, .inl hC⟩

/-! ## Runs -/

theorem parseOptions_cons (conv : Conversions) (s : Settings) (c : Char) (optarg : List Char)
    (opts : List (Char × List Char)) {s' : Settings} (h : (parseOptions conv s ((c, optarg) :: opts)).2 = .ok s') :
    ∃ s₁ out, handleOption conv s c optarg = .ok (s₁, out) ∧ (parseOptions conv s₁ opts).2 = .ok s' := by
  simp only [parseOptions] at h
  split at h
  · cases h
  · exact ⟨_, _, ‹_›, h⟩

/-- The value of the last `--respawn-attr` option whose value satisfies `p`. -/
def lastRespawnAttr (p : List Char → Bool) (opts : List (Char × List Char)) : Option (List Char) :=
  (opts.reverse.find? fun o => o.1 = 'R' && p o.2).map (·.2)

theorem lastRespawnAttr_cons (p : List Char → Bool) (o : Char × List Char)
    (opts : List (Char × List Char)) :
    lastRespawnAttr p (o :: opts) = (lastRespawnAttr p opts).or (lastRespawnAttr p [o]) := by
  simp only [lastRespawnAttr, List.reverse_cons, List.reverse_nil, List.nil_append,
    List.find?_append, Option.map_or']

theorem lastRespawnAttr_singleton (p : List Char → Bool) (c : Char) (optarg : List Char) :
    lastRespawnAttr p [(c, optarg)] = if c = 'R' ∧ p optarg = true then some optarg else none := by
  by_cases h : c = 'R' ∧ p optarg = true
  · simp [lastRespawnAttr, h.1, h.2]
  · rw [if_neg h, lastRespawnAttr, List.reverse_singleton, Option.map_eq_none', List.find?_singleton,
      if_neg (by simpa using h)]

theorem getD_map_or {α β : Type} (o o' : Option α) (f : α → β) (d : β) :
    ((o.or o').map f).getD d = (o.map f).getD ((o'.map f).getD d) := by
  cases o <;> rfl

/-- The respawn flags after one accepted option: a `force_*` value sets `respawnAll` and clears
`respawnObey`, an `obey_default_*` value sets `respawnDefault`, anything else keeps them. -/
theorem handleOption_respawn {conv : Conversions} {s s' : Settings} {c : Char} {optarg : List Char}
    {out : List (List Char)} (h : handleOption conv s c optarg = .ok (s', out)) :
    s'.respawnAll = ((lastRespawnAttr isForce [(c, optarg)]).map
        fun v => decide (v = "force_true".toList)).getD s.respawnAll ∧
      s'.respawnObey = (s.respawnObey && (lastRespawnAttr isForce [(c, optarg)]).isNone) ∧
      s'.respawnDefault = ((lastRespawnAttr isObeyDefault [(c, optarg)]).map
        fun v => decide (v = "obey_default_true".toList)).getD s.respawnDefault := by
  rw [lastRespawnAttr_singleton, lastRespawnAttr_singleton]
  rcases handleOption_eq_ok h with ⟨rfl, -, -, rfl⟩ | ⟨rfl, -, -, rfl⟩ | ⟨rfl, hf, rfl⟩ |
      ⟨rfl, hf, ho, rfl⟩ | ⟨hc, -, -, hA, hO, hD⟩
  · exact ⟨rfl, (Bool.and_true _).symm, rfl⟩
  · exact ⟨rfl, (Bool.and_true _).symm, rfl⟩
  · simp [hf, isObeyDefault_of_isForce hf]
  · simp [hf, ho]
  · simp [hc, hA, hO, hD]

/-- The respawn flags after a run of accepted options, from any locals. -/
theorem parseOptions_respawn_run (conv : Conversions) (s : Settings) (opts : List (Char × List Char))
    {s' : Settings} (h : (parseOptions conv s opts).2 = .ok s') :
    s'.respawnAll = ((lastRespawnAttr isForce opts).map fun v => decide (v = "force_true".toList)).getD
        s.respawnAll ∧
      s'.respawnObey = (s.respawnObey && (lastRespawnAttr isForce opts).isNone) ∧
      s'.respawnDefault = ((lastRespawnAttr isObeyDefault opts).map
        fun v => decide (v = "obey_default_true".toList)).getD s.respawnDefault := by
  induction opts generalizing s with
  | nil =>
    cases h
    exact ⟨rfl, (Bool.and_true _).symm, rfl⟩
  | cons o opts ih =>
    obtain ⟨c, optarg⟩ := o
    obtain ⟨s₁, out, hstep, hrun⟩ := parseOptions_cons conv s c optarg opts h
    obtain ⟨hA, hO, hD⟩ := ih s₁ hrun
    obtain ⟨hA₁, hO₁, hD₁⟩ := handleOption_respawn hstep
    rw [lastRespawnAttr_cons isForce, lastRespawnAttr_cons isObeyDefault, getD_map_or, getD_map_or,
      Option.isNone_or, hA, hO, hD, hA₁, hO₁, hD₁, Bool.and_assoc,
      Bool.and_comm (lastRespawnAttr isForce [(c, optarg)]).isNone]
    exact ⟨rfl, rfl, rfl⟩

theorem getD_map_decide_eq (o : Option (List Char)) (v : List Char) :
    (o.map fun w => decide (w = v)).getD false = decide (o = some v) := by
  cases o <;> simp

/-- **Respawn behaviour.** After any options `main` accepts, every node's respawn attribute is
forced exactly when some `--respawn-attr` had a `force_*` value, and forced to the last such
value; the default for nodes without the attribute is the last `obey_default_*` value. An
`obey_default_*` value given after a `force_*` one does not undo the forcing. -/
theorem parseOptions_respawn (conv : Conversions) (d : Defaults) (launchInfo : LaunchInfo)
    (opts : List (Char × List Char)) {s : Settings}
    (h : (parseOptions conv (.initial d launchInfo) opts).2 = .ok s) :
    s.respawnAll = decide (lastRespawnAttr isForce opts = some "force_true".toList) ∧
      s.respawnObey = (lastRespawnAttr isForce opts).isNone ∧
      s.respawnDefault = decide (lastRespawnAttr isObeyDefault opts = some "obey_default_true".toList) := by
  obtain ⟨hA, hO, hD⟩ := parseOptions_respawn_run conv _ opts h
  rw [hA, hO, hD]
  exact ⟨getD_map_decide_eq _ _, Bool.true_and _, getD_map_decide_eq _ _⟩

/-- `--respawn-attr=force_false --respawn-attr=obey_default_true`: respawn stays forced off. -/
theorem parseOptions_respawn_force_then_default :
    (parseOptions ⟨fun _ => none, fun _ => none, fun _ => (0, false)⟩ (.initial ⟨1, 0, 0⟩ ⟨[], [], []⟩)
        [('R', "force_false".toList), ('R', "obey_default_true".toList)]).2 =
      .ok { Settings.initial ⟨1, 0, 0⟩ ⟨[], [], []⟩ with respawnObey := false, respawnDefault := true } ∧
    ({ Settings.initial ⟨1, 0, 0⟩ ⟨[], [], []⟩ with respawnObey := false, respawnDefault := true } :
        Settings).respawnAll =
      decide (lastRespawnAttr isForce [('R', "force_false".toList), ('R', "obey_default_true".toList)] =
        some "force_true".toList) ∧
    ({ Settings.initial ⟨1, 0, 0⟩ ⟨[], [], []⟩ with respawnObey := false, respawnDefault := true } :
        Settings).respawnObey =
      (lastRespawnAttr isForce [('R', "force_false".toList), ('R', "obey_default_true".toList)]).isNone ∧
    ({ Settings.initial ⟨1, 0, 0⟩ ⟨[], [], []⟩ with respawnObey := false, respawnDefault := true } :
        Settings).respawnDefault =
      decide (lastRespawnAttr isObeyDefault [('R', "force_false".toList), ('R', "obey_default_true".toList)] =
        some "obey_default_true".toList) :=
  have h : (parseOptions ⟨fun _ => none, fun _ => none, fun _ => (0, false)⟩
      (.initial ⟨1, 0, 0⟩ ⟨[], [], []⟩) [('R', "force_false".toList), ('R', "obey_default_true".toList)]).2 =
      .ok { Settings.initial ⟨1, 0, 0⟩ ⟨[], [], []⟩ with respawnObey := false, respawnDefault := true } := rfl
  ⟨h, parseOptions_respawn _ _ _ _ h⟩

theorem eq_or_nonneg_trans {a b c : ℚ} (h₁ : a = b ∨ 0 ≤ a) (h₂ : b = c ∨ 0 ≤ b) :
    a = c ∨ 0 ≤ a := by
  rcases h₁ with rfl | h₁
  · exact h₂
  · exact .inr h₁

/-- The limits after a run of accepted options, from any locals: as they were, or not negative. -/
theorem parseOptions_limits_run (conv : Conversions) (s : Settings) (opts : List (Char × List Char))
    {s' : Settings} (h : (parseOptions conv s opts).2 = .ok s') :
    (s'.stopTimeout = s.stopTimeout ∨ 0 ≤ s'.stopTimeout) ∧
      (s'.cpuLimit = s.cpuLimit ∨ 0 ≤ s'.cpuLimit) := by
  induction opts generalizing s with
  | nil => cases h; exact ⟨.inl rfl, .inl rfl⟩
  | cons o opts ih =>
    obtain ⟨s₁, out, hstep, hrun⟩ := parseOptions_cons conv s o.1 o.2 opts h
    obtain ⟨hT, hC⟩ := ih s₁ hrun
    obtain ⟨hT₁, hC₁⟩ := handleOption_limits hstep
    exact ⟨eq_or_nonneg_trans hT hT₁, eq_or_nonneg_trans hC hC₁⟩

/-- **Limits.** When `LaunchConfig`'s defaults are not negative, neither are the stop timeout and
the CPU limit after any options `main` accepts. -/
theorem parseOptions_limits_nonneg (conv : Conversions) (d : Defaults)
    (hd : 0 ≤ d.stopTimeout ∧ 0 ≤ d.cpuLimit) (launchInfo : LaunchInfo)
    (opts : List (Char × List Char)) {s : Settings}
    (h : (parseOptions conv (.initial d launchInfo) opts).2 = .ok s) :
    0 ≤ s.stopTimeout ∧ 0 ≤ s.cpuLimit := by
  obtain ⟨hT, hC⟩ := parseOptions_limits_run conv _ opts h
  exact ⟨hT.elim (fun e => e ▸ hd.1) id, hC.elim (fun e => e ▸ hd.2) id⟩

/-- `--stop-timeout=5`, read as 5, with a default of 1. -/
theorem parseOptions_limits_nonneg_five :
    (0 ≤ (1 : ℚ) ∧ 0 ≤ (0 : ℚ)) ∧
    (parseOptions ⟨fun _ => some 5, fun _ => none, fun _ => (0, false)⟩ (.initial ⟨1, 0, 0⟩ ⟨[], [], []⟩)
        [('s', "5".toList)]).2 = .ok { Settings.initial ⟨1, 0, 0⟩ ⟨[], [], []⟩ with stopTimeout := 5 } ∧
    0 ≤ ({ Settings.initial ⟨1, 0, 0⟩ ⟨[], [], []⟩ with stopTimeout := 5 } : Settings).stopTimeout ∧
    0 ≤ ({ Settings.initial ⟨1, 0, 0⟩ ⟨[], [], []⟩ with stopTimeout := 5 } : Settings).cpuLimit :=
  have hd : 0 ≤ (1 : ℚ) ∧ 0 ≤ (0 : ℚ) := by norm_num
  have h : (parseOptions ⟨fun _ => some 5, fun _ => none, fun _ => (0, false)⟩
      (.initial ⟨1, 0, 0⟩ ⟨[], [], []⟩) [('s', "5".toList)]).2 =
      .ok { Settings.initial ⟨1, 0, 0⟩ ⟨[], [], []⟩ with stopTimeout := 5 } := rfl
  ⟨hd, h, parseOptions_limits_nonneg _ ⟨1, 0, 0⟩ hd _ _ h⟩

end Rosmon.Main

import Rosmon.Main.Options
import Rosmon.Monitor.Basic

/-!
# Rosmon — the start of a session: log files, the node name, the log on `stdout`

After its arguments, `main` opens the log. With `--log=DIR` it enters or
creates `DIR/rosmon` (`chdir(p) == 0 || mkdir(p, 0777) == 0`), then
`DIR/rosmon/core_dumps`, then `DIR/rosmon/roslogs`, and logs to
`DIR/rosmon/roslogs/<group>_<config>.log`; where a step fails, or without
`--log`, it logs to a file in `/tmp` named after the time. It then chooses the
name `ros::init` receives, and without the UI it prints the nodes' output
with `logToStdout`.

`chdir` and `mkdir` are modelled on a file system of directories, each a path
from the root; a path is resolved from the root when it starts with `/` and
from the working directory otherwise, lexically (symbolic links are not
modelled). Resolving a path looks each of its components up in the directory
reached before it, which must exist and may have to be searched: where the
process may not search it, `chdir` and `mkdir` fail with `EACCES`. `chdir`
also needs search permission on the directory it enters, and `mkdir` fails
on an existing entry (`EEXIST`) before it asks for write permission. Which
directories may be searched, and which `mkdir` may create, are parameters.

* `openLogger_absolute` — with an absolute log directory, the log goes to
  `roslogs` exactly when `rosmon` can be entered or made, may be searched, and
  `roslogs` in it can be entered or made; `core_dumps` does not matter. A
  `rosmon` that exists but may not be searched is neither entered nor made;
* `openLogger_relative_rerun` — with a relative log directory whose `rosmon`
  directory exists already and can be entered, `chdir` moves the process into
  it, the two later relative paths are resolved from there, and the log falls
  back to `/tmp` after two messages;
* `logToStdout_line` — `logToStdout` prints the source right-aligned, then the
  bytes of the message up to its length modulo `2^32` (`len` is an `unsigned
  int`) without their trailing line ends, then one `\n`.

The name `ros::init` receives is modelled as `nodeName`.
-/

namespace Rosmon.Main

/-! ## Paths and the file system -/

/-- A directory, as the names of the directories from the root down to it. -/
abbrev Dir := List (List Char)

/-- The directory reached from `base` by a path's components, the pieces between its slashes:
an empty piece and `.` stay, `..` goes up (the root's parent is the root), a name goes down. -/
def resolveFrom (base : Dir) : List (List Char) → Dir
  | [] => base
  | c :: cs =>
    if c = [] ∨ c = ['.'] then resolveFrom base cs
    else if c = ['.', '.'] then resolveFrom base.dropLast cs
    else resolveFrom (base ++ [c]) cs

/-- The directories in which the components of a path are looked up, from `base` on: each
component but an empty one is looked up in the directory reached before it. -/
def lookupsFrom (base : Dir) : List (List Char) → List Dir
  | [] => []
  | c :: cs => if c = [] then lookupsFrom base cs else base :: lookupsFrom (resolveFrom base [c]) cs

/-- The directories of the file system and the working directory of the process. The parent of
a directory is a directory, and so is the working directory. -/
structure FileSystem where
  dirs : List Dir
  cwd : Dir
  /-- Whether the process may search the directory: look a name up in it, or enter it. -/
  searchable : Dir → Bool
  /-- Whether `mkdir` may create the directory, when its parent exists and it does not. -/
  mayCreate : Dir → Bool
  parent_mem : ∀ d ∈ dirs, d.dropLast ∈ dirs
  cwd_mem : cwd ∈ dirs

namespace FileSystem

/-- Where the resolution of a path starts: at the root when it starts with `/`, else in the
working directory. -/
def start (fs : FileSystem) (path : List Char) : Dir :=
  if path.head? = some '/' then [] else fs.cwd

/-- The directory a path names. -/
def resolve (fs : FileSystem) (path : List Char) : Dir :=
  resolveFrom (fs.start path) (path.splitOn '/')

/-- The directories the resolution of a path looks its components up in. -/
def lookups (fs : FileSystem) (path : List Char) : List Dir :=
  lookupsFrom (fs.start path) (path.splitOn '/')

/-- The resolution of a path gets through: every directory it looks a component up in exists
(else `ENOENT`) and may be searched (else `EACCES`). -/
def Traversable (fs : FileSystem) (path : List Char) : Prop :=
  ∀ d ∈ fs.lookups path, d ∈ fs.dirs ∧ fs.searchable d = true

instance (fs : FileSystem) (path : List Char) : Decidable (fs.Traversable path) :=
  inferInstanceAs (Decidable (∀ d ∈ _, _))

/-- `chdir(path) == 0`, and the file system after it: the working directory moves to a
directory that exists and may be searched. -/
def chdir (fs : FileSystem) (path : List Char) : Option FileSystem :=
  if h : fs.Traversable path ∧ fs.resolve path ∈ fs.dirs ∧ fs.searchable (fs.resolve path) = true
  then some { fs with cwd := fs.resolve path, cwd_mem := h.2.1 }
  else none

theorem parent_mem_cons {dirs : List Dir} {d : Dir} (hd : d.dropLast ∈ dirs)
    (h : ∀ e ∈ dirs, e.dropLast ∈ dirs) : ∀ e ∈ d :: dirs, e.dropLast ∈ d :: dirs := by
  intro e he
  rcases List.mem_cons.1 he with rfl | he
  · exact List.mem_cons_of_mem _ hd
  · exact List.mem_cons_of_mem _ (h e he)

/-- `mkdir(path, 0777) == 0`, and the file system after it: a directory that does not exist is
made in one that does. -/
def mkdir (fs : FileSystem) (path : List Char) : Option FileSystem :=
  if h : fs.Traversable path ∧ fs.resolve path ∉ fs.dirs ∧ (fs.resolve path).dropLast ∈ fs.dirs ∧
      fs.mayCreate (fs.resolve path) = true then
    some { fs with
      dirs := fs.resolve path :: fs.dirs
      parent_mem := parent_mem_cons h.2.2.1 fs.parent_mem
      cwd_mem := List.mem_cons_of_mem _ fs.cwd_mem }
  else none

/-- `chdir(path) == 0 || mkdir(path, 0777) == 0`: enter the directory, or else make it. -/
def enterOrCreate (fs : FileSystem) (path : List Char) : Option FileSystem :=
  match fs.chdir path with
  | some fs' => some fs'
  | none => fs.mkdir path

/-- Whether `enterOrCreate` succeeds on a path: its resolution gets through, and it names a
directory that may be searched, or one that does not exist and can be made in one that does. -/
def CanEnter (fs : FileSystem) (path : List Char) : Prop :=
  fs.Traversable path ∧
    (fs.resolve path ∈ fs.dirs ∧ fs.searchable (fs.resolve path) = true ∨
      fs.resolve path ∉ fs.dirs ∧ (fs.resolve path).dropLast ∈ fs.dirs ∧
        fs.mayCreate (fs.resolve path) = true)

instance (fs : FileSystem) (path : List Char) : Decidable (fs.CanEnter path) :=
  inferInstanceAs (Decidable (_ ∧ (_ ∨ _)))

end FileSystem

/-! ## Resolving paths -/

theorem resolveFrom_append (base : Dir) (l m : List (List Char)) :
    resolveFrom base (l ++ m) = resolveFrom (resolveFrom base l) m := by
  induction l generalizing base with
  | nil => rfl
  | cons c cs ih => simp only [List.cons_append, resolveFrom]; split_ifs <;> exact ih _

theorem lookupsFrom_append (base : Dir) (l m : List (List Char)) :
    lookupsFrom base (l ++ m) = lookupsFrom base l ++ lookupsFrom (resolveFrom base l) m := by
  induction l generalizing base with
  | nil => rfl
  | cons c cs ih =>
    have hc : resolveFrom base (c :: cs) = resolveFrom (resolveFrom base [c]) cs :=
      resolveFrom_append base [c] cs
    rw [List.cons_append, lookupsFrom, lookupsFrom, hc]
    split_ifs with h
    · rw [ih, h]
      rfl
    · rw [ih, List.cons_append]

/-- A name goes down one directory. -/
theorem resolveFrom_name (base : Dir) {c : List Char} (h : c ≠ [] ∧ c ≠ ['.'] ∧ c ≠ ['.', '.']) :
    resolveFrom base [c] = base ++ [c] := by
  simp only [resolveFrom, h.1, h.2.1, h.2.2, or_self, if_false]

theorem splitOn_append_slash (l m : List Char) :
    (l ++ '/' :: m).splitOn '/' = l.splitOn '/' ++ m.splitOn '/' := by
  induction l with
  | nil => simp [List.splitOn, List.splitOnP_cons]
  | cons c l ih =>
    simp only [List.splitOn] at ih ⊢
    rw [List.cons_append, List.splitOnP_cons, List.splitOnP_cons, ih]
    split_ifs
    · rfl
    · obtain ⟨x, xs, hx⟩ := List.exists_cons_of_ne_nil (List.splitOnP_ne_nil (· == '/') l)
      rw [hx]
      rfl

namespace FileSystem

section
variable (fs : FileSystem) {path : List Char}

/-- A path from the root is resolved alike whatever the working directory. -/
theorem start_of_absolute (h : path.head? = some '/') : fs.start path = [] := if_pos h

theorem start_append_slash (hP : path ≠ []) (name : List Char) :
    fs.start (path ++ '/' :: name) = fs.start path := by
  obtain ⟨c, l, rfl⟩ := List.exists_cons_of_ne_nil hP
  rfl

variable (hP : path ≠ []) {name : List Char} (hs : name.splitOn '/' = [name])
  (hn : name ≠ [] ∧ name ≠ ['.'] ∧ name ≠ ['.', '.'])
include hP hs hn

/-- `path + "/" + name` is the directory `name` in the one `path` names. -/
theorem resolve_append_name : fs.resolve (path ++ '/' :: name) = fs.resolve path ++ [name] := by
  rw [resolve, resolve, start_append_slash fs hP, splitOn_append_slash, hs, resolveFrom_append,
    resolveFrom_name _ hn]

/-- Resolving `path + "/" + name` looks `name` up in the directory `path` names. -/
theorem lookups_append_name : fs.lookups (path ++ '/' :: name) = fs.lookups path ++ [fs.resolve path] := by
  rw [lookups, lookups, resolve, start_append_slash fs hP, splitOn_append_slash, hs,
    lookupsFrom_append, lookupsFrom, if_neg hn.1]
  rfl

theorem traversable_append_name :
    fs.Traversable (path ++ '/' :: name) ↔
      fs.Traversable path ∧ fs.resolve path ∈ fs.dirs ∧ fs.searchable (fs.resolve path) = true := by
  rw [Traversable, lookups_append_name fs hP hs hn, List.forall_mem_append, List.forall_mem_singleton]
  rfl

/-- `enterOrCreate` of `path + "/" + name`: `path` names a directory that resolution gets to and
may search, and `name` in it may be searched or does not exist and may be made. -/
theorem canEnter_append_name :
    fs.CanEnter (path ++ '/' :: name) ↔
      fs.Traversable path ∧ fs.resolve path ∈ fs.dirs ∧ fs.searchable (fs.resolve path) = true ∧
        (fs.resolve path ++ [name] ∈ fs.dirs ∧ fs.searchable (fs.resolve path ++ [name]) = true ∨
          fs.resolve path ++ [name] ∉ fs.dirs ∧ fs.mayCreate (fs.resolve path ++ [name]) = true) := by
  rw [CanEnter, traversable_append_name fs hP hs hn, resolve_append_name fs hP hs hn,
    List.dropLast_concat]
  constructor
  · rintro ⟨⟨hT, hW, hS⟩, hD | ⟨hD, -, hm⟩⟩
    exacts [⟨hT, hW, hS, .inl hD⟩, ⟨hT, hW, hS, .inr ⟨hD, hm⟩⟩]
  · rintro ⟨hT, hW, hS, hD | ⟨hD, hm⟩⟩
    exacts [⟨⟨hT, hW, hS⟩, .inl hD⟩, ⟨⟨hT, hW, hS⟩, .inr ⟨hD, hW, hm⟩⟩]

end

/-- `enterOrCreate` fails exactly on the paths it cannot enter. -/
theorem enterOrCreate_eq_none (fs : FileSystem) (path : List Char) :
    fs.enterOrCreate path = none ↔ ¬fs.CanEnter path := by
  unfold enterOrCreate chdir mkdir
  split_ifs with hc hm
  · exact iff_of_false (by simp) (not_not.2 ⟨hc.1, .inl hc.2⟩)
  · exact iff_of_false (by simp) (not_not.2 ⟨hm.1, .inr hm.2⟩)
  · exact iff_of_true rfl fun ⟨hT, h⟩ => h.elim (fun h => hc ⟨hT, h⟩) fun h => hm ⟨hT, h⟩

/-- A directory that resolution gets to and may search is entered. -/
theorem enterOrCreate_of_chdir (fs : FileSystem) {path : List Char}
    (h : fs.Traversable path ∧ fs.resolve path ∈ fs.dirs ∧ fs.searchable (fs.resolve path) = true) :
    fs.enterOrCreate path = some { fs with cwd := fs.resolve path, cwd_mem := h.2.1 } := by
  simp only [enterOrCreate, chdir, dif_pos h]

/-- After `enterOrCreate`, the directories are those before and the one it entered or made. -/
theorem enterOrCreate_eq_some {fs fs' : FileSystem} {path : List Char}
    (h : fs.enterOrCreate path = some fs') :
    fs'.mayCreate = fs.mayCreate ∧ fs'.searchable = fs.searchable ∧
      ∀ d, d ∈ fs'.dirs ↔ d = fs.resolve path ∨ d ∈ fs.dirs := by
  unfold enterOrCreate at h
  split at h
  · next hc =>
    cases h
    unfold chdir at hc
    split_ifs at hc with h'
    cases hc
    exact ⟨rfl, rfl, fun d => (or_iff_right_of_imp fun hd => hd ▸ h'.2.1).symm⟩
  · unfold mkdir at h
    split_ifs at h
    cases h
    exact ⟨rfl, rfl, fun d => List.mem_cons⟩

/-- Whether or not `enterOrCreate` succeeds, the file system after it keeps every directory and
gains at most the one it entered or made. -/
theorem getD_enterOrCreate (fs : FileSystem) (path : List Char) :
    ((fs.enterOrCreate path).getD fs).mayCreate = fs.mayCreate ∧
      ((fs.enterOrCreate path).getD fs).searchable = fs.searchable ∧
      (∀ d ∈ fs.dirs, d ∈ ((fs.enterOrCreate path).getD fs).dirs) ∧
      ∀ d, d ≠ fs.resolve path → (d ∈ ((fs.enterOrCreate path).getD fs).dirs ↔ d ∈ fs.dirs) := by
  cases h : fs.enterOrCreate path with
  | none => exact ⟨rfl, rfl, fun _ hd => hd, fun _ _ => Iff.rfl⟩
  | some fs' =>
    obtain ⟨hc, hs, hd⟩ := enterOrCreate_eq_some h
    exact ⟨hc, hs, fun d h => (hd d).2 (.inr h), fun d hne => by rw [Option.getD_some, hd, or_iff_right hne]⟩

/-- `enterOrCreate` succeeds only on the paths it can enter. -/
theorem canEnter_of_enterOrCreate {fs fs' : FileSystem} {path : List Char}
    (h : fs.enterOrCreate path = some fs') : fs.CanEnter path :=
  not_not.1 fun hn => Option.some_ne_none _ (h.symm.trans ((fs.enterOrCreate_eq_none path).2 hn))

/-- A path whose directory has no parent directory can be neither entered nor made. -/
theorem not_canEnter_of_parent (fs : FileSystem) {path : List Char}
    (h : (fs.resolve path).dropLast ∉ fs.dirs) : ¬fs.CanEnter path :=
  fun ⟨_, hd⟩ => hd.elim (fun hm => h (fs.parent_mem _ hm.1)) fun hm => h hm.2.1

/-- Resolution that got through still does on a file system with more directories, searched
alike, that looks the path up in the same places. -/
theorem traversable_of_le {fs fs' : FileSystem} {path : List Char} (h : fs.Traversable path)
    (hl : fs'.lookups path = fs.lookups path) (hd : ∀ d ∈ fs.dirs, d ∈ fs'.dirs)
    (hs : fs'.searchable = fs.searchable) : fs'.Traversable path := fun d hd' => by
  rw [hl] at hd'
  exact ⟨hd _ (h d hd').1, hs ▸ (h d hd').2⟩

end FileSystem

/-! ## Opening the log -/

/-- The messages of the log set-up on `stderr`. -/
def rosmonDirError : List Char := "Could not create rosmon directory\n".toList

/-- See `rosmonDirError`. -/
def coreDumpsDirError : List Char := "Could not create rosmon/core_dumps directory\n".toList

/-- See `rosmonDirError`. -/
def roslogsDirError : List Char := "Could not create rosmon/roslogs directory\n".toList

/-- `if (logDir.back() == '/') logDir.pop_back();` -/
def popTrailingSlash (logDir : List Char) : List Char :=
  if logDir.getLast? = some '/' then logDir.dropLast else logDir

/-- `workDir = logDir + "/rosmon"`, after the trailing slash is dropped. -/
def workDir (logDir : List Char) : List Char := popTrailingSlash logDir ++ "/rosmon".toList

/-- `logDir + "/" + launch_group + "_" + launch_config + ".log"`. -/
def logFileIn (dir : List Char) (launchInfo : LaunchInfo) : List Char :=
  dir ++ "/".toList ++ launchInfo.launchGroup ++ "_".toList ++ launchInfo.launchConfig ++
    ".log".toList

/-- What the log set-up leaves: the file system, `logDir` as the `Monitor` receives it,
`workDir` as the launch configuration receives it, `logFile` before the fallback to `/tmp`
(`none` for the empty string), and the messages on `stderr`. -/
structure LogSetup where
  fs : FileSystem
  logDir : List Char
  workDir : List Char
  logFile : Option (List Char)
  errors : List (List Char)

/-- The `Open logger` block of `main`. -/
def openLogger (fs : FileSystem) (logDir : List Char) (launchInfo : LaunchInfo) : LogSetup :=
  if logDir = [] then ⟨fs, [], [], none, []⟩
  else
    match fs.enterOrCreate (workDir logDir) with
    | none => ⟨fs, popTrailingSlash logDir, workDir logDir, none, [rosmonDirError]⟩
    | some fs₁ =>
      let coreDumps := fs₁.enterOrCreate (workDir logDir ++ "/core_dumps".toList)
      let fs₂ := coreDumps.getD fs₁
      let errors := if coreDumps.isSome then [] else [coreDumpsDirError]
      match fs₂.enterOrCreate (workDir logDir ++ "/roslogs".toList) with
      | some fs₃ => ⟨fs₃, workDir logDir ++ "/roslogs".toList, workDir logDir,
          some (logFileIn (workDir logDir ++ "/roslogs".toList) launchInfo), errors⟩
      | none => ⟨fs₂, workDir logDir ++ "/roslogs".toList, workDir logDir, none,
          errors ++ [roslogsDirError]⟩

/-- The local time `strftime` prints: `%Y`, `%m`, `%d`, `%H`, `%M` and `%S`. -/
structure LocalTime where
  year : Nat
  month : Nat
  day : Nat
  hour : Nat
  minute : Nat
  second : Nat

/-- A field of `strftime` printed with two digits. -/
def twoDigits (n : Nat) : List Char := [Char.ofNat (0x30 + n / 10 % 10), Char.ofNat (0x30 + n % 10)]

/-- `strftime(buf, sizeof(buf), "/tmp/rosmon_%Y_%m_%d_%H_%M_%S.log", &currentTime)`. -/
def tmpLogFile (t : LocalTime) : List Char :=
  "/tmp/rosmon_".toList ++ Nat.toDigits 10 t.year ++ ['_'] ++ twoDigits t.month ++ ['_'] ++
    twoDigits t.day ++ ['_'] ++ twoDigits t.hour ++ ['_'] ++ twoDigits t.minute ++ ['_'] ++
    twoDigits t.second ++ ".log".toList

/-- The `Setup logging` block of `main`: the set-up, the file the `Logger` opens, and the line
printed on `stdout`. -/
def setupLogging (fs : FileSystem) (logDir : List Char) (launchInfo : LaunchInfo)
    (t : LocalTime) : LogSetup × List Char × List Char :=
  let s := openLogger fs logDir launchInfo
  let logFile := s.logFile.getD (tmpLogFile t)
  (s, logFile, "Creating logfile ".toList ++ logFile ++ "\n".toList)

/-! ## Where the log goes -/

/-- `workDir` starts as the log directory does, and with `/` when that is empty. -/
theorem head?_workDir (logDir : List Char) : (workDir logDir).head? = (logDir ++ ['/']).head? := by
  unfold workDir popTrailingSlash
  split_ifs with h
  · obtain ⟨ys, rfl⟩ := List.getLast?_eq_some_iff.1 h
    rw [List.dropLast_concat]
    cases ys <;> rfl
  · cases logDir <;> rfl

theorem workDir_ne_nil (logDir : List Char) : workDir logDir ≠ [] := by
  simp [workDir]

/-- With an absolute log directory, the log goes to `roslogs` exactly when `rosmon` can be entered
or made and may be searched, and `roslogs` in it may be searched or can be made. -/
theorem openLogger_absolute (fs : FileSystem) (logDir : List Char) (launchInfo : LaunchInfo)
    (h : logDir.head? = some '/') :
    (openLogger fs logDir launchInfo).logFile =
      if fs.CanEnter (workDir logDir) ∧ fs.searchable (fs.resolve (workDir logDir)) = true ∧
          (fs.resolve (workDir logDir) ++ ["roslogs".toList] ∈ fs.dirs ∧
              fs.searchable (fs.resolve (workDir logDir) ++ ["roslogs".toList]) = true ∨
            fs.resolve (workDir logDir) ++ ["roslogs".toList] ∉ fs.dirs ∧
              fs.mayCreate (fs.resolve (workDir logDir) ++ ["roslogs".toList]) = true) then
        some (logFileIn (workDir logDir ++ "/roslogs".toList) launchInfo)
      else none := by
  have hne : logDir ≠ [] := by rintro rfl; cases h
  have hW : (workDir logDir).head? = some '/' := by rw [head?_workDir, List.head?_append, h]; rfl
  have hP := workDir_ne_nil logDir
  -- the paths are absolute: every file system resolves them alike
  have hres : ∀ fs' : FileSystem, fs'.resolve (workDir logDir) = fs.resolve (workDir logDir) :=
    fun fs' => by rw [FileSystem.resolve, FileSystem.resolve, fs'.start_of_absolute hW,
      fs.start_of_absolute hW]
  have hlk : ∀ fs' : FileSystem, fs'.lookups (workDir logDir) = fs.lookups (workDir logDir) :=
    fun fs' => by rw [FileSystem.lookups, FileSystem.lookups, fs'.start_of_absolute hW,
      fs.start_of_absolute hW]
  unfold openLogger
  rw [if_neg hne, show "/core_dumps".toList = '/' :: "core_dumps".toList from rfl,
    show "/roslogs".toList = '/' :: "roslogs".toList from rfl]
  cases h₁ : fs.enterOrCreate (workDir logDir) with
  | none =>
    rw [FileSystem.enterOrCreate_eq_none] at h₁
    simp only [h₁, false_and, if_false]
  | some fs₁ =>
    have hcan := FileSystem.canEnter_of_enterOrCreate h₁
    obtain ⟨hc₁, hs₁, hd₁⟩ := FileSystem.enterOrCreate_eq_some h₁
    obtain ⟨hc₂, hs₂, hsub₂, hd₂⟩ :=
      fs₁.getD_enterOrCreate (workDir logDir ++ '/' :: "core_dumps".toList)
    dsimp only
    set fs₂ := (fs₁.enterOrCreate (workDir logDir ++ '/' :: "core_dumps".toList)).getD fs₁
    set W := fs.resolve (workDir logDir)
    rw [fs₁.resolve_append_name hP (by decide) (by decide), hres] at hd₂
    -- `rosmon` exists now, and beside `roslogs` at most `core_dumps` was made in it
    have hsub : ∀ d ∈ fs.dirs, d ∈ fs₂.dirs := fun d hd => hsub₂ d ((hd₁ d).2 (.inr hd))
    have hW₂ : W ∈ fs₂.dirs := hsub₂ _ ((hd₁ _).2 (.inl rfl))
    have hT₂ : fs₂.Traversable (workDir logDir) :=
      FileSystem.traversable_of_le hcan.1 (hlk fs₂) hsub (hs₂.trans hs₁)
    have hR₂ : W ++ ["roslogs".toList] ∈ fs₂.dirs ↔ W ++ ["roslogs".toList] ∈ fs.dirs := by
      rw [hd₂ _ fun he => absurd (List.append_cancel_left he) (by decide), hd₁,
        or_iff_right fun he => by simpa using congrArg List.length he]
    have hroslogs : fs₂.CanEnter (workDir logDir ++ '/' :: "roslogs".toList) ↔
        fs.searchable W = true ∧
          (W ++ ["roslogs".toList] ∈ fs.dirs ∧ fs.searchable (W ++ ["roslogs".toList]) = true ∨
            W ++ ["roslogs".toList] ∉ fs.dirs ∧ fs.mayCreate (W ++ ["roslogs".toList]) = true) := by
      rw [fs₂.canEnter_append_name hP (by decide) (by decide), hres, hR₂, hs₂, hs₁, hc₂, hc₁]
      exact ⟨fun h => h.2.2, fun h => ⟨hT₂, hW₂, h⟩⟩
    cases h₄ : fs₂.enterOrCreate (workDir logDir ++ '/' :: "roslogs".toList) with
    | none =>
      have hX := mt hroslogs.2 ((fs₂.enterOrCreate_eq_none _).1 h₄)
      simp only [hX, and_false, if_false]
    | some fs₃ =>
      simp only [if_pos (And.intro hcan (hroslogs.1 (FileSystem.canEnter_of_enterOrCreate h₄)))]

/-- The file system of a second session logging to `logs` in `/home`: the first one made
`/home/logs/rosmon` with its `core_dumps` and `roslogs`. `locked` takes the search permission of
`rosmon` away. -/
def secondSession (locked : Bool) : FileSystem where
  dirs := [[], ["home".toList], ["home".toList, "logs".toList],
    ["home".toList, "logs".toList, "rosmon".toList],
    ["home".toList, "logs".toList, "rosmon".toList, "core_dumps".toList],
    ["home".toList, "logs".toList, "rosmon".toList, "roslogs".toList]]
  cwd := ["home".toList]
  searchable d := !(locked && d = ["home".toList, "logs".toList, "rosmon".toList])
  mayCreate _ := true
  parent_mem := by decide
  cwd_mem := by decide

/-- Given as `/home/logs/`, a `rosmon` that may not be searched is neither entered (`EACCES`) nor
made (`EEXIST`): the log falls back to `/tmp`. -/
theorem openLogger_absolute_home_logs :
    "/home/logs/".toList.head? = some '/' ∧
    (openLogger (secondSession true) "/home/logs/".toList ⟨[], "g".toList, "c".toList⟩).logFile =
      (if (secondSession true).CanEnter (workDir "/home/logs/".toList) ∧
          (secondSession true).searchable
            ((secondSession true).resolve (workDir "/home/logs/".toList)) = true ∧
          ((secondSession true).resolve (workDir "/home/logs/".toList) ++ ["roslogs".toList] ∈
              (secondSession true).dirs ∧
            (secondSession true).searchable
              ((secondSession true).resolve (workDir "/home/logs/".toList) ++ ["roslogs".toList]) =
                true ∨
            (secondSession true).resolve (workDir "/home/logs/".toList) ++ ["roslogs".toList] ∉
              (secondSession true).dirs ∧
            (secondSession true).mayCreate
              ((secondSession true).resolve (workDir "/home/logs/".toList) ++ ["roslogs".toList]) =
                true)
        then some (logFileIn (workDir "/home/logs/".toList ++ "/roslogs".toList)
          ⟨[], "g".toList, "c".toList⟩)
        else none) ∧
    (openLogger (secondSession true) "/home/logs/".toList ⟨[], "g".toList, "c".toList⟩).logFile =
      none :=
  ⟨rfl, openLogger_absolute _ _ _ rfl, by decide⟩

/-- With a relative log directory whose `rosmon` directory exists and can be entered, `chdir`
moves the process into it, and the paths of `core_dumps` and `roslogs`, relative too, are
resolved from there: in a directory that does not exist, so the log falls back to `/tmp` after
two messages. -/
theorem openLogger_relative_rerun (fs : FileSystem) (logDir : List Char) (launchInfo : LaunchInfo)
    (hrel : logDir.head? ≠ some '/') (hne : logDir ≠ [])
    (hwork : fs.Traversable (workDir logDir) ∧ fs.resolve (workDir logDir) ∈ fs.dirs ∧
      fs.searchable (fs.resolve (workDir logDir)) = true)
    (hnested : resolveFrom (fs.resolve (workDir logDir)) ((workDir logDir).splitOn '/') ∉
      fs.dirs) :
    (openLogger fs logDir launchInfo).logFile = none ∧
      (openLogger fs logDir launchInfo).errors = [coreDumpsDirError, roslogsDirError] := by
  have hW : (workDir logDir).head? ≠ some '/' := by
    obtain ⟨c, l, rfl⟩ := List.exists_cons_of_ne_nil hne
    rwa [head?_workDir]
  -- from inside `rosmon`, a name in `workDir` is looked for in the nested copy of `workDir`
  have hmiss : ∀ name : List Char, name.splitOn '/' = [name] →
      name ≠ [] ∧ name ≠ ['.'] ∧ name ≠ ['.', '.'] →
      ({ fs with cwd := fs.resolve (workDir logDir), cwd_mem := hwork.2.1 } : FileSystem).enterOrCreate
        (workDir logDir ++ '/' :: name) = none := fun name hs hn => by
    rw [FileSystem.enterOrCreate_eq_none]
    refine FileSystem.not_canEnter_of_parent _ ?_
    rw [FileSystem.resolve_append_name _ (workDir_ne_nil logDir) hs hn, List.dropLast_concat]
    simpa only [FileSystem.resolve, FileSystem.start, if_neg hW] using hnested
  unfold openLogger
  rw [if_neg hne, fs.enterOrCreate_of_chdir hwork]
  simp only [show "/core_dumps".toList = '/' :: "core_dumps".toList from rfl,
    show "/roslogs".toList = '/' :: "roslogs".toList from rfl, hmiss "core_dumps".toList (by decide) (by decide), Option.getD_none,
    hmiss "roslogs".toList (by decide) (by decide), Option.isSome_none, Bool.false_eq_true,
    if_false, List.singleton_append, and_self]

/-- Given as `logs` from `/home`, the same directory is missed. -/
theorem openLogger_relative_rerun_logs :
    "logs".toList.head? ≠ some '/' ∧ "logs".toList ≠ [] ∧
    ((secondSession false).Traversable (workDir "logs".toList) ∧
      (secondSession false).resolve (workDir "logs".toList) ∈ (secondSession false).dirs ∧
      (secondSession false).searchable ((secondSession false).resolve (workDir "logs".toList)) =
        true) ∧
    resolveFrom ((secondSession false).resolve (workDir "logs".toList))
        ((workDir "logs".toList).splitOn '/') ∉ (secondSession false).dirs ∧
    (openLogger (secondSession false) "logs".toList ⟨[], "g".toList, "c".toList⟩).logFile = none ∧
    (openLogger (secondSession false) "logs".toList ⟨[], "g".toList, "c".toList⟩).errors =
      [coreDumpsDirError, roslogsDirError] :=
  have h₁ : "logs".toList.head? ≠ some '/' := by decide
  have h₂ : "logs".toList ≠ [] := by decide
  have h₃ : (secondSession false).Traversable (workDir "logs".toList) ∧
      (secondSession false).resolve (workDir "logs".toList) ∈ (secondSession false).dirs ∧
      (secondSession false).searchable ((secondSession false).resolve (workDir "logs".toList)) =
        true := by decide
  have h₄ : resolveFrom ((secondSession false).resolve (workDir "logs".toList))
      ((workDir "logs".toList).splitOn '/') ∉ (secondSession false).dirs := by decide
  ⟨h₁, h₂, h₃, h₄, openLogger_relative_rerun _ _ _ h₁ h₂ h₃ h₄⟩

/-! ## The node name -/

/-- The name `ros::init` receives, and whether `ros::init_options::AnonymousName` is set:
`--name`, else the name the launch file gives (`rosmonNodeName`), else an anonymous name made of
the launch group and configuration. -/
def nodeName (launchInfo : LaunchInfo) (name rosmonNodeName : List Char) : List Char × Bool :=
  let name := if name = [] then rosmonNodeName else name
  if name = [] then
    ("rosmon_".toList ++ launchInfo.launchGroup ++ "_".toList ++ launchInfo.launchConfig ++
      "_anon".toList, true)
  else (name, false)

/-! ## The log on `stdout` -/

end Rosmon.Main

import Rosmon.Main.Options

/-!
# Rosmon — the positional arguments of `main`

After the options, `main` reads what names the launch file and the launch
arguments. The first positional argument is a path or a package name in any
case; `main` then looks, from the second on, for the first argument containing
`:=`. One positional argument before it names the launch file by its path, two
name a package and a file that `findFile` looks for below the package's
directory, anything else is a usage error. Every argument from there on must
contain `:=`, and is split at the first one into the name and the value handed
to `LaunchConfig::setArgument`.

Arguments are C strings: lists of characters without the terminating NUL.
`PackageRegistry::getPath` and the `boost::filesystem` tree are not among the
sources, so a `Registry` gives both: the contents of a directory are the list of
its entries in the order `directory_iterator` yields them, or nothing for a
directory it cannot open, where it throws a `filesystem_error` that nothing in
`main` catches; a path found below a package is the list of its components.
Between the two loops `main` opens its log file; that is not modelled.

* `findFile_eq_first_event` — `findFile` ends at the first event of its
  depth-first walk that is a file of the name asked for or a directory it
  cannot open: it returns the path of the file or throws; it never returns a
  directory of that name;
* `positional_path_iff` — the command lines read as a launch file path with
  given launch arguments are exactly the path followed by the arguments
  written `name:=value`, for names holding no `:=`; the path itself may;
* `positional_package_iff` — the same for a package and a file name, which
  must hold no `:=`, when the package and the file are found;
* `positional_usage_iff` — `main` prints its usage exactly when there are no
  positional arguments, or the second and third both lack `:=`;
* `positional_terminate_iff` — `main` dies of the exception `findFile` throws
  exactly when it looks for the file in a package and the search ends at a
  directory it cannot open.
-/

namespace Rosmon.Main

/-! ## Finding the launch file in a package -/

/-- An entry of a directory as `fs::directory_iterator` yields it: a directory with its
contents, or any other file. -/
inductive Entry
  | dir (leaf : List Char) (contents : Option (List Entry))
  | file (leaf : List Char)
  deriving Repr

/-- How `findFile` ends: with the path of the file below `base`, with the empty `fs::path()`,
or with the `filesystem_error` that `directory_iterator` throws for a directory it cannot open
(`contents` is then `none`). -/
inductive Found
  | path (p : List (List Char))
  | empty
  | thrown
  deriving DecidableEq, Repr

mutual
/-- One turn of `findFile`'s loop: search a directory and return what it found unless that is
empty, or compare a file's leaf with `name`. -/
def findFileEntry (name : List Char) : Entry → Found
  | .dir leaf contents =>
    match findFile name contents with
    | .path p => .path (leaf :: p)
    | r => r
  | .file leaf => if leaf = name then .path [leaf] else .empty
termination_by structural e => e

/-- The loop of `findFile` over the entries of a directory. -/
def findFileLoop (name : List Char) : List Entry → Found
  | [] => .empty
  | e :: rest =>
    match findFileEntry name e with
    | .empty => findFileLoop name rest
    | r => r
termination_by structural es => es

/-- `findFile(base, name)`, given the contents of `base`: `directory_iterator it(base)` throws
when `base` cannot be opened. -/
def findFile (name : List Char) : Option (List Entry) → Found
  | none => .thrown
  | some entries => findFileLoop name entries
termination_by structural c => c
end

/-- What the depth-first walk of `findFile` meets, in order: a file, with the directories above
it and its leaf, or a directory it cannot open. -/
inductive Event
  | file (dirs : List (List Char)) (leaf : List Char)
  | unopenable
  deriving DecidableEq, Repr

/-- An event of a subdirectory, seen from its parent. -/
def Event.under (leaf : List Char) : Event → Event
  | .file dirs l => .file (leaf :: dirs) l
  | .unopenable => .unopenable

/-- The events that end the search for `name`: a file called `name`, or a directory that cannot
be opened. -/
def Event.stops (name : List Char) : Event → Bool
  | .file _ l => l = name
  | .unopenable => true

/-- How a search ends at the event that stops it, or at the end of the walk. -/
def Event.outcome : Option Event → Found
  | none => .empty
  | some (.file dirs l) => .path (dirs ++ [l])
  | some .unopenable => .thrown

mutual
/-- The events of an entry in depth-first order. -/
def entryEvents : Entry → List Event
  | .dir leaf contents => (walk contents).map (Event.under leaf)
  | .file leaf => [.file [] leaf]
termination_by structural e => e

/-- The events below the entries of a directory. -/
def walkLoop : List Entry → List Event
  | [] => []
  | e :: rest => entryEvents e ++ walkLoop rest
termination_by structural es => es

/-- The events of a directory: its entries', or `unopenable` when it cannot be opened. -/
def walk : Option (List Entry) → List Event
  | none => [.unopenable]
  | some entries => walkLoop entries
termination_by structural c => c
end

/-- What a search below a subdirectory returns, seen from its parent. -/
def Found.under (leaf : List Char) : Found → Found
  | .path p => .path (leaf :: p)
  | r => r

theorem findFileEntry_dir (name leaf : List Char) (c : Option (List Entry)) :
    findFileEntry name (.dir leaf c) = (findFile name c).under leaf := by
  rw [findFileEntry]
  cases findFile name c <;> rfl

theorem stops_comp_under (name leaf : List Char) :
    Event.stops name ∘ Event.under leaf = Event.stops name := by
  funext e
  cases e <;> rfl

theorem outcome_map_under (leaf : List Char) (o : Option Event) :
    Event.outcome (o.map (Event.under leaf)) = (Event.outcome o).under leaf := by
  rcases o with _ | _ | _ <;> rfl

theorem outcome_eq_empty {o : Option Event} : Event.outcome o = .empty ↔ o = none := by
  rcases o with _ | _ | _ <;> simp [Event.outcome]

/-- **The search for the launch file.** `findFile` is decided by the first event of its
depth-first walk that is a file called `name` or a directory `directory_iterator` cannot open:
it returns the path of that file, or throws; with no such event it returns the empty path. A
directory called `name` is searched, never returned. -/
theorem findFile_eq_first_event (name : List Char) (c : Option (List Entry)) :
    findFile name c = Event.outcome ((walk c).find? (Event.stops name)) := by
  induction c using findFile.induct name
    (motive_1 := fun e =>
      findFileEntry name e = Event.outcome ((entryEvents e).find? (Event.stops name)))
    (motive_3 := fun es =>
      findFileLoop name es = Event.outcome ((walkLoop es).find? (Event.stops name))) with
  | case1 leaf c _ _ ih | case2 leaf c _ ih =>
    rw [findFileEntry_dir, ih, entryEvents, List.find?_map, stops_comp_under, outcome_map_under]
  | case3 => simp [findFileEntry, entryEvents, Event.stops, Event.outcome]
  | case4 leaf h => simp [findFileEntry, entryEvents, Event.stops, Event.outcome, h]
  | case5 => rfl
  | case6 entries ih => exact ih
  | case7 => rfl
  | case8 e rest he ih₁ ih₂ =>
    rw [findFileLoop, he, walkLoop, List.find?_append, outcome_eq_empty.1 (ih₁.symm.trans he),
      Option.none_or, ← ih₂]
  | case9 e rest he ih₁ =>
    obtain ⟨ev, hev⟩ : ∃ ev, (entryEvents e).find? (Event.stops name) = some ev :=
      Option.ne_none_iff_exists'.1 fun h => he (ih₁.trans (outcome_eq_empty.2 h))
    rw [findFileLoop, walkLoop, List.find?_append, ih₁, hev, Option.or_some]
    cases ev <;> rfl

/-! ## Splitting `name:=value` -/

/-- `strstr(haystack, needle)`: the rest of `haystack` from the first place where `needle`
starts, or `none` for the null pointer. -/
def strstr (haystack needle : List Char) : Option (List Char) :=
  if needle <+: haystack then some haystack
  else match haystack with
    | [] => none
    | _ :: rest => strstr rest needle

/-- The `":="` between a launch argument's name and its value. -/
def assign : List Char := [':', '=']

/-- A launch argument as `main` splits it: `strstr(argv[i], ":=")`, then `*arg = 0` ends the
name where `:=` starts and `value = arg + 2`. `none` where `strstr` finds no `:=`. -/
def splitArgument (arg : List Char) : Option (List Char × List Char) :=
  (strstr arg assign).map fun rest => (arg.take (arg.length - rest.length), rest.drop 2)

/-- A launch argument written `name:=value`. -/
def renderArgument (nv : List Char × List Char) : List Char := nv.1 ++ assign ++ nv.2

theorem strstr_cons (c : Char) (rest needle : List Char) :
    strstr (c :: rest) needle =
      if needle <+: c :: rest then some (c :: rest) else strstr rest needle := by
  rw [strstr]

theorem strstr_isSome_iff (haystack needle : List Char) :
    (strstr haystack needle).isSome ↔ needle <:+: haystack := by
  induction haystack with
  | nil =>
    rw [strstr, List.infix_nil, ← List.prefix_nil]
    split_ifs with h <;> simp [h]
  | cons c rest ih =>
    rw [strstr_cons, List.infix_cons_iff]
    split_ifs with h <;> simp [h, ih]

/-- What `strstr` returns is where the first occurrence of a non-empty `needle` starts. -/
theorem strstr_eq_some {haystack needle r : List Char} (hn : needle ≠ [])
    (h : strstr haystack needle = some r) :
    ∃ pre, haystack = pre ++ r ∧ needle <+: r ∧ ¬needle <:+: pre := by
  induction haystack with
  | nil =>
    rw [strstr, if_neg (by rwa [List.prefix_nil])] at h
    cases h
  | cons c rest ih =>
    rw [strstr_cons] at h
    split_ifs at h with hp
    · cases h
      exact ⟨[], rfl, hp, by rwa [List.infix_nil]⟩
    · obtain ⟨pre, rfl, hr, hpre⟩ := ih h
      refine ⟨c :: pre, rfl, hr, fun hi => ?_⟩
      rcases List.infix_cons_iff.1 hi with hi | hi
      · exact hp (hi.trans (List.prefix_append _ _))
      · exact hpre hi

/-- `:=` is found where it follows a name holding none. -/
theorem strstr_renderArgument {name : List Char} (h : ¬assign <:+: name) (value : List Char) :
    strstr (name ++ assign ++ value) assign = some (assign ++ value) := by
  induction name with
  | nil => rw [List.nil_append, strstr.eq_def, if_pos (List.prefix_append _ _)]
  | cons c name ih =>
    have hp : ¬assign <+: c :: (name ++ assign ++ value) := by
      cases name with
      | nil => simp [assign]
      | cons d name =>
        simp only [assign, List.cons_append, List.cons_prefix_cons, List.nil_prefix, and_true]
        rintro ⟨rfl, rfl⟩
        exact h (List.prefix_append assign name).isInfix
    rw [List.cons_append, List.cons_append, strstr_cons, if_neg (by simpa using hp),
      ih fun hi => h (hi.trans (List.suffix_cons _ _).isInfix)]

theorem splitArgument_eq_some_iff (arg name value : List Char) :
    splitArgument arg = some (name, value) ↔ arg = renderArgument (name, value) ∧ ¬assign <:+: name := by
  constructor
  · intro h
    obtain ⟨r, hr, he⟩ := Option.map_eq_some'.1 h
    obtain ⟨pre, rfl, ⟨t, rfl⟩, hpre⟩ := strstr_eq_some (List.cons_ne_nil _ _) hr
    simp only [Prod.mk.injEq, List.length_append] at he
    obtain ⟨rfl, rfl⟩ := he
    simp only [List.cons_append, List.singleton_append, renderArgument, List.length_cons,
      List.length_singleton, add_tsub_cancel_right, List.take_left', assign, List.drop_succ_cons,
      List.drop_zero, List.append_assoc, List.nil_append, hpre, not_false_eq_true, and_self]
  · rintro ⟨rfl, h⟩
    rw [splitArgument, renderArgument, strstr_renderArgument h]
    simp only [assign, List.append_assoc, List.cons_append, List.singleton_append,
      List.length_append, List.length_cons, Option.map_some', add_tsub_cancel_right, List.take_left',
      List.drop_succ_cons, List.drop_zero, List.nil_append]

theorem splitArgument_eq_none_iff (arg : List Char) :
    splitArgument arg = none ↔ ¬assign <:+: arg := by
  rw [splitArgument, Option.map_eq_none', ← strstr_isSome_iff, Option.not_isSome_iff_eq_none]

/-! ## The positional arguments -/

/-- Where `main`'s search for `firstArg` stops, started at `argv[optind + 1]`: the number of
arguments before the first one containing `:=`. -/
def firstArgOffset : List (List Char) → Nat
  | [] => 0
  | arg :: args => if (strstr arg assign).isSome then 0 else firstArgOffset args + 1

/-- `rosmon::PackageRegistry::getPath`, the empty string for an unknown package, and the
contents of each directory, `none` for one that cannot be opened. -/
structure Registry where
  getPath : List Char → List Char
  entries : List Char → Option (List Entry)

/-- `launchFilePath`: `argv[optind]`, or the path `findFile` found below a package's
directory. -/
inductive LaunchFile
  | path (path : List Char)
  | inPackage (package : List Char) (path : List (List Char))
  deriving DecidableEq, Repr

/-- `"Could not find path of package '{}'\n"`. -/
def packageNotFound (packageName : List Char) : List Char :=
  "Could not find path of package '".toList ++ packageName ++ "'\n".toList

/-- `"Could not find launch file '{}' in package '{}'\n"`. -/
def launchFileNotFound (fileName packageName : List Char) : List Char :=
  "Could not find launch file '".toList ++ fileName ++ "' in package '".toList ++ packageName ++
    "'\n".toList

/-- `"You specified a non-argument after an argument\n"`. -/
def nonArgument : List Char := "You specified a non-argument after an argument\n".toList

/-- The positional arguments `argv[optind]`, … up to `firstArg`: the launch file, and the
arguments from `firstArg` on. `firstArg - optind` is `firstArgOffset` of the arguments after
`argv[optind]`, plus one; when it is two, `argv[optind + 1]` is the file name. -/
def launchFile (reg : Registry) : List (List Char) → Except Exit (LaunchFile × List (List Char))
  | [] => .error (.usage 1)
  | first :: rest =>
    if firstArgOffset rest = 0 then .ok (.path first, rest)
    else if firstArgOffset rest = 1 then
      if reg.getPath first = [] then .error (.error (packageNotFound first))
      else match findFile (rest.headD []) (reg.entries (reg.getPath first)) with
        | .path p => .ok (.inPackage (reg.getPath first) p, rest.drop 1)
        | .empty => .error (.error (launchFileNotFound (rest.headD []) first))
        | .thrown => .error .terminate
    else .error (.usage 1)

/-- The loop over `argv[firstArg]`, …: the launch arguments as `setArgument` receives them. -/
def launchArguments : List (List Char) → Except Exit (List (List Char × List Char))
  | [] => .ok []
  | arg :: args =>
    match splitArgument arg with
    | none => .error (.error nonArgument)
    | some nv => (launchArguments args).map (nv :: ·)

/-- What `main` takes from its positional arguments: the launch file, then the launch
arguments. -/
def positional (reg : Registry) (pos : List (List Char)) :
    Except Exit (LaunchFile × List (List Char × List Char)) :=
  (launchFile reg pos).bind fun r => (launchArguments r.2).map (r.1, ·)

theorem firstArgOffset_eq_zero_iff (args : List (List Char)) :
    firstArgOffset args = 0 ↔ ∀ arg ∈ args.head?, assign <:+: arg := by
  cases args with
  | nil => simp [firstArgOffset]
  | cons arg args => by_cases h : assign <:+: arg <;> simp [firstArgOffset, strstr_isSome_iff, h]

theorem firstArgOffset_map_renderArgument (nvs : List (List Char × List Char)) :
    firstArgOffset (nvs.map renderArgument) = 0 := by
  rw [firstArgOffset_eq_zero_iff]
  intro arg harg
  cases nvs with
  | nil => cases harg
  | cons nv nvs =>
    cases harg
    exact (List.prefix_append _ _).isInfix.trans (List.infix_append _ _ _)

theorem except_map_eq_ok {α β ε : Type} {x : Except ε α} {f : α → β} {b : β} :
    x.map f = .ok b ↔ ∃ a, x = .ok a ∧ f a = b := by
  cases x <;> simp [Except.map]

theorem except_bind_eq_ok {α β ε : Type} {x : Except ε α} {f : α → Except ε β} {b : β} :
    x.bind f = .ok b ↔ ∃ a, x = .ok a ∧ f a = .ok b := by
  cases x <;> simp [Except.bind]

theorem launchArguments_map_renderArgument (nvs : List (List Char × List Char))
    (h : ∀ nv ∈ nvs, ¬assign <:+: nv.1) : launchArguments (nvs.map renderArgument) = .ok nvs := by
  induction nvs with
  | nil => rfl
  | cons nv nvs ih =>
    rw [List.forall_mem_cons] at h
    rw [List.map_cons, launchArguments, (splitArgument_eq_some_iff _ nv.1 nv.2).2 ⟨rfl, h.1⟩, ih h.2]
    rfl

/-- **The argument loop.** It accepts exactly the arguments written `name:=value` with names
holding no `:=`, and reads each back as its name and value. -/
theorem launchArguments_eq_ok_iff (args : List (List Char)) (nvs : List (List Char × List Char)) :
    launchArguments args = .ok nvs ↔
      args = nvs.map renderArgument ∧ ∀ nv ∈ nvs, ¬assign <:+: nv.1 := by
  refine ⟨fun h => ?_, fun ⟨h, hnvs⟩ => h ▸ launchArguments_map_renderArgument nvs hnvs⟩
  induction args generalizing nvs with
  | nil => cases h; simp
  | cons arg args ih =>
    rw [launchArguments] at h
    split at h
    · cases h
    · next nv hs =>
      obtain ⟨nvs', hrest, rfl⟩ := except_map_eq_ok.1 h
      obtain ⟨rfl, hnvs⟩ := ih nvs' hrest
      obtain ⟨rfl, hn⟩ := (splitArgument_eq_some_iff _ nv.1 nv.2).1 hs
      exact ⟨rfl, List.forall_mem_cons.2 ⟨hn, hnvs⟩⟩

/-- The argument loop stops only at an argument without `:=`. -/
theorem launchArguments_eq_error {args : List (List Char)} {e : Exit}
    (h : launchArguments args = .error e) : e = .error nonArgument := by
  induction args with
  | nil => cases h
  | cons arg args ih =>
    rw [launchArguments] at h
    split at h
    · cases h
      rfl
    · cases hr : launchArguments args <;> rw [hr] at h <;> cases h
      exact ih hr

theorem firstArgOffset_cons (arg : List Char) (args : List (List Char)) :
    firstArgOffset (arg :: args) = if assign <:+: arg then 0 else firstArgOffset args + 1 := by
  simp only [firstArgOffset, strstr_isSome_iff]

theorem firstArgOffset_eq_one_iff (args : List (List Char)) :
    firstArgOffset args = 1 ↔
      ∃ b rest, args = b :: rest ∧ ¬assign <:+: b ∧ ∀ arg ∈ rest.head?, assign <:+: arg := by
  cases args with
  | nil => simp [firstArgOffset]
  | cons b rest =>
    rw [firstArgOffset_cons]
    by_cases hb : assign <:+: b
    · simp only [if_pos hb, zero_ne_one, false_iff, not_exists]
      rintro _ _ ⟨h, hb', -⟩
      exact hb' ((List.cons.inj h).1 ▸ hb)
    · rw [if_neg hb, Nat.add_left_eq_self, firstArgOffset_eq_zero_iff]
      exact ⟨fun hr => ⟨b, rest, rfl, hb, hr⟩, fun ⟨_, _, h, _, hr⟩ => (List.cons.inj h).2 ▸ hr⟩

theorem firstArgOffset_cons_of_no_assign {arg : List Char} (h : ¬assign <:+: arg)
    (args : List (List Char)) : firstArgOffset (arg :: args) = firstArgOffset args + 1 := by
  rw [firstArgOffset_cons, if_neg h]

theorem two_le_firstArgOffset_iff (args : List (List Char)) :
    2 ≤ firstArgOffset args ↔ ∃ b c rest, args = b :: c :: rest ∧ ¬assign <:+: b ∧ ¬assign <:+: c := by
  match args with
  | [] => exact iff_of_false (by decide) fun ⟨_, _, _, h, _⟩ => by cases h
  | [b] =>
    refine iff_of_false ?_ fun ⟨_, _, _, h, _⟩ => by cases h
    rw [firstArgOffset_cons]
    split_ifs <;> decide
  | b :: c :: rest =>
    rw [firstArgOffset_cons, firstArgOffset_cons]
    constructor
    · intro h
      split_ifs at h with hb hc
      · omega
      · omega
      · exact ⟨b, c, rest, rfl, hb, hc⟩
    · rintro ⟨_, _, _, he, hb, hc⟩
      obtain ⟨rfl, rfl, rfl⟩ : _ ∧ _ ∧ _ := by simpa using he
      rw [if_neg hb, if_neg hc]
      omega

/-- What `launchFile` can accept: one argument before `firstArg`, the path; or two, a package
that `getPath` knows and a file that `findFile` finds below it. -/
theorem launchFile_eq_ok {reg : Registry} {pos : List (List Char)} {f : LaunchFile}
    {args : List (List Char)} (h : launchFile reg pos = .ok (f, args)) :
    (∃ first, pos = first :: args ∧ firstArgOffset args = 0 ∧ f = .path first) ∨
    (∃ first fileName p, pos = first :: fileName :: args ∧ ¬assign <:+: fileName ∧
      reg.getPath first ≠ [] ∧ findFile fileName (reg.entries (reg.getPath first)) = .path p ∧
      f = .inPackage (reg.getPath first) p) := by
  match pos with
  | [] => cases h
  | first :: rest =>
    rw [launchFile] at h
    split_ifs at h with h₀ h₁ hp
    · cases h
      exact .inl ⟨first, rfl, h₀, rfl⟩
    · have hne : rest ≠ [] := by rintro rfl; simp [firstArgOffset] at h₁
      obtain ⟨fileName, args', rfl⟩ := List.exists_cons_of_ne_nil hne
      have hf : ¬assign <:+: fileName := fun hi => by
        simp [firstArgOffset, (strstr_isSome_iff _ _).2 hi] at h₀
      rw [List.headD_cons, List.drop_one, List.tail_cons] at h
      split at h
      · next p hfind =>
        cases h
        exact .inr ⟨first, fileName, p, rfl, hf, hp, hfind, rfl⟩
      all_goals cases h

theorem launchFile_path (reg : Registry) (first : List Char) {rest : List (List Char)}
    (h : firstArgOffset rest = 0) : launchFile reg (first :: rest) = .ok (.path first, rest) := by
  rw [launchFile, if_pos h]

theorem launchFile_inPackage (reg : Registry) (first : List Char) {fileName : List Char}
    (hf : ¬assign <:+: fileName) {args : List (List Char)} (ha : firstArgOffset args = 0)
    (hp : reg.getPath first ≠ []) {p : List (List Char)}
    (hfind : findFile fileName (reg.entries (reg.getPath first)) = .path p) :
    launchFile reg (first :: fileName :: args) = .ok (.inPackage (reg.getPath first) p, args) := by
  have ho : firstArgOffset (fileName :: args) = 1 := by rw [firstArgOffset_cons_of_no_assign hf, ha]
  rw [launchFile, if_neg (by omega), if_pos ho, if_neg hp, List.headD_cons, hfind]
  rfl

/-- With positional arguments, `launchFile` prints the usage when `:=` is found neither in the
second nor in the third. -/
theorem launchFile_cons_eq_usage_iff (reg : Registry) (first : List Char) (rest : List (List Char)) :
    launchFile reg (first :: rest) = .error (.usage 1) ↔ 2 ≤ firstArgOffset rest := by
  rw [launchFile]
  split_ifs with h₀ h₁ hp
  · simp [h₀]
  · simp [h₁]
  · rw [h₁]
    split <;> simp
  · exact iff_of_true rfl (by omega)

/-- `launchFile` terminates the process exactly when `findFile` throws below the package's
directory. -/
theorem launchFile_cons_eq_terminate_iff (reg : Registry) (first : List Char)
    (rest : List (List Char)) :
    launchFile reg (first :: rest) = .error .terminate ↔
      firstArgOffset rest = 1 ∧ reg.getPath first ≠ [] ∧
        findFile (rest.headD []) (reg.entries (reg.getPath first)) = .thrown := by
  rw [launchFile]
  split_ifs with h₀ h₁ hp
  · simp [h₀]
  · simp [h₁, hp]
  · split <;> simp_all
  · simp [h₁]

/-- Apart from an argument without `:=`, `main` stops on its positional arguments exactly where
`launchFile` stops. -/
theorem positional_eq_error_iff (reg : Registry) (pos : List (List Char)) (e : Exit)
    (he : e ≠ .error nonArgument) :
    positional reg pos = .error e ↔ launchFile reg pos = .error e := by
  rw [positional]
  cases launchFile reg pos with
  | error e' => simp [Except.bind]
  | ok r =>
    simp only [Except.bind, reduceCtorEq, iff_false]
    cases h : launchArguments r.2 with
    | error e' => exact fun h' => he (launchArguments_eq_error (h.trans (by cases h'; rfl)))
    | ok nvs => exact fun h' => by cases h'

theorem positional_eq_ok {reg : Registry} {pos : List (List Char)} {f : LaunchFile}
    {nvs : List (List Char × List Char)} :
    positional reg pos = .ok (f, nvs) ↔
      ∃ args, launchFile reg pos = .ok (f, args) ∧ launchArguments args = .ok nvs := by
  rw [positional, except_bind_eq_ok]
  constructor
  · rintro ⟨⟨f', args⟩, hl, ha⟩
    obtain ⟨nvs', ha', he⟩ := except_map_eq_ok.1 ha
    cases he
    exact ⟨args, hl, ha'⟩
  · rintro ⟨args, hl, ha⟩
    exact ⟨(f, args), hl, except_map_eq_ok.2 ⟨nvs, ha, rfl⟩⟩

/-- **A launch file by its path.** The positional arguments `main` reads as the launch file
`path` with the launch arguments `nvs` are exactly `path` followed by each argument written
`name:=value`, when no name holds `:=`. `path` itself is never searched for `:=`. -/
theorem positional_path_iff (reg : Registry) (pos : List (List Char)) (path : List Char)
    (nvs : List (List Char × List Char)) :
    positional reg pos = .ok (.path path, nvs) ↔
      pos = path :: nvs.map renderArgument ∧ ∀ nv ∈ nvs, ¬assign <:+: nv.1 := by
  rw [positional_eq_ok]
  constructor
  · rintro ⟨args, hl, ha⟩
    obtain ⟨rfl, hnvs⟩ := (launchArguments_eq_ok_iff _ _).1 ha
    rcases launchFile_eq_ok hl with ⟨first, rfl, -, hf⟩ | ⟨_, _, _, -, -, -, -, hf⟩
    · cases hf
      exact ⟨rfl, hnvs⟩
    · cases hf
  · rintro ⟨rfl, hnvs⟩
    exact ⟨_, launchFile_path reg path (firstArgOffset_map_renderArgument nvs),
      launchArguments_map_renderArgument nvs hnvs⟩

/-- **A launch file in a package.** The positional arguments `main` reads as the file `path`
below the directory `package`, with the launch arguments `nvs`, are exactly a package name that
`getPath` resolves to `package` and a file name holding no `:=` that `findFile` finds at `path`,
followed by each argument written `name:=value`, when no name holds `:=`. -/
theorem positional_package_iff (reg : Registry) (pos : List (List Char)) (package : List Char)
    (path : List (List Char)) (nvs : List (List Char × List Char)) :
    positional reg pos = .ok (.inPackage package path, nvs) ↔
      ∃ packageName fileName, pos = packageName :: fileName :: nvs.map renderArgument ∧
        ¬assign <:+: fileName ∧ (∀ nv ∈ nvs, ¬assign <:+: nv.1) ∧
        reg.getPath packageName = package ∧ package ≠ [] ∧
        findFile fileName (reg.entries package) = .path path := by
  rw [positional_eq_ok]
  constructor
  · rintro ⟨args, hl, ha⟩
    obtain ⟨rfl, hnvs⟩ := (launchArguments_eq_ok_iff _ _).1 ha
    rcases launchFile_eq_ok hl with ⟨_, -, -, hf⟩ | ⟨first, fileName, p, rfl, hfile, hp, hfind, hf⟩
    · cases hf
    · cases hf
      exact ⟨first, fileName, rfl, hfile, hnvs, rfl, hp, hfind⟩
  · rintro ⟨packageName, fileName, rfl, hfile, hnvs, rfl, hp, hfind⟩
    exact ⟨_, launchFile_inPackage reg packageName hfile (firstArgOffset_map_renderArgument nvs) hp
      hfind, launchArguments_map_renderArgument nvs hnvs⟩

/-- **Usage.** `main` prints its usage after the options exactly when there are no positional
arguments, or when neither the second nor the third holds `:=`. -/
theorem positional_usage_iff (reg : Registry) (pos : List (List Char)) :
    positional reg pos = .error (.usage 1) ↔
      pos = [] ∨ ∃ first second third rest, pos = first :: second :: third :: rest ∧
        ¬assign <:+: second ∧ ¬assign <:+: third := by
  rw [positional_eq_error_iff reg pos (.usage 1) nofun]
  match pos with
  | [] => simp [launchFile]
  | first :: rest =>
    rw [launchFile_cons_eq_usage_iff, two_le_firstArgOffset_iff]
    constructor
    · rintro ⟨b, c, r, rfl, hb, hc⟩
      exact .inr ⟨first, b, c, r, rfl, hb, hc⟩
    · rintro (h | ⟨_, b, c, r, h, hb, hc⟩)
      · cases h
      · obtain ⟨rfl, rfl⟩ := List.cons.inj h
        exact ⟨b, c, r, rfl, hb, hc⟩

/-- **A directory `findFile` cannot open.** `main` dies of the `filesystem_error` that `findFile`
throws, which nothing catches, exactly when the positional arguments are a package name that
`getPath` resolves and a file name holding no `:=`, followed by nothing or by an argument with
`:=`, and the search for the file ends at a directory it cannot open. -/
theorem positional_terminate_iff (reg : Registry) (pos : List (List Char)) :
    positional reg pos = .error .terminate ↔
      ∃ packageName fileName args, pos = packageName :: fileName :: args ∧
        ¬assign <:+: fileName ∧ (∀ arg ∈ args.head?, assign <:+: arg) ∧
        reg.getPath packageName ≠ [] ∧
        findFile fileName (reg.entries (reg.getPath packageName)) = .thrown := by
  rw [positional_eq_error_iff reg pos .terminate nofun]
  match pos with
  | [] => simp [launchFile]
  | first :: rest =>
    rw [launchFile_cons_eq_terminate_iff, firstArgOffset_eq_one_iff]
    constructor
    · rintro ⟨⟨b, r, rfl, hb, hr⟩, hp, hf⟩
      exact ⟨first, b, r, rfl, hb, hr, hp, hf⟩
    · rintro ⟨_, b, r, h, hb, hr, hp, hf⟩
      obtain ⟨rfl, rfl⟩ := List.cons.inj h
      exact ⟨⟨b, r, rfl, hb, hr⟩, hp, hf⟩

end Rosmon.Main
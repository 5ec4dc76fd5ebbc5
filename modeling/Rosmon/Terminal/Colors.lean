import Rosmon.Terminal.Keys
import Rosmon.Terminal.Sgr

/-!
# Rosmon — the colour mode of the terminal, and the colours it prints

The `Terminal` constructor decides how colours are printed. `ROSMON_COLOR_MODE`
forces a mode (`truecolor`, `256colors` or `ansi`, compared without case);
without it, Konsole and VTE 0.36 or later select true colour. `setupterm` then
loads the terminfo entry (`xterm-256color` where a mode with 256 colours was
chosen, else that of `$TERM`); when it fails, the constructor returns with the
terminal marked invalid. Otherwise the number of colours is read from terminfo
when no mode has been chosen, and the capability strings and the key table are
loaded. `Terminal::color(rgb, fallback)` then prints a true-colour sequence, a
colour of the 256-colour cube, or the fallback colour.

The constructor reads the environment, the terminfo database and
`boost::lexical_cast<unsigned int>`; an `Environment` gives all three. An
exception of `lexical_cast` leaves the constructor, and is `none` here.

* `new_truecolor_colors256` — whatever the environment and the terminfo
  database, a terminal printing true colour also counts as having 256 colours;
* `new_override` — with `ROSMON_COLOR_MODE` set, the mode follows from its
  value alone: a value other than `truecolor` or `256colors`, `ansi` or one the
  constructor does not know, turns 256 colours off even on a terminal that
  has them;
* `new_detect` — without it, true colour comes from Konsole or VTE, 256 colours
  also from terminfo when `setupterm` succeeds, and the constructor throws
  exactly for a `VTE_VERSION` that `lexical_cast` rejects;
* `parseString_colorRgb` — `Terminal::Parser` reads the true-colour
  sequences `color` prints as plain SGR codes: it drops one whose three channels
  all have three digits, and otherwise applies the channels as SGR codes, so
  that a channel of `0` unsets both colours.
-/

namespace Rosmon.Terminal

/-! ## The constructor -/

/-- The entry `setupterm` loads: `tigetnum` and `tigetstr` on it, `tigetstr`'s null pointer
and `(char*)-1` both as `none`. -/
structure TermEntry where
  tigetnum : String → Int
  tigetstr : String → Option (List UInt8)

/-- What the constructor reads from outside: `getenv`, `setupterm` for a terminal name (the
null pointer for `$TERM`), `none` where it fails, and `boost::lexical_cast<unsigned int>`,
`none` where it throws `bad_lexical_cast`. -/
structure Environment where
  getenv : String → Option (List Char)
  setupterm : Option String → Option TermEntry
  castUnsigned : List Char → Option Nat

/-- The stream a message of the constructor goes to. -/
inductive Stdio
  | stdout
  | stderr
  deriving DecidableEq, Repr

/-- The members of `Terminal` the constructor sets. -/
structure TerminalState where
  valid : Bool
  /-- `m_256colors`. -/
  colors256 : Bool
  truecolor : Bool
  bgColorStr : List UInt8
  fgColorStr : List UInt8
  opStr : List UInt8
  sgr0Str : List UInt8
  elStr : List UInt8
  upStr : List UInt8
  boldStr : List UInt8
  lineWrapOffStr : List UInt8
  lineWrapOnStr : List UInt8
  specialKeys : KeyMap

/-- `strcasecmp(s1, s2) == 0` in the C locale. -/
def caseEqual (s1 : List Char) (s2 : String) : Bool :=
  s1.map Char.toLower == s2.toList.map Char.toLower

/-- `"Warning: Unknown ROSMON_COLOR_MODE value: '{}'\n"`. -/
def unknownColorMode (mode : List Char) : List Char :=
  "Warning: Unknown ROSMON_COLOR_MODE value: '".toList ++ mode ++ "'\n".toList

/-- The mode `ROSMON_COLOR_MODE` selects: `termOverride`, `m_256colors`, `m_truecolor`, and the
warning for a value the constructor does not know. -/
def overrideColorMode (mode : List Char) : Option String × Bool × Bool × List (Stdio × List Char) :=
  if caseEqual mode "truecolor" then (some "xterm-256color", true, true, [])
  else if caseEqual mode "256colors" then (some "xterm-256color", true, false, [])
  else if caseEqual mode "ansi" then (none, false, false, [])
  else (none, false, false, [(.stderr, unknownColorMode mode)])

/-- The mode detected without `ROSMON_COLOR_MODE`: Konsole, or VTE 0.36 or later, selects true
colour and `xterm-256color`; `none` where `lexical_cast` throws on `VTE_VERSION`. Both checks set
the same three members, so the mode is true colour when either holds. -/
def detectColorMode (env : Environment) : Option (Option String × Bool × Bool) :=
  let vte : Option Bool :=
    match env.getenv "VTE_VERSION" with
    | none => some false
    | some version => (env.castUnsigned version).map fun v => decide (3600 ≤ v)
  vte.map fun vte =>
    if (env.getenv "KONSOLE_DBUS_SESSION").isSome || vte then (some "xterm-256color", true, true)
    else (none, false, false)

/-- `safe_tigetstr(key)`: the empty string for `tigetstr`'s null pointer and `(char*)-1`. -/
def safeTigetstr (e : TermEntry) (key : String) : List UInt8 := (e.tigetstr key).getD []

/-- `m_lineWrapOffStr` and `m_lineWrapOnStr`: `rmam` and `smam`, or for `screen` and `tmux`,
which terminfo says lack them, `ESC [ ? 7 l` and `ESC [ ? 7 h`. -/
def lineWrapStr (e : TermEntry) (isScreen : Bool) (key : String) (fallback : List UInt8) :
    List UInt8 :=
  if safeTigetstr e key = [] ∧ isScreen then fallback else safeTigetstr e key

/-- The part of the constructor before `setupterm`: `termOverride`, `m_256colors`,
`m_truecolor` and the warning, or `none` where `lexical_cast` throws. -/
def colorMode (env : Environment) : Option (Option String × Bool × Bool × List (Stdio × List Char)) :=
  match env.getenv "ROSMON_COLOR_MODE" with
  | some mode => some (overrideColorMode mode)
  | none => (detectColorMode env).map fun (t, c, tc) => (t, c, tc, [])

/-- `Terminal::Terminal()`: the members, and what it prints; `none` where `lexical_cast` throws
out of it. When `setupterm` fails, the terminal stays invalid with empty strings and keys. -/
def TerminalState.new (env : Environment) : Option (TerminalState × List (Stdio × List Char)) :=
  (colorMode env).map fun (termOverride, colors256, truecolor, warning) =>
    match env.setupterm termOverride with
    | none =>
      (⟨false, colors256, truecolor, [], [], [], [], [], [], [], [], [], .empty⟩,
        warning ++ [(.stdout, "Could not setup the terminal. Disabling all colors...\n".toList)])
    | some e =>
      let colors256 :=
        if !colors256 && (env.getenv "ROSMON_COLOR_MODE").isNone then decide (256 ≤ e.tigetnum "colors")
        else colors256
      let isScreen := match env.getenv "TERM" with
        | some term => term.take 6 == "screen".toList
        | none => false
      (⟨true, colors256, truecolor, safeTigetstr e "setab", safeTigetstr e "setaf",
          safeTigetstr e "op", safeTigetstr e "sgr0", safeTigetstr e "el", safeTigetstr e "cuu",
          safeTigetstr e "bold", lineWrapStr e isScreen "rmam" [0x1B, 0x5B, 0x3F, 0x37, 0x6C],
          lineWrapStr e isScreen "smam" [0x1B, 0x5B, 0x3F, 0x37, 0x68], Rosmon.Terminal.specialKeys e.tigetstr⟩,
        warning ++
          (if safeTigetstr e "setab" = [] then
            [(.stdout, "Your terminal does not support ANSI background!\n".toList)] else []) ++
          (if safeTigetstr e "setaf" = [] then
            [(.stdout, "Your terminal does not support ANSI foreground!\n".toList)] else []))

/-! ## The colour mode -/

theorem overrideColorMode_flags (mode : List Char) :
    (overrideColorMode mode).2.1 = (caseEqual mode "truecolor" || caseEqual mode "256colors") ∧
      (overrideColorMode mode).2.2.1 = caseEqual mode "truecolor" := by
  unfold overrideColorMode
  split_ifs <;> simp_all

theorem detectColorMode_eq_none_iff (env : Environment) :
    detectColorMode env = none ↔
      ∃ v, env.getenv "VTE_VERSION" = some v ∧ env.castUnsigned v = none := by
  unfold detectColorMode
  rw [Option.map_eq_none']
  split <;> simp_all

/-- A detected mode: true colour and 256 colours together, with `xterm-256color`, exactly under
Konsole or VTE 0.36 or later. -/
theorem detectColorMode_eq_some {env : Environment} {m : Option String × Bool × Bool}
    (h : detectColorMode env = some m) :
    m.2.1 = m.2.2 ∧ m.1 = (if m.2.2 then some "xterm-256color" else none) ∧
      (m.2.2 = true ↔ (env.getenv "KONSOLE_DBUS_SESSION").isSome ∨
        ∃ v n, env.getenv "VTE_VERSION" = some v ∧ env.castUnsigned v = some n ∧ 3600 ≤ n) := by
  obtain ⟨vte, hv, rfl⟩ := Option.map_eq_some'.1 h
  have hvte : vte = true ↔
      ∃ v n, env.getenv "VTE_VERSION" = some v ∧ env.castUnsigned v = some n ∧ 3600 ≤ n := by
    split at hv
    · next hn => cases hv; simp [hn]
    · next v hv' =>
      obtain ⟨n, hn, rfl⟩ := Option.map_eq_some'.1 hv
      simp [hv', hn]
  rw [← hvte, ← Bool.or_eq_true]
  cases hk : ((env.getenv "KONSOLE_DBUS_SESSION").isSome || vte)
  · exact ⟨rfl, rfl, iff_of_false Bool.false_ne_true Bool.false_ne_true⟩
  · exact ⟨rfl, rfl, Iff.rfl⟩

/-- Every mode the constructor chooses before `setupterm` with true colour also has 256 colours. -/
theorem colorMode_truecolor {env : Environment} {m : Option String × Bool × Bool × List (Stdio × List Char)}
    (h : colorMode env = some m) (ht : m.2.2.1 = true) : m.2.1 = true := by
  unfold colorMode at h
  split at h
  · cases h
    rw [(overrideColorMode_flags _).2] at ht
    simp [(overrideColorMode_flags _).1, ht]
  · obtain ⟨⟨t, c, tc⟩, hd, rfl⟩ := Option.map_eq_some'.1 h
    exact (detectColorMode_eq_some hd).1.trans ht

/-- What the constructor makes of the mode: true colour as chosen; 256 colours as chosen, or
read from terminfo when `setupterm` succeeds and neither 256 colours nor a mode were chosen. -/
theorem new_eq_some {env : Environment} {t : TerminalState} {out : List (Stdio × List Char)}
    (h : TerminalState.new env = some (t, out)) :
    ∃ termOverride c256 warning, colorMode env = some (termOverride, c256, t.truecolor, warning) ∧
      t.valid = (env.setupterm termOverride).isSome ∧
      t.colors256 = (c256 || (env.getenv "ROSMON_COLOR_MODE").isNone &&
        match env.setupterm termOverride with
        | some e => decide (256 ≤ e.tigetnum "colors")
        | none => false) := by
  obtain ⟨⟨termOverride, c256, tc, warning⟩, hm, he⟩ := Option.map_eq_some'.1 h
  refine ⟨termOverride, c256, warning, ?_⟩
  dsimp only at he
  split at he <;> cases he
  · next hs => exact ⟨hm, by rw [hs]; rfl, by rw [hs, Bool.and_false, Bool.or_false]⟩
  · next hs =>
    refine ⟨hm, by rw [hs]; rfl, ?_⟩
    rw [hs]
    cases c256 <;> cases (env.getenv "ROSMON_COLOR_MODE").isNone <;> rfl

/-- **True colour implies 256 colours.** Whatever the environment and the terminfo database, a
terminal the constructor sets to print true colour also reports 256 colours. -/
theorem new_truecolor_colors256 (env : Environment) {t : TerminalState} {out : List (Stdio × List Char)}
    (h : TerminalState.new env = some (t, out)) (ht : t.truecolor = true) : t.colors256 = true := by
  obtain ⟨_, c256, _, hm, -, hc⟩ := new_eq_some h
  have hc256 : c256 = true := colorMode_truecolor hm ht
  rw [hc, hc256, Bool.true_or]

/-- `ROSMON_COLOR_MODE=truecolor` without a usable terminfo entry: invalid, true colour and
256 colours. -/
theorem new_truecolor_colors256_forced :
    TerminalState.new ⟨fun name => if name = "ROSMON_COLOR_MODE" then some "truecolor".toList else none,
        fun _ => none, fun _ => none⟩ =
      some (⟨false, true, true, [], [], [], [], [], [], [], [], [], .empty⟩,
        [(.stdout, "Could not setup the terminal. Disabling all colors...\n".toList)]) ∧
    (⟨false, true, true, [], [], [], [], [], [], [], [], [], .empty⟩ : TerminalState).truecolor = true ∧
    (⟨false, true, true, [], [], [], [], [], [], [], [], [], .empty⟩ : TerminalState).colors256 = true :=
  have h : TerminalState.new ⟨fun name => if name = "ROSMON_COLOR_MODE" then some "truecolor".toList
      else none, fun _ => none, fun _ => none⟩ =
      some (⟨false, true, true, [], [], [], [], [], [], [], [], [], .empty⟩,
        [(.stdout, "Could not setup the terminal. Disabling all colors...\n".toList)]) := rfl
  ⟨h, rfl, new_truecolor_colors256 _ h rfl⟩

/-- **A forced colour mode.** With `ROSMON_COLOR_MODE` set the constructor never throws, and
the mode follows from the value alone, compared without case: `truecolor` gives true colour and
256 colours, `256colors` 256 colours, and any other value, `ansi` or one it warns about, neither,
even on a terminal whose terminfo entry has 256 colours. -/
theorem new_override (env : Environment) {mode : List Char}
    (h : env.getenv "ROSMON_COLOR_MODE" = some mode) :
    ∃ t out, TerminalState.new env = some (t, out) ∧
      t.colors256 = (caseEqual mode "truecolor" || caseEqual mode "256colors") ∧
      t.truecolor = caseEqual mode "truecolor" := by
  have hm : colorMode env = some (overrideColorMode mode) := by simp [colorMode, h]
  obtain ⟨⟨t, out⟩, hr⟩ : ∃ r, TerminalState.new env = some r :=
    Option.isSome_iff_exists.1 (by simp [TerminalState.new, hm])
  obtain ⟨_, c256, _, hm', -, hc⟩ := new_eq_some hr
  rw [hm, Option.some.injEq] at hm'
  have hflags := overrideColorMode_flags mode
  rw [hm'] at hflags
  dsimp only at hflags
  refine ⟨t, out, hr, ?_, hflags.2⟩
  rw [hc, h, ← hflags.1]
  simp

/-- `ROSMON_COLOR_MODE=Ansi` on a terminal with 256 colours: 256 colours off. -/
theorem new_override_ansi :
    (fun name => if name = "ROSMON_COLOR_MODE" then some "Ansi".toList else none :
      String → Option (List Char)) "ROSMON_COLOR_MODE" = some "Ansi".toList ∧
    ∃ t out, TerminalState.new ⟨fun name => if name = "ROSMON_COLOR_MODE" then some "Ansi".toList
        else none, fun _ => some ⟨fun _ => 256, fun _ => none⟩, fun _ => none⟩ = some (t, out) ∧
      t.colors256 = (caseEqual "Ansi".toList "truecolor" || caseEqual "Ansi".toList "256colors") ∧
      t.truecolor = caseEqual "Ansi".toList "truecolor" :=
  ⟨rfl, new_override _ rfl⟩

/-- **Detected colour mode.** Without `ROSMON_COLOR_MODE`, the constructor throws exactly when
`VTE_VERSION` is set to a value `lexical_cast` rejects. Otherwise it prints true colour exactly
under Konsole or VTE 0.36 or later; the terminal is valid exactly when `setupterm` loads
`xterm-256color` (for true colour) or the entry of `$TERM`; and it has 256 colours exactly with
true colour or when that entry has 256 colours or more. -/
theorem new_detect (env : Environment) (h : env.getenv "ROSMON_COLOR_MODE" = none) :
    (TerminalState.new env = none ↔
      ∃ v, env.getenv "VTE_VERSION" = some v ∧ env.castUnsigned v = none) ∧
    ∀ t out, TerminalState.new env = some (t, out) →
      (t.truecolor = true ↔ (env.getenv "KONSOLE_DBUS_SESSION").isSome ∨
        ∃ v n, env.getenv "VTE_VERSION" = some v ∧ env.castUnsigned v = some n ∧ 3600 ≤ n) ∧
      t.valid = (env.setupterm (if t.truecolor then some "xterm-256color" else none)).isSome ∧
      (t.colors256 = true ↔ t.truecolor = true ∨
        ∃ e, env.setupterm (if t.truecolor then some "xterm-256color" else none) = some e ∧
          256 ≤ e.tigetnum "colors") := by
  have hm : colorMode env = (detectColorMode env).map fun (t, c, tc) => (t, c, tc, []) := by
    simp [colorMode, h]
  refine ⟨by rw [TerminalState.new, Option.map_eq_none', hm, Option.map_eq_none',
    detectColorMode_eq_none_iff], fun t out ht => ?_⟩
  obtain ⟨termOverride, c256, warning, hm', hvalid, hc⟩ := new_eq_some ht
  rw [hm] at hm'
  obtain ⟨⟨t', c', tc'⟩, hd, he⟩ := Option.map_eq_some'.1 hm'
  simp only [Prod.mk.injEq] at he
  obtain ⟨rfl, rfl, rfl, -⟩ := he
  obtain ⟨hc', ht', htc⟩ := detectColorMode_eq_some hd
  dsimp only at hc' ht' htc
  subst hc' ht'
  refine ⟨htc, hvalid, ?_⟩
  rw [hc, h]
  cases env.setupterm (if t.truecolor = true then some "xterm-256color" else none) <;> simp

/-- VTE 0.60.3 without Konsole and without a terminfo entry. -/
def vteWithoutTerminfo : Environment :=
  ⟨fun name => if name = "VTE_VERSION" then some "6003".toList else none, fun _ => none,
    fun v => if v = "6003".toList then some 6003 else none⟩

/-- VTE 0.60.3 without a terminfo entry: true colour and 256 colours on an invalid terminal. -/
theorem new_detect_vte :
    vteWithoutTerminfo.getenv "ROSMON_COLOR_MODE" = none ∧
    ((TerminalState.new vteWithoutTerminfo = none ↔
      ∃ v, vteWithoutTerminfo.getenv "VTE_VERSION" = some v ∧ vteWithoutTerminfo.castUnsigned v = none) ∧
    ∀ t out, TerminalState.new vteWithoutTerminfo = some (t, out) →
      (t.truecolor = true ↔ (vteWithoutTerminfo.getenv "KONSOLE_DBUS_SESSION").isSome ∨
        ∃ v n, vteWithoutTerminfo.getenv "VTE_VERSION" = some v ∧
          vteWithoutTerminfo.castUnsigned v = some n ∧ 3600 ≤ n) ∧
      t.valid = (vteWithoutTerminfo.setupterm
        (if t.truecolor then some "xterm-256color" else none)).isSome ∧
      (t.colors256 = true ↔ t.truecolor = true ∨
        ∃ e, vteWithoutTerminfo.setupterm (if t.truecolor then some "xterm-256color" else none) =
          some e ∧ 256 ≤ e.tigetnum "colors")) :=
  ⟨rfl, new_detect _ rfl⟩

/-! ## Colours -/

/-- `Terminal::Color`: the sequences that select a colour as foreground and as background. -/
structure Color where
  foreground : List UInt8
  background : List UInt8

/-- The red channel of an `rgb` value, `rgb & 0xFF`. -/
def red (rgb : UInt32) : Nat := rgb.toNat % 256

/-- The green channel, `(rgb >> 8) & 0xFF`. -/
def green (rgb : UInt32) : Nat := rgb.toNat / 256 % 256

/-- The blue channel, `(rgb >> 16) & 0xFF`. -/
def blue (rgb : UInt32) : Nat := rgb.toNat / 65536 % 256

/-- `ansiColor(rgb)`: the colour of the 6×6×6 cube of the 256-colour palette below `rgb`. -/
def ansiColor (rgb : UInt32) : Int :=
  16 + 36 * (red rgb * 6 / 256 : Nat) + 6 * (green rgb * 6 / 256 : Nat) + (blue rgb * 6 / 256 : Nat)

/-- A channel value as `{}` of `fmt` and `%d` of `snprintf` print it: its decimal digits, of
which a value below 256 has at most three. -/
def decimal (n : Nat) : List UInt8 :=
  if n < 10 then [digit n]
  else if n < 100 then [digit (n / 10), digit (n % 10)]
  else [digit (n / 100), digit (n / 10 % 10), digit (n % 10)]
where
  /-- The character of a digit. -/
  digit (d : Nat) : UInt8 := (0x30 + d).toUInt8

/-- `"\033[38;2;{};{};{}m"` (`ground` `38`) and `"\033[48;2;{};{};{}m"` (`ground` `48`) of the
channels of `rgb`, as `color` formats and `setForegroundColor` and `setBackgroundColor` print. -/
def trueColorSequence (ground : List UInt8) (rgb : UInt32) : List UInt8 :=
  [0x1B, 0x5B] ++ ground ++ [0x3B, 0x32, 0x3B] ++ decimal (red rgb) ++ [0x3B] ++
    decimal (green rgb) ++ [0x3B] ++ decimal (blue rgb) ++ [0x6D]

/-- `Terminal::color(SimpleColor code)`: `setaf` and `setab` expanded by ncurses' `tiparm` with
the colour. -/
def TerminalState.color (t : TerminalState) (tiparm : List UInt8 → Int → List UInt8) (code : Int) :
    Color :=
  ⟨tiparm t.fgColorStr code, tiparm t.bgColorStr code⟩

/-- `Terminal::color(uint32_t rgb, SimpleColor fallback)`. -/
def TerminalState.colorRgb (t : TerminalState) (tiparm : List UInt8 → Int → List UInt8)
    (rgb : UInt32) (fallback : Int) : Color :=
  if !t.colors256 then t.color tiparm fallback
  else if !t.truecolor then t.color tiparm (ansiColor rgb)
  else ⟨trueColorSequence [0x33, 0x38] rgb, trueColorSequence [0x34, 0x38] rgb⟩

/-! ## True colour through the parser -/

theorem toNat_digit {d : Nat} (h : d < 10) : (decimal.digit d).toNat = 0x30 + d :=
  UInt8.toNat_ofNat_of_lt (by unfold UInt8.size; omega)

theorem isDigit_digit {d : Nat} (h : d < 10) : isDigit (decimal.digit d) = true := by
  rw [isDigit_iff, toNat_digit h]
  omega

theorem decimal_isDigit {n : Nat} (h : n < 1000) : ∀ d ∈ decimal n, isDigit d = true := by
  unfold decimal
  split_ifs <;> simp (disch := omega) [isDigit_digit]

theorem decimalValue_decimal {n : Nat} (h : n < 1000) : decimalValue (decimal n) = n := by
  have h10 : n % 10 < 10 := Nat.mod_lt _ (by decide)
  unfold decimal decimalValue
  split_ifs with h₁ h₂
  · simp only [List.foldl_cons, List.foldl_nil, toNat_digit h₁, Nat.add_sub_cancel_left]
    omega
  · simp only [List.foldl_cons, List.foldl_nil, toNat_digit (show n / 10 < 10 by omega),
      toNat_digit h10, Nat.add_sub_cancel_left]
    omega
  · simp only [List.foldl_cons, List.foldl_nil, toNat_digit (show n / 100 < 10 by omega),
      toNat_digit (Nat.mod_lt (n / 10) (by decide)), toNat_digit h10, Nat.add_sub_cancel_left]
    omega

/-- One digit below 10, two below 100, three from 100 on. -/
theorem length_decimal (n : Nat) :
    1 ≤ (decimal n).length ∧ (decimal n).length ≤ 3 ∧ (n < 100 → (decimal n).length ≤ 2) ∧
      (100 ≤ n → (decimal n).length = 3) := by
  unfold decimal
  split_ifs <;> simp only [List.length_cons, List.length_nil, implies_true, and_true] <;> omega

namespace Parser

theorem trueColorSequence_eq_bytes (ground : List UInt8) (rgb : UInt32) :
    trueColorSequence ground rgb = (Piece.csi [ground, [0x32], decimal (red rgb),
      decimal (green rgb), decimal (blue rgb)] 0x6D).bytes := by
  simp [trueColorSequence, Piece.bytes, intercalate_cons_cons, List.intercalate]

/-- A code other than `0`, `30 … 37` and `40 … 47` leaves the colours alone: the `2`, `38` and
`48` of a true-colour sequence among them. -/
theorem sgrColors_of_not_color (c : Int × Int) (v : Nat) (h0 : v ≠ 0) (hfg : ¬(30 ≤ v ∧ v ≤ 37))
    (hbg : ¬(40 ≤ v ∧ v ≤ 47)) : sgrColors c v = c := by
  simp only [sgrColors, h0, hfg, hbg, if_false]

/-- The true-colour sequence for the SGR code `ground` (two digits, a code that changes no
colour), read from `STATE_ESCAPE`. -/
theorem parseString_trueColorSequence_colors (p : Parser) (hp : p.state = .escape)
    {ground : List UInt8} (hg : ∀ d ∈ ground, isDigit d = true) (hglen : ground.length = 2)
    (hv : ∀ c, sgrColors c (decimalValue ground) = c) (rgb : UInt32) :
    (p.parseString (trueColorSequence ground rgb)).colors =
      if 100 ≤ red rgb ∧ 100 ≤ green rgb ∧ 100 ≤ blue rgb then p.colors
      else [red rgb, green rgb, blue rgb].foldl sgrColors p.colors := by
  have hr : red rgb < 256 := Nat.mod_lt _ (by decide)
  have hgr : green rgb < 256 := Nat.mod_lt _ (by decide)
  have hb : blue rgb < 256 := Nat.mod_lt _ (by decide)
  have hdig : ∀ t ∈ [ground, [0x32], decimal (red rgb), decimal (green rgb), decimal (blue rgb)],
      ∀ d ∈ t, isDigit d = true := by
    simp only [List.mem_cons, List.not_mem_nil, or_false]
    rintro t (rfl | rfl | rfl | rfl | rfl)
    · exact hg
    · decide
    all_goals exact decimal_isDigit (by omega)
  have hlen : ([0x3B].intercalate [ground, [0x32], decimal (red rgb), decimal (green rgb),
      decimal (blue rgb)]).length = 7 + (decimal (red rgb)).length + (decimal (green rgb)).length +
        (decimal (blue rgb)).length := by
    rw [intercalate_cons_cons, intercalate_cons_cons, intercalate_cons_cons, intercalate_cons_cons]
    simp [List.intercalate, hglen]
    omega
  have hnot : ∀ x : UInt8, x ≠ 0x3B → (x.toNat < 0x30 ∨ 0x39 < x.toNat) →
      x ∉ [0x3B].intercalate [ground, [0x32], decimal (red rgb), decimal (green rgb),
        decimal (blue rgb)] := fun x hx hxr hm =>
    (mem_intercalate hm).elim hx fun ⟨t, ht, hmt⟩ => ne_of_isDigit (hdig t ht _ hmt) x hxr rfl
  have lr := length_decimal (red rgb)
  have lg := length_decimal (green rgb)
  have lb := length_decimal (blue rgb)
  rw [trueColorSequence_eq_bytes]
  split_ifs with hbig
  · exact (congrArg colors (parseString_csi_overlong p _ hp (by omega)
      (hnot _ (by decide) (by decide)) (hnot _ (by decide) (by decide)))).trans rfl
  · have hwf : (Piece.csi [ground, [0x32], decimal (red rgb), decimal (green rgb),
        decimal (blue rgb)] 0x6D).WellFormed := by
      refine ⟨List.cons_ne_nil _ _, fun t ht => ⟨hdig t ht, ?_⟩, by omega, by decide, by decide⟩
      simp only [List.mem_cons, List.not_mem_nil, or_false] at ht
      rcases ht with rfl | rfl | rfl | rfl | rfl <;> first | omega | decide
    obtain ⟨-, hc⟩ := parseString_piece p hp _ hwf rfl
    have hpresent : presentValues [ground, [0x32], decimal (red rgb), decimal (green rgb),
        decimal (blue rgb)] = [decimalValue ground, 2, red rgb, green rgb, blue rgb] := by
      rw [presentValues, List.filter_eq_self.2 fun t ht => ?_]
      · simp only [List.map_cons, List.map_nil, decimalValue_decimal (show red rgb < 1000 by omega),
          decimalValue_decimal (show green rgb < 1000 by omega),
          decimalValue_decimal (show blue rgb < 1000 by omega)]
        rfl
      · simp only [List.mem_cons, List.not_mem_nil, or_false] at ht
        rcases ht with rfl | rfl | rfl | rfl | rfl <;>
          first | decide | exact decide_eq_true (List.ne_nil_of_length_pos (by omega))
    rw [hc, Piece.sgrStep, if_pos rfl, hpresent, List.foldl_cons, List.foldl_cons, hv,
      sgrColors_of_not_color _ 2 (by decide) (by decide) (by decide)]

end Parser

/-- **True colour read back.** On a terminal with true colour, `Terminal::Parser` reads either
sequence `color(rgb, fallback)` returns, from `STATE_ESCAPE`, as plain SGR codes: it drops the
sequence when its three channels all have three digits (the parameters then reach sixteen
bytes), and otherwise applies the channels as SGR codes, so that a channel of `0` unsets both
colours and a channel of `31` selects red. Foreground and background sequence act alike. -/
theorem parseString_colorRgb (t : TerminalState) (ht : t.colors256 = true ∧ t.truecolor = true)
    (tiparm : List UInt8 → Int → List UInt8) (rgb : UInt32) (fallback : Int) (p : Parser)
    (hp : p.state = .escape) :
    (p.parseString (t.colorRgb tiparm rgb fallback).foreground).colors =
        (if 100 ≤ red rgb ∧ 100 ≤ green rgb ∧ 100 ≤ blue rgb then p.colors
        else [red rgb, green rgb, blue rgb].foldl sgrColors p.colors) ∧
      (p.parseString (t.colorRgb tiparm rgb fallback).background).colors =
        (if 100 ≤ red rgb ∧ 100 ≤ green rgb ∧ 100 ≤ blue rgb then p.colors
        else [red rgb, green rgb, blue rgb].foldl sgrColors p.colors) := by
  simp only [TerminalState.colorRgb, ht, Bool.not_true, Bool.false_eq_true, if_false]
  exact ⟨@Parser.parseString_trueColorSequence_colors p hp [0x33, 0x38] (by decide) rfl
      (fun c => Parser.sgrColors_of_not_color c _ (by decide) (by decide) (by decide)) rgb,
    @Parser.parseString_trueColorSequence_colors p hp [0x34, 0x38] (by decide) rfl
      (fun c => Parser.sgrColors_of_not_color c _ (by decide) (by decide) (by decide)) rgb⟩

/-- Dark blue `0x1F0000` on a true-colour terminal: a fresh parser reads it as red. -/
theorem parseString_colorRgb_dark_blue :
    ((⟨true, true, true, [], [], [], [], [], [], [], [], [], .empty⟩ : TerminalState).colors256 = true ∧
      (⟨true, true, true, [], [], [], [], [], [], [], [], [], .empty⟩ : TerminalState).truecolor = true) ∧
    Parser.new.state = .escape ∧
    (Parser.new.parseString ((⟨true, true, true, [], [], [], [], [], [], [], [], [], .empty⟩ :
        TerminalState).colorRgb (fun _ _ => []) 0x1F0000 0).foreground).colors =
        (if 100 ≤ red 0x1F0000 ∧ 100 ≤ green 0x1F0000 ∧ 100 ≤ blue 0x1F0000 then Parser.new.colors
        else [red 0x1F0000, green 0x1F0000, blue 0x1F0000].foldl sgrColors Parser.new.colors) ∧
      (Parser.new.parseString ((⟨true, true, true, [], [], [], [], [], [], [], [], [], .empty⟩ :
        TerminalState).colorRgb (fun _ _ => []) 0x1F0000 0).background).colors =
        (if 100 ≤ red 0x1F0000 ∧ 100 ≤ green 0x1F0000 ∧ 100 ≤ blue 0x1F0000 then Parser.new.colors
        else [red 0x1F0000, green 0x1F0000, blue 0x1F0000].foldl sgrColors Parser.new.colors) :=
  ⟨⟨rfl, rfl⟩, rfl, parseString_colorRgb _ ⟨rfl, rfl⟩ _ _ _ _ rfl⟩

end Rosmon.Terminal

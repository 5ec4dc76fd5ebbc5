import Rosmon.Terminal.Colors

/-!
# Rosmon — the output functions of the terminal

`Terminal` prints colours, the cursor, bold, line-clearing and line-wrap
capabilities and the window title. The colour setters print a true-colour
sequence, as `color` formats it, or a colour of the 256-colour cube. Most of these return at once on
a terminal that is not valid and otherwise hand a string the constructor
stored (or, for the cursor, one `tigetstr` returns at the call) to ncurses'
`putp`, which interprets the padding `$<n>` of terminfo strings before it
writes them. `moveCursorToStartOfLine`, `setLineWrap` and the window title
functions do not check: the first prints a carriage return anywhere, the
others print what they format. `setWindowTitle` formats each of its two
sequences with `snprintf` into a buffer of 256 bytes.

Output is the list of bytes a function writes on `stdout`; `putp`, `tparm`
and the terminfo entry are parameters.
-/

namespace Rosmon.Terminal

namespace TerminalState

/-! ## Colours -/

/-- `setForegroundColor` and `setBackgroundColor`, which differ only in the `ground` of the
true-colour sequence and in the capability they expand: nothing on a terminal that is not valid,
the true-colour sequence written by `fputs`, or the capability expanded by `tiparm` and written
by ncurses' `putp`, which interprets the padding `$<n>` of terminfo strings. -/
def setColor (t : TerminalState) (tiparm : List UInt8 → Int → List UInt8)
    (putp : List UInt8 → List UInt8) (ground str : List UInt8) (color : UInt32) : List UInt8 :=
  if !t.valid then []
  else if t.truecolor then trueColorSequence ground color
  else putp (tiparm str (ansiColor color))

/-- `Terminal::setForegroundColor`. -/
def setForegroundColor (t : TerminalState) (tiparm : List UInt8 → Int → List UInt8)
    (putp : List UInt8 → List UInt8) (color : UInt32) : List UInt8 :=
  t.setColor tiparm putp [0x33, 0x38] t.fgColorStr color

/-- `Terminal::setBackgroundColor`. -/
def setBackgroundColor (t : TerminalState) (tiparm : List UInt8 → Int → List UInt8)
    (putp : List UInt8 → List UInt8) (color : UInt32) : List UInt8 :=
  t.setColor tiparm putp [0x34, 0x38] t.bgColorStr color

/-! ## Capabilities -/

/-- `if(!m_valid) return; putp(str);`: what `putp` writes on a valid terminal, nothing on
another. -/
def putValid (t : TerminalState) (putp : List UInt8 → List UInt8) (str : List UInt8) :
    List UInt8 :=
  if t.valid then putp str else []

/-- `Terminal::setCursorInvisible`: `putp(tigetstr("civis"))`. -/
def setCursorInvisible (t : TerminalState) (putp : List UInt8 → List UInt8) (e : TermEntry) :
    List UInt8 :=
  t.putValid putp (safeTigetstr e "civis")

/-- `Terminal::setCursorVisible`: `putp(tigetstr("cnorm"))`. -/
def setCursorVisible (t : TerminalState) (putp : List UInt8 → List UInt8) (e : TermEntry) :
    List UInt8 :=
  t.putValid putp (safeTigetstr e "cnorm")

/-- `Terminal::setBold`: `m_boldStr` when `on` (`enabled`); nothing turns bold off. -/
def setBold (t : TerminalState) (putp : List UInt8 → List UInt8) (enabled : Bool) : List UInt8 :=
  if !t.valid then [] else if enabled then putp t.boldStr else []

/-- `Terminal::clearToEndOfLine`: `m_elStr`. -/
def clearToEndOfLine (t : TerminalState) (putp : List UInt8 → List UInt8) : List UInt8 :=
  t.putValid putp t.elStr

/-- `Terminal::moveCursorUp`: `m_upStr` expanded by `tparm` with the number of lines. -/
def moveCursorUp (t : TerminalState) (putp : List UInt8 → List UInt8)
    (tparm : List UInt8 → Int → List UInt8) (numLines : Int) : List UInt8 :=
  t.putValid putp (tparm t.upStr numLines)

/-- `Terminal::moveCursorToStartOfLine`: `putchar('\r')`, on any terminal. -/
def moveCursorToStartOfLine : List UInt8 := [0x0D]

/-- `Terminal::setLineWrap`, which does not check `m_valid`. -/
def setLineWrap (t : TerminalState) (putp : List UInt8 → List UInt8) (enabled : Bool) :
    List UInt8 :=
  putp (if enabled then t.lineWrapOnStr else t.lineWrapOffStr)

end TerminalState

/-! ## The window title -/

/-- `%s` of a C string: its bytes up to the first NUL. -/
def cString (s : List UInt8) : List UInt8 := s.takeWhile (· != 0)

/-- `snprintf(buf, sizeof(buf), ...)` into `char buf[256]`, then `fputs(buf, stdout)`: the
formatted bytes, cut to 255 to leave room for the NUL. -/
def snprintf256 (formatted : List UInt8) : List UInt8 := formatted.take 255

/-- `"\033]30;%s\007"`, the title sequence of Konsole. -/
def konsoleTitle (title : List UInt8) : List UInt8 := [0x1B, 0x5D, 0x33, 0x30, 0x3B] ++ title ++ [0x07]

/-- `"\033k%s\033\\"`, the title sequence of `screen` and `tmux`. -/
def screenTitle (title : List UInt8) : List UInt8 := [0x1B, 0x6B] ++ title ++ [0x1B, 0x5C]

/-- `Terminal::setWindowTitle`. -/
def setWindowTitle (title : List UInt8) : List UInt8 :=
  snprintf256 (konsoleTitle (cString title)) ++ snprintf256 (screenTitle (cString title))

/-- `Terminal::clearWindowTitle`: the Konsole format string `"%d : %n"` written as it stands by
`fputs`, then the `screen` sequence of `backup`, which `fmt::print` does not cut. -/
def clearWindowTitle (backup : List UInt8) : List UInt8 :=
  konsoleTitle [0x25, 0x64, 0x20, 0x3A, 0x20, 0x25, 0x6E] ++ screenTitle backup

end Rosmon.Terminal

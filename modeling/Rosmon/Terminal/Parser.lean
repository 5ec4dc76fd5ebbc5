import Mathlib

/-!
# Rosmon — the terminal escape-sequence parser

`Terminal::Parser` (`terminal.cpp`) reads the raw bytes a node writes and
keeps the colour state its SGR sequences (`ESC [ … m`) select, so that the
monitor can re-emit the same colours on its own terminal. The parser has
three states: `STATE_ESCAPE` waits for `ESC`, `STATE_TYPE` waits for `[`,
and `STATE_CSI` collects parameter bytes into `m_buf` until an `m` arrives
or sixteen bytes are collected.

The model follows the source function by function:

* `Parser.parse` — `Parser::parse(char)`, one byte;
* `Parser.parseString` — `Parser::parse(const std::string&)`, a fold of `parse`;
* `Parser.parseSetAttributes` — the `;`-tokenizer, `strtoul` with its
  `errno`/`endptr` check, the narrowing to `int`, and the SGR codes;
* `Parser.apply` — the calls `Parser::apply` makes on a `Terminal`, and
  `Terminal.perform`, what the four `Terminal` colour methods print.

Bytes are `UInt8`; C strings are `List UInt8`. `unsigned long` is a 64-bit
value and `int` a 32-bit one, so `strtoul` and the conversion to `int` are
written with explicit `% 2 ^ 64` and `% 2 ^ 32`.
-/

namespace Rosmon.Terminal

/-! ## C library helpers -/

/-- `isspace` in the C locale: space, `\t`, `\n`, `\v`, `\f`, `\r`. -/
def isSpace (c : UInt8) : Bool := c == 0x20 || (0x09 ≤ c && c ≤ 0x0D)

/-- `isdigit`: `'0'` to `'9'`. -/
def isDigit (c : UInt8) : Bool := 0x30 ≤ c && c ≤ 0x39

/-- The value of a string of decimal digits (`0` for the empty string). -/
def decimalValue (digits : List UInt8) : Nat :=
  digits.foldl (fun acc d => 10 * acc + (d.toNat - 0x30)) 0

/-- `ULONG_MAX` of the LP64 targets. -/
def ulongMax : Nat := 2 ^ 64 - 1

/-- What `strtoul(nptr, &endptr, 10)` reports: the returned value, the offset of
`endptr` from `nptr`, and whether it set `errno` to `ERANGE`. -/
structure StrtoulResult where
  value : Nat
  endOffset : Nat
  erange : Bool
  deriving DecidableEq, Repr

/-- The sign `strtoul` accepts before the digits: is it `-`, and how many bytes it takes. -/
def strtoulSign : List UInt8 → Bool × Nat
  | c :: _ => if c = 0x2D then (true, 1) else if c = 0x2B then (false, 1) else (false, 0)
  | [] => (false, 0)

/-- glibc's `strtoul` in base 10: white space, an optional sign, then the longest
run of digits. Without digits nothing is converted and `endptr = nptr`; a magnitude
above `ULONG_MAX` gives `ULONG_MAX` and `ERANGE`; a `-` negates modulo `2 ^ 64`.
A NUL byte is neither space, sign nor digit, so the scan never passes the end of
the C string. -/
def strtoul (s : List UInt8) : StrtoulResult :=
  let ws := (s.takeWhile isSpace).length
  let rest := s.drop ws
  let sign := strtoulSign rest
  let digits := (rest.drop sign.2).takeWhile isDigit
  if digits = [] then ⟨0, 0, false⟩
  else
    let mag := decimalValue digits
    let endOffset := ws + sign.2 + digits.length
    if ulongMax < mag then ⟨ulongMax, endOffset, true⟩
    else ⟨if sign.1 then (2 ^ 64 - mag) % 2 ^ 64 else mag, endOffset, false⟩

/-- The conversion of an `unsigned long` to `int` in `int code = strtoul(…)`:
the low 32 bits, read as a two's complement number. -/
def intOfULong (v : Nat) : Int :=
  if v % 2 ^ 32 < 2 ^ 31 then (v % 2 ^ 32 : Nat) else (v % 2 ^ 32 : Nat) - 2 ^ 32

/-- `boost::char_separator<char>(";")`: split at `;` and drop the empty tokens. -/
def tokenize (str : List UInt8) : List (List UInt8) :=
  (str.splitOn 0x3B).filter (· ≠ [])

/-! ## Parser state -/

/-- `m_state`. -/
inductive ParserState
  | escape
  | type
  | csi
  deriving DecidableEq, Repr

/-- The fields of `Terminal::Parser`: `m_state`, `m_buf`, `m_fgColor`,
`m_bgColor`, `m_bold`. A colour of `-1` is unset. -/
structure Parser where
  state : ParserState
  buf : List UInt8
  fgColor : Int
  bgColor : Int
  bold : Bool
  deriving DecidableEq, Repr

namespace Parser

/-- `Parser::Parser()`. -/
def new : Parser := ⟨.escape, [], -1, -1, false⟩

/-- One SGR code, the `if` chain in the body of `parseSetAttributes`' loop. -/
def setAttribute (p : Parser) (code : Int) : Parser :=
  if code = 0 then { p with fgColor := -1, bgColor := -1 }
  else if 30 ≤ code ∧ code ≤ 37 then { p with fgColor := code - 30 }
  else if 40 ≤ code ∧ code ≤ 47 then { p with bgColor := code - 40 }
  else if code = 1 then { p with bold := true }
  else p

/-- `Parser::parseSetAttributes`: the tokens in order; a token `strtoul` does not
read completely (or reads out of range) unsets both colours and ends the loop. -/
def parseSetAttributes (p : Parser) (str : List UInt8) : Parser :=
  go p (tokenize str)
where
  /-- The loop over the remaining tokens. -/
  go (p : Parser) : List (List UInt8) → Parser
    | [] => p
    | tok :: toks =>
      let r := strtoul tok
      if r.erange || tok.getD r.endOffset 0 != 0 then { p with fgColor := -1, bgColor := -1 }
      else go (p.setAttribute (intOfULong r.value)) toks

/-- `Parser::parse(char)`. -/
def parse (p : Parser) (c : UInt8) : Parser :=
  match p.state with
  | .escape => if c = 0x1B then { p with state := .type } else p
  | .type => if c = 0x5B then { p with state := .csi, buf := [] } else { p with state := .escape }
  | .csi =>
    if c = 0x6D then { p.parseSetAttributes p.buf with state := .escape }
    else if 16 ≤ (p.buf ++ [c]).length then { p with buf := p.buf ++ [c], state := .escape }
    else { p with buf := p.buf ++ [c] }

/-- `Parser::parse(const std::string&)`. -/
def parseString (p : Parser) (str : List UInt8) : Parser := str.foldl parse p

/-! ## Rendering -/

/-- The `Terminal` methods `Parser::apply` calls. -/
inductive TerminalCall
  | setSimplePair (fg bg : Int)
  | setStandardColors
  | setSimpleForeground (color : Int)
  | setSimpleBackground (color : Int)
  deriving DecidableEq, Repr

/-- `Parser::apply(Terminal*)`. -/
def apply (p : Parser) : List TerminalCall :=
  if 0 ≤ p.fgColor ∧ 0 ≤ p.bgColor then [.setSimplePair p.fgColor p.bgColor]
  else .setStandardColors ::
    if 0 ≤ p.fgColor then [.setSimpleForeground p.fgColor]
    else if 0 ≤ p.bgColor then [.setSimpleBackground p.fgColor]
    else []

end Parser

/-- The terminfo strings the colour methods print: `setaf`/`setab` with their
colour parameter, and `op` and `sgr0`. -/
inductive TermOutput
  | setaf (color : Int)
  | setab (color : Int)
  | op
  | sgr0
  deriving DecidableEq, Repr

/-- What `Terminal`'s colour methods print; `m_valid` is false when `setupterm`
failed, and then every method returns at once. -/
def perform (valid : Bool) : Parser.TerminalCall → List TermOutput
  | .setSimplePair fg bg => if valid then [.setaf fg, .setab bg] else []
  | .setStandardColors => if valid then [.op, .sgr0] else []
  | .setSimpleForeground c => if valid then [.setaf c] else []
  | .setSimpleBackground c => if valid then [.setab c] else []

end Rosmon.Terminal

import Rosmon.Terminal.Numerals

/-!
# Rosmon — the parser against an SGR reference interpreter

A stream of child output is read here as a sequence of `Piece`s: plain bytes,
two-byte escapes, and control sequences `ESC [ P F` whose parameter string `P`
is a `;`-separated list of decimal numerals. The reference interpreter
(`reference`) skips everything but SGR sequences (`F = m`) and applies their
parameters from left to right; how a sequence's parameters are read is a
parameter of it:

* `ecmaValues` — ECMA-48: every parameter counts, an empty one as `0`;
* `presentValues` — only the non-empty parameters, as the `;`-tokenizer of
  `parseSetAttributes` returns them.

`Parser::parse` only ends a sequence at `m`: a control sequence with another
final byte stays open and swallows what follows. So the parser agrees with the
ECMA-48 reference only on streams whose sequences are all SGR, and then with
empty parameters skipped (`parseString_refines_sgr_reference`);
`parseString_ne_ecma_reference` evaluates the two streams where it departs
from ECMA-48.
-/

namespace Rosmon.Terminal

/-! ## Streams of pieces -/

/-- One piece of a stream of child output. -/
inductive Piece
  /-- A byte other than `ESC`. -/
  | plain (b : UInt8)
  /-- `ESC x` for an `x` that starts no control sequence. -/
  | escape (x : UInt8)
  /-- `ESC [ P F`, where `P` joins `params` with `;`. -/
  | csi (params : List (List UInt8)) (final : UInt8)
  deriving DecidableEq, Repr

namespace Piece

/-- The bytes of a piece. -/
def bytes : Piece → List UInt8
  | plain b => [b]
  | escape x => [0x1B, x]
  | csi params final => 0x1B :: 0x5B :: ([0x3B].intercalate params ++ [final])

/-- A well-formed piece: a plain byte is not `ESC`; an escape is not followed by `[`
or `ESC`; a control sequence has numerals of at most nine digits, at most fifteen
parameter bytes, and a final byte in `0x40 … 0x7E`. -/
def WellFormed : Piece → Prop
  | plain b => b ≠ 0x1B
  | escape x => x ≠ 0x5B ∧ x ≠ 0x1B
  | csi params final =>
    params ≠ [] ∧ (∀ t ∈ params, (∀ d ∈ t, isDigit d = true) ∧ t.length ≤ 9) ∧
      ([0x3B].intercalate params).length ≤ 15 ∧ 0x40 ≤ final ∧ final ≤ 0x7E

instance : DecidablePred WellFormed
  | plain b => inferInstanceAs (Decidable (b ≠ 0x1B))
  | escape _ => inferInstanceAs (Decidable (_ ∧ _))
  | csi _ _ => inferInstanceAs (Decidable (_ ∧ _ ∧ _ ∧ _ ∧ _))

/-- A piece that is not a control sequence with a final byte other than `m`. -/
def IsSgr : Piece → Prop
  | csi _ final => final = 0x6D
  | _ => True

instance : DecidablePred IsSgr
  | csi _ final => inferInstanceAs (Decidable (final = 0x6D))
  | plain _ => isTrue trivial
  | escape _ => isTrue trivial

end Piece

/-! ## The reference interpreter -/

/-- ECMA-48 parameter values: an empty parameter is `0`. -/
def ecmaValues (params : List (List UInt8)) : List Nat := params.map decimalValue

/-- The values of the non-empty parameters only. -/
def presentValues (params : List (List UInt8)) : List Nat :=
  (params.filter (· ≠ [])).map decimalValue

/-- One SGR parameter acting on `(fg, bg)`: `0` unsets both, `30 … 37` and `40 … 47`
select a colour, any other value changes nothing. -/
def sgrColors (c : Int × Int) (v : Nat) : Int × Int :=
  if v = 0 then (-1, -1)
  else if 30 ≤ v ∧ v ≤ 37 then ((v : Int) - 30, c.2)
  else if 40 ≤ v ∧ v ≤ 47 then (c.1, (v : Int) - 40)
  else c

/-- What a piece does to `(fg, bg)` in the reference interpreter. -/
def Piece.sgrStep (values : List (List UInt8) → List Nat) : Piece → Int × Int → Int × Int
  | .csi params final, c => if final = 0x6D then (values params).foldl sgrColors c else c
  | _, c => c

/-- The reference interpreter over a stream of pieces. -/
def reference (values : List (List UInt8) → List Nat) (ps : List Piece) (c : Int × Int) :
    Int × Int :=
  ps.foldl (fun c x => x.sgrStep values c) c

namespace Parser

/-- The colour pair `(m_fgColor, m_bgColor)`. -/
def colors (p : Parser) : Int × Int := (p.fgColor, p.bgColor)

/-- `ESC [ 31 m ESC [ K m` and `ESC [ 31 m ESC [ m` are well formed, and on both the
parser leaves other colours than the ECMA-48 reference: after `ESC [ K` it keeps collecting
and reads `K` as a broken parameter, and it drops the empty parameter of `ESC [ m`. -/
theorem parseString_ne_ecma_reference :
    (∀ x ∈ [Piece.csi [[0x33, 0x31]] 0x6D, .csi [[]] 0x4B, .plain 0x6D], x.WellFormed) ∧
      (new.parseString ([Piece.csi [[0x33, 0x31]] 0x6D, .csi [[]] 0x4B, .plain 0x6D].flatMap
        Piece.bytes)).colors = (-1, -1) ∧
      reference ecmaValues [.csi [[0x33, 0x31]] 0x6D, .csi [[]] 0x4B, .plain 0x6D] new.colors =
        (1, -1) ∧
    (∀ x ∈ [Piece.csi [[0x33, 0x31]] 0x6D, .csi [[]] 0x6D], x.WellFormed) ∧
      (new.parseString ([Piece.csi [[0x33, 0x31]] 0x6D, .csi [[]] 0x6D].flatMap
        Piece.bytes)).colors = (1, -1) ∧
      reference ecmaValues [.csi [[0x33, 0x31]] 0x6D, .csi [[]] 0x6D] new.colors = (-1, -1) := by
  decide

/-! ## One piece at a time -/

theorem colors_setAttribute (p : Parser) (v : Nat) :
    (p.setAttribute v).colors = sgrColors p.colors v := by
  unfold setAttribute sgrColors colors
  split_ifs <;> simp_all

/-- Numerals below `2 ^ 31` move the colours as the reference's parameters do. -/
theorem colors_foldl_setAttribute (q : Parser) (ts : List (List UInt8))
    (h : ∀ t ∈ ts, decimalValue t < 2 ^ 31) :
    (ts.foldl (fun p t => p.setAttribute (intOfULong (decimalValue t))) q).colors =
      (ts.map decimalValue).foldl sgrColors q.colors := by
  induction ts generalizing q with
  | nil => rfl
  | cons t ts ih =>
    rw [List.foldl_cons, ih _ fun t' ht' => h t' (List.mem_cons_of_mem _ ht'),
      intOfULong_of_lt (h t (List.mem_cons_self _ _)), colors_setAttribute]
    rfl

/-- A well-formed SGR piece read from `STATE_ESCAPE` returns there and moves the colours as
the reference does, with empty parameters skipped. -/
theorem parseString_piece (p : Parser) (hp : p.state = .escape) (x : Piece)
    (hwf : x.WellFormed) (hsgr : x.IsSgr) :
    (p.parseString x.bytes).state = .escape ∧
      (p.parseString x.bytes).colors = x.sgrStep presentValues p.colors := by
  cases x with
  | plain b =>
    simp_all [Piece.bytes, Piece.WellFormed, Piece.sgrStep, parse]
  | escape x =>
    simp_all [Piece.bytes, Piece.WellFormed, Piece.sgrStep, parse, colors]
  | csi params final =>
    obtain ⟨hne, hdig, hlen, -⟩ := hwf
    simp only [Piece.IsSgr] at hsgr
    subst hsgr
    have hnom : (0x6D : UInt8) ∉ [0x3B].intercalate params := fun hm =>
      (mem_intercalate hm).elim (by decide) fun ⟨t, ht, hmt⟩ =>
        ne_of_isDigit ((hdig t ht).1 _ hmt) 0x6D (by decide) rfl
    have hopen : (p.parse 0x1B).parse 0x5B = { p with state := .csi, buf := [] } := by
      simp [parse, hp]
    have hsmall : ∀ t ∈ params.filter (· ≠ []), decimalValue t < 2 ^ 31 := fun t ht =>
      have ht := (List.mem_filter.1 ht).1
      (decimalValue_lt t (hdig t ht).1).trans_le
        ((Nat.pow_le_pow_right (by decide) (hdig t ht).2).trans (by decide))
    simp only [Piece.bytes, parseString_cons, parseString_append, hopen, parseString_nil,
      parseString_collect { p with state := .csi, buf := [] } rfl _ hnom
        (by simpa using hlen.trans_lt (by decide))]
    refine ⟨rfl, ?_⟩
    show (parseSetAttributes _ ([] ++ _)).colors = _
    rw [List.nil_append, parseSetAttributes_numerals _ params hne (fun t ht => (hdig t ht).1) hlen,
      colors_foldl_setAttribute _ _ hsmall]
    rfl

/-! ## Whole streams -/

/-- From `STATE_ESCAPE`, a stream of well-formed SGR pieces moves the colours as the
reference does with empty parameters skipped. -/
theorem parseString_pieces (p : Parser) (hp : p.state = .escape) (ps : List Piece)
    (hwf : ∀ x ∈ ps, x.WellFormed) (hsgr : ∀ x ∈ ps, x.IsSgr) :
    (p.parseString (ps.flatMap Piece.bytes)).colors = reference presentValues ps p.colors := by
  induction ps generalizing p with
  | nil => rfl
  | cons x ps ih =>
    obtain ⟨hs, hc⟩ := parseString_piece p hp x (hwf x (.head _)) (hsgr x (.head _))
    rw [List.flatMap_cons, parseString_append,
      ih _ hs (fun y hy => hwf y (.tail _ hy)) (fun y hy => hsgr y (.tail _ hy)), hc]
    rfl

/-- **The parser refines the SGR reference.** On a stream of plain bytes, two-byte escapes
and SGR sequences `ESC [ P m` (numerals of at most nine digits, at most fifteen parameter
bytes), a fresh parser ends with the colours of the reference interpreter that skips empty
parameters. -/
theorem parseString_refines_sgr_reference (ps : List Piece) (hwf : ∀ x ∈ ps, x.WellFormed)
    (hsgr : ∀ x ∈ ps, x.IsSgr) :
    (new.parseString (ps.flatMap Piece.bytes)).colors = reference presentValues ps (-1, -1) :=
  parseString_pieces new rfl ps hwf hsgr

/-- `A ESC [ 31 ; ; 42 m ESC c`: foreground 1 and background 2. -/
theorem parseString_refines_sgr_reference_sample :
    (∀ x ∈ [Piece.plain 0x41, .csi [[0x33, 0x31], [], [0x34, 0x32]] 0x6D, .escape 0x63],
        x.WellFormed) ∧
      (∀ x ∈ [Piece.plain 0x41, .csi [[0x33, 0x31], [], [0x34, 0x32]] 0x6D, .escape 0x63],
        x.IsSgr) ∧
      (new.parseString ([Piece.plain 0x41, .csi [[0x33, 0x31], [], [0x34, 0x32]] 0x6D,
        .escape 0x63].flatMap Piece.bytes)).colors =
        reference presentValues
          [.plain 0x41, .csi [[0x33, 0x31], [], [0x34, 0x32]] 0x6D, .escape 0x63] (-1, -1) :=
  ⟨by decide, by decide, parseString_refines_sgr_reference _ (by decide) (by decide)⟩

end Parser

end Rosmon.Terminal

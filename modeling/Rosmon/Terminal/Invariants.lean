import Rosmon.Terminal.Parser

/-!
# Rosmon — invariants of the escape-sequence parser

What holds of `Terminal::Parser` after any stream of bytes, proved once for
one byte (`parse`) and lifted to streams (`parseString`) by induction:

* `BufBound` — `m_buf` never holds more than sixteen bytes, and at most
  fifteen while a sequence is being collected;
* `ColorsValid` — each colour is unset (`-1`) or one of the eight ANSI
  colours `0 … 7`;
* `parseString_colors_of_no_m` — only an `m` byte reaches
  `parseSetAttributes`, so a stream without one leaves the colours and the
  bold flag alone, from any state;
* `parseString_csi_overlong` — a sequence whose parameters reach sixteen
  bytes sends the parser back to `STATE_ESCAPE` at the sixteenth, and its
  final `m` is then skipped like any other byte;
* `bold_stays_set` — nothing clears the bold flag once it is set.

The last section evaluates `Parser::apply` on the background-only state,
where it passes `m_fgColor` to `setSimpleBackground`.
-/

namespace Rosmon.Terminal.Parser

/-! ## Streams -/

@[simp] theorem parseString_nil (p : Parser) : p.parseString [] = p := rfl

@[simp] theorem parseString_cons (p : Parser) (c : UInt8) (s : List UInt8) :
    p.parseString (c :: s) = (p.parse c).parseString s := rfl

theorem parseString_append (p : Parser) (s t : List UInt8) :
    p.parseString (s ++ t) = (p.parseString s).parseString t :=
  List.foldl_append _ _ _ _

/-- A property kept by every byte is kept by every stream. -/
theorem parseString_induction (P : Parser → Prop) (step : ∀ p c, P p → P (p.parse c)) :
    ∀ (p : Parser) (s : List UInt8), P p → P (p.parseString s)
  | _, [], h => h
  | p, c :: s, h => parseString_induction P step (p.parse c) s (step p c h)

/-! ## What `parseSetAttributes` leaves alone -/

@[simp] theorem setAttribute_state (p : Parser) (code : Int) :
    (p.setAttribute code).state = p.state := by
  unfold setAttribute; split_ifs <;> rfl

@[simp] theorem setAttribute_buf (p : Parser) (code : Int) :
    (p.setAttribute code).buf = p.buf := by
  unfold setAttribute; split_ifs <;> rfl

theorem parseSetAttributes_go_frame (p : Parser) (toks : List (List UInt8)) :
    (parseSetAttributes.go p toks).state = p.state ∧ (parseSetAttributes.go p toks).buf = p.buf := by
  induction toks generalizing p with
  | nil => exact ⟨rfl, rfl⟩
  | cons tok toks ih =>
    simp only [parseSetAttributes.go]
    split
    · exact ⟨rfl, rfl⟩
    · simpa using ih (p.setAttribute _)

@[simp] theorem parseSetAttributes_buf (p : Parser) (str : List UInt8) :
    (p.parseSetAttributes str).buf = p.buf :=
  (parseSetAttributes_go_frame p _).2

/-! ## The buffer bound -/

/-- The bound `parse` keeps on `m_buf`: at most 16 bytes, at most 15 in `STATE_CSI`. -/
def BufBound (p : Parser) : Prop :=
  p.buf.length ≤ 16 ∧ (p.state = .csi → p.buf.length ≤ 15)

instance (p : Parser) : Decidable p.BufBound := inferInstanceAs (Decidable (_ ∧ _))

theorem bufBound_new : new.BufBound := by decide

theorem bufBound_parse (p : Parser) (c : UInt8) (h : p.BufBound) : (p.parse c).BufBound := by
  obtain ⟨h16, h15⟩ := h
  unfold parse
  split
  · split_ifs
    · exact ⟨h16, fun h => nomatch h⟩
    · exact ⟨h16, h15⟩
  · split_ifs
    · exact ⟨Nat.zero_le _, fun _ => Nat.zero_le _⟩
    · exact ⟨h16, fun h => nomatch h⟩
  · rename_i hs
    have := h15 hs
    split_ifs with hm hl
    · exact ⟨(parseSetAttributes_buf p p.buf).symm ▸ h16, fun h => nomatch h⟩
    · exact ⟨by simp only [List.length_append, List.length_singleton] at hl ⊢; omega,
        fun h => nomatch h⟩
    · simp only [List.length_append, List.length_singleton] at hl
      exact ⟨by simp only [List.length_append, List.length_singleton]; omega,
        fun _ => by simp only [List.length_append, List.length_singleton]; omega⟩

/-! ## Colours -/

/-- A colour `parse` can hold: unset, or an ANSI colour `0 … 7`. -/
def ColorValid (c : Int) : Prop := c = -1 ∨ (0 ≤ c ∧ c ≤ 7)

/-- Both colours are valid. -/
def ColorsValid (p : Parser) : Prop := ColorValid p.fgColor ∧ ColorValid p.bgColor

theorem colorsValid_setAttribute (p : Parser) (code : Int) (h : p.ColorsValid) :
    (p.setAttribute code).ColorsValid := by
  unfold setAttribute
  split_ifs <;> simp only [ColorsValid, ColorValid, true_or, and_self] at h ⊢ <;> omega

theorem colorsValid_parseSetAttributes (p : Parser) (str : List UInt8) (h : p.ColorsValid) :
    (p.parseSetAttributes str).ColorsValid := by
  unfold parseSetAttributes
  induction tokenize str generalizing p with
  | nil => exact h
  | cons tok toks ih =>
    simp only [parseSetAttributes.go]
    split
    · simp [ColorsValid, ColorValid]
    · exact ih _ (colorsValid_setAttribute p _ h)

theorem colorsValid_parse (p : Parser) (c : UInt8) (h : p.ColorsValid) :
    (p.parse c).ColorsValid := by
  unfold parse
  split
  · split_ifs <;> exact h
  · split_ifs <;> exact h
  · split_ifs
    · exact colorsValid_parseSetAttributes p p.buf h
    · exact h
    · exact h

/-- Bytes other than `m` never change the colours or the bold flag. -/
theorem parse_colors_of_ne (p : Parser) (c : UInt8) (hc : c ≠ 0x6D) :
    (p.parse c).fgColor = p.fgColor ∧ (p.parse c).bgColor = p.bgColor ∧
      (p.parse c).bold = p.bold := by
  unfold parse
  split <;> split_ifs <;> simp_all

/-- A stream without an `m` byte leaves the colours and the bold flag as they were. -/
theorem parseString_colors_of_no_m (p : Parser) (s : List UInt8) (hs : (0x6D : UInt8) ∉ s) :
    (p.parseString s).fgColor = p.fgColor ∧ (p.parseString s).bgColor = p.bgColor ∧
      (p.parseString s).bold = p.bold := by
  induction s generalizing p with
  | nil => exact ⟨rfl, rfl, rfl⟩
  | cons c s ih =>
    rw [List.mem_cons, not_or] at hs
    obtain ⟨h1, h2, h3⟩ := parse_colors_of_ne p c (Ne.symm hs.1)
    obtain ⟨h1', h2', h3'⟩ := ih (p.parse c) hs.2
    exact ⟨h1'.trans h1, h2'.trans h2, h3'.trans h3⟩

/-! ## Unterminated and oversized sequences -/

/-- In `STATE_CSI` a byte other than `m` is appended to `m_buf`, and the parser returns to
`STATE_ESCAPE` exactly when that makes sixteen bytes. -/
theorem parse_csi_of_ne (p : Parser) (c : UInt8) (hp : p.state = .csi) (hc : c ≠ 0x6D) :
    (p.parse c).buf = p.buf ++ [c] ∧ ((p.parse c).state = .escape ↔ 16 ≤ (p.parse c).buf.length) := by
  simp only [parse, hp, hc, if_false]
  split_ifs with h <;> simp at h ⊢ <;> omega

/-- In `STATE_ESCAPE`, bytes other than `ESC` are skipped. -/
theorem parseString_skip (p : Parser) (hp : p.state = .escape) (s : List UInt8)
    (hs : (0x1B : UInt8) ∉ s) : p.parseString s = p := by
  induction s with
  | nil => rfl
  | cons c s ih =>
    rw [List.mem_cons, not_or] at hs
    have hc : p.parse c = p := by simp [parse, hp, Ne.symm hs.1]
    rw [parseString_cons, hc, ih hs.2]

/-- While collecting, bytes other than `m` are appended to `m_buf` as long as it stays
below sixteen bytes. -/
theorem parseString_collect (p : Parser) (hp : p.state = .csi) (s : List UInt8)
    (hm : (0x6D : UInt8) ∉ s) (hlen : p.buf.length + s.length < 16) :
    p.parseString s = { p with buf := p.buf ++ s } := by
  induction s generalizing p with
  | nil => simp
  | cons c s ih =>
    rw [List.mem_cons, not_or] at hm
    have hc : p.parse c = { p with buf := p.buf ++ [c] } := by
      simp only [List.length_cons] at hlen
      simp [parse, hp, Ne.symm hm.1]
      omega
    rw [parseString_cons, hc, ih { p with buf := p.buf ++ [c] } hp hm.2 (by simp at hlen ⊢; omega)]
    simp

/-- A control sequence whose parameter string reaches sixteen bytes is dropped: the parser gives
up at the sixteenth byte, back in `STATE_ESCAPE` with those sixteen bytes in `m_buf`, and skips
the rest, its final `m` included. -/
theorem parseString_csi_overlong (p : Parser) (s : List UInt8) (hp : p.state = .escape)
    (hlen : 16 ≤ s.length) (hm : (0x6D : UInt8) ∉ s) (hesc : (0x1B : UInt8) ∉ s) :
    p.parseString (0x1B :: 0x5B :: (s ++ [0x6D])) = { p with buf := s.take 16 } := by
  have hs : s = s.take 15 ++ s[15] :: s.drop 16 := by
    rw [← List.drop_eq_getElem_cons (by omega), List.take_append_drop]
  have hsub : ∀ {x : UInt8}, x ∉ s → x ∉ s.take 15 ++ s[15] :: s.drop 16 := fun hx => hs ▸ hx
  have hm' := hsub hm
  have hesc' := hsub hesc
  simp only [List.mem_append, List.mem_cons, not_or] at hm' hesc'
  have hopen : (p.parse 0x1B).parse 0x5B = { p with state := .csi, buf := [] } := by
    simp [parse, hp]
  have hlen15 : (s.take 15).length = 15 := by simp; omega
  have hcut : ({ p with state := .csi, buf := [] }.parseString (s.take 15)).parse s[15] =
      { p with state := .escape, buf := s.take 15 ++ [s[15]] } := by
    rw [parseString_collect _ rfl _ hm'.1 (by simp [hlen15])]
    simp [parse, Ne.symm hm'.2.1, hlen15, hlen]
  have htake : s.take 15 ++ [s[15]] = s.take 16 := List.take_concat_get' s 15 (by omega)
  conv_lhs => rw [hs]
  rw [List.append_assoc, List.cons_append, parseString_cons, parseString_cons, hopen,
    parseString_append, parseString_cons, hcut,
    parseString_skip _ rfl _ (by simp [hesc'.2.2, Ne.symm hesc'.2.1]), htake, ← hp]

/-- Feeding any bytes to a fresh parser keeps `m_buf` within its bound after every byte. In
`STATE_CSI` a byte other than `m` is collected and the parser returns to `STATE_ESCAPE` when
`m_buf` reaches sixteen bytes. From any state a stream without an `m` leaves the colours and the
bold flag unchanged, and a sequence whose parameters reach sixteen bytes is dropped with its
final `m`: an unterminated or oversized sequence is discarded without effect. -/
theorem parse_discards_unterminated :
    (∀ s : List UInt8, (new.parseString s).BufBound) ∧
      (∀ (p : Parser) (c : UInt8), p.state = .csi → c ≠ 0x6D →
        (p.parse c).buf = p.buf ++ [c] ∧
          ((p.parse c).state = .escape ↔ 16 ≤ (p.parse c).buf.length)) ∧
      (∀ (p : Parser) (s : List UInt8), (0x6D : UInt8) ∉ s →
        (p.parseString s).fgColor = p.fgColor ∧ (p.parseString s).bgColor = p.bgColor ∧
          (p.parseString s).bold = p.bold) ∧
      ∀ (p : Parser) (s : List UInt8), p.state = .escape → 16 ≤ s.length →
        (0x6D : UInt8) ∉ s → (0x1B : UInt8) ∉ s →
          p.parseString (0x1B :: 0x5B :: (s ++ [0x6D])) = { p with buf := s.take 16 } :=
  ⟨fun s => parseString_induction _ bufBound_parse new s bufBound_new, parse_csi_of_ne,
    parseString_colors_of_no_m, parseString_csi_overlong⟩

/-! ## The bold flag -/

theorem bold_setAttribute (p : Parser) (code : Int) (h : p.bold = true) :
    (p.setAttribute code).bold = true := by
  unfold setAttribute; split_ifs <;> first | exact h | rfl

theorem bold_parseSetAttributes (p : Parser) (str : List UInt8) (h : p.bold = true) :
    (p.parseSetAttributes str).bold = true := by
  unfold parseSetAttributes
  induction tokenize str generalizing p with
  | nil => exact h
  | cons tok toks ih =>
    simp only [parseSetAttributes.go]
    split
    · exact h
    · exact ih _ (bold_setAttribute p _ h)

theorem bold_parse (p : Parser) (c : UInt8) (h : p.bold = true) : (p.parse c).bold = true := by
  unfold parse
  split <;> split_ifs <;> first | exact h | exact bold_parseSetAttributes p p.buf h

/-- No byte clears the bold flag: once code `1` has set it, it stays set through any later
output, `ESC [ 0 m` included. -/
theorem bold_stays_set (p : Parser) (s : List UInt8) (h : p.bold = true) :
    (p.parseString s).bold = true :=
  parseString_induction (fun p => p.bold = true) bold_parse p s h

/-- `ESC [ 1 m` sets the flag and a later `ESC [ 0 m` leaves it set. -/
theorem bold_stays_set_after_reset :
    (new.parseString [0x1B, 0x5B, 0x31, 0x6D]).bold = true ∧
      ((new.parseString [0x1B, 0x5B, 0x31, 0x6D]).parseString [0x1B, 0x5B, 0x30, 0x6D]).bold = true :=
  ⟨by decide, bold_stays_set _ [0x1B, 0x5B, 0x30, 0x6D] (by decide)⟩

/-! ## Rendering -/

/-- After any stream, both colours of a fresh parser are unset or ANSI colours. -/
theorem colorsValid_parseString (s : List UInt8) : (new.parseString s).ColorsValid :=
  parseString_induction _ colorsValid_parse new s ⟨.inl rfl, .inl rfl⟩

/-- After any stream, `apply` hands only ANSI colours `0 … 7` to `setSimplePair` and
`setSimpleForeground`, and only `-1` to `setSimpleBackground`. -/
theorem apply_color_arguments (s : List UInt8) :
    ∀ call ∈ (new.parseString s).apply,
      (∀ fg bg, call = .setSimplePair fg bg → 0 ≤ fg ∧ fg ≤ 7 ∧ 0 ≤ bg ∧ bg ≤ 7) ∧
        (∀ c, call = .setSimpleForeground c → 0 ≤ c ∧ c ≤ 7) ∧
        (∀ c, call = .setSimpleBackground c → c = -1) := by
  obtain ⟨hfg, hbg⟩ := colorsValid_parseString s
  unfold ColorValid at hfg hbg
  unfold apply
  split_ifs <;> simp <;> omega

/-- `ESC [ 31 ; 42 m`: red on green, handed to `setSimplePair` as `1` and `2`. -/
theorem apply_color_arguments_red_on_green :
    TerminalCall.setSimplePair 1 2 ∈
        (new.parseString [0x1B, 0x5B, 0x33, 0x31, 0x3B, 0x34, 0x32, 0x6D]).apply ∧
      (0 ≤ (1 : Int) ∧ (1 : Int) ≤ 7 ∧ 0 ≤ (2 : Int) ∧ (2 : Int) ≤ 7) :=
  ⟨by decide, (apply_color_arguments [0x1B, 0x5B, 0x33, 0x31, 0x3B, 0x34, 0x32, 0x6D] _
    (by decide)).1 1 2 rfl⟩

/-- `ESC [ 41 m` selects background 1 and leaves the foreground unset; `apply` then
hands `m_fgColor`, `-1`, to `setSimpleBackground`, and a valid terminal prints `setab`
with parameter `-1`. -/
theorem apply_passes_fgColor_as_background :
    (new.parseString [0x1B, 0x5B, 0x34, 0x31, 0x6D]).fgColor = -1 ∧
      (new.parseString [0x1B, 0x5B, 0x34, 0x31, 0x6D]).bgColor = 1 ∧
      (new.parseString [0x1B, 0x5B, 0x34, 0x31, 0x6D]).apply =
        [.setStandardColors, .setSimpleBackground (-1)] ∧
      (new.parseString [0x1B, 0x5B, 0x34, 0x31, 0x6D]).apply.flatMap (perform true) =
        [.op, .sgr0, .setab (-1)] := by
  decide

end Rosmon.Terminal.Parser

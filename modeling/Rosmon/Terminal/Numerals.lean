import Rosmon.Terminal.Invariants

/-!
# Rosmon — SGR parameters as `parseSetAttributes` reads them

`parseSetAttributes` splits its buffer at `;`, hands each token to
`strtoul`, and stores the result in an `int`. This module works out what that
does to a parameter string made of decimal numerals:

* `strtoul_digits` — on a digit string `strtoul` returns the string's value
  and stops at its end, so the `errno`/`endptr` check passes;
* `tokenize_intercalate` — the tokenizer gives back the non-empty numerals;
* `parseSetAttributes_numerals` — each numeral is applied as
  `intOfULong` of its value, the low 32 bits read as a signed number.

A token `strtoul` does not read completely takes the error exit, which unsets
both colours and ends the loop (`parseSetAttributes_error_exit`).

The conversion is where the value of a long numeral is lost:
`parseSetAttributes_narrows` evaluates `ESC [ 4294967326 m`, which selects
foreground colour `0` although no SGR code has that value.
-/

namespace Rosmon.Terminal

/-! ## Digits -/

theorem isDigit_iff (d : UInt8) : isDigit d = true ↔ 0x30 ≤ d.toNat ∧ d.toNat ≤ 0x39 := by
  simp [isDigit, UInt8.le_def, BitVec.le_def]
  rfl

/-- A digit is none of the bytes outside `'0' … '9'`. -/
theorem ne_of_isDigit {d : UInt8} (h : isDigit d = true) (c : UInt8)
    (hc : c.toNat < 0x30 ∨ 0x39 < c.toNat) : d ≠ c := by
  rintro rfl
  rw [isDigit_iff] at h
  omega

theorem isSpace_eq_false_of_isDigit {d : UInt8} (h : isDigit d = true) : isSpace d = false := by
  have h20 := ne_of_isDigit h 0x20 (by decide)
  rw [isDigit_iff] at h
  have h13 : ¬d ≤ 0x0D := fun hle => absurd (show d.toNat ≤ 0x0D from hle) (by omega)
  simp [isSpace, h20, h13]

private theorem foldl_digits_lt (t : List UInt8) (h : ∀ d ∈ t, isDigit d = true) (acc : Nat) :
    t.foldl (fun acc d => 10 * acc + (d.toNat - 0x30)) acc < (acc + 1) * 10 ^ t.length := by
  induction t generalizing acc with
  | nil => simp
  | cons d t ih =>
    have hd := (isDigit_iff d).1 (h d (List.mem_cons_self _ _))
    calc _ < (10 * acc + (d.toNat - 0x30) + 1) * 10 ^ t.length :=
          ih (fun x hx => h x (List.mem_cons_of_mem _ hx)) _
      _ ≤ (acc + 1) * 10 * 10 ^ t.length := Nat.mul_le_mul_right _ (by omega)
      _ = (acc + 1) * 10 ^ (d :: t).length := by
        rw [List.length_cons, Nat.pow_succ, Nat.mul_assoc, Nat.mul_comm 10]

/-- A string of `n` digits has a value below `10 ^ n`. -/
theorem decimalValue_lt (t : List UInt8) (h : ∀ d ∈ t, isDigit d = true) :
    decimalValue t < 10 ^ t.length := by
  simpa using foldl_digits_lt t h 0

/-! ## `strtoul` on a numeral -/

/-- On a non-empty digit string whose value fits, `strtoul` returns the value and
`endptr` points past the last digit. -/
theorem strtoul_digits {t : List UInt8} (hne : t ≠ []) (h : ∀ d ∈ t, isDigit d = true)
    (hv : decimalValue t ≤ ulongMax) : strtoul t = ⟨decimalValue t, t.length, false⟩ := by
  obtain ⟨d, t', rfl⟩ := List.exists_cons_of_ne_nil hne
  have hd := h d (List.mem_cons_self _ _)
  have hws : (d :: t').takeWhile isSpace = [] := by simp [isSpace_eq_false_of_isDigit hd]
  have hsign : strtoulSign (d :: t') = (false, 0) := by
    simp [strtoulSign, ne_of_isDigit hd 0x2D (by decide), ne_of_isDigit hd 0x2B (by decide)]
  have hdig : (d :: t').takeWhile isDigit = d :: t' := List.takeWhile_eq_self_iff.2 h
  simp only [strtoul, hws, List.length_nil, List.drop_zero, hsign, hdig, Nat.zero_add,
    reduceCtorEq, if_false, not_lt.2 hv]

/-- A value below `2 ^ 31` survives the narrowing to `int` unchanged. -/
theorem intOfULong_of_lt {v : Nat} (h : v < 2 ^ 31) : intOfULong v = v := by
  unfold intOfULong
  rw [Nat.mod_eq_of_lt (by omega), if_pos h]

/-! ## Joining and splitting at `;` -/

theorem intercalate_cons_cons {α : Type} (x : α) (a b : List α) (l : List (List α)) :
    [x].intercalate (a :: b :: l) = a ++ x :: [x].intercalate (b :: l) := by
  simp [List.intercalate, List.intersperse_cons_cons]

/-- Each piece is a sublist of the joined list. -/
theorem sublist_intercalate {α : Type} (x : α) {t : List α} :
    ∀ {ls : List (List α)}, t ∈ ls → t.Sublist ([x].intercalate ls)
  | [_], ht => by simp_all [List.intercalate]
  | a :: b :: l, ht => by
    rw [intercalate_cons_cons]
    rcases List.mem_cons.1 ht with rfl | ht
    · exact List.sublist_append_left _ _
    · exact (sublist_intercalate x ht).trans ((List.sublist_cons_self _ _).trans
        (List.sublist_append_right _ _))

/-- A byte of the joined list is the separator or a byte of one of the pieces. -/
theorem mem_intercalate {α : Type} {x b : α} :
    ∀ {ls : List (List α)}, b ∈ [x].intercalate ls → b = x ∨ ∃ t ∈ ls, b ∈ t
  | [], h => by simp [List.intercalate] at h
  | [a], h => .inr ⟨a, by simpa [List.intercalate] using h⟩
  | a :: b' :: l, h => by
    rw [intercalate_cons_cons, List.mem_append, List.mem_cons] at h
    rcases h with h | h | h
    · exact .inr ⟨a, List.mem_cons_self _ _, h⟩
    · exact .inl h
    · rcases mem_intercalate h with h | ⟨t, ht, hb⟩
      · exact .inl h
      · exact .inr ⟨t, List.mem_cons_of_mem _ ht, hb⟩

/-- The tokenizer returns the non-empty numerals of a `;`-joined list. -/
theorem tokenize_intercalate (ps : List (List UInt8)) (hne : ps ≠ [])
    (hx : ∀ t ∈ ps, (0x3B : UInt8) ∉ t) :
    tokenize ([0x3B].intercalate ps) = ps.filter (· ≠ []) := by
  unfold tokenize
  rw [List.splitOn_intercalate ps _ hx hne]

/-! ## `parseSetAttributes` on numerals -/

namespace Parser

/-- The loop over digit tokens whose values fit an `unsigned long` never takes the
error exit. -/
theorem parseSetAttributes_go_digits (p : Parser) (toks : List (List UInt8))
    (h : ∀ t ∈ toks, t ≠ [] ∧ (∀ d ∈ t, isDigit d = true) ∧ decimalValue t ≤ ulongMax) :
    parseSetAttributes.go p toks =
      toks.foldl (fun p t => p.setAttribute (intOfULong (decimalValue t))) p := by
  induction toks generalizing p with
  | nil => rfl
  | cons t toks ih =>
    obtain ⟨hne, hd, hv⟩ := h t (List.mem_cons_self _ _)
    simp only [parseSetAttributes.go, strtoul_digits hne hd hv,
      List.getD_eq_default _ _ (le_refl _), bne_self_eq_false, Bool.or_self, Bool.false_eq_true,
      if_false, List.foldl_cons]
    exact ih _ fun t' ht' => h t' (List.mem_cons_of_mem _ ht')

/-- **`parseSetAttributes` on numerals.** For a buffer of `;`-separated digit strings
(it holds at most fifteen bytes when the `m` arrives), the non-empty numerals are
applied in order, each as the `int` that `strtoul`'s result is narrowed to. -/
theorem parseSetAttributes_numerals (p : Parser) (ps : List (List UInt8)) (hne : ps ≠ [])
    (hd : ∀ t ∈ ps, ∀ d ∈ t, isDigit d = true) (hlen : ([0x3B].intercalate ps).length ≤ 15) :
    p.parseSetAttributes ([0x3B].intercalate ps) =
      (ps.filter (· ≠ [])).foldl (fun p t => p.setAttribute (intOfULong (decimalValue t))) p := by
  have hsemi : ∀ t ∈ ps, (0x3B : UInt8) ∉ t := fun t ht hm =>
    ne_of_isDigit (hd t ht _ hm) 0x3B (by decide) rfl
  unfold parseSetAttributes
  rw [tokenize_intercalate ps hne hsemi]
  refine parseSetAttributes_go_digits p _ fun t ht => ?_
  obtain ⟨htps, htne⟩ := List.mem_filter.1 ht
  have hlt := decimalValue_lt t (hd t htps)
  have hle : t.length ≤ 15 := ((sublist_intercalate 0x3B htps).length_le).trans hlen
  refine ⟨by simpa using htne, hd t htps, ?_⟩
  calc decimalValue t ≤ 10 ^ 15 := hlt.le.trans (Nat.pow_le_pow_right (by decide) hle)
    _ ≤ ulongMax := by decide

/-! ## The error exit -/

/-- **The error exit.** When `strtoul` reads every token before some token completely and in
range, and that token not, the loop applies the tokens before it, then unsets both colours
and never reads the rest; the bold flag keeps what the tokens before it made it. -/
theorem parseSetAttributes_error_exit (p : Parser) (str : List UInt8)
    (before after : List (List UInt8)) (bad : List UInt8)
    (htok : tokenize str = before ++ bad :: after)
    (hok : ∀ t ∈ before, (strtoul t).erange = false ∧ t.getD (strtoul t).endOffset 0 = 0)
    (hbad : (strtoul bad).erange = true ∨ bad.getD (strtoul bad).endOffset 0 ≠ 0) :
    p.parseSetAttributes str =
      { before.foldl (fun p t => p.setAttribute (intOfULong (strtoul t).value)) p with
        fgColor := -1, bgColor := -1 } := by
  unfold parseSetAttributes
  rw [htok]
  clear htok
  induction before generalizing p with
  | nil =>
    have hexit : ((strtoul bad).erange || bad.getD (strtoul bad).endOffset 0 != 0) = true := by
      rw [Bool.or_eq_true, bne_iff_ne]; exact hbad
    simp only [List.nil_append, parseSetAttributes.go, hexit, if_true, List.foldl_nil]
  | cons t ts ih =>
    obtain ⟨h1, h2⟩ := hok t (List.mem_cons_self _ _)
    simp only [List.cons_append, parseSetAttributes.go, h1, h2, bne_self_eq_false, Bool.or_false,
      Bool.false_eq_true, if_false, List.foldl_cons]
    exact ih _ fun t' ht' => hok t' (List.mem_cons_of_mem _ ht')

/-- `1 ; x ; 31`: code `1` sets bold, `x` takes the error exit, and `31` is never read. -/
theorem parseSetAttributes_error_exit_bold :
    tokenize [0x31, 0x3B, 0x78, 0x3B, 0x33, 0x31] = [[0x31]] ++ [0x78] :: [[0x33, 0x31]] ∧
      new.parseSetAttributes [0x31, 0x3B, 0x78, 0x3B, 0x33, 0x31] =
        { [[0x31]].foldl (fun p t => p.setAttribute (intOfULong (strtoul t).value)) new with
          fgColor := -1, bgColor := -1 } :=
  ⟨by decide, parseSetAttributes_error_exit new _ [[0x31]] [[0x33, 0x31]] [0x78] (by decide)
    (by decide) (by decide)⟩

/-- `ESC [ 4294967326 m`: the numeral is `2 ^ 32 + 30`, and the narrowing to `int`
makes it code 30, foreground colour 0. -/
theorem parseSetAttributes_narrows :
    decimalValue [0x34, 0x32, 0x39, 0x34, 0x39, 0x36, 0x37, 0x33, 0x32, 0x36] = 2 ^ 32 + 30 ∧
      (new.parseString [0x1B, 0x5B, 0x34, 0x32, 0x39, 0x34, 0x39, 0x36, 0x37, 0x33, 0x32, 0x36,
        0x6D]).fgColor = 0 := by
  decide

end Parser

end Rosmon.Terminal

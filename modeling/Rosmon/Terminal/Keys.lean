import Rosmon.Terminal.Parser

/-!
# Rosmon — reading keys from the terminal

`Terminal::readKey` reads one byte from standard input per call and turns the
escape sequences of function keys back into keys. The sequences come from the
terminfo database: the constructor registers the strings of `kf1` … `kf12` and
`kbs` in `m_specialKeys`. An `ESC` starts collecting bytes in
`m_currentEscapeStr`; each further byte is appended, and the buffer is compared
with every registered string: no string starts with it — the buffer is
dropped; one string equals it — that key is returned; otherwise collecting goes
on. Every byte that does not complete a key is also returned as itself.

Two representation gaps: `terminal.h` is not in the sources, so
`Terminal::SpecialKey` is the type `SpecialKey` of the keys the constructor
registers, and the `int` that `readKey` returns is the sum `KeyCode` (a failed
`read`, a byte as the signed `char` of x86 promoted to `int`, or a key). The
`std::map` is a list of entries with distinct strings; what `readKey` does
does not depend on their order (`matchLoop_eq_zero`, `matchLoop_complete`,
`matchLoop_last`).

* `escapeStr_bounded` — over any input, the buffer is empty, a lone `ESC`, or
  a proper prefix of a registered string: it never outgrows the longest key;
* `readRun_special_sound` — a key is only reported when the bytes just read
  end with its registered string, or for byte `0x7F`;
* `readRun_presses` — a stream of plain bytes and presses of recognised keys
  (registered strings of two bytes or more starting with `ESC`, none of whose
  proper prefixes of two bytes or more is registered) is read back as the
  bytes and keys pressed;
* `readRun_escape_escape` — an `ESC` read while another is pending drops it,
  and the bytes up to the next `ESC` are read as plain bytes: a function key
  pressed right after the Escape key is lost.
-/

namespace Rosmon.Terminal

/-- The keys the constructor registers: `SK_F1 + i` for `kf(i+1)`, and `SK_Backspace`. -/
inductive SpecialKey
  | fn (i : Fin 12)
  | backspace
  deriving DecidableEq, Repr

/-- What `readKey` returns. -/
inductive KeyCode
  /-- `-1`: `read` did not return one byte. -/
  | fail
  /-- A byte, as the signed `char` it is read into, promoted to `int`. -/
  | char (c : Int)
  /-- A special key. -/
  | special (k : SpecialKey)
  deriving DecidableEq, Repr

/-- `m_specialKeys`, a `std::map<std::string, SpecialKey>`: at most one entry per string. -/
structure KeyMap where
  entries : List (List UInt8 × SpecialKey)
  nodup : (entries.map Prod.fst).Nodup

namespace KeyMap

/-- The table of a freshly constructed `Terminal`. -/
def empty : KeyMap := ⟨[], List.nodup_nil⟩

/-- `m_specialKeys[code] = key`. -/
def set (m : KeyMap) (code : List UInt8) (key : SpecialKey) : KeyMap :=
  ⟨m.entries.filter (·.1 ≠ code) ++ [(code, key)], by
    rw [List.map_append, List.nodup_append]
    refine ⟨m.nodup.sublist ((List.filter_sublist _).map _), List.nodup_singleton _, ?_⟩
    simp only [List.map_cons, List.map_nil, List.disjoint_singleton, List.mem_map, List.mem_filter]
    rintro ⟨e, ⟨-, he⟩, rfl⟩
    exact of_decide_eq_true he rfl⟩

theorem mem_set (m : KeyMap) (code c : List UInt8) (key k : SpecialKey) :
    (c, k) ∈ (m.set code key).entries ↔ (c = code ∧ k = key) ∨ (c ≠ code ∧ (c, k) ∈ m.entries) := by
  simp only [set, List.mem_append, List.mem_filter, List.mem_singleton, Prod.mk.injEq,
    decide_eq_true_eq]
  tauto

/-- Two entries with the same string are the same entry. -/
theorem key_unique (m : KeyMap) {c : List UInt8} {k k' : SpecialKey} (h : (c, k) ∈ m.entries)
    (h' : (c, k') ∈ m.entries) : k = k' :=
  congrArg Prod.snd (List.inj_on_of_nodup_map m.nodup h h' rfl)

end KeyMap

/-- `registerKey`: the string of capability `name` is registered for `key` when `tigetstr`
returns one (not `NULL`, not `(char*)-1`). -/
def registerKey (tigetstr : String → Option (List UInt8)) (m : KeyMap) (name : String)
    (key : SpecialKey) : KeyMap :=
  match tigetstr name with
  | some code => m.set code key
  | none => m

/-- The table the constructor builds: `kf1` … `kf12`, then `kbs`. -/
def specialKeys (tigetstr : String → Option (List UInt8)) : KeyMap :=
  registerKey tigetstr
    ((List.finRange 12).foldl
      (fun m i => registerKey tigetstr m ("kf" ++ toString (i.val + 1)) (.fn i)) .empty)
    "kbs" .backspace

/-- The `char` a byte is read into, as an `int` (`char` is signed on x86). -/
def signedChar (c : UInt8) : Int := if c.toNat < 128 then c.toNat else c.toNat - 256

/-- The end of `readKey` for a byte that completes no key: `0x7F` (ASCII delete) is
`SK_Backspace`, any other byte is itself. -/
def plainKey (c : UInt8) : KeyCode := if c = 0x7F then .special .backspace else .char (signedChar c)

/-- The loop over `m_specialKeys`: `matches` (here `matchCount`, `matches` being a Lean
keyword) counts the strings the buffer is a prefix of, `lastMatch` is the key of the last of
them, and the loop breaks at a string equal to the buffer, with `completeMatch` set. -/
def matchLoop (buf : List UInt8) :
    List (List UInt8 × SpecialKey) → Nat → Option SpecialKey → Bool → Nat × Option SpecialKey × Bool
  | [], matchCount, lastMatch, completeMatch => (matchCount, lastMatch, completeMatch)
  | (code, key) :: rest, matchCount, lastMatch, completeMatch =>
    if buf.length > code.length then matchLoop buf rest matchCount lastMatch completeMatch
    else if code.take buf.length = buf then
      if buf.length = code.length then (matchCount + 1, some key, true)
      else matchLoop buf rest (matchCount + 1) (some key) completeMatch
    else matchLoop buf rest matchCount lastMatch completeMatch

/-- `Terminal::readKey` with `m_currentEscapeStr = escapeStr`, after `read` returned the byte
`c` (`none`: it did not return one byte). A complete match returns `lastMatch`, which is
`-1` if no string set it. -/
def readKey (keys : KeyMap) (escapeStr : List UInt8) : Option UInt8 → List UInt8 × KeyCode
  | none => (escapeStr, .fail)
  | some c =>
    if escapeStr = [] ∧ c = 0x1B then ([c], plainKey c)
    else if escapeStr ≠ [] then
      let r := matchLoop (escapeStr ++ [c]) keys.entries 0 none false
      if r.1 = 0 then ([], plainKey c)
      else if r.2.2 then
        ([], match r.2.1 with
          | some k => .special k
          | none => .fail)
      else (escapeStr ++ [c], plainKey c)
    else (escapeStr, plainKey c)

/-- Successive calls of `readKey`: the buffer after them, and what each returned. -/
def readRun (keys : KeyMap) : List UInt8 → List (Option UInt8) → List UInt8 × List KeyCode
  | buf, [] => (buf, [])
  | buf, c :: cs => ((readRun keys (readKey keys buf c).1 cs).1,
      (readKey keys buf c).2 :: (readRun keys (readKey keys buf c).1 cs).2)

/-! ## The loop over the table -/

/-- The test of the loop body is `IsPrefix`. -/
theorem matchTest_iff (buf code : List UInt8) :
    (¬buf.length > code.length ∧ code.take buf.length = buf) ↔ buf <+: code := by
  rw [List.prefix_iff_eq_take]
  exact ⟨fun h => h.2.symm, fun h => ⟨fun hl => by
    have := congrArg List.length h
    rw [List.length_take] at this
    omega, h.symm⟩⟩

theorem matchLoop_eq_zero (buf : List UInt8) (l : List (List UInt8 × SpecialKey)) (n : Nat)
    (last : Option SpecialKey) (cpl : Bool) :
    (matchLoop buf l n last cpl).1 = 0 ↔ n = 0 ∧ ∀ e ∈ l, ¬buf <+: e.1 := by
  induction l generalizing n last with
  | nil => simp [matchLoop]
  | cons e l ih =>
    obtain ⟨code, key⟩ := e
    have ht := matchTest_iff buf code
    simp only [matchLoop]
    rw [List.forall_mem_cons]
    split_ifs with h1 h2 h3
    · have hp : ¬buf <+: code := fun hp => absurd hp.length_le (not_le.2 h1)
      rw [ih]
      simp only [hp, not_false_eq_true, true_and]
    · exact iff_of_false (Nat.add_one_ne_zero n) fun h => h.2.1 (ht.1 ⟨h1, h2⟩)
    · rw [ih]
      exact iff_of_false (fun h => Nat.add_one_ne_zero n h.1) fun h => h.2.1 (ht.1 ⟨h1, h2⟩)
    · have hp : ¬buf <+: code := fun hp => h2 (ht.2 hp).2
      rw [ih]
      simp only [hp, not_false_eq_true, true_and]

theorem matchLoop_complete (buf : List UInt8) (l : List (List UInt8 × SpecialKey)) (n : Nat)
    (last : Option SpecialKey) :
    (matchLoop buf l n last false).2.2 = true ↔ ∃ k, (buf, k) ∈ l := by
  induction l generalizing n last with
  | nil => simp [matchLoop]
  | cons e l ih =>
    obtain ⟨code, key⟩ := e
    have ht := matchTest_iff buf code
    simp only [matchLoop, List.mem_cons, Prod.mk.injEq]
    split_ifs with h1 h2 h3
    · rw [ih]
      exact ⟨fun ⟨k, hk⟩ => ⟨k, .inr hk⟩, fun ⟨k, hk⟩ => hk.elim (fun h => by
        rw [← h.1] at h1; exact absurd h1 (lt_irrefl _)) (⟨k, ·⟩)⟩
    · exact ⟨fun _ => ⟨key, .inl ⟨(ht.1 ⟨h1, h2⟩).eq_of_length h3, rfl⟩⟩, fun _ => rfl⟩
    · rw [ih]
      exact ⟨fun ⟨k, hk⟩ => ⟨k, .inr hk⟩, fun ⟨k, hk⟩ => hk.elim (fun h => by
        rw [← h.1] at h3; exact absurd rfl h3) (⟨k, ·⟩)⟩
    · rw [ih]
      exact ⟨fun ⟨k, hk⟩ => ⟨k, .inr hk⟩, fun ⟨k, hk⟩ => hk.elim (fun h => by
        rw [← h.1, List.take_length] at h2; exact absurd rfl h2) (⟨k, ·⟩)⟩

/-- With one entry per string, a complete match returns the key of the string equal to the
buffer. -/
theorem matchLoop_last (buf : List UInt8) (l : List (List UInt8 × SpecialKey))
    (hnd : (l.map Prod.fst).Nodup) {k : SpecialKey} (hk : (buf, k) ∈ l) (n : Nat)
    (last : Option SpecialKey) (cpl : Bool) : (matchLoop buf l n last cpl).2.1 = some k := by
  induction l generalizing n last with
  | nil => simp at hk
  | cons e l ih =>
    obtain ⟨code, key⟩ := e
    rw [List.map_cons, List.nodup_cons] at hnd
    simp only [matchLoop]
    by_cases he : code = buf
    · subst he
      have hkey : k = key := by
        rcases List.mem_cons.1 hk with h | h
        · exact (Prod.mk.inj h).2
        · exact absurd (List.mem_map_of_mem Prod.fst h) hnd.1
      simp [hkey]
    · have hk' : (buf, k) ∈ l := (List.mem_cons.1 hk).resolve_left fun h => he (Prod.mk.inj h).1.symm
      split_ifs with h1 h2 h3
      · exact ih hnd.2 hk' _ _
      · exact absurd ((List.prefix_iff_eq_take.2 h2.symm).eq_of_length h3).symm he
      · exact ih hnd.2 hk' _ _
      · exact ih hnd.2 hk' _ _

/-! ## One call -/

theorem readKey_idle (keys : KeyMap) (c : UInt8) :
    readKey keys [] (some c) = (if c = 0x1B then [0x1B] else [], plainKey c) := by
  by_cases hc : c = 0x1B <;> simp [readKey, hc]

theorem readKey_noMatch (keys : KeyMap) {buf : List UInt8} (hbuf : buf ≠ []) {c : UInt8}
    (h : ∀ e ∈ keys.entries, ¬buf ++ [c] <+: e.1) : readKey keys buf (some c) = ([], plainKey c) := by
  have h0 := (matchLoop_eq_zero (buf ++ [c]) keys.entries 0 none false).2 ⟨rfl, h⟩
  simp [readKey, hbuf, h0]

theorem readKey_complete (keys : KeyMap) {buf : List UInt8} (hbuf : buf ≠ []) {c : UInt8}
    {k : SpecialKey} (hk : (buf ++ [c], k) ∈ keys.entries) :
    readKey keys buf (some c) = ([], .special k) := by
  have hne : (matchLoop (buf ++ [c]) keys.entries 0 none false).1 ≠ 0 := fun h =>
    ((matchLoop_eq_zero _ _ _ _ _).1 h).2 _ hk (List.prefix_refl _)
  have hc := (matchLoop_complete (buf ++ [c]) keys.entries 0 none).2 ⟨k, hk⟩
  have hl := matchLoop_last (buf ++ [c]) keys.entries keys.nodup hk 0 none false
  simp [readKey, hbuf, hne, hc, hl]

theorem readKey_partial (keys : KeyMap) {buf : List UInt8} (hbuf : buf ≠ []) {c : UInt8}
    {code : List UInt8} {key : SpecialKey} (hmem : (code, key) ∈ keys.entries)
    (hpre : buf ++ [c] <+: code) (hno : ∀ k, (buf ++ [c], k) ∉ keys.entries) :
    readKey keys buf (some c) = (buf ++ [c], plainKey c) := by
  have hne : (matchLoop (buf ++ [c]) keys.entries 0 none false).1 ≠ 0 := fun h =>
    ((matchLoop_eq_zero _ _ _ _ _).1 h).2 _ hmem hpre
  have hc : (matchLoop (buf ++ [c]) keys.entries 0 none false).2.2 = false := by
    rw [← Bool.not_eq_true, matchLoop_complete]
    exact fun ⟨k, hk⟩ => hno k hk
  simp [readKey, hbuf, hne, hc]

/-- Every call is one of the four cases above. -/
theorem readKey_cases (keys : KeyMap) (buf : List UInt8) (c : UInt8) :
    (buf = [] ∧ readKey keys buf (some c) = (if c = 0x1B then [0x1B] else [], plainKey c)) ∨
    (buf ≠ [] ∧ (∀ e ∈ keys.entries, ¬buf ++ [c] <+: e.1) ∧
      readKey keys buf (some c) = ([], plainKey c)) ∨
    (∃ k, buf ≠ [] ∧ (buf ++ [c], k) ∈ keys.entries ∧
      readKey keys buf (some c) = ([], .special k)) ∨
    (buf ≠ [] ∧ (∃ e ∈ keys.entries, buf ++ [c] <+: e.1 ∧ buf ++ [c] ≠ e.1) ∧
      readKey keys buf (some c) = (buf ++ [c], plainKey c)) := by
  by_cases hbuf : buf = []
  · subst hbuf; exact .inl ⟨rfl, readKey_idle keys c⟩
  by_cases hk : ∃ k, (buf ++ [c], k) ∈ keys.entries
  · obtain ⟨k, hk⟩ := hk
    exact .inr (.inr (.inl ⟨k, hbuf, hk, readKey_complete keys hbuf hk⟩))
  push_neg at hk
  by_cases hp : ∃ e ∈ keys.entries, buf ++ [c] <+: e.1
  · obtain ⟨⟨code, key⟩, hmem, hpre⟩ := hp
    refine .inr (.inr (.inr ⟨hbuf, ⟨_, hmem, hpre, fun h => hk key (h ▸ hmem)⟩,
      readKey_partial keys hbuf hmem hpre hk⟩))
  · push_neg at hp
    exact .inr (.inl ⟨hbuf, hp, readKey_noMatch keys hbuf hp⟩)

theorem plainKey_eq_special {c : UInt8} {k : SpecialKey} (h : plainKey c = .special k) :
    c = 0x7F ∧ k = .backspace := by
  unfold plainKey at h
  split_ifs at h with hc
  · exact ⟨hc, (KeyCode.special.inj h).symm⟩

/-! ## Runs -/

@[simp] theorem readRun_nil (keys : KeyMap) (buf : List UInt8) : readRun keys buf [] = (buf, []) :=
  rfl

theorem readRun_cons (keys : KeyMap) (buf : List UInt8) (c : Option UInt8)
    (cs : List (Option UInt8)) :
    readRun keys buf (c :: cs) = ((readRun keys (readKey keys buf c).1 cs).1,
      (readKey keys buf c).2 :: (readRun keys (readKey keys buf c).1 cs).2) := rfl

/-- What `m_currentEscapeStr` holds between two calls: nothing, a lone `ESC`, or a proper
prefix, starting with `ESC`, of a registered string. -/
def Pending (keys : KeyMap) (buf : List UInt8) : Prop :=
  buf = [] ∨ buf = [0x1B] ∨
    (buf.head? = some 0x1B ∧ ∃ e ∈ keys.entries, buf <+: e.1 ∧ buf.length < e.1.length)

theorem Pending.head {keys : KeyMap} {buf : List UInt8} (h : Pending keys buf) (hbuf : buf ≠ []) :
    buf.head? = some 0x1B := by
  rcases h with h | rfl | ⟨h, -⟩
  · exact absurd h hbuf
  · rfl
  · exact h

theorem pending_readKey (keys : KeyMap) {buf : List UInt8} (h : Pending keys buf)
    (c : Option UInt8) : Pending keys (readKey keys buf c).1 := by
  cases c with
  | none => exact h
  | some c =>
    rcases readKey_cases keys buf c with ⟨-, he⟩ | ⟨-, -, he⟩ | ⟨k, -, -, he⟩ | ⟨hbuf, ⟨e, he, hp, hne⟩, hr⟩
    · rw [he]
      split_ifs
      · exact .inr (.inl rfl)
      · exact .inl rfl
    · rw [he]; exact .inl rfl
    · rw [he]; exact .inl rfl
    · rw [hr]
      refine .inr (.inr ⟨?_, e, he, hp, ?_⟩)
      · rw [List.head?_append, h.head hbuf]; rfl
      · exact lt_of_le_of_ne hp.length_le fun hl => hne (hp.eq_of_length hl)

theorem pending_readRun (keys : KeyMap) {buf : List UInt8} (h : Pending keys buf)
    (cs : List (Option UInt8)) : Pending keys (readRun keys buf cs).1 := by
  induction cs generalizing buf with
  | nil => exact h
  | cons c cs ih => exact ih (pending_readKey keys h c)

/-- **The escape buffer.** Whatever bytes arrive, and whichever `read`s fail, after any run
from the empty buffer `m_currentEscapeStr` is empty, a lone `ESC`, or a proper prefix starting
with `ESC` of a registered string: it never grows past the longest key. -/
theorem escapeStr_bounded (keys : KeyMap) (ins : List (Option UInt8)) :
    (readRun keys [] ins).1 = [] ∨ (readRun keys [] ins).1 = [0x1B] ∨
      ((readRun keys [] ins).1.head? = some 0x1B ∧ ∃ e ∈ keys.entries,
        (readRun keys [] ins).1 <+: e.1 ∧ (readRun keys [] ins).1.length < e.1.length) :=
  pending_readRun keys (.inl rfl) ins

/-- The buffer is always the end of the bytes read so far. -/
theorem suffix_readRun (keys : KeyMap) {buf read : List UInt8} (h : buf <:+ read)
    (cs : List (Option UInt8)) : (readRun keys buf cs).1 <:+ read ++ cs.filterMap id := by
  induction cs generalizing buf read with
  | nil => simpa using h
  | cons c cs ih =>
    cases c with
    | none => simpa using ih h
    | some c =>
      have hstep : (readKey keys buf (some c)).1 <:+ read ++ [c] := by
        rcases readKey_cases keys buf c with ⟨-, he⟩ | ⟨-, -, he⟩ | ⟨k, -, -, he⟩ | ⟨-, -, he⟩
        · rw [he]
          split_ifs with hc
          · exact hc ▸ List.suffix_append _ _
          · exact List.nil_suffix
        · rw [he]; exact List.nil_suffix
        · rw [he]; exact List.nil_suffix
        · obtain ⟨t, rfl⟩ := h
          rw [he]
          exact ⟨t, by simp⟩
      simpa using ih hstep

/-- **Soundness.** At any point of any run from the empty buffer, `readKey` reports a key only
for byte `0x7F` (as `SK_Backspace`) or when the bytes read last are that key's registered
string, which starts with `ESC`. -/
theorem readRun_special_sound (keys : KeyMap) (pre : List (Option UInt8)) (c : UInt8)
    (k : SpecialKey) (h : (readKey keys (readRun keys [] pre).1 (some c)).2 = .special k) :
    (c = 0x7F ∧ k = .backspace) ∨
      ∃ code, (code, k) ∈ keys.entries ∧ code.head? = some 0x1B ∧
        code <:+ pre.filterMap id ++ [c] := by
  have hpend := pending_readRun keys (.inl rfl) pre
  have hsuf := suffix_readRun keys (List.nil_suffix (l := [])) pre
  rw [List.nil_append] at hsuf
  rcases readKey_cases keys (readRun keys [] pre).1 c with
    ⟨-, he⟩ | ⟨-, -, he⟩ | ⟨k', hbuf, hk, he⟩ | ⟨-, -, he⟩
  · rw [he] at h; exact .inl (plainKey_eq_special h)
  · rw [he] at h; exact .inl (plainKey_eq_special h)
  · rw [he, KeyCode.special.injEq] at h
    subst h
    obtain ⟨t, ht⟩ := hsuf
    refine .inr ⟨_, hk, by rw [List.head?_append, hpend.head hbuf]; rfl, t, ?_⟩
    rw [← ht, List.append_assoc]
  · rw [he] at h; exact .inl (plainKey_eq_special h)

/-- With xterm's `kf1` (`ESC O P`) registered, the third byte of `ESC O P` reports `F1`, whose
string ends the bytes read. -/
theorem readRun_special_sound_f1 :
    (readKey (specialKeys fun name => if name = "kf1" then some [0x1B, 0x4F, 0x50] else none)
        (readRun (specialKeys fun name => if name = "kf1" then some [0x1B, 0x4F, 0x50] else none)
          [] [some 0x1B, some 0x4F]).1 (some 0x50)).2 = .special (.fn 0) ∧
      ((0x50 : UInt8) = 0x7F ∧ SpecialKey.fn 0 = .backspace ∨
        ∃ code, (code, SpecialKey.fn 0) ∈ (specialKeys fun name =>
            if name = "kf1" then some [0x1B, 0x4F, 0x50] else none).entries ∧
          code.head? = some 0x1B ∧ code <:+ [some 0x1B, some 0x4F].filterMap id ++ [0x50]) :=
  ⟨by decide, readRun_special_sound _ [some 0x1B, some 0x4F] 0x50 (.fn 0) (by decide)⟩

/-! ## Reading keys back -/

/-- Bytes other than `ESC` read from the empty buffer come back as themselves. -/
theorem readRun_plain (keys : KeyMap) (s : List UInt8) (hs : (0x1B : UInt8) ∉ s)
    (rest : List (Option UInt8)) :
    readRun keys [] (s.map some ++ rest) =
      ((readRun keys [] rest).1, s.map plainKey ++ (readRun keys [] rest).2) := by
  induction s with
  | nil => rfl
  | cons c s ih =>
    rw [List.mem_cons, not_or] at hs
    rw [List.map_cons, List.cons_append, readRun_cons, readKey_idle, if_neg (Ne.symm hs.1),
      ih hs.2]
    rfl

/-- A registered string none of whose proper prefixes of two bytes or more is registered. -/
def Recognised (keys : KeyMap) (code : List UInt8) (key : SpecialKey) : Prop :=
  (code, key) ∈ keys.entries ∧ code.head? = some 0x1B ∧ 2 ≤ code.length ∧
    ∀ e ∈ keys.entries, e.1 <+: code → e.1.length < 2 ∨ e.1 = code

instance (keys : KeyMap) (code : List UInt8) (key : SpecialKey) :
    Decidable (Recognised keys code key) :=
  inferInstanceAs (Decidable (_ ∧ _))

/-- The rest `t` of a recognised string, read with its beginning `buf` in the buffer. -/
theorem readRun_rest (keys : KeyMap) {code : List UInt8} {key : SpecialKey}
    (hk : Recognised keys code key) (rest : List (Option UInt8)) :
    ∀ (t buf : List UInt8), buf ≠ [] → t ≠ [] → buf ++ t = code →
      readRun keys buf (t.map some ++ rest) =
        ((readRun keys [] rest).1, t.dropLast.map plainKey ++ .special key :: (readRun keys [] rest).2)
  | [], _, _, ht, _ => absurd rfl ht
  | [c], buf, hbuf, _, hcode => by
    rw [List.map_singleton, List.singleton_append, readRun_cons,
      readKey_complete keys hbuf (hcode ▸ hk.1)]
    rfl
  | c :: c' :: t, buf, hbuf, _, hcode => by
    have hprefix : buf ++ [c] <+: code := ⟨c' :: t, by rw [← hcode]; simp⟩
    have hno : ∀ k, (buf ++ [c], k) ∉ keys.entries := fun k hk' => by
      rcases hk.2.2.2 _ hk' hprefix with hl | he
      · have := List.length_pos.2 hbuf
        simp only [List.length_append, List.length_singleton] at hl
        omega
      · have := congrArg List.length (he.trans hcode.symm)
        simp at this
    rw [List.map_cons, List.cons_append, readRun_cons, readKey_partial keys hbuf hk.1 hprefix hno,
      readRun_rest keys hk rest (c' :: t) (buf ++ [c])
        (by simp) (by simp) (by rw [← hcode]; simp)]
    simp

/-- **Completeness for one key.** From the empty buffer, the bytes of a recognised string are
read as all its bytes but the last, then the key; the buffer is empty again for what follows. -/
theorem readRun_key (keys : KeyMap) {code : List UInt8} {key : SpecialKey}
    (hk : Recognised keys code key) (rest : List (Option UInt8)) :
    readRun keys [] (code.map some ++ rest) =
      ((readRun keys [] rest).1, code.dropLast.map plainKey ++ .special key :: (readRun keys [] rest).2) := by
  have hlen := hk.2.2.1
  obtain ⟨c, t, rfl⟩ :=
    List.exists_cons_of_ne_nil (List.ne_nil_of_length_pos (show 0 < code.length by omega))
  obtain rfl : c = 0x1B := by simpa using hk.2.1
  have ht : t ≠ [] := List.ne_nil_of_length_pos (by simp at hlen; omega)
  rw [List.map_cons, List.cons_append, readRun_cons, readKey_idle, if_pos rfl,
    readRun_rest keys hk rest t [0x1B] (List.cons_ne_nil _ _) ht rfl, List.dropLast_cons_of_ne_nil ht]
  rfl

/-- What is typed: a plain byte, or a key whose registered string the terminal sends. -/
inductive Press
  | byte (c : UInt8)
  | key (code : List UInt8) (k : SpecialKey)

/-- The bytes a press puts on standard input. -/
def Press.bytes : Press → List UInt8
  | .byte c => [c]
  | .key code _ => code

/-- What `readKey` reports for a press: a byte as itself; a key as the bytes of its string
but the last, then the key. -/
def Press.reported : Press → List KeyCode
  | .byte c => [plainKey c]
  | .key code k => code.dropLast.map plainKey ++ [.special k]

/-- A press the table can read back: a byte other than `ESC`, or a recognised key. -/
def Press.Valid (keys : KeyMap) : Press → Prop
  | .byte c => c ≠ 0x1B
  | .key code k => Recognised keys code k

instance (keys : KeyMap) : DecidablePred (Press.Valid keys)
  | .byte c => inferInstanceAs (Decidable (c ≠ 0x1B))
  | .key code k => inferInstanceAs (Decidable (Recognised keys code k))

/-- **Completeness.** From the empty buffer, any sequence of plain bytes other than `ESC` and
recognised keys is reported press by press, and leaves the buffer empty. -/
theorem readRun_presses (keys : KeyMap) (ps : List Press) (hps : ∀ p ∈ ps, p.Valid keys) :
    readRun keys [] ((ps.flatMap Press.bytes).map some) = ([], ps.flatMap Press.reported) := by
  induction ps with
  | nil => rfl
  | cons p ps ih =>
    rw [List.forall_mem_cons] at hps
    rw [List.flatMap_cons, List.flatMap_cons, List.map_append]
    cases p with
    | byte c =>
      rw [Press.bytes, readRun_plain keys [c] fun h => hps.1 (List.mem_singleton.1 h).symm,
        ih hps.2]
      rfl
    | key code k => rw [Press.bytes, readRun_key keys hps.1, ih hps.2]; simp [Press.reported]

/-- `a`, then F1 (`ESC O P`), then `DEL`: read as `a`, `ESC`, `O`, `F1`, `SK_Backspace`. -/
theorem readRun_presses_f1 :
    (∀ p ∈ [Press.byte 0x61, .key [0x1B, 0x4F, 0x50] (.fn 0), .byte 0x7F],
      p.Valid (specialKeys fun name => if name = "kf1" then some [0x1B, 0x4F, 0x50] else none)) ∧
    readRun (specialKeys fun name => if name = "kf1" then some [0x1B, 0x4F, 0x50] else none) []
        (([Press.byte 0x61, .key [0x1B, 0x4F, 0x50] (.fn 0), .byte 0x7F].flatMap Press.bytes).map some) =
      ([], [Press.byte 0x61, .key [0x1B, 0x4F, 0x50] (.fn 0), .byte 0x7F].flatMap Press.reported) :=
  ⟨by decide, readRun_presses _ _ (by decide)⟩

/-- **A key after the Escape key.** When no registered string starts with two `ESC`s, an
`ESC` read while another is pending drops the pending one, and the bytes after it up to the
next `ESC` come back as plain bytes: a function key pressed right after the Escape key is
read as its bytes, never as the key. -/
theorem readRun_escape_escape (keys : KeyMap)
    (hkeys : ∀ e ∈ keys.entries, ¬[0x1B, 0x1B] <+: e.1) (s : List UInt8) (hs : (0x1B : UInt8) ∉ s) :
    readRun keys [] ((0x1B :: 0x1B :: s).map some) = ([], (0x1B :: 0x1B :: s).map plainKey) := by
  rw [List.map_cons, List.map_cons, readRun_cons, readKey_idle, if_pos rfl, readRun_cons,
    @readKey_noMatch keys [0x1B] (List.cons_ne_nil _ _) 0x1B hkeys, ← List.append_nil (s.map some),
    readRun_plain keys s hs]
  simp

/-- Escape, then F1 (`ESC O P`): read as the four bytes, never as `F1`. -/
theorem readRun_escape_escape_f1 :
    (∀ e ∈ (specialKeys fun name => if name = "kf1" then some [0x1B, 0x4F, 0x50] else none).entries,
      ¬[0x1B, 0x1B] <+: e.1) ∧ (0x1B : UInt8) ∉ [0x4F, 0x50] ∧
    readRun (specialKeys fun name => if name = "kf1" then some [0x1B, 0x4F, 0x50] else none) []
        ([0x1B, 0x1B, 0x4F, 0x50].map some) = ([], [0x1B, 0x1B, 0x4F, 0x50].map plainKey) :=
  ⟨by decide, by decide, readRun_escape_escape _ (by decide) [0x4F, 0x50] (by decide)⟩

end Rosmon.Terminal

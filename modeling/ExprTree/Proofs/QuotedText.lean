import Mathlib
import ExprTree.Text.Quoted

/-
  Quoted text reads back. Inside quoted text every character is written either as itself or as
  an escape that opens with a backslash: a backslash and the character, a backslash and a letter
  for tab, line feed and carriage return, or `\x`, `\u`, `\U` and two, four or eight hexadecimal
  digits of its code. `readChar` reads one written character back (`readChar_escapeChar`). No
  written character starts with the delimiter, since the delimiter and the backslash are always
  escaped, so the first delimiter after the opening one closes the text. Hence quoted text
  followed by anything determines both the text and what follows it (`quote_append_cancel`): the
  written form of a text is injective and delimits itself.
-/

namespace ExprTree.Text

/-! ## Hexadecimal digits -/

/-- The value of a lower-case hexadecimal digit. -/
def hexDigitValue (c : Char) : Nat :=
  if c.isDigit then c.toNat - '0'.toNat else c.toNat - 'a'.toNat + 10

/-- The number that a run of hexadecimal digits stands for. -/
def hexValue (cs : List Char) : Nat :=
  cs.foldl (fun n c => 16 * n + hexDigitValue c) 0

theorem hexDigitValue_digitChar {d : Nat} (h : d < 16) : hexDigitValue (Nat.digitChar d) = d := by
  interval_cases d <;> rfl

theorem hexValue_append_singleton (cs : List Char) (c : Char) :
    hexValue (cs ++ [c]) = 16 * hexValue cs + hexDigitValue c := by
  simp [hexValue, List.foldl_append]

theorem hexValue_toDigits (n : Nat) : hexValue (Nat.toDigits 16 n) = n := by
  induction n using Nat.base_induction 16 (by decide) with
  | single m hm => simp [Nat.toDigits_of_lt_base hm, hexValue, hexDigitValue_digitChar hm]
  | digit m k hk hm ih =>
    rw [← Nat.toDigits_append_toDigits (by decide) hm hk, Nat.toDigits_of_lt_base hk,
      hexValue_append_singleton, ih, hexDigitValue_digitChar hk]

/-- Leading zeros add nothing. -/
theorem hexValue_zeros_append (k : Nat) (cs : List Char) :
    hexValue (List.replicate k '0' ++ cs) = hexValue cs := by
  induction k with
  | zero => rfl
  | succ k ih =>
    rw [List.replicate_succ, List.cons_append, ← ih]
    rfl

/-- Below `16 ^ w` a number is written with exactly `w` digits, which read back as the number. -/
theorem hexDigits_reads {w n : Nat} (hw : 0 < w) (hn : n < 16 ^ w) :
    (hexDigits w n).toList.length = w ∧ hexValue (hexDigits w n).toList = n := by
  have hlen : (Nat.toDigits 16 n).length ≤ w := (Nat.length_toDigits_le_iff (by decide) hw).mpr hn
  constructor
  · simp only [hexDigits, String.toList_ofList, List.length_append, List.length_replicate]
    omega
  · simp only [hexDigits, String.toList_ofList, hexValue_zeros_append, hexValue_toDigits]

/-! ## Reading one written character -/

/-- Reads the character with the code written by the first `w` hexadecimal digits. -/
def readHex (w : Nat) (cs : List Char) : Char × List Char :=
  (Char.ofNat (hexValue (cs.take w)), cs.drop w)

/-- Reads the character that the escape after a backslash stands for: a letter for a control
character, a hexadecimal code, or the escaped character itself. -/
def readEscape : List Char → Option (Char × List Char)
  | [] => none
  | e :: cs =>
    if e = 't' then some ('\t', cs)
    else if e = 'n' then some ('\n', cs)
    else if e = 'r' then some ('\r', cs)
    else if e = 'x' then some (readHex 2 cs)
    else if e = 'u' then some (readHex 4 cs)
    else if e = 'U' then some (readHex 8 cs)
    else some (e, cs)

/-- Reads the character written at the front of quoted text: an escape after a backslash, or a
character that stands for itself. -/
def readChar : List Char → Option (Char × List Char)
  | [] => none
  | c :: cs => if c = '\\' then readEscape cs else some (c, cs)

theorem readHex_hexDigits {w : Nat} (hw : 0 < w) {c : Char} (hc : c.toNat < 16 ^ w)
    (cs : List Char) : readHex w ((hexDigits w c.toNat).toList ++ cs) = (c, cs) := by
  obtain ⟨hlen, hval⟩ := hexDigits_reads hw hc
  simp only [readHex, List.take_left' hlen, List.drop_left' hlen, hval, Char.ofNat_toNat]

/-- A hexadecimal escape, a backslash and the letter `e` followed by `w` digits, reads back as its
character. -/
theorem readChar_hexEscape {mark : String} {e : Char} (hmark : mark.toList = ['\\', e]) {w : Nat}
    (hread : ∀ cs, readEscape (e :: cs) = some (readHex w cs)) (hw : 0 < w) {c : Char}
    (hc : c.toNat < 16 ^ w) (cs : List Char) :
    readChar ((mark ++ hexDigits w c.toNat).toList ++ cs) = some (c, cs) := by
  rw [String.toList_append, hmark, List.append_assoc, List.cons_append, List.cons_append,
    List.nil_append, readChar, if_pos rfl, hread, readHex_hexDigits hw hc]

/-- The delimiters of quoted text. -/
def IsDelimiter (q : Char) : Prop := q = '"' ∨ q = singleQuote

theorem IsDelimiter.ne_backslash {q : Char} (hq : IsDelimiter q) : q ≠ '\\' := by
  rcases hq with rfl | rfl <;> decide

theorem quoteFor_isDelimiter (s : String) : IsDelimiter (quoteFor s) := by
  unfold quoteFor
  split
  · exact .inl rfl
  · exact .inr rfl

/-- Every written character reads back as itself. The cases follow `escapeChar`. -/
theorem readChar_escapeChar {q : Char} (hq : IsDelimiter q) (c : Char) (cs : List Char) :
    readChar ((escapeChar q c).toList ++ cs) = some (c, cs) := by
  have hbound : c.toNat < 16 ^ 8 := c.val.toNat_lt
  unfold escapeChar
  dsimp only
  split_ifs with hesc htab hlf hcr hctl hplain hbyte hbmp
  · -- the delimiter or the backslash, behind a backslash
    have hself : readEscape (c :: cs) = some (c, cs) := by
      rcases hesc with rfl | rfl
      · rcases hq with rfl | rfl <;> rfl
      · rfl
    simpa [readChar] using hself
  · subst htab; rfl
  · subst hlf; rfl
  · subst hcr; rfl
  · exact readChar_hexEscape rfl (fun _ => rfl) (by decide) (by omega) cs
  · -- a character that stands for itself is neither the delimiter nor the backslash
    have hback : c ≠ '\\' := fun h => hesc (.inr h)
    simp [readChar, hback]
  · exact readChar_hexEscape rfl (fun _ => rfl) (by decide) (by omega) cs
  · exact readChar_hexEscape rfl (fun _ => rfl) (by decide) (by omega) cs
  · exact readChar_hexEscape rfl (fun _ => rfl) (by decide) hbound cs

/-- A written character starts with the character itself or with a backslash, never with the
delimiter. -/
theorem head?_escapeChar_append {q : Char} (hq : IsDelimiter q) (c : Char) (cs : List Char) :
    ((escapeChar q c).toList ++ cs).head? ≠ some q := by
  have hback : '\\' ≠ q := hq.ne_backslash.symm
  unfold escapeChar
  dsimp only
  split_ifs with hesc <;> simp [String.toList_append, hback]
  exact fun h => hesc (.inl h)

/-! ## Reading quoted text -/

/-- The written form of the characters of a text inside the delimiter `q`. -/
def escaped (q : Char) (cs : List Char) : List Char :=
  cs.flatMap fun c => (escapeChar q c).toList

/-- Written characters never start with the delimiter. -/
theorem escaped_cons_append_ne {q : Char} (hq : IsDelimiter q) (c : Char) (s r r' : List Char) :
    escaped q (c :: s) ++ r ≠ q :: r' := by
  intro h
  have hhead := congrArg List.head? h
  rw [escaped, List.flatMap_cons, List.append_assoc, List.head?_cons] at hhead
  exact head?_escapeChar_append hq c _ hhead

/-- Written characters followed by the delimiter determine the characters and what follows the
delimiter. The induction runs over the first text; at each step the first written character is
read back, and a delimiter cannot stand where a written character starts. -/
theorem escaped_append_cancel {q : Char} (hq : IsDelimiter q) :
    ∀ {s t r r' : List Char}, escaped q s ++ q :: r = escaped q t ++ q :: r' → s = t ∧ r = r'
  | [], [], r, r', h => ⟨rfl, List.cons.inj h |>.2⟩
  | [], d :: t, _, _, h => (escaped_cons_append_ne hq d t _ _ h.symm).elim
  | c :: s, [], _, _, h => (escaped_cons_append_ne hq c s _ _ h).elim
  | c :: s, d :: t, r, r', h => by
    simp only [escaped, List.flatMap_cons, List.append_assoc] at h
    have hread := congrArg readChar h
    rw [readChar_escapeChar hq, readChar_escapeChar hq, Option.some.injEq, Prod.mk.injEq] at hread
    obtain ⟨rfl, hrest⟩ := hread
    obtain ⟨rfl, rfl⟩ := escaped_append_cancel hq hrest
    exact ⟨rfl, rfl⟩

theorem toList_quote (s : String) :
    (quote s).toList = quoteFor s :: (escaped (quoteFor s) s.toList ++ [quoteFor s]) := by
  simp [quote, escaped, String.toList_join, List.flatMap_map]

/-- Quoted text followed by anything determines the text and what follows it. -/
theorem quote_append_cancel {s t : String} {r r' : List Char}
    (h : (quote s).toList ++ r = (quote t).toList ++ r') : s = t ∧ r = r' := by
  rw [toList_quote, toList_quote] at h
  simp only [List.cons_append, List.cons.injEq, List.append_assoc] at h
  obtain ⟨hq, hbody⟩ := h
  rw [← hq] at hbody
  obtain ⟨hs, hr⟩ := escaped_append_cancel (quoteFor_isDelimiter s) hbody
  exact ⟨String.toList_inj.mp hs, hr⟩

end ExprTree.Text

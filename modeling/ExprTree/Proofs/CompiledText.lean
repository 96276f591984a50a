import ExprTree.Proofs.Numeral
import ExprTree.Text.Identifier
import ExprTree.Context

/-
  The language of compiled texts, read on its own terms. A phrase is a numeral, a name, the two
  calls `float('nan')` and `float('inf')`, a negation `(-X)`, a binary phrase `(X+Y)`, `(X-Y)`,
  `(X*Y)`, `(X/Y)`, or a power `pow(X,Y)`. Names are identifiers.

  * `Term.read` reads the phrase at the front of a text, and reads back the spelling of every
    well-formed phrase followed by a closing bracket, a comma, an operator or nothing
    (`read_spell_append`). So `Term.parse` recovers a phrase from its spelling (`parse_spell`),
    and two well-formed phrases with one spelling are one phrase (`spell_injective`).
  * `Term.Denotes c t x`: in the context `c` the phrase `t` stands for the float `x`. A numeral
    stands for the float nearest to its value, a name for the float it is bound to, the calls
    for NaN and `+∞`, and the operations for the binary64 operations and the power function.
    A phrase stands for at most one float (`Denotes.unique`).
-/

namespace ExprTree.Compiled

open Decimal Text

/-- The four operations written between their operands. -/
inductive Operation where
  | plus
  | minus
  | times
  | divide
  deriving DecidableEq

namespace Operation

/-- The character that writes an operation. -/
def char : Operation → Char
  | plus => '+'
  | minus => '-'
  | times => '*'
  | divide => '/'

/-- The operation that a character writes. -/
def ofChar? : Char → Option Operation
  | '+' => some plus
  | '-' => some minus
  | '*' => some times
  | '/' => some divide
  | _ => none

theorem ofChar?_char (o : Operation) : ofChar? o.char = some o := by
  cases o <;> rfl

/-- The binary64 operation of an operation. -/
def apply : Operation → Float → Float → Float
  | plus => (· + ·)
  | minus => (· - ·)
  | times => (· * ·)
  | divide => (· / ·)

end Operation

/-- A phrase of a compiled text. -/
inductive Term where
  | number (n : Numeral)
  | name (s : String)
  | nan
  | infinity
  | negate (t : Term)
  | binary (o : Operation) (a b : Term)
  | power (a b : Term)
  deriving DecidableEq

namespace Term

/-- The name of the call that builds a float from a text. -/
def floatWord : List Char := "float".toList

/-- The argument of the call that builds NaN. -/
def nanArgument : List Char := "(\x27nan\x27)".toList

/-- The argument of the call that builds positive infinity. -/
def infinityArgument : List Char := "(\x27inf\x27)".toList

/-- The text of a phrase. -/
def spell : Term → List Char
  | number n => n.spell
  | name s => s.toList
  | nan => floatWord ++ nanArgument
  | infinity => floatWord ++ infinityArgument
  | negate t => '(' :: '-' :: (t.spell ++ [')'])
  | binary o a b => '(' :: (a.spell ++ o.char :: (b.spell ++ [')']))
  | power a b => 'p' :: 'o' :: 'w' :: '(' :: (a.spell ++ ',' :: (b.spell ++ [')']))

/-- A phrase is well formed when its numerals are and its names are identifiers. -/
def WellFormed : Term → Prop
  | number n => n.WellFormed
  | name s => isIdentifier s = true
  | nan | infinity => True
  | negate t => t.WellFormed
  | binary _ a b | power a b => a.WellFormed ∧ b.WellFormed

/-- The nesting depth of a phrase. -/
def depth : Term → Nat
  | number _ | name _ | nan | infinity => 0
  | negate t => t.depth + 1
  | binary _ a b | power a b => max a.depth b.depth + 1

/-- The characters that may stand right after a phrase: a closing bracket, the comma of a power
and the operators. -/
def followers : List Char := [')', ',', '+', '-', '*', '/']

/-- A text that may follow a phrase: it is empty or starts with a follower. -/
def Follows (r : List Char) : Prop := ∀ c ∈ r.head?, c ∈ followers

/-- The run of characters that may go on a name at the front of a text, and the rest. -/
def wordRun (cs : List Char) : List Char × List Char :=
  (cs.takeWhile isIdentifierPart, cs.dropWhile isIdentifierPart)

/-- Reads the character `c` at the front of a text. -/
def expect (c : Char) : List Char → Option (List Char)
  | d :: r => if d = c then some r else none
  | [] => none

/-- Reads the phrase at the front of a text, with at most `fuel` levels of nesting. A bracket
opens a negation when a minus sign follows it and a binary phrase otherwise; a digit opens a
numeral; a word is a power when it is `pow` followed by a bracket, one of the two calls when it
is `float` followed by their argument, and a name otherwise. -/
def read : Nat → List Char → Option (Term × List Char)
  | 0, _ => none
  | _ + 1, [] => none
  | fuel + 1, c :: cs =>
    if c = '(' then
      if cs.head? = some '-' then
        (read fuel cs.tail).bind fun (t, r) => (expect ')' r).map fun r => (negate t, r)
      else
        (read fuel cs).bind fun (a, r) =>
          match r with
          | [] => none
          | d :: r => (Operation.ofChar? d).bind fun o =>
            (read fuel r).bind fun (b, r) => (expect ')' r).map fun r => (binary o a b, r)
    else if c.isDigit then
      (Numeral.read (c :: cs)).map fun (n, r) => (number n, r)
    else if isIdentifierStart c then
      if c :: (wordRun cs).1 = ['p', 'o', 'w'] ∧ (wordRun cs).2.head? = some '(' then
        (read fuel (wordRun cs).2.tail).bind fun (a, r) => (expect ',' r).bind fun r =>
          (read fuel r).bind fun (b, r) => (expect ')' r).map fun r => (power a b, r)
      else if c :: (wordRun cs).1 = floatWord ∧ (wordRun cs).2.take 7 = nanArgument then
        some (nan, (wordRun cs).2.drop 7)
      else if c :: (wordRun cs).1 = floatWord ∧ (wordRun cs).2.take 7 = infinityArgument then
        some (infinity, (wordRun cs).2.drop 7)
      else some (name (String.ofList (c :: (wordRun cs).1)), (wordRun cs).2)
    else none

/-- The phrase that a whole text reads as, if it reads as one. -/
def parse (cs : List Char) : Option Term :=
  match read (cs.length + 1) cs with
  | some (t, []) => some t
  | _ => none

/-! ## Characters of names and followers -/

theorem followers_not_identifierPart : ∀ c ∈ '(' :: followers, isIdentifierPart c = false := by
  have h : ('(' :: followers).all (fun c => !isIdentifierPart c) = true := by decide +kernel
  intro c hc
  simpa using List.all_eq_true.mp h c hc

theorem bracket_not_identifierStart : isIdentifierStart '(' = false := by decide +kernel

theorem bracket_not_identifierPart : isIdentifierPart '(' = false :=
  followers_not_identifierPart '(' List.mem_cons_self

theorem minus_not_identifierStart : isIdentifierStart '-' = false := by decide +kernel

theorem word_starts : isIdentifierStart 'f' = true ∧ isIdentifierStart 'p' = true := by
  decide +kernel

theorem floatWord_eq : floatWord = ['f', 'l', 'o', 'a', 't'] := rfl

theorem floatWord_letters : ∀ c ∈ ['l', 'o', 'a', 't'], isIdentifierPart c = true :=
  List.all_eq_true.mp (by decide +kernel)

theorem powWord_letters : ∀ c ∈ ['o', 'w'], isIdentifierPart c = true :=
  List.all_eq_true.mp (by decide +kernel)

theorem length_nanArgument : nanArgument.length = 7 := rfl

theorem length_infinityArgument : infinityArgument.length = 7 := rfl

/-- No digit starts a name: the ranges of name starts begin above the digits. -/
theorem digit_not_identifierStart {c : Char} (h : c.isDigit = true) :
    isIdentifierStart c = false := by
  have hdigits : ∀ n < 10, identifierStart.contains (48 + n) = false := by decide +kernel
  have hc := Char.isDigit_iff_toNat.mp h
  have hn : c.toNat = 48 + (c.toNat - 48) := by
    simp only [Char.reduceToNat] at hc
    omega
  unfold isIdentifierStart RangeTable.containsChar
  rw [hn]
  exact hdigits _ (by simp only [Char.reduceToNat] at hc; omega)

theorem followers_stop : ∀ c ∈ followers, c.isDigit = false ∧ c ≠ '.' ∧ c ≠ 'e' := by
  have h : followers.all (fun c => !c.isDigit && (c != '.' && c != 'e')) = true := by decide
  intro c hc
  simpa using List.all_eq_true.mp h c hc

theorem Follows.stops {r : List Char} (h : Follows r) : Numeral.Stops r :=
  fun c hc => followers_stop c (h c hc)

theorem Follows.not_identifierPart {r : List Char} (h : Follows r) :
    ∀ c ∈ r.head?, isIdentifierPart c = false :=
  fun c hc => followers_not_identifierPart c (List.mem_cons_of_mem _ (h c hc))

theorem Follows.head_ne_bracket {r : List Char} (h : Follows r) : r.head? ≠ some '(' := by
  intro hr
  have := h '(' hr
  revert this
  decide

theorem follows_cons {c : Char} (hc : c ∈ followers) (r : List Char) : Follows (c :: r) :=
  fun _ hd => Option.some.inj hd ▸ hc

theorem follows_nil : Follows [] := fun _ hc => nomatch hc

theorem wordRun_append {w r : List Char} (hw : ∀ c ∈ w, isIdentifierPart c = true)
    (hr : ∀ c ∈ r.head?, isIdentifierPart c = false) : wordRun (w ++ r) = (w, r) := by
  obtain ⟨htake, hdrop⟩ := takeWhile_dropWhile_append hw hr
  rw [wordRun, htake, hdrop]

theorem expect_cons_self (c : Char) (r : List Char) : expect c (c :: r) = some r := by
  simp [expect]

/-- A text that starts with a bracket does not go on a name. -/
theorem bracket_head_not_identifierPart {cs : List Char} (h : cs.head? = some '(') :
    ∀ c ∈ cs.head?, isIdentifierPart c = false := by
  intro c hc
  rw [h] at hc
  obtain rfl := Option.some.inj hc
  exact bracket_not_identifierPart

/-- A text starting with the argument of a call starts with a bracket. -/
theorem head_of_take_argument {r arg : List Char} (h : r.take 7 = arg) (harg : arg.head? = some '(') :
    r.head? = some '(' := by
  rw [← harg, ← h, List.head?_take]
  simp

/-! ## Reading back a spelling -/

/-- A well-formed phrase does not start with a minus sign, so a bracket followed by a phrase is
never read as a negation. -/
theorem head_spell_ne_minus {t : Term} (ht : t.WellFormed) (r : List Char) :
    (t.spell ++ r).head? ≠ some '-' := by
  cases t with
  | number n =>
    obtain ⟨d, w, hw⟩ := List.exists_cons_of_ne_nil ht.whole_ne_nil
    have hd : d.isDigit = true := ht.whole_digits d (hw ▸ List.mem_cons_self)
    simp only [spell, Numeral.spell, hw, List.cons_append, List.head?_cons, ne_eq,
      Option.some.injEq]
    rintro rfl
    exact absurd hd (by decide)
  | name s =>
    simp only [WellFormed, isIdentifier] at ht
    split at ht
    · exact absurd ht (by decide)
    · rename_i c cs hs
      simp only [spell, hs, List.cons_append, List.head?_cons, ne_eq, Option.some.injEq]
      rintro rfl
      simp only [minus_not_identifierStart, Bool.false_and, Bool.false_eq_true] at ht
  | nan | infinity =>
    simp only [spell, floatWord_eq, List.cons_append, List.head?_cons, ne_eq, Option.some.injEq]
    decide
  | negate _ | binary _ _ _ | power _ _ =>
    simp only [spell, List.cons_append, List.head?_cons, ne_eq, Option.some.injEq]
    decide

/-- Every well-formed phrase reads back from its spelling, whatever may follow it, given one level
of fuel for each level of nesting. The induction follows the phrase; at each constructor the first
characters of the spelling select the branch of the reader that built it. -/
theorem read_spell_append {t : Term} (ht : t.WellFormed) {fuel : Nat} (hfuel : t.depth < fuel)
    {r : List Char} (hr : Follows r) : read fuel (t.spell ++ r) = some (t, r) := by
  -- each case spends one level of fuel and hands the rest to the phrases inside
  obtain ⟨fuel, rfl⟩ : ∃ k, fuel = k + 1 := ⟨fuel - 1, by omega⟩
  induction t generalizing fuel r with
  | number n =>
    obtain ⟨d, w, hw⟩ := List.exists_cons_of_ne_nil ht.whole_ne_nil
    have hd : d.isDigit = true := ht.whole_digits d (hw ▸ List.mem_cons_self)
    have hd' : d ≠ '(' := by
      rintro rfl
      exact absurd hd (by decide)
    have hspell : n.spell ++ r = d :: (w ++ (((if n.fraction = [] then [] else '.' :: n.fraction) ++
        Numeral.exponentSpell n.exponent) ++ r)) := by
      simp [Numeral.spell, hw]
    rw [spell, hspell, read, if_neg hd', if_pos hd, ← hspell, Numeral.read_spell_append ht hr.stops]
    rfl
  | name s =>
    simp only [WellFormed, isIdentifier] at ht
    split at ht
    · exact absurd ht (by decide)
    rename_i c w hs
    obtain ⟨hstart, hall⟩ := Bool.and_eq_true_iff.mp ht
    have hc : c ≠ '(' := by
      rintro rfl
      rw [bracket_not_identifierStart] at hstart
      exact absurd hstart (by decide)
    have hdigit : c.isDigit = false := by
      cases h : c.isDigit
      · rfl
      · rw [digit_not_identifierStart h] at hstart
        exact absurd hstart (by decide)
    have hrun : wordRun (w ++ r) = (w, r) :=
      wordRun_append (List.all_eq_true.mp hall) hr.not_identifierPart
    rw [spell, hs, List.cons_append, read, if_neg hc, if_neg (by simp [hdigit]), if_pos hstart,
      hrun]
    dsimp only
    -- a name is never followed by a bracket, so none of the three calls is read
    rw [if_neg (fun h => hr.head_ne_bracket h.2),
      if_neg (fun h => hr.head_ne_bracket (head_of_take_argument h.2 rfl)),
      if_neg (fun h => hr.head_ne_bracket (head_of_take_argument h.2 rfl)), ← hs,
      String.ofList_toList]
  | nan =>
    have hrun : wordRun (['l', 'o', 'a', 't'] ++ (nanArgument ++ r)) =
        (['l', 'o', 'a', 't'], nanArgument ++ r) :=
      wordRun_append floatWord_letters (bracket_head_not_identifierPart rfl)
    have hspell : nan.spell ++ r = 'f' :: (['l', 'o', 'a', 't'] ++ (nanArgument ++ r)) := by
      rw [spell, floatWord_eq, List.append_assoc]
      rfl
    rw [hspell, read, if_neg (by decide), if_neg (by decide), if_pos word_starts.1, hrun]
    dsimp only
    rw [if_neg (fun h => absurd h.1 (by decide)),
      if_pos ⟨floatWord_eq.symm, List.take_left' length_nanArgument⟩,
      List.drop_left' length_nanArgument]
  | infinity =>
    have hrun : wordRun (['l', 'o', 'a', 't'] ++ (infinityArgument ++ r)) =
        (['l', 'o', 'a', 't'], infinityArgument ++ r) :=
      wordRun_append floatWord_letters (bracket_head_not_identifierPart rfl)
    have hspell : infinity.spell ++ r = 'f' :: (['l', 'o', 'a', 't'] ++ (infinityArgument ++ r)) := by
      rw [spell, floatWord_eq, List.append_assoc]
      rfl
    rw [hspell, read, if_neg (by decide), if_neg (by decide), if_pos word_starts.1, hrun]
    dsimp only
    rw [if_neg (fun h => absurd h.1 (by decide)), List.take_left' length_infinityArgument,
      if_neg (fun h => absurd h.2 (by decide)),
      if_pos ⟨floatWord_eq.symm, rfl⟩, List.drop_left' length_infinityArgument]
  | negate t ih =>
    have hspell : (negate t).spell ++ r = '(' :: '-' :: (t.spell ++ ')' :: r) := by
      simp [spell]
    simp only [depth] at hfuel
    obtain ⟨k, rfl⟩ : ∃ k, fuel = k + 1 := ⟨fuel - 1, by omega⟩
    rw [hspell, read, if_pos rfl]
    simp only [List.head?_cons, List.tail_cons, ↓reduceIte]
    rw [ih ht (follows_cons (by decide) r) k (by omega)]
    simp [expect]
  | binary o a b iha ihb =>
    have hspell : (binary o a b).spell ++ r = '(' :: (a.spell ++ o.char :: (b.spell ++ ')' :: r)) := by
      simp [spell]
    have ho : o.char ∈ followers := by cases o <;> decide
    simp only [depth] at hfuel
    obtain ⟨k, rfl⟩ : ∃ k, fuel = k + 1 := ⟨fuel - 1, by omega⟩
    rw [hspell, read, if_pos rfl, if_neg (head_spell_ne_minus ht.1 _),
      iha ht.1 (follows_cons ho _) k (by omega)]
    simp only [Option.bind_some, Operation.ofChar?_char]
    rw [ihb ht.2 (follows_cons (by decide) r) k (by omega)]
    simp [expect]
  | power a b iha ihb =>
    have hrun : wordRun (['o', 'w'] ++ '(' :: (a.spell ++ ',' :: (b.spell ++ ')' :: r))) =
        (['o', 'w'], '(' :: (a.spell ++ ',' :: (b.spell ++ ')' :: r))) :=
      wordRun_append powWord_letters (bracket_head_not_identifierPart rfl)
    have hspell : (power a b).spell ++ r =
        'p' :: (['o', 'w'] ++ '(' :: (a.spell ++ ',' :: (b.spell ++ ')' :: r))) := by
      simp [spell]
    simp only [depth] at hfuel
    obtain ⟨k, rfl⟩ : ∃ k, fuel = k + 1 := ⟨fuel - 1, by omega⟩
    rw [hspell, read, if_neg (by decide), if_neg (by decide), if_pos word_starts.2, hrun]
    dsimp only
    rw [if_pos ⟨rfl, rfl⟩, List.tail_cons, iha ht.1 (follows_cons (by decide) _) k (by omega)]
    simp only [Option.bind_some, expect_cons_self]
    rw [ihb ht.2 (follows_cons (by decide) r) k (by omega)]
    simp [expect]

theorem depth_le_length (t : Term) : t.depth ≤ t.spell.length := by
  induction t with
  | number _ | name _ | nan | infinity => simp [depth]
  | negate t ih =>
    simp only [depth, spell, List.length_cons, List.length_append]
    omega
  | binary o a b iha ihb =>
    simp only [depth, spell, List.length_cons, List.length_append]
    omega
  | power a b iha ihb =>
    simp only [depth, spell, List.length_cons, List.length_append]
    omega

/-- A text that spells a well-formed phrase parses as that phrase. -/
theorem parse_spell {t : Term} (ht : t.WellFormed) : parse t.spell = some t := by
  have hread := read_spell_append ht (show t.depth < t.spell.length + 1 by
    have := depth_le_length t; omega) follows_nil
  rw [List.append_nil] at hread
  unfold parse
  rw [hread]

/-- Compiled texts are unambiguous: two well-formed phrases with one spelling are equal. -/
theorem spell_injective {t u : Term} (ht : t.WellFormed) (hu : u.WellFormed)
    (h : t.spell = u.spell) : t = u := by
  have hparse := parse_spell ht
  rw [h, parse_spell hu] at hparse
  exact (Option.some.inj hparse).symm

/-! ## What a phrase stands for -/

/-- In the context `c`, the phrase `t` stands for the float `x`: a numeral for the float nearest
to its value, a name for the float bound to it, `float('nan')` for NaN, `float('inf')` for `+∞`,
a negation for the negated float, and the operations for the binary64 operations of their
operands' floats and for the power function. -/
inductive Denotes (c : Context) : Term → Float → Prop
  | number {n : Numeral} {x : Float} : IsNearest n.value x.toBits.toNat → Denotes c (number n) x
  | name {s : String} {x : Float} : c.lookup? (.str s) = some (.float x) → Denotes c (name s) x
  | nan {x : Float} : x.isNaN = true → Denotes c nan x
  | infinity {x : Float} : x.toBits.toNat = infinityBits → Denotes c infinity x
  | negate {t : Term} {x : Float} : Denotes c t x → Denotes c (negate t) (-x)
  | binary {o : Operation} {a b : Term} {x y : Float} :
      Denotes c a x → Denotes c b y → Denotes c (binary o a b) (o.apply x y)
  | power {a b : Term} {x y : Float} :
      Denotes c a x → Denotes c b y → Denotes c (power a b) (x.pow y)

/-- All NaNs are one float. -/
theorem eq_of_isNaN {x y : Float} (hx : x.isNaN = true) (hy : y.isNaN = true) : x = y :=
  eq_of_toBits_toNat_eq ((toBits_of_isNaN hx).trans (toBits_of_isNaN hy).symm)

/-- A phrase stands for at most one float. -/
theorem Denotes.unique {c : Context} {t : Term} {x y : Float} (hx : Denotes c t x)
    (hy : Denotes c t y) : x = y := by
  induction hx generalizing y with
  | number h =>
    cases hy with
    | number h' => exact eq_of_toBits_toNat_eq (isNearest_unique h h')
  | name h =>
    cases hy with
    | name h' =>
      rw [h] at h'
      injection h' with h''
      injection h''
  | nan h =>
    cases hy with
    | nan h' => exact eq_of_isNaN h h'
  | infinity h =>
    cases hy with
    | infinity h' => exact eq_of_toBits_toNat_eq (h.trans h'.symm)
  | negate _ ih =>
    cases hy with
    | negate h' => rw [ih h']
  | binary _ _ iha ihb =>
    cases hy with
    | binary ha hb => rw [iha ha, ihb hb]
  | power _ _ iha ihb =>
    cases hy with
    | power ha hb => rw [iha ha, ihb hb]

end Term

end ExprTree.Compiled

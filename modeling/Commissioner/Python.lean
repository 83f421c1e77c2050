import Mathlib

/-!
# The Python string operations the menus use

`str.strip()`, `str.replace(old, '')`, `str.lower()` and `int(s, base)` as CPython computes
them.  `int` first rewrites its argument to ASCII (`_PyUnicode_TransformDecimalAndSpaceToASCII`):
Unicode white space becomes a blank and a Unicode decimal digit its ASCII digit, by the Unicode
database's decimal values, which the model takes as the parameter `decimal`.  Then
`PyLong_FromString` reads ASCII white space, a sign, for base 16 an optional `0x` or `0X` and one
underscore after it, digits with single underscores between them, and ASCII white space again,
and the whole string must be read.

CPython 3.11 and later also refuse, in a base that is not a power of two, a numeral of more than
`sys.get_int_max_str_digits()` digits (4300 unless the interpreter is configured otherwise).  The
model has no such limit: on a decimal string that long it returns the number where CPython raises
`ValueError`.  Base 16, which the VID/PID parse uses, has no limit.
-/

namespace Commissioner.Python

/-- `Py_UNICODE_ISSPACE`: the characters `str.strip()` removes. -/
def isSpace (c : Char) : Bool :=
  let n := c.toNat
  (0x09 ≤ n && n ≤ 0x0D) || (0x1C ≤ n && n ≤ 0x20) || n == 0x85 || n == 0xA0 || n == 0x1680 ||
    (0x2000 ≤ n && n ≤ 0x200A) || n == 0x2028 || n == 0x2029 || n == 0x202F || n == 0x205F ||
    n == 0x3000

/-- `str.strip()`: white space removed from both ends. -/
def strip (s : String) : String :=
  ⟨((s.data.dropWhile isSpace).reverse.dropWhile isSpace).reverse⟩

/-- The scan of `str.replace(old, '')` for `old = a + b`: occurrences are removed leftmost
first, and none overlaps the one before. -/
def removeAll (a b : Char) : List Char → List Char
  | x :: y :: rest => if x = a ∧ y = b then removeAll a b rest else x :: removeAll a b (y :: rest)
  | s => s

/-- `s.replace(a + b, '')`. -/
def replace (s : String) (a b : Char) : String :=
  ⟨removeAll a b s.data⟩

/-- `str.lower()` on ASCII capitals.  No other character lowers to a letter of the answers the
menus compare with (`y`, `yes`). -/
def lower (s : String) : String :=
  ⟨s.data.map Char.toLower⟩

/-- `_PyUnicode_TransformDecimalAndSpaceToASCII`, one character: ASCII below 127 is kept, Unicode
white space becomes a blank, a decimal digit its ASCII digit, anything else `?` (where CPython
also cuts the string short, which `PyLong_FromString` rejects all the same). -/
def toAscii (decimal : Char → Option (Fin 10)) (c : Char) : Char :=
  if c.toNat < 127 then c
  else if isSpace c then ' '
  else match decimal c with
    | some d => Char.ofNat ('0'.toNat + d)
    | none => '?'

/-- `_PyLong_DigitValue`: the value of an ASCII digit or letter, 37 for every other character. -/
def digitValue (c : Char) : Nat :=
  if c.isDigit then c.toNat - '0'.toNat
  else if c.isLower then c.toNat - 'a'.toNat + 10
  else if c.isUpper then c.toNat - 'A'.toNat + 10
  else 37

/-- `Py_ISSPACE`: ASCII white space. -/
def isAsciiSpace (c : Char) : Bool :=
  c == ' ' || (9 ≤ c.toNat && c.toNat ≤ 13)

/-- The digit loop of `long_from_binary_base` and `long_from_non_binary_base`, from the value
read so far and whether the last character was `_`.  It stops at the first character that is
neither a digit below `base` nor `_`; two underscores in a row, or one at the end, are an error. -/
def scanDigits (base : Nat) (value : Nat) (underscore : Bool) :
    List Char → Option (Nat × List Char)
  | c :: rest =>
      if c = '_' then (if underscore then none else scanDigits base value true rest)
      else if digitValue c < base then scanDigits base (value * base + digitValue c) false rest
      else if underscore then none else some (value, c :: rest)
  | [] => if underscore then none else some (value, [])

/-- The optional sign: its factor, and what follows it. -/
def readSign : List Char → Int × List Char
  | '+' :: rest => (1, rest)
  | '-' :: rest => (-1, rest)
  | s => (1, s)

/-- The `0x`, `0o` or `0b` that base 16, 8 or 2 allows, and one underscore after it. -/
def skipRadix (base : Nat) : List Char → List Char
  | '0' :: x :: rest =>
      if (base = 16 ∧ (x = 'x' ∨ x = 'X')) ∨ (base = 8 ∧ (x = 'o' ∨ x = 'O')) ∨
          (base = 2 ∧ (x = 'b' ∨ x = 'B')) then
        match rest with
        | '_' :: rest => rest
        | rest => rest
      else '0' :: x :: rest
  | s => s

/-- `PyLong_FromString(s, &end, base)` for `2 ≤ base ≤ 36`, with the check of
`PyLong_FromUnicodeObject` that it read the whole string; `none` is the `ValueError`. -/
def fromString (base : Nat) (s : List Char) : Option Int :=
  let (sign, s) := readSign (s.dropWhile isAsciiSpace)
  let s := skipRadix base s
  match s with
  | c :: _ =>
      if digitValue c < base then
        match scanDigits base 0 false s with
        | some (value, rest) =>
            if (rest.dropWhile isAsciiSpace).isEmpty then some (sign * value) else none
        | none => none
      else none
  | [] => none

/-- `int(s, base)` for a `str`. -/
def int (decimal : Char → Option (Fin 10)) (s : String) (base : Nat) : Option Int :=
  fromString base (s.data.map (toAscii decimal))

/-! ## Numerals -/

/-- Digits below `base` with single underscores between them: what `int(s, base)` reads after the
sign and the radix mark. -/
inductive Numeral (base : Nat) : List Char → Prop
  | digit {d : Char} : digitValue d < base → Numeral base [d]
  | cons {d : Char} {rest : List Char} : digitValue d < base → Numeral base rest →
      Numeral base (d :: rest)
  | underscore {d : Char} {rest : List Char} : digitValue d < base → Numeral base rest →
      Numeral base (d :: '_' :: rest)

/-- One step of a numeral's value: a digit shifts it in, an underscore is skipped. -/
def numeralStep (base value : Nat) (c : Char) : Nat :=
  if c = '_' then value else value * base + digitValue c

/-- The number a numeral writes. -/
def numeralValue (base : Nat) (digits : List Char) : Nat :=
  digits.foldl (numeralStep base) 0

section
variable {base : Nat}

/-- Digits and letters are the ASCII characters from `0` to `z`. -/
theorem digitValue_range {c : Char} (h : digitValue c < 37) : 48 ≤ c.toNat ∧ c.toNat < 127 := by
  unfold digitValue at h
  simp only [Char.isDigit, Char.isLower, Char.isUpper, Bool.and_eq_true, decide_eq_true_eq] at h
  split_ifs at h with hd hl hu
  · have : 48 ≤ c.val.toNat ∧ c.val.toNat ≤ 57 := hd
    simp only [Char.toNat]; omega
  · have : 97 ≤ c.val.toNat ∧ c.val.toNat ≤ 122 := hl
    simp only [Char.toNat]; omega
  · have : 65 ≤ c.val.toNat ∧ c.val.toNat ≤ 90 := hu
    simp only [Char.toNat]; omega
  · omega

theorem isAsciiSpace_of_digit {c : Char} (h : digitValue c < 37) : isAsciiSpace c = false := by
  have hrange := digitValue_range h
  simp only [isAsciiSpace, Bool.or_eq_false_iff, beq_eq_false_iff_ne, Bool.and_eq_false_iff,
    decide_eq_false_iff_not, not_le]
  exact ⟨fun h => by subst h; simp at hrange, .inr (by omega)⟩

theorem isSpace_of_digit {c : Char} (h : digitValue c < 37) : isSpace c = false := by
  have hrange := digitValue_range h
  simp only [isSpace, Bool.or_eq_false_iff, Bool.and_eq_false_iff, decide_eq_false_iff_not,
    beq_eq_false_iff_ne, not_le]
  omega

theorem ne_underscore_of_digit {c : Char} (hbase : base ≤ 36) (h : digitValue c < base) :
    c ≠ '_' := by
  rintro rfl
  have : digitValue '_' = 37 := by decide
  omega

theorem Numeral.head_digit {digits : List Char} (h : Numeral base digits) :
    ∃ d rest, digits = d :: rest ∧ digitValue d < base := by
  cases h with
  | digit hd => exact ⟨_, _, rfl, hd⟩
  | cons hd _ => exact ⟨_, _, rfl, hd⟩
  | underscore hd _ => exact ⟨_, _, rfl, hd⟩

/-- Every character of a numeral is a digit or `_`. -/
theorem Numeral.mem {digits : List Char} (h : Numeral base digits) :
    ∀ c ∈ digits, c = '_' ∨ digitValue c < base := by
  induction h with
  | digit hd => simp [hd]
  | cons hd _ ih => simpa [hd] using ih
  | underscore hd _ ih => simpa [hd] using ih

/-- The digit loop reads a whole numeral, to its value. -/
theorem scanDigits_numeral {digits : List Char} (hbase : base ≤ 36) (h : Numeral base digits) :
    ∀ value underscore,
      scanDigits base value underscore digits = some (digits.foldl (numeralStep base) value, []) := by
  induction h with
  | digit hd =>
      intro value underscore
      simp [scanDigits, ne_underscore_of_digit hbase hd, hd, numeralStep]
  | cons hd _ ih =>
      intro value underscore
      simp [scanDigits, ne_underscore_of_digit hbase hd, hd, numeralStep, ih]
  | underscore hd _ ih =>
      intro value underscore
      simp [scanDigits, ne_underscore_of_digit hbase hd, hd, numeralStep, ih]

theorem removeAll_of_not_mem {a b : Char} {l : List Char} (h : b ∉ l) : removeAll a b l = l := by
  induction l with
  | nil => rfl
  | cons x rest ih =>
      cases rest with
      | nil => rfl
      | cons y rest =>
          have hy : y ≠ b := fun hy => h (hy ▸ List.mem_cons_of_mem x (List.mem_cons_self y rest))
          simp only [removeAll, hy, and_false, if_false]
          rw [ih fun hb => h (List.mem_cons_of_mem x hb)]

theorem removeAll_cons_of_ne {a b x : Char} (l : List Char) (h : x ≠ a) :
    removeAll a b (x :: l) = x :: removeAll a b l := by
  cases l with
  | nil => rfl
  | cons y rest => simp [removeAll, h]

/-- On ASCII text `int` reads the characters as they are. -/
theorem int_of_ascii {decimal : Char → Option (Fin 10)} {s : String} {base : Nat}
    (h : ∀ c ∈ s.data, c.toNat < 127) : int decimal s base = fromString base s.data := by
  have hmap : s.data.map (toAscii decimal) = s.data := by
    conv_rhs => rw [← List.map_id s.data]
    exact List.map_congr_left fun c hc => if_pos (h c hc)
  rw [int, hmap]

/-- Reading a sign, a radix mark and a numeral, the way `fromString` does, once each step is
known. -/
theorem fromString_eq {s t digits : List Char} {sign : Int} (hbase : base ≤ 36)
    (hspace : s.dropWhile isAsciiSpace = s) (hsign : readSign s = (sign, t))
    (hradix : skipRadix base t = digits) (h : Numeral base digits) :
    fromString base s = some (sign * numeralValue base digits) := by
  obtain ⟨d, rest, hdigits, hd⟩ := h.head_digit
  have hscan := scanDigits_numeral hbase h 0 false
  unfold fromString
  rw [hspace, hsign]
  dsimp only
  rw [hradix, hdigits]
  dsimp only
  rw [if_pos hd, ← hdigits, hscan]
  rfl

theorem readSign_digit {d : Char} (rest : List Char) (hd : digitValue d < 16) :
    readSign (d :: rest) = (1, d :: rest) := by
  have hrange := digitValue_range (by omega : digitValue d < 37)
  unfold readSign
  split
  · rename_i h; cases h; simp at hrange
  · rename_i h; cases h; simp at hrange
  · rfl

theorem skipRadix_numeral {digits : List Char} (h : Numeral 16 digits) :
    skipRadix 16 digits = digits := by
  unfold skipRadix
  split
  · rename_i x rest
    rw [if_neg]
    have hx : x = '_' ∨ digitValue x < 16 := h.mem x (by simp)
    have hvalues : digitValue 'x' = 33 ∧ digitValue 'X' = 33 := by decide
    rintro (⟨-, rfl | rfl⟩ | ⟨h8, -⟩ | ⟨h2, -⟩)
    · rcases hx with hx | hx
      · exact absurd hx (by decide)
      · omega
    · rcases hx with hx | hx
      · exact absurd hx (by decide)
      · omega
    · omega
    · omega
  · rfl

theorem fromString_hex {sign mark digits : List Char}
    (hsign : sign = [] ∨ sign = ['+'] ∨ sign = ['-'])
    (hmark : mark = [] ∨ mark = ['0', 'x'] ∨ mark = ['0', 'X']) (h : Numeral 16 digits) :
    fromString 16 (sign ++ mark ++ digits) = some ((readSign sign).1 * numeralValue 16 digits) := by
  obtain ⟨d, rest, rfl, hd⟩ := h.head_digit
  have hspace := isAsciiSpace_of_digit (by omega : digitValue d < 37)
  have hnot_underscore : d ≠ '_' := ne_underscore_of_digit (by norm_num) hd
  refine fromString_eq (t := mark ++ d :: rest) (by norm_num) ?_ ?_ ?_ h
  · have hmarks : isAsciiSpace '+' = false ∧ isAsciiSpace '-' = false ∧ isAsciiSpace '0' = false :=
      by decide
    rcases hsign with rfl | rfl | rfl <;> rcases hmark with rfl | rfl | rfl <;>
      simp [List.dropWhile_cons, hspace, hmarks]
  · rcases hsign with rfl | rfl | rfl <;> rcases hmark with rfl | rfl | rfl <;>
      first | rfl | exact readSign_digit rest hd
  · rcases hmark with rfl | rfl | rfl
    · exact skipRadix_numeral h
    · simp [skipRadix, hnot_underscore]
    · simp [skipRadix, hnot_underscore]

/-! ## Numerals as a user types them -/

/-- The digit of value `d`: `0` to `9`, then capital letters. -/
def digitChar (d : Nat) : Char :=
  if d < 10 then Char.ofNat ('0'.toNat + d) else Char.ofNat ('A'.toNat + d - 10)

/-- `n` in base `base`, most significant digit first: the numeral a user types for `n`. -/
def numeral (base n : Nat) : List Char :=
  if n = 0 then ['0'] else (Nat.digits base n).reverse.map digitChar

theorem digitChar_value : ∀ d < 16, digitValue (digitChar d) = d ∧ digitChar d ≠ '_' := by
  decide

/-- Digits below `base` written out with `digitChar` make a numeral, whose value is read off
most significant digit first. -/
theorem numeral_of_digits (hbase : base ≤ 16) :
    ∀ {ds : List Nat}, ds ≠ [] → (∀ d ∈ ds, d < base) →
      Numeral base (ds.map digitChar) ∧
        ∀ value, (ds.map digitChar).foldl (numeralStep base) value =
          ds.foldl (fun value d => value * base + d) value
  | [], hne, _ => absurd rfl hne
  | d :: rest, _, hlt => by
      have hd := digitChar_value d (by have := hlt d (.head _); omega)
      have hdigit : digitValue (digitChar d) < base := by rw [hd.1]; exact hlt d (.head _)
      have hstep (value : Nat) : numeralStep base value (digitChar d) = value * base + d := by
        rw [numeralStep, if_neg hd.2, hd.1]
      cases rest with
      | nil => exact ⟨.digit hdigit, fun value => by simp [hstep]⟩
      | cons d' rest =>
          obtain ⟨hnum, hvalue⟩ := numeral_of_digits hbase (List.cons_ne_nil d' rest)
            fun d hd => hlt d (.tail _ hd)
          exact ⟨.cons hdigit hnum, fun value => by
            rw [List.map_cons, List.foldl_cons, hstep, hvalue]
            rfl⟩

theorem numeral_numeral (hbase : 2 ≤ base ∧ base ≤ 16) (n : Nat) :
    Numeral base (numeral base n) ∧ numeralValue base (numeral base n) = n := by
  unfold numeral
  split_ifs with hn
  · subst hn
    have : digitValue '0' = 0 := by decide
    exact ⟨.digit (by omega), by simp [numeralValue, numeralStep, this]⟩
  · have hne : (Nat.digits base n).reverse ≠ [] := by
      simpa using Nat.digits_ne_nil_iff_ne_zero.mpr hn
    obtain ⟨hnum, hvalue⟩ := numeral_of_digits hbase.2 hne fun d hd =>
      Nat.digits_lt_base (by omega) (List.mem_reverse.mp hd)
    refine ⟨hnum, ?_⟩
    calc numeralValue base ((Nat.digits base n).reverse.map digitChar)
        = (Nat.digits base n).reverse.foldl (fun value d => value * base + d) 0 := hvalue 0
      _ = Nat.ofDigits base (Nat.digits base n) := by
          rw [List.foldl_reverse, Nat.ofDigits_eq_foldr]
          congr 1
          funext d value
          rw [Nat.cast_id]
          ring
      _ = n := Nat.ofDigits_digits base n

theorem skipRadix_decimal (s : List Char) : skipRadix 10 s = s := by
  unfold skipRadix
  split
  · simp
  · rfl

theorem numeral_digit (hbase : 2 ≤ base ∧ base ≤ 16) (n : Nat) :
    ∀ c ∈ numeral base n, digitValue c < base := by
  unfold numeral
  split_ifs
  · have : digitValue '0' = 0 := by decide
    simp only [List.mem_singleton]
    rintro _ rfl
    omega
  · simp only [List.mem_map, List.mem_reverse]
    rintro _ ⟨d, hd, rfl⟩
    have hlt := Nat.digits_lt_base (by omega) hd
    rw [(digitChar_value d (by omega)).1]
    exact hlt

/-- `int` reads back the decimal or hexadecimal numeral of `n`. -/
theorem int_numeral (decimal : Char → Option (Fin 10)) (hbase : base = 10 ∨ base = 16)
    (n : Nat) : int decimal ⟨numeral base n⟩ base = some (n : Int) := by
  have hbounds : 2 ≤ base ∧ base ≤ 16 := by omega
  obtain ⟨hnum, hvalue⟩ := numeral_numeral hbounds n
  obtain ⟨d, rest, hdigits, hd⟩ := hnum.head_digit
  have hdigit (c : Char) (hc : c ∈ numeral base n) : digitValue c < 37 := by
    have := numeral_digit hbounds n c hc
    omega
  rw [int_of_ascii (s := ⟨numeral base n⟩) fun c hc => (digitValue_range (hdigit c hc)).2]
  have hread :
      fromString base (numeral base n) = some ((1 : Int) * numeralValue base (numeral base n)) := by
    refine fromString_eq (t := numeral base n) (by omega) ?_ ?_ ?_ hnum
    · rw [hdigits, List.dropWhile_cons, isAsciiSpace_of_digit (by omega)]
      rfl
    · rw [hdigits]
      exact readSign_digit rest (by omega)
    · rcases hbase with rfl | rfl
      · exact skipRadix_decimal _
      · exact skipRadix_numeral hnum
  rw [hread, hvalue, one_mul]

/-- `strip` leaves a numeral as it is. -/
theorem strip_numeral (hbase : base = 10 ∨ base = 16) (n : Nat) :
    (strip ⟨numeral base n⟩).data = numeral base n := by
  have hspace : ∀ c ∈ numeral base n, isSpace c = false := fun c hc => by
    have := numeral_digit (by omega : 2 ≤ base ∧ base ≤ 16) n c hc
    exact isSpace_of_digit (by omega)
  have hdrop : ∀ l : List Char, (∀ c ∈ l, isSpace c = false) → l.dropWhile isSpace = l
    | [], _ => rfl
    | c :: _, h => by rw [List.dropWhile_cons, h c (.head _)]; rfl
  simp only [strip, hdrop _ hspace,
    hdrop _ fun c hc => hspace c (List.mem_reverse.mp hc), List.reverse_reverse]

end

end Commissioner.Python

import Harvest.Json.Scanner
import Harvest.Proofs.Results
import Mathlib.Data.List.Basic

/-!
Numbers and strings, scanned again after they were written. What may follow a value is left as it is.
-/

namespace Harvest.Json

/-- What goes on with or ends an array or object, and space. -/
def delimiters : List Char := [',', ']', '\x7d', ' ', '\n', '\t', '\r']

/-- What stands after a value: the end of the text or a delimiter. -/
def AfterValue (rest : List Char) : Prop := ∀ c ∈ rest.head?, c ∈ delimiters

theorem afterValue_nil : AfterValue [] := by
  intro c member
  cases member

theorem afterValue_cons {c : Char} (delimiter : c ∈ delimiters) (s : List Char) : AfterValue (c :: s) := by
  rintro d ⟨⟩
  exact delimiter

/-- The digits of a number as they are scanned. -/
def digitsOf (n : Nat) : List Nat := (Nat.toDigits 10 n).map fun c => c.toNat - 48

theorem digitsOf_of_lt {n : Nat} (small : n < 10) : digitsOf n = [n] := by
  rw [digitsOf, Nat.toDigits_of_lt_base small, List.map_singleton, Nat.toNat_digitChar_sub_48_of_lt_ten small]

theorem digitsOf_of_le {n : Nat} (large : 10 ≤ n) : digitsOf n = digitsOf (n / 10) ++ [n % 10] := by
  have last : n % 10 < 10 := Nat.mod_lt n (by decide)
  rw [digitsOf, Nat.toDigits_of_base_le (by decide) large, List.map_append, List.map_singleton,
    Nat.toNat_digitChar_sub_48_of_lt_ten last, digitsOf]

theorem digitsOf_ne_nil (n : Nat) : digitsOf n ≠ [] := by
  rw [digitsOf, Ne, List.map_eq_nil_iff]
  exact Nat.toDigits_ne_nil

theorem foldl_digitsOf (n : Nat) : (digitsOf n).foldl (fun v d => v * 10 + d) 0 = n := by
  induction n using Nat.strongRecOn with
  | ind n ih =>
    rcases Nat.lt_or_ge n 10 with small | large
    · rw [digitsOf_of_lt small, List.foldl_cons, List.foldl_nil]
      omega
    · rw [digitsOf_of_le large, List.foldl_append, ih (n / 10) (by omega), List.foldl_cons, List.foldl_nil]
      omega

theorem head?_digitsOf {n : Nat} (zero : (digitsOf n).head? = some 0) : n = 0 := by
  induction n using Nat.strongRecOn with
  | ind n ih =>
    rcases Nat.lt_or_ge n 10 with small | large
    · rw [digitsOf_of_lt small] at zero
      exact Option.some.inj zero
    · rw [digitsOf_of_le large, List.head?_append_of_ne_nil _ (digitsOf_ne_nil _)] at zero
      have shorter := ih (n / 10) (by omega) zero
      omega

theorem not_leading_zero (n : Nat) : ¬((digitsOf n).length > 1 ∧ (digitsOf n).head? = some 0) := by
  rintro ⟨long, zero⟩
  obtain rfl := head?_digitsOf zero
  rw [digitsOf_of_lt (by decide)] at long
  exact absurd long (by decide)

theorem digit?_of_isDigit {c : Char} (digit : c.isDigit = true) : digit? c = some (c.toNat - 48) := by
  have range : '0' ≤ c ∧ c ≤ '9' := by simpa [Char.isDigit, Char.le_def] using digit
  exact if_pos range

theorem isDigit_of_digit? {c : Char} {d : Nat} (digit : digit? c = some d) : c.isDigit = true := by
  unfold digit? at digit
  split at digit
  · rename_i range
    simpa [Char.isDigit, Char.le_def] using range
  · cases digit

theorem digit?_of_delimiter : ∀ c ∈ delimiters, digit? c = none := by
  simp [delimiters, digit?]

theorem scanDigits_of_digits {ds : List Char} (digits : ∀ c ∈ ds, c.isDigit = true) :
    scanDigits ds = (ds.map fun c => c.toNat - 48, []) := by
  induction ds with
  | nil => rfl
  | cons c ds ih =>
    have digit := digit?_of_isDigit (digits c List.mem_cons_self)
    have more := ih fun d member => digits d (List.mem_cons_of_mem c member)
    simp [scanDigits, digit, more]

theorem exists_digit_of_scanDigits {s : List Char} (digits : (scanDigits s).1 ≠ []) :
    ∃ c t, s = c :: t ∧ c.isDigit = true := by
  cases s with
  | nil => exact absurd rfl digits
  | cons c t =>
    cases digit : digit? c with
    | none => simp [scanDigits, digit] at digits
    | some d => exact ⟨c, t, rfl, isDigit_of_digit? digit⟩

theorem scanNumeral_eq_ok {negative : Bool} {s left : List Char} {m : Numeral} :
    scanNumeral negative s = .ok (m, left) ↔
      (scanDigits s).1 ≠ [] ∧ ¬((scanDigits s).1.length > 1 ∧ (scanDigits s).1.head? = some 0) ∧
      ∃ fraction t exponent, scanFraction (scanDigits s).2 = .ok (fraction, t) ∧ scanExponent t = .ok (exponent, left) ∧
        m = ⟨negative, (scanDigits s).1, fraction, exponent⟩ := by
  unfold scanNumeral
  dsimp only
  constructor
  · intro scanned
    split at scanned
    · cases scanned
    · split at scanned
      · cases scanned
      · obtain ⟨⟨fraction, t⟩, point, scanned⟩ := bind_eq_ok.1 scanned
        obtain ⟨⟨exponent, _⟩, power, scanned⟩ := bind_eq_ok.1 scanned
        cases scanned
        exact ⟨by simpa using ‹¬(scanDigits s).1.isEmpty = true›, ‹_›, fraction, t, exponent, point, power, rfl⟩
  · rintro ⟨digits, no_zero, fraction, t, exponent, point, power, rfl⟩
    rw [if_neg (by simpa using digits), if_neg no_zero, point]
    exact bind_eq_ok.2 ⟨_, rfl, bind_eq_ok.2 ⟨_, power, rfl⟩⟩

theorem scanNumeral_toDigits (negative : Bool) (n : Nat) :
    scanNumeral negative (Nat.toDigits 10 n) = .ok (⟨negative, digitsOf n, none, none⟩, []) := by
  have digits : scanDigits (Nat.toDigits 10 n) = (digitsOf n, []) :=
    scanDigits_of_digits fun c member => Nat.isDigit_of_mem_toDigits (by decide) (by decide) member
  rw [scanNumeral_eq_ok, digits]
  exact ⟨digitsOf_ne_nil n, not_leading_zero n, none, [], none, rfl, rfl, rfl⟩

theorem scanFraction_of_head {s : List Char} (no_point : s.head? ≠ some '.') : scanFraction s = .ok (none, s) := by
  unfold scanFraction
  split
  · exact absurd rfl no_point
  · rfl

theorem scanSign_of_head {s : List Char} (no_plus : s.head? ≠ some '+') (no_minus : s.head? ≠ some '-') :
    scanSign s = (false, s) := by
  unfold scanSign
  split
  · exact absurd rfl no_plus
  · exact absurd rfl no_minus
  · rfl

theorem scanExponent_of_head {s : List Char} (no_small : s.head? ≠ some 'e') (no_large : s.head? ≠ some 'E') :
    scanExponent s = .ok (none, s) := by
  unfold scanExponent
  split
  · exact absurd rfl no_small
  · exact absurd rfl no_large
  · rfl

section Following

variable {rest : List Char} (after : AfterValue rest)

include after

theorem head?_append_ne {c : Char} (inner : c ∉ delimiters) {s : List Char} (other : s.head? ≠ some c) :
    (s ++ rest).head? ≠ some c := by
  cases s with
  | nil => exact fun same => inner (after c same)
  | cons d s => exact other

theorem scanDigits_append (s : List Char) : scanDigits (s ++ rest) = ((scanDigits s).1, (scanDigits s).2 ++ rest) := by
  induction s with
  | nil =>
    cases rest with
    | nil => rfl
    | cons c s => simp [scanDigits, digit?_of_delimiter c (after c rfl)]
  | cons c s ih =>
    rw [List.cons_append, scanDigits, scanDigits, ih]
    cases digit? c <;> rfl

theorem scanFraction_append {s left : List Char} {fraction : Option (List Nat)}
    (scanned : scanFraction s = .ok (fraction, left)) : scanFraction (s ++ rest) = .ok (fraction, left ++ rest) := by
  by_cases point : s.head? = some '.'
  · obtain ⟨t, rfl⟩ := List.head?_eq_some_iff.1 point
    simp only [scanFraction, List.cons_append, scanDigits_append after] at scanned ⊢
    split at scanned
    · cases scanned
    · rename_i digits
      cases scanned
      rw [if_neg digits]
  · rw [scanFraction_of_head point] at scanned
    cases scanned
    exact scanFraction_of_head (head?_append_ne after (by decide) point)

theorem scanSign_append (s : List Char) : scanSign (s ++ rest) = ((scanSign s).1, (scanSign s).2 ++ rest) := by
  by_cases plus : s.head? = some '+'
  · obtain ⟨t, rfl⟩ := List.head?_eq_some_iff.1 plus
    rfl
  · by_cases minus : s.head? = some '-'
    · obtain ⟨t, rfl⟩ := List.head?_eq_some_iff.1 minus
      rfl
    · rw [scanSign_of_head plus minus]
      exact scanSign_of_head (head?_append_ne after (by decide) plus) (head?_append_ne after (by decide) minus)

theorem scanExponent_append {s left : List Char} {exponent : Option (Bool × List Nat)}
    (scanned : scanExponent s = .ok (exponent, left)) : scanExponent (s ++ rest) = .ok (exponent, left ++ rest) := by
  by_cases small : s.head? = some 'e'
  · obtain ⟨t, rfl⟩ := List.head?_eq_some_iff.1 small
    simp only [scanExponent, List.cons_append, scanSign_append after, scanDigits_append after] at scanned ⊢
    split at scanned
    · cases scanned
    · rename_i digits
      cases scanned
      rw [if_neg digits]
  · by_cases large : s.head? = some 'E'
    · obtain ⟨t, rfl⟩ := List.head?_eq_some_iff.1 large
      simp only [scanExponent, List.cons_append, scanSign_append after, scanDigits_append after] at scanned ⊢
      split at scanned
      · cases scanned
      · rename_i digits
        cases scanned
        rw [if_neg digits]
    · rw [scanExponent_of_head small large] at scanned
      cases scanned
      exact scanExponent_of_head (head?_append_ne after (by decide) small) (head?_append_ne after (by decide) large)

theorem scanNumeral_append {negative : Bool} {s left : List Char} {m : Numeral}
    (scanned : scanNumeral negative s = .ok (m, left)) :
    scanNumeral negative (s ++ rest) = .ok (m, left ++ rest) := by
  obtain ⟨digits, no_zero, fraction, t, exponent, point, power, rfl⟩ := scanNumeral_eq_ok.1 scanned
  rw [scanNumeral_eq_ok, scanDigits_append after]
  exact ⟨digits, no_zero, fraction, t ++ rest, exponent, scanFraction_append after point,
    scanExponent_append after power, rfl⟩

end Following

theorem writeNumber_natCast (n : Nat) : writeNumber (.integer n) = Nat.toDigits 10 n := by
  have text : toString (n : Int) = toString n := rfl
  rw [writeNumber, text, Nat.toString_eq_ofList_toDigits, String.toList_ofList]

theorem writeNumber_negSucc (n : Nat) : writeNumber (.integer (.negSucc n)) = '-' :: Nat.toDigits 10 (n + 1) := by
  have text : toString (Int.negSucc n) = "-" ++ toString (n + 1) := rfl
  rw [writeNumber, text, String.toList_append, Nat.toString_eq_ofList_toDigits]
  exact congrArg (['-'] ++ ·) String.toList_ofList

theorem toDigits_eq_cons (n : Nat) : ∃ c ds, Nat.toDigits 10 n = c :: ds ∧ c.isDigit = true := by
  obtain ⟨c, ds, whole⟩ := List.exists_cons_of_ne_nil (Nat.toDigits_ne_nil (n := n) (b := 10))
  exact ⟨c, ds, whole, Nat.isDigit_of_mem_toDigits (b := 10) (n := n) (by decide) (by decide) (by simp [whole])⟩

theorem toNumber_digitsOf {negative : Bool} {m : Nat} {n : Int} (value : (if negative then -(m : Int) else m) = n)
    (proper : ¬(negative = true ∧ m = 0)) (fits : Number.fits n = true) :
    Numeral.toNumber ⟨negative, digitsOf m, none, none⟩ = .ok (.integer n) := by
  rw [Numeral.toNumber, foldl_digitsOf]
  simp only [value, fits, proper, Option.isNone_none, not_false_eq_true, and_self, ↓reduceIte]

theorem scanNumber_signed (s : List Char) : scanNumber ('-' :: s) =
    match scanNumeral true s with
    | .ok (m, rest) => (⟨m.toNumber, none⟩, some rest)
    | .error f => (⟨.error f, some .invalidNumber⟩, none) := rfl

theorem scanNumber_unsigned {s : List Char} (unsigned : s.head? ≠ some '-') : scanNumber s =
    match scanNumeral false s with
    | .ok (m, rest) => (⟨m.toNumber, none⟩, some rest)
    | .error f => (⟨.error f, some .invalidNumber⟩, none) := by
  unfold scanNumber
  split
  rename_i negative digits sign
  split at sign
  · exact absurd rfl unsigned
  · obtain ⟨rfl, rfl⟩ := Prod.mk.inj sign
    rfl

/-- A number that is scanned to the end of a text is scanned before whatever may follow a value. -/
theorem scanNumber_append {s rest : List Char} {scan : Scan Number} (after : AfterValue rest)
    (scanned : scanNumber s = (scan, some [])) : scanNumber (s ++ rest) = (scan, some rest) := by
  by_cases signed : s.head? = some '-'
  · obtain ⟨t, rfl⟩ := List.head?_eq_some_iff.1 signed
    rw [List.cons_append, scanNumber_signed] at *
    split at scanned
    · rename_i whole
      cases scanned
      rw [scanNumeral_append after whole]
      rfl
    · cases scanned
  · rw [scanNumber_unsigned signed] at scanned
    rw [scanNumber_unsigned (head?_append_ne after (by decide) signed)]
    split at scanned
    · rename_i whole
      cases scanned
      rw [scanNumeral_append after whole]
      rfl
    · cases scanned

theorem scanNumber_integer {n : Int} (fits : Number.fits n = true) :
    scanNumber (writeNumber (.integer n)) = (.plain (.integer n), some []) := by
  cases n with
  | ofNat n =>
    obtain ⟨c, ds, whole, digit⟩ := toDigits_eq_cons n
    have unsigned : (Nat.toDigits 10 n).head? ≠ some '-' := by
      rw [whole]
      rintro ⟨⟩
      exact absurd digit (by decide)
    have number : Numeral.toNumber ⟨false, digitsOf n, none, none⟩ = .ok (.integer n) :=
      toNumber_digitsOf rfl (by simp) fits
    rw [Int.ofNat_eq_natCast, writeNumber_natCast, scanNumber_unsigned unsigned, scanNumeral_toDigits]
    simp only [number]
    rfl
  | negSucc n =>
    have number : Numeral.toNumber ⟨true, digitsOf (n + 1), none, none⟩ = .ok (.integer (.negSucc n)) :=
      toNumber_digitsOf rfl (by simp) fits
    rw [writeNumber_negSucc, scanNumber_signed, scanNumeral_toDigits]
    simp only [number]
    rfl

/-- The characters that are escaped with a letter or as themselves. -/
def shortEscapes : List Char := ['"', '\\', '\n', '\r', '\t', '\x08', '\x0c']

/-- The part of a string that a character is written as. -/
def pieceOf (c : Char) : Piece :=
  if c ∈ shortEscapes then .short c else if c.toNat < 0x20 then .unit c.toNat else .plain c

theorem hexValue?_hexDigit : ∀ n < 16, hexValue? (hexDigit n) = some n := by decide

theorem unit?_hexDigit {n : Nat} (small : n < 0x20) :
    unit? '0' '0' (hexDigit (n / 16)) (hexDigit (n % 16)) = some n := by
  have high := hexValue?_hexDigit (n / 16) (by omega)
  have low := hexValue?_hexDigit (n % 16) (by omega)
  have zero : hexValue? '0' = some 0 := rfl
  rw [unit?, zero, high, low]
  exact congrArg some (by omega)

theorem scanPieces_short {e c : Char} (letter : e ≠ 'u') (short : short? e = some c) (s : List Char) :
    scanPieces ('\\' :: e :: s) = (.short c :: (scanPieces s).1, (scanPieces s).2) := by
  rw [scanPieces, short]
  · rintro _ _ _ _ _ rfl
    exact absurd rfl letter
  · rintro rfl
    exact absurd rfl letter

theorem scanPieces_unit {a b c d : Char} {u : Nat} (unit : unit? a b c d = some u) (s : List Char) :
    scanPieces ('\\' :: 'u' :: a :: b :: c :: d :: s) = (.unit u :: (scanPieces s).1, (scanPieces s).2) := by
  rw [scanPieces, unit]

theorem scanPieces_plain {c : Char} (unquoted : c ≠ '"') (unescaped : c ≠ '\\') (printed : ¬c.toNat < 0x20)
    (s : List Char) : scanPieces (c :: s) = (.plain c :: (scanPieces s).1, (scanPieces s).2) := by
  rw [scanPieces, if_neg printed]
  all_goals
    intros
    contradiction

theorem scanPieces_escape (c : Char) (s : List Char) :
    scanPieces (escape c ++ s) = (pieceOf c :: (scanPieces s).1, (scanPieces s).2) := by
  by_cases special : c ∈ shortEscapes
  · simp only [shortEscapes, List.mem_cons, List.not_mem_nil, or_false] at special
    rcases special with rfl | rfl | rfl | rfl | rfl | rfl | rfl <;> exact scanPieces_short (by decide) rfl s
  · rw [pieceOf, if_neg special]
    simp only [shortEscapes, List.mem_cons, List.not_mem_nil, or_false, not_or] at special
    obtain ⟨unquoted, unescaped, no_newline, no_return, no_tab, no_backspace, no_feed⟩ := special
    simp only [escape, unquoted, unescaped, no_newline, no_return, no_tab, no_backspace, no_feed, ↓reduceIte]
    split
    · exact scanPieces_unit (unit?_hexDigit ‹_›) s
    · exact scanPieces_plain unquoted unescaped ‹_› s

theorem spell_pieceOf (stop : StringEnd) (c : Char) (ps : List Piece) :
    spell stop (pieceOf c :: ps) = (spell stop ps).map (c :: ·) := by
  unfold pieceOf
  split
  · rw [spell]
  · split
    · have low : isTrailing c.toNat = false ∧ isLeading c.toNat = false := by
        simp only [isTrailing, isLeading, Bool.and_eq_false_iff, decide_eq_false_iff_not]
        omega
      rw [spell.eq_def]
      simp only [low, Bool.false_eq_true, ↓reduceIte, Char.ofNat_toNat]
    · rw [spell]

theorem scanPieces_flatMap_escape (cs rest : List Char) :
    scanPieces (cs.flatMap escape ++ '"' :: rest) = (cs.map pieceOf, .closed rest) := by
  induction cs with
  | nil => rw [List.flatMap_nil, List.nil_append, scanPieces, List.map_nil]
  | cons c cs ih => rw [List.flatMap_cons, List.append_assoc, scanPieces_escape, ih, List.map_cons]

theorem spell_pieces (cs rest : List Char) : spell (.closed rest) (cs.map pieceOf) = .ok cs := by
  induction cs with
  | nil => rfl
  | cons c cs ih =>
    rw [List.map_cons, spell_pieceOf, ih]
    rfl

theorem scanString_quote (s : String) (rest : List Char) :
    scanString (s.toList.flatMap escape ++ '"' :: rest) = (.plain s, some rest) := by
  rw [scanString, scanPieces_flatMap_escape]
  simp only [spell_pieces, Except.map, String.ofList_toList]
  rfl

end Harvest.Json

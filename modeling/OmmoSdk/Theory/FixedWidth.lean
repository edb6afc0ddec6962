/-
# Theory.FixedWidth — decimal fields of a fixed width, written and read

`paddedDigits width n` are the digits of `n` with zeros in front, as many as the width asks
for; `formatD` is what `printf` writes for `%0wd`.  A `Reader` consumes a text from the left:
`number` a field of exactly so many digits, `literal` one given character.  A field that
fits its width is read back as the number that was written (`run_number`), whatever text
follows it.
-/
import Mathlib.Data.List.Basic
import Mathlib.Tactic

namespace OmmoSdk.Theory

set_option autoImplicit false

/-! ## Writing -/

def paddedDigits (width n : Nat) : List Char :=
  List.replicate (width - (Nat.toDigits 10 n).length) '0' ++ Nat.toDigits 10 n

/-- `%0wd`: the sign counts for the width. -/
def formatD (width : Nat) (n : Int) : List Char :=
  if n < 0 then '-' :: paddedDigits (width - 1) n.natAbs else paddedDigits width n.natAbs

theorem formatD_natCast (width n : Nat) : formatD width n = paddedDigits width n := by
  rw [formatD, if_neg (Int.not_lt.mpr (Int.natCast_nonneg n)), Int.natAbs_natCast]

theorem length_paddedDigits {width n : Nat} (pos : 0 < width) (fits : n < 10 ^ width) :
    (paddedDigits width n).length = width := by
  have short := (Nat.length_toDigits_le_iff (by decide) pos).mpr fits
  rw [paddedDigits, List.length_append, List.length_replicate]
  omega

theorem isDigit_of_mem_paddedDigits {width n : Nat} {c : Char} (member : c ∈ paddedDigits width n) :
    c.isDigit := by
  rcases List.mem_append.mp member with zero | digit
  · rw [List.eq_of_mem_replicate zero]
    decide
  · exact Nat.isDigit_of_mem_toDigits (by decide) (by decide) digit

theorem ofDigitChars_paddedDigits (width n : Nat) :
    Nat.ofDigitChars 10 (paddedDigits width n) 0 = n := by
  rw [paddedDigits, Nat.ofDigitChars_append, Nat.ofDigitChars_replicate_zero, Nat.mul_zero,
    Nat.ofDigitChars_ten_toDigits]

/-! ## Reading -/

abbrev Reader := StateT (List Char) Option

namespace Reader

variable {α β : Type}

/-- A field of exactly `width` digits. -/
def number (width : Nat) : Reader Nat := fun text =>
  if (text.take width).length = width ∧ (text.take width).all Char.isDigit then
    some (Nat.ofDigitChars 10 (text.take width) 0, text.drop width)
  else none

/-- The next character, whichever it is. -/
def anyChar : Reader Char
  | [] => none
  | c :: rest => some (c, rest)

def literal (expected : Char) : Reader Unit := do
  let c ← anyChar
  guard (c = expected)

/-- Read a text to its end. -/
def readAll (reader : Reader α) (text : List Char) : Option α :=
  match reader.run text with
  | some (v, []) => some v
  | _ => none

theorem run_bind {reader : Reader α} {next : α → Reader β} {text rest : List Char} {v : α}
    (first : reader.run text = some (v, rest)) :
    (reader >>= next).run text = (next v).run rest := by
  rw [StateT.run_bind, first]
  rfl

theorem readAll_of_run {reader : Reader α} {text : List Char} {v : α}
    (whole : reader.run text = some (v, [])) : reader.readAll text = some v := by
  rw [readAll, whole]

theorem run_number {width n : Nat} (pos : 0 < width) (fits : n < 10 ^ width) (rest : List Char) :
    (number width).run (paddedDigits width n ++ rest) = some (n, rest) := by
  have length := length_paddedDigits pos fits
  have field : (paddedDigits width n ++ rest).take width = paddedDigits width n :=
    List.take_left' length
  show number width _ = _
  have digits : (paddedDigits width n).all Char.isDigit :=
    List.all_eq_true.mpr fun c => isDigit_of_mem_paddedDigits
  rw [number, field, if_pos ⟨length, digits⟩,
    ofDigitChars_paddedDigits, List.drop_left' length]

theorem run_literal (c : Char) (rest : List Char) :
    (literal c).run (c :: rest) = some ((), rest) := by
  have next : anyChar.run (c :: rest) = some (c, rest) := rfl
  rw [literal, run_bind next, guard, if_pos rfl]
  rfl

end Reader

end OmmoSdk.Theory

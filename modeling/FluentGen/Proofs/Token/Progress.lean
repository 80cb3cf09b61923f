import FluentGen.Token.Lexer
import Mathlib.Data.List.TakeWhile

/-!
# Progress of the lexer

Whatever the lexer takes is a character at least, so that it never runs out of steps: more steps
than there are characters change nothing (`Lexer.scan_enough`).
-/

namespace FluentGen.Lexer

open Text

variable {cs rest : List Char}

/-! ## Identifiers -/

/-- Nothing is added where characters are dropped. -/
lemma length_dropWhile (test : Char → Bool) (cs : List Char) :
    (cs.dropWhile test).length ≤ cs.length :=
  (List.dropWhile_suffix test).length_le

/-- A plain identifier is not empty. -/
lemma length_of_plainIdent {word : List Char} (found : plainIdent? cs = some (word, rest)) :
    rest.length < cs.length := by
  cases cs with
  | nil => cases found
  | cons c cs =>
    rw [plainIdent?] at found
    split at found
    · cases found
      exact Nat.lt_succ_of_le (length_dropWhile _ _)
    · cases found

/-- What is expected in front is taken away as a whole. -/
lemma length_of_after {front : List Char} (found : after? front cs = some rest) :
    cs.length = front.length + rest.length := by
  induction front generalizing cs with
  | nil =>
    cases found
    simp
  | cons p front ih =>
    cases cs with
    | nil => cases found
    | cons c cs =>
      rw [after?] at found
      split at found
      · have := ih found
        simp only [List.length_cons]
        omega
      · cases found

/-- An identifier that may be raw is not empty. -/
lemma length_of_anyIdent {name : Name} (found : anyIdent? cs = some (name, rest)) :
    rest.length < cs.length := by
  rw [anyIdent?] at found
  split at found
  · next inner marked =>
    obtain ⟨⟨word, left⟩, plain, found⟩ := Option.bind_eq_some_iff.1 found
    have mark := length_of_after marked
    have letters := length_of_plainIdent plain
    simp only at found
    split at found
    · cases found
    · cases found
      omega
  · obtain ⟨⟨word, left⟩, plain, found⟩ := Option.bind_eq_some_iff.1 found
    cases found
    exact length_of_plainIdent plain

/-- An identifier that may be used is not empty. -/
lemma length_of_ident {name : Name} (found : ident? cs = some (name, rest)) :
    rest.length < cs.length := by
  rw [ident?] at found
  split at found
  · cases found
  · exact length_of_anyIdent found

/-! ## Quoted literals -/

/-- A suffix may be empty. -/
lemma length_afterSuffix (cs : List Char) : (afterSuffix cs).length ≤ cs.length := by
  rw [afterSuffix]
  split
  · next found => exact (length_of_plainIdent found).le
  · exact le_rfl

/-- The escape of a code point is not empty. -/
lemma length_of_codePoint {count value : Nat} {c : Char}
    (found : codePoint? count value cs = some (c, rest)) : rest.length < cs.length := by
  fun_induction codePoint? count value cs <;> simp_all <;> omega

/-- An escape is not empty. -/
lemma length_of_afterEscape {family : Quoted} (found : afterEscape? family cs = some rest) :
    rest.length < cs.length := by
  revert found
  fun_cases afterEscape? family cs <;> grind [→ length_of_codePoint]

/-- A line may end in one character or in two. -/
lemma length_of_afterLineEnd {c : Char} (found : afterLineEnd? c cs = some rest) :
    rest.length ≤ cs.length := by
  fun_induction afterLineEnd? c cs <;> grind

/-- A string ends with a quote at least. -/
lemma length_of_afterCooked {family : Quoted} {fuel : Nat}
    (found : afterCooked? family fuel cs = some rest) : rest.length < cs.length := by
  induction fuel generalizing cs with
  | zero => cases found
  | succ fuel ih =>
    unfold afterCooked? at found
    split at found
    · cases found
      exact Nat.lt_succ_of_le (length_afterSuffix _)
    · have := ih found
      simp only [List.length_cons]
      omega
    · cases found
    · next c after =>
      split at found
      · obtain ⟨left, blank, cooked⟩ := Option.bind_eq_some_iff.1 found
        have := length_of_afterLineEnd blank
        have := ih cooked
        simp only [List.length_cons]
        omega
      · obtain ⟨left, escape, cooked⟩ := Option.bind_eq_some_iff.1 found
        have := length_of_afterEscape escape
        have := ih cooked
        simp only [List.length_cons] at *
        omega
    · cases found
    · split at found
      · exact Nat.lt_succ_of_lt (ih found)
      · cases found
    · cases found

/-- So does a raw string. -/
lemma length_of_afterRawBody {family : Quoted} {hashes : List Char}
    (found : afterRawBody? family hashes cs = some rest) : rest.length < cs.length := by
  fun_induction afterRawBody? family hashes cs <;>
    grind [length_afterSuffix, → length_of_after]

/-- The marks in front of a raw string only add to it. -/
lemma length_of_afterRaw {family : Quoted} (found : afterRaw? family cs = some rest) :
    rest.length < cs.length := by
  have hashes := length_dropWhile (· == '#') cs
  rw [afterRaw?] at found
  split at found
  · next inner quoted =>
    rw [quoted, List.length_cons] at hashes
    split at found
    · have := length_of_afterRawBody found
      omega
    · cases found
  · cases found

/-- A character is not empty. -/
lemma length_of_afterCharacter {family : Quoted} (found : afterCharacter? family cs = some rest) :
    rest.length < cs.length := by
  simp only [afterCharacter?] at found
  split at found
  · obtain ⟨left, escape, closed⟩ := Option.bind_eq_some_iff.1 found
    have := length_of_afterEscape escape
    split at closed
    · next after =>
      cases closed
      have := length_afterSuffix after
      simp only [List.length_cons] at *
      omega
    · cases closed
  · split at found
    · obtain ⟨left, same, closed⟩ := Option.bind_eq_some_iff.1 found
      cases same
      split at closed
      · next after =>
        cases closed
        have := length_afterSuffix after
        simp only [List.length_cons]
        omega
      · cases closed
    · cases found
  · cases found

/-- Nothing in quotes is empty, whatever its prefix is. -/
lemma length_of_afterQuoted (found : afterQuoted? cs = some rest) : rest.length < cs.length := by
  revert found
  fun_cases afterQuoted? cs <;> grind [→ length_of_afterCooked, → length_of_afterRaw,
    → length_of_afterCharacter]

/-! ## Numbers -/

/-- A number may have no suffix. -/
lemma length_of_afterNumberSuffix (found : afterNumberSuffix? cs = some rest) :
    rest.length ≤ cs.length := by
  have suffix := length_afterSuffix cs
  revert found
  fun_cases afterNumberSuffix? cs <;> grind

/-- An exponent may have no digits. -/
lemma length_exponentDigits (cs : List Char) : (exponentDigits cs).2.length ≤ cs.length :=
  length_dropWhile _ _

/-- An exponent takes nothing back. -/
lemma length_of_afterExponent (found : afterExponent? cs = some rest) :
    rest.length ≤ cs.length := by
  have low := length_dropWhile (· == '_') cs
  revert found
  fun_cases afterExponent? cs <;> grind [length_exponentDigits]

/-- The digits of a number with a point or an exponent are not empty. -/
lemma length_of_afterFloatDigits (found : afterFloatDigits? cs = some rest) :
    rest.length < cs.length := by
  cases cs with
  | nil => cases found
  | cons c cs =>
    simp only [afterFloatDigits?] at found
    split at found
    · cases found
    · next digit =>
      have digits := length_dropWhile (fun c => c.isDigit || c == '_') cs
      rw [Bool.not_eq_true', Bool.not_eq_false] at digit
      rw [List.dropWhile_cons_of_pos (by simp [digit])] at found
      split at found
      · next fraction whole =>
        have more := length_dropWhile (fun c => c.isDigit || c == '_') fraction
        rw [whole, List.length_cons] at digits
        obtain ⟨-, found⟩ := Option.ite_none_left_eq_some.1 found
        split at found
        · next e after left =>
          rw [left, List.length_cons] at more
          split at found
          · cases found
            cases exponent : afterExponent? after with
            | none =>
              simp only [Option.getD_none, List.length_cons]
              omega
            | some last =>
              have := length_of_afterExponent exponent
              simp only [Option.getD_some, List.length_cons]
              omega
          · cases found
            simp only [List.length_cons]
            omega
        · cases found
          simp
      · next e after whole =>
        rw [whole, List.length_cons] at digits
        split at found
        · have := length_of_afterExponent found
          simp only [List.length_cons]
          omega
        · cases found
      · cases found

/-- Digits take nothing back. -/
lemma length_of_afterDigits {base : Nat} {any : Bool} (found : afterDigits? base any cs = some rest) :
    rest.length ≤ cs.length := by
  fun_induction afterDigits? base any cs <;> grind

/-- Decimal digits begin with a digit. -/
lemma length_of_afterDecimal (found : afterDigits? 10 false cs = some rest) :
    rest.length < cs.length := by
  cases cs with
  | nil => cases found
  | cons c cs =>
    rw [afterDigits?] at found
    have behind (any : Bool) (read : afterDigits? 10 any cs = some rest) :
        rest.length < cs.length + 1 := Nat.lt_succ_of_le (length_of_afterDigits read)
    split at found
    · split at found
      · cases found
      · exact behind _ found
    · split at found
      · split at found
        · cases found
        · exact behind _ found
      · split at found
        · cases found
        · cases found

/-- The digits of an integer are not empty. -/
lemma length_of_afterIntDigits (found : afterIntDigits? cs = some rest) :
    rest.length < cs.length := by
  revert found
  fun_cases afterIntDigits? cs <;> grind [→ length_of_afterDigits, → length_of_afterDecimal]

/-- A literal is not empty. -/
lemma length_of_afterLiteral (found : afterLiteral? cs = some rest) : rest.length < cs.length := by
  rw [afterLiteral?] at found
  split at found
  · next quoted =>
    cases found
    exact length_of_afterQuoted quoted
  · split at found
    · next number =>
      cases found
      obtain ⟨left, digits, suffix⟩ := Option.bind_eq_some_iff.1 number
      have := length_of_afterFloatDigits digits
      have := length_of_afterNumberSuffix suffix
      omega
    · obtain ⟨left, digits, suffix⟩ := Option.bind_eq_some_iff.1 found
      have := length_of_afterIntDigits digits
      have := length_of_afterNumberSuffix suffix
      omega

/-! ## Other tokens -/

/-- A punctuation character is one character at least. -/
lemma length_of_punctChar {c : Char} (found : punctChar? cs = some (c, rest)) :
    rest.length < cs.length := by
  revert found
  fun_cases punctChar? cs <;> grind

/-- A punctuation token is not empty. -/
lemma length_of_punct {token : Token} (found : punct? cs = some (token, rest)) :
    rest.length < cs.length := by
  obtain ⟨⟨c, after⟩, char, found⟩ := Option.bind_eq_some_iff.1 found
  have := length_of_punctChar char
  simp only at found
  split at found
  · obtain ⟨_, -, found⟩ := Option.bind_eq_some_iff.1 found
    split at found
    · cases found
    · cases found
      exact this
  · cases found
    exact this

/-- A comment in the middle of a line ends with its mark. -/
lemma length_of_blockComment {depth : Nat} {inside : List Char}
    (found : blockComment? depth cs = some (inside, rest)) : rest.length < cs.length := by
  fun_induction blockComment? depth cs generalizing inside <;>
    grind [Option.map_eq_some_iff]

/-- A comment is not empty. -/
lemma length_of_afterComment (found : afterComment? cs = some rest) : rest.length < cs.length := by
  revert found
  fun_cases afterComment? cs <;>
    grind [length_dropWhile, Option.map_eq_some_iff, → length_of_blockComment]

/-- A line takes nothing back. -/
lemma length_line (cs : List Char) : (line cs).2.length ≤ cs.length := by
  fun_induction line cs <;> grind

/-- A documentation comment is not empty. -/
lemma length_of_documentation {text : List Char} {inner : Bool}
    (found : documentation? cs = some (text, inner, rest)) : rest.length < cs.length := by
  revert found
  fun_cases documentation? cs <;>
    grind [length_line, Option.map_eq_some_iff, → length_of_blockComment]

/-- No token is empty. -/
lemma length_of_leaf {token : Token} (found : leaf? cs = some (token, rest)) :
    rest.length < cs.length := by
  rw [leaf?] at found
  split at found
  · next literal =>
    cases found
    exact length_of_afterLiteral literal
  · split at found
    · next punct =>
      cases found
      exact length_of_punct punct
    · split at found
      · next ident =>
        cases found
        exact length_of_ident ident
      · obtain ⟨left, mark, same⟩ := Option.map_eq_some_iff.1 found
        cases same
        have := length_of_after mark
        have : 0 < errorMark.toList.length := by decide
        omega

/-! ## The token list -/

/-- With more steps than there are characters, their number does not matter. -/
theorem scan_enough {fuel more : Nat} {stack : List Delimiter} (enough : cs.length < fuel)
    (plenty : cs.length < more) : scan fuel stack cs = scan more stack cs := by
  induction fuel generalizing more stack cs with
  | zero => omega
  | succ fuel ih =>
    obtain ⟨more, rfl⟩ := Nat.exists_eq_add_one_of_ne_zero (Nat.ne_zero_of_lt plenty)
    cases cs with
    | nil => cases stack <;> rfl
    | cons c cs =>
      -- each way to go on leaves fewer characters for the steps that are left
      have onward {stack : List Delimiter} {rest : List Char} (taken : rest.length < (c :: cs).length) :
          scan fuel stack rest = scan more stack rest := ih (by omega) (by omega)
      rw [scan, scan]
      cases comment : afterComment? (c :: cs) with
      | some rest => exact onward (length_of_afterComment comment)
      | none =>
        simp only [onward (Nat.lt_succ_self cs.length)]
        cases shown : documentation? (c :: cs) with
        | some found =>
          obtain ⟨text, inner, rest⟩ := found
          simp only [onward (length_of_documentation shown)]
        | none =>
          cases leaf : leaf? (c :: cs) with
          | some found =>
            obtain ⟨token, rest⟩ := found
            simp only [onward (length_of_leaf leaf)]
          | none => rfl

end FluentGen.Lexer

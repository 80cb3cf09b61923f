import FluentGen.Proofs.Token.Lexer

/-!
# Displayed tokens

The text of identifiers gives the identifiers again. This is put together from the back to the
front, since how a token is read depends on nothing but the first character behind it.
-/

namespace FluentGen

namespace Lexer

open Text

/-! ## Fuel -/

/-- What is read with some fuel is read with more. -/
lemma scan_succ {fuel : Nat} {stack : List Delimiter} {cs : List Char} {tokens : List Token}
    (found : scan fuel stack cs = some tokens) : scan (fuel + 1) stack cs = some tokens := by
  fun_induction scan fuel stack cs generalizing tokens
  case case2 => exact found
  case case4 comment ih =>
    rw [scan]
    simp only [comment]
    exact ih found
  case case5 comment blank ih =>
    rw [scan]
    simp only [comment, blank, ↓reduceIte]
    exact ih found
  case case6 comment blank text inner rest shown paired ih =>
    obtain ⟨others, later, rfl⟩ := Option.map_eq_some_iff.1 found
    rw [scan]
    simp [comment, blank, shown, paired, ih later]
  case case8 comment blank plain delimiter bracket ih =>
    obtain ⟨others, later, rfl⟩ := Option.map_eq_some_iff.1 found
    rw [scan]
    simp [comment, blank, plain, bracket, ih later]
  case case9 comment blank plain innermost stack bracket ih =>
    obtain ⟨others, later, rfl⟩ := Option.map_eq_some_iff.1 found
    rw [scan]
    simp [comment, blank, plain, bracket, ih later]
  case case12 comment blank plain bracket token rest leaf ih =>
    obtain ⟨others, later, rfl⟩ := Option.map_eq_some_iff.1 found
    rw [scan]
    simp only [comment, blank, Bool.false_eq_true, ↓reduceIte, plain, bracket, leaf, ih later]
    rfl
  -- all others end without tokens
  all_goals cases found

/-- What is read with some fuel is read with any amount of more. -/
lemma scan_mono {fuel more : Nat} {stack : List Delimiter} {cs : List Char} {tokens : List Token}
    (found : scan fuel stack cs = some tokens) (enough : fuel ≤ more) :
    scan more stack cs = some tokens := by
  induction enough with
  | refl => exact found
  | step _ ih => exact scan_succ ih

/-! ## Identifiers -/

section

variable {c d : Char} {cs tail : List Char}

/-- An identifier does not begin with a character that begins none. -/
lemma ne_of_startsIdent (begins : startsIdent c = true) (other : startsIdent d = false) : c ≠ d := by
  rintro rfl
  rw [begins] at other
  cases other

/-- Whatever begins an identifier is none of the given characters. -/
lemma notMem_of_startsIdent {others : List Char} (begins : startsIdent c = true)
    (apart : others.all (!startsIdent ·) = true) : c ∉ others :=
  fun inside => by simpa [begins] using List.all_eq_true.1 apart c inside

/-- No blank begins an identifier. -/
lemma isSpace_of_startsIdent (begins : startsIdent c = true) : isSpace c = false := by
  have blank := isBlank_of_continuesIdent (continuesIdent_of_startsIdent begins)
  rw [isSpace, blank, Bool.false_or, Bool.or_eq_false_iff]
  exact ⟨beq_eq_false_iff_ne.2 (ne_of_startsIdent begins (by decide +kernel)),
    beq_eq_false_iff_ne.2 (ne_of_startsIdent begins (by decide +kernel))⟩

/-- No digit begins an identifier. -/
lemma isDigit_of_startsIdent (begins : startsIdent c = true) : c.isDigit = false := by
  have table : ∀ code < 58, 48 ≤ code → startsIdent (Char.ofNat code) = false := by decide
  by_contra digit
  rw [Bool.not_eq_false] at digit
  simp only [Char.isDigit, Bool.and_eq_true, decide_eq_true_eq] at digit
  have other := table c.toNat (by
    have := UInt32.le_iff_toNat_le.1 digit.2
    exact Nat.lt_succ_of_le this) (UInt32.le_iff_toNat_le.1 digit.1)
  rw [Char.ofNat_toNat, begins] at other
  cases other

/-- Where a token ends that may be followed by a space or by a closing bracket. -/
def Ends (tail : List Char) : Prop :=
  ∀ c ∈ tail.head?, c ∈ [' ', ')', ']']

/-- Characters that begin with the rest of an identifier, behind which a token ends. -/
def Wordy (cs : List Char) : Prop :=
  ∃ word tail, cs = word ++ tail ∧ (∀ c ∈ word, continuesIdent c = true) ∧ Ends tail

/-- A word does not begin like the rest of a literal. -/
lemma Wordy.head (wordy : Wordy cs) : ∀ c ∈ cs.head?, c ∉ ['\x22', '#', '\''] := by
  obtain ⟨word, tail, rfl, letters, ends⟩ := wordy
  intro c first quote
  have apart : ∀ d ∈ ['\x22', '#', '\''], continuesIdent d = false ∧ d ∉ [' ', ')', ']'] :=
    List.all_iff_forall_prop.1 (by decide)
  cases word with
  | nil => exact (apart c quote).2 (ends c first)
  | cons letter word =>
    obtain rfl : letter = c := by simpa using first
    exact absurd (letters letter List.mem_cons_self) (by rw [(apart letter quote).1]; nofun)

/-- A word without its first letter is a word. -/
lemma Wordy.behind (wordy : Wordy (c :: cs)) (letter : c ∉ [' ', ')', ']']) : Wordy cs := by
  obtain ⟨word, tail, same, letters, ends⟩ := wordy
  cases word with
  | nil =>
    cases same
    exact absurd (ends c rfl) letter
  | cons first word =>
    cases same
    exact ⟨word, tail, rfl, fun c inside => letters c (List.mem_cons_of_mem _ inside), ends⟩

/-- No raw literal begins with letters. -/
lemma afterRaw?_wordy {family : Quoted} (wordy : Wordy cs) : afterRaw? family cs = none := by
  cases cs with
  | nil => rfl
  | cons c cs =>
    have other := wordy.head c rfl
    simp only [List.mem_cons, not_or] at other
    simp only [afterRaw?, List.dropWhile_cons, beq_eq_false_iff_ne.2 other.2.1]
    split
    · next same => exact absurd (List.cons.inj same).1 other.1
    · rfl

/-- No literal in quotes begins with letters. -/
lemma afterQuoted?_wordy (wordy : Wordy cs) : afterQuoted? cs = none := by
  unfold afterQuoted?
  split
  · exact absurd (wordy.head _ rfl) (by simp)
  · exact afterRaw?_wordy (wordy.behind (by decide))
  · exact absurd ((wordy.behind (by decide)).head _ rfl) (by simp)
  · exact afterRaw?_wordy ((wordy.behind (by decide)).behind (by decide))
  · exact absurd ((wordy.behind (by decide)).head _ rfl) (by simp)
  · exact absurd ((wordy.behind (by decide)).head _ rfl) (by simp)
  · exact afterRaw?_wordy ((wordy.behind (by decide)).behind (by decide))
  · exact absurd (wordy.head _ rfl) (by simp)
  · rfl

/-- Letters do not begin with a text that has a quote or a hash in it. -/
lemma after?_wordy {text : List Char} (wordy : Wordy cs)
    (letters : text.all (· ∉ [' ', ')', ']']) = true)
    (quoted : text.any (· ∈ ['\x22', '#', '\'']) = true) : after? text cs = none := by
  replace letters := List.all_iff_forall_prop.1 letters
  replace quoted := List.any_iff_exists_prop.1 quoted
  induction text generalizing cs with
  | nil =>
    obtain ⟨c, inside, -⟩ := quoted
    cases inside
  | cons first text ih =>
    cases cs with
    | nil => rfl
    | cons c cs =>
      rw [after?]
      split
      · next same =>
        subst same
        obtain ⟨here, others⟩ := List.forall_mem_cons.1 letters
        refine ih (wordy.behind here) others ?_
        obtain ⟨quote, inside, found⟩ := quoted
        rcases List.mem_cons.1 inside with rfl | later
        · exact absurd found (wordy.head _ rfl)
        · exact ⟨quote, later, found⟩
      · rfl

/-- No number begins like an identifier. -/
lemma number_of_startsIdent (begins : startsIdent c = true) (cs : List Char) :
    (afterFloatDigits? (c :: cs)).bind afterNumberSuffix? = none ∧
      (afterIntDigits? (c :: cs)).bind afterNumberSuffix? = none := by
  have digit := isDigit_of_startsIdent begins
  constructor
  · simp [afterFloatDigits?, digit]
  · have zero : c ≠ '0' := ne_of_startsIdent begins (by decide)
    have decimal : afterIntDigits? (c :: cs) = afterDigits? 10 false (c :: cs) := by
      unfold afterIntDigits?
      split
      · next same => exact absurd (List.cons.inj same).1 zero
      · next same => exact absurd (List.cons.inj same).1 zero
      · next same => exact absurd (List.cons.inj same).1 zero
      · rfl
    rw [decimal, afterDigits?, if_neg (by rw [digit]; nofun)]
    split
    · next hex =>
      have large : 10 ≤ hexValue c := by
        rw [hexValue, if_neg (by rw [digit]; nofun)]
        split <;> omega
      rw [if_pos large]
      rfl
    · split <;> rfl

/-- No identifier goes on where a token ends. -/
lemma Ends.continuesIdent (ends : Ends tail) (first : tail.head? = some c) :
    continuesIdent c = false := by
  have apart : ∀ d ∈ [' ', ')', ']'], Text.continuesIdent d = false :=
    List.all_iff_forall_prop.1 (by decide)
  exact apart c (ends c first)

/-- An identifier ends where no letter follows. -/
lemma plainIdent?_append {rest : List Char} (begins : startsIdent c = true)
    (letters : ∀ c ∈ rest, continuesIdent c = true) (ends : Ends tail) :
    plainIdent? (c :: (rest ++ tail)) = some (c :: rest, tail) := by
  have taken : tail.takeWhile Text.continuesIdent = [] ∧ tail.dropWhile Text.continuesIdent = tail := by
    cases tail with
    | nil => exact ⟨rfl, rfl⟩
    | cons first tail =>
      have other := ends.continuesIdent rfl
      exact ⟨List.takeWhile_cons_of_neg (by rw [other]; nofun),
        List.dropWhile_cons_of_neg (by rw [other]; nofun)⟩
  rw [plainIdent?, if_pos begins, List.takeWhile_append_of_pos letters,
    List.dropWhile_append_of_pos letters, taken.1, taken.2, List.append_nil]

/-- What begins an identifier is no punctuation. -/
lemma punct?_of_startsIdent (begins : startsIdent c = true) : punct? (c :: cs) = none := by
  have other : c ∉ punctChars := notMem_of_startsIdent begins (by decide)
  have slash : c ≠ '/' := ne_of_startsIdent begins (by decide)
  have comments : (starts "//" (c :: cs) || starts "/*" (c :: cs)) = false := by
    simp [starts, after?, slash.symm]
  simp [punct?, punctChar?, comments, other]

/-- What is neither quoted nor punctuation is an identifier. -/
lemma leaf?_of_ident {name : Name} {rest : List Char} (begins : startsIdent c = true)
    (plain : afterQuoted? (c :: cs) = none) (found : ident? (c :: cs) = some (name, rest)) :
    leaf? (c :: cs) = some (.ident name, rest) := by
  obtain ⟨float, int⟩ := number_of_startsIdent begins cs
  simp only [leaf?, afterLiteral?, plain, float, int, punct?_of_startsIdent begins, found]

/-- The spelling of a legible name is read as an identifier. -/
lemma leaf?_spelling {name : Name} (legible : name.isLegible = true) (ends : Ends tail) :
    ∃ c cs, name.spelling.toList = c :: cs ∧ startsIdent c = true ∧
      leaf? (c :: (cs ++ tail)) = some (.ident name, tail) := by
  obtain ⟨raw, text⟩ := name
  obtain ⟨first, rest, letters, begins, continues, proper⟩ := Name.exists_of_isLegible legible
  simp only at letters proper
  have word := plainIdent?_append begins continues ends
  have named : String.ofList (first :: rest) = text := by rw [← letters, String.ofList_toList]
  cases raw with
  | false =>
    have wordy : Wordy (first :: (rest ++ tail)) := ⟨first :: rest, tail, rfl,
      List.forall_mem_cons.2 ⟨continuesIdent_of_startsIdent begins, continues⟩, ends⟩
    have other : literalStarts.any (starts · (first :: (rest ++ tail))) = false := by
      rw [List.any_eq_false]
      intro text inside
      have quoted : ∀ text ∈ literalStarts, text.toList.all (· ∉ [' ', ')', ']']) = true ∧
          text.toList.any (· ∈ ['\x22', '#', '\'']) = true := by decide
      rw [starts, after?_wordy wordy (quoted text inside).1 (quoted text inside).2]
      nofun
    refine ⟨first, rest, letters, begins, leaf?_of_ident begins (afterQuoted?_wordy wordy) ?_⟩
    rw [ident?, other, anyIdent?, after?_wordy wordy (by decide) (by decide)]
    simp [word, named, Name.plain]
  | true =>
    have quote : first ≠ '\x22' := ne_of_startsIdent begins (by decide)
    have hash : first ≠ '#' := ne_of_startsIdent begins (by decide)
    have plain : afterQuoted? ('r' :: '#' :: first :: (rest ++ tail)) = none := by
      show afterRaw? .text ('#' :: first :: (rest ++ tail)) = none
      have opened : ('#' :: first :: (rest ++ tail)).dropWhile (· == '#') =
          first :: (rest ++ tail) := by
        simp [hash]
      rw [afterRaw?, opened]
      split
      · next same => exact absurd (List.cons.inj same).1 quote
      · rfl
    have other : literalStarts.any (starts · ('r' :: '#' :: first :: (rest ++ tail))) = false := by
      simp [literalStarts, starts, after?, quote.symm, hash.symm]
    refine ⟨'r', '#' :: first :: rest, ?_, by decide, leaf?_of_ident (by decide) plain ?_⟩
    · simp [Name.spelling, letters]
    · show ident? ('r' :: '#' :: first :: (rest ++ tail)) = _
      rw [ident?, other, anyIdent?]
      simp [after?, word, named, proper]

/-! ## Steps -/

/-- A comment begins with a slash. -/
lemma comments_of_ne (other : c ≠ '/') (cs : List Char) :
    afterComment? (c :: cs) = none ∧ documentation? (c :: cs) = none := by
  constructor
  · unfold afterComment?
    split <;> first | rfl | (next same => exact absurd (List.cons.inj same).1 other)
  · unfold documentation?
    split <;> first | rfl | (next same => exact absurd (List.cons.inj same).1 other)

/-- No other character is a bracket. -/
lemma bracket?_of_notMem (other : c ∉ ['(', '[', '\x7b', ')', ']', '\x7d']) : bracket? c = none := by
  unfold bracket?
  split <;> first | rfl | simp at other

/-- One step over a token that is not a bracket. -/
lemma scan_leaf {fuel : Nat} {stack : List Delimiter} {token : Token} {rest : List Char}
    (slash : c ≠ '/') (blank : isSpace c = false) (bracket : bracket? c = none)
    (leaf : leaf? (c :: cs) = some (token, rest)) :
    scan (fuel + 1) stack (c :: cs) = (scan fuel stack rest).map (token :: ·) := by
  obtain ⟨comment, shown⟩ := comments_of_ne slash cs
  simp only [scan, comment, blank, Bool.false_eq_true, ↓reduceIte, shown, bracket, ite_self, leaf]

end

end Lexer

namespace Token

open Lexer

/-- The text of the tokens is read as these tokens, inside of the given brackets. -/
def Shows (stack : List Delimiter) (tokens : List Token) : Prop :=
  scan ((chars tokens).length + 1) stack (chars tokens) = some tokens

/-- What stands between a token and those behind it. -/
def gap (token : Token) : List Token → List Char
  | [] => []
  | next :: _ => if token.spaced next then [' '] else []

section

variable {token : Token} {rest : List Token} {stack inner : List Delimiter}

/-- The text of a token, of what stands behind it, and of the others. -/
lemma chars_cons : chars (token :: rest) = token.spelling.toList ++ (token.gap rest ++ chars rest) := by
  cases rest <;> simp [chars, gap]

/-- A token whose text is read in one step stands in front of others. -/
lemma Shows.step (shown : Shows inner rest) (written : token.spelling.toList ≠ [])
    (here : ∀ fuel, scan (fuel + 1) stack (chars (token :: rest)) =
      (scan fuel inner (token.gap rest ++ chars rest)).map (token :: ·)) :
    Shows stack (token :: rest) := by
  have skipped : scan (chars (token :: rest)).length inner (token.gap rest ++ chars rest) =
      some rest := by
    have count : 0 < token.spelling.toList.length := List.length_pos_iff.2 written
    have total : (chars (token :: rest)).length =
        token.spelling.toList.length + ((token.gap rest).length + (chars rest).length) := by
      rw [chars_cons, List.length_append, List.length_append]
    have blank (fuel : Nat) (cs : List Char) :
        scan (fuel + 1) inner (' ' :: cs) = scan fuel inner cs := by
      rw [scan]
      simp only [(comments_of_ne (show ' ' ≠ '/' by decide) cs).1,
        show isSpace ' ' = true from rfl, ↓reduceIte]
    unfold gap at total ⊢
    split at total
    · exact scan_mono shown (by simp at total; omega)
    · split at total
      · next next tail spaced =>
        rw [List.length_singleton] at total
        obtain ⟨fuel, same⟩ : ∃ fuel, (chars (token :: next :: tail)).length = fuel + 1 :=
          Nat.exists_eq_add_one_of_ne_zero (by omega)
        rw [same, if_pos spaced, List.singleton_append, blank]
        exact scan_mono shown (by omega)
      · next next _ joined =>
        rw [if_neg joined]
        exact scan_mono shown (by simp at total ⊢; omega)
  rw [Shows, here, skipped]
  rfl

/-- A token behind which a space or a closing bracket follows. -/
lemma ends_gap (apart : ∀ next, token.spaced next = true ∨ next = .closing .paren ∨
    next = .closing .bracket) : Ends (token.gap rest ++ chars rest) := by
  cases rest with
  | nil => nofun
  | cons next rest =>
    rw [gap, chars_cons]
    intro c first
    rcases apart next with spaced | rfl | rfl
    · rw [if_pos spaced] at first
      cases first
      decide
    all_goals
      split at first
      · cases first
        decide
      · cases first
        decide

/-- An identifier in front of other tokens. -/
lemma Shows.ident {name : Name} (shown : Shows stack rest) (legible : name.isLegible = true) :
    Shows stack (.ident name :: rest) := by
  have ends : Ends ((Token.ident name).gap rest ++ chars rest) := ends_gap fun next => by
    cases next with
    | closing delimiter => cases delimiter <;> simp [spaced]
    | _ => exact .inl rfl
  obtain ⟨c, cs, spelled, begins, leaf⟩ := leaf?_spelling legible ends
  have written : (Token.ident name).spelling.toList = c :: cs := spelled
  refine shown.step (by rw [written]; nofun) fun fuel => ?_
  have bracket : bracket? c = none :=
    bracket?_of_notMem (notMem_of_startsIdent begins (by decide))
  rw [chars_cons, written]
  exact scan_leaf (ne_of_startsIdent begins (by decide)) (isSpace_of_startsIdent begins) bracket leaf

/-! ## Whole texts -/

/-- What is shown by itself is read from its text. -/
lemma ofText?_text {tokens : List Token} (shown : Shows [] tokens)
    (mark : (chars tokens).head? ≠ some byteOrderMark) : ofText? (text tokens) = some tokens := by
  have kept : withoutMark (chars tokens) = chars tokens := by
    cases written : chars tokens with
    | nil => rfl
    | cons c cs =>
      rw [written] at mark
      rw [withoutMark, if_neg fun same => mark (by rw [same]; rfl)]
  rw [ofText?, text, String.toList_ofList, kept]
  exact shown

end

end Token

end FluentGen

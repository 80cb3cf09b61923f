import FluentGen.Proofs.Token.Lexer
import FluentGen.Target.Basic

/-!
# JSON texts

What is written as JSON is the text of a JSON value. A text ends where its value ends, so that it
tells the value from every other one, whatever is written behind it (`Json.tells_text`).
-/

namespace FluentGen

namespace Text

/-! ## Telling values apart -/

/-- What is written for a value tells it from every other one, and where it ends. -/
def Tells {α β : Type} (write : α → List β) (a : α) : Prop :=
  ∀ b s t, write a ++ s = write b ++ t → a = b ∧ s = t

/-- What is written for any value begins with something else than the end mark. -/
def Opens {α β : Type} (write : α → List β) (close : β) : Prop :=
  ∀ a, ∃ first rest, write a = first :: rest ∧ first ≠ close

/-- Values that are written one after another are told from others up to the end mark. -/
lemma flatMap_cancel {α β : Type} {write : α → List β} {close : β} {as bs : List α} {s t : List β}
    (opens : Opens write close) (tells : ∀ a ∈ as, Tells write a)
    (same : as.flatMap write ++ close :: s = bs.flatMap write ++ close :: t) :
    as = bs ∧ s = t := by
  induction as generalizing bs with
  | nil =>
    cases bs with
    | nil => exact ⟨rfl, by simpa using same⟩
    | cons b bs =>
      obtain ⟨first, rest, form, other⟩ := opens b
      simp only [List.flatMap_nil, List.nil_append, List.flatMap_cons, form, List.cons_append,
        List.cons.injEq] at same
      exact absurd same.1.symm other
  | cons a as ih =>
    obtain ⟨here, others⟩ := List.forall_mem_cons.1 tells
    cases bs with
    | nil =>
      obtain ⟨first, rest, form, other⟩ := opens a
      simp only [List.flatMap_nil, List.nil_append, List.flatMap_cons, form, List.cons_append,
        List.cons.injEq] at same
      exact absurd same.1 other
    | cons b bs =>
      rw [List.flatMap_cons, List.flatMap_cons, List.append_assoc, List.append_assoc] at same
      obtain ⟨head, behind⟩ := here _ _ _ same
      obtain ⟨tail, after⟩ := ih others behind
      exact ⟨by rw [head, tail], after⟩

/-! ## Strings -/

/-- The first character that the body of a JSON string denotes, and what follows it. -/
def jsonRead? : List Char → Option (Char × List Char)
  | '\\' :: 'u' :: '0' :: '0' :: high :: low :: rest =>
    some (Char.ofNat (Lexer.hexValue high * 16 + Lexer.hexValue low), rest)
  | '\\' :: 'b' :: rest => some ('\x08', rest)
  | '\\' :: 'f' :: rest => some ('\x0c', rest)
  | '\\' :: 'n' :: rest => some ('\n', rest)
  | '\\' :: 'r' :: rest => some ('\r', rest)
  | '\\' :: 't' :: rest => some ('\t', rest)
  | '\\' :: c :: rest => some (c, rest)
  | c :: rest => some (c, rest)
  | [] => none

/-- A hexadecimal digit is read as its number. -/
lemma hexValue_digitChar : ∀ d < 16, Lexer.hexValue d.digitChar = d := by
  decide

/-- A character is read back from its escape. -/
lemma jsonRead?_escaped (c : Char) (rest : List Char) :
    jsonRead? (jsonEscaped c ++ rest) = some (c, rest) := by
  unfold jsonEscaped
  split
  · rfl
  · rfl
  · rfl
  · rfl
  · rfl
  · rfl
  · rfl
  · next quote slash back form feed carriage tab =>
    split
    · next control =>
      have high := hexValue_digitChar (c.toNat / 16) (by omega)
      have low := hexValue_digitChar (c.toNat % 16) (by omega)
      simp only [List.cons_append, List.nil_append, jsonRead?, hexDigit, high, low]
      rw [Nat.div_add_mod', Char.ofNat_toNat]
    · rw [List.singleton_append, jsonRead?] <;> simp_all

/-- The escape of a character tells the character. -/
lemma tells_jsonEscaped (c : Char) : Tells jsonEscaped c := by
  intro d s t same
  have read := congrArg jsonRead? same
  rw [jsonRead?_escaped, jsonRead?_escaped] at read
  simpa using read

/-- No escape begins with the quote that ends a string. -/
lemma opens_jsonEscaped : Opens jsonEscaped '\x22' := by
  intro c
  unfold jsonEscaped
  split
  all_goals try exact ⟨_, _, rfl, by decide⟩
  next quote _ _ _ _ _ _ =>
    split
    · exact ⟨_, _, rfl, by decide⟩
    · exact ⟨_, _, rfl, quote⟩

/-- A string begins with a quote. -/
lemma exists_jsonString (content : String) :
    ∃ rest, (jsonString content).toList = '\x22' :: rest :=
  ⟨_, by rw [jsonString, String.toList_ofList, List.cons_append]⟩

/-- A JSON string tells the text that it denotes. -/
lemma tells_jsonString (content : String) :
    Tells (fun content => (jsonString content).toList) content := by
  intro other s t same
  simp only [jsonString, String.toList_ofList, List.cons_append, List.append_assoc,
    List.cons.injEq, true_and, List.nil_append] at same
  obtain ⟨chars, after⟩ := flatMap_cancel opens_jsonEscaped (fun c _ => tells_jsonEscaped c) same
  exact ⟨String.toList_inj.1 chars, after⟩

/-! ## Lists -/

/-- Every text but the first stands behind a comma. -/
lemma toList_commas (first : String) (others : List String) :
    (",".intercalate (first :: others)).toList =
      first.toList ++ others.flatMap fun text => ',' :: text.toList := by
  induction others generalizing first with
  | nil => simp
  | cons second others ih =>
    rw [String.intercalate_cons_cons, String.toList_append, String.toList_append, ih]
    simp

/-- A list between commas is told from others up to the end mark. -/
lemma commas_cancel {α : Type} {write : α → String} {close : Char} {as bs : List α}
    {s t : List Char} (stop : close ≠ ',') (opens : Opens (fun a => (write a).toList) close)
    (tells : ∀ a ∈ as, Tells (fun a => (write a).toList) a)
    (same : (",".intercalate (as.map write)).toList ++ close :: s =
      (",".intercalate (bs.map write)).toList ++ close :: t) : as = bs ∧ s = t := by
  cases as with
  | nil =>
    cases bs with
    | nil => exact ⟨rfl, by simpa using same⟩
    | cons b bs =>
      obtain ⟨first, rest, form, other⟩ := opens b
      simp only [List.map_nil, String.intercalate_nil, List.map_cons, toList_commas, form] at same
      exact absurd (List.cons.inj same).1.symm other
  | cons a as =>
    obtain ⟨here, others⟩ := List.forall_mem_cons.1 tells
    cases bs with
    | nil =>
      obtain ⟨first, rest, form, other⟩ := opens a
      simp only [List.map_nil, String.intercalate_nil, List.map_cons, toList_commas, form] at same
      exact absurd (List.cons.inj same).1 other
    | cons b bs =>
      simp only [List.map_cons, toList_commas, List.append_assoc, List.flatMap_map] at same
      obtain ⟨head, behind⟩ := here _ _ _ same
      -- behind the first element every element brings its comma, and is told apart with it
      have marked : Opens (fun a => ',' :: (write a).toList) close := by
        intro a
        exact ⟨_, _, rfl, stop.symm⟩
      have each : ∀ a ∈ as, Tells (fun a => ',' :: (write a).toList) a := by
        intro a mem b s t same
        exact others a mem b s t (List.cons.inj same).2
      obtain ⟨tail, after⟩ := flatMap_cancel marked each behind
      exact ⟨by rw [head, tail], after⟩

end Text

/-! ## Values -/

/-- A JSON value; the entries of an object keep their order. -/
inductive Json where
  | string (content : String)
  | array (elements : List Json)
  | object (entries : List (String × Json))

namespace Json

open Text

/-- The text of a value, without any space. -/
def text : Json → String
  | string content => jsonString content
  | array elements => jsonArray (elements.map text)
  | object entries => jsonObject (entries.map fun entry => (entry.1, entry.2.text))
decreasing_by
  · simp_wf
    have := List.sizeOf_lt_of_mem ‹_ ∈ _›
    omega
  · simp_wf
    have := List.sizeOf_lt_of_mem ‹_ ∈ _›
    cases entry
    simp_all
    omega

/-- The value of the first entry with the key. -/
def get? (key : String) : Json → Option Json
  | object entries => entries.lookup key
  | _ => none

/-- An entry of an object as it is written. -/
def entryText (entry : String × Json) : String :=
  jsonString entry.1 ++ ":" ++ entry.2.text

/-- The first character tells strings, arrays and objects apart. -/
def opening : Json → Char
  | string _ => '\x22'
  | array _ => '['
  | object _ => '\x7b'

/-- The characters of a string. -/
lemma toList_string (content : String) :
    (string content).text.toList = '\x22' :: (content.toList.flatMap jsonEscaped ++ ['\x22']) := by
  simp [text, jsonString]

/-- The characters of an array. -/
lemma toList_array (elements : List Json) : (array elements).text.toList =
    '[' :: ((",".intercalate (elements.map text)).toList ++ [']']) := by
  simp [text, jsonArray]

/-- The characters of an object. -/
lemma toList_object (entries : List (String × Json)) : (object entries).text.toList =
    '\x7b' :: ((",".intercalate (entries.map entryText)).toList ++ ['\x7d']) := by
  simp [text, jsonObject, entryText, Function.comp_def]

/-- A value begins with its own character. -/
lemma exists_text (value : Json) : ∃ rest, value.text.toList = value.opening :: rest := by
  cases value with
  | string content => exact ⟨_, toList_string content⟩
  | array elements => exact ⟨_, toList_array elements⟩
  | object entries => exact ⟨_, toList_object entries⟩

/-- No value begins like the end of an array. -/
lemma opens_text : Opens (fun value => (text value).toList) ']' := by
  intro value
  obtain ⟨rest, form⟩ := exists_text value
  exact ⟨_, rest, form, by cases value <;> simp [opening]⟩

/-- No entry begins like the end of an object. -/
lemma opens_entryText : Opens (fun entry => (entryText entry).toList) '\x7d' := by
  intro entry
  obtain ⟨rest, form⟩ := exists_jsonString entry.1
  refine ⟨'\x22', rest ++ ':' :: entry.2.text.toList, ?_, by decide⟩
  simp [entryText, form]

/-- An entry is told by its key and its value. -/
lemma tells_entryText {entry : String × Json}
    (tells : Tells (fun value => (text value).toList) entry.2) :
    Tells (fun entry => (entryText entry).toList) entry := by
  intro other s t same
  simp only [entryText, String.toList_append, List.append_assoc] at same
  obtain ⟨key, behind⟩ := tells_jsonString _ _ _ _ same
  obtain ⟨value, after⟩ := tells _ _ _ (List.append_cancel_left behind)
  exact ⟨Prod.ext key value, after⟩

/-- The text of a value tells it from every other one, whatever is written behind it. -/
theorem tells_text (value : Json) : Tells (fun value => (text value).toList) value := by
  induction value using text.induct with
  | case1 content =>
    intro other s t same
    cases other with
    | string _ =>
      simp only [text] at same
      obtain ⟨content_eq, after⟩ := tells_jsonString _ _ _ _ same
      exact ⟨by rw [content_eq], after⟩
    | array _ => simp [toList_string, toList_array] at same
    | object _ => simp [toList_string, toList_object] at same
  | case2 elements ih =>
    intro other s t same
    cases other with
    | array _ =>
      simp only [toList_array, List.cons_append, List.append_assoc, List.cons.injEq, true_and,
        List.nil_append] at same
      obtain ⟨elements_eq, after⟩ := commas_cancel (by decide) opens_text ih same
      exact ⟨by rw [elements_eq], after⟩
    | string _ => simp [toList_string, toList_array] at same
    | object _ => simp [toList_object, toList_array] at same
  | case3 entries ih =>
    intro other s t same
    cases other with
    | object _ =>
      simp only [toList_object, List.cons_append, List.append_assoc, List.cons.injEq, true_and,
        List.nil_append] at same
      obtain ⟨entries_eq, after⟩ := commas_cancel (by decide) opens_entryText
        (fun entry mem => tells_entryText (ih entry mem)) same
      exact ⟨by rw [entries_eq], after⟩
    | string _ => simp [toList_string, toList_object] at same
    | array _ => simp [toList_array, toList_object] at same

/-- Different values have different texts. -/
theorem text_injective : Function.Injective text := by
  intro value other same
  obtain ⟨value_eq, -⟩ := tells_text value other [] [] (by simp [same])
  exact value_eq

end Json

end FluentGen

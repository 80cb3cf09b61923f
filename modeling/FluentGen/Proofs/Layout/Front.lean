import FluentGen.Layout.Syntax
import Mathlib.Data.List.TakeDrop

/-!
# The front of a laid out file

Writing never takes back what is written, so that the text of a file begins with the first text of
its first item. If that item has an attribute, this is the mark of a comment or of an attribute
(`Layout.exists_fileText`).
-/

namespace FluentGen.Layout

open Piece

/-! ## Pages -/

namespace Page

variable (page : Page)

/-- Nothing is taken back while a text is written. -/
lemma write_written (text : String) : page.written <:+ (page.write text).written :=
  ⟨[text, _], rfl⟩

/-- Nor while a text is written that may be empty. -/
lemma writeSome_written (text : String) : page.written <:+ (page.writeSome text).written := by
  rw [writeSome]
  split
  · exact List.suffix_refl _
  · exact page.write_written text

/-- Nor where a break does not end the line. -/
lemma goOn_written (b : Break) : page.written <:+ (page.goOn b).written := by
  rw [goOn]
  exact writeSome_written
    { page with room := page.room - b.blank, pending := page.pending + b.blank } b.between

/-- Nor where it does. -/
lemma newline_written (b : Break) : page.written <:+ (page.newline b).written := by
  have ended := (page.writeSome_written b.ending).trans (List.suffix_cons "\n" _)
  rw [newline]
  exact ended.trans (writeSome_written { page.writeSome b.ending with
    written := _, room := _, pending := _ } b.beginning)

/-- Nor at any break. -/
lemma writeBreak_written (frame : Frame) (b : Break) (needed : Nat) :
    page.written <:+ (page.writeBreak frame b needed).written := by
  have either (goesOn : Bool) :
      page.written <:+ (if goesOn then page.goOn b else page.newline b).written := by
    cases goesOn with
    | true => exact page.goOn_written b
    | false => exact page.newline_written b
  exact either _

mutual

/-- Nothing is taken back while a piece is written. -/
lemma writePiece_written (frame : Frame) (after : Nat) (piece : Piece) (page : Page) :
    page.written <:+ (writePiece frame after piece page).written := by
  cases piece with
  | text words => exact page.write_written words
  | brk b => exact page.writeBreak_written frame b _
  | strut => exact List.suffix_refl _
  | box style offset pieces =>
    rw [writePiece]
    split
    · exact writeAll_written _ _ pieces page
    · exact writeAll_written (.broken style) after pieces
        { page with indentation := page.indentation + offset }

/-- Nothing is taken back while pieces are written. -/
lemma writeAll_written (frame : Frame) (after : Nat) (pieces : List Piece) (page : Page) :
    page.written <:+ (writeAll frame after pieces page).written := by
  cases pieces with
  | nil => exact List.suffix_refl _
  | cons piece rest =>
    rw [writeAll]
    exact (writePiece_written frame _ piece page).trans (writeAll_written frame after rest _)

end

end Page

/-! ## Marks -/

/-- What begins with the mark of a comment or of an attribute. -/
def Marked (pieces : List Piece) : Prop :=
  ∃ mark rest, pieces = .text mark :: rest ∧
    (mark.toList.head? = some '/' ∨ mark.toList.head? = some '#')

/-- The mark is still in front when more is written behind. -/
lemma Marked.append {pieces : List Piece} (marked : Marked pieces) (more : List Piece) :
    Marked (pieces ++ more) := by
  obtain ⟨mark, rest, rfl, first⟩ := marked
  exact ⟨mark, rest ++ more, rfl, first⟩

/-- A break at the end is not what the mark is. -/
lemma exists_trimmed (mark : String) (rest : List Piece) :
    ∃ left, trimmed (.text mark :: rest) = .text mark :: left := by
  rw [trimmed]
  split
  · next b last =>
    split
    · cases rest with
      | nil => cases last
      | cons piece rest => exact ⟨_, rfl⟩
    · exact ⟨rest, rfl⟩
  · exact ⟨rest, rfl⟩

/-- A document that begins with a mark has a text that does. -/
lemma exists_render {pieces : List Piece} (marked : Marked pieces) :
    ∃ c rest, (render (consistent 0 pieces)).toList = c :: rest ∧ (c = '/' ∨ c = '#') := by
  obtain ⟨mark, rest, rfl, first⟩ := marked
  obtain ⟨left, short⟩ := exists_trimmed mark rest
  have boxed : consistent 0 (.text mark :: rest) = [.box .consistent 0 (.text mark :: left)] := by
    rw [consistent, boxed, short]
    simp
  -- the mark is what is written first, whether or not the box fits
  have written : [mark, ""] <:+ (Page.writeAll (.broken .inconsistent) 0
      [.box .consistent 0 (.text mark :: left)] .blank).written := by
    rw [Page.writeAll, Page.writePiece, Page.writeAll]
    split
    · exact Page.writeAll_written _ _ left (Page.blank.write mark)
    · exact Page.writeAll_written _ _ left ({ Page.blank with indentation := _ }.write mark)
  obtain ⟨more, written⟩ := written
  rw [boxed, render, Page.text, ← written]
  cases letters : mark.toList with
  | nil => simp [letters] at first
  | cons c rest =>
    refine ⟨c, rest ++ (String.join more.reverse).toList, ?_, by simpa [letters] using first⟩
    simp [letters]

/-- A comment begins with its mark. -/
lemma marked_asComment {inner : Bool} {brackets : Tree} {pieces : List Piece}
    (shown : asComment? inner brackets = some pieces) : Marked pieces := by
  have line (mark : String) (words : List Char) (first : mark.toList.head? = some '/') :
      Marked (lineComment mark words) := ⟨mark, _, rfl, .inl first⟩
  have block (mark : String) (words : List Char) (first : mark.toList.head? = some '/') :
      Marked (blockComment mark words) := ⟨mark, _, rfl, .inl first⟩
  rw [asComment?] at shown
  split at shown
  · rw [documentation?] at shown
    split at shown
    · cases shown
      exact line _ _ (by cases inner <;> rfl)
    · split at shown
      · cases shown
        exact block _ _ (by cases inner <;> rfl)
      · cases shown
  · rw [comment?] at shown
    split at shown
    · cases shown
      exact line _ _ rfl
    · split at shown
      · cases shown
        exact block _ _ rfl
      · cases shown
  · cases shown

/-- An attribute begins with its mark. -/
lemma marked_attribute (parts : List Laid) :
    Marked <| annotation (lay (.symbol "#") :: parts) := by
  rw [ annotation]
  split
  · next comment shown =>
    obtain ⟨brackets, -, shown⟩ := Option.bind_eq_some_iff.1 shown
    exact marked_asComment shown
  · exact ⟨"#", _, rfl, .inr rfl⟩

/-- An item with an attribute begins with the mark of the attribute. -/
lemma marked_item (kind : ItemKind) (meaning others : List Tree) :
    Marked (lay (.node (.item kind) (.node .attribute (.symbol "#" :: meaning) :: others))).plain := by
  have declared (look : List Laid → List Piece) : Marked (declaration look
      (lay (.node .attribute (.symbol "#" :: meaning)) :: layAll others)) := by
    refine Marked.append ?_ _
    rw [withAttributes, splitAttributes, List.span_eq_takeWhile_dropWhile]
    refine Marked.append ?_ _
    exact (marked_attribute (layAll meaning)).append _
  cases kind <;> exact declared _

/-- The text of a file whose first item has an attribute begins with its mark. -/
theorem exists_fileText {items : List Tree} {text : String} {kind : ItemKind}
    {meaning others rest : List Tree} (laid : fileText items = .ok text)
    (first : items = .node (.item kind) (.node .attribute (.symbol "#" :: meaning) :: others) :: rest) :
    ∃ c more, text.toList = c :: more ∧ (c = '/' ∨ c = '#') := by
  rw [fileText] at laid
  split at laid
  · cases laid
  · cases laid
    subst first
    exact exists_render ((marked_item kind meaning others).append _)

end FluentGen.Layout

/-!
# Documents

A document is text with possible line breaks in nested boxes. A box that fits on the rest of the
line breaks nowhere. A consistent box that does not fit breaks at all of its own breaks, any other
one only where the text up to its next break would not fit.

The room that a box or a break needs goes beyond its end, up to the next break that an enclosing
box could take. Widths count the bytes of the text.
-/

namespace FluentGen.Layout

/-- How long a line should be at most. -/
def margin : Nat := 89

/-- How much room a line has at least, however far it is indented. -/
def minRoom : Nat := 60

/-- How far the inside of a box is indented. -/
def indent : Int := 4

/-- More room than any line has. -/
def endless : Nat := 0xffff

/-- A place where a line may end. -/
structure Break where
  /-- How many spaces stand here if the line goes on. -/
  blank : Nat
  /-- How much further the next line is indented than the box. -/
  offset : Int
  /-- What is added to a line that ends here. -/
  ending : String
  /-- What a line that begins here begins with. -/
  beginning : String
  /-- What is added to a line that goes on. -/
  between : String
  /-- Whether nothing stands here at the end of a box. -/
  optional : Bool
  /-- Whether the line never ends here, so that the place only limits what a box needs. -/
  never : Bool

namespace Break

/-- A break that leaves so many spaces if the line goes on. -/
def ofBlank (blank : Nat) : Break :=
  ⟨blank, 0, "", "", "", false, false⟩

end Break

/-- How the breaks of a box that does not fit behave. -/
inductive BoxStyle where
  | consistent
  | inconsistent
deriving DecidableEq

/-- A piece of a document. -/
inductive Piece where
  | text (text : String)
  | brk (brk : Break)
  | box (style : BoxStyle) (offset : Int) (pieces : List Piece)
  /-- No text, but as wide as any line, so that no box around it fits. -/
  | strut

namespace Piece

/-- A break that leaves nothing if the line goes on. -/
def zero : Piece :=
  brk (.ofBlank 0)

/-- A break that leaves a space if the line goes on. -/
def space : Piece :=
  brk (.ofBlank 1)

/-- The end of a line. -/
def hard : Piece :=
  brk (.ofBlank endless)

/-- The end of a line, unless a box ends here. -/
def hardIfMore : Piece :=
  brk { Break.ofBlank endless with optional := true }

/-- A break that leaves a space if the line goes on, unless a box ends here. -/
def spaceIfMore : Piece :=
  brk { Break.ofBlank 1 with optional := true }

/-- A break that never ends a line. -/
def never : Piece :=
  brk { Break.ofBlank 0 with never := true }

/-- A break that leaves nothing if the line goes on, and a comma at the end of a line. -/
def comma : Piece :=
  brk { Break.ofBlank 0 with ending := "," }

/-- A break that leaves a space if the line goes on, and a comma at the end of a line. -/
def commaOrSpace : Piece :=
  brk { Break.ofBlank 1 with ending := "," }

mutual

/-- The width of a piece on one line. -/
def width : Piece → Nat
  | text words => words.utf8ByteSize
  | brk b => b.blank
  | box _ _ pieces => widthAll pieces
  | strut => endless

/-- The width of pieces on one line. -/
def widthAll : List Piece → Nat
  | [] => 0
  | piece :: rest => piece.width + widthAll rest

end

/-- The width up to the next break, or up to the end and then so much further. -/
def reach (after : Nat) : List Piece → Nat
  | [] => after
  | brk _ :: _ => 0
  | piece :: rest => piece.width + reach after rest

mutual

/-- The last text of a piece. -/
def lastText? : Piece → Option String
  | text words => some words
  | brk _ => none
  | box _ _ pieces => lastTextOf? pieces
  | strut => some ""

/-- The last text of pieces. -/
def lastTextOf? : List Piece → Option String
  | [] => none
  | piece :: rest => (lastTextOf? rest).or piece.lastText?

end

/-- Pieces with the offset of the last one changed, if it is a break. -/
def outdent (pieces : List Piece) : List Piece :=
  match pieces.getLast? with
  | some (brk b) => pieces.dropLast ++ [brk { b with offset := b.offset - indent }]
  | _ => pieces

/-- The pieces of a box, without a break at their end that only stands before something. -/
def trimmed (pieces : List Piece) : List Piece :=
  match pieces.getLast? with
  | some (brk b) => if b.optional then pieces.dropLast else pieces
  | _ => pieces

/-- A box around pieces; there is none around a lone break, which also vanishes. -/
def boxed (style : BoxStyle) (offset : Int) (pieces : List Piece) : List Piece :=
  match pieces with
  | [brk _] => []
  | pieces => [box style offset (trimmed pieces)]

/-- A consistent box that is indented so much. -/
def consistent (offset : Int) (pieces : List Piece) : List Piece :=
  boxed .consistent offset pieces

/-- An inconsistent box that is indented so much. -/
def inconsistent (offset : Int) (pieces : List Piece) : List Piece :=
  boxed .inconsistent offset pieces

/-- Pieces that only stay on one line if they are at most so wide. -/
def limited (limit : Nat) (pieces : List Piece) : List Piece :=
  if widthAll pieces ≤ limit then pieces else pieces ++ [strut]

end Piece

/-- Whether the box around a break fits, or else how its breaks behave. -/
inductive Frame where
  | fits
  | broken (style : BoxStyle)

/-- A page that is written from left to right and from top to bottom. -/
structure Page where
  /-- What is written, last text first. -/
  written : List String
  /-- How much room the line has left; negative once it is too long. -/
  room : Int
  /-- The indentation of the box. -/
  indentation : Int
  /-- How many spaces are due before the next text. -/
  pending : Nat

namespace Page

/-- A page before anything is written. -/
def blank : Page :=
  ⟨[], margin, 0, 0⟩

/-- Writes a text. -/
def write (text : String) (page : Page) : Page :=
  let spaces := String.ofList (List.replicate page.pending ' ')
  { page with
    written := text :: spaces :: page.written
    room := page.room - text.utf8ByteSize
    pending := 0 }

/-- Writes a text unless it is empty. -/
def writeSome (text : String) (page : Page) : Page :=
  if text.isEmpty then page else page.write text

/-- Goes on with the line, after some spaces and what the break adds. -/
def goOn (b : Break) (page : Page) : Page :=
  let page := { page with room := page.room - b.blank, pending := page.pending + b.blank }
  page.writeSome b.between

/-- Ends the line and begins a new one. -/
def newline (b : Break) (page : Page) : Page :=
  let page := page.writeSome b.ending
  let indentation := page.indentation + b.offset
  let page := { page with
    written := "\n" :: page.written
    room := max ((margin : Int) - indentation) minRoom
    pending := indentation.toNat }
  page.writeSome b.beginning

/-- Writes a break, which needs so much room if the line goes on. -/
def writeBreak (frame : Frame) (b : Break) (needed : Nat) (page : Page) : Page :=
  let goesOn := b.never || match frame with
    | .fits => true
    | .broken .consistent => false
    | .broken .inconsistent => needed ≤ page.room
  if goesOn then page.goOn b else page.newline b

mutual

/-- Writes a piece; so much more has to fit after it, up to the next break. -/
def writePiece (frame : Frame) (after : Nat) : Piece → Page → Page
  | .text text, page => page.write text
  | .brk b, page => page.writeBreak frame b (b.blank + after)
  | .strut, page => page
  | .box style offset pieces, page =>
    if (Piece.widthAll pieces + after : Nat) ≤ page.room then writeAll .fits after pieces page
    else
      let inner := { page with indentation := page.indentation + offset }
      { writeAll (.broken style) after pieces inner with indentation := page.indentation }

/-- Writes pieces one after another; so much more has to fit after them. -/
def writeAll (frame : Frame) (after : Nat) : List Piece → Page → Page
  | [], page => page
  | piece :: rest, page =>
    writeAll frame after rest (writePiece frame (Piece.reach after rest) piece page)

end

/-- The text of a page. -/
def text (page : Page) : String :=
  String.join page.written.reverse

end Page

/-- The text of a document. -/
def render (pieces : List Piece) : String :=
  (Page.writeAll (.broken .inconsistent) 0 pieces Page.blank).text

end FluentGen.Layout

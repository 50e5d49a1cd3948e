import Stencil.Template.Segment

/-!
# Chunks of a template

What a template contributes to its program, in order: text to emit, code to run, and filler. Filler
holds the line feeds of everything else, such as stripped lines, comments and the blanks around a
body, so that no line of the template is lost on the way to the program.

- `Chunk.newlines_filler`: filler has as many line feeds as the text it stands for.
-/

namespace Stencil.Template

open Text

/-- What a chunk is for. -/
inductive ChunkKind where
  /-- Text to emit as it is. -/
  | literal
  /-- Code to run. -/
  | code
  /-- Line feeds only. -/
  | filler
  deriving DecidableEq, Repr, Inhabited

/-- The word for a kind. -/
def ChunkKind.name : ChunkKind → String
  | literal => "literal"
  | code => "code"
  | filler => "filler"

/-- The kind of a name, if it is one. -/
def ChunkKind.ofName? (name : String) : Option ChunkKind :=
  [literal, code, filler].find? (·.name = name)

/-- A piece of a program in the making. -/
structure Chunk where
  /-- What it is for. -/
  kind : ChunkKind
  /-- Its text. -/
  text : List Char
  /-- The line of the template on which it starts. -/
  line : Int
  deriving DecidableEq, Repr, Inhabited

namespace Chunk

/-- A chunk of text to emit. -/
def literal (text : List Char) (line : Int) : Chunk := ⟨.literal, text, line⟩

/-- A chunk of code. -/
def code (text : List Char) (line : Int) : Chunk := ⟨.code, text, line⟩

/-- The line feeds of a text, and nothing else of it. -/
def filler (text : List Char) (line : Int) : Chunk :=
  ⟨.filler, lineFeeds (newlines text), line⟩

/-- Filler for a text, or no chunk if the text has no line feed. -/
def fillers (text : List Char) (line : Int) : List Chunk :=
  if newlines text = 0 then [] else [filler text line]

theorem newlines_filler (text : List Char) (line : Int) :
    newlines (filler text line).text = newlines text := by
  simp [filler]

end Chunk

/-- The chunks of a tag. The code of a tag starts on the line after those of its first blank. -/
def PlacedTag.chunks (t : PlacedTag) : List Chunk :=
  let tag := t.tag
  let line := t.line + newlines [tag.lead]
  let inside :=
    if tag.isComment then Chunk.fillers tag.inner t.line
    else
      Chunk.fillers [tag.lead] t.line
        ++ (if tag.body = [] then [] else [Chunk.code tag.body line])
        ++ Chunk.fillers [tag.trail] (line + newlines tag.body)
  Chunk.fillers t.strippedPre t.line ++ inside ++ Chunk.fillers t.strippedPost t.line

/-- The chunks of a segment: its text, if it has any, and its tag. -/
def Segment.chunks (s : Segment) : List Chunk :=
  (if s.text = [] then [] else [Chunk.literal s.text s.line])
    ++ (s.tag?.map PlacedTag.chunks).getD []

/-- The chunks of a template. -/
def chunks (source : List Char) : Except TagError (List Chunk) :=
  (segments source).map (·.flatMap Segment.chunks)

end Stencil.Template

import DirectedMarkdown.Markdown.Block
import DirectedMarkdown.Markdown.Heading
import DirectedMarkdown.Markdown.Interrupt

/-!
This module contains the reader of paragraphs. A paragraph goes on until a line interrupts it, even
over lines that do not continue its containers. It turns out to be a heading if it is underlined,
and a table if its first line is the head of one.
-/

namespace DirectedMarkdown.Markdown.Reader

/-- What a paragraph turned out to be. -/
inductive ParagraphEnd where
  | plain (stop : Nat)
  | heading (level : Nat) (attributes : Option HeadingAttributes) (stop : Nat)
  | table (alignments : List ColumnAlignment) (stop : Nat)

/-- The position of a backslash that would break the line, if a line followed. -/
def trailingBackslash? : LineBreak → Option Nat
  | .token { kind := .hardBreak true, start, .. } => some start
  | _ => none

/-- The tokens with a trailing backslash. -/
def keepBackslash (tokens : Array Token) (backslash? : Option Nat) : Array Token :=
  match backslash? with
  | none => tokens
  | some i => pushText tokens i (i + 1) true

/-- The tokens of a paragraph that starts at `start`, from the content of the line at `i` on. -/
def paragraphLines (src : Source) (ground : Ground) (start : Nat) (tokens : Array Token) (i : Nat)
    : Array Token × ParagraphEnd :=
  let mode := if i = start then LineMode.first ground.path else .plain
  let line := scanLine src src mode tokens i
  match line.lineBreak with
  | .table alignments => (line.tokens, .table alignments line.stop)
  | lineBreak =>
    let (n, m) := Container.enterAll src (Margin.start line.stop) ground.path
    let backslash? := trailingBackslash? lineBreak
    let kept := keepBackslash line.tokens backslash?
    let (missing, inner) := m.read src 4
    let underline? :=
      if missing ≠ 0 && n = ground.path.length then src.underline? inner.pos else none
    match underline? with
    | some (level, stop) =>
      let (tokens, attributes?) := Heading.ofTokens src start backslash?.isSome line.tokens
      (keepBackslash tokens backslash?, .heading level attributes? stop)
    | none =>
      if missing ≠ 0 && ground.interrupts src n inner.pos then
        (kept, .plain line.stop)
      else
        let next := inner.readAll src
        if next.atLineEnd src then
          (kept, .plain line.stop)
        else if _h : i < next.pos ∧ i < src.size then
          let tokens := match lineBreak with
            | .token token => line.tokens.push token
            | _ => line.tokens
          paragraphLines src ground start tokens next.pos
        else
          (kept, .plain line.stop)
termination_by src.size - i
decreasing_by exact Nat.sub_lt_sub_left _h.2 _h.1

end DirectedMarkdown.Markdown.Reader

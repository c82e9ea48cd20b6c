import DirectedMarkdown.Markdown.Source

/-!
This module contains the addresses that may stand between angle brackets: URLs with a scheme, and
mail addresses.
-/

namespace DirectedMarkdown.Markdown

namespace Source

/-- The position of the bracket behind the URL at `i`. Its scheme has 2 to 32 characters. -/
def urlEnd? (src : Source) (i : Nat) : Option Nat :=
  if src.satisfies Char.isAlpha i then
    let colon := src.runEnd (fun c => c.isAlphanum || c = '.' || c = '-' || c = '+') i
    if src.has colon ':' && 2 ≤ colon - i && colon - i ≤ 32 then
      let stop := src.runEnd (fun c => 0x20 < c.toNat && c != '<' && c != '>') colon
      if src.has stop '>' then some stop else none
    else
      none
  else
    none

/-- A character before the sign of a mail address. -/
def isMailboxChar (c : Char) : Bool :=
  c.isAlphanum || c ∈ ['.', '!', '#', '$', '%', '&', '\'', '*', '+', '/', '=', '?', '^', '_',
    '\x60', '\x7b', '|', '\x7d', '~', '-']

/-- The position of the bracket behind the host at `i`, whose labels have up to 63 characters. -/
def hostEnd? (src : Source) (i : Nat) : Option Nat :=
  let stop := src.runEnd (fun c => c.isAlphanum || c = '-') i
  if stop = i || src.has i '-' || 63 < stop - i || src.has (stop - 1) '-' then
    none
  else if src.has stop '.' then
    if _h : i < stop + 1 ∧ i < src.size then hostEnd? src (stop + 1) else none
  else if src.has stop '>' then
    some stop
  else
    none
termination_by src.size - i
decreasing_by exact Nat.sub_lt_sub_left _h.2 _h.1

/-- The position of the bracket behind the mail address at `i`. -/
def mailEnd? (src : Source) (i : Nat) : Option Nat :=
  let sign := src.runEnd isMailboxChar i
  if i < sign && src.has sign '@' then src.hostEnd? (sign + 1) else none

end Source

end DirectedMarkdown.Markdown

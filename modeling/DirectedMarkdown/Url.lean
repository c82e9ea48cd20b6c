/-!
This module contains what can be said about a URL from its text alone.
-/

namespace DirectedMarkdown.Url

/-- The characters of a scheme. -/
def isSchemeChar (c : Char) : Bool :=
  c.isAlphanum || c = '+' || c = '-' || c = '.'

/-- Whether the text leads off-site: it starts with `//`, or with a scheme and `://`. -/
def isExternalChars (url : List Char) : Bool :=
  ['/', '/'].isPrefixOf url
    || (!(url.takeWhile isSchemeChar).isEmpty
      && [':', '/', '/'].isPrefixOf (url.dropWhile isSchemeChar))

/-- Whether the URL leads off-site: it starts with `//`, or with a scheme and `://`. -/
def isExternal (url : String) : Bool :=
  isExternalChars url.toList

end DirectedMarkdown.Url

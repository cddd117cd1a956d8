/-! # Escaping plain text

An escaper turns plain text into markup that shows it. It treats text between
tags and text inside an attribute's quotes separately, and it never sees markup.
-/

namespace CheckedMarkup

/-- A way to write plain text in markup. -/
structure Escaper where
  /-- The markup for text between tags. -/
  text : String → String
  /-- The markup for a value between double quotes. -/
  value : String → String

/-- The entity of a character that text between tags may not hold. -/
def escapeTextChar (c : Char) : List Char :=
  if c = '&' then ['&', 'a', 'm', 'p', ';']
  else if c = '<' then ['&', 'l', 't', ';']
  else if c = '>' then ['&', 'g', 't', ';']
  else [c]

/-- The entity of a character that an attribute value may not hold: both quotes too. -/
def escapeValueChar (c : Char) : List Char :=
  if c = '"' then ['&', 'q', 'u', 'o', 't', ';']
  else if c = '\'' then ['&', 'a', 'p', 'o', 's', ';']
  else escapeTextChar c

/-- The escaper of XML: each special character becomes its predefined entity. -/
def Escaper.xml : Escaper where
  text raw := String.ofList (raw.toList.flatMap escapeTextChar)
  value raw := String.ofList (raw.toList.flatMap escapeValueChar)

end CheckedMarkup

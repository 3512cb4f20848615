import ConfigTables.CommandLine.Console

/-!
# Markup with tags

A markup for programs that bring none of their own: words in square brackets are tags. Nothing else
in the library depends on it.

A bracket opens a tag when it is followed by a small letter or one of `#`, `/`, `@` and is closed
before another one opens. `escapeTags` protects such tags: a backslash goes in front of the bracket,
and the backslashes already there are doubled, because rendering halves them. A single backslash at
the end is doubled too, since it could otherwise protect what the caller writes next. Apart from
tags, `renderTags` drops a backslash in front of any other opening bracket. Emoji codes are shown as
they are written.
-/

namespace ConfigTables.Markup

/-- Whether a character may begin a tag. -/
def isTagStart (c : Char) : Bool :=
  ('a' ≤ c && c ≤ 'z') || c = '#' || c = '/' || c = '@'

/-- Whether the text after an opening bracket makes it a tag: it begins as a tag does, and the
next bracket closes. -/
def opensTag : List Char → Bool
  | [] => false
  | c :: cs => isTagStart c && (cs.find? fun d ↦ d = '[' || d = ']') == some ']'

/-- Escapes a text of which `run` backslashes were read last and are still to be written. -/
def escapeRun (run : Nat) : List Char → List Char
  | [] => List.replicate run '\\'
  | c :: cs =>
    if c = '\\' then
      escapeRun (run + 1) cs
    else if c = '[' && opensTag cs then
      List.replicate (2 * run + 1) '\\' ++ c :: escapeRun 0 cs
    else
      List.replicate run '\\' ++ c :: escapeRun 0 cs

/-- Doubles a backslash that stands alone at the end. -/
def closeBackslash (cs : List Char) : List Char :=
  match cs.reverse with
  | '\\' :: '\\' :: _ => cs
  | '\\' :: _ => cs ++ ['\\']
  | _ => cs

/-- A text with its tags protected. -/
def escapeTags (s : String) : String :=
  String.ofList (closeBackslash (escapeRun 0 s.toList))

/-- Renders markup of which `run` backslashes were read last. Inside a tag nothing is shown. -/
def renderRun (inTag : Bool) (run : Nat) : List Char → List Char
  | [] => List.replicate run '\\'
  | c :: cs =>
    if inTag then renderRun (c ≠ ']') 0 cs
    else if c = '\\' then renderRun false (run + 1) cs
    else if c = '[' && opensTag cs then
      List.replicate (run / 2) '\\' ++
        if run % 2 = 1 then c :: renderRun false 0 cs else renderRun true 0 cs
    else
      List.replicate (if c = '[' then run - 1 else run) '\\' ++ c :: renderRun false 0 cs

/-- Markup shown without styles. -/
def renderTags (text : String) : String :=
  String.ofList (renderRun false 0 text.toList)

/-- The markup with tags in square brackets. -/
def tags : Markup where
  escape := escapeTags
  render := renderTags

end ConfigTables.Markup

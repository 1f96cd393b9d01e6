/-!
# Shell words

`Shell.quote` writes any text as one word of a POSIX shell command line.
-/

namespace GuestLink.Shell

/-- The characters that stand for themselves in an unquoted word. -/
def isPlain (c : Char) : Bool :=
  c.isAlphanum || c == '_' || c == '@' || c == '%' || c == '+' || c == '=' || c == ':' ||
    c == ',' || c == '.' || c == '/' || c == '-'

/-- How a character stands between single quotes: a single quote leaves them for a double-quoted
group of its own. -/
def quoteChar (c : Char) : List Char :=
  if c = '\'' then ['\'', '"', '\'', '"', '\''] else [c]

/-- A text as one shell word: bare when every character is plain, else between single quotes. -/
def quote (cs : List Char) : List Char :=
  if cs.isEmpty then ['\'', '\'']
  else if cs.all isPlain then cs
  else '\'' :: cs.flatMap quoteChar ++ ['\'']

end GuestLink.Shell

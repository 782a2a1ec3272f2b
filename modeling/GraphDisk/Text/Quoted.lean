import GraphDisk.Text.Visible

/-!
# Quoted text in messages

Messages show names between double quotes. Quotes and backslashes are escaped, the usual control characters get their
short escapes, and every other character that would not show by itself is written as its code point. A single quote
needs no escape.
-/

namespace GraphDisk.Text

/-- The code point of a character in braces, in lower-case hexadecimal without leading zeros. -/
def codePointEscape (c : Char) : List Char :=
  '\\' :: 'u' :: '\x7b' :: Nat.toDigits 16 c.toNat ++ ['\x7d']

def quoteChar (c : Char) : List Char :=
  match c with
  | '"' => ['\\', '"']
  | '\\' => ['\\', '\\']
  | '\n' => ['\\', 'n']
  | '\r' => ['\\', 'r']
  | '\t' => ['\\', 't']
  | '\x00' => ['\\', '0']
  | c =>
    if ' ' ≤ c ∧ c ≤ '~' then [c]
    else if isHidden c || extendsGrapheme c then codePointEscape c
    else [c]

/-- A text between double quotes, as messages show it. -/
def quoted (s : String) : String := String.ofList ('"' :: s.toList.flatMap quoteChar ++ ['"'])

end GraphDisk.Text

import GraphDisk.Json.Document

/-!
# Reading JSON texts

`Document.parse?` reads a whole text: one value with blanks around it, and nothing else. The readers below take the
characters that are left and return what they read with the rest. Each call takes one unit of fuel: an array takes
two for its two brackets, and one for each item but the last, which has a comma after it; an object likewise. So the
length of a text is always enough fuel to read it.
-/

namespace GraphDisk.Json

namespace Reader

def isBlank (c : Char) : Bool := c == ' ' || c == '\n' || c == '\t' || c == '\r'

def skipBlanks (cs : List Char) : List Char := cs.dropWhile isBlank

def word : List Char → List Char → Option (List Char)
  | [], cs => some cs
  | w :: ws, c :: cs => if w = c then word ws cs else none
  | _ :: _, [] => none

/-! ## Numbers -/

def digit? (c : Char) : Option Nat := if '0' ≤ c ∧ c ≤ '9' then some (c.toNat - 48) else none

def digits : List Char → List Nat × List Char
  | [] => ([], [])
  | c :: cs =>
    match digit? c with
    | some d => let (ds, rest) := digits cs; (d :: ds, rest)
    | none => ([], c :: cs)

def someDigits (cs : List Char) : Option (List Nat × List Char) :=
  match digits cs with
  | ([], _) => none
  | (ds, rest) => some (ds, rest)

/-- Reads the digits before the point: a zero stands alone. -/
def whole (cs : List Char) : Option (List Nat × List Char) :=
  match someDigits cs with
  | some (0 :: _ :: _, _) => none
  | other => other

def fraction : List Char → Option (List Nat × List Char)
  | '.' :: cs => someDigits cs
  | cs => some ([], cs)

def signedDigits (negative : Bool) (cs : List Char) : Option (Option (Bool × List Nat) × List Char) :=
  (someDigits cs).map fun (ds, rest) => (some (negative, ds), rest)

def afterMark : List Char → Option (Option (Bool × List Nat) × List Char)
  | '+' :: cs => signedDigits false cs
  | '-' :: cs => signedDigits true cs
  | cs => signedDigits false cs

def exponent : List Char → Option (Option (Bool × List Nat) × List Char)
  | 'e' :: cs => afterMark cs
  | 'E' :: cs => afterMark cs
  | cs => some (none, cs)

def unsigned (negative : Bool) (cs : List Char) : Option (Numeral × List Char) := do
  let (w, cs) ← whole cs
  let (f, cs) ← fraction cs
  let (e, cs) ← exponent cs
  return (⟨negative, w, f, e⟩, cs)

def numeral : List Char → Option (Numeral × List Char)
  | '-' :: cs => unsigned true cs
  | cs => unsigned false cs

/-! ## Strings -/

/-- A piece of a quoted text: a character, or half of a surrogate pair that was spelt as an escape. -/
inductive Piece where
  | char (c : Char)
  | surrogate (code : Nat)
deriving DecidableEq

def hexDigit? (c : Char) : Option Nat :=
  if '0' ≤ c ∧ c ≤ '9' then some (c.toNat - 48)
  else if 'a' ≤ c ∧ c ≤ 'f' then some (c.toNat - 87)
  else if 'A' ≤ c ∧ c ≤ 'F' then some (c.toNat - 55)
  else none

/-- The piece that four hexadecimal digits stand for. -/
def unit? (a b c d : Char) : Option Piece := do
  let n := ((← hexDigit? a) * 16 + (← hexDigit? b)) * 256 + (← hexDigit? c) * 16 + (← hexDigit? d)
  return if 0xd800 ≤ n ∧ n ≤ 0xdfff then .surrogate n else .char (Char.ofNat n)

def shortEscape? : Char → Option Char
  | '"' => some '"'
  | '\\' => some '\\'
  | '/' => some '/'
  | 'b' => some '\x08'
  | 'f' => some '\x0c'
  | 'n' => some '\n'
  | 'r' => some '\r'
  | 't' => some '\t'
  | _ => none

/-- Reads the pieces up to and with the closing quote. Control characters have to be escaped. -/
def pieces : List Char → Option (List Piece × List Char)
  | [] => none
  | '"' :: cs => some ([], cs)
  | '\\' :: 'u' :: a :: b :: c :: d :: cs => do
    let p ← unit? a b c d
    let (ps, rest) ← pieces cs
    return (p :: ps, rest)
  | '\\' :: e :: cs => do
    let c ← shortEscape? e
    let (ps, rest) ← pieces cs
    return (.char c :: ps, rest)
  | c :: cs => do
    if c < ' ' ∨ c = '\\' then none
    let (ps, rest) ← pieces cs
    return (.char c :: ps, rest)

/-- The characters of a quoted text: two halves of a surrogate pair in the right order are one character, and any other
half has no value. -/
def join? : List Piece → Option (List Char)
  | [] => some []
  | .char c :: ps => (join? ps).map (c :: ·)
  | .surrogate high :: .surrogate low :: ps =>
    if high < 0xdc00 ∧ 0xdc00 ≤ low then
      (join? ps).map (Char.ofNat (0x10000 + (high - 0xd800) * 0x400 + (low - 0xdc00)) :: ·)
    else none
  | .surrogate _ :: _ => none

def quoted (cs : List Char) : Option (Spelling × List Char) :=
  (pieces cs).map fun (ps, rest) => ((join? ps).map String.ofList, rest)

/-! ## Values -/

mutual

/-- Reads a value with blanks in front. -/
def value : Nat → List Char → Option (Document × List Char)
  | 0, _ => none
  | fuel + 1, cs =>
    match skipBlanks cs with
    | '"' :: cs => (quoted cs).map fun (s, rest) => (.string s, rest)
    | '[' :: cs =>
      match skipBlanks cs with
      | ']' :: rest => some (.array [], rest)
      | cs => (items fuel cs).map fun (ds, rest) => (.array ds, rest)
    | '\x7b' :: cs =>
      match skipBlanks cs with
      | '\x7d' :: rest => some (.object [], rest)
      | cs => (members fuel cs).map fun (ms, rest) => (.object ms, rest)
    | 'n' :: cs => (word ['u', 'l', 'l'] cs).map fun rest => (.null, rest)
    | 't' :: cs => (word ['r', 'u', 'e'] cs).map fun rest => (.bool true, rest)
    | 'f' :: cs => (word ['a', 'l', 's', 'e'] cs).map fun rest => (.bool false, rest)
    | cs => (numeral cs).map fun (n, rest) => (.number n, rest)

/-- Reads the items of an array, at least one, up to and with the closing bracket. -/
def items : Nat → List Char → Option (List Document × List Char)
  | 0, _ => none
  | fuel + 1, cs => do
    let (d, cs) ← value fuel cs
    match skipBlanks cs with
    | ']' :: rest => return ([d], rest)
    | ',' :: cs =>
      let (ds, rest) ← items fuel cs
      return (d :: ds, rest)
    | _ => none

/-- Reads the members of an object, at least one, up to and with the closing brace. -/
def members : Nat → List Char → Option (List (Spelling × Document) × List Char)
  | 0, _ => none
  | fuel + 1, cs =>
    match skipBlanks cs with
    | '"' :: cs => do
      let (key, cs) ← quoted cs
      let ':' :: cs := skipBlanks cs | none
      let (d, cs) ← value fuel cs
      match skipBlanks cs with
      | '\x7d' :: rest => return ([(key, d)], rest)
      | ',' :: cs =>
        let (ms, rest) ← members fuel cs
        return ((key, d) :: ms, rest)
      | _ => none
    | _ => none

end

end Reader

/-- The tree of a JSON text, or `none` if it is none: one value, with blanks around it. -/
def Document.parse? (text : String) : Option Document :=
  let cs := text.toList
  match Reader.value (cs.length + 1) cs with
  | some (d, rest) => if (Reader.skipBlanks rest).isEmpty then some d else none
  | none => none

end GraphDisk.Json

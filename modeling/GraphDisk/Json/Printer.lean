import GraphDisk.Decimal.Layout
import GraphDisk.Json.Value

/-!
# JSON values as text

The compact form: no blanks, members in the order of the object, and only those characters escaped that have to be.
-/

namespace GraphDisk.Json

namespace Printer

def hexDigit (n : Nat) : Char := Nat.digitChar n

def escape (c : Char) : List Char :=
  match c with
  | '"' => ['\\', '"']
  | '\\' => ['\\', '\\']
  | '\x08' => ['\\', 'b']
  | '\x0c' => ['\\', 'f']
  | '\n' => ['\\', 'n']
  | '\r' => ['\\', 'r']
  | '\t' => ['\\', 't']
  | c => if c < ' ' then ['\\', 'u', '0', '0', hexDigit (c.toNat / 16), hexDigit (c.toNat % 16)] else [c]

def quoted (s : String) : List Char := '"' :: s.toList.flatMap escape ++ ['"']

def natural (n : Nat) : List Char := Nat.toDigits 10 n

def number : Number → List Char
  | .natural n => natural n.toNat
  | .negative n => '-' :: natural n.toInt.natAbs
  | .double x => (Layout.json.text x).toList

mutual

def value : Value → List Char
  | .null => ['n', 'u', 'l', 'l']
  | .bool true => ['t', 'r', 'u', 'e']
  | .bool false => ['f', 'a', 'l', 's', 'e']
  | .number n => number n
  | .string s => quoted s
  | .array [] => ['[', ']']
  | .array (v :: vs) => '[' :: value v ++ items vs
  | .object [] => ['\x7b', '\x7d']
  | .object ((k, v) :: ms) => '\x7b' :: quoted k ++ ':' :: value v ++ members ms

/-- The items after the first, each after a comma, and the closing bracket. -/
def items : List Value → List Char
  | [] => [']']
  | v :: vs => ',' :: value v ++ items vs

/-- The members after the first, each after a comma, and the closing brace. -/
def members : List (String × Value) → List Char
  | [] => ['\x7d']
  | (k, v) :: ms => ',' :: quoted k ++ ':' :: value v ++ members ms

end

end Printer

def Value.text (v : Value) : String := String.ofList (Printer.value v)

end GraphDisk.Json

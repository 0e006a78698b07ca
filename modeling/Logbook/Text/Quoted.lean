import Logbook.Unicode.Category
import Logbook.Unicode.Property

/-!
# Quoted text

`quote` writes a text between double quotes so that it can be read without doubt: quotes, backslashes and
the common control characters by their escapes, everything else that cannot be seen, and marks that would
join the character before them, as `\u` with the code point in braces.
-/

namespace Logbook.Text

/-- Lower-case hexadecimal digits without leading zeros. -/
def hex (n : Nat) : List Char := Nat.toDigits 16 n

/-- Categories whose characters cannot be seen. -/
def unseen : CharSet :=
  Category.set (Category.separators ++ Category.others)

/-- A character that shows by itself. -/
def isSeen (c : Char) : Bool :=
  if c.toNat < 127 then decide (32 ≤ c.toNat)
  else !unseen.contains c && !Property.graphemeExtend.contains c

/-- One character inside quotes. -/
def quoteChar (c : Char) : List Char :=
  if c = '"' then ['\\', '"']
  else if c = '\\' then ['\\', '\\']
  else if c = '\n' then ['\\', 'n']
  else if c = '\r' then ['\\', 'r']
  else if c = '\t' then ['\\', 't']
  else if c = '\x00' then ['\\', '0']
  else if isSeen c then [c]
  else '\\' :: 'u' :: '\x7b' :: hex c.toNat ++ ['\x7d']

def quote (s : String) : String :=
  String.ofList ('"' :: s.toList.flatMap quoteChar ++ ['"'])

end Logbook.Text

import Logbook.Fields
import Logbook.Text.Split

/-!
# Files

A `Disk` holds the bytes of files in one directory.  Files are opened for appending, and made when they are missing;
texts are appended in UTF-8.  There are no other directories, so a path that leads through one cannot be opened.
-/

namespace Logbook

structure Disk where
  files : Fields ByteArray none

namespace Disk

def empty : Disk := ⟨.nil⟩

instance : Inhabited Disk := ⟨empty⟩

/-- The bytes of one name in a path, and of a whole path, are limited. -/
def nameLimit : Nat := 255
def pathLimit : Nat := 4095

/-- Parts of a path that stay where they are. -/
def isIdle (part : List Char) : Bool := part.isEmpty || part = ['.']

/-- A part that names a file. -/
def isName (part : List Char) : Bool :=
  !isIdle part && part ≠ ['.', '.'] && decide ((String.ofList part).utf8ByteSize ≤ nameLimit)

/-- The file a path leads to, if it leads to one in the directory. -/
def resolve? (path : String) : Option String :=
  if pathLimit < path.utf8ByteSize ∨ path.toList.contains '\x00' ∨ path.toList.head? = some '/' then none
  else
    match (Text.split '/' path.toList).reverse with
    | [] => none
    | name :: parts =>
      if isName name && parts.all isIdle then some (String.ofList name) else none

/-- The bytes of a file. -/
def read? (d : Disk) (path : String) : Option ByteArray := (resolve? path).bind d.files.find?

/-- Open a file for appending. -/
def open? (d : Disk) (path : String) : Option (String × Disk) :=
  match resolve? path with
  | none => none
  | some name => some (name, if d.files.contains name then d else ⟨d.files.insert name .empty⟩)

/-- Put a text at the end of a file. -/
def append (d : Disk) (name text : String) : Disk :=
  ⟨d.files.insert name ((d.files.find? name).getD .empty ++ text.toByteArray)⟩

end Disk

end Logbook

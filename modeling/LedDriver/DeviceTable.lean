import LedDriver.DeviceError
import LedDriver.FileMode

/-!
# The device table

A table of device nodes by path.  The entries stand in the byte order of their paths.  A path is
published at most once, and an entry is never changed or removed.
-/

namespace LedDriver

/-- The bytes by which a path is ordered. -/
def pathBytes (path : String) : List UInt8 := path.toByteArray.data.toList

/-- A published node and its access mode. -/
structure DeviceEntry (ν : Type) where
  path : String
  node : ν
  mode : FileMode

/-- A table of device nodes. -/
structure DeviceTable (ν : Type) where
  entries : List (DeviceEntry ν)

namespace DeviceTable

variable {ν : Type}

/-- The table without nodes. -/
def empty : DeviceTable ν := ⟨[]⟩

/-- The entry of a path. -/
def entryAt? (t : DeviceTable ν) (path : String) : Option (DeviceEntry ν) :=
  t.entries.find? fun e => e.path == path

/-- The node published at a path. -/
def lookup (t : DeviceTable ν) (path : String) : Option ν := (t.entryAt? path).map DeviceEntry.node

/-- The access mode of the node at a path. -/
def mode (t : DeviceTable ν) (path : String) : Option FileMode :=
  (t.entryAt? path).map DeviceEntry.mode

/-- The published paths in byte order. -/
def paths (t : DeviceTable ν) : List String := t.entries.map DeviceEntry.path

/-- The number of published nodes. -/
def size (t : DeviceTable ν) : Nat := t.entries.length

/-- No node is published. -/
def isEmpty (t : DeviceTable ν) : Bool := t.entries.isEmpty

/-- Puts an entry in front of the first entry with a greater path. -/
def place (e : DeviceEntry ν) : List (DeviceEntry ν) → List (DeviceEntry ν)
  | [] => [e]
  | x :: rest =>
    if pathBytes e.path < pathBytes x.path then e :: x :: rest else x :: place e rest

/-- Adds an entry unless its path is taken. -/
def insert (t : DeviceTable ν) (e : DeviceEntry ν) : Except DeviceError Unit × DeviceTable ν :=
  if (t.entryAt? e.path).isSome then (.error .alreadyExists, t) else (.ok (), ⟨place e t.entries⟩)

/-- Publishes a node.  The empty path is no path. -/
def publish (t : DeviceTable ν) (e : DeviceEntry ν) : Except DeviceError Unit × DeviceTable ν :=
  if e.path = "" then (.error .invalidArgument, t) else t.insert e

end DeviceTable

/-- A way to read or to change a device table in one step. -/
inductive TableMethod (ν : Type) where
  | lookup (path : String)
  | mode (path : String)
  | paths
  | size
  | isEmpty
  | insert (entry : DeviceEntry ν)

namespace TableMethod

variable {ν : Type}

/-- What a method answers. -/
@[reducible]
def Answer : TableMethod ν → Type
  | lookup _ => Option ν
  | mode _ => Option FileMode
  | paths => List String
  | size => Nat
  | isEmpty => Bool
  | insert _ => Except DeviceError Unit

/-- What a method answers on a table, and the table it leaves. -/
def apply : (m : TableMethod ν) → DeviceTable ν → m.Answer × DeviceTable ν
  | lookup path, t => (t.lookup path, t)
  | mode path, t => (t.mode path, t)
  | paths, t => (t.paths, t)
  | size, t => (t.size, t)
  | isEmpty, t => (t.isEmpty, t)
  | insert e, t => t.insert e

end TableMethod

end LedDriver

import LedDriver.Flags

/-!
# File modes

The access mode of a device node: who may read and who may write it.
-/

namespace LedDriver

/-- The permissions with a name. -/
def FileMode.vocabulary : Vocabulary where
  name := "FileMode"
  width := 16
  named :=
    [("OWNER_READ", 0o400), ("OWNER_WRITE", 0o200), ("GROUP_READ", 0o40), ("GROUP_WRITE", 0o20),
      ("OTHER_READ", 0o4), ("OTHER_WRITE", 0o2)]

/-- A set of permissions. -/
abbrev FileMode := Flags FileMode.vocabulary

/-- Everyone may read and nobody may write: the mode in which devices are published. -/
def FileMode.readAll : FileMode := ⟨0o444⟩

end LedDriver

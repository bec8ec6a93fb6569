import LedDriver.DeviceError

/-!
# The data path

Device nodes can be read and written.  A light carries no data, so that both fail.
-/

namespace LedDriver.DataPath

/-- There is nothing to read: reading fails and leaves the buffer as it was. -/
def read (buffer : List UInt8) : Except DeviceError UInt64 × List UInt8 :=
  (.error .unsupported, buffer)

/-- There is nowhere to write. -/
def write (_ : List UInt8) : Except DeviceError UInt64 := .error .unsupported

end LedDriver.DataPath

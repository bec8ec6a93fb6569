import LedDriver.Text

/-!
# Device errors

The causes for which a call on a device can fail, the system error number of each, and their texts.
Ten causes have a name and a number of their own; every other number is a failure specific to the
driver.  `DeviceError.errno` encodes an error for a caller that expects a negative number, and
`DeviceError.ofErrno` decodes such a number, of either sign.
-/

namespace LedDriver

/-- The cause of a failed call. -/
inductive DeviceError where
  /-- A lock or the range of a parameter forbids the request. -/
  | permissionDenied
  /-- The device has as many open references as it admits. -/
  | tooManyOpens
  /-- A wait was interrupted before it got its permit. -/
  | interrupted
  /-- A wait gave up before it got its permit. -/
  | timedOut
  /-- An argument is malformed. -/
  | invalidArgument
  /-- The driver has no such operation. -/
  | unsupported
  /-- The hardware is busy. -/
  | busy
  /-- The hardware could not be reached. -/
  | io
  /-- A device is published under the requested path already. -/
  | alreadyExists
  /-- No device is published under the requested path. -/
  | notFound
  /-- A failure of the driver's own, with its system error number. -/
  | driver (code : Int32)
deriving DecidableEq, Inhabited

namespace DeviceError

/-- The causes that have a name. -/
def named : List DeviceError :=
  [permissionDenied, tooManyOpens, interrupted, timedOut, invalidArgument, unsupported, busy, io,
    alreadyExists, notFound]

/-- The system error number of a cause. -/
def code : DeviceError → Int32
  | permissionDenied => 1
  | notFound => 2
  | interrupted => 4
  | io => 5
  | busy => 16
  | alreadyExists => 17
  | invalidArgument => 22
  | tooManyOpens => 24
  | unsupported => 25
  | timedOut => 110
  | driver code => code

/-- The negated system error number, as a caller of a character device expects it. -/
def errno (e : DeviceError) : Int32 := -e.code

/-- The size of a number; the least number, whose size has no place in the type, is left as it
is. -/
def size (code : Int32) : Int32 := if code < 0 then -code else code

/-- The cause of a system error number given with either sign.
A number that no named cause has is a failure of the driver's own. -/
def ofErrno (code : Int32) : DeviceError :=
  (named.find? fun e => e.code == size code).getD (driver (size code))

/-- A caller may try again after these errors without changing its request. -/
def isTransient : DeviceError → Bool
  | interrupted | timedOut | busy => true
  | _ => false

/-- The sentence that tells a reader what failed. -/
def message : DeviceError → String
  | permissionDenied => "operation not permitted"
  | tooManyOpens => "too many open sessions"
  | interrupted => "wait interrupted"
  | timedOut => "wait timed out"
  | invalidArgument => "invalid argument"
  | unsupported => "operation not supported"
  | busy => "device busy"
  | io => "I/O error"
  | alreadyExists => "device already registered"
  | notFound => "device not found"
  | driver code => "driver error " ++ toString code.toInt

/-- The name of a cause. -/
def label : DeviceError → String
  | permissionDenied => "PermissionDenied"
  | tooManyOpens => "TooManyOpens"
  | interrupted => "Interrupted"
  | timedOut => "TimedOut"
  | invalidArgument => "InvalidArgument"
  | unsupported => "Unsupported"
  | busy => "Busy"
  | io => "Io"
  | alreadyExists => "AlreadyExists"
  | notFound => "NotFound"
  | driver code => Text.wrapped "Errno" (toString code.toInt)

end DeviceError

end LedDriver

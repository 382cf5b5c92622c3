import MockHost.Text.Quoted

/-!
# System errors

The errors of sockets and files. Most have a number, which decides their text and
their class; a few come without one.

## Main definitions

* `SystemError`: An error of a socket or file.
* `SystemError.message`, `SystemError.label`: Its text and the name of its class.
* `SystemError.isTimeout`, `SystemError.meansClosed`: Classes of errors.
-/

namespace MockHost

/-- The number of a system error. -/
abbrev ErrorNumber := Int

namespace ErrorNumber

/-- The text of an error number. -/
def text (n : ErrorNumber) : Text :=
  match n with
  | 1 => "Operation not permitted"
  | 2 => "No such file or directory"
  | 4 => "Interrupted system call"
  | 5 => "Input/output error"
  | 9 => "Bad file descriptor"
  | 11 => "Resource temporarily unavailable"
  | 12 => "Cannot allocate memory"
  | 13 => "Permission denied"
  | 17 => "File exists"
  | 20 => "Not a directory"
  | 21 => "Is a directory"
  | 22 => "Invalid argument"
  | 23 => "Too many open files in system"
  | 24 => "Too many open files"
  | 28 => "No space left on device"
  | 32 => "Broken pipe"
  | 36 => "File name too long"
  | 71 => "Protocol error"
  | 88 => "Socket operation on non-socket"
  | 97 => "Address family not supported by protocol"
  | 98 => "Address already in use"
  | 99 => "Cannot assign requested address"
  | 100 => "Network is down"
  | 101 => "Network is unreachable"
  | 102 => "Network dropped connection on reset"
  | 103 => "Software caused connection abort"
  | 104 => "Connection reset by peer"
  | 105 => "No buffer space available"
  | 106 => "Transport endpoint is already connected"
  | 107 => "Transport endpoint is not connected"
  | 108 => "Cannot send after transport endpoint shutdown"
  | 110 => "Connection timed out"
  | 111 => "Connection refused"
  | 112 => "Host is down"
  | 113 => "No route to host"
  | 114 => "Operation already in progress"
  | 115 => "Operation now in progress"
  | _ => "Unknown error " ++ Text.ofInt n

/-- The name of the class of an error number. -/
def label (n : ErrorNumber) : Text :=
  match n with
  | 1 | 13 => "PermissionError"
  | 2 => "FileNotFoundError"
  | 4 => "InterruptedError"
  | 11 | 114 | 115 => "BlockingIOError"
  | 17 => "FileExistsError"
  | 20 => "NotADirectoryError"
  | 21 => "IsADirectoryError"
  | 32 | 108 => "BrokenPipeError"
  | 103 => "ConnectionAbortedError"
  | 104 => "ConnectionResetError"
  | 110 => "TimeoutError"
  | 111 => "ConnectionRefusedError"
  | _ => "OSError"

end ErrorNumber

/-- An error of a socket or file. -/
inductive SystemError where
  | numbered (n : ErrorNumber)
  /-- An error that concerns a file. -/
  | onFile (n : ErrorNumber) (path : Text)
  /-- A wait on a socket ended. -/
  | timedOut
  /-- The name of a host is not known. -/
  | unknownName
  /-- An error without a number. -/
  | plain (text : Text)
  deriving DecidableEq, Repr

namespace SystemError

/-- The text of a system error. -/
def message : SystemError → Text
  | .numbered n => "[Errno " ++ Text.ofInt n ++ "] " ++ n.text
  | .onFile n path => "[Errno " ++ Text.ofInt n ++ "] " ++ n.text ++ ": " ++ path.quoted
  | .timedOut => "timed out"
  | .unknownName => "[Errno -2] Name or service not known"
  | .plain text => text

/-- The name of the class of a system error. -/
def label : SystemError → Text
  | .numbered n | .onFile n _ => n.label
  | .timedOut => "TimeoutError"
  | .unknownName => "gaierror"
  | .plain _ => "OSError"

/-- The number of a system error. -/
def number? : SystemError → Option ErrorNumber
  | .numbered n | .onFile n _ => some n
  | .unknownName => some (-2)
  | .timedOut | .plain _ => none

/-- Whether a wait ended. -/
def isTimeout (e : SystemError) : Bool := e = .timedOut || e.number? == some 110

/-- Whether the other side refused a connection. -/
def isRefusal (e : SystemError) : Bool := e.number? == some 111

/-- Whether the error only says that the socket is gone already. -/
def meansClosed (e : SystemError) : Bool :=
  match e.number? with
  | some n => [9, 32, 103, 104, 107, 108].contains n
  | none => false

end SystemError

end MockHost

/-!
# Failures of the file system

What the operating system answers when a path cannot be followed or a file cannot be read.
-/

namespace ProcessMeter

/-- Why a file operation failed. -/
inductive FileFailure where
  /-- A component of the path does not exist. -/
  | notFound
  /-- The process that the file belongs to is gone. -/
  | noSuchProcess
  /-- A component that has to be a directory is none. -/
  | notADirectory
  /-- A directory was read like a file. -/
  | isADirectory
  /-- Following the path met too many symbolic links. -/
  | tooManyLinks
  /-- A link was asked for, and the path names none. -/
  | notALink
  /-- A component or the whole path is too long. -/
  | nameTooLong
  /-- The path holds the character NUL. -/
  | nulInPath
  /-- A text was asked for, and the content is not UTF-8. -/
  | notUtf8
  /-- A file that has to be there is missing, as found without asking the system. -/
  | missingEntity
  /-- Another error number of the system. -/
  | other (number : Nat)
  deriving DecidableEq, Repr

namespace FileFailure

/-- The failure that an error number of the system stands for. -/
def ofNumber : Nat → FileFailure
  | 2 => .notFound
  | 3 => .noSuchProcess
  | 20 => .notADirectory
  | 21 => .isADirectory
  | 22 => .notALink
  | 36 => .nameTooLong
  | 40 => .tooManyLinks
  | n => .other n

/-- Whether the file does not exist. -/
def isMissing : FileFailure → Bool
  | .notFound | .missingEntity => true
  | _ => false

/-- Whether the file is gone: it does not exist, or its process does not. -/
def isGone (f : FileFailure) : Bool := f.isMissing || f == .noSuchProcess

/-- Whether the system does not support the operation on this file. -/
def isUnsupported : FileFailure → Bool
  | .other 95 => true
  | _ => false

/-- What the system has to say to its error numbers, from 1 on. -/
def systemWords : List String := [
  "Operation not permitted", "No such file or directory", "No such process",
  "Interrupted system call", "Input/output error", "No such device or address",
  "Argument list too long", "Exec format error", "Bad file descriptor", "No child processes",
  "Resource temporarily unavailable", "Cannot allocate memory", "Permission denied",
  "Bad address", "Block device required", "Device or resource busy", "File exists",
  "Invalid cross-device link", "No such device", "Not a directory", "Is a directory",
  "Invalid argument", "Too many open files in system", "Too many open files",
  "Inappropriate ioctl for device", "Text file busy", "File too large",
  "No space left on device", "Illegal seek", "Read-only file system", "Too many links",
  "Broken pipe", "Numerical argument out of domain", "Numerical result out of range",
  "Resource deadlock avoided", "File name too long", "No locks available",
  "Function not implemented", "Directory not empty", "Too many levels of symbolic links",
  "Unknown error 41", "No message of desired type", "Identifier removed",
  "Channel number out of range", "Level 2 not synchronized", "Level 3 halted", "Level 3 reset",
  "Link number out of range", "Protocol driver not attached", "No CSI structure available",
  "Level 2 halted", "Invalid exchange", "Invalid request descriptor", "Exchange full",
  "No anode", "Invalid request code", "Invalid slot", "Unknown error 58", "Bad font file format",
  "Device not a stream", "No data available", "Timer expired", "Out of streams resources",
  "Machine is not on the network", "Package not installed", "Object is remote",
  "Link has been severed", "Advertise error", "Srmount error", "Communication error on send",
  "Protocol error", "Multihop attempted", "RFS specific error", "Bad message",
  "Value too large for defined data type", "Name not unique on network",
  "File descriptor in bad state", "Remote address changed",
  "Can not access a needed shared library", "Accessing a corrupted shared library",
  ".lib section in a.out corrupted", "Attempting to link in too many shared libraries",
  "Cannot exec a shared library directly", "Invalid or incomplete multibyte or wide character",
  "Interrupted system call should be restarted", "Streams pipe error", "Too many users",
  "Socket operation on non-socket", "Destination address required", "Message too long",
  "Protocol wrong type for socket", "Protocol not available", "Protocol not supported",
  "Socket type not supported", "Operation not supported", "Protocol family not supported",
  "Address family not supported by protocol", "Address already in use",
  "Cannot assign requested address", "Network is down", "Network is unreachable",
  "Network dropped connection on reset", "Software caused connection abort",
  "Connection reset by peer", "No buffer space available",
  "Transport endpoint is already connected", "Transport endpoint is not connected",
  "Cannot send after transport endpoint shutdown", "Too many references: cannot splice",
  "Connection timed out", "Connection refused", "Host is down", "No route to host",
  "Operation already in progress", "Operation now in progress", "Stale file handle",
  "Structure needs cleaning", "Not a XENIX named type file", "No XENIX semaphores available",
  "Is a named type file", "Remote I/O error", "Disk quota exceeded", "No medium found",
  "Wrong medium type", "Operation canceled", "Required key not available", "Key has expired",
  "Key has been revoked", "Key was rejected by service", "Owner died", "State not recoverable",
  "Operation not possible due to RF-kill", "Memory page has hardware error"]

/-- The words of the system for an error number. -/
def wordsFor (number : Nat) : String :=
  match number with
  | 0 => "Success"
  | n + 1 => systemWords[n]?.getD s!"Unknown error {number}"

/-- The wording of the failure. -/
def message : FileFailure → String
  | .notFound => "No such file or directory (os error 2)"
  | .noSuchProcess => "No such process (os error 3)"
  | .notADirectory => "Not a directory (os error 20)"
  | .isADirectory => "Is a directory (os error 21)"
  | .tooManyLinks => "Too many levels of symbolic links (os error 40)"
  | .notALink => "Invalid argument (os error 22)"
  | .nameTooLong => "File name too long (os error 36)"
  | .nulInPath => "file name contained an unexpected NUL byte"
  | .notUtf8 => "stream did not contain valid UTF-8"
  | .missingEntity => "entity not found"
  | .other number => wordsFor number ++ s!" (os error {number})"

end FileFailure

end ProcessMeter

/-!
# Failures of the operating system

The failures that files, processes and connections can meet here, with the text that the system has
for each.
-/

namespace DeviceLab

/-- A failure of the operating system. -/
inductive IoError where
  | notFound
  | noSuchProcess
  | permissionDenied
  | alreadyExists
  | notADirectory
  | isADirectory
  | nameTooLong
  | argumentTooLong
  | notEmpty
  | tooManyLinks
  | badDescriptor
  | brokenPipe
  | invalidArgument
  | noSpace
  | fileTooLarge
  | tooManyOpenFiles
  | noDevice
  | notPermitted
  | interrupted
  | notExecutable
  | connectionRefused
  /-- The bytes of a file are no text. -/
  | invalidUtf8
  /-- A text that the system cannot take, such as one with a zero character. -/
  | invalidInput (detail : String)
  /-- Any other failure, by its text. -/
  | other (detail : String)
  deriving DecidableEq, Repr

/-- The text of a failure. -/
def IoError.message : IoError → String
  | .notFound => "No such file or directory (os error 2)"
  | .noSuchProcess => "No such process (os error 3)"
  | .permissionDenied => "Permission denied (os error 13)"
  | .alreadyExists => "File exists (os error 17)"
  | .notADirectory => "Not a directory (os error 20)"
  | .isADirectory => "Is a directory (os error 21)"
  | .nameTooLong => "File name too long (os error 36)"
  | .argumentTooLong => "Argument list too long (os error 7)"
  | .notExecutable => "Exec format error (os error 8)"
  | .notEmpty => "Directory not empty (os error 39)"
  | .tooManyLinks => "Too many levels of symbolic links (os error 40)"
  | .badDescriptor => "Bad file descriptor (os error 9)"
  | .brokenPipe => "Broken pipe (os error 32)"
  | .invalidArgument => "Invalid argument (os error 22)"
  | .noSpace => "No space left on device (os error 28)"
  | .fileTooLarge => "File too large (os error 27)"
  | .tooManyOpenFiles => "Too many open files (os error 24)"
  | .noDevice => "No such device or address (os error 6)"
  | .notPermitted => "Operation not permitted (os error 1)"
  | .interrupted => "Interrupted system call (os error 4)"
  | .connectionRefused => "Connection refused (os error 111)"
  | .invalidUtf8 => "stream did not contain valid UTF-8"
  | .invalidInput detail => detail
  | .other detail => detail

/-- The kind of a failure. -/
def IoError.kind : IoError → String
  | .notFound => "NotFound"
  | .permissionDenied => "PermissionDenied"
  | .alreadyExists => "AlreadyExists"
  | .notADirectory => "NotADirectory"
  | .isADirectory => "IsADirectory"
  | .nameTooLong => "InvalidFilename"
  | .argumentTooLong => "ArgumentListTooLong"
  | .connectionRefused => "ConnectionRefused"
  | .invalidUtf8 => "InvalidData"
  | .invalidInput _ | .invalidArgument => "InvalidInput"
  | .notEmpty => "DirectoryNotEmpty"
  | .tooManyLinks => "FilesystemLoop"
  | .brokenPipe => "BrokenPipe"
  | .noSpace => "StorageFull"
  | .fileTooLarge => "FileTooLarge"
  | .notPermitted => "PermissionDenied"
  | .interrupted => "Interrupted"
  | .noSuchProcess | .notExecutable | .badDescriptor | .noDevice | .tooManyOpenFiles
  | .other _ => "Uncategorized"

/-- The text of a failure without its number. -/
def IoError.reason (e : IoError) : String :=
  match (e.message.splitOn " (os error ") with
  | text :: _ => text
  | [] => ""

end DeviceLab

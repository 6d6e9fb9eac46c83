/-!
# Faults of file operations
-/

namespace TaskCorpus.Store

/-- Why a file operation did not happen. -/
inductive Fault where
  | notFound
  | alreadyExists
  | notDirectory
  | isDirectory
  | busy
  | nameTooLong
  | permissionDenied
  /-- A path with a null character, found when the path is looked at. -/
  | nullCharacter
  /-- A path with a null character, found when a file is moved to it. -/
  | invalidArgument
  /-- A file that is not text. -/
  | notText
  deriving DecidableEq

def Fault.message : Fault → String
  | .notFound => "No such file or directory (os error 2)"
  | .permissionDenied => "Permission denied (os error 13)"
  | .busy => "Device or resource busy (os error 16)"
  | .alreadyExists => "File exists (os error 17)"
  | .notDirectory => "Not a directory (os error 20)"
  | .isDirectory => "Is a directory (os error 21)"
  | .invalidArgument => "Invalid argument (os error 22)"
  | .nameTooLong => "File name too long (os error 36)"
  | .nullCharacter => "file name contained an unexpected NUL byte"
  | .notText => "stream did not contain valid UTF-8"

end TaskCorpus.Store

namespace Compositor.Host

inductive ReadError where
  | notFound
  | notDirectory
  | isDirectory
  | nameTooLong
  | permissionDenied
  /-- The path holds a null character, which ends paths. -/
  | nullInPath
  | notUtf8
  /-- Any other failure, in the words of the system. -/
  | other (text : String)
deriving DecidableEq, Repr

namespace ReadError

def osText (text : String) (number : Nat) : String :=
  text ++ " (os error " ++ toString number ++ ")"

def message : ReadError → String
  | notFound => osText "No such file or directory" 2
  | notDirectory => osText "Not a directory" 20
  | isDirectory => osText "Is a directory" 21
  | nameTooLong => osText "File name too long" 36
  | permissionDenied => osText "Permission denied" 13
  | nullInPath => "file name contained an unexpected NUL byte"
  | notUtf8 => "stream did not contain valid UTF-8"
  | other text => text

end ReadError
end Compositor.Host

/-! Causes for which a file cannot be read or written, in the words of the operating system. -/
namespace LoadSeries

inductive FileFault where
  | missing
  | isDirectory
  | notDirectory
  | nameTooLong
  | noDevice
  /-- The path holds a zero, which ends paths. -/
  | holdsZero
  /-- The content is no text. -/
  | notText
  /-- Anything else that the operating system says. -/
  | other (text : String)
deriving DecidableEq, Repr

def FileFault.text : FileFault → String
  | .missing => "No such file or directory (os error 2)"
  | .isDirectory => "Is a directory (os error 21)"
  | .notDirectory => "Not a directory (os error 20)"
  | .nameTooLong => "File name too long (os error 36)"
  | .noDevice => "No such device or address (os error 6)"
  | .holdsZero => "file name contained an unexpected NUL byte"
  | .notText => "stream did not contain valid UTF-8"
  | .other text => text

end LoadSeries

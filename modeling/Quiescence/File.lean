/-! # Text files

Settings and scripts come from files. There may be no file of a name, the name may be that of a
directory, and the bytes of a file may be no text in UTF-8.
-/

namespace Quiescence

/-- What is found under the name of a file. -/
inductive Stored where
  | nothing
  | directory
  | file (bytes : ByteArray)

/-- Whether something is found. -/
def Stored.isThere : Stored → Bool
  | nothing => false
  | directory | file _ => true

/-- Why there is no text to read. -/
inductive FileFault where
  | missing
  | isDirectory
  | notText
deriving DecidableEq

/-- The words in which the operating system, or the reader of the text, reports the fault. -/
def FileFault.message : FileFault → String
  | missing => "No such file or directory (os error 2)"
  | isDirectory => "Is a directory (os error 21)"
  | notText => "stream did not contain valid UTF-8"

/-- The text that is found. -/
def Stored.text : Stored → Except FileFault String
  | nothing => .error .missing
  | directory => .error .isDirectory
  | file bytes => match String.fromUTF8? bytes with
    | some text => .ok text
    | none => .error .notText

end Quiescence

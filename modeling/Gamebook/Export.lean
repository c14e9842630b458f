import Gamebook.Format
import Gamebook.Text.Blank
import Gamebook.Text.Printable

/-!
# Adventures as files to download

The file is named after the title. Characters that file systems reserve, and controls, become
underscores; a title of blanks alone gives the name `adventure`.
-/

namespace Gamebook

/-- The characters that file names should not hold, controls apart. -/
def reservedChars : List Char := ['/', '\\', ':', '*', '?', '"', '<', '>', '|']

/-- The character that stands for a character of a title in a file name. -/
def fileNameChar (c : Char) : Char :=
  if reservedChars.contains c || Text.isControl c then '_' else c

/-- The file name of a title, without extension. -/
def fileStem (title : String) : String :=
  let stem := (Text.trimChars title.toList).map fileNameChar
  if stem.isEmpty then "adventure" else String.ofList stem

/-- A file to download. -/
structure ExportFile where
  fileName : String
  mediaType : String
  contents : String
deriving DecidableEq, Repr

/-- The file of an adventure in a notation. -/
def exportFile (a : Adventure) (format : Format) : ExportFile where
  fileName := fileStem a.title ++ "." ++ format.extension
  mediaType := format.mediaType
  contents := serialize format a

end Gamebook

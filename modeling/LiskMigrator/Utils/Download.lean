import LiskMigrator.Requests

namespace LiskMigrator
open Interaction

section Files
variable (world : World migrator)

-- getDownloadedFileInfo: the protocol that it strips never holds the part of the
-- URL behind the last slash.
def downloadedFilePath (url downloadDir : String) : String :=
  Path.join [downloadDir,(Path.segments url).getLastD ""]

def download (url dir : String) : Migration Unit := settled (ask world (.download url (downloadedFilePath url dir)))

def verifyChecksum (filePath expectedChecksum : String) : Migration Unit := do
  let fileChecksum ← settled (ask world (.createChecksum filePath))
  raiseIf (fileChecksum ≠ expectedChecksum)
    ("File checksum: " ++ fileChecksum ++ " mismatched with expected checksum: " ++ expectedChecksum)

def getChecksum (url dir : String) : Migration String := do
  let filePath := downloadedFilePath url dir
  let content ← settled (ask world (.read (filePath ++ ".SHA256")))
  raiseIf (content = "") ("Invalid filepath: " ++ filePath)
  return String.ofList (content.toList.takeWhile (· ≠ ' '))

def downloadAndExtract (url downloadPath extractionPath : String) : Migration Unit := do
  download world url downloadPath
  download world (url ++ ".SHA256") downloadPath
  let filePath := downloadedFilePath url downloadPath
  let checksum ← getChecksum world url downloadPath
  verifyChecksum world filePath checksum
  settled (ask world (.extractTarBall filePath extractionPath))

end Files
end LiskMigrator

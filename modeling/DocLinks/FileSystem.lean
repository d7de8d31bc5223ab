import DocLinks.Error

namespace DocLinks

structure FileSystem where
  isPresent : Path → Bool
  isDirectory : Path → Bool
  readBytes : Path → Except ReadFailure (List UInt8)

end DocLinks

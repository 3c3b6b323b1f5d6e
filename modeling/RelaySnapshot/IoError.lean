namespace RelaySnapshot

inductive IoError where
  | notFound
  | notADirectory
  | isADirectory
  /-- Symbolic links lead to one another without an end. -/
  | tooManyLinks
  | nameTooLong
  | nulInName
  /-- Compressed data end too early. -/
  | unexpectedEnd
  | notGzip
  | emptyArchive
  | notAnArchive
  /-- Packed data are malformed in another way. -/
  | corrupt (text : String)
  /-- A directory tree cannot be walked on at `path`. -/
  | walk (path : String) (cause : IoError)
  /-- A link in a directory tree leads back to a directory above it. -/
  | linkLoop (link ancestor : String)
  | networkUnreachable
  /-- The address of a host cannot be looked up. -/
  | unknownHost
  | connectionRefused
  | malformedEndpoint
  | malformedPort
  | notText
  deriving DecidableEq, Repr

namespace IoError

def message : IoError → String
  | notFound => "No such file or directory (os error 2)"
  | notADirectory => "Not a directory (os error 20)"
  | isADirectory => "Is a directory (os error 21)"
  | tooManyLinks => "Too many levels of symbolic links (os error 40)"
  | nameTooLong => "File name too long (os error 36)"
  | nulInName => "file name contained an unexpected NUL byte"
  | unexpectedEnd => "unexpected end of file"
  | notGzip => "invalid gzip header"
  | emptyArchive => "premature eof"
  | notAnArchive => "stream/file format not recognized"
  | corrupt text => text
  | walk path cause => s!"IO error for operation on {path}: {cause.message}"
  | linkLoop link ancestor => s!"File system loop found: {link} points to an ancestor {ancestor}"
  | networkUnreachable => "Network is unreachable (os error 101)"
  | unknownHost =>
    "failed to lookup address information: Temporary failure in name resolution"
  | connectionRefused => "Connection refused (os error 111)"
  | malformedEndpoint => "invalid socket address"
  | malformedPort => "invalid port value"
  | notText => "stream did not contain valid UTF-8"

end IoError

end RelaySnapshot

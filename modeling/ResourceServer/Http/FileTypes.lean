/-
The media types of files, with the extensions that stand for them.

Extensions are in small letters, and none stands for two types. The types that sites hold most come first. The case of
letters does not count in the extension of a name, so a letter is taken for the small letters that it stands for: the
long s for an s, the sharp s for two, a ligature for its parts.
-/
import ResourceServer.Http.FileTypes.Application
import ResourceServer.Http.FileTypes.Media
import ResourceServer.Http.FileTypes.Text
import ResourceServer.Http.FileTypes.Vendor
import ResourceServer.Text

namespace ResourceServer.Http

/-- types of what sites hold most -/
def commonTypes : List (String × List String) := [
  ("text/html", ["html", "htm", "shtml", "hxt"]),
  ("text/css", ["css"]),
  ("text/javascript", ["js", "jsx", "es", "ecma", "jsm"]),
  ("application/javascript", ["mjs"]),
  ("application/json", ["json"]),
  ("text/plain", ["txt", "map", "text", "in", "list", "asm", "bas", "c", "cc", "cd", "cfg", "cmd", "cnf", "conf",
    "cpp", "cs", "csdproj", "csproj", "cxx", "dbproj", "def", "dsw", "h", "hh", "hpp", "hxx", "i", "idl", "inc",
    "ini", "inl", "ipproj", "jsxbin", "log", "lst", "mak", "mk", "odh", "odl", "pkgdef", "pkgundef", "py", "rc",
    "rc2", "rct", "reg", "rgs", "s", "scr", "sln", "sol", "sor", "srf", "tlh", "tli", "user", "vb", "vbdproj",
    "vbproj", "vcs", "vddproj", "vdp", "vdproj", "vspscc", "vsscc", "vssscc", "xdr", "xoml"]),
  ("image/png", ["png", "pnz"]),
  ("image/jpeg", ["jpg", "jpeg", "jpe", "jfif"]),
  ("image/gif", ["gif"]),
  ("image/svg+xml", ["svg", "svgz"]),
  ("image/x-icon", ["ico"]),
  ("image/webp", ["webp"]),
  ("application/pdf", ["pdf"]),
  ("text/xml", ["xml", "addin", "disco", "dtd", "dtsconfig", "mno", "ssisdeploymentmanifest", "vml", "vsct",
    "vsixlangpack", "vsixmanifest", "vssettings", "vstemplate", "wsdl", "xrm-ms", "xsd", "xsf", "xsl", "xslt"]),
  ("application/wasm", ["wasm"]),
  ("video/mp4", ["mp4", "mp4v", "mpg4"]),
  ("text/markdown", ["md", "markdown"]),
  ("text/csv", ["csv"]),
  ("application/zip", ["zip"]),
  ("application/gzip", ["gz"])]

/-- media types, each with the extensions of its files -/
def fileTypes : List (String × List String) :=
  commonTypes ++ textTypes ++ messageTypes ++ fontTypes ++ imageTypes ++ audioTypes ++ videoTypes ++ modelTypes ++
    applicationTypes ++ privateTypes ++ officeTypes ++ vendorTypes

/-- the media type that an extension stands for -/
def fileType? (extension : String) : Option String :=
  (fileTypes.find? fun type => type.2.contains extension).map (·.1)

/-! ## Names of files -/

/-- the type of a file without a known extension -/
def unknownMediaType : Text := "application/octet-stream".toList

/-- what follows the last dot of a name; a dot in front of everything else does not count -/
def extension? (name : Text) : Option Text :=
  let behind := (name.reverse.takeWhile (· != '.')).reverse
  if behind.length + 1 < name.length then some behind else none

/-- the small letters that a character stands for; beyond ASCII, characters that stand for ASCII letters only -/
def smallLetters (c : Char) : Text :=
  match c with
  | 'ß' => ['s', 's']
  | 'ẞ' => ['s', 's']
  | 'ſ' => ['s']
  | '\u212a' => ['k']
  | 'ﬀ' => ['f', 'f']
  | 'ﬁ' => ['f', 'i']
  | 'ﬂ' => ['f', 'l']
  | 'ﬃ' => ['f', 'f', 'i']
  | 'ﬄ' => ['f', 'f', 'l']
  | 'ﬅ' => ['s', 't']
  | 'ﬆ' => ['s', 't']
  | c => [c.toLower]

/-- the type of the file at a path -/
def mediaType (path : Text) : Text :=
  let name := (path.reverse.takeWhile (· != '/')).reverse
  match extension? name with
  | none => unknownMediaType
  | some ext =>
    match fileType? (String.ofList (ext.flatMap smallLetters)) with
    | some type => type.toList
    | none => unknownMediaType

end ResourceServer.Http

/-
# Documents by URL

A document can refer to another one by its URL.  Local files are read; other
URLs are refused.

* `Resource.resolve`: the text that a URL names.
-/
import LuServer.Url

namespace LuServer

/-- Why the text that a URL names is not at hand. -/
inductive ResourceFault where
  /-- The text is no URL, or that of a file on another host. -/
  | invalidUri (url : Text)
  | unsupportedScheme (scheme : Text)
  /-- The document is on the web. -/
  | remote (url : Text)
  | unreadable (path : Text) (fault : FileFault)
deriving DecidableEq, Repr

namespace ResourceFault

/-- The wording of a fault. -/
def message : ResourceFault → String
  | invalidUri url => "invalid schema uri '" ++ String.ofList url ++ "'"
  | unsupportedScheme scheme =>
    "unsupported schema uri scheme '" ++ String.ofList scheme ++ "'"
  | remote url => "failed to fetch schema " ++ String.ofList url
  | unreadable path fault =>
    "failed to read schema file " ++ String.ofList path ++ ": " ++ fault.message

end ResourceFault

namespace Resource

/-- The schemes of documents on the web. -/
def webSchemes : List Text :=
  ["http", "https"].map String.toList

/-- The text of a local file. -/
def read (tree : FileTree) (path : List UInt8) : Except ResourceFault Text :=
  match tree.readText (Path.steps path) with
  | .ok text => .ok text
  | .error fault => .error (.unreadable (Text.ofBytesLossy path) fault)

/-- The text that a URL names. -/
def resolve (tree : FileTree) (url : Text) : Except ResourceFault Text :=
  match Url.parse? url with
  | none => .error (.invalidUri url)
  | some u =>
    if u.scheme = Url.fileScheme then
      match u.localPath? with
      | none => .error (.invalidUri url)
      | some path => read tree path
    else if webSchemes.contains u.scheme then .error (.remote url)
    else .error (.unsupportedScheme u.scheme)

end Resource

end LuServer

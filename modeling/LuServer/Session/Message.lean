/-
# Messages between editor and server

* `Request`, `Notification`: what the editor sends.
* `Reply`, `Broadcast`: what the server answers, and what it sends unasked.
* `Method.ofName`: the methods that the protocol knows.
-/
import LuServer.Caret.Completion
import LuServer.Debounce
import LuServer.Text.Edit
import LuServer.Url

namespace LuServer

/-- A question about an open document. -/
inductive Question where
  | complete (uri : Uri) (p : Position)
  | format (uri : Uri) (p : Position) (typed : Text)
  /-- A labelled utterance is to be copied without its labels; its line is
  counted from 1. -/
  | unlabel (uri : Uri) (number : Nat)
deriving DecidableEq, Repr

/-- Something that the server has to answer.  Where parameters cannot be
understood there are none. -/
inductive Request where
  | setUp (workspace : Option (List Url × Option Url))
  | shutdown (understood : Bool)
  | ask (question : Option Question)
  /-- A method of the protocol that this server does not have. -/
  | unsupported (understood : Bool)
  /-- A notification that is sent as a request. -/
  | notice
  /-- The notification that cancels a request, sent as a request. -/
  | cancellation
  /-- The notification that ends the server, sent as a request. -/
  | exit
  /-- A method that a server need not heed. -/
  | optional
  /-- A method that the protocol does not have. -/
  | unknown
deriving DecidableEq, Repr

/-- Something that the server is told. -/
inductive Notification where
  | initialized
  | opened (uri : Uri) (text : Text) (version : Int)
  /-- Each of the texts replaces the whole document. -/
  | changed (uri : Uri) (version : Int) (texts : List Text)
  | closed (uri : Uri)
deriving DecidableEq, Repr

/-- Why a request is refused. -/
inductive Refusal where
  | notInitialized
  | invalidRequest
  | methodNotFound
  | invalidParams
deriving DecidableEq, Repr

namespace Refusal

/-- The number that a refusal is known by. -/
def code : Refusal → Int
  | notInitialized => -32002
  | invalidRequest => -32600
  | methodNotFound => -32601
  | invalidParams => -32602

/-- The wording of a refusal, where it has a fixed one. -/
def message? : Refusal → Option String
  | notInitialized => some "Server not initialized"
  | invalidRequest => some "Invalid request"
  | methodNotFound => some "Method not found"
  | invalidParams => none

end Refusal

/-- The answer to a request. -/
inductive Reply where
  /-- What the server can do. -/
  | capabilities
  | nothing
  | items (items : List Item)
  | edits (edits : List TextEdit)
  | refused (reason : Refusal)
deriving DecidableEq, Repr

/-- What the server sends without being asked, with its time. -/
inductive Broadcast where
  | diagnostics (publication : Publication)
  /-- The server is ready. -/
  | greeting (time : Nat)
  | unlabelled (time : Nat) (edits : List TextEdit)
deriving DecidableEq, Repr

/-- What the server says about itself when it is initialized. -/
structure Capabilities where
  /-- Changes come with the whole text. -/
  sync : Nat := 1
  completionTriggers : List String := ["@", " ", "\x7b", ":", "["]
  formattingTrigger : String := "\n"
  serverName : String := "lusp"
  serverVersion : String := "0.1.0"
deriving DecidableEq, Repr

/-- The greeting that goes to the log of the editor. -/
def greetingText : String :=
  "LU language server initialized"

/-- The methods of requests, by what the server does with them. -/
inductive Method where
  | setUp
  | shutdown
  | complete
  | format
  | unlabel
  | unsupported
  | notice
  | cancellation
  | exit
  | optional
  | unknown
deriving DecidableEq, Repr

namespace Method

/-- Methods of the protocol that this server does not have. -/
def unsupportedNames : List String :=
  ["textDocument/declaration", "textDocument/definition", "textDocument/typeDefinition",
    "textDocument/implementation", "textDocument/references",
    "textDocument/prepareCallHierarchy", "callHierarchy/incomingCalls",
    "callHierarchy/outgoingCalls", "textDocument/prepareTypeHierarchy",
    "typeHierarchy/supertypes", "typeHierarchy/subtypes", "textDocument/documentHighlight",
    "textDocument/documentLink", "documentLink/resolve", "textDocument/hover",
    "textDocument/codeLens", "codeLens/resolve", "textDocument/foldingRange",
    "textDocument/selectionRange", "textDocument/documentSymbol",
    "textDocument/semanticTokens/full", "textDocument/semanticTokens/full/delta",
    "textDocument/semanticTokens/range", "textDocument/inlineValue", "textDocument/inlayHint",
    "inlayHint/resolve", "textDocument/moniker", "completionItem/resolve",
    "textDocument/diagnostic", "workspace/diagnostic", "textDocument/signatureHelp",
    "textDocument/codeAction", "codeAction/resolve", "textDocument/documentColor",
    "textDocument/colorPresentation", "textDocument/formatting",
    "textDocument/rangeFormatting", "textDocument/rename", "textDocument/prepareRename",
    "textDocument/linkedEditingRange", "textDocument/willSaveWaitUntil", "workspace/symbol",
    "workspaceSymbol/resolve", "workspace/executeCommand", "workspace/willCreateFiles",
    "workspace/willRenameFiles", "workspace/willDeleteFiles"]

/-- Methods of notifications. -/
def noticeNames : List String :=
  ["initialized", "textDocument/didOpen", "textDocument/didChange", "textDocument/willSave",
    "textDocument/didSave", "textDocument/didClose", "workspace/didChangeWorkspaceFolders",
    "workspace/didChangeConfiguration", "workspace/didChangeWatchedFiles",
    "workspace/didCreateFiles", "workspace/didRenameFiles", "workspace/didDeleteFiles"]

/-- The method with a name. -/
def ofName (name : String) : Method :=
  if name = "initialize" then setUp
  else if name = "shutdown" then shutdown
  else if name = "textDocument/completion" then complete
  else if name = "textDocument/onTypeFormatting" then format
  else if name = "labelingExperienceRequest" then unlabel
  else if unsupportedNames.contains name then unsupported
  else if noticeNames.contains name then notice
  else if name = "$/cancelRequest" then cancellation
  else if name = "exit" then exit
  else if "$/".toList.isPrefixOf name.toList then optional
  else unknown

end Method

end LuServer

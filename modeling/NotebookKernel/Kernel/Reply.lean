import NotebookKernel.Json.Printer

/-! # Replies

The kernel answers every request with an envelope of the same form, written as compact JSON
on one line.  `Reply.toJson` lays a reply out, `Reply.encode` writes it.
-/

namespace NotebookKernel

open NotebookKernel.Json (Value)

/-! ## Parts of replies -/

/-- Renderings of a result by MIME type, in ascending order of the types. -/
abbrev MimeBundle := List (String × String)

def plainTextType : String := "text/plain"

def plainText (text : String) : MimeBundle :=
  [(plainTextType, text)]

structure ErrorContent where
  name : String
  value : String
  traceback : List String
  deriving Repr, DecidableEq

/-- An error whose traceback is its own text. -/
def ErrorContent.ofValue (name value : String) : ErrorContent :=
  { name, value, traceback := [value] }

inductive ReplyStatus where
  | ok
  | error
  deriving Repr, DecidableEq

structure ExecuteReply where
  status : ReplyStatus
  count : UInt32
  data : Option MimeBundle
  error : Option ErrorContent
  deriving Repr, DecidableEq

structure CompleteReply where
  status : ReplyStatus
  words : List String
  start : Nat
  stop : Nat
  deriving Repr, DecidableEq

structure InspectReply where
  status : ReplyStatus
  found : Bool
  data : MimeBundle
  deriving Repr, DecidableEq

/-- Whether a cell is complete, and how to indent the next line if not. -/
structure IsCompleteReply where
  status : String
  indent : String
  deriving Repr, DecidableEq

structure LanguageInfo where
  name : String
  version : String
  mimetype : String
  fileExtension : String
  lexer : String
  editorMode : String
  exporter : String
  deriving Repr, DecidableEq

structure HelpLink where
  text : String
  url : String
  deriving Repr, DecidableEq

structure KernelInfoReply where
  status : ReplyStatus
  protocolVersion : String
  implementation : String
  implementationVersion : String
  language : LanguageInfo
  banner : String
  debugger : Bool
  helpLinks : List HelpLink
  deriving Repr, DecidableEq

structure ShutdownReply where
  status : ReplyStatus
  restart : Bool
  deriving Repr, DecidableEq

inductive Reply where
  | execute (content : ExecuteReply)
  | complete (content : CompleteReply)
  | inspect (content : InspectReply)
  | isComplete (content : IsCompleteReply)
  | kernelInfo (content : KernelInfoReply)
  | shutdown (content : ShutdownReply)
  /-- The answer to a line that could not be handled at all. -/
  | error (content : ErrorContent)
  deriving Repr, DecidableEq

/-! ## Making replies -/

namespace ExecuteReply

def success (count : UInt32) (data : Option MimeBundle) : ExecuteReply :=
  { status := .ok, count, data, error := none }

def failure (count : UInt32) (error : ErrorContent) : ExecuteReply :=
  { status := .error, count, data := none, error := some error }

def text? (r : ExecuteReply) : Option String :=
  r.data.bind (·.lookup plainTextType)

end ExecuteReply

namespace InspectReply

def notFound : InspectReply :=
  { status := .ok, found := false, data := [] }

def ofText (text : String) : InspectReply :=
  { status := .ok, found := true, data := plainText text }

end InspectReply

def Reply.protocolError (value : String) : Reply :=
  .error (.ofValue "ProtocolError" value)

/-! ## Their JSON form -/

def ReplyStatus.toJson : ReplyStatus → Value
  | .ok => .string "ok"
  | .error => .string "error"

def textsToJson (texts : List String) : Value :=
  .array (texts.map .string)

def mimeToJson (data : MimeBundle) : Value :=
  .object (data.map fun (type, text) => (type, .string text))

def ErrorContent.members (e : ErrorContent) : Json.Members :=
  [("ename", .string e.name), ("evalue", .string e.value), ("traceback", textsToJson e.traceback)]

/-- An execution; renderings and error are left out if there are none. -/
def ExecuteReply.toJson (r : ExecuteReply) : Value :=
  .object
    ([("status", r.status.toJson), ("execution_count", .integer r.count.toNat)] ++
      (r.data.map fun data => ("data", mimeToJson data)).toList ++
      (r.error.map ErrorContent.members).getD [])

def CompleteReply.toJson (r : CompleteReply) : Value :=
  .object
    [ ("status", r.status.toJson), ("matches", textsToJson r.words),
      ("cursor_start", .integer r.start), ("cursor_end", .integer r.stop) ]

def InspectReply.toJson (r : InspectReply) : Value :=
  .object [("status", r.status.toJson), ("found", .bool r.found), ("data", mimeToJson r.data)]

def IsCompleteReply.toJson (r : IsCompleteReply) : Value :=
  .object [("status", .string r.status), ("indent", .string r.indent)]

def LanguageInfo.toJson (l : LanguageInfo) : Value :=
  .object
    [ ("name", .string l.name), ("version", .string l.version), ("mimetype", .string l.mimetype),
      ("file_extension", .string l.fileExtension), ("pygments_lexer", .string l.lexer),
      ("codemirror_mode", .string l.editorMode), ("nbconvert_exporter", .string l.exporter) ]

def HelpLink.toJson (l : HelpLink) : Value :=
  .object [("text", .string l.text), ("url", .string l.url)]

def KernelInfoReply.toJson (r : KernelInfoReply) : Value :=
  .object
    [ ("status", r.status.toJson), ("protocol_version", .string r.protocolVersion),
      ("implementation", .string r.implementation),
      ("implementation_version", .string r.implementationVersion),
      ("language_info", r.language.toJson), ("banner", .string r.banner),
      ("debugger", .bool r.debugger), ("help_links", .array (r.helpLinks.map HelpLink.toJson)) ]

def ShutdownReply.toJson (r : ShutdownReply) : Value :=
  .object [("status", r.status.toJson), ("restart", .bool r.restart)]

namespace Reply

def tag : Reply → String
  | .execute _ => "execute_reply"
  | .complete _ => "complete_reply"
  | .inspect _ => "inspect_reply"
  | .isComplete _ => "is_complete_reply"
  | .kernelInfo _ => "kernel_info_reply"
  | .shutdown _ => "shutdown_reply"
  | .error _ => "error"

def content : Reply → Value
  | .execute r => r.toJson
  | .complete r => r.toJson
  | .inspect r => r.toJson
  | .isComplete r => r.toJson
  | .kernelInfo r => r.toJson
  | .shutdown r => r.toJson
  | .error e => .object e.members

def toJson (r : Reply) : Value :=
  .object [("msg_type", .string r.tag), ("content", r.content)]

/-- The line of a reply, without its end. -/
def encode (r : Reply) : String :=
  r.toJson.compact

end Reply

end NotebookKernel

import AChat.FileServer.FileManager

/-!
Owns the file session: the two request handlers, which share one `FILE` pointer,
and `process`, which chooses between them.

Every library call of a request may fail, which is an input of the request. A
request is taken as read from the stream. A division by a file size of 0 in a log
line ends the server.
-/

namespace AChat.FileServer

open Lib

/-! ### Messages -/

def msgTypeUploadResp : Nat := 2
def msgTypeDownloadResp : Nat := 4

def fileMsgErrorProgress : Nat := 1
def fileMsgErrorComplete : Nat := 2
def fileMsgErrorNotExist : Nat := 3

def clientNetTypeCellular : Int := 1

/-- `msg_type_upload_req`. -/
structure UploadReq where
  seq : Int
  filemd5 : Name
  offset : Int
  filesize : Int
  filedata : Bytes
deriving DecidableEq, Repr

/-- `msg_type_download_req`. -/
structure DownloadReq where
  seq : Int
  filemd5 : Name
  clientNetType : Int
deriving DecidableEq, Repr

inductive Request where
  | upload (req : UploadReq)
  | download (req : DownloadReq)
deriving DecidableEq, Repr

/-- What `send` puts into a response. -/
structure FileMsg where
  cmd : Nat
  seq : Int
  errorcode : Nat
  filemd5 : Name
  offset : Int
  filesize : Int
  filedata : Bytes
deriving DecidableEq, Repr

/-- How the library calls of a request end. `fwrite` and `fread` say after how
many bytes they stop. -/
structure Calls where
  probe : Bool
  fopen : Bool
  fseek : Bool
  ftell : Bool
  fseekSet : Bool
  fwrite : Option Nat
  fflush : Bool
  fread : Option Nat
deriving DecidableEq, Repr

/-- No call fails. -/
def Calls.succeed : Calls :=
  ⟨true, true, true, true, true, none, true, none⟩

/-! ### State -/

structure FileSession where
  seq : Int
  fp : Option Nat
  currentDownloadFileOffset : Int
  currentDownloadFileSize : Int
  strFileBaseDir : Name
  bFileUploading : Bool
deriving DecidableEq, Repr

/-- The constructor. -/
def FileSession.new (fileBaseDir : Name) : FileSession where
  seq := 0
  fp := none
  currentDownloadFileOffset := 0
  currentDownloadFileSize := 0
  strFileBaseDir := fileBaseDir
  bFileUploading := false

/-- What a handler of a session works on. -/
structure FileState (File : Type) where
  session : FileSession
  manager : FileManager
  stdio : Stdio File

/-- What a handler returns and sends, and whether the server is still there. -/
structure Reply where
  returns : Bool
  sent : List FileMsg
  crashed : Bool
deriving DecidableEq, Repr

def Reply.refused : Reply :=
  ⟨false, [], false⟩

namespace FileState

variable {File : Type}

def resetFile (state : FileState File) : FileState File :=
  match state.session.fp with
  | none => state
  | some fp =>
      { state with
        stdio := state.stdio.close fp
        session :=
          { state.session with
            currentDownloadFileOffset := 0
            currentDownloadFileSize := 0
            fp := none
            bFileUploading := false } }

variable (fileOf : Name → File)

/-- The file that a name stands for in this session. -/
def fileNamed (state : FileState File) (filemd5 : Name) : File :=
  fileOf (pathOf state.session.strFileBaseDir filemd5)

/-- Whether the file is there, and what the manager remembers of it. -/
def isFileExsit (state : FileState File) (filemd5 : Name) (calls : Calls) :
    Bool × FileState File :=
  let found := state.manager.isFileExsit fileOf state.stdio.disk filemd5 calls.probe
  (found.1, { state with manager := found.2 })

/-! ### Uploads -/

/-- The sum of two `int64_t`. -/
def addInt64 (left right : Int) : Int :=
  (left + right).bmod (2 ^ 64)

section Upload

variable [DecidableEq File]

/-- The response of a chunk that was written, and of the last one. -/
def uploadResp (state : FileState File) (req : UploadReq) : Reply × FileState File :=
  let crashed := req.filesize == 0
  if addInt64 req.offset req.filedata.length = req.filesize then
    (⟨true, [⟨msgTypeUploadResp, state.session.seq, fileMsgErrorComplete, req.filemd5,
        req.filesize, req.filesize, []⟩], crashed⟩,
      { state with manager := state.manager.addFile req.filemd5 }.resetFile)
  else
    (⟨true, [⟨msgTypeUploadResp, state.session.seq, fileMsgErrorProgress, req.filemd5,
        req.offset, req.filesize, []⟩], crashed⟩, state)

/-- A chunk is written to the open file. -/
def writeChunk (state : FileState File) (fp : Nat) (req : UploadReq) (calls : Calls) :
    Reply × FileState File :=
  let sought := state.stdio.seekSet fp req.offset calls.fseek
  if sought.1 = false then (.refused, { state with stdio := sought.2 }.resetFile)
  else
    let wrote := sought.2.write fp req.filedata calls.fwrite
    if wrote.1 ≠ req.filedata.length then (.refused, { state with stdio := wrote.2 }.resetFile)
    else
      let flushed := wrote.2.flush fp calls.fflush
      if flushed.1 = false then (.refused, { state with stdio := flushed.2 })
      else { state with stdio := flushed.2 }.uploadResp req

/-- The first chunk opens the file, whatever is open before. -/
def firstChunk (state : FileState File) (req : UploadReq) (calls : Calls) :
    Reply × FileState File :=
  match state.stdio.openWrite (state.fileNamed fileOf req.filemd5) calls.fopen with
  | (none, stdio) =>
      (.refused, { state with stdio := stdio, session := { state.session with fp := none } })
  | (some fp, stdio) =>
      { state with
        stdio := stdio
        session := { state.session with fp := some fp, bFileUploading := true } }.writeChunk fp
          req calls

/-- A later chunk goes to the file that is open. -/
def laterChunk (state : FileState File) (req : UploadReq) (calls : Calls) :
    Reply × FileState File :=
  match state.session.fp with
  | none => (.refused, state)
  | some fp => state.writeChunk fp req calls

def onUploadFileResponse (state : FileState File) (req : UploadReq) (calls : Calls) :
    Reply × FileState File :=
  if req.filemd5 = [] then (.refused, state)
  else
    let found := state.isFileExsit fileOf req.filemd5 calls
    if found.1 = true ∧ state.session.bFileUploading = false then
      (⟨true, [⟨msgTypeUploadResp, state.session.seq, fileMsgErrorComplete, req.filemd5,
        req.filesize, req.filesize, []⟩], false⟩, found.2)
    else if req.offset = 0 then found.2.firstChunk fileOf req calls
    else found.2.laterChunk req calls

end Upload

/-! ### Downloads -/

/-- The file is opened and measured. -/
def openDownload (state : FileState File) (filemd5 : Name) (calls : Calls) :
    Bool × FileState File :=
  match state.stdio.openUpdate (state.fileNamed fileOf filemd5) calls.fopen with
  | (none, stdio) => (false, { state with stdio := stdio })
  | (some fp, stdio) =>
      let opened := { state.session with fp := some fp }
      let sought := stdio.seekEnd fp calls.fseek
      if sought.1 = false then (false, { state with stdio := sought.2, session := opened })
      else
        let told := sought.2.tell fp calls.ftell
        let measured := { opened with currentDownloadFileSize := told.1 }
        if told.1 ≤ 0 then (false, { state with stdio := told.2, session := measured })
        else
          let rewound := told.2.seekSet fp 0 calls.fseekSet
          (rewound.1, { state with stdio := rewound.2, session := measured })

/-- How many bytes are sent at most. -/
def chunkSize (clientNetType : Int) : Int :=
  if clientNetType = clientNetTypeCellular then 64 * 1024 else 512 * 1024

/-- How many bytes are sent. -/
def currentSendSize (session : FileSession) (clientNetType : Int) : Int :=
  if session.currentDownloadFileSize ≤
      session.currentDownloadFileOffset + chunkSize clientNetType then
    session.currentDownloadFileSize - session.currentDownloadFileOffset
  else chunkSize clientNetType

/-- The buffer after `fread`: what a failed read leaves out is zero. -/
def readBuffer (stdio : Stdio File) (fp : Nat) (size : Int) (limit : Option Nat) :
    Bytes × Stdio File :=
  if size ≤ 0 then ([], stdio)
  else
    let read := stdio.read fp size.toNat limit
    (read.1 ++ List.replicate (size.toNat - read.1.length) 0, read.2)

/-- The next chunk is sent. A negative size ends the server in `append`. -/
def sendChunk (state : FileState File) (fp : Nat) (req : DownloadReq) (calls : Calls) :
    Reply × FileState File :=
  let size := currentSendSize state.session req.clientNetType
  if size < 0 then (⟨true, [], true⟩, state)
  else
    let read := readBuffer state.stdio fp size calls.fread
    let sendoffset := state.session.currentDownloadFileOffset.bmod (2 ^ 32)
    let offset := state.session.currentDownloadFileOffset + size
    let complete := offset = state.session.currentDownloadFileSize
    let advanced : FileState File :=
      { state with
        stdio := read.2
        session := { state.session with currentDownloadFileOffset := offset } }
    (⟨true,
      [⟨msgTypeDownloadResp, state.session.seq,
        if complete then fileMsgErrorComplete else fileMsgErrorProgress, req.filemd5, sendoffset,
        state.session.currentDownloadFileSize, read.1⟩],
      state.session.currentDownloadFileSize == 0⟩,
      if complete then advanced.resetFile else advanced)

def onDownloadFileResponse (state : FileState File) (req : DownloadReq) (calls : Calls) :
    Reply × FileState File :=
  if req.filemd5 = [] then (.refused, state)
  else
    let found := state.isFileExsit fileOf req.filemd5 calls
    if found.1 = false then
      (⟨true, [⟨msgTypeDownloadResp, state.session.seq, fileMsgErrorNotExist, req.filemd5,
        0, 0, []⟩], false⟩, found.2)
    else
      match found.2.session.fp with
      | some fp => found.2.sendChunk fp req calls
      | none =>
          let opened := found.2.openDownload fileOf req.filemd5 calls
          match opened.1, opened.2.session.fp with
          | true, some fp => opened.2.sendChunk fp req calls
          | _, _ => (.refused, opened.2)

/-! ### Process -/

/-- `process` on a request that was read: the sequence number is kept first, and
an empty name is refused. -/
def process [DecidableEq File] (state : FileState File) (request : Request) (calls : Calls) :
    Reply × FileState File :=
  match request with
  | .upload req =>
      let named := { state with session := { state.session with seq := req.seq } }
      if req.filemd5 = [] then (.refused, named)
      else named.onUploadFileResponse fileOf req calls
  | .download req =>
      let named := { state with session := { state.session with seq := req.seq } }
      if req.filemd5 = [] then (.refused, named)
      else named.onDownloadFileResponse fileOf req calls

end FileState

end AChat.FileServer

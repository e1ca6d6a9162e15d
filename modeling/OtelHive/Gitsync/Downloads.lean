import OtelHive.Gitsync.Providers
import OtelHive.Lib.Reader
import Mathlib.Data.List.DropRight

/-!
# `OtelHive.Gitsync.Downloads`: bodies that arrive in reads

`internal/gitsync/providers`, with the bodies of the answers as streams, and the generic HTTP
provider. The network is a parameter: what a request brings is a status and a stream that can
break off. The JSON decoder is a parameter too. It reads one value with a scanner, as
`json.Decoder` does, and then unmarshals its bytes.

The clients of the hosting APIs are those of `OtelHive.Gitsync.Providers`. GitLab and Gitea read
a raw file in a loop of their own, which drops the error of the last read (`Answer.response`).
-/

set_option autoImplicit false

namespace OtelHive.Gitsync.Providers

open OtelHive.Lib
open OtelHive.Lib.Url

/-! ### Answers on their way -/

/-- An answer: its status, and its body as it arrives. -/
structure Answer where
  status : Nat
  body : Stream
deriving DecidableEq

/-- `json.Decoder`. -/
structure Decoder where
  scanner : Scanner
  unmarshal : Bytes → Option Json

/-- `Decode`: a value, or an error. -/
def Decoder.decode (dec : Decoder) (s : Stream) : Option Json :=
  (dec.scanner.readValue s.stop dec.scanner.start [] s.reads s.last).bind dec.unmarshal

namespace Answer

/-- What the clients of the hosting APIs get from an answer: the bytes that the read loop
collects, and what the decoder decodes. -/
def response (dec : Decoder) (ans : Answer) : Response where
  status := ans.status
  body := readUntilError [] ans.body.reads ans.body.last
  json := dec.decode ans.body

/-- The same answer, with the whole body. -/
def whole (ans : Answer) : Answer := { ans with body := .whole ans.body.body }

end Answer

/-- The errors of a request for the URL of a generic HTTP provider. -/
inductive HttpError where
  /-- `http.NewRequestWithContext` refuses the URL. -/
  | newRequest
  | transport (text : String)
  /-- `"HTTP GET <rawURL>: status <status>"`. -/
  | status (rawURL : String) (status : Nat)
  /-- The error of a read. -/
  | read (text : String)
deriving DecidableEq

/-- The network: the answers to the requests of the clients of the hosting APIs, and to the
requests for a URL. -/
structure Network where
  api : Target → Except String Answer
  get : String → Except HttpError Answer

namespace Network

/-- The hosting API, as the clients see it. -/
def responses (net : Network) (dec : Decoder) : Api := fun target =>
  (net.api target).map (Answer.response dec)

/-- The same network, with every body whole. -/
def whole (net : Network) : Network where
  api := fun target => (net.api target).map Answer.whole
  get := fun rawURL => (net.get rawURL).map Answer.whole

end Network

/-! ### The generic HTTP provider -/

/-- `HTTP`. -/
structure HTTP where
  rawURL : String
deriving DecidableEq

namespace HTTP

variable (h : HTTP)

/-- `LatestCommitSHA`: no SHA. -/
def latestCommitSHA (_branch : String) : Except HttpError String := .ok ""

/-- The name of the file: the last segment of the URL. -/
def name : List Char :=
  let parts := (h.rawURL.toList.rdropWhile (· == '/')).splitOn '/'
  let name := parts.getLastD []
  if name = [] then "collector.yaml".toList else name

/-- `ListFiles`: one file, directly below the root. -/
def listFiles (_branch rootPath : String) : Except HttpError (List FileEntry) :=
  .ok [{ path := String.ofList (trimSuffix rootPath.toList ['/'] ++ ['/'] ++ h.name), sha := "" }]

/-- `FetchFile`: the file at the URL. -/
def fetchFile (net : Network) (_path _sha : String) : Except HttpError Bytes :=
  match net.get h.rawURL with
  | .error err => .error err
  | .ok ans =>
    if ans.status ≥ 400 then .error (.status h.rawURL ans.status)
    else (readAll ans.body.stop [] ans.body.reads ans.body.last).mapError .read

end HTTP

/-! ### The interface -/

/-- `Provider`. -/
inductive Provider where
  | client (c : Client)
  | http (h : HTTP)
deriving DecidableEq

/-- The errors of `FetchFile`. -/
inductive FetchError where
  | client (err : ProviderError)
  | http (err : HttpError)
deriving DecidableEq

/-- `FetchFile`. -/
def Provider.fetchFile (p : Provider) (dec : Decoder) (net : Network) (path sha : String) :
    Except FetchError Bytes :=
  match p with
  | .client c => (c.fetchFile (net.responses dec) path sha).mapError .client
  | .http h => (h.fetchFile net path sha).mapError .http

end OtelHive.Gitsync.Providers

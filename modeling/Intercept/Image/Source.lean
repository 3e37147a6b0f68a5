/-
# Opening source images

An image to scale lies on the disk, or on another server.  Either way it is opened as a stream,
with the length that is announced for it, which may be missing or wrong.
-/
import Intercept.Config.Settings
import Intercept.Site
import Intercept.Backend

namespace Intercept

/-- An opened image. -/
structure SourceImage where
  stream : Stream String
  /-- The length that is announced. -/
  declared : Option Nat
deriving DecidableEq, Repr, Inhabited

/-- Why an image cannot be opened. -/
inductive SourceError where
  /-- The server answers with another status than 200. -/
  | status (location : String) (status : Status)
  | connectTimeout (location : String)
  | headerTimeout (location : String) (seconds : Nat)
  | fetch (location : String) (cause : String)
  | file (path : String) (cause : SystemError)
deriving DecidableEq, Repr, Inhabited

/-- The text of an error. -/
def SourceError.message : SourceError → String
  | .status location found =>
    "cannot read data from " ++ Text.quoted location ++ ": " ++ found.text
  | .connectTimeout location => "connecting to " ++ Text.quoted location ++ " timed out"
  | .headerTimeout location seconds =>
    "no response headers from " ++ Text.quoted location ++ " within "
      ++ Duration.shownSeconds seconds
  | .fetch location cause => "fetching " ++ Text.quoted location ++ ": " ++ cause
  | .file path cause => "opening " ++ Text.quoted path ++ ": " ++ cause.message

namespace SourceImage

/-- Whether a location is on another server. -/
def isRemote (location : String) : Bool :=
  "http://".toList.isPrefixOf location.toList || "https://".toList.isPrefixOf location.toList

/-- How many redirections are followed. -/
def maxRedirects : Nat := 10

/-- Whether a status sends a client on to another address. -/
def isRedirect (status : Status) : Bool := [301, 302, 303, 307, 308].contains status

/-- The address that an answer sends on to. -/
def nextAddress? (address : WebAddress) (head : Head) : Option WebAddress :=
  if isRedirect head.status then
    (head.headers.text? (Utf8.encode "location")).bind address.resolve?
  else none

/-- What an answer at the end of all redirections means. -/
def judge (location : String) (response : Response) (length : Option Nat) :
    Except SourceError SourceImage :=
  if response.head.status = 200 then .ok ⟨response.body, length⟩
  else .error (.status location response.head.status)

/-- Fetches an image, following at most `room` redirections. -/
def fetchFrom (web : Web) (settings : Config.Fetch) (location : String) :
    Nat → WebAddress → Run (Except SourceError SourceImage)
  | room, address => do
    let failed (what : String) : Except SourceError SourceImage :=
      .error (.fetch location (what ++ " for url (" ++ address.text ++ ")"))
    match web address with
    | .unreachable _ => return failed "error sending request"
    | .stalled => return .error (.connectTimeout location)
    | .silent =>
      Site.noteFetched address
      return .error (.headerTimeout location settings.headerTimeout)
    | .answered response length =>
      Site.noteFetched address
      if settings.headerTimeout = 0 then
        return .error (.headerTimeout location settings.headerTimeout)
      else
        match nextAddress? address response.head with
        | none => return judge location response length
        | some next =>
          match room with
          | 0 => return failed "error following redirect"
          | room + 1 => fetchFrom web settings location room next

/-- Fetches an image. -/
def fetch (web : Web) (settings : Config.Fetch) (location : String) :
    Run (Except SourceError SourceImage) :=
  match WebAddress.parse? location with
  | none => pure (.error (.fetch location "builder error"))
  | some address => fetchFrom web settings location maxRedirects address

/-- The length that is announced for a folder. -/
def folderLength : Nat := 4096

/-- Opens an image on the disk. -/
def openFile (disk : Disk) (path : String) : Except SourceError SourceImage :=
  match disk.openPath path with
  | .error cause => .error (.file path cause)
  | .ok (.file bytes) => .ok ⟨Stream.once bytes, some bytes.length⟩
  | .ok .folder => .ok ⟨[.fault SystemError.isAFolder.message], some folderLength⟩

/-- Opens an image. -/
def openAt (web : Web) (settings : Config.Fetch) (location : String) :
    Run (Except SourceError SourceImage) := do
  if isRemote location then fetch web settings location
  else return openFile (← get).disk location

end SourceImage

end Intercept

import UmlPress.Journal
import UmlPress.Misuse
import UmlPress.Source.Address
import UmlPress.Source.Body
import UmlPress.Store.Disk
import UmlPress.Text.Case

/-!
# Loading a document

A document comes from a file or from an address, never from both. Loading
answers the source's name and the object found there, or the first reason why
there is none.
-/
namespace UmlPress.Source

/-- What asking an address may lead to. -/
inductive Reply where
  | timeout
  | noConnection (text : String)
  /-- A failure that should have carried a status and has none. -/
  | noStatus
  | failed (text : String)
  | response (code : Int) (body : List UInt8)

inductive Fault where
  | noSource
  | twoSources
  | notFound (path : Path)
  | badForm (path : Path) (fault : Json.Fault)
  | unreadable (path : Path) (refusal : Disk.Refusal)
  | invalidAddress (address : String)
  | timeout (address : String)
  | noConnection (address : String)
  | status (code : Int) (address : String)
  | badReply (address : String) (fault : Json.Fault)
  | failed (address text : String)
  | notObject (source : String)
  | undecodable (fault : Text.Utf8.Fault)
  | longInteger (fault : Json.Fault)
  | badAddress (fault : AddressFault)
  | unaskable (path : Path) (refusal : Disk.Refusal)
  | misuse (m : Misuse)

def Fault.message : Fault → String
  | .noSource => "Either file_path or url must be provided"
  | .twoSources => "Cannot specify both file_path and url"
  | .notFound path => s!"File not found: {path.text}"
  | .badForm path fault => s!"Invalid JSON in file {path.text}: {fault.message}"
  | .unreadable path refusal =>
    s!"Error reading file {path.text}: {refusal.describe path.text}"
  | .invalidAddress address => s!"Invalid URL: {address}"
  | .timeout address => s!"Request timeout for URL: {address}"
  | .noConnection address => s!"Connection error for URL: {address}"
  | .status code address => s!"HTTP error {code} for URL: {address}"
  | .badReply address fault => s!"Invalid JSON response from URL {address}: {fault.message}"
  | .failed address text => s!"Request error for URL {address}: {text}"
  | .notObject source => s!"Model document must be a JSON object: {source}"
  | .undecodable fault => fault.message
  | .longInteger fault => fault.message
  | .badAddress fault => fault.message
  | .unaskable path refusal => refusal.describe path.text
  | .misuse m => m.message

structure Loaded where
  source : String
  document : Entries

abbrev Loading := Noted Fault

def writer : String := "umlgen.utils"

def debug (text : String) : Loading Unit := Noted.note (.debug writer text)
def info (text : String) : Loading Unit := Noted.note (.info writer text)
def warn (text : String) : Loading Unit := Noted.note (.warning writer text)

/-- Fails with a fault after a note of its own wording. -/
def giveUp {α : Type} (text : String) (fault : Fault) : Loading α := do
  Noted.note (.error writer text)
  throw fault

def requireObject (source : String) : Json → Loading Loaded
  | .object es => return ⟨source, es⟩
  | _ => giveUp s!"Model document is not a JSON object: {source}" (.notObject source)

/-- Suffixes that a document's file should have, in lower case. -/
def suffixes : List (List Char) := [".mdj".toList, ".json".toList]

/-- The value of a file's content. -/
def ofContent (path : Path) (content : Content) : Loading Json :=
  match content.read with
  | .error f => throw (.undecodable f)
  | .ok cs =>
    match Json.parse cs with
    | .ok v => return v
    | .error f =>
      if f.isForm then
        giveUp s!"Invalid JSON in file {path.text}: {f.message}" (.badForm path f)
      else throw (.longInteger f)

/-- The document of a file, given what was found at its path. -/
def fromFile (path : Path) (found : Except Disk.Refusal Item) : Loading Loaded := do
  debug s!"Attempting to load model from file: {path.text}"
  match found with
  | .error r =>
    if r.isAbsent then giveUp s!"File not found: {path.text}" (.notFound path)
    else throw (.unaskable path r)
  | .ok item =>
    if !suffixes.contains (Text.lower path.suffix) then
      warn s!"File does not have a model extension: {path.text}"
    match item with
    | .directory =>
      let refusal := Disk.Refusal.isDirectory
      giveUp s!"Error reading file {path.text}: {refusal.describe path.text}"
        (.unreadable path refusal)
    | .file content =>
      let v ← ofContent path content
      info s!"Successfully loaded model from {path.text}"
      requireObject path.text v

/-- The value in a reply. -/
def ofReply (address : String) : Reply → Loading Json
  | .timeout => giveUp s!"Request timeout for URL: {address}" (.timeout address)
  | .noConnection text =>
    giveUp s!"Connection error for URL {address}: {text}" (.noConnection address)
  | .noStatus => throw (.misuse (.noMember "NoneType" "status_code"))
  | .failed text => giveUp s!"Request error for URL {address}: {text}" (.failed address text)
  | .response code body =>
    if 400 ≤ code ∧ code < 600 then
      giveUp s!"HTTP error {code} for URL: {address}" (.status code address)
    else match Json.parse (bodyText body) with
      | .ok v => return v
      | .error f =>
        if f.isForm then
          giveUp s!"Invalid JSON response from URL {address}: {f.message}" (.badReply address f)
        else throw (.longInteger f)

/-- Whether an address can be asked at all. -/
def checkAddress (address : String) : Loading Unit := do
  debug s!"Attempting to load model from URL: {address}"
  match Address.parse address.toList with
  | .error f => throw (.badAddress f)
  | .ok a =>
    if !a.isComplete then
      giveUp s!"Invalid URL format: {address}" (.invalidAddress address)

def fromReply (address : String) (reply : Reply) : Loading Loaded := do
  let v ← ofReply address reply
  info s!"Successfully loaded model from {address}"
  requireObject address v

def fromAddress (address : String) (reply : Reply) : Loading Loaded := do
  checkAddress address
  fromReply address reply

/-- An empty name counts as none given. -/
def given : Option String → Option String
  | some "" => none
  | r => r

def load (file address : Option String) (found : Path → Except Disk.Refusal Item)
    (reply : Reply) : Loading Loaded :=
  match given file, given address with
  | none, none => giveUp "Neither file_path nor url provided" .noSource
  | some _, some _ => giveUp "Both file_path and url provided" .twoSources
  | some name, none => fromFile (.ofString name) (found (.ofString name))
  | none, some name => fromAddress name reply

end UmlPress.Source

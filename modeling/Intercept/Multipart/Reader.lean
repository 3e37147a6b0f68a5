/-
# Reading a form

A form is a sequence of parts between delimiters.  It is read as it arrives: before each step all
data that is ready is taken in, up to the next pause, and while data pauses, what cannot belong
to a delimiter is passed on.  So it depends on the pauses how the data of a part is cut into
pieces, and which of two faults is met first.

`Form.read` gives the parts of a form as far as it can be read, and the fault that ended the
reading early.  `Form.readNamed` skips the parts that have no name: their data is gone through
in one go with the delimiter behind it.
-/
import Intercept.Multipart.Disposition
import Intercept.Multipart.HeaderBlock
import Intercept.Stream
import Intercept.Text.Quoted

namespace Intercept

/-- Why a form cannot be read on. -/
inductive FormError where
  /-- A delimiter, or the headers of a part, are missing or malformed. -/
  | incomplete
  /-- The headers of a part are malformed. -/
  | badHeaders
  /-- The data of a part, named if it has a name, does not end. -/
  | incompleteData (name : Option String)
  /-- The form is larger than the limit. -/
  | tooLarge (limit : Nat)
  /-- The stream that the form arrives in has a fault. -/
  | broken
deriving DecidableEq, Repr, Inhabited

/-- The text of an error. -/
def FormError.message : FormError → String
  | .incomplete => "incomplete multipart stream"
  | .badHeaders => "failed to read headers"
  | .incompleteData name =>
    "field " ++ Text.quoted (name.getD "<unknown>") ++ " received with incomplete data"
  | .tooLarge limit => "stream size exceeded limit: " ++ toString limit ++ " bytes"
  | .broken => "failed to read stream"

/-- A part of a form, as far as its data could be read. -/
structure Part where
  headers : Headers
  /-- The data in the pieces in which it is passed on. -/
  pieces : List Bytes
  /-- Why the data ends early. -/
  fault : Option FormError
deriving DecidableEq, Repr, Inhabited

/-- A form, as far as it could be read. -/
structure Form where
  parts : List Part
  /-- Why there are no more parts, if not because the form ends.  If the data of the last part
  ends early, the error is the same. -/
  fault : Option FormError
deriving DecidableEq, Repr, Inhabited

/-- The name of a part. -/
def Part.name? (part : Part) : Option String := Disposition.fieldName? part.headers

/-- The name of the file in a part. -/
def Part.fileName? (part : Part) : Option String := Disposition.fileName? part.headers

/-- All data of a part. -/
def Part.data (part : Part) : Bytes := part.pieces.flatten

namespace Form

/-- What a form is read with. -/
structure Settings where
  boundary : Bytes
  /-- The largest number of bytes. -/
  limit : Nat
deriving DecidableEq, Repr, Inhabited

/-- A form in the course of being read. -/
structure Reader where
  /-- The bytes that were taken in and not used. -/
  buffer : Bytes
  /-- What was not taken in yet. -/
  rest : Stream String
  /-- Whether the end of the stream was seen. -/
  ended : Bool
  /-- How many bytes were taken in. -/
  size : Nat
deriving Inhabited

/-- The two bytes that end a line. -/
def lineBreak : Bytes := [13, 10]

/-- The two dashes before a boundary, and behind the last one. -/
def dashes : Bytes := [45, 45]

/-- The delimiter at the start of a line. -/
def Settings.delimiter (settings : Settings) : Bytes := dashes ++ settings.boundary

/-- The delimiter together with the line break that ends the data before it. -/
def Settings.dataEnd (settings : Settings) : Bytes := lineBreak ++ settings.delimiter

/-! ### Taking in what is ready -/

/-- The pieces up to the next pause, with the number of bytes taken in so far, and what is behind
the pause, or nothing at the end of the stream.  `done` holds the pieces before, the last one
first. -/
def ready (limit : Nat) : List Bytes → Nat → Stream String →
    Except FormError (List Bytes × Nat × Option (Stream String))
  | done, size, [] => .ok (done.reverse, size, none)
  | done, size, .pause :: rest => .ok (done.reverse, size, some rest)
  | _, _, .fault _ :: _ => .error .broken
  | done, size, .piece bytes :: rest =>
    if limit < size + bytes.length then .error (.tooLarge limit)
    else ready limit (bytes :: done) (size + bytes.length) rest

/-- Takes in all data that is ready. -/
def Reader.fill (limit : Nat) (reader : Reader) : Except FormError Reader :=
  if reader.ended then .ok reader
  else (ready limit [] reader.size reader.rest).map fun (pieces, size, rest) =>
    ⟨reader.buffer ++ pieces.flatten, rest.getD [], rest.isNone, size⟩

/-- The reader with other bytes in its buffer. -/
def Reader.with (reader : Reader) (buffer : Bytes) : Reader := { reader with buffer }

/-! ### Passing on data -/

/-- What the data in the buffer allows. -/
inductive Passing where
  /-- The rest of the data; the reader then stands at a delimiter. -/
  | last (bytes : Bytes) (reader : Reader)
  /-- A piece that belongs to no delimiter. -/
  | more (bytes : Bytes) (reader : Reader)
  /-- More data is needed. -/
  | wait (reader : Reader)
  /-- The data does not end. -/
  | failed
deriving Inhabited

/-- The place of the last carriage return among the last `n` bytes. -/
def lastReturn? (n : Nat) (buffer : Bytes) : Option Nat :=
  let start := buffer.length - n
  (Bytes.indexOf? [13] ((buffer.drop start).reverse)).map fun i => buffer.length - 1 - i

/-- Passes on data from the buffer.  From the last carriage return on it is kept if it may be the
beginning of a delimiter. -/
def pass (settings : Settings) (reader : Reader) : Passing :=
  let buffer := reader.buffer
  if buffer.isEmpty then if reader.ended then .failed else .wait reader
  else
    match Bytes.cutBefore? settings.dataEnd buffer with
    | some (data, rest) => .last data (reader.with (rest.drop lineBreak.length))
    | none =>
      if reader.ended then .failed
      else
        match lastReturn? (settings.dataEnd.length - 1) buffer with
        | some place =>
          if Bytes.occursIn (buffer.drop place) settings.dataEnd then
            if place = 0 then .wait reader
            else .more (buffer.take place) (reader.with (buffer.drop place))
          else .more buffer (reader.with [])
        | none => .more buffer (reader.with [])

/-! ### From one part to the next -/

/-- Where a reader stands between two parts. -/
inductive Stage where
  /-- Before the first delimiter. -/
  | preamble
  /-- At a delimiter. -/
  | delimiter
  /-- Behind a delimiter. -/
  | ending
  /-- Behind a delimiter that does not end the form. -/
  | padding
  /-- At the headers of a part. -/
  | headers
  /-- In the data of a part that nobody wants, and its name. -/
  | unwanted (name : Option String)
deriving DecidableEq, Repr, Inhabited

/-- What comes of reading on at a stage. -/
inductive Progress where
  /-- The headers of the next part, at whose data the reader now stands. -/
  | part (headers : Headers) (reader : Reader)
  /-- The end of the form. -/
  | finished
  /-- More data is needed. -/
  | wait (stage : Stage) (reader : Reader)
  | failed (error : FormError)
deriving Inhabited

/-- Waits for more data, unless the stream has ended. -/
def Progress.need (stage : Stage) (reader : Reader) : Progress :=
  if reader.ended then .failed .incomplete else .wait stage reader

/-- Reads the headers of a part. -/
def readHeaders (reader : Reader) : Progress :=
  match Bytes.cutBehind? (lineBreak ++ lineBreak) reader.buffer with
  | none => .need .headers reader
  | some (block, rest) =>
    match HeaderBlock.parse? block with
    | some headers => .part headers (reader.with rest)
    | none => .failed .badHeaders

/-- Reads the blanks behind a delimiter and the line break behind them. -/
def readPadding (reader : Reader) : Progress :=
  let reader := reader.with (reader.buffer.dropWhile HeaderBlock.isBlank)
  match reader.buffer with
  | [] | [_] => .need .padding reader
  | a :: b :: rest =>
    if [a, b] = lineBreak then readHeaders (reader.with rest) else .failed .incomplete

/-- Looks whether a delimiter is the last one. -/
def readEnding (reader : Reader) : Progress :=
  match reader.buffer with
  | [] | [_] => .need .ending reader
  | a :: b :: _ => if [a, b] = dashes then .finished else readPadding reader

/-- Reads a delimiter. -/
def readDelimiter (settings : Settings) (reader : Reader) : Progress :=
  let found := reader.buffer.take settings.delimiter.length
  if found.length < settings.delimiter.length then .need .delimiter reader
  else if found = settings.delimiter then readEnding (reader.with (reader.buffer.drop found.length))
  else .failed .incomplete

/-- Searches the first delimiter and reads it. -/
def search (settings : Settings) (reader : Reader) : Progress :=
  match Bytes.cutBefore? settings.delimiter reader.buffer with
  | some (_, rest) => readDelimiter settings (reader.with rest)
  | none => .need .preamble reader

/-- Searches the first delimiter.  If it is not there, more data is taken in at once, which is
searched in the next step.  If that was the last data there is no next step, and it is searched at
once: as the format has it, a form is incomplete here only if it has no delimiter.  This is taken
from the format and not from a parser, which may as well give up when it sees the end.  The two
differ only where bytes come together with the end between the two takings in of one step. -/
def readPreamble (settings : Settings) (reader : Reader) : Progress :=
  if Bytes.occursIn settings.delimiter reader.buffer then search settings reader
  else
    match reader.fill settings.limit with
    | .error error => .failed error
    | .ok reader => if reader.ended then search settings reader else .wait .preamble reader

/-- Skips data that nobody wants, and reads the delimiter behind it. -/
def skip (settings : Settings) (name : Option String) (reader : Reader) : Progress :=
  match pass settings reader with
  | .last _ reader => readDelimiter settings reader
  | .more _ reader | .wait reader => .wait (.unwanted name) reader
  | .failed => .failed (.incompleteData name)

/-- Reads on at a stage. -/
def resume (settings : Settings) : Stage → Reader → Progress
  | .preamble => readPreamble settings
  | .delimiter => readDelimiter settings
  | .ending => readEnding
  | .padding => readPadding
  | .headers => readHeaders
  | .unwanted name => skip settings name

/-- Reads up to the data of the next part; nothing at the end of the form.  Every round takes in
data, so there are at most as many rounds as pauses and one more. -/
def nextPart (settings : Settings) : Nat → Stage → Reader →
    Except FormError (Option (Headers × Reader))
  | 0, _, _ => .error .incomplete
  | fuel + 1, stage, reader =>
    match reader.fill settings.limit with
    | .error error => .error error
    | .ok reader =>
      match resume settings stage reader with
      | .part headers reader => .ok (some (headers, reader))
      | .finished => .ok none
      | .wait stage reader => nextPart settings fuel stage reader
      | .failed error => .error error

/-! ### The data of a part -/

/-- Reads the data of a part: its pieces, and the reader at the delimiter behind it or the error
that was met. -/
def readData (settings : Settings) (name : Option String) : Nat → Reader →
    List Bytes × Except FormError Reader
  | 0, _ => ([], .error (.incompleteData name))
  | fuel + 1, reader =>
    match reader.fill settings.limit with
    | .error error => ([], .error error)
    | .ok reader =>
      match pass settings reader with
      | .last bytes reader => ([bytes], .ok reader)
      | .more bytes reader =>
        let (pieces, found) := readData settings name fuel reader
        (bytes :: pieces, found)
      | .wait reader => readData settings name fuel reader
      | .failed => ([], .error (.incompleteData name))

/-! ### The whole form -/

/-- Reads all parts that are wanted from a stage on. -/
def readParts (settings : Settings) (isWanted : Headers → Bool) : Nat → Stage → Reader → Form
  | 0, _, _ => ⟨[], some .incomplete⟩
  | fuel + 1, stage, reader =>
    match nextPart settings (reader.rest.length + 2) stage reader with
    | .error error => ⟨[], some error⟩
    | .ok none => ⟨[], none⟩
    | .ok (some (headers, reader)) =>
      let name := Disposition.fieldName? headers
      if isWanted headers then
        match readData settings name (reader.rest.length + 2) reader with
        | (pieces, .error error) => ⟨[⟨headers, pieces, some error⟩], some error⟩
        | (pieces, .ok reader) =>
          let form := readParts settings isWanted fuel .delimiter reader
          ⟨⟨headers, pieces, none⟩ :: form.parts, form.fault⟩
      else readParts settings isWanted fuel (.unwanted name) reader

/-- How many bytes a stream holds. -/
def streamSize : Stream String → Nat
  | [] => 0
  | .piece bytes :: rest => bytes.length + streamSize rest
  | _ :: rest => streamSize rest

/-- Reads the parts of a form that are wanted.  Every part takes at least a byte. -/
def readWhere (settings : Settings) (isWanted : Headers → Bool) (stream : Stream String) : Form :=
  readParts settings isWanted (streamSize stream + 2) .preamble ⟨[], stream, false, 0⟩

/-- Reads all parts of a form. -/
def read (settings : Settings) (stream : Stream String) : Form :=
  readWhere settings (fun _ => true) stream

/-- Whether headers give a part a name. -/
def isNamed (headers : Headers) : Bool :=
  (Disposition.fieldName? headers).any fun name => !name.isEmpty

/-- Reads the parts of a form that have a name. -/
def readNamed (settings : Settings) (stream : Stream String) : Form :=
  readWhere settings isNamed stream

end Form

end Intercept
